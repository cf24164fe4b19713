import Fingerprints.Runs.History

/-!
# Runs that reach back behind a restart

A system that is started again and again, and whose steps can bring back something that outlived
the restarts: which ones are possible depends on all states that the system was in before.
`recalling` adds this to a system.

* **`Run.recalled_invariant`**: an invariant of the system holds of all of these states;
* **`Run.recalled_iff`**: a property of all of them that an event keeps exactly when it is of a
  kind holds exactly when all events are of that kind;
* **`Run.recalled_mono`**: what the states admit, in a run, may be narrowed to what it uses.
-/

namespace Runs

variable {σ ε : Type*}

/-- A state, and those that the system was in before it, the latest first. -/
structure Recalled (σ : Type*) where
  current : σ
  past : List σ

/-- All states up to now. -/
def Recalled.states (r : Recalled σ) : List σ := r.current :: r.past

namespace System

/-- The system with restarts, for which no event stands, and with those steps that the states up to
then admit. -/
def recalling (S : System σ ε) (Q : List σ → ε → Prop) : System (Recalled σ) (Option ε) where
  init r := S.init r.current ∧ r.past = []
  step r e r' := r'.past = r.states ∧
    match e with
    | some e => S.step r.current e r'.current ∧ Q r.states e
    | none => S.init r'.current

variable {S : System σ ε} {Q : List σ → ε → Prop}

theorem states_of_init {r : Recalled σ} (h : (S.recalling Q).init r) : r.states = [r.current] := by
  rw [Recalled.states, h.2]

theorem states_of_step {r r' : Recalled σ} {e : Option ε} (h : (S.recalling Q).step r e r') :
    r'.states = r'.current :: r.states := by
  rw [Recalled.states, h.1]

/-- What holds where the system starts, and is kept by its steps, holds of all states up to now.
Induction on the run. -/
theorem Run.recalled_invariant {J : σ → Prop} (hinit : ∀ s, S.init s → J s)
    (hstep : ∀ s e s', J s → S.step s e s' → J s') {history : List (Option ε)} {r : Recalled σ}
    (hrun : (S.recalling Q).Run history r) : ∀ s ∈ r.states, J s := by
  induction hrun with
  | init hstart =>
    rw [states_of_init hstart]
    exact List.forall_mem_singleton.mpr (hinit _ hstart.1)
  | @step _ r r' e _ hlast ih =>
    rw [states_of_step hlast, List.forall_mem_cons]
    refine ⟨?_, ih⟩
    cases e with
    | none => exact hinit _ hlast.2
    | some e => exact hstep _ e _ (ih r.current List.mem_cons_self) hlast.2.1

/-- A property that holds where the system starts, and that an event keeps exactly when it is of a
kind, holds of all states up to now exactly when all events are of that kind. Induction on the
run. -/
theorem Run.recalled_iff {I : σ → Prop} {K : ε → Prop} (hinit : ∀ s, S.init s → I s)
    (hstep : ∀ history r e s', (S.recalling Q).Run history r → (∀ s ∈ r.states, I s) →
      S.step r.current e s' → Q r.states e → (I s' ↔ K e))
    {history : List (Option ε)} {r : Recalled σ} (hrun : (S.recalling Q).Run history r) :
    (∀ s ∈ r.states, I s) ↔ ∀ e, some e ∈ history → K e := by
  induction hrun with
  | init hstart =>
    rw [states_of_init hstart]
    refine iff_of_true (List.forall_mem_singleton.mpr (hinit _ hstart.1)) ?_
    intro e he
    cases he
  | @step history r r' e hrun hlast ih =>
    rw [states_of_step hlast, List.forall_mem_cons]
    cases e with
    | none =>
      -- a restart is as good as the start
      simp [ih, hinit _ hlast.2]
    | some e =>
      have hlater : (∀ e', some e' ∈ some e :: history → K e') ↔
          K e ∧ ∀ e', some e' ∈ history → K e' := by
        simp
      rw [hlater, ← ih]
      constructor
      · intro ⟨hnow, hbefore⟩
        exact ⟨(hstep _ _ _ _ hrun hbefore hlast.2.1 hlast.2.2).mp hnow, hbefore⟩
      · intro ⟨hkeeps, hbefore⟩
        exact ⟨(hstep _ _ _ _ hrun hbefore hlast.2.1 hlast.2.2).mpr hkeeps, hbefore⟩

/-- A run whose events are admitted in a narrower sense too. Induction on the run, whose states are
among those at its end. -/
theorem Run.recalled_mono {Q' : List σ → ε → Prop} {history : List (Option ε)} {r : Recalled σ}
    (hrun : (S.recalling Q).Run history r)
    (hQ : ∀ e, some e ∈ history → ∀ states ⊆ r.states, Q states e → Q' states e) :
    (S.recalling Q').Run history r := by
  induction hrun with
  | init hstart => exact .init hstart
  | @step history r r' e hrun hlast ih =>
    have hstates := states_of_step hlast
    have hbefore : r.states ⊆ r'.states := by
      rw [hstates]
      exact List.subset_cons_self _ _
    refine .step (ih ?_) ?_
    · intro e' he' states hsub
      exact hQ e' (List.mem_cons_of_mem _ he') states (List.Subset.trans hsub hbefore)
    · cases e with
      | none => exact hlast
      | some e =>
        obtain ⟨hpast, hstep, hadmits⟩ := hlast
        exact ⟨hpast, hstep, hQ e List.mem_cons_self _ hbefore hadmits⟩

/-- A run of the system itself is one without restarts, where its events are admitted. Induction on
the run. -/
theorem Run.recalled {history : List ε} {s : σ} (hrun : S.Run history s)
    (hQ : ∀ e ∈ history, ∀ states, Q states e) :
    ∃ past, (S.recalling Q).Run (history.map some) { current := s, past := past } := by
  induction hrun with
  | init hstart => exact ⟨[], .init ⟨hstart, rfl⟩⟩
  | @step history s s' e _ hlast ih =>
    rw [List.forall_mem_cons] at hQ
    obtain ⟨past, hrun⟩ := ih hQ.2
    exact ⟨s :: past, .step hrun ⟨rfl, hlast, hQ.1 _⟩⟩

end System

end Runs
