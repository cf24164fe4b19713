import Fingerprints.Runs.History

/-!
# Fair executions

An execution of a system goes on for ever: in each of its moments the system takes a step or rests. It
is fair to the events of a kind if such an event comes whenever one stays possible from some moment on.

* **`Execution.run`**: every state of an execution is reached by a run, so what holds of runs holds in
  it;
* **`Execution.eventually_of_rank`**: what lowers a rank with every event of the kind, and raises it
  with none, comes about in a fair execution;
* **`Run.exists_fair`**: a run that ends where no event of the kind is possible goes on as a fair
  execution that rests there.
-/

namespace Runs

variable {σ ε : Type*}

/-- The states that a system goes through, and the events between them, `none` where it rests. -/
structure System.Execution (S : System σ ε) where
  state : ℕ → σ
  event : ℕ → Option ε
  start : S.init (state 0)
  rests : ∀ n, event n = none → state (n + 1) = state n
  steps : ∀ n e, event n = some e → S.step (state n) e (state (n + 1))

namespace System

variable {S : System σ ε}

/-- An event of a kind is possible. -/
def Enabled (S : System σ ε) (K : ε → Prop) (s : σ) : Prop := ∃ e s', K e ∧ S.step s e s'

namespace Execution

/-- Weak fairness: what stays possible is done. -/
def Fair (x : S.Execution) (K : ε → Prop) : Prop :=
  ∀ n, (∀ m, n ≤ m → S.Enabled K (x.state m)) → ∃ m e, n ≤ m ∧ x.event m = some e ∧ K e

/-- Every state of an execution is reached. Induction on the moment. -/
theorem run (x : S.Execution) (n : ℕ) : ∃ history, S.Run history (x.state n) := by
  induction n with
  | zero => exact ⟨[], .init x.start⟩
  | succ n ih =>
    obtain ⟨history, hrun⟩ := ih
    cases hevent : x.event n with
    | none =>
      rw [x.rests n hevent]
      exact ⟨history, hrun⟩
    | some e => exact ⟨e :: history, hrun.step (x.steps n e hevent)⟩

/-- What every step keeps holds from a moment on. Induction on the later moments. -/
theorem invariant_from (x : S.Execution) {P : σ → Prop} {n : ℕ} (hn : P (x.state n))
    (hstep : ∀ m e, n ≤ m → P (x.state m) → x.event m = some e → P (x.state (m + 1)))
    {m : ℕ} (hm : n ≤ m) : P (x.state m) := by
  induction m, hm using Nat.le_induction with
  | base => exact hn
  | succ m hm ih =>
    cases hevent : x.event m with
    | none =>
      rw [x.rests m hevent]
      exact ih
    | some e => exact hstep m e hm ih hevent

variable {K : ε → Prop} {P Q : σ → Prop}

/-- While a goal is not reached an event of the kind is possible and lowers the rank, and no other one
raises it. So the goal is reached. Induction on the rank. -/
theorem eventually_of_rank (x : S.Execution) (hfair : x.Fair K) (rank : σ → ℕ)
    (henabled : ∀ history s, S.Run history s → P s → ¬ Q s → S.Enabled K s)
    (hkeeps : ∀ history s e s', S.Run history s → P s → ¬ Q s → S.step s e s' →
      P s' ∧ rank s' ≤ rank s ∧ (K e → rank s' < rank s))
    {n : ℕ} (hn : P (x.state n)) : ∃ m, n ≤ m ∧ Q (x.state m) := by
  generalize hrank : rank (x.state n) = r
  induction r using Nat.strong_induction_on generalizing n with
  | _ r ih =>
    by_contra hnever
    have hnot : ∀ m, n ≤ m → ¬ Q (x.state m) := by
      intro m hm hgoal
      exact hnever ⟨m, hm, hgoal⟩
    -- until the goal is reached the rank stays under what it is now
    have hbelow : ∀ m, n ≤ m → P (x.state m) ∧ rank (x.state m) ≤ r := by
      intro m hm
      apply x.invariant_from (P := fun s => P s ∧ rank s ≤ r) ⟨hn, hrank.le⟩ _ hm
      intro k e hk hnow hevent
      obtain ⟨history, hrun⟩ := x.run k
      have hnext := hkeeps history _ e _ hrun hnow.1 (hnot k hk) (x.steps k e hevent)
      exact ⟨hnext.1, hnext.2.1.trans hnow.2⟩
    obtain ⟨k, e, hk, hevent, hkind⟩ := hfair n fun m hm => by
      obtain ⟨history, hrun⟩ := x.run m
      exact henabled history _ hrun (hbelow m hm).1 (hnot m hm)
    obtain ⟨history, hrun⟩ := x.run k
    obtain ⟨hnext, _, hlower⟩ :=
      hkeeps history _ e _ hrun (hbelow k hk).1 (hnot k hk) (x.steps k e hevent)
    have hless : rank (x.state (k + 1)) < r := (hlower hkind).trans_le (hbelow k hk).2
    obtain ⟨m, hm, hgoal⟩ := ih _ hless hnext rfl
    exact hnot m (by omega) hgoal

end Execution

/-- A run goes on as an execution that rests at its end. Induction on the run. -/
theorem Run.exists_execution {history : List ε} {s : σ} (hrun : S.Run history s) :
    ∃ (x : S.Execution) (n : ℕ), (∀ m, n ≤ m → x.state m = s ∧ x.event m = none) ∧
      ∀ e ∈ history, ∃ m, x.event m = some e := by
  induction hrun with
  | @init s hinit =>
    exact ⟨⟨fun _ => s, fun _ => none, hinit, fun _ _ => rfl, nofun⟩, 0, fun _ _ => ⟨rfl, rfl⟩, by simp⟩
  | @step history s s' e hrun hstep ih =>
    obtain ⟨x, n, hrest, hoccurs⟩ := ih
    refine ⟨⟨fun m => if m ≤ n then x.state m else s',
      fun m => if m < n then x.event m else if m = n then some e else none, ?_, ?_, ?_⟩,
      n + 1, ?_, ?_⟩
    · simpa using x.start
    · intro m hevent
      by_cases hm : m < n
      · have hbefore := x.rests m (by simpa [hm] using hevent)
        simpa [hm.le, Nat.succ_le_of_lt hm] using hbefore
      · have hafter : n < m := by
          by_contra hle
          simp [show m = n by omega] at hevent
        simp [show ¬ m ≤ n by omega, show ¬ m + 1 ≤ n by omega]
    · intro m e' hevent
      by_cases hm : m < n
      · have hbefore := x.steps m e' (by simpa [hm] using hevent)
        simpa [hm.le, Nat.succ_le_of_lt hm] using hbefore
      · have hlast : m = n := by
          by_contra hne
          simp [hm, hne] at hevent
        subst hlast
        obtain rfl : e = e' := by simpa using hevent
        simpa [(hrest m le_rfl).1, show ¬ m + 1 ≤ m by omega] using hstep
    · intro m hm
      simp [show ¬ m ≤ n by omega, show ¬ m < n by omega, show m ≠ n by omega]
    · intro e' he'
      obtain rfl | hpast := List.mem_cons.mp he'
      · exact ⟨n, by simp⟩
      · obtain ⟨m, hm⟩ := hoccurs e' hpast
        have hbefore : m < n := by
          by_contra hafter
          rw [(hrest m (by omega)).2] at hm
          cases hm
        exact ⟨m, by simpa [hbefore] using hm⟩

/-- Resting is fair where no event of the kind is possible. -/
theorem Run.exists_fair {K : ε → Prop} {history : List ε} {s : σ} (hrun : S.Run history s)
    (hover : ¬ S.Enabled K s) :
    ∃ (x : S.Execution) (n : ℕ), x.Fair K ∧ x.state n = s := by
  obtain ⟨x, n, hrest, _⟩ := hrun.exists_execution
  refine ⟨x, n, ?_, (hrest n le_rfl).1⟩
  intro k henabled
  have hend := henabled (max k n) (le_max_left k n)
  rw [(hrest _ (le_max_right k n)).1] at hend
  exact absurd hend hover

end System

end Runs
