import Mathlib.Data.List.TakeWhile

/-!
# Runs and their histories

A system takes steps; a run of it is a state it can reach together with the steps that led
there, the latest first. What a run says about the past is said with two functions of its
history: `latest p`, the last event that satisfies `p`, and `since p`, the events after it.

`Run.invariant` is the induction over a run. `Run.latest` is the form of it for a part of the
state that only the events of one kind write: what the last such event wrote is still there.
-/

namespace Runs

variable {σ ε : Type*}

/-- Where the runs of a system start, and the steps it can take. -/
structure System (σ ε : Type*) where
  init : σ → Prop
  step : σ → ε → σ → Prop

/-- The system reaches a state by a history of events, the latest first. -/
inductive System.Run (S : System σ ε) : List ε → σ → Prop
  | init {s : σ} (hinit : S.init s) : S.Run [] s
  | step {history : List ε} {s s' : σ} {e : ε} (hrun : S.Run history s) (hstep : S.step s e s') :
      S.Run (e :: history) s'

/-! ## Looking back -/

/-- The last event of a kind. -/
def latest (p : ε → Bool) (history : List ε) : Option ε := history.find? p

/-- The events after the last one of a kind. -/
def since (p : ε → Bool) (history : List ε) : List ε := history.takeWhile fun e => !p e

@[simp] theorem latest_nil (p : ε → Bool) : latest p [] = none := rfl

theorem latest_cons_of_pos {p : ε → Bool} {e : ε} (h : p e = true) (history : List ε) :
    latest p (e :: history) = some e := List.find?_cons_of_pos h

theorem latest_cons_of_neg {p : ε → Bool} {e : ε} (h : p e = false) (history : List ε) :
    latest p (e :: history) = latest p history :=
  List.find?_cons_of_neg (by simp [h])

/-- The last event of a kind is of that kind. -/
theorem latest_pos {p : ε → Bool} {history : List ε} {e : ε} (h : latest p history = some e) :
    p e = true := List.find?_some h

theorem latest_mem {p : ε → Bool} {history : List ε} {e : ε} (h : latest p history = some e) :
    e ∈ history := List.mem_of_find?_eq_some h

theorem mem_of_mem_since {p : ε → Bool} {history : List ε} {e : ε} (h : e ∈ since p history) :
    e ∈ history := List.takeWhile_subset _ h

/-- The last event of either of two kinds, when it is not of the first, is the last of the second
since the last of the first. -/
theorem latest_since {p q : ε → Bool} {history : List ε} {e : ε}
    (h : latest (fun e => p e || q e) history = some e) (hp : p e = false) :
    latest q (since p history) = some e := by
  induction history with
  | nil => exact absurd h (by simp)
  | cons e' history ih =>
    cases hp' : p e' with
    | true =>
      -- the latest event is of the first kind: it is the one found, against `hp`
      rw [latest_cons_of_pos (by simp [hp'])] at h
      injection h with h
      rw [h, hp] at hp'
      cases hp'
    | false =>
      have hsince : since p (e' :: history) = e' :: since p history :=
        List.takeWhile_cons_of_pos (by simp [hp'])
      cases hq' : q e' with
      | true =>
        rw [latest_cons_of_pos (by simp [hq'])] at h
        rw [hsince, latest_cons_of_pos hq', h]
      | false =>
        rw [latest_cons_of_neg (by simp [hp', hq'])] at h
        rw [hsince, latest_cons_of_neg hq']
        exact ih h

/-- What the events of a history yield, in the order in which they came. -/
def collect {β : Type*} (f : ε → List β) : List ε → List β
  | [] => []
  | e :: history => collect f history ++ f e

@[simp] theorem collect_nil {β : Type*} (f : ε → List β) : collect f [] = [] := rfl

@[simp] theorem collect_cons {β : Type*} (f : ε → List β) (e : ε) (history : List ε) :
    collect f (e :: history) = collect f history ++ f e := rfl

theorem since_cons_of_pos {p : ε → Bool} {e : ε} (h : p e = true) (history : List ε) :
    since p (e :: history) = [] := List.takeWhile_cons_of_neg (by simp [h])

theorem since_cons_of_neg {p : ε → Bool} {e : ε} (h : p e = false) (history : List ε) :
    since p (e :: history) = e :: since p history := List.takeWhile_cons_of_pos (by simp [h])

/-! ## Rules -/

namespace System

variable {S : System σ ε}

/-- What holds where runs start and is kept by every step from a state that was reached holds of
every run. -/
theorem Run.invariant {I : List ε → σ → Prop} (hinit : ∀ s, S.init s → I [] s)
    (hstep : ∀ history s e s', S.Run history s → I history s → S.step s e s' →
      I (e :: history) s')
    {history : List ε} {s : σ} (hrun : S.Run history s) : I history s := by
  induction hrun with
  | init h => exact hinit _ h
  | step hrun h ih => exact hstep _ _ _ _ hrun ih h

/-- Every event of a history was a step, taken at the end of a run whose events are in the history
too. Induction on the run. -/
theorem Run.before_of_mem {history : List ε} {s : σ} {e : ε} (hrun : S.Run history s)
    (h : e ∈ history) :
    ∃ past t t', S.Run past t ∧ S.step t e t' ∧ ∀ e' ∈ past, e' ∈ history := by
  induction hrun with
  | init _ => cases h
  | step hrun hstep ih =>
    cases h with
    | head => exact ⟨_, _, _, hrun, hstep, fun e' => List.mem_cons_of_mem _⟩
    | tail _ hmem =>
      obtain ⟨past, t, t', hpast, hstep', hsub⟩ := ih hmem
      exact ⟨past, t, t', hpast, hstep', fun e' he' => List.mem_cons_of_mem _ (hsub e' he')⟩

/-- The system from a state on, with the steps whose events are of a kind. -/
def restarted (S : System σ ε) (s : σ) (Q : ε → Prop) : System σ ε where
  init t := t = s
  step t e t' := S.step t e t' ∧ Q e

/-- A run is a run from any state that it went through. Induction on the later events. -/
theorem Run.split {later past : List ε} {s : σ} (hrun : S.Run (later ++ past) s) :
    ∃ t, S.Run past t ∧
      ∀ Q : ε → Prop, (∀ e ∈ later, Q e) → (S.restarted t Q).Run later s := by
  induction later generalizing s with
  | nil => exact ⟨s, hrun, fun Q _ => .init rfl⟩
  | cons e later ih =>
    cases hrun with
    | step hrun hstep =>
      obtain ⟨t, hpast, hlater⟩ := ih hrun
      refine ⟨t, hpast, ?_⟩
      intro Q hall
      rw [List.forall_mem_cons] at hall
      exact .step (hlater Q hall.2) ⟨hstep, hall.1⟩

/-- What is not there at the start and is there at the end was brought in by an event. Induction
on the run. -/
theorem Run.origin {ρ : Type*} {H : ρ → σ → Prop} {B : ε → ρ → Prop}
    (hinit : ∀ s, S.init s → ∀ r, ¬ H r s)
    (hstep : ∀ s e s' r, S.step s e s' → H r s' → H r s ∨ B e r)
    {history : List ε} {s : σ} (hrun : S.Run history s) {r : ρ} (h : H r s) :
    ∃ e ∈ history, B e r := by
  induction hrun with
  | init hstart => exact absurd h (hinit _ hstart r)
  | step _ hlast ih =>
    cases hstep _ _ _ r hlast h with
    | inl hold =>
      obtain ⟨e, hmem, hb⟩ := ih hold
      exact ⟨e, List.mem_cons_of_mem _ hmem, hb⟩
    | inr hb => exact ⟨_, List.mem_cons_self, hb⟩

/-- An invariant of states, whatever the history. -/
theorem Run.invariant_state {I : σ → Prop} (hinit : ∀ s, S.init s → I s)
    (hstep : ∀ s e s', I s → S.step s e s' → I s')
    {history : List ε} {s : σ} (hrun : S.Run history s) : I s := by
  apply Run.invariant (I := fun _ s => I s) hinit _ hrun
  intro _ s e s' _ hinv h
  exact hstep s e s' hinv h

/-- A property that a step keeps exactly when its event is of a kind holds in all states of a run
exactly when all its events are of that kind. The states are the last one and those that the events
were taken in. Induction on the run. -/
theorem Run.throughout_iff {I : σ → Prop} {K : ε → Prop} {pre : ε → σ}
    (hpre : ∀ s e s', S.step s e s' → pre e = s) (hinit : ∀ s, S.init s → I s)
    (hstep : ∀ s e s', I s → S.step s e s' → (I s' ↔ K e))
    {history : List ε} {s : σ} (hrun : S.Run history s) :
    (I s ∧ ∀ e ∈ history, I (pre e)) ↔ ∀ e ∈ history, K e := by
  induction hrun with
  | init hstart => simpa using hinit _ hstart
  | @step history s s' e _ hlast ih =>
    rw [List.forall_mem_cons, List.forall_mem_cons, hpre s e s' hlast, ← ih]
    constructor
    · rintro ⟨hnow, hbefore⟩
      exact ⟨(hstep s e s' hbefore.1 hlast).mp hnow, hbefore⟩
    · rintro ⟨hkeeps, hbefore⟩
      exact ⟨(hstep s e s' hbefore.1 hlast).mpr hkeeps, hbefore⟩

/-- What is asked of every event and the history in front of it is asked of the latest one and of
those before. -/
theorem forall_split_cons {R : List ε → ε → Prop} {e : ε} {history : List ε} :
    (∀ later e' past, e :: history = later ++ e' :: past → R past e') ↔
      R history e ∧ ∀ later e' past, history = later ++ e' :: past → R past e' := by
  constructor
  · intro h
    refine ⟨h [] e history rfl, ?_⟩
    intro later e' past hsplit
    exact h (e :: later) e' past (by rw [hsplit, List.cons_append])
  · rintro ⟨hlast, hbefore⟩ later e' past hsplit
    cases later with
    | nil =>
      cases hsplit
      exact hlast
    | cons _ later =>
      injection hsplit with _ hsplit
      exact hbefore later e' past hsplit

theorem forall_split_iff_mem {K : ε → Prop} {history : List ε} :
    (∀ later e past, history = later ++ e :: past → K e) ↔ ∀ e ∈ history, K e := by
  constructor
  · intro h e hmem
    obtain ⟨later, past, hsplit⟩ := List.append_of_mem hmem
    exact h later e past hsplit
  · intro h later e past hsplit
    exact h e (by rw [hsplit]; exact List.mem_append_right _ List.mem_cons_self)

/-- `throughout_iff` for a property and a kind that look at the history too. Induction on the
run. -/
theorem Run.throughout_history_iff {I : List ε → σ → Prop} {K : List ε → ε → Prop} {pre : ε → σ}
    (hpre : ∀ s e s', S.step s e s' → pre e = s) (hinit : ∀ s, S.init s → I [] s)
    (hstep : ∀ history s e s', S.Run history s → I history s → S.step s e s' →
      (I (e :: history) s' ↔ K history e))
    {history : List ε} {s : σ} (hrun : S.Run history s) :
    (I history s ∧ ∀ later e past, history = later ++ e :: past → I past (pre e)) ↔
      ∀ later e past, history = later ++ e :: past → K past e := by
  induction hrun with
  | init hstart => simpa using hinit _ hstart
  | @step history s s' e hrun hlast ih =>
    rw [forall_split_cons, forall_split_cons, hpre s e s' hlast, ← ih]
    constructor
    · rintro ⟨hnow, hbefore⟩
      exact ⟨(hstep history s e s' hrun hbefore.1 hlast).mp hnow, hbefore⟩
    · rintro ⟨hkeeps, hbefore⟩
      exact ⟨(hstep history s e s' hrun hbefore.1 hlast).mpr hkeeps, hbefore⟩

/-- What the last event of a kind establishes, and every other event keeps, holds of every run:
of the last event of that kind, or of none when there has been none. -/
theorem Run.latest {p : ε → Bool} {W : Option ε → σ → Prop} (hinit : ∀ s, S.init s → W none s)
    (hwrite : ∀ s e s', S.step s e s' → p e = true → W (some e) s')
    (hframe : ∀ s e s' o, S.step s e s' → p e = false → W o s → W o s')
    {history : List ε} {s : σ} (hrun : S.Run history s) : W (latest p history) s := by
  induction hrun with
  | init h => exact hinit _ h
  | @step history s s' e _ h ih =>
    cases hp : p e with
    | true =>
      rw [latest_cons_of_pos hp]
      exact hwrite s e s' h hp
    | false =>
      rw [latest_cons_of_neg hp]
      exact hframe s e s' _ h hp ih

end System

end Runs
