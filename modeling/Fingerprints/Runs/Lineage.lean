import Fingerprints.Runs.History

/-!
# Where things were before

A system whose states have places with things at them, which a step can move. `origin e` says for
a place after an event from which place the thing there came, where it was there before at all;
`lineage` follows it back over the events of a history.

* **`Run.lineage_of_kept`**: if every step back from a place with some property leads to a place
  with it, then so does a run;
* **`Run.lineage_preserves`**: what every step leaves with the things that it moves, a run leaves
  with them;
* **`Run.throughout`**: what every event of a kind is to satisfy, together with the history in
  front of it, follows over a run from a condition on such events.
-/

namespace Runs

variable {σ ε ι : Type*}

/-- The place where the thing that is at a place after the events was in front of them. -/
def lineage (origin : ε → ι → Option ι) : List ε → ι → Option ι
  | [], k => some k
  | e :: history, k => (origin e k).bind (lineage origin history)

section

variable {origin : ε → ι → Option ι}

@[simp] theorem lineage_nil (k : ι) : lineage origin [] k = some k := rfl

theorem lineage_cons_of_some {e : ε} {j k : ι} (h : origin e k = some j) (history : List ε) :
    lineage origin (e :: history) k = lineage origin history j := by
  rw [lineage, h, Option.bind_some]

/-- The lineage over two histories is that over the later one and then over the earlier one.
Induction on the later history. -/
theorem lineage_append (later past : List ε) (k : ι) :
    lineage origin (later ++ past) k = (lineage origin later k).bind (lineage origin past) := by
  induction later generalizing k with
  | nil => rfl
  | cons e later ih =>
    rw [List.cons_append, lineage, lineage]
    cases origin e k with
    | none => rfl
    | some j => exact ih j

end

/-- A history is the events after the last one of a kind, that one, and the events before it. -/
theorem eq_since_append {p : ε → Bool} {history : List ε} {e : ε}
    (h : latest p history = some e) : ∃ past, history = since p history ++ e :: past := by
  induction history with
  | nil => exact absurd h (by simp)
  | cons e' history ih =>
    cases hp : p e' with
    | true =>
      rw [latest_cons_of_pos hp] at h
      cases h
      exact ⟨history, by rw [since_cons_of_pos hp, List.nil_append]⟩
    | false =>
      rw [latest_cons_of_neg hp] at h
      obtain ⟨past, hpast⟩ := ih h
      refine ⟨past, ?_⟩
      rw [since_cons_of_neg hp, List.cons_append, ← hpast]

/-- Every event of a kind is, with the history in front of it, as required. -/
def Throughout (p : ε → Bool) (R : List ε → ε → Prop) : List ε → Prop
  | [] => True
  | e :: history => (p e = true → R history e) ∧ Throughout p R history

instance Throughout.decidable {p : ε → Bool} {R : List ε → ε → Prop}
    [∀ history e, Decidable (R history e)] : ∀ history, Decidable (Throughout p R history)
  | [] => inferInstanceAs (Decidable True)
  | _ :: history =>
      have := Throughout.decidable (p := p) (R := R) history
      inferInstanceAs (Decidable (_ ∧ _))

namespace System

variable {S : System σ ε}

/-- If every step back from a place with a property leads to a place with it, then the lineage of
such a place leads to one in the state where the run started. Induction on the run. -/
theorem Run.lineage_of_kept {origin : ε → ι → Option ι} {H : σ → ι → Prop}
    (hstep : ∀ s e s' k, S.step s e s' → H s' k → ∃ j, origin e k = some j ∧ H s j)
    {history : List ε} {s : σ} (hrun : S.Run history s) {k : ι} (hk : H s k) :
    ∃ s₀ j, S.init s₀ ∧ lineage origin history k = some j ∧ H s₀ j := by
  induction hrun generalizing k with
  | init hinit => exact ⟨_, k, hinit, rfl, hk⟩
  | step _ hlast ih =>
    obtain ⟨i, horigin, hi⟩ := hstep _ _ _ k hlast hk
    obtain ⟨s₀, j, hinit, hlineage, hj⟩ := ih hi
    exact ⟨s₀, j, hinit, by rw [lineage_cons_of_some horigin, hlineage], hj⟩

/-- If every step leaves, at the place where a thing came to be, what can be told of it, then the
lineage of a thing leads to a thing of which the same can be told. Induction on the run. -/
theorem Run.lineage_preserves {origin : ε → ι → Option ι} {H : σ → ι → Prop}
    (hstep : ∀ s e s' j k, S.step s e s' → origin e k = some j → H s' k → H s j)
    {history : List ε} {s : σ} (hrun : S.Run history s) {j k : ι}
    (hlineage : lineage origin history k = some j) (hk : H s k) : ∃ s₀, S.init s₀ ∧ H s₀ j := by
  induction hrun generalizing k with
  | init hinit =>
    cases hlineage
    exact ⟨_, hinit, hk⟩
  | step _ hlast ih =>
    obtain ⟨i, horigin, hlineage⟩ := Option.bind_eq_some_iff.mp hlineage
    exact ih hlineage (hstep _ _ _ i k hlast horigin hk)

/-- A requirement that follows, for each event of a kind that ends a run, from a condition follows
from it throughout a run. Induction on the run. -/
theorem Run.throughout {p : ε → Bool} {C R : List ε → ε → Prop}
    (hstep : ∀ history s e s', S.Run history s → S.step s e s' → p e = true → C history e →
      R history e)
    {history : List ε} {s : σ} (hrun : S.Run history s) (h : Throughout p C history) :
    Throughout p R history := by
  induction hrun with
  | init _ => exact trivial
  | step hrun hlast ih =>
    obtain ⟨hcondition, hbefore⟩ := h
    exact ⟨fun hp => hstep _ _ _ _ hrun hlast hp (hcondition hp), ih hbefore⟩

end System

end Runs
