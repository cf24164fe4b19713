import Fingerprints.Wire.Outcome

/-!
# Loops with early exits

A `while` loop: a round that goes on or leaves the loop, and a measure of what is left, which ends
the loop at zero and which every round that goes on lowers. `Loop.run_rule` is the rule for what a
loop returns, by an invariant that the rounds keep; `Loop.Reaches.invariant` is the one for the
states between the rounds.
-/

namespace Wire

variable {σ ε : Type}

/-- A loop over states `σ` that can be left early with an `ε`. -/
structure Loop (σ ε : Type) where
  left : σ → Nat
  round : σ → Outcome (σ × Option ε)
  lowers : ∀ {s s' : σ}, left s ≠ 0 → round s = .ok (s', none) → left s' < left s

namespace Loop

/-- The rounds of a loop, until nothing is left or one leaves it. -/
def run (L : Loop σ ε) (s : σ) : Outcome (σ × Option ε) :=
  if _hleft : L.left s = 0 then .ok (s, none)
  else
    match _hround : L.round s with
    | .ok (s', none) => L.run s'
    | .ok (s', some e) => .ok (s', some e)
    | .err code => .err code
    | .fault f => .fault f
termination_by L.left s
decreasing_by
  -- the round went on, so it lowered what is left
  exact L.lowers ‹_› ‹_›

/-- A loop comes to a state between two rounds. -/
inductive Reaches (L : Loop σ ε) (s : σ) : σ → Prop
  | start : Reaches L s s
  | round {t t' : σ} (h : Reaches L s t) (hleft : L.left t ≠ 0)
      (hround : L.round t = .ok (t', none)) : Reaches L s t'

/-- What every round keeps holds between any two. Induction on the rounds. -/
theorem Reaches.invariant {L : Loop σ ε} {I : σ → Prop} {s t : σ} (hs : I s)
    (hround : ∀ t t', I t → L.left t ≠ 0 → L.round t = .ok (t', none) → I t')
    (h : L.Reaches s t) : I t := by
  induction h with
  | start => exact hs
  | round _ hleft hnext ih => exact hround _ _ ih hleft hnext

theorem run_done {L : Loop σ ε} {s : σ} (h : L.left s = 0) : L.run s = .ok (s, none) := by
  rw [run, dif_pos h]

theorem run_next {L : Loop σ ε} {s s' : σ} (hleft : L.left s ≠ 0)
    (hround : L.round s = .ok (s', none)) : L.run s = L.run s' := by
  rw [run, dif_neg hleft]
  split
  · next next hnext =>
    rw [hround] at hnext
    injection hnext with hnext
    injection hnext with hnext
    rw [hnext]
  · next hstop =>
    rw [hround] at hstop
    cases hstop
  · next herr =>
    rw [hround] at herr
    cases herr
  · next hfault =>
    rw [hround] at hfault
    cases hfault

/-- A round that does not go on ends the loop with what it does. -/
theorem run_stop {L : Loop σ ε} {s : σ} (hleft : L.left s ≠ 0)
    (hround : ∀ s', L.round s ≠ .ok (s', none)) : L.run s = L.round s := by
  rw [run, dif_neg hleft]
  split
  · next next hnext => exact absurd hnext (hround next)
  · next hstop => exact hstop.symm
  · next herr => exact herr.symm
  · next hfault => exact hfault.symm

/-- A loop that keeps an invariant ends with it when nothing is left, or in a round that does not
go on. Strong induction on what is left. -/
theorem run_rule {L : Loop σ ε} {I : σ → Prop} {Q : Outcome (σ × Option ε) → Prop}
    (hdone : ∀ t, I t → L.left t = 0 → Q (.ok (t, none)))
    (hround : ∀ t, I t → L.left t ≠ 0 → (∃ t', L.round t = .ok (t', none) ∧ I t') ∨
      ((∀ t', L.round t ≠ .ok (t', none)) ∧ Q (L.round t)))
    {s : σ} (hs : I s) : Q (L.run s) := by
  generalize hn : L.left s = n
  induction n using Nat.strongRecOn generalizing s with
  | ind n ih =>
    cases Nat.eq_zero_or_pos n with
    | inl hzero =>
      rw [run_done (hn.trans hzero)]
      exact hdone s hs (hn.trans hzero)
    | inr hpos =>
      have hleft : L.left s ≠ 0 := by omega
      cases hround s hs hleft with
      | inl hnext =>
        obtain ⟨s', hnext, hs'⟩ := hnext
        rw [run_next hleft hnext]
        exact ih (L.left s') (by rw [← hn]; exact L.lowers hleft hnext) hs' rfl
      | inr hstop =>
        rw [run_stop hleft hstop.1]
        exact hstop.2

/-- What every round keeps, also one that leaves the loop, holds at the end of it. -/
theorem run_keeps {L : Loop σ ε} {I : σ → Prop} {s t : σ} {e : Option ε}
    (hround : ∀ s s' e, I s → L.round s = .ok (s', e) → I s') (hs : I s)
    (h : L.run s = .ok (t, e)) : I t := by
  apply run_rule (L := L) (I := I) (Q := fun r => ∀ t e, r = .ok (t, e) → I t) _ _ hs t e h
  · intro t ht _ t' e' heq
    cases heq
    exact ht
  · intro t ht hleft
    -- the round goes on, or the loop ends with it
    by_cases hnext : ∃ t', L.round t = .ok (t', none)
    · obtain ⟨t', hnext⟩ := hnext
      exact Or.inl ⟨t', hnext, hround t t' none ht hnext⟩
    · right
      rw [not_exists] at hnext
      refine ⟨hnext, ?_⟩
      intro t' e' heq
      exact hround t t' e' ht heq

end Loop

end Wire
