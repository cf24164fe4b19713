import Mathlib.Computability.StateTransition
import Mathlib.Data.Set.Finite.Basic

/-!
# Walks that end

A partial function is followed until it has no next place. Where it can come to finitely many places
only, it ends exactly when it comes back to none of them: **`ends_iff_not_returns`**. A loop that takes a
round for each place comes to an end of its own where the walk does: **`exists_rounds_iff`**.
-/

namespace Runs

open Relation StateTransition

variable {α : Type*} {next : α → Option α} {a b c : α}

/-- A walk comes to a place behind which there is none. -/
def Ends (next : α → Option α) (a : α) : Prop := ∃ b, Reaches next a b ∧ next b = none

/-- A walk comes to a place and to that place again. -/
def Returns (next : α → Option α) (a : α) : Prop := ∃ b, Reaches next a b ∧ Reaches₁ next b b

/-- From the end there is no way on. -/
theorem eq_of_reaches_end (hend : next a = none) (h : Reaches next a b) : b = a := by
  cases ReflTransGen.cases_head h with
  | inl heq => exact heq.symm
  | inr hstep =>
    obtain ⟨c, hc, _⟩ := hstep
    rw [Option.mem_def, hend] at hc
    cases hc

theorem ends_of_next (h : next a = some b) (hends : Ends next b) : Ends next a := by
  obtain ⟨c, hreaches, hend⟩ := hends
  exact ⟨c, ReflTransGen.head h hreaches, hend⟩

/-- A place that leads back to itself leads to no end: there is always a way on. Induction on the
walk. -/
theorem next_ne_none_of_cycle (hcycle : Reaches₁ next a a) (h : Reaches next a b) :
    next b ≠ none := by
  -- every place on the way lies on the cycle too
  have hback : Reaches₁ next b b := by
    induction h with
    | refl => exact hcycle
    | tail _ hstep ih => exact TransGen.tail' (reaches₁_fwd ih hstep) hstep
  obtain ⟨c, hc, _⟩ := TransGen.head'_iff.mp hback
  rw [Option.mem_def] at hc
  simp [hc]

theorem not_returns_of_ends (hends : Ends next a) : ¬ Returns next a := by
  rintro ⟨b, hb, hcycle⟩
  obtain ⟨c, hc, hend⟩ := hends
  cases reaches_total hb hc with
  | inl hforward => exact next_ne_none_of_cycle hcycle hforward hend
  | inr hbackward =>
    rw [eq_of_reaches_end hend hbackward] at hcycle
    exact next_ne_none_of_cycle hcycle ReflTransGen.refl hend

/-- Among finitely many places a walk that comes back to none of them ends. Induction along the
order in which it comes to them. -/
theorem ends_of_not_returns (hfinite : {b | Reaches next a b}.Finite) (h : ¬ Returns next a) :
    Ends next a := by
  let later : {b // Reaches next a b} → {b // Reaches next a b} → Prop :=
    fun c b => Reaches₁ next b.1 c.1
  have : Finite {b // Reaches next a b} := hfinite
  have : IsTrans _ later := ⟨fun _ _ _ hcb hbd => TransGen.trans hbd hcb⟩
  have : Std.Irrefl later := ⟨fun b hcycle => h ⟨b.1, b.2, hcycle⟩⟩
  have hwell : WellFounded later := Finite.wellFounded_of_trans_of_irrefl later
  have hall : ∀ b : {b // Reaches next a b}, Ends next b.1 := by
    intro b
    induction b using hwell.induction with
    | _ b ih =>
      cases hnext : next b.1 with
      | none => exact ⟨b.1, ReflTransGen.refl, hnext⟩
      | some c => exact ends_of_next hnext (ih ⟨c, b.2.tail hnext⟩ (TransGen.single hnext))
  exact hall ⟨a, ReflTransGen.refl⟩

theorem ends_iff_not_returns (hfinite : {b | Reaches next a b}.Finite) :
    Ends next a ↔ ¬ Returns next a :=
  ⟨not_returns_of_ends, ends_of_not_returns hfinite⟩

/-- What a loop with a bound on its rounds comes to from a place is what the end of the walk is like: a
round goes on with the next place, and with other data. Induction on the rounds, and on the walk. -/
theorem exists_rounds_iff {β : Type*} (Valid Last : α → Prop) (Done : ℕ → α → β → Prop)
    (hvalid : ∀ a b, next a = some b → Valid a → Valid b) (hzero : ∀ a r, ¬ Done 0 a r)
    (hnext : ∀ a b r, Valid a → next a = some b → ∃ r', ∀ n, Done (n + 1) a r ↔ Done n b r')
    (hlast : ∀ a r n, Valid a → next a = none → (Done (n + 1) a r ↔ Last a))
    (ha : Valid a) (r : β) :
    (∃ n, Done n a r) ↔ ∃ b, Reaches next a b ∧ next b = none ∧ Last b := by
  constructor
  · rintro ⟨n, hdone⟩
    induction n generalizing a r with
    | zero => exact absurd hdone (hzero a r)
    | succ n ih =>
      cases hb : next a with
      | none => exact ⟨a, .refl, hb, (hlast a r n ha hb).mp hdone⟩
      | some b =>
        obtain ⟨r', hround⟩ := hnext a b r ha hb
        obtain ⟨c, hreaches, hend⟩ := ih (hvalid a b hb ha) r' ((hround n).mp hdone)
        exact ⟨c, ReflTransGen.head hb hreaches, hend⟩
  · rintro ⟨c, hreaches, hend, hc⟩
    induction hreaches using ReflTransGen.head_induction_on generalizing r with
    | refl => exact ⟨1, (hlast c r 0 ha hend).mpr hc⟩
    | @head a b hb _ ih =>
      obtain ⟨r', hround⟩ := hnext a b r ha hb
      obtain ⟨n, hdone⟩ := ih (hvalid a b hb ha) r'
      exact ⟨n + 1, (hround n).mpr hdone⟩

end Runs
