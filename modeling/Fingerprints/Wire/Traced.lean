import Fingerprints.Wire.Outcome

/-!
# Computations with the calls they make

What a call leaves is not all that can be said of it: it may have to make a call of its own exactly
once, or in some order. `Traced` is the monad of computations that keep the list of the calls they
made. Forgetting the list is `outcome`, which commutes with sequencing, **`outcome_bind`**: a
function written once with its calls and once without is compared by `simp`.
-/

namespace Wire

/-- The calls that were made, the first in front, and what was returned. -/
structure Traced (κ α : Type) where
  calls : List κ
  outcome : Outcome α

namespace Traced

variable {κ α β : Type}

instance : Monad (Traced κ) where
  pure a := { calls := [], outcome := .ok a }
  bind x k := match x.outcome with
    | .ok a => { calls := x.calls ++ (k a).calls, outcome := (k a).outcome }
    | .err c => { calls := x.calls, outcome := .err c }
    | .fault f => { calls := x.calls, outcome := .fault f }

/-- A call is made. -/
def perform (call : κ) : Traced κ Unit := { calls := [call], outcome := .ok () }

/-- A computation that makes none of the calls. -/
def quiet (x : Outcome α) : Traced κ α := { calls := [], outcome := x }

@[simp] theorem calls_pure (a : α) : (pure a : Traced κ α).calls = [] := rfl

@[simp] theorem outcome_pure (a : α) : (pure a : Traced κ α).outcome = .ok a := rfl

@[simp] theorem calls_quiet (x : Outcome α) : (quiet x : Traced κ α).calls = [] := rfl

@[simp] theorem outcome_quiet (x : Outcome α) : (quiet x : Traced κ α).outcome = x := rfl

/-- What a sequence returns does not depend on the calls. -/
@[simp] theorem outcome_bind (x : Traced κ α) (k : α → Traced κ β) :
    (x >>= k).outcome = x.outcome >>= fun a => (k a).outcome := by
  show (Traced.outcome (match x.outcome with
    | .ok a => { calls := x.calls ++ (k a).calls, outcome := (k a).outcome }
    | .err c => { calls := x.calls, outcome := .err c }
    | .fault f => { calls := x.calls, outcome := .fault f })) = _
  cases x.outcome with
  | ok a => simp
  | err c => simp
  | fault f => simp

@[simp] theorem outcome_perform (call : κ) : (perform call).outcome = .ok () := rfl

@[simp] theorem calls_perform_bind (call : κ) (k : Unit → Traced κ β) :
    (perform call >>= k).calls = call :: (k ()).calls := rfl

@[simp] theorem quiet_ok_bind (a : α) (k : α → Traced κ β) : (quiet (.ok a) >>= k) = k a := rfl

/-- A sequence of which the first part returns. -/
theorem bind_of_ok {x : Traced κ α} {a : α} (h : x.outcome = .ok a) (k : α → Traced κ β) :
    (x >>= k) = { calls := x.calls ++ (k a).calls, outcome := (k a).outcome } := by
  show (match x.outcome with
    | .ok a => { calls := x.calls ++ (k a).calls, outcome := (k a).outcome }
    | .err c => { calls := x.calls, outcome := .err c }
    | .fault f => { calls := x.calls, outcome := .fault f } : Traced κ β) = _
  rw [h]

/-- Behind the last call of a computation no call is made. -/
theorem calls_bind_of_quiet {x : Traced κ α} {k : α → Traced κ β} (hk : ∀ a, (k a).calls = []) :
    (x >>= k).calls = x.calls := by
  show (Traced.calls (match x.outcome with
    | .ok a => { calls := x.calls ++ (k a).calls, outcome := (k a).outcome }
    | .err c => { calls := x.calls, outcome := .err c }
    | .fault f => { calls := x.calls, outcome := .fault f })) = _
  cases x.outcome with
  | ok a => simp [hk a]
  | err c => simp
  | fault f => simp

@[simp] theorem calls_perform (call : κ) : (perform call).calls = [call] := rfl

theorem mem_calls_perform_bind {call made : κ} {k : Unit → Traced κ β} :
    call ∈ (perform made >>= k).calls ↔ call = made ∨ call ∈ (k ()).calls := by
  rw [calls_perform_bind, List.mem_cons]

/-- A call of a sequence is made in its first part or in the rest. -/
theorem mem_calls_bind {call : κ} {x : Traced κ α} {k : α → Traced κ β} :
    call ∈ (x >>= k).calls ↔
      call ∈ x.calls ∨ ∃ a, x.outcome = .ok a ∧ call ∈ (k a).calls := by
  show call ∈ (Traced.calls (match x.outcome with
    | .ok a => { calls := x.calls ++ (k a).calls, outcome := (k a).outcome }
    | .err c => { calls := x.calls, outcome := .err c }
    | .fault f => { calls := x.calls, outcome := .fault f })) ↔ _
  cases x.outcome with
  | ok a => simp
  | err c => simp
  | fault f => simp

/-! ## Calls of one kind -/

/-- Every call that the computation makes has a property. -/
def Only (p : κ → Prop) (x : Traced κ α) : Prop := ∀ call ∈ x.calls, p call

section

variable {p : κ → Prop}

theorem only_pure (a : α) : (pure a : Traced κ α).Only p := by
  intro call hcall
  rw [calls_pure] at hcall
  cases hcall

theorem only_quiet (x : Outcome α) : (quiet x : Traced κ α).Only p := by
  intro call hcall
  rw [calls_quiet] at hcall
  cases hcall

@[simp] theorem only_perform {call : κ} : (perform call).Only p ↔ p call := by
  simp [Only]

/-- The calls of a sequence are of one kind when those of its first part are and those of the rest,
where the first part returns. -/
theorem only_bind {x : Traced κ α} {k : α → Traced κ β} :
    (x >>= k).Only p ↔ x.Only p ∧ ∀ a, x.outcome = .ok a → (k a).Only p := by
  constructor
  · intro h
    refine ⟨fun call hcall => h call (mem_calls_bind.mpr (Or.inl hcall)), ?_⟩
    intro a ha call hcall
    exact h call (mem_calls_bind.mpr (Or.inr ⟨a, ha, hcall⟩))
  · rintro ⟨hx, hk⟩ call hcall
    cases mem_calls_bind.mp hcall with
    | inl hcall => exact hx call hcall
    | inr hcall =>
      obtain ⟨a, ha, hcall⟩ := hcall
      exact hk a ha call hcall

theorem only_perform_bind {call : κ} {k : Unit → Traced κ β} :
    (perform call >>= k).Only p ↔ p call ∧ (k ()).Only p := by
  rw [only_bind, only_perform]
  constructor
  · rintro ⟨hcall, hk⟩
    exact ⟨hcall, hk () rfl⟩
  · rintro ⟨hcall, hk⟩
    exact ⟨hcall, fun _ _ => hk⟩

end

end Traced

end Wire
