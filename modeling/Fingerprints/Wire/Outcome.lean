import Mathlib.Tactic.Common

/-!
# Outcomes of calls that touch memory

A call of the modelled language either returns a value, returns an error code, or leaves the
memory it was given: an access outside a buffer, or through a null pointer, is a `Fault` and has
no defined continuation. `Outcome` is the monad of such calls; an error code and a fault both
end the sequence they occur in.
-/

namespace Wire

/-- An access the language leaves undefined: a read or a write at an index outside the buffer,
or a null pointer dereference. -/
inductive Fault where
  | load (index : Nat)
  | store (index : Nat)
  | null
  deriving DecidableEq, Repr

/-- What a call does: it returns a value, returns an error code, or runs into a fault. -/
inductive Outcome (α : Type) where
  | ok (a : α)
  | err (code : Int)
  | fault (f : Fault)
  deriving DecidableEq, Repr

namespace Outcome

variable {α β : Type}

instance : Monad Outcome where
  pure := .ok
  bind x k := match x with
    | .ok a => k a
    | .err c => .err c
    | .fault f => .fault f

@[simp] theorem pure_eq_ok (a : α) : (pure a : Outcome α) = .ok a := rfl

@[simp] theorem ok_bind (a : α) (k : α → Outcome β) : (Outcome.ok a >>= k) = k a := rfl

@[simp] theorem err_bind (c : Int) (k : α → Outcome β) : (Outcome.err c >>= k) = .err c := rfl

@[simp] theorem fault_bind (f : Fault) (k : α → Outcome β) :
    (Outcome.fault f >>= k) = .fault f := rfl

/-- A sequence returns a value exactly when its first call does and the rest does from there. -/
theorem bind_eq_ok {x : Outcome α} {k : α → Outcome β} {b : β} :
    (x >>= k) = .ok b ↔ ∃ a, x = .ok a ∧ k a = .ok b := by
  cases x with
  | ok a => simp
  | err c => simp
  | fault f => simp

theorem bind_assoc {γ : Type} (x : Outcome α) (k : α → Outcome β) (l : β → Outcome γ) :
    (x >>= k >>= l) = x >>= fun a => k a >>= l := by
  cases x <;> rfl

/-- The call runs into a fault. -/
def Faults : Outcome α → Prop
  | .fault _ => True
  | _ => False

instance (x : Outcome α) : Decidable x.Faults := by
  cases x <;> unfold Faults <;> infer_instance

@[simp] theorem not_faults_ok (a : α) : ¬ (Outcome.ok a).Faults := id

@[simp] theorem not_faults_err (c : Int) : ¬ (Outcome.err c : Outcome α).Faults := id

@[simp] theorem faults_fault (f : Fault) : (Outcome.fault f : Outcome α).Faults := trivial

/-- A sequence faults in its first call or in the rest. -/
theorem faults_bind {x : Outcome α} {k : α → Outcome β} :
    (x >>= k).Faults ↔ x.Faults ∨ ∃ a, x = .ok a ∧ (k a).Faults := by
  cases x with
  | ok a => simp
  | err c => simp
  | fault f => simp

/-- A sequence runs into a fault in its first call or in the rest. -/
theorem bind_eq_fault {x : Outcome α} {k : α → Outcome β} {f : Fault} :
    (x >>= k) = .fault f ↔ x = .fault f ∨ ∃ a, x = .ok a ∧ k a = .fault f := by
  cases x with
  | ok a => simp
  | err c => simp
  | fault g => simp

/-- Every error code of the call has a property. -/
structure Errors (p : Int → Prop) (x : Outcome α) : Prop where
  of_err : ∀ code, x = .err code → p code

theorem errors_ok {p : Int → Prop} (a : α) : (Outcome.ok a).Errors p := by
  constructor
  intro code h
  cases h

theorem errors_fault {p : Int → Prop} (f : Fault) : (Outcome.fault f : Outcome α).Errors p := by
  constructor
  intro code h
  cases h

theorem errors_err {p : Int → Prop} {code : Int} (h : p code) :
    (Outcome.err code : Outcome α).Errors p := by
  constructor
  intro code' hcode
  cases hcode
  exact h

/-- The errors of a sequence are those of its calls. -/
theorem Errors.bind {p : Int → Prop} {x : Outcome α} {k : α → Outcome β} (hx : x.Errors p)
    (hk : ∀ a, (k a).Errors p) : (x >>= k).Errors p := by
  cases x with
  | ok a => exact hk a
  | err c => exact errors_err (hx.of_err c rfl)
  | fault f => exact errors_fault f

/-- What is decided of the value a call returns holds of it. -/
theorem exists_of_decided {x : Outcome α} (p : α → Prop) [DecidablePred p]
    (h : (x >>= fun a => .ok (decide (p a))) = .ok true) : ∃ a, x = .ok a ∧ p a := by
  obtain ⟨a, hx, ha⟩ := bind_eq_ok.mp h
  injection ha with ha
  exact ⟨a, hx, of_decide_eq_true ha⟩

/-- The call reads or writes outside a buffer. -/
def OutOfBounds : Outcome α → Prop
  | .fault (.load _) => True
  | .fault (.store _) => True
  | _ => False

theorem not_outOfBounds_ok (a : α) : ¬ (Outcome.ok a).OutOfBounds := id

/-- A sequence goes out of bounds in its first call or in the rest. -/
theorem outOfBounds_bind {x : Outcome α} {k : α → Outcome β} :
    (x >>= k).OutOfBounds ↔ x.OutOfBounds ∨ ∃ a, x = .ok a ∧ (k a).OutOfBounds := by
  cases x with
  | ok a => simp [OutOfBounds]
  | err c => simp [OutOfBounds]
  | fault f => cases f <;> simp [OutOfBounds]

end Outcome

end Wire
