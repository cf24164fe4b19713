import Mathlib.Algebra.Order.Group.Multiset
import Mathlib.Tactic.Common

/-!
# Blocks of a heap and who owns them

What a program does to its heap is a list of operations: blocks are allocated, freed and looked
into. `Heap.run` keeps the blocks that are live, and notes when one that is not live is freed or
looked into. The allocator is trusted for one thing, `Fresh`: it gives out no block that is live.

* **`Owns`** is the triple of this ledger: operations that take an owner from the blocks `A` to the
  blocks `B`, whatever else is live. It misuses no block, and loses none.
* **`Owns.trans`**, **`Owns.frame`** and the rules for one operation compose it; **`Owns.run`** reads
  the result off for a heap.
-/

namespace Ledger

variable {α : Type*}

/-- An operation on a block. -/
inductive Op (α : Type*) where
  | malloc (a : α)
  | free (a : α)
  | use (a : α)
  deriving DecidableEq, Repr

/-- The blocks that are live, and whether a block that was not live was freed or used. -/
structure Heap (α : Type*) where
  live : Multiset α
  misused : Bool

/-- A heap without a misuse on which just these blocks are live. -/
def Heap.holding (live : Multiset α) : Heap α := { live := live, misused := false }

@[simp] theorem Heap.live_holding (A : Multiset α) : (Heap.holding A).live = A := rfl

@[simp] theorem Heap.misused_holding (A : Multiset α) : (Heap.holding A).misused = false := rfl

variable [DecidableEq α]

def Heap.step (h : Heap α) : Op α → Heap α
  | .malloc a => { h with live := a ::ₘ h.live }
  | .free a => { live := h.live.erase a, misused := h.misused || decide (a ∉ h.live) }
  | .use a => { h with misused := h.misused || decide (a ∉ h.live) }

def Heap.run (h : Heap α) (ops : List (Op α)) : Heap α := ops.foldl Heap.step h

/-- The allocator does not give out a block that is live. -/
def Op.Fresh (h : Heap α) : Op α → Prop
  | .malloc a => a ∉ h.live
  | .free _ => True
  | .use _ => True

def Fresh (h : Heap α) : List (Op α) → Prop
  | [] => True
  | op :: ops => op.Fresh h ∧ Fresh (h.step op) ops

instance (h : Heap α) (op : Op α) : Decidable (op.Fresh h) :=
  match op with
  | .malloc a => inferInstanceAs (Decidable (a ∉ h.live))
  | .free _ => inferInstanceAs (Decidable True)
  | .use _ => inferInstanceAs (Decidable True)

instance decidableFresh : (h : Heap α) → (ops : List (Op α)) → Decidable (Fresh h ops)
  | _, [] => inferInstanceAs (Decidable True)
  | h, op :: ops =>
      have := decidableFresh (h.step op) ops
      inferInstanceAs (Decidable (op.Fresh h ∧ Fresh (h.step op) ops))

@[simp] theorem Heap.run_nil (h : Heap α) : h.run [] = h := rfl

@[simp] theorem Heap.run_cons (h : Heap α) (op : Op α) (ops : List (Op α)) :
    h.run (op :: ops) = (h.step op).run ops := rfl

theorem Heap.run_append (h : Heap α) (ops ops' : List (Op α)) :
    h.run (ops ++ ops') = (h.run ops).run ops' := List.foldl_append

/-- The promise over two lists. Induction on the first. -/
theorem fresh_append {h : Heap α} {ops ops' : List (Op α)} :
    Fresh h (ops ++ ops') ↔ Fresh h ops ∧ Fresh (h.run ops) ops' := by
  induction ops generalizing h with
  | nil => simp [Fresh]
  | cons op ops ih => simp only [List.cons_append, Fresh, Heap.run_cons, ih, and_assoc]

/-- The operations take an owner from the blocks `A` to the blocks `B`, beside any others. -/
def Owns (A : Multiset α) (ops : List (Op α)) (B : Multiset α) : Prop :=
  ∀ F : Multiset α, (A + F).Nodup → Fresh (.holding (A + F)) ops →
    (Heap.holding (A + F)).run ops = .holding (B + F) ∧ (B + F).Nodup

section

variable {A B C F : Multiset α} {ops ops' : List (Op α)} {a : α}

/-- What the triple says of a heap. -/
theorem Owns.run (h : Owns A ops B) (hnodup : (A + F).Nodup)
    (hfresh : Fresh (.holding (A + F)) ops) :
    (Heap.holding (A + F)).run ops = .holding (B + F) ∧ (B + F).Nodup :=
  h F hnodup hfresh

theorem Owns.nil (A : Multiset α) : Owns A [] A := by
  intro F hnodup _
  exact ⟨rfl, hnodup⟩

theorem Owns.trans (h : Owns A ops B) (h' : Owns B ops' C) : Owns A (ops ++ ops') C := by
  intro F hnodup hfresh
  obtain ⟨hfirst, hsecond⟩ := fresh_append.mp hfresh
  obtain ⟨hrun, hnodup'⟩ := h F hnodup hfirst
  rw [hrun] at hsecond
  rw [Heap.run_append, hrun]
  exact h' F hnodup' hsecond

theorem Owns.frame (h : Owns A ops B) (R : Multiset α) : Owns (A + R) ops (B + R) := by
  intro F hnodup hfresh
  rw [add_assoc] at hnodup hfresh ⊢
  rw [add_assoc]
  exact h (R + F) hnodup hfresh

theorem Owns.malloc (a : α) (A : Multiset α) : Owns A [.malloc a] (a ::ₘ A) := by
  intro F hnodup hfresh
  have hnew : a ∉ A + F := hfresh.1
  constructor
  · rw [Multiset.cons_add]
    rfl
  · rw [Multiset.cons_add]
    exact Multiset.nodup_cons.mpr ⟨hnew, hnodup⟩

theorem Owns.free (a : α) (A : Multiset α) : Owns (a ::ₘ A) [.free a] A := by
  intro F hnodup _
  rw [Multiset.cons_add] at hnodup ⊢
  constructor
  · simp [Heap.holding, Heap.step]
  · exact (Multiset.nodup_cons.mp hnodup).2

theorem Owns.use (h : a ∈ A) : Owns A [.use a] A := by
  intro F hnodup _
  have hlive : a ∈ A + F := Multiset.mem_add.mpr (Or.inl h)
  constructor
  · simp [Heap.holding, Heap.step, hlive]
  · exact hnodup

/-- Blocks of the owner are looked into. Induction on the blocks. -/
theorem Owns.uses {l : List α} (h : ∀ a ∈ l, a ∈ A) : Owns A (l.map .use) A := by
  induction l with
  | nil => exact .nil A
  | cons a l ih =>
    rw [List.forall_mem_cons] at h
    exact (Owns.use h.1).trans (ih h.2)

/-- Blocks are freed, one after the other. Induction on the blocks. -/
theorem Owns.frees (l : List α) (A : Multiset α) :
    Owns ((l : Multiset α) + A) (l.map .free) A := by
  induction l with
  | nil => simpa using Owns.nil A
  | cons a l ih =>
    have hhead : Owns (((a :: l : List α) : Multiset α) + A) [.free a] ((l : Multiset α) + A) := by
      rw [← Multiset.cons_coe, Multiset.cons_add]
      exact .free a _
    exact hhead.trans ih

/-- Before and after, the owner's blocks are the same up to their order. -/
theorem Owns.congr {A' B' : Multiset α} (h : Owns A ops B) (hA : A = A') (hB : B = B') :
    Owns A' ops B' := by
  rw [← hA, ← hB]
  exact h

end

end Ledger
