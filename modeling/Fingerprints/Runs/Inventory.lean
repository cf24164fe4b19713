import Fingerprints.Runs.History
import Mathlib.Data.Multiset.AddSub

/-!
# An inventory

What a store of bounded size is for, whatever it holds: items come in one by one and go out one by one, and
now and then the whole stock is exchanged.

* **`Inventory`**: a stock that does not exceed its capacity;
* **`Run.balance`**: what is there, with what was taken out, is what was there at the last exchange, with what
  came in since.
-/

namespace Runs

variable {κ : Type*} {capacity : Nat}

/-- What is done to an inventory. -/
inductive InventoryOp (κ : Type*) where
  | keep
  | exchange (stock : Multiset κ)
  | add (item : κ)
  | remove (item : κ)

/-- A stock within the capacity. -/
structure Inventory (κ : Type*) (capacity : Nat) where
  stock : Multiset κ
  bounded : stock.card ≤ capacity

/-- What an operation makes of an inventory: an item that is added has a place, and one that is removed is
there. -/
inductive InventoryOp.Does (s : Inventory κ capacity) : InventoryOp κ → Inventory κ capacity → Prop
  | keep : Does s .keep s
  | exchange (s' : Inventory κ capacity) : Does s (.exchange s'.stock) s'
  | add {item : κ} {s' : Inventory κ capacity} (h : s'.stock = item ::ₘ s.stock) : Does s (.add item) s'
  | remove {item : κ} {s' : Inventory κ capacity} (h : s.stock = item ::ₘ s'.stock) : Does s (.remove item) s'

/-- Inventories, which start empty. -/
def inventory (κ : Type*) (capacity : Nat) : System (Inventory κ capacity) (InventoryOp κ) where
  init s := s.stock = 0
  step := InventoryOp.Does

/-- What was there at the last exchange, with what came in since. -/
def broughtIn : List (InventoryOp κ) → Multiset κ
  | [] => 0
  | .keep :: ops => broughtIn ops
  | .exchange stock :: _ => stock
  | .add item :: ops => item ::ₘ broughtIn ops
  | .remove _ :: ops => broughtIn ops

/-- What was taken out since the last exchange. -/
def takenOut : List (InventoryOp κ) → Multiset κ
  | [] => 0
  | .keep :: ops => takenOut ops
  | .exchange _ :: _ => 0
  | .add _ :: ops => takenOut ops
  | .remove item :: ops => item ::ₘ takenOut ops

/-- **Nothing is lost and nothing comes from nowhere.** Induction on the run. -/
theorem Run.balance {ops : List (InventoryOp κ)} {s : Inventory κ capacity}
    (hrun : (inventory κ capacity).Run ops s) : s.stock + takenOut ops = broughtIn ops := by
  induction hrun with
  | init hinit =>
    have hempty : _ = _ := hinit
    rw [hempty]
    rfl
  | @step ops s s' _ _ hstep ih =>
    cases hstep with
    | keep => exact ih
    | exchange => exact Multiset.add_zero _
    | @add item _ hadd =>
      show s'.stock + takenOut ops = item ::ₘ broughtIn ops
      rw [hadd, Multiset.cons_add, ih]
    | @remove item _ hremove =>
      show s'.stock + item ::ₘ takenOut ops = broughtIn ops
      rw [Multiset.add_cons, ← Multiset.cons_add, ← hremove, ih]

end Runs
