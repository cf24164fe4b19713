import Fingerprints.Wire.Message
import Fingerprints.Wire.Traced

/-!
# Reads of named buffers

A fault says that a call left a buffer, not which one, and one fault ends the run. Where the question
is which bytes a function looks at, its reads are the calls of a `Traced` computation: an `Access`
names the buffer and the bytes. The reads of a string go on up to its end, so that they stay inside a
buffer exactly when the end is in it: **`only_strlen_iff`**.
-/

namespace Wire

open Outcome

/-- A read of some bytes of a buffer. -/
structure Access (β : Type) where
  buffer : β
  off : Nat
  len : Nat
  deriving DecidableEq, Repr

/-- The bytes are in their buffer. -/
def Access.Inside {β : Type} (size : β → Nat) (a : Access β) : Prop := a.off + a.len ≤ size a.buffer

namespace Traced

variable {β : Type}

/-- A little-endian word is read. -/
def read32 (b : β) (buf : List UInt8) (off : Nat) : Traced (Access β) UInt32 := do
  perform ⟨b, off, 4⟩
  quiet (load32 buf off)

/-- `memcpy(…, buf + off, n)` -/
def readSpan (b : β) (buf : List UInt8) (off n : Nat) : Traced (Access β) (List UInt8) := do
  perform ⟨b, off, n⟩
  quiet (loadSpan buf off n)

/-- The loop over `n` bytes that stops at a zero, and whether it did. -/
def findZero (b : β) (buf : List UInt8) : Nat → Nat → Traced (Access β) Bool
  | _, 0 => pure false
  | off, n + 1 => do
      let c ← readSpan b buf off 1
      if c = [0] then pure true else findZero b buf (off + 1) n

/-- `strlen` of what is left of a buffer from an offset on. -/
def strlenFrom (b : β) (off : Nat) : List UInt8 → Traced (Access β) Nat
  | [] => do
      perform ⟨b, off, 1⟩
      quiet (.fault (.load off))
  | c :: rest => do
      perform ⟨b, off, 1⟩
      if c = 0 then pure 0
      else do
        let n ← strlenFrom b (off + 1) rest
        pure (n + 1)

/-- `strlen(buf + off)` -/
def strlen (b : β) (buf : List UInt8) (off : Nat) : Traced (Access β) Nat :=
  strlenFrom b off (buf.drop off)

section

variable {b : β} {buf rest : List UInt8} {off n : Nat} {size : β → Nat} {p : Access β → Prop}

theorem only_read32 : (read32 b buf off).Only p ↔ p ⟨b, off, 4⟩ := by
  unfold read32
  rw [only_perform_bind]
  exact and_iff_left (only_quiet _)

theorem outcome_read32 : (read32 b buf off).outcome = load32 buf off := by
  simp [read32]

theorem only_readSpan : (readSpan b buf off n).Only p ↔ p ⟨b, off, n⟩ := by
  unfold readSpan
  rw [only_perform_bind]
  exact and_iff_left (only_quiet _)

theorem outcome_readSpan : (readSpan b buf off n).outcome = loadSpan buf off n := by
  simp [readSpan]

theorem slice_cons (h : off < buf.length) : slice buf off (n + 1) = buf[off] :: slice buf (off + 1) n := by
  rw [slice, List.drop_eq_getElem_cons h, List.take_succ_cons, slice]

/-- The loop finds the zeros of the bytes that it goes over. -/
theorem outcome_findZero (h : off + n ≤ buf.length) :
    (findZero b buf off n).outcome = .ok ((slice buf off n).contains 0) := by
  induction n generalizing off with
  | zero => simp [findZero, slice]
  | succ n ih =>
    have hlt : off < buf.length := by omega
    have hone : slice buf off 1 = [buf[off]] := by rw [slice_cons hlt, slice, List.take_zero]
    unfold findZero
    rw [outcome_bind, outcome_readSpan, loadSpan_eq (by omega), ok_bind, hone, slice_cons hlt]
    split
    · next hzero => simp [List.cons.inj hzero]
    · next hzero =>
      rw [ih (by omega)]
      simp at hzero
      simp [Ne.symm hzero]

/-- It reads these bytes alone. -/
theorem only_findZero (hsize : off + n ≤ size b) : (findZero b buf off n).Only (Access.Inside size) := by
  induction n generalizing off with
  | zero => exact only_pure _
  | succ n ih =>
    unfold findZero
    rw [only_bind, only_readSpan]
    refine ⟨?_, fun c _ => ?_⟩
    · unfold Access.Inside
      dsimp only
      omega
    · split
      · exact only_pure _
      · exact ih (by omega)

theorem outcome_strlenFrom (h : 0 ∈ rest) :
    (strlenFrom b off rest).outcome = .ok (rest.takeWhile (· ≠ 0)).length := by
  induction rest generalizing off with
  | nil => cases h
  | cons c rest ih =>
    unfold strlenFrom
    rw [outcome_bind, outcome_perform, ok_bind]
    by_cases hc : c = 0
    · rw [if_pos hc, List.takeWhile_cons_of_neg (by simp [hc])]
      rfl
    · rw [if_neg hc, List.takeWhile_cons_of_pos (by simp [hc]), outcome_bind,
        ih ((List.mem_cons.mp h).resolve_left (Ne.symm hc))]
      rfl

theorem outcome_strlen (h : 0 ∈ buf.drop off) :
    (strlen b buf off).outcome = .ok ((buf.drop off).takeWhile (· ≠ 0)).length :=
  outcome_strlenFrom h

/-- The bytes up to the end of a string are read, and those alone. -/
theorem only_strlenFrom_iff (hsize : off + rest.length = size b) :
    (strlenFrom b off rest).Only (Access.Inside size) ↔ 0 ∈ rest := by
  induction rest generalizing off with
  | nil =>
    refine iff_of_false (fun h => ?_) List.not_mem_nil
    have hread := (only_perform_bind.mp h).1
    simp [Access.Inside] at hread hsize
    omega
  | cons c rest ih =>
    unfold strlenFrom
    rw [List.length_cons] at hsize
    have hread : Access.Inside size ⟨b, off, 1⟩ := by
      unfold Access.Inside
      dsimp only
      omega
    rw [only_perform_bind, and_iff_right hread]
    by_cases hc : c = 0
    · rw [if_pos hc]
      exact iff_of_true (only_pure _) (by simp [hc])
    · rw [if_neg hc, only_bind, ih (by omega), List.mem_cons, or_iff_right (Ne.symm hc)]
      exact and_iff_left fun _ _ => only_pure _

theorem only_strlen_iff (hoff : off ≤ buf.length) (hsize : size b = buf.length) :
    (strlen b buf off).Only (Access.Inside size) ↔ 0 ∈ buf.drop off := by
  apply only_strlenFrom_iff
  rw [List.length_drop]
  omega

end

end Traced

end Wire
