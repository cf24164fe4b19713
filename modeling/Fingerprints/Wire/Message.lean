import Fingerprints.Wire.Outcome
import Fingerprints.Wire.Word
import Mathlib.Data.List.Basic

/-!
# Fields of a shared message

A message that two parties share is a buffer whose fields stand at fixed offsets, in little-endian
order. `loadSpan` and `storeSpan` move a run of bytes and fault when it does not lie inside the
buffer; inside, they are the total functions `slice` and `overlay`, so that a computation that has
checked the length of its message once is an equation between these.
-/

namespace Wire

open Outcome

/-! ## Spans -/

/-- The `n` bytes at an offset. -/
def slice (buf : List UInt8) (off n : Nat) : List UInt8 := (buf.drop off).take n

/-- The buffer with bytes laid over it from an offset on. -/
def overlay (buf : List UInt8) (off : Nat) (bytes : List UInt8) : List UInt8 :=
  buf.take off ++ (bytes ++ buf.drop (off + bytes.length))

/-- `memcpy(…, buf + off, n)` -/
def loadSpan (buf : List UInt8) (off n : Nat) : Outcome (List UInt8) :=
  if n = 0 ∨ off + n ≤ buf.length then .ok (slice buf off n)
  else .fault (.load (max off buf.length))

/-- `memcpy(buf + off, bytes, …)` -/
def storeSpan (buf : List UInt8) (off : Nat) (bytes : List UInt8) : Outcome (List UInt8) :=
  if bytes.length = 0 ∨ off + bytes.length ≤ buf.length then .ok (overlay buf off bytes)
  else .fault (.store (max off buf.length))

theorem length_slice {buf : List UInt8} {off n : Nat} (h : off + n ≤ buf.length) :
    (slice buf off n).length = n := by
  simp [slice]
  omega

theorem length_overlay {buf : List UInt8} {off : Nat} {bytes : List UInt8}
    (h : off + bytes.length ≤ buf.length) : (overlay buf off bytes).length = buf.length := by
  simp [overlay]
  omega

theorem loadSpan_eq {buf : List UInt8} {off n : Nat} (h : off + n ≤ buf.length) :
    loadSpan buf off n = .ok (slice buf off n) := if_pos (Or.inr h)

theorem storeSpan_eq {buf : List UInt8} {off : Nat} {bytes : List UInt8}
    (h : off + bytes.length ≤ buf.length) :
    storeSpan buf off bytes = .ok (overlay buf off bytes) := if_pos (Or.inr h)

theorem outOfBounds_loadSpan {buf : List UInt8} {off n : Nat} :
    (loadSpan buf off n).OutOfBounds ↔ n ≠ 0 ∧ buf.length < off + n := by
  unfold loadSpan
  split
  · next h => exact iff_of_false (not_outOfBounds_ok _) (by omega)
  · next h => exact iff_of_true trivial (by omega)

theorem outOfBounds_storeSpan {buf : List UInt8} {off : Nat} {bytes : List UInt8} :
    (storeSpan buf off bytes).OutOfBounds ↔
      bytes.length ≠ 0 ∧ buf.length < off + bytes.length := by
  unfold storeSpan
  split
  · next h => exact iff_of_false (not_outOfBounds_ok _) (by omega)
  · next h => exact iff_of_true trivial (by omega)

/-- What was laid over the buffer is read back. -/
theorem slice_overlay {buf : List UInt8} {off : Nat} {bytes : List UInt8}
    (h : off ≤ buf.length) : slice (overlay buf off bytes) off bytes.length = bytes := by
  have htake : (buf.take off).length = off := by simp; omega
  rw [slice, overlay, List.drop_append_of_le_length (by omega), List.drop_of_length_le (by omega),
    List.nil_append, List.take_left']
  rfl

/-- A part of what was laid over the buffer is read back. -/
theorem slice_overlay_inside {buf : List UInt8} {off k n : Nat} {bytes : List UInt8}
    (h : off ≤ buf.length) (hin : k + n ≤ bytes.length) :
    slice (overlay buf off bytes) (off + k) n = slice bytes k n := by
  have htake : (buf.take off).length = off := by simp; omega
  have hdrop : (overlay buf off bytes).drop (off + k)
      = (bytes ++ buf.drop (off + bytes.length)).drop k := by
    rw [overlay, ← List.drop_drop, List.drop_left' htake]
  rw [slice, hdrop, List.drop_append_of_le_length (by omega),
    List.take_append_of_le_length (by rw [List.length_drop]; omega), slice]

/-- The last bytes of a slice, as far as it goes, are a slice too. -/
theorem drop_slice {buf : List UInt8} {off n k : Nat} (h : k ≤ (slice buf off n).length) :
    (slice buf off n).drop ((slice buf off n).length - k)
      = slice buf (off + ((slice buf off n).length - k)) k := by
  have hlength : (slice buf off n).length = min n (buf.length - off) := by
    rw [slice, List.length_take, List.length_drop]
  generalize hm : (slice buf off n).length - k = m
  rw [slice, slice, List.drop_take, List.drop_drop, List.take_eq_take_iff, List.length_drop]
  omega

/-- Bytes beside what was laid over the buffer are untouched: frame. -/
theorem slice_overlay_of_disjoint {buf : List UInt8} {off o n : Nat} {bytes : List UInt8}
    (hin : off + bytes.length ≤ buf.length) (h : o + n ≤ off ∨ off + bytes.length ≤ o) :
    slice (overlay buf off bytes) o n = slice buf o n := by
  have htake : (buf.take off).length = off := by simp; omega
  apply List.ext_getElem?
  intro i
  unfold slice overlay
  rw [List.getElem?_take, List.getElem?_take]
  split
  · rw [List.getElem?_drop, List.getElem?_drop]
    cases h with
    | inl h =>
      rw [List.getElem?_append_left (by omega), List.getElem?_take_of_lt (by omega)]
    | inr h =>
      rw [List.getElem?_append_right (by omega), List.getElem?_append_right (by omega),
        List.getElem?_drop, htake]
      congr 1
      omega
  · rfl

/-- What was laid over the buffer, with what is in front of it. -/
theorem take_overlay {buf : List UInt8} {off : Nat} (bytes : List UInt8) (h : off ≤ buf.length) :
    (overlay buf off bytes).take (off + bytes.length) = buf.take off ++ bytes := by
  have htake : (buf.take off).length = off := by simp; omega
  rw [overlay, ← List.append_assoc]
  apply List.take_left'
  rw [List.length_append, htake]

/-- Bytes laid over a buffer right behind others are laid over it with them. -/
theorem overlay_overlay {buf : List UInt8} {off : Nat} {a b : List UInt8}
    (h : off + a.length ≤ buf.length) :
    overlay (overlay buf off a) (off + a.length) b = overlay buf off (a ++ b) := by
  have htake : (buf.take off ++ a).length = off + a.length := by simp; omega
  have hover : overlay buf off a = (buf.take off ++ a) ++ buf.drop (off + a.length) := by
    rw [overlay, List.append_assoc]
  rw [hover, overlay, List.take_left' htake, ← htake, List.drop_append, htake, overlay]
  simp only [List.length_append, List.drop_drop, List.append_assoc]
  congr 4
  rw [List.drop_of_length_le (by omega), List.nil_append]
  congr 1
  omega

theorem storeSpan_ok {buf buf' : List UInt8} {off : Nat} {bytes : List UInt8}
    (h : storeSpan buf off bytes = .ok buf') (hne : bytes.length ≠ 0) :
    off + bytes.length ≤ buf.length ∧ buf' = overlay buf off bytes := by
  unfold storeSpan at h
  split at h
  · next hin =>
    cases h
    exact ⟨hin.resolve_left hne, rfl⟩
  · cases h

theorem length_of_storeSpan {buf buf' : List UInt8} {off : Nat} {bytes : List UInt8}
    (h : storeSpan buf off bytes = .ok buf') : buf'.length = buf.length := by
  unfold storeSpan at h
  split at h
  · next hin =>
    cases h
    simp only [overlay, List.length_append, List.length_take, List.length_drop]
    omega
  · cases h

/-- A store inside the buffer goes through. -/
theorem exists_storeSpan {buf bytes : List UInt8} {off : Nat}
    (h : off + bytes.length ≤ buf.length) :
    ∃ buf', storeSpan buf off bytes = .ok buf' ∧ buf'.length = buf.length :=
  ⟨_, storeSpan_eq h, length_overlay h⟩

/-! ## Words -/

/-- The 32-bit field at an offset. -/
def field32 (buf : List UInt8) (off : Nat) : UInt32 := ofLe32 (slice buf off 4)

/-- The 64-bit field at an offset. -/
def field64 (buf : List UInt8) (off : Nat) : UInt64 := ofLe64 (slice buf off 8)

def load32 (buf : List UInt8) (off : Nat) : Outcome UInt32 := do
  let bytes ← loadSpan buf off 4
  .ok (ofLe32 bytes)

def load64 (buf : List UInt8) (off : Nat) : Outcome UInt64 := do
  let bytes ← loadSpan buf off 8
  .ok (ofLe64 bytes)

/-- The buffer with a 32-bit field set. -/
def put32 (buf : List UInt8) (off : Nat) (x : UInt32) : List UInt8 := overlay buf off (le32 x)

/-- The buffer with a 64-bit field set. -/
def put64 (buf : List UInt8) (off : Nat) (x : UInt64) : List UInt8 := overlay buf off (le64 x)

def store32 (buf : List UInt8) (off : Nat) (x : UInt32) : Outcome (List UInt8) :=
  storeSpan buf off (le32 x)

def store64 (buf : List UInt8) (off : Nat) (x : UInt64) : Outcome (List UInt8) :=
  storeSpan buf off (le64 x)

theorem load32_eq {buf : List UInt8} {off : Nat} (h : off + 4 ≤ buf.length) :
    load32 buf off = .ok (field32 buf off) := by
  rw [load32, loadSpan_eq h, ok_bind, field32]

theorem load64_eq {buf : List UInt8} {off : Nat} (h : off + 8 ≤ buf.length) :
    load64 buf off = .ok (field64 buf off) := by
  rw [load64, loadSpan_eq h, ok_bind, field64]

theorem loadSpan_ok {buf bytes : List UInt8} {off n : Nat} (h : loadSpan buf off n = .ok bytes) :
    bytes = slice buf off n := by
  unfold loadSpan at h
  split at h
  · cases h
    rfl
  · cases h

theorem load32_ok {buf : List UInt8} {off : Nat} {x : UInt32} (h : load32 buf off = .ok x) :
    x = field32 buf off := by
  obtain ⟨bytes, hspan, hx⟩ := bind_eq_ok.mp h
  cases hx
  rw [loadSpan_ok hspan, field32]

theorem store32_eq {buf : List UInt8} {off : Nat} (h : off + 4 ≤ buf.length) (x : UInt32) :
    store32 buf off x = .ok (put32 buf off x) := storeSpan_eq h

theorem store64_eq {buf : List UInt8} {off : Nat} (h : off + 8 ≤ buf.length) (x : UInt64) :
    store64 buf off x = .ok (put64 buf off x) := storeSpan_eq h

theorem length_put32 {buf : List UInt8} {off : Nat} (h : off + 4 ≤ buf.length) (x : UInt32) :
    (put32 buf off x).length = buf.length := length_overlay h

theorem length_put64 {buf : List UInt8} {off : Nat} (h : off + 8 ≤ buf.length) (x : UInt64) :
    (put64 buf off x).length = buf.length := length_overlay h

theorem field32_put32 {buf : List UInt8} {off : Nat} (h : off ≤ buf.length) (x : UInt32) :
    field32 (put32 buf off x) off = x := by
  have hslice : slice (put32 buf off x) off 4 = le32 x := slice_overlay h
  rw [field32, hslice, ofLe32_le32]

theorem field64_put64 {buf : List UInt8} {off : Nat} (h : off ≤ buf.length) (x : UInt64) :
    field64 (put64 buf off x) off = x := by
  have hslice : slice (put64 buf off x) off 8 = le64 x := slice_overlay h
  rw [field64, hslice, ofLe64_le64]

theorem slice_put32 {buf : List UInt8} {off o n : Nat} (hin : off + 4 ≤ buf.length)
    (h : o + n ≤ off ∨ off + 4 ≤ o) (x : UInt32) :
    slice (put32 buf off x) o n = slice buf o n := slice_overlay_of_disjoint hin h

theorem field32_overlay {buf : List UInt8} {off o : Nat} {bytes : List UInt8}
    (hin : off + bytes.length ≤ buf.length) (h : o + 4 ≤ off ∨ off + bytes.length ≤ o) :
    field32 (overlay buf off bytes) o = field32 buf o := by
  rw [field32, slice_overlay_of_disjoint hin h, field32]

theorem field32_put32_of_disjoint {buf : List UInt8} {off o : Nat} {x : UInt32}
    (hin : off + 4 ≤ buf.length) (h : o + 4 ≤ off ∨ off + 4 ≤ o) :
    field32 (put32 buf off x) o = field32 buf o :=
  field32_overlay hin h

theorem field64_overlay {buf : List UInt8} {off o : Nat} {bytes : List UInt8}
    (hin : off + bytes.length ≤ buf.length) (h : o + 8 ≤ off ∨ off + bytes.length ≤ o) :
    field64 (overlay buf off bytes) o = field64 buf o := by
  rw [field64, slice_overlay_of_disjoint hin h, field64]

theorem length_of_store32 {buf buf' : List UInt8} {off : Nat} {x : UInt32}
    (h : store32 buf off x = .ok buf') : buf'.length = buf.length := length_of_storeSpan h

/-- A store of a field that went through, where the buffer holds the field. -/
theorem store32_ok {buf buf' : List UInt8} {off : Nat} {x : UInt32}
    (h : store32 buf off x = .ok buf') : off + 4 ≤ buf.length ∧ buf' = put32 buf off x := by
  have hstored := storeSpan_ok h (by rw [length_le32]; decide)
  rwa [length_le32] at hstored

theorem store64_ok {buf buf' : List UInt8} {off : Nat} {x : UInt64}
    (h : store64 buf off x = .ok buf') : off + 8 ≤ buf.length ∧ buf' = put64 buf off x := by
  have hstored := storeSpan_ok h (by rw [length_le64]; decide)
  rwa [length_le64] at hstored

theorem load64_ok {buf : List UInt8} {off : Nat} {x : UInt64} (h : load64 buf off = .ok x) :
    x = field64 buf off := by
  obtain ⟨bytes, hspan, hx⟩ := bind_eq_ok.mp h
  cases hx
  rw [loadSpan_ok hspan, field64]

/-- A field in front of what was stored. -/
theorem field32_of_storeSpan {buf buf' bytes : List UInt8} {off o : Nat}
    (h : storeSpan buf off bytes = .ok buf') (hbefore : o + 4 ≤ off) :
    field32 buf' o = field32 buf o := by
  cases bytes with
  | nil =>
    have hsame : buf' = buf := by
      cases h
      rw [overlay, List.nil_append, List.length_nil, Nat.add_zero, List.take_append_drop]
    rw [hsame]
  | cons b bytes =>
    obtain ⟨hin, rfl⟩ := storeSpan_ok h (Nat.succ_ne_zero _)
    exact field32_overlay hin (Or.inl hbefore)

/-! ## Results -/

/-- The word that a C `int` is stored as. -/
def ofInt32 (r : Int) : UInt32 := (Int32.ofInt r).toUInt32

/-- The C `int` that a word holds. -/
def toInt32 (x : UInt32) : Int := x.toInt32.toInt

/-- The range of a C `int`. -/
def FitsInt (r : Int) : Prop := -2 ^ 31 ≤ r ∧ r < 2 ^ 31

instance (r : Int) : Decidable (FitsInt r) := inferInstanceAs (Decidable (_ ∧ _))

theorem fitsInt_toInt (x : Int32) : FitsInt x.toInt := ⟨x.le_toInt, x.toInt_lt⟩

/-- A negative result of the range of `int`, as every error code is. -/
def IsError (code : Int) : Prop := -2 ^ 31 ≤ code ∧ code < 0

instance (code : Int) : Decidable (IsError code) := inferInstanceAs (Decidable (_ ∧ _))

theorem IsError.ne_zero {code : Int} (h : IsError code) : code ≠ 0 := by
  intro hzero
  rw [hzero] at h
  exact absurd h.2 (by decide)

theorem IsError.fitsInt {code : Int} (h : IsError code) : FitsInt code :=
  ⟨h.1, lt_trans h.2 (by decide)⟩

/-- A result of the range of `int` is read back from the word that holds it. -/
theorem toInt32_ofInt32 {r : Int} (h : FitsInt r) : toInt32 (ofInt32 r) = r := by
  rw [toInt32, ofInt32, Int32.toInt32_toUInt32, Int32.toInt_ofInt_of_le h.1 h.2]

/-- The word of an `int` that came from a word. -/
@[simp] theorem ofInt32_toInt32 (x : UInt32) : ofInt32 (toInt32 x) = x := by
  rw [ofInt32, toInt32, Int32.ofInt_toInt, UInt32.toUInt32_toInt32]

end Wire
