import Fingerprints.Wire.Outcome
import Mathlib.Algebra.Group.Nat.Defs
import Mathlib.Data.List.Basic

/-!
# Guarded reads and writes through a 32-bit cursor

The reader and the writer of a byte buffer that keep their position in a `uint32_t` counter. A
field of `n` bytes is guarded by comparing `counter + n`, computed modulo `2 ^ 32`, with the size
of the buffer; the bytes are then moved one at a time, the counter going up with each.

Where the sum does not reach `2 ^ 32` the guard is exact: the field is moved when it fits
(`readField_fits`, `writeField_fits`) and refused otherwise. Where it does, the guard lets the
field pass and the byte loop leaves the buffer (`readField_wraps`, `writeField_wraps`).
-/

namespace Wire

open Outcome

/-- A value as a `uint32_t` holds it. -/
def wrap32 (n : Nat) : Nat := n % 2 ^ 32

theorem wrap32_of_lt {n : Nat} (h : n < 2 ^ 32) : wrap32 n = n := Nat.mod_eq_of_lt h

theorem wrap32_lt (n : Nat) : wrap32 n < 2 ^ 32 := Nat.mod_lt _ (by decide)

/-- The sum of two counter values that leaves the range comes out below either of them. -/
theorem wrap32_add_of_le {c n : Nat} (hc : c < 2 ^ 32) (hn : n < 2 ^ 32) (h : 2 ^ 32 ≤ c + n) :
    wrap32 (c + n) < c := by
  unfold wrap32
  omega

/-! ## Single bytes -/

/-- `buf[i]` -/
def load (buf : List UInt8) (i : Nat) : Outcome UInt8 :=
  match buf[i]? with
  | some b => .ok b
  | none => .fault (.load i)

/-- `buf[i] = b` -/
def store (buf : List UInt8) (i : Nat) (b : UInt8) : Outcome (List UInt8) :=
  if i < buf.length then .ok (buf.set i b) else .fault (.store i)

/-- `memset(buf, b, n)` -/
def fill (buf : List UInt8) (n : Nat) (b : UInt8) : Outcome (List UInt8) :=
  if n ≤ buf.length then .ok (List.replicate n b ++ buf.drop n) else .fault (.store buf.length)

theorem load_append (pre : List UInt8) (b : UInt8) (post : List UInt8) :
    load (pre ++ b :: post) pre.length = .ok b := by
  simp [load]

theorem load_of_le {buf : List UInt8} {i : Nat} (h : buf.length ≤ i) :
    load buf i = .fault (.load i) := by
  simp [load, List.getElem?_eq_none h]

theorem store_append (pre : List UInt8) (old b : UInt8) (post : List UInt8) :
    store (pre ++ old :: post) pre.length b = .ok (pre ++ b :: post) := by
  simp [store]

theorem store_of_le {buf : List UInt8} {i : Nat} (h : buf.length ≤ i) (b : UInt8) :
    store buf i b = .fault (.store i) := by
  simp [store, Nat.not_lt.mpr h]

theorem fill_eq {buf : List UInt8} {n : Nat} (h : buf.length = n) (b : UInt8) :
    fill buf n b = .ok (List.replicate n b) := by
  simp [fill, ← h]

/-! ## Reading -/

/-- `n` reads of `buf[c++]`: the bytes read and the counter after them. -/
def loadN (buf : List UInt8) : (n c : Nat) → Outcome (List UInt8 × Nat)
  | 0, c => .ok ([], c)
  | n + 1, c => do
      let b ← load buf c
      let (bs, c) ← loadN buf n (wrap32 (c + 1))
      .ok (b :: bs, c)

/-- The loop `for (i = …; …) dst[i] = buf[c++]`, `n` turns of it from the index `i`. -/
def copyN (buf : List UInt8) : (n i c : Nat) → (dst : List UInt8) → Outcome (List UInt8 × Nat)
  | 0, _, c, dst => .ok (dst, c)
  | n + 1, i, c, dst => do
      let b ← load buf c
      let dst ← store dst i b
      copyN buf n (i + 1) (wrap32 (c + 1)) dst

/-- A field of `n` bytes at the counter: its bytes, or `none` where the guard refuses it. -/
def readField (buf : List UInt8) (size n c : Nat) : Outcome (Option (List UInt8) × Nat) :=
  if wrap32 (c + n) > size then .ok (none, c)
  else do
    let (bs, c) ← loadN buf n c
    .ok (some bs, c)

/-- A field of `n` bytes read into `dst`. -/
def copyField (dst buf : List UInt8) (size n c : Nat) : Outcome (Option (List UInt8) × Nat) :=
  if wrap32 (c + n) > size then .ok (none, c)
  else do
    let (dst, c) ← copyN buf n 0 c dst
    .ok (some dst, c)

/-- Bytes of the buffer are read as they stand, and the counter moves past them. -/
theorem loadN_append (pre bs post : List UInt8) (h : pre.length + bs.length < 2 ^ 32) :
    loadN (pre ++ (bs ++ post)) bs.length pre.length = .ok (bs, pre.length + bs.length) := by
  induction bs generalizing pre with
  | nil => rfl
  | cons b bs ih =>
    have h' : (pre ++ [b]).length + bs.length < 2 ^ 32 := by simp at h ⊢; omega
    have hrest := ih (pre ++ [b]) h'
    rw [List.length_append, List.length_singleton, List.append_assoc, List.singleton_append]
      at hrest
    rw [List.length_cons, loadN, List.cons_append, load_append, ok_bind,
      wrap32_of_lt (by simp at h; omega), hrest]
    simp only [ok_bind]
    rw [show pre.length + 1 + bs.length = pre.length + (bs.length + 1) from by omega]

/-- A loop of reads that runs past the end of the buffer faults at the end. Induction on the
bytes that remain before it. -/
theorem loadN_past {buf : List UInt8} (hbuf : buf.length < 2 ^ 32) {n c : Nat}
    (hc : c ≤ buf.length) (h : buf.length < c + n) :
    loadN buf n c = .fault (.load buf.length) := by
  induction n generalizing c with
  | zero => omega
  | succ n ih =>
    rcases Nat.lt_or_eq_of_le hc with hlt | rfl
    · have hload : load buf c = .ok buf[c] := by simp [load, List.getElem?_eq_getElem hlt]
      rw [loadN, hload, ok_bind, wrap32_of_lt (by omega), ih (by omega) (by omega), fault_bind]
    · rw [loadN, load_of_le (Nat.le_refl _), fault_bind]

/-- Copying into a destination that holds the bytes already copied and one place for each byte
still to come is reading: the destination is never written past its end. -/
theorem copyN_eq (buf : List UInt8) (n c : Nat) (pre post : List UInt8) (h : post.length = n) :
    copyN buf n pre.length c (pre ++ post)
      = (do let (bs, c) ← loadN buf n c
            .ok (pre ++ bs, c)) := by
  induction n generalizing c pre post with
  | zero =>
    rw [List.length_eq_zero_iff.mp h]
    rfl
  | succ n ih =>
    match post, h with
    | old :: post, h =>
      rw [copyN, loadN]
      cases load buf c with
      | err code => rfl
      | fault f => rfl
      | ok b =>
        have hrest := ih (wrap32 (c + 1)) (pre ++ [b]) post (by simpa using h)
        rw [List.length_append, List.length_singleton, List.append_assoc, List.singleton_append]
          at hrest
        rw [ok_bind, ok_bind, store_append, ok_bind, hrest]
        cases loadN buf n (wrap32 (c + 1)) <;> simp

/-- A destination of the field's length is only ever written inside. -/
theorem copyField_eq_readField {dst : List UInt8} {n : Nat} (h : dst.length = n)
    (buf : List UInt8) (size c : Nat) :
    copyField dst buf size n c = readField buf size n c := by
  have hcopy := copyN_eq buf n c [] dst h
  rw [List.length_nil, List.nil_append] at hcopy
  unfold copyField readField
  rw [hcopy]
  split
  · rfl
  · cases loadN buf n c <;> rfl

/-- The exact reader: a field of `n` bytes at `c` is there or it is not, and the counter moves
only when it is. -/
def takeField (buf : List UInt8) (n c : Nat) : Option (List UInt8) × Nat :=
  if c + n ≤ buf.length then (some ((buf.drop c).take n), c + n) else (none, c)

theorem takeField_fits {buf : List UInt8} {n c : Nat} (h : c + n ≤ buf.length) :
    takeField buf n c = (some ((buf.drop c).take n), c + n) := if_pos h

theorem takeField_short {buf : List UInt8} {n c : Nat} (h : buf.length < c + n) :
    takeField buf n c = (none, c) := if_neg (by omega)

theorem takeField_append (pre bs post : List UInt8) :
    takeField (pre ++ (bs ++ post)) bs.length pre.length
      = (some bs, pre.length + bs.length) := by
  rw [takeField_fits (by simp)]
  simp

/-- As long as the end of the field is below `2 ^ 32`, the guarded reader is the exact one. -/
theorem readField_eq_takeField {buf : List UInt8} {n c : Nat} (hlt : c + n < 2 ^ 32) :
    readField buf buf.length n c = .ok (takeField buf n c) := by
  unfold readField
  rw [wrap32_of_lt hlt]
  by_cases h : c + n ≤ buf.length
  · rw [if_neg (Nat.not_lt.mpr h), takeField_fits h]
    have hsplit : buf = buf.take c ++ ((buf.drop c).take n ++ (buf.drop c).drop n) := by
      rw [List.take_append_drop, List.take_append_drop]
    have hpre : (buf.take c).length = c := by rw [List.length_take]; omega
    have hlen : ((buf.drop c).take n).length = n := by
      rw [List.length_take, List.length_drop]; omega
    have hload := loadN_append (buf.take c) ((buf.drop c).take n) ((buf.drop c).drop n)
      (by rw [hpre, hlen]; exact hlt)
    rw [hpre, hlen, ← hsplit] at hload
    rw [hload]
    rfl
  · rw [if_pos (Nat.not_le.mp h), takeField_short (Nat.not_le.mp h)]

/-- Where the end of the field reaches `2 ^ 32`, the guard lets the field pass and the reads
leave the buffer at its end. -/
theorem readField_wraps {buf : List UInt8} (hbuf : buf.length < 2 ^ 32) {n c : Nat}
    (hc : c ≤ buf.length) (hn : n < 2 ^ 32) (h : 2 ^ 32 ≤ c + n) :
    readField buf buf.length n c = .fault (.load buf.length) := by
  have hguard := wrap32_add_of_le (by omega : c < 2 ^ 32) hn h
  rw [readField, if_neg (by omega), loadN_past hbuf hc (by omega), fault_bind]

/-! ## Reading forward -/

/-- The bytes from the counter on. -/
def Remains (buf : List UInt8) (c : Nat) (rest : List UInt8) : Prop :=
  ∃ pre, buf = pre ++ rest ∧ pre.length = c

theorem Remains.start (buf : List UInt8) : Remains buf 0 buf := ⟨[], rfl, rfl⟩

/-- What remains once some of it has been read. -/
theorem Remains.advance {buf bs rest : List UInt8} {c : Nat} (h : Remains buf c (bs ++ rest)) :
    Remains buf (c + bs.length) rest := by
  obtain ⟨pre, rfl, rfl⟩ := h
  exact ⟨pre ++ bs, by rw [List.append_assoc], by rw [List.length_append]⟩

theorem Remains.length_eq {buf rest : List UInt8} {c : Nat} (h : Remains buf c rest) :
    buf.length = c + rest.length := by
  obtain ⟨pre, rfl, rfl⟩ := h
  exact List.length_append

/-- A field that remains is read. -/
theorem Remains.readField {buf bs rest : List UInt8} {c : Nat} (h : Remains buf c (bs ++ rest))
    (hbuf : buf.length < 2 ^ 32) :
    Wire.readField buf buf.length bs.length c = .ok (some bs, c + bs.length) := by
  have hlen := h.length_eq
  rw [List.length_append] at hlen
  obtain ⟨pre, rfl, rfl⟩ := h
  rw [readField_eq_takeField (by omega), takeField_append]

theorem Remains.load {buf rest : List UInt8} {b : UInt8} {c : Nat}
    (h : Remains buf c ([b] ++ rest)) : Wire.load buf c = .ok b := by
  obtain ⟨pre, rfl, rfl⟩ := h
  exact load_append pre b rest

/-- What remains is what the buffer holds there. -/
theorem remains_drop {buf : List UInt8} {c : Nat} (hc : c ≤ buf.length) :
    Remains buf c (buf.drop c) :=
  ⟨buf.take c, (List.take_append_drop c buf).symm, by rw [List.length_take]; omega⟩

/-! ## Writing -/

/-- Where a writer stands: the buffer, or `none` when it only counts, and its counter. -/
structure Sink where
  buf : Option (List UInt8)
  counter : Nat
  deriving DecidableEq, Repr

/-- A field to write. The guard of a `strict` field wants one byte of the buffer to spare. -/
structure Field where
  bytes : List UInt8
  strict : Bool
  deriving DecidableEq, Repr

/-- The guard of a field: it refuses the field when its end, as computed, is too far. -/
def Field.refused (f : Field) (stop size : Nat) : Bool :=
  if f.strict then stop ≥ size else stop > size

/-- `buf[c++] = b` for each byte in turn. -/
def storeN : List UInt8 → (buf : List UInt8) → (c : Nat) → Outcome (List UInt8 × Nat)
  | [], buf, c => .ok (buf, c)
  | b :: bs, buf, c => do
      let buf ← store buf c b
      storeN bs buf (wrap32 (c + 1))

/-- One field: whether it was written or counted, and where the writer stands after it. -/
def writeField (size : Nat) (f : Field) (s : Sink) : Outcome (Bool × Sink) :=
  match s.buf with
  | none => .ok (true, { s with counter := wrap32 (s.counter + f.bytes.length) })
  | some buf =>
    if f.refused (wrap32 (s.counter + f.bytes.length)) size then .ok (false, s)
    else do
      let (buf, c) ← storeN f.bytes buf s.counter
      .ok (true, { buf := some buf, counter := c })

/-- Fields one after the other, whether or not each was written. -/
def writeFields (size : Nat) : List Field → Sink → Outcome Sink
  | [], s => .ok s
  | f :: fs, s => do
      let (_, s) ← writeField size f s
      writeFields size fs s

theorem writeFields_cons {size : Nat} {f : Field} {s s' : Sink} {wrote : Bool}
    (h : writeField size f s = .ok (wrote, s')) (fs : List Field) :
    writeFields size (f :: fs) s = writeFields size fs s' := by
  rw [writeFields, h, ok_bind]

theorem writeFields_append (size : Nat) (fs gs : List Field) (s : Sink) :
    writeFields size (fs ++ gs) s = writeFields size fs s >>= writeFields size gs := by
  induction fs generalizing s with
  | nil => rfl
  | cons f fs ih =>
    rw [List.cons_append, writeFields, writeFields]
    cases writeField size f s with
    | ok r => exact ih r.2
    | err code => rfl
    | fault f => rfl

/-- The bytes of a sequence of fields. -/
def bytesOf (fs : List Field) : List UInt8 := fs.flatMap Field.bytes

@[simp] theorem bytesOf_nil : bytesOf [] = [] := rfl

@[simp] theorem bytesOf_cons (f : Field) (fs : List Field) :
    bytesOf (f :: fs) = f.bytes ++ bytesOf fs := rfl

@[simp] theorem bytesOf_append (fs gs : List Field) :
    bytesOf (fs ++ gs) = bytesOf fs ++ bytesOf gs := List.flatMap_append

/-- Counting gives the length of the fields modulo `2 ^ 32`. -/
theorem writeFields_count (size : Nat) (fs : List Field) {c : Nat} (hc : c < 2 ^ 32) :
    writeFields size fs { buf := none, counter := c }
      = .ok { buf := none, counter := wrap32 (c + (bytesOf fs).length) } := by
  induction fs generalizing c with
  | nil => simp [writeFields, wrap32_of_lt hc]
  | cons f fs ih =>
    rw [writeFields, writeField]
    simp only [ok_bind]
    rw [ih (wrap32_lt _)]
    simp only [wrap32, bytesOf_cons, List.length_append]
    rw [Nat.mod_add_mod, Nat.add_assoc]

/-- Bytes are stored over those that stood there, and nothing else changes. -/
theorem storeN_append (pre bs old post : List UInt8) (hold : old.length = bs.length)
    (h : pre.length + bs.length < 2 ^ 32) :
    storeN bs (pre ++ (old ++ post)) pre.length
      = .ok (pre ++ (bs ++ post), pre.length + bs.length) := by
  induction bs generalizing pre old with
  | nil =>
    rw [List.length_eq_zero_iff.mp hold]
    rfl
  | cons b bs ih =>
    match old, hold with
    | o :: old, hold =>
      have h' : (pre ++ [b]).length + bs.length < 2 ^ 32 := by simp at h ⊢; omega
      have hrest := ih (pre ++ [b]) old (by simpa using hold) h'
      rw [List.length_append, List.length_singleton, List.append_assoc, List.singleton_append,
        List.append_assoc, List.singleton_append] at hrest
      rw [storeN, List.cons_append, store_append, ok_bind,
        wrap32_of_lt (by simp at h; omega), hrest, List.length_cons, List.cons_append,
        show pre.length + 1 + bs.length = pre.length + (bs.length + 1) from by omega]

theorem storeN_past {buf bs : List UInt8} (hbuf : buf.length < 2 ^ 32) {c : Nat}
    (hc : c ≤ buf.length) (h : buf.length < c + bs.length) :
    storeN bs buf c = .fault (.store buf.length) := by
  induction bs generalizing buf c with
  | nil => simp at h; omega
  | cons b bs ih =>
    rw [List.length_cons] at h
    rcases Nat.lt_or_eq_of_le hc with hlt | rfl
    · have hset : (buf.set c b).length < 2 ^ 32 := by rwa [List.length_set]
      have hrest := ih hset (c := c + 1) (by rw [List.length_set]; omega)
        (by rw [List.length_set]; omega)
      rw [List.length_set] at hrest
      rw [storeN, store, if_pos hlt, ok_bind, wrap32_of_lt (by omega), hrest]
    · rw [storeN, store_of_le (Nat.le_refl _), fault_bind]

/-- Where the counter stands after a field that may have been refused. -/
def Field.stop (f : Field) (size c : Nat) : Nat :=
  if f.refused (c + f.bytes.length) size then c else c + f.bytes.length

theorem Field.not_refused_of_lt {f : Field} {stop size : Nat} (h : stop < size) :
    f.refused stop size = false := by
  unfold Field.refused
  split <;> simp <;> omega

theorem Field.le_of_not_refused {f : Field} {stop size : Nat} (h : f.refused stop size = false) :
    stop ≤ size := by
  unfold Field.refused at h
  split at h <;> simp at h <;> omega

theorem Field.stop_le {f : Field} {size c : Nat} (hc : c ≤ size) : f.stop size c ≤ size := by
  unfold Field.stop
  split
  · exact hc
  · exact Field.le_of_not_refused (Bool.eq_false_iff.mpr ‹_›)

/-- As long as the end of the field is below `2 ^ 32`, a field the guard admits is stored in
place. -/
theorem writeField_fits {size : Nat} (hsize : size < 2 ^ 32) (f : Field)
    (pre old post : List UInt8) (hold : old.length = f.bytes.length)
    (hadm : f.refused (pre.length + f.bytes.length) size = false) :
    writeField size f { buf := some (pre ++ (old ++ post)), counter := pre.length }
      = .ok (true, { buf := some (pre ++ (f.bytes ++ post)),
                     counter := pre.length + f.bytes.length }) := by
  have hle := Field.le_of_not_refused hadm
  simp only [writeField]
  rw [wrap32_of_lt (by omega), if_neg (by rw [hadm]; decide),
    storeN_append pre f.bytes old post hold (by omega), ok_bind]

theorem writeField_refused {size : Nat} (f : Field) (buf : List UInt8) {c : Nat}
    (hlt : c + f.bytes.length < 2 ^ 32) (h : f.refused (c + f.bytes.length) size = true) :
    writeField size f { buf := some buf, counter := c }
      = .ok (false, { buf := some buf, counter := c }) := by
  simp only [writeField]
  rw [wrap32_of_lt hlt, if_pos h]

/-- A field whose end is below `2 ^ 32` is written or refused, inside the buffer. -/
theorem writeField_in_range {f : Field} {buf : List UInt8} (hbuf : buf.length < 2 ^ 32)
    {c : Nat} (hc : c ≤ buf.length) (hlt : c + f.bytes.length < 2 ^ 32) :
    ∃ wrote buf', buf'.length = buf.length ∧
      writeField buf.length f { buf := some buf, counter := c }
        = .ok (wrote, { buf := some buf', counter := f.stop buf.length c }) := by
  cases h : f.refused (c + f.bytes.length) buf.length with
  | true =>
    refine ⟨false, buf, rfl, ?_⟩
    rw [writeField_refused f buf hlt h, Field.stop, if_pos h]
  | false =>
    have hle := Field.le_of_not_refused h
    have hpre : (buf.take c).length = c := by rw [List.length_take]; omega
    have hold : ((buf.drop c).take f.bytes.length).length = f.bytes.length := by
      rw [List.length_take, List.length_drop]; omega
    have hwrite := writeField_fits hbuf f (buf.take c) ((buf.drop c).take f.bytes.length)
      ((buf.drop c).drop f.bytes.length) hold (by rw [hpre]; exact h)
    rw [List.take_append_drop, List.take_append_drop, hpre] at hwrite
    have hlen : (buf.take c ++ (f.bytes ++ (buf.drop c).drop f.bytes.length)).length
        = buf.length := by
      simp only [List.length_append, List.length_drop, hpre]
      omega
    refine ⟨true, _, hlen, ?_⟩
    rw [hwrite, Field.stop, if_neg (by rw [h]; decide)]

/-- Where the end of the field reaches `2 ^ 32`, either guard lets the field pass and the stores
leave the buffer at its end. -/
theorem writeField_wraps {f : Field} {buf : List UInt8} (hbuf : buf.length < 2 ^ 32) {c : Nat}
    (hc : c ≤ buf.length) (hn : f.bytes.length < 2 ^ 32) (h : 2 ^ 32 ≤ c + f.bytes.length) :
    writeField buf.length f { buf := some buf, counter := c }
      = .fault (.store buf.length) := by
  have hguard := wrap32_add_of_le (by omega : c < 2 ^ 32) hn h
  simp only [writeField]
  rw [if_neg (by rw [Field.not_refused_of_lt (by omega)]; decide),
    storeN_past hbuf hc (by omega), fault_bind]

/-! ## Whole sequences of fields -/

/-- Every field is admitted where the fields before it end. -/
def AllAdmitted (size : Nat) : (c : Nat) → List Field → Prop
  | _, [] => True
  | c, f :: fs =>
      f.refused (c + f.bytes.length) size = false ∧ AllAdmitted size (c + f.bytes.length) fs

/-- A buffer that holds all of the fields admits each of them, when a field that is not strict
ends the sequence: every strict field then has a byte to spare. -/
theorem allAdmitted_of_last {size c : Nat} (fs : List Field) {last : Field}
    (hlast : last.strict = false) (hne : last.bytes ≠ [])
    (h : c + (bytesOf (fs ++ [last])).length ≤ size) : AllAdmitted size c (fs ++ [last]) := by
  have hpos : 0 < last.bytes.length := List.length_pos_iff.mpr hne
  induction fs generalizing c with
  | nil =>
    refine ⟨?_, trivial⟩
    simp at h
    simp [Field.refused, hlast]
    omega
  | cons f fs ih =>
    simp only [List.cons_append, bytesOf_cons, List.length_append] at h
    refine ⟨Field.not_refused_of_lt ?_, ih (by omega)⟩
    simp only [bytesOf_append, bytesOf_cons, bytesOf_nil, List.append_nil,
      List.length_append] at h
    omega

/-- Admitted fields are stored one after the other. -/
theorem writeFields_fits {size : Nat} (hsize : size < 2 ^ 32) (fs : List Field)
    (pre old post : List UInt8) (hold : old.length = (bytesOf fs).length)
    (hadm : AllAdmitted size pre.length fs) :
    writeFields size fs { buf := some (pre ++ (old ++ post)), counter := pre.length }
      = .ok { buf := some (pre ++ (bytesOf fs ++ post)),
              counter := pre.length + (bytesOf fs).length } := by
  induction fs generalizing pre old with
  | nil =>
    rw [List.length_eq_zero_iff.mp hold]
    rfl
  | cons f fs ih =>
    obtain ⟨hhead, htail⟩ := hadm
    rw [bytesOf_cons, List.length_append] at hold
    have hfirst : (old.take f.bytes.length).length = f.bytes.length := by
      rw [List.length_take]; omega
    have hwrite := writeField_fits hsize f pre (old.take f.bytes.length)
      (old.drop f.bytes.length ++ post) hfirst hhead
    rw [← List.append_assoc (List.take _ _), List.take_append_drop] at hwrite
    have hrest := ih (pre ++ f.bytes) (old.drop f.bytes.length)
      (by rw [List.length_drop]; omega) (by rw [List.length_append]; exact htail)
    rw [List.length_append, List.append_assoc, List.append_assoc] at hrest
    rw [writeFields_cons hwrite, hrest, bytesOf_cons, List.append_assoc, List.length_append,
      Nat.add_assoc]

/-- A buffer without room refuses every field that is strict or has a byte. -/
theorem writeFields_empty (fs : List Field) (hlen : ∀ f ∈ fs, f.bytes.length < 2 ^ 32)
    (hne : ∀ f ∈ fs, f.strict = true ∨ f.bytes ≠ []) :
    writeFields 0 fs { buf := some [], counter := 0 } = .ok { buf := some [], counter := 0 } := by
  induction fs with
  | nil => rfl
  | cons f fs ih =>
    have hrefused : f.refused (0 + f.bytes.length) 0 = true := by
      unfold Field.refused
      rcases hne f List.mem_cons_self with hstrict | hbytes
      · simp [hstrict]
      · have hpos := List.length_pos_iff.mpr hbytes
        split <;> simp [hpos]
    have hwrite := writeField_refused f [] (by simpa using hlen f List.mem_cons_self) hrefused
    rw [writeFields_cons hwrite]
    exact ih (fun g hg => hlen g (List.mem_cons_of_mem f hg))
      fun g hg => hne g (List.mem_cons_of_mem f hg)

/-- No field's end reaches `2 ^ 32`, each taken where the writer stands when it comes to it. -/
def EndsInRange (size : Nat) : (c : Nat) → List Field → Prop
  | _, [] => True
  | c, f :: fs => c + f.bytes.length < 2 ^ 32 ∧ EndsInRange size (f.stop size c) fs

/-- Fields are written inside the buffer exactly as long as no field's end reaches `2 ^ 32`. -/
theorem writeFields_faults_iff {buf : List UInt8} (hbuf : buf.length < 2 ^ 32) {c : Nat}
    (hc : c ≤ buf.length) (fs : List Field) (hlen : ∀ f ∈ fs, f.bytes.length < 2 ^ 32) :
    (writeFields buf.length fs { buf := some buf, counter := c }).Faults
      ↔ ¬ EndsInRange buf.length c fs := by
  induction fs generalizing buf c with
  | nil => simp [writeFields, EndsInRange]
  | cons f fs ih =>
    have hf := hlen f List.mem_cons_self
    by_cases hlt : c + f.bytes.length < 2 ^ 32
    · obtain ⟨wrote, buf', hbuf', hwrite⟩ := writeField_in_range hbuf hc hlt
      have hrest := ih (hbuf' ▸ hbuf : buf'.length < 2 ^ 32) (c := f.stop buf.length c)
        (by rw [hbuf']; exact Field.stop_le hc) (fun g hg => hlen g (List.mem_cons_of_mem f hg))
      rw [hbuf'] at hrest
      rw [writeFields_cons hwrite, hrest, EndsInRange, and_iff_right hlt]
    · rw [writeFields, writeField_wraps hbuf hc hf (by omega), fault_bind]
      refine iff_of_true (faults_fault _) ?_
      intro hends
      exact hlt hends.1

/-- Fields that all find room below `2 ^ 32` end in range wherever some of them are refused. -/
theorem endsInRange_of_total {size c : Nat} (fs : List Field)
    (h : c + (bytesOf fs).length < 2 ^ 32) : EndsInRange size c fs := by
  induction fs generalizing c with
  | nil => trivial
  | cons f fs ih =>
    rw [bytesOf_cons, List.length_append] at h
    refine ⟨by omega, ih ?_⟩
    unfold Field.stop
    split <;> omega

/-- Where the writer stands after a sequence of fields. -/
def stopAfter (size : Nat) : (c : Nat) → List Field → Nat
  | c, [] => c
  | c, f :: fs => stopAfter size (f.stop size c) fs

/-- Fields whose ends are in range are written inside the buffer, each or not. Induction on the
fields. -/
theorem writeFields_in_range {buf : List UInt8} (hbuf : buf.length < 2 ^ 32) {c : Nat}
    (hc : c ≤ buf.length) {fs : List Field} (hends : EndsInRange buf.length c fs) :
    ∃ buf', buf'.length = buf.length ∧
      writeFields buf.length fs { buf := some buf, counter := c }
        = .ok { buf := some buf', counter := stopAfter buf.length c fs } := by
  induction fs generalizing buf c with
  | nil => exact ⟨buf, rfl, rfl⟩
  | cons f fs ih =>
    obtain ⟨wrote, stored, hstored, hwrite⟩ := writeField_in_range hbuf hc hends.1
    have hrest := @ih stored (by rwa [hstored]) (f.stop buf.length c)
      (by rw [hstored]; exact Field.stop_le hc)
    rw [hstored] at hrest
    obtain ⟨buf', hbuf', hwrites⟩ := hrest hends.2
    refine ⟨buf', hbuf', ?_⟩
    rw [writeFields_cons hwrite, hwrites]
    rfl

/-! ## The length of the buffer -/

theorem length_of_store {buf buf' : List UInt8} {i : Nat} {b : UInt8}
    (h : store buf i b = .ok buf') : buf'.length = buf.length := by
  unfold store at h
  split at h
  · cases h
    exact List.length_set
  · cases h

theorem length_of_storeN {bs buf buf' : List UInt8} {c c' : Nat}
    (h : storeN bs buf c = .ok (buf', c')) : buf'.length = buf.length := by
  induction bs generalizing buf c with
  | nil =>
    cases h
    rfl
  | cons b bs ih =>
    obtain ⟨stored, hstore, hrest⟩ := bind_eq_ok.mp h
    rw [ih hrest, length_of_store hstore]

theorem length_of_writeField {size : Nat} {f : Field} {s s' : Sink} {wrote : Bool}
    (h : writeField size f s = .ok (wrote, s')) :
    s'.buf.map List.length = s.buf.map List.length := by
  unfold writeField at h
  split at h
  · cases h
    rfl
  · next buf hbuf =>
    split at h
    · cases h
      rfl
    · obtain ⟨stored, hstore, h⟩ := bind_eq_ok.mp h
      cases h
      rw [hbuf, Option.map_some, Option.map_some, length_of_storeN hstore]

/-- Fields are written into the buffer, not behind it. -/
theorem length_of_writeFields {size : Nat} {fs : List Field} {s s' : Sink}
    (h : writeFields size fs s = .ok s') : s'.buf.map List.length = s.buf.map List.length := by
  induction fs generalizing s with
  | nil =>
    cases h
    rfl
  | cons f fs ih =>
    obtain ⟨⟨wrote, next⟩, hfield, hrest⟩ := bind_eq_ok.mp h
    rw [ih hrest, length_of_writeField hfield]

end Wire
