import Fingerprints.Db.Pack

/-!
# The layout of an encoded database

`TemplateDb.image` is the byte layout of the three format versions, written down from what a
database says and not from the packer. The packer refines it: a database whose slots are each
valid or invalid counts the length of its version 4 image, and into a buffer of that length it
writes the image (`fpcDbGetData_image`).
-/

namespace Fpc

open Wire Wire.Outcome

/-! ## The layout -/

/-- A slot: the word 0, or the word 1 and the finger. User ids came with version 3. -/
def slotImage (ver : UInt8) : Option Finger → List UInt8
  | none => be32 fpcDbEntryInvalid
  | some f =>
      be32 fpcDbEntryValid ++ (f.id.toList ++ ((if ver ≥ fpcDbVersion3 then be64 f.userId else [])
        ++ (be32 (UInt32.ofNat f.template.length) ++ f.template)))

/-- Slots one after the other. -/
def slotsImage (ver : UInt8) (slots : List (Option Finger)) : List UInt8 :=
  slots.flatMap (slotImage ver)

/-- A set: key, marker, set id, state id, slots. State ids came with version 4. -/
def setImage (ver : UInt8) (s : FingerSet) : List UInt8 :=
  be32 s.key ++ (be32 fpcDbMarkerStartOfSIds ++ (s.id.toList
    ++ ((if ver ≥ fpcDbVersion4 then s.stateId.toList else []) ++ slotsImage ver s.slots.toList)))

/-- The set count, the marker after it, and the set. -/
def bodyImage (ver : UInt8) : Option FingerSet → List UInt8
  | none => be32 0 ++ be32 fpcDbMarkerStartOfSets
  | some s => be32 1 ++ (be32 fpcDbMarkerStartOfSets ++ setImage ver s)

/-- A whole image. Database ids came with version 3. -/
def TemplateDb.image (ver : UInt8) (db : TemplateDb) : List UInt8 :=
  be32 fpcDbMarkerStartOfDb ++ ([ver]
    ++ ((if ver ≥ fpcDbVersion3 then be64 db.databaseId else [])
    ++ (bodyImage ver db.set ++ be32 fpcDbMarkerEndOfFile)))

@[simp] theorem slotsImage_nil (ver : UInt8) : slotsImage ver [] = [] := rfl

@[simp] theorem slotsImage_cons (ver : UInt8) (slot : Option Finger)
    (slots : List (Option Finger)) :
    slotsImage ver (slot :: slots) = slotImage ver slot ++ slotsImage ver slots := rfl

/-! Version 4 has every field. -/

theorem slotImage_v4 (f : Finger) :
    slotImage fpcDbVersion4 (some f)
      = be32 fpcDbEntryValid ++ (f.id.toList ++ (be64 f.userId
          ++ (be32 (UInt32.ofNat f.template.length) ++ f.template))) := rfl

theorem setImage_v4 (s : FingerSet) :
    setImage fpcDbVersion4 s
      = be32 s.key ++ (be32 fpcDbMarkerStartOfSIds ++ (s.id.toList ++ (s.stateId.toList
          ++ slotsImage fpcDbVersion4 s.slots.toList))) := rfl

theorem image_v4 (db : TemplateDb) :
    db.image fpcDbVersion4
      = be32 fpcDbMarkerStartOfDb ++ ([fpcDbVersion4] ++ (be64 db.databaseId
          ++ (bodyImage fpcDbVersion4 db.set ++ be32 fpcDbMarkerEndOfFile))) := rfl

/-! ## The packer writes the layout -/

/-- Packing slots that are each valid or invalid succeeds, and their fields are their image. -/
theorem slotFields_image {fs : List Fingerprint} (h : ∀ f ∈ fs, f.Flagged) :
    (slotFields fs).1 = 0 ∧
      bytesOf (slotFields fs).2 = slotsImage fpcDbVersion4 (fs.map Fingerprint.view) := by
  induction fs with
  | nil => exact ⟨rfl, rfl⟩
  | cons f fs ih =>
    obtain ⟨hstatus, hbytes⟩ := ih fun g hg => h g (List.mem_cons_of_mem f hg)
    rcases h f List.mem_cons_self with hinvalid | hvalid
    · have hne : f.valid ≠ fpcDbEntryValid := by rw [hinvalid]; decide
      unfold slotFields
      rw [if_neg hne, if_pos hinvalid, List.map_cons, Fingerprint.view_of_invalid hinvalid]
      exact ⟨hstatus, by simp [wordField, slotImage, hinvalid, hbytes]⟩
    · unfold slotFields
      rw [if_pos hvalid, List.map_cons, Fingerprint.view_of_valid hvalid]
      refine ⟨hstatus, ?_⟩
      simp only [bytesOf_cons, hbytes, wordField, arrayField, longField, slotsImage_cons,
        slotImage_v4, hvalid, List.append_assoc]

/-- Packing such a database succeeds, and its fields are its version 4 image. -/
theorem dbFields_image {d : FingerprintDatabase} (hd : d.Flagged) :
    (dbFields d).1 = 0 ∧ bytesOf (dbFields d).2 = d.view.image fpcDbVersion4 := by
  unfold dbFields FingerprintDatabase.setCount
  cases hset : d.pFingerprintSet with
  | none =>
    refine ⟨rfl, ?_⟩
    simp only [image_v4, FingerprintDatabase.view, hset, Option.map_none, bodyImage,
      setFields, bytesOf_cons, bytesOf_nil, wordField, arrayField, longField, List.append_assoc]
    rw [if_neg (by decide), List.append_nil]
  | some s =>
    obtain ⟨hstatus, hbytes⟩ := slotFields_image (hd s hset)
    refine ⟨hstatus, ?_⟩
    simp only [image_v4, FingerprintDatabase.view, hset, Option.map_some, bodyImage,
      setFields, slotFieldsEnd, setImage_v4, bytesOf_append, bytesOf_cons, bytesOf_nil, wordField,
      arrayField, longField, List.append_assoc, if_pos hstatus, hbytes, FingerprintSet.view,
      Vector.toList_map]
    rw [if_pos Option.isSome_some, List.append_nil]

/-- The fields of a database that can be packed end in a marker, which is not strict. -/
theorem dbFields_last {d : FingerprintDatabase} (h : (dbFields d).1 = 0) :
    ∃ fs, (dbFields d).2 = fs ++ [wordField fpcDbMarkerEndOfFile] := by
  have hset : ∃ fs, (setFields d.pFingerprintSet).2 = fs ++ [wordField fpcDbMarkerEndOfFile] := by
    unfold dbFields at h
    cases hs : d.pFingerprintSet with
    | none => exact ⟨[], rfl⟩
    | some s =>
      rw [hs] at h
      have hslots : (slotFields s.aFingerprintList.toList).1 = 0 := h
      simp only [setFields, slotFieldsEnd, if_pos hslots]
      rw [← List.cons_append, ← List.cons_append,
        ← List.cons_append, ← List.cons_append]
      exact ⟨_, rfl⟩
  obtain ⟨fs, hfs⟩ := hset
  rw [dbFields, hfs, ← List.cons_append, ← List.cons_append, ← List.cons_append,
    ← List.cons_append, ← List.cons_append]
  exact ⟨_, rfl⟩

/-- `fpc_db_get_data_size` gives the length of the image, as a `uint32_t` holds it. -/
theorem fpcDbGetDataSize_image {d : FingerprintDatabase} (hd : d.Flagged) :
    fpcDbGetDataSize d = .ok (wrap32 (d.view.image fpcDbVersion4).length) := by
  obtain ⟨hstatus, hbytes⟩ := dbFields_image hd
  rw [fpcDbGetDataSize, dbPack, dbPackV4_count, ok_bind, hstatus, hbytes]
  rfl

/-- Into a buffer of that length `fpc_db_get_data` writes the image: every field of the packer
is admitted, since the strict ones all have the end marker behind them. -/
theorem fpcDbGetData_image {d : FingerprintDatabase} (hd : d.Flagged)
    (hlt : (d.view.image fpcDbVersion4).length < 2 ^ 32) {out : List UInt8}
    (hout : out.length = (d.view.image fpcDbVersion4).length) :
    fpcDbGetData d out (d.view.image fpcDbVersion4).length
      = .ok (d.view.image fpcDbVersion4) := by
  obtain ⟨hstatus, hbytes⟩ := dbFields_image hd
  obtain ⟨fs, hfs⟩ := dbFields_last hstatus
  have hadm : AllAdmitted (d.view.image fpcDbVersion4).length 0 (dbFields d).2 := by
    rw [hfs]
    refine allAdmitted_of_last fs rfl (by simp [wordField, be32]) ?_
    rw [← hfs, hbytes, Nat.zero_add]
  have hwrite := writeFields_fits hlt (dbFields d).2 []
    (List.replicate (d.view.image fpcDbVersion4).length 1) []
    (by rw [hbytes, List.length_replicate]) hadm
  rw [hbytes, List.nil_append, List.nil_append, List.append_nil, List.append_nil,
    List.length_nil, Nat.zero_add] at hwrite
  rw [fpcDbGetData, dbPack, dbPackV4_write d hout, hwrite, ok_bind, ok_bind, hstatus]
  simp

/-- Into no buffer at all `fpc_db_get_data` writes nothing and reports success: every guard
refuses its field and the counter is where the caller expects it. -/
theorem fpcDbGetData_empty {d : FingerprintDatabase} (hd : d.Flagged) :
    fpcDbGetData d [] 0 = .ok [] := by
  have hwrite := writeFields_empty (dbFields d).2 (fun f hf => (packed_dbFields d f hf).length_lt)
    fun f hf => (packed_dbFields d f hf).strict_or_ne_nil
  rw [fpcDbGetData, dbPack, dbPackV4_write d (List.length_nil), List.replicate_zero, hwrite, ok_bind, ok_bind,
    (dbFields_image hd).1]
  rfl

/-! ## The length of an image -/

/-- The bytes a user id takes, and the bytes a database id takes. -/
def longLength (ver : UInt8) : Nat := if ver ≥ fpcDbVersion3 then 8 else 0

/-- The bytes a state id takes. -/
def stateIdLength (ver : UInt8) : Nat := if ver ≥ fpcDbVersion4 then 32 else 0

/-- The bytes a slot takes. -/
def slotLength (ver : UInt8) : Option Finger → Nat
  | none => 4
  | some f => 40 + longLength ver + f.template.length

theorem length_ite_be64 (ver : UInt8) (x : UInt64) :
    (if ver ≥ fpcDbVersion3 then be64 x else []).length = longLength ver := by
  unfold longLength
  split <;> rfl

theorem length_ite_stateId (ver : UInt8) (stateId : Id256) :
    (if ver ≥ fpcDbVersion4 then stateId.toList else []).length = stateIdLength ver := by
  unfold stateIdLength
  split
  · exact Vector.length_toList
  · rfl

theorem length_slotImage (ver : UInt8) (slot : Option Finger) :
    (slotImage ver slot).length = slotLength ver slot := by
  cases slot with
  | none => rfl
  | some f =>
    simp only [slotImage, slotLength, List.length_append, length_be32, Vector.length_toList,
      length_ite_be64]
    omega

theorem length_slotsImage (ver : UInt8) (slots : List (Option Finger)) :
    (slotsImage ver slots).length = (slots.map (slotLength ver)).sum := by
  induction slots with
  | nil => rfl
  | cons slot slots ih =>
    rw [slotsImage_cons, List.length_append, length_slotImage, ih, List.map_cons, List.sum_cons]

theorem length_image_none {ver : UInt8} {db : TemplateDb} (h : db.set = none) :
    (db.image ver).length = 17 + longLength ver := by
  simp only [TemplateDb.image, h, bodyImage, List.length_append, length_be32,
    List.length_singleton, length_ite_be64]
  omega

theorem length_image_some {ver : UInt8} {db : TemplateDb} {s : FingerSet} (h : db.set = some s) :
    (db.image ver).length
      = 57 + longLength ver + stateIdLength ver + (s.slots.toList.map (slotLength ver)).sum := by
  simp only [TemplateDb.image, h, bodyImage, setImage, List.length_append, length_be32,
    List.length_singleton, length_ite_be64, length_ite_stateId, Vector.length_toList,
    length_slotsImage]
  omega

/-- The bytes a database takes in a version 4 image: 25 without a set; with one, 97 and 4 for
each invalid slot, and 48 and the template for each valid one. -/
def FingerprintDatabase.packedLength (d : FingerprintDatabase) : Nat :=
  match d.pFingerprintSet with
  | none => 25
  | some s => 97 + (s.aFingerprintList.toList.map fun f =>
      if f.valid = fpcDbEntryValid then 48 + f.templateBytes.length else 4).sum

theorem length_image_view (d : FingerprintDatabase) :
    (d.view.image fpcDbVersion4).length = d.packedLength := by
  have hslot : slotLength fpcDbVersion4 ∘ Fingerprint.view
      = fun f => if f.valid = fpcDbEntryValid then 48 + f.templateBytes.length else 4 := by
    funext f
    unfold Function.comp Fingerprint.view
    split <;> rfl
  unfold FingerprintDatabase.packedLength
  cases hset : d.pFingerprintSet with
  | none =>
    rw [length_image_none (by rw [FingerprintDatabase.view, hset, Option.map_none])]
    rfl
  | some s =>
    rw [length_image_some (by rw [FingerprintDatabase.view, hset, Option.map_some]),
      FingerprintSet.view, Vector.toList_map, List.map_map, hslot]
    rfl

end Fpc
