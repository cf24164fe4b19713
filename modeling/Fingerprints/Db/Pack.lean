import Fingerprints.Db.Basic
import Fingerprints.Wire.Cursor

/-!
# Encoding a database

The version 4 packer of `fpc_db.c`. It runs twice for one encoding: without a buffer, to count
the bytes, and with one, to write them. Nothing in it looks at the status of a field that did
not fit; what it writes is a sequence of fields (`dbPackV4_eq`), and the callers learn from the
counter alone whether all of them went in.
-/

namespace Fpc

open Wire Wire.Outcome

/-! ## The packer -/

/-- The shape of the four `pack_…` functions: count the field, refuse it, or write it. The array
and byte versions compare with `>=`, the word versions with `>`. -/
def packField (strict : Bool) (bytes : List UInt8) (packedDb : Sink) (size : Nat) :
    Outcome (Int × Sink) := do
  let (wrote, packedDb) ← writeField size { bytes := bytes, strict := strict } packedDb
  .ok (if wrote then 0 else -fpcErrorDb, packedDb)

def packUint8 (data : UInt8) : Sink → Nat → Outcome (Int × Sink) := packField true [data]

def packUint8Array (data : List UInt8) : Sink → Nat → Outcome (Int × Sink) := packField true data

def packUint32 (data : UInt32) : Sink → Nat → Outcome (Int × Sink) := packField false (be32 data)

def packUint64 (data : UInt64) : Sink → Nat → Outcome (Int × Sink) := packField false (be64 data)

/-- The loop of `db_pack_v4` over the slots. -/
def packFingers (size : Nat) : List Fingerprint → Sink → Outcome (Int × Sink)
  | [], s => .ok (0, s)
  | finger :: rest, s => do
      let (_, s) ← packUint32 finger.valid s size
      if finger.valid = fpcDbEntryValid then
        let (_, s) ← packUint8Array finger.fingerprintId.toList s size
        let (_, s) ← packUint64 finger.secureUserId s size
        let (_, s) ← packUint32 (UInt32.ofNat finger.templateBytes.length) s size
        let (_, s) ← packUint8Array finger.templateBytes s size
        packFingers size rest s
      else if finger.valid = fpcDbEntryInvalid then
        packFingers size rest s
      else
        .ok (-fpcErrorDb, s)

/-- `memset(packed_db, 1, size)`, when there is a buffer. -/
def presetBuffer (packedDb : Option (List UInt8)) (size : Nat) : Outcome (Option (List UInt8)) :=
  match packedDb with
  | none => .ok none
  | some buf => do
      let buf ← fill buf size 1
      .ok (some buf)

/-- `set_count` -/
def FingerprintDatabase.setCount (db : FingerprintDatabase) : UInt32 :=
  if db.pFingerprintSet.isSome then 1 else 0

/-- `db_pack_v4`: the status, the buffer and the write counter. -/
def dbPackV4 (db : FingerprintDatabase) (packedDb : Option (List UInt8)) (size : Nat) :
    Outcome (Int × Sink) := do
  let packedDb ← presetBuffer packedDb size
  let (_, s) ← packUint32 fpcDbMarkerStartOfDb { buf := packedDb, counter := 0 } size
  let (_, s) ← packUint8 fpcDbVersion4 s size
  let (_, s) ← packUint64 db.databaseId s size
  let (_, s) ← packUint32 db.setCount s size
  let (_, s) ← packUint32 fpcDbMarkerStartOfSets s size
  match db.pFingerprintSet with
  | none =>
      let (_, s) ← packUint32 fpcDbMarkerEndOfFile s size
      .ok (0, s)
  | some set =>
      let (_, s) ← packUint32 set.fingerprintSetKey s size
      let (_, s) ← packUint32 fpcDbMarkerStartOfSIds s size
      let (_, s) ← packUint8Array set.fingerprintSetId.toList s size
      let (_, s) ← packUint8Array set.fingerprintStateId.toList s size
      let (status, s) ← packFingers size set.aFingerprintList.toList s
      if status ≠ 0 then
        .ok (status, s)
      else
        let (_, s) ← packUint32 fpcDbMarkerEndOfFile s size
        .ok (0, s)

/-- `db_pack` -/
def dbPack (db : FingerprintDatabase) (packedDb : Option (List UInt8)) (size : Nat) :
    Outcome (Int × Sink) :=
  dbPackV4 db packedDb size

/-- `fpc_db_get_data_size` -/
def fpcDbGetDataSize (pDb : FingerprintDatabase) : Outcome Nat := do
  let (result, s) ← dbPack pDb none (2 ^ 30)
  if result ≠ 0 then .err result else .ok s.counter

/-- `fpc_db_get_data`: the buffer it leaves when it returns 0. -/
def fpcDbGetData (pDb : FingerprintDatabase) (pDbData : List UInt8) (dbDataSize : Nat) :
    Outcome (List UInt8) := do
  let (result, s) ← dbPack pDb (some pDbData) dbDataSize
  if result ≠ 0 then .err result
  else if s.counter ≠ dbDataSize then .err (-fpcErrorDb)
  else .ok (s.buf.getD pDbData)

/-! ## The fields it writes -/

def wordField (x : UInt32) : Field := { bytes := be32 x, strict := false }

def longField (x : UInt64) : Field := { bytes := be64 x, strict := false }

def arrayField (bytes : List UInt8) : Field := { bytes := bytes, strict := true }

/-- The fields of the slots, up to the first flag that is neither valid nor invalid, and the
status the loop ends with. -/
def slotFields : List Fingerprint → Int × List Field
  | [] => (0, [])
  | f :: rest =>
      if f.valid = fpcDbEntryValid then
        ((slotFields rest).1,
          wordField f.valid :: arrayField f.fingerprintId.toList :: longField f.secureUserId
            :: wordField (UInt32.ofNat f.templateBytes.length) :: arrayField f.templateBytes
            :: (slotFields rest).2)
      else if f.valid = fpcDbEntryInvalid then
        ((slotFields rest).1, wordField f.valid :: (slotFields rest).2)
      else (-fpcErrorDb, [wordField f.valid])

/-- The fields of the slots and, when all of them were packed, the marker after them. -/
def slotFieldsEnd (fs : List Fingerprint) : List Field :=
  (slotFields fs).2 ++ if (slotFields fs).1 = 0 then [wordField fpcDbMarkerEndOfFile] else []

/-- The fields after the header, and the status of packing them. -/
def setFields : Option FingerprintSet → Int × List Field
  | none => (0, [wordField fpcDbMarkerEndOfFile])
  | some s =>
      ((slotFields s.aFingerprintList.toList).1,
        wordField s.fingerprintSetKey :: wordField fpcDbMarkerStartOfSIds
          :: arrayField s.fingerprintSetId.toList :: arrayField s.fingerprintStateId.toList
          :: slotFieldsEnd s.aFingerprintList.toList)

/-- The fields of a database, and the status of packing it. -/
def dbFields (d : FingerprintDatabase) : Int × List Field :=
  ((setFields d.pFingerprintSet).1,
    wordField fpcDbMarkerStartOfDb :: arrayField [fpcDbVersion4] :: longField d.databaseId
      :: wordField d.setCount :: wordField fpcDbMarkerStartOfSets
      :: (setFields d.pFingerprintSet).2)

/-- What the packer hands to its guards: a word, a 64-bit word or an array of at most
`2 ^ 32 - 1` bytes. -/
def Packed (f : Field) : Prop :=
  (∃ x, f = wordField x) ∨ (∃ x, f = longField x) ∨
    ∃ bytes, bytes.length < 2 ^ 32 ∧ f = arrayField bytes

theorem packed_slotFields (fs : List Fingerprint) : ∀ f ∈ (slotFields fs).2, Packed f := by
  induction fs with
  | nil => simp [slotFields]
  | cons finger rest ih =>
    unfold slotFields
    split
    · simp only [List.forall_mem_cons]
      exact ⟨Or.inl ⟨_, rfl⟩, Or.inr (Or.inr ⟨_, by simp, rfl⟩), Or.inr (Or.inl ⟨_, rfl⟩),
        Or.inl ⟨_, rfl⟩, Or.inr (Or.inr ⟨_, finger.templateBytes_lt, rfl⟩), ih⟩
    · split
      · exact List.forall_mem_cons.mpr ⟨Or.inl ⟨_, rfl⟩, ih⟩
      · exact List.forall_mem_singleton.mpr (Or.inl ⟨_, rfl⟩)

theorem packed_setFields (s : Option FingerprintSet) : ∀ f ∈ (setFields s).2, Packed f := by
  cases s with
  | none => exact List.forall_mem_singleton.mpr (Or.inl ⟨_, rfl⟩)
  | some s =>
    simp only [setFields, slotFieldsEnd, List.forall_mem_cons, List.forall_mem_append]
    refine ⟨Or.inl ⟨_, rfl⟩, Or.inl ⟨_, rfl⟩, Or.inr (Or.inr ⟨_, by simp, rfl⟩),
      Or.inr (Or.inr ⟨_, by simp, rfl⟩), packed_slotFields _, ?_⟩
    split
    · exact List.forall_mem_singleton.mpr (Or.inl ⟨_, rfl⟩)
    · exact List.forall_mem_nil _

theorem packed_dbFields (d : FingerprintDatabase) : ∀ f ∈ (dbFields d).2, Packed f := by
  simp only [dbFields, List.forall_mem_cons]
  exact ⟨Or.inl ⟨_, rfl⟩, Or.inr (Or.inr ⟨_, by simp, rfl⟩), Or.inr (Or.inl ⟨_, rfl⟩),
    Or.inl ⟨_, rfl⟩, Or.inl ⟨_, rfl⟩, packed_setFields _⟩

theorem Packed.length_lt {f : Field} (h : Packed f) : f.bytes.length < 2 ^ 32 := by
  rcases h with ⟨x, rfl⟩ | ⟨x, rfl⟩ | ⟨bytes, hlt, rfl⟩
  · exact (by decide : (4 : Nat) < 2 ^ 32)
  · exact (by decide : (8 : Nat) < 2 ^ 32)
  · exact hlt

/-- Only arrays can be without bytes, and they are strict. -/
theorem Packed.strict_or_ne_nil {f : Field} (h : Packed f) : f.strict = true ∨ f.bytes ≠ [] := by
  rcases h with ⟨x, rfl⟩ | ⟨x, rfl⟩ | ⟨bytes, _, rfl⟩
  · exact Or.inr (List.cons_ne_nil _ _)
  · exact Or.inr (List.cons_ne_nil _ _)
  · exact Or.inl rfl

/-- The status of a field is dropped: packing one field and going on is writing the field and
going on. -/
theorem packField_then {α : Type} {size : Nat} {gs : List Field} {k : Int × Sink → Outcome α}
    {l : Sink → Outcome α} (strict : Bool) (bytes : List UInt8)
    (h : ∀ r, k r = writeFields size gs r.2 >>= l) (s : Sink) :
    (packField strict bytes s size >>= k)
      = writeFields size ({ bytes := bytes, strict := strict } :: gs) s >>= l := by
  rw [packField, writeFields]
  cases writeField size { bytes := bytes, strict := strict } s with
  | ok r => simp only [ok_bind, h]
  | err code => rfl
  | fault f => rfl

theorem packField_last {size : Nat} (strict : Bool) (bytes : List UInt8) (status : Int)
    (s : Sink) :
    (packField strict bytes s size >>= fun r => Outcome.ok (status, r.2))
      = writeFields size [{ bytes := bytes, strict := strict }] s
          >>= fun s => .ok (status, s) := by
  have hdone (r : Int × Sink) : Outcome.ok (status, r.2)
      = writeFields size [] r.2 >>= fun s => .ok (status, s) := rfl
  exact packField_then strict bytes hdone s

/-- The loop over the slots writes their fields. Induction on the slots. -/
theorem packFingers_eq (size : Nat) (fs : List Fingerprint) (s : Sink) :
    packFingers size fs s
      = writeFields size (slotFields fs).2 s >>= fun s => .ok ((slotFields fs).1, s) := by
  induction fs generalizing s with
  | nil => rfl
  | cons f rest ih =>
    rw [packFingers]
    unfold slotFields
    by_cases hvalid : f.valid = fpcDbEntryValid
    · simp only [if_pos hvalid]
      refine packField_then _ _ (fun r => ?_) s
      refine packField_then _ _ (fun r => ?_) r.2
      refine packField_then _ _ (fun r => ?_) r.2
      refine packField_then _ _ (fun r => ?_) r.2
      exact packField_then _ _ (fun r => ih r.2) r.2
    · by_cases hinvalid : f.valid = fpcDbEntryInvalid
      · simp only [if_neg hvalid, if_pos hinvalid]
        exact packField_then _ _ (fun r => ih r.2) s
      · simp only [if_neg hvalid, if_neg hinvalid]
        exact packField_last _ _ _ s

/-- Everything `db_pack_v4` writes after it has prepared the buffer. -/
theorem dbPackV4_fields (db : FingerprintDatabase) {packedDb buf : Option (List UInt8)}
    {size : Nat} (hbuf : presetBuffer packedDb size = .ok buf) :
    dbPackV4 db packedDb size
      = writeFields size (dbFields db).2 { buf := buf, counter := 0 }
          >>= fun s => .ok ((dbFields db).1, s) := by
  -- the marker that ends the image, once every slot has been packed
  have hend (s : Sink) :
      (packUint32 fpcDbMarkerEndOfFile s size >>= fun r => Outcome.ok ((0 : Int), r.2))
        = writeFields size [wordField fpcDbMarkerEndOfFile] s
            >>= fun s => .ok ((0 : Int), s) :=
    packField_last _ _ _ s
  have hslots (set : FingerprintSet) (s : Sink) :
      (packFingers size set.aFingerprintList.toList s >>= fun r =>
        if r.1 ≠ 0 then Outcome.ok (r.1, r.2)
        else packUint32 fpcDbMarkerEndOfFile r.2 size >>= fun r => Outcome.ok ((0 : Int), r.2))
        = writeFields size (slotFieldsEnd set.aFingerprintList.toList) s
            >>= fun s => .ok ((slotFields set.aFingerprintList.toList).1, s) := by
    rw [packFingers_eq, slotFieldsEnd, writeFields_append]
    by_cases hstatus : (slotFields set.aFingerprintList.toList).1 = 0
    · cases writeFields size (slotFields set.aFingerprintList.toList).2 s with
      | ok s => simpa [hstatus] using hend s
      | err code => rfl
      | fault f => rfl
    · cases writeFields size (slotFields set.aFingerprintList.toList).2 s with
      | ok s => simp [hstatus, writeFields]
      | err code => rfl
      | fault f => rfl
  unfold dbPackV4 dbFields
  rw [hbuf, ok_bind]
  refine packField_then _ _ (fun r => ?_) _
  refine packField_then _ _ (fun r => ?_) r.2
  refine packField_then _ _ (fun r => ?_) r.2
  refine packField_then _ _ (fun r => ?_) r.2
  refine packField_then _ _ (fun r => ?_) r.2
  cases db.pFingerprintSet with
  | none => exact hend r.2
  | some set =>
    refine packField_then _ _ (fun r => ?_) r.2
    refine packField_then _ _ (fun r => ?_) r.2
    refine packField_then _ _ (fun r => ?_) r.2
    exact packField_then _ _ (fun r => hslots set r.2) r.2

/-- Counting a database is counting its fields. -/
theorem dbPackV4_count (db : FingerprintDatabase) (size : Nat) :
    dbPackV4 db none size
      = .ok ((dbFields db).1,
          { buf := none, counter := wrap32 (bytesOf (dbFields db).2).length }) := by
  rw [dbPackV4_fields db (rfl : presetBuffer none size = .ok none), writeFields_count size _ (by decide), ok_bind,
    Nat.zero_add]

/-- Encoding a database is writing its fields over a buffer of ones. -/
theorem dbPackV4_write (db : FingerprintDatabase) {buf : List UInt8} {size : Nat}
    (hbuf : buf.length = size) :
    dbPackV4 db (some buf) size
      = writeFields size (dbFields db).2 { buf := some (List.replicate size 1), counter := 0 }
          >>= fun s => .ok ((dbFields db).1, s) :=
  dbPackV4_fields db (by rw [presetBuffer, fill_eq hbuf, ok_bind])

/-- An encoding fills the buffer it was given. -/
theorem length_of_fpcDbGetData {db : FingerprintDatabase} {out packed : List UInt8} {size : Nat}
    (hout : out.length = size) (h : fpcDbGetData db out size = .ok packed) :
    packed.length = size := by
  rw [fpcDbGetData, dbPack, dbPackV4_write db hout] at h
  obtain ⟨⟨status, s⟩, hpack, h⟩ := bind_eq_ok.mp h
  obtain ⟨s', hwrite, hpack⟩ := bind_eq_ok.mp hpack
  cases hpack
  have hlength := length_of_writeFields hwrite
  dsimp only at h
  split at h
  · cases h
  · split at h
    · cases h
    · cases h
      cases hbuf : s.buf with
      | none => exact hout
      | some buf =>
        rw [hbuf, Option.map_some, Option.map_some, List.length_replicate] at hlength
        injection hlength

end Fpc
