import Fingerprints.Db.Image
import Fingerprints.Db.Unpack

/-!
# Decoding an image

Reading the layout of any of the three versions with the one unpacker. The records are taken in
the order of the layout, each from a counter behind which its bytes remain; `migrate` says what
the versions 2 and 3 leave to the decoder to fill in. Encoding and decoding again, and the
migration of old images, follow from it.
-/

namespace Fpc

open Wire Wire.Outcome

/-! ## Fields that are there -/

section Fields

variable {buf rest : List UInt8} {c : Nat}

theorem unpackUint32_remains {x : UInt32} (h : Remains buf c (be32 x ++ rest))
    (hbuf : buf.length < 2 ^ 32) (data : UInt32) :
    unpackUint32 data buf c buf.length = .ok { status := 0, data := x, readcounter := c + 4 } := by
  have hread := h.readField hbuf
  rw [length_be32] at hread
  rw [unpackUint32, unpackField, hread, ok_bind, Unpacked.ofField_some, ofBe32_be32]

theorem unpackUint64_remains {x : UInt64} (h : Remains buf c (be64 x ++ rest))
    (hbuf : buf.length < 2 ^ 32) (data : UInt64) :
    unpackUint64 data buf c buf.length = .ok { status := 0, data := x, readcounter := c + 8 } := by
  have hread := h.readField hbuf
  rw [length_be64] at hread
  rw [unpackUint64, unpackField, hread, ok_bind, Unpacked.ofField_some, ofBe64_be64]

theorem unpackUint8Array_remains {bs data : List UInt8} (h : Remains buf c (bs ++ rest))
    (hbuf : buf.length < 2 ^ 32) (hdata : data.length = bs.length) :
    unpackUint8Array data bs.length buf c buf.length
      = .ok { status := 0, data := bs, readcounter := c + bs.length } := by
  rw [unpackUint8Array, copyField_eq_readField hdata, h.readField hbuf, ok_bind,
    Unpacked.ofField_some, id_eq]

/-- A 256-bit identity is an array of 32 bytes. -/
theorem unpackUint8Array_id256 {id : Id256} (h : Remains buf c (id.toList ++ rest))
    (hbuf : buf.length < 2 ^ 32) (data : Id256) :
    unpackUint8Array data.toList 32 buf c buf.length
      = .ok { status := 0, data := id.toList, readcounter := c + 32 } := by
  have hread := unpackUint8Array_remains h hbuf
    (show data.toList.length = id.toList.length by rw [Vector.length_toList, Vector.length_toList])
  rwa [Vector.length_toList] at hread

theorem unpackUint8_remains {x : UInt8} (h : Remains buf c ([x] ++ rest))
    (hbuf : buf.length < 2 ^ 32) (data : UInt8) :
    unpackUint8 data buf c buf.length = .ok { status := 0, data := x, readcounter := c + 1 } := by
  have hlen := h.length_eq
  rw [List.length_append, List.length_singleton] at hlen
  rw [unpackUint8, if_neg (by omega), h.load, ok_bind, wrap32_of_lt (by omega)]

theorem unpackVerifyUint32_remains {x : UInt32} (h : Remains buf c (be32 x ++ rest))
    (hbuf : buf.length < 2 ^ 32) : unpackVerifyUint32 x buf c buf.length = .ok (c + 4) := by
  rw [unpackVerifyUint32, unpackUint32_remains h hbuf, ok_bind, if_neg (not_not.mpr rfl),
    if_neg (not_not.mpr rfl)]

theorem unpackVerifyUint8_remains {x : UInt8} (h : Remains buf c ([x] ++ rest))
    (hbuf : buf.length < 2 ^ 32) : unpackVerifyUint8 x buf c buf.length = .ok (c + 1) := by
  rw [unpackVerifyUint8, unpackUint8_remains h hbuf, ok_bind, if_neg (not_not.mpr rfl),
    if_neg (not_not.mpr rfl)]

end Fields

theorem DbEnv.AllocOk.memCalloc {env : DbEnv} (h : env.AllocOk) (site : AllocSite) :
    ∃ addr, env.memCalloc site = .ok addr := by
  obtain ⟨addr, haddr⟩ := Option.isSome_iff_exists.mp (h site)
  exact ⟨addr, by rw [DbEnv.memCalloc, haddr]⟩

/-! ## What the decoder makes of an image -/

/-- The finger of a slot: version 2 has no user ids. -/
def migrateSlot (ver : UInt8) : Option Finger → Option Finger :=
  Option.map fun f => { f with userId := if ver ≥ fpcDbVersion3 then f.userId else 0 }

/-- The set: before version 4 its state id is drawn. -/
def migrateSet (env : DbEnv) (ver : UInt8) (s : FingerSet) : FingerSet :=
  { s with
    stateId := if ver ≥ fpcDbVersion4 then s.stateId else (env.random256 .stateId).2
    slots := s.slots.map (migrateSlot ver) }

/-- The database: before version 3 its id is drawn. -/
def TemplateDb.migrate (env : DbEnv) (ver : UInt8) (db : TemplateDb) : TemplateDb :=
  { databaseId := if ver ≥ fpcDbVersion3 then db.databaseId else (env.random64 .databaseId).2
    set := db.set.map (migrateSet env ver) }

/-- A version 4 image leaves nothing to fill in. -/
theorem TemplateDb.migrate_v4 (env : DbEnv) (db : TemplateDb) :
    db.migrate env fpcDbVersion4 = db := by
  have hslot : migrateSlot fpcDbVersion4 = id := by
    funext slot
    cases slot with
    | none => rfl
    | some f => rfl
  have hset : migrateSet env fpcDbVersion4 = id := by
    funext s
    simp only [migrateSet, hslot, Vector.map_id, if_pos (UInt8.le_refl fpcDbVersion4), id_eq]
  unfold TemplateDb.migrate
  rw [hset, Option.map_id, if_pos (by decide), id_eq]

/-! ## Records that are there -/

section Records

variable {env : DbEnv} {ver : UInt8} {buf rest : List UInt8} {c : Nat}

theorem unpackUserId_remains {userId : UInt64}
    (h : Remains buf c ((if ver ≥ fpcDbVersion3 then be64 userId else []) ++ rest))
    (hbuf : buf.length < 2 ^ 32) (data : UInt64) :
    unpackUserId ver data buf c buf.length
      = .ok (if ver ≥ fpcDbVersion3 then userId else 0,
          c + (if ver ≥ fpcDbVersion3 then be64 userId else []).length) := by
  unfold unpackUserId
  split at h
  · rw [if_pos ‹_›, if_pos ‹_›, if_pos ‹_›, unpackUint64_remains h hbuf, ok_bind, length_be64]
  · rw [if_neg ‹_›, if_neg ‹_›, if_neg ‹_›]
    rfl

/-- The slot that holds a finger, with its template at an address. -/
def decodedFinger (ver : UInt8) (f : Finger) (fmem : Addr) : Fingerprint :=
  { valid := fpcDbEntryValid, fingerprintId := f.id,
    secureUserId := if ver ≥ fpcDbVersion3 then f.userId else 0,
    ftemplate := some (Template.ofList fmem (UInt32.ofNat f.template.length) f.template) }

theorem decodedFinger_view {f : Finger} (hlt : f.template.length < 2 ^ 32) (ver : UInt8)
    (fmem : Addr) : (decodedFinger ver f fmem).view = migrateSlot ver (some f) := by
  have hword : (UInt32.ofNat f.template.length).toNat = f.template.length := by
    rw [UInt32.toNat_ofNat', Nat.mod_eq_of_lt hlt]
  rw [Fingerprint.view_of_valid rfl, Fingerprint.templateBytes, decodedFinger]
  dsimp only
  rw [Template.bytes_ofList fmem hword.symm]
  rfl

/-- The template of a finger that remains fits the buffer. -/
theorem template_lt {f : Finger} (h : Remains buf c (slotImage ver (some f) ++ rest))
    (hbuf : buf.length < 2 ^ 32) : f.template.length < 2 ^ 32 := by
  have hlen := h.length_eq
  simp only [slotImage, List.length_append] at hlen
  omega

theorem unpackFinger_none (h : Remains buf c (slotImage ver none ++ rest))
    (hbuf : buf.length < 2 ^ 32) (j : Nat) :
    unpackFinger env ver buf buf.length j c
      = .ok ({ Fingerprint.zeroed with valid := fpcDbEntryInvalid }, c + 4) := by
  rw [unpackFinger, unpackUint32_remains h hbuf, ok_bind]
  dsimp only
  rw [if_neg (by decide), if_pos rfl]

/-- A slot that holds a finger is decoded to it, once there is memory for the template. -/
theorem unpackFinger_some {f : Finger} (h : Remains buf c (slotImage ver (some f) ++ rest))
    (hbuf : buf.length < 2 ^ 32) (j : Nat) :
    unpackFinger env ver buf buf.length j c
      = env.memCalloc (.template j) >>= fun fmem =>
          .ok (decodedFinger ver f fmem, c + (slotImage ver (some f)).length) := by
  have hlt := template_lt h hbuf
  have hword : (UInt32.ofNat f.template.length).toNat = f.template.length := by
    rw [UInt32.toNat_ofNat', Nat.mod_eq_of_lt hlt]
  simp only [slotImage, List.append_assoc] at h
  have hid := h.advance
  rw [length_be32] at hid
  have hfid := unpackUint8Array_id256 hid hbuf Fingerprint.zeroed.fingerprintId
  have huid := hid.advance
  rw [Vector.length_toList] at huid
  have hsize := huid.advance
  have htpl := hsize.advance
  rw [length_be32] at htpl
  have hblock : (List.replicate f.template.length (0 : UInt8)).length = f.template.length :=
    List.length_replicate
  have hcopy := unpackUint8Array_remains htpl hbuf hblock
  rw [unpackFinger, unpackUint32_remains h hbuf, ok_bind]
  dsimp only
  rw [if_pos rfl, hfid, ok_bind, unpackUserId_remains huid hbuf, ok_bind]
  dsimp only
  rw [unpackUint32_remains hsize hbuf, ok_bind]
  dsimp only
  rw [if_neg (not_not.mpr rfl), hword, hcopy, toId256_toList]
  simp only [ok_bind, slotImage, List.length_append, Vector.length_toList, length_be32,
    ← Nat.add_assoc]
  rfl

/-- A slot of the layout is decoded to what it holds. -/
theorem unpackFinger_remains (slot : Option Finger)
    (h : Remains buf c (slotImage ver slot ++ rest)) (hbuf : buf.length < 2 ^ 32)
    (halloc : env.AllocOk) (j : Nat) :
    ∃ f, unpackFinger env ver buf buf.length j c = .ok (f, c + (slotImage ver slot).length) ∧
      f.view = migrateSlot ver slot ∧ f.Flagged := by
  cases slot with
  | none => exact ⟨_, unpackFinger_none h hbuf j, rfl, Or.inl rfl⟩
  | some f =>
    obtain ⟨fmem, hfmem⟩ := halloc.memCalloc (.template j)
    refine ⟨decodedFinger ver f fmem, ?_, decodedFinger_view (template_lt h hbuf) ver fmem,
      Or.inr rfl⟩
    rw [unpackFinger_some h hbuf, hfmem, ok_bind]

/-- Slots of the layout are decoded one after the other. -/
theorem unpackFingers_remains (slots : List (Option Finger))
    (h : Remains buf c (slotsImage ver slots ++ rest)) (hbuf : buf.length < 2 ^ 32)
    (halloc : env.AllocOk) (j : Nat) :
    ∃ fs, unpackFingers env ver buf buf.length slots.length j c
        = .ok (fs, c + (slotsImage ver slots).length) ∧
      fs.map Fingerprint.view = slots.map (migrateSlot ver) ∧ ∀ f ∈ fs, f.Flagged := by
  induction slots generalizing c j with
  | nil => exact ⟨[], rfl, rfl, by simp⟩
  | cons slot slots ih =>
    rw [slotsImage_cons, List.append_assoc] at h
    obtain ⟨f, hf, hview, hflag⟩ := unpackFinger_remains slot h hbuf halloc j
    obtain ⟨fs, hfs, hviews, hflags⟩ := ih h.advance (j + 1)
    refine ⟨f :: fs, ?_, ?_, ?_⟩
    · rw [List.length_cons, unpackFingers, hf, ok_bind]
      dsimp only
      rw [hfs, ok_bind, slotsImage_cons, List.length_append, Nat.add_assoc]
    · rw [List.map_cons, List.map_cons, hview, hviews]
    · exact List.forall_mem_cons.mpr ⟨hflag, hflags⟩

theorem unpackStateId_remains {stateId : Id256}
    (h : Remains buf c ((if ver ≥ fpcDbVersion4 then stateId.toList else []) ++ rest))
    (hbuf : buf.length < 2 ^ 32) (hrandom : ver ≥ fpcDbVersion4 ∨ (env.random256 .stateId).1 = 0)
    (set : FingerprintSet) (db : FingerprintDatabase) :
    unpackStateId env ver set db buf c buf.length
      = .ok ({ set with fingerprintStateId :=
                  if ver ≥ fpcDbVersion4 then stateId else (env.random256 .stateId).2 },
          c + (if ver ≥ fpcDbVersion4 then stateId.toList else []).length) := by
  unfold unpackStateId
  by_cases hver : ver ≥ fpcDbVersion4
  · rw [if_pos hver] at h
    rw [if_pos hver, if_pos hver, if_pos hver,
      unpackUint8Array_id256 h hbuf set.fingerprintStateId, ok_bind, toId256_toList,
      Vector.length_toList]
  · have hdraw := hrandom.resolve_left hver
    rw [if_neg hver, if_neg hver, if_neg hver]
    simp [dbUpdateFingerprintStateId, hdraw]

/-- A set of the layout, and the end marker behind it. -/
theorem unpackSet_remains (s : FingerSet)
    (h : Remains buf c (setImage ver s ++ be32 fpcDbMarkerEndOfFile))
    (hbuf : buf.length < 2 ^ 32) (halloc : env.AllocOk)
    (hrandom : ver ≥ fpcDbVersion4 ∨ (env.random256 .stateId).1 = 0) (db : FingerprintDatabase) :
    ∃ set, unpackSet env ver db buf c buf.length = .ok set ∧
      set.view = migrateSet env ver s ∧ ∀ f ∈ set.aFingerprintList.toList, f.Flagged := by
  simp only [setImage, List.append_assoc] at h
  obtain ⟨addr, haddr⟩ := halloc.memCalloc .fingerprintSet
  have hmarker := h.advance
  rw [length_be32] at hmarker
  have hid := hmarker.advance
  rw [length_be32] at hid
  have hsetId := unpackUint8Array_id256 hid hbuf (FingerprintSet.zeroed addr).fingerprintSetId
  have hstate := hid.advance
  rw [Vector.length_toList] at hstate
  have hslots := hstate.advance
  obtain ⟨fs, hfs, hviews, hflags⟩ := unpackFingers_remains s.slots.toList hslots hbuf halloc 0
  have hend := hslots.advance
  rw [← List.append_nil (be32 fpcDbMarkerEndOfFile)] at hend
  rw [Vector.length_toList] at hfs
  have hlen : fs.length = fpcDbFingerprintsInSet := by
    have := congrArg List.length hviews
    simpa using this
  refine ⟨{ addr := addr, fingerprintSetKey := s.key, fingerprintSetId := s.id,
            fingerprintStateId :=
              if ver ≥ fpcDbVersion4 then s.stateId else (env.random256 .stateId).2,
            aFingerprintList := ofList fpcDbFingerprintsInSet Fingerprint.zeroed fs },
          ?_, ?_, ?_⟩
  · rw [unpackSet, haddr, ok_bind]
    dsimp only
    rw [unpackUint32_remains h hbuf, ok_bind]
    dsimp only
    rw [unpackVerifyUint32_remains hmarker hbuf, ok_bind, hsetId, ok_bind]
    dsimp only
    rw [unpackStateId_remains hstate hbuf hrandom, ok_bind]
    dsimp only
    rw [hfs, ok_bind]
    dsimp only
    rw [unpackVerifyUint32_remains hend hbuf, ok_bind, toId256_toList]
    rfl
  · unfold FingerprintSet.view migrateSet
    simp only [FingerSet.mk.injEq, true_and]
    rw [← Vector.toList_inj, Vector.toList_map, Vector.toList_map, toList_ofList _ hlen, hviews]
  · rw [toList_ofList _ hlen]
    exact hflags

end Records

/-! ## Whole images -/

section Images

variable {env : DbEnv} {ver : UInt8}

theorem unpackDatabaseId_remains {databaseId : UInt64} {buf rest : List UInt8} {c : Nat}
    (h : Remains buf c ((if ver ≥ fpcDbVersion3 then be64 databaseId else []) ++ rest))
    (hbuf : buf.length < 2 ^ 32)
    (hrandom : ver ≥ fpcDbVersion3 ∨ (env.random64 .databaseId).1 = 0)
    (db : FingerprintDatabase) :
    unpackDatabaseId env ver db buf c buf.length
      = .ok ({ db with databaseId :=
                 if ver ≥ fpcDbVersion3 then databaseId else (env.random64 .databaseId).2 },
          c + (if ver ≥ fpcDbVersion3 then be64 databaseId else []).length) := by
  unfold unpackDatabaseId
  by_cases hver : ver ≥ fpcDbVersion3
  · rw [if_pos hver] at h
    rw [if_pos hver, if_pos hver, if_pos hver, unpackUint64_remains h hbuf, ok_bind, length_be64]
  · have hdraw := hrandom.resolve_left hver
    rw [if_neg hver, if_neg hver, if_neg hver]
    simp [dbUpdateDatabaseId, hdraw]

/-- The fields of an image, from its first byte on. -/
theorem image_remains (ver : UInt8) (db : TemplateDb) :
    Remains (db.image ver) 0 (be32 fpcDbMarkerStartOfDb ++ ([ver]
      ++ ((if ver ≥ fpcDbVersion3 then be64 db.databaseId else [])
      ++ (bodyImage ver db.set ++ be32 fpcDbMarkerEndOfFile)))) :=
  Remains.start (db.image ver)

/-- The unpacker makes of an image what its version leaves to fill in. -/
theorem dbUnpackV2V3V4_image (db : TemplateDb) (hbuf : (db.image ver).length < 2 ^ 32)
    (halloc : env.AllocOk)
    (hdraw64 : ver ≥ fpcDbVersion3 ∨ (env.random64 .databaseId).1 = 0)
    (hdraw256 : ver ≥ fpcDbVersion4 ∨ (env.random256 .stateId).1 = 0) :
    ∃ d, dbUnpackV2V3V4 env (db.image ver) (db.image ver).length ver = .ok d ∧
      d.view = db.migrate env ver ∧ d.Flagged := by
  have h := image_remains ver db
  generalize db.image ver = buf at h hbuf ⊢
  obtain ⟨addr, haddr⟩ := halloc.memCalloc .database
  have hver := h.advance
  rw [length_be32] at hver
  have hdbId := hver.advance
  rw [List.length_singleton] at hdbId
  have hbody := hdbId.advance
  unfold dbUnpackV2V3V4
  rw [haddr, ok_bind]
  dsimp only
  rw [unpackVerifyUint32_remains h hbuf, ok_bind, unpackVerifyUint8_remains hver hbuf, ok_bind,
    unpackDatabaseId_remains hdbId hbuf hdraw64, ok_bind]
  dsimp only
  cases hset : db.set with
  | none =>
    simp only [hset, bodyImage, List.append_assoc] at hbody
    have hsets := hbody.advance
    rw [length_be32] at hsets
    have hend := hsets.advance
    rw [length_be32, ← List.append_nil (be32 fpcDbMarkerEndOfFile)] at hend
    refine ⟨{ addr := addr, databaseId :=
                if ver ≥ fpcDbVersion3 then db.databaseId else (env.random64 .databaseId).2,
              pFingerprintSet := none }, ?_, ?_, flagged_none _ _⟩
    · rw [unpackUint32_remains hbody hbuf, ok_bind]
      dsimp only
      rw [unpackVerifyUint32_remains hsets hbuf, ok_bind, if_neg (by decide), if_pos (by decide),
        unpackVerifyUint32_remains hend hbuf, ok_bind]
    · unfold FingerprintDatabase.view TemplateDb.migrate
      rw [hset]
      rfl
  | some s =>
    simp only [hset, bodyImage, List.append_assoc] at hbody
    have hsets := hbody.advance
    rw [length_be32] at hsets
    have hrest := hsets.advance
    rw [length_be32] at hrest
    obtain ⟨set, hunpack, hview, hflags⟩ := unpackSet_remains s hrest hbuf halloc hdraw256
      { addr := addr, databaseId :=
          if ver ≥ fpcDbVersion3 then db.databaseId else (env.random64 .databaseId).2,
        pFingerprintSet := none }
    refine ⟨{ addr := addr, databaseId :=
                if ver ≥ fpcDbVersion3 then db.databaseId else (env.random64 .databaseId).2,
              pFingerprintSet := some set }, ?_, ?_, ?_⟩
    · rw [unpackUint32_remains hbody hbuf, ok_bind]
      dsimp only
      rw [unpackVerifyUint32_remains hsets hbuf, ok_bind, if_neg (by decide), if_neg (by decide),
        hunpack, ok_bind]
    · unfold FingerprintDatabase.view TemplateDb.migrate
      rw [hset, Option.map_some, Option.map_some, hview]
    · intro t ht
      rw [← Option.some.inj ht]
      exact hflags

/-- `fpc_db_create` makes of an image what its version leaves to fill in. -/
theorem fpcDbCreate_image (hver : ver = fpcDbVersion2 ∨ ver = fpcDbVersion3 ∨ ver = fpcDbVersion4)
    (db : TemplateDb) (hbuf : (db.image ver).length < 2 ^ 32) (halloc : env.AllocOk)
    (hdraw64 : ver ≥ fpcDbVersion3 ∨ (env.random64 .databaseId).1 = 0)
    (hdraw256 : ver ≥ fpcDbVersion4 ∨ (env.random256 .stateId).1 = 0) :
    ∃ d, fpcDbCreate env (some (db.image ver)) (db.image ver).length = .ok d ∧
      d.view = db.migrate env ver ∧ d.Flagged := by
  have hstart := image_remains ver db
  have hbyte := hstart.advance
  rw [length_be32] at hbyte
  have hne : ver ≠ fpcDbVersion1 := by
    rintro rfl
    revert hver
    decide
  rw [fpcDbCreate, dbUnpack, unpackVerifyUint32_remains hstart hbuf, ok_bind,
    unpackUint8_remains hbyte hbuf, ok_bind]
  dsimp only
  rw [if_neg (by decide), if_neg hne, if_pos hver]
  exact dbUnpackV2V3V4_image db hbuf halloc hdraw64 hdraw256

end Images

/-! ## Round trips -/

/-- The version 4 image of a database is decoded to a database that says the same. -/
theorem fpcDbCreate_view {d : FingerprintDatabase} (hlt : d.packedLength < 2 ^ 32) {env : DbEnv}
    (halloc : env.AllocOk) :
    ∃ d', fpcDbCreate env (some (d.view.image fpcDbVersion4)) d.packedLength = .ok d' ∧
      d'.view = d.view ∧ d'.Flagged := by
  rw [← length_image_view] at hlt ⊢
  obtain ⟨d', hd', hview, hflag⟩ := fpcDbCreate_image (Or.inr (Or.inr rfl)) d.view hlt halloc
    (Or.inl (by decide)) (Or.inl (UInt8.le_refl fpcDbVersion4))
  exact ⟨d', hd', by rw [hview, TemplateDb.migrate_v4], hflag⟩

/-- Encoding into a buffer of the size that was asked for. -/
theorem fpcDbGetData_packedLength {d : FingerprintDatabase} (hd : d.Flagged)
    (hlt : d.packedLength < 2 ^ 32) {out : List UInt8} (hout : out.length = d.packedLength) :
    fpcDbGetDataSize d = .ok d.packedLength ∧
      fpcDbGetData d out d.packedLength = .ok (d.view.image fpcDbVersion4) := by
  rw [← length_image_view] at hlt hout ⊢
  refine ⟨?_, fpcDbGetData_image hd hlt hout⟩
  rw [fpcDbGetDataSize_image hd, wrap32_of_lt hlt]

/-- **Encoding and decoding.** A database whose slots are each valid or invalid and whose
encoding is shorter than `2 ^ 32` bytes asks for the length of its encoding; into a buffer of
that length it is encoded, and what is decoded from there says the same: the same database id,
set presence, set key, set id and state id, and slot for slot the same finger or none. -/
theorem fpcDbCreate_fpcDbGetData (d : FingerprintDatabase) (hd : d.Flagged)
    (hlt : d.packedLength < 2 ^ 32) (env : DbEnv) (halloc : env.AllocOk) (out : List UInt8)
    (hout : out.length = d.packedLength) :
    fpcDbGetDataSize d = .ok d.packedLength ∧
      ∃ img, fpcDbGetData d out d.packedLength = .ok img ∧ img.length = d.packedLength ∧
        ∃ d', fpcDbCreate env (some img) d.packedLength = .ok d' ∧
          d'.view = d.view ∧ d'.Flagged := by
  obtain ⟨hsize, hdata⟩ := fpcDbGetData_packedLength hd hlt hout
  exact ⟨hsize, _, hdata, length_image_view d, fpcDbCreate_view hlt halloc⟩

/-- One enrolled finger, in slot 1. -/
def sampleDatabase : FingerprintDatabase :=
  { addr := 0x1000, databaseId := 7,
    pFingerprintSet := some
      { addr := 0x2000, fingerprintSetKey := 10, fingerprintSetId := Id256.filled 1,
        fingerprintStateId := Id256.filled 2,
        aFingerprintList := #v[.zeroed,
          { valid := fpcDbEntryValid, fingerprintId := Id256.filled 3, secureUserId := 99,
            ftemplate := some (Template.ofList 0x30000 3 [0xA0, 0xA1, 0xA2]) },
          .zeroed, .zeroed, .zeroed] } }

theorem sampleDatabase_roundTrip :
    fpcDbGetDataSize sampleDatabase = .ok 164 ∧
      ∃ img, fpcDbGetData sampleDatabase (List.replicate 164 0) 164 = .ok img ∧
        img.length = 164 ∧
        ∃ d', fpcDbCreate .willing (some img) 164 = .ok d' ∧
          d'.view = sampleDatabase.view ∧ d'.Flagged :=
  fpcDbCreate_fpcDbGetData sampleDatabase (by decide) (by decide) .willing
    DbEnv.willing_allocOk (List.replicate 164 0) List.length_replicate

/-- **Migration.** An image of version 2 or 3 is decoded to what it says, with what its version
lacks filled in; and where that has an encoding shorter than `2 ^ 32` bytes, encoding it as
version 4 and decoding it again yields the same. -/
theorem fpcDbCreate_migrates (ver : UInt8) (hver : ver = fpcDbVersion2 ∨ ver = fpcDbVersion3)
    (db : TemplateDb) (hbuf : (db.image ver).length < 2 ^ 32) (env : DbEnv)
    (halloc : env.AllocOk) (hrandom : env.RandomOk) :
    ∃ d, fpcDbCreate env (some (db.image ver)) (db.image ver).length = .ok d ∧
      d.view = db.migrate env ver ∧
      (d.packedLength < 2 ^ 32 → ∀ out : List UInt8, out.length = d.packedLength →
        fpcDbGetDataSize d = .ok d.packedLength ∧
          ∃ img, fpcDbGetData d out d.packedLength = .ok img ∧
            ∀ env' : DbEnv, env'.AllocOk →
              ∃ d', fpcDbCreate env' (some img) d.packedLength = .ok d' ∧ d'.view = d.view) := by
  have hver' : ver = fpcDbVersion2 ∨ ver = fpcDbVersion3 ∨ ver = fpcDbVersion4 :=
    hver.imp_right Or.inl
  obtain ⟨d, hd, hview, hflag⟩ := fpcDbCreate_image hver' db hbuf halloc
    (Or.inr (hrandom .databaseId).1) (Or.inr (hrandom .stateId).2)
  refine ⟨d, hd, hview, fun hlt out hout => ?_⟩
  obtain ⟨hsize, hdata⟩ := fpcDbGetData_packedLength hflag hlt hout
  refine ⟨hsize, _, hdata, fun env' halloc' => ?_⟩
  obtain ⟨d', hd', hview', -⟩ := fpcDbCreate_view hlt halloc'
  exact ⟨d', hd', hview'⟩

theorem sampleDatabase_migrates :
    ∃ d, fpcDbCreate .willing (some (sampleDatabase.view.image fpcDbVersion2))
        (sampleDatabase.view.image fpcDbVersion2).length = .ok d ∧
      d.view = sampleDatabase.view.migrate .willing fpcDbVersion2 ∧
      (d.packedLength < 2 ^ 32 → ∀ out : List UInt8, out.length = d.packedLength →
        fpcDbGetDataSize d = .ok d.packedLength ∧
          ∃ img, fpcDbGetData d out d.packedLength = .ok img ∧
            ∀ env' : DbEnv, env'.AllocOk →
              ∃ d', fpcDbCreate env' (some img) d.packedLength = .ok d' ∧ d'.view = d.view) :=
  fpcDbCreate_migrates fpcDbVersion2 (Or.inl rfl) sampleDatabase.view
    (by rw [length_image_some rfl]; decide +kernel) .willing DbEnv.willing_allocOk
    DbEnv.willing_randomOk

/-- A database with one finger, whose template is given. -/
def oneFinger (template : List UInt8) : TemplateDb :=
  { databaseId := 7
    set := some
      { key := 10, id := Id256.filled 1, stateId := Id256.filled 0
        slots := #v[some { id := Id256.filled 3, userId := 99, template := template },
          none, none, none, none] } }

theorem length_oneFinger_v3 (template : List UInt8) :
    ((oneFinger template).image fpcDbVersion3).length = 129 + template.length := by
  rw [length_image_some rfl]
  show 57 + 8 + 0 + (40 + 8 + template.length + 16) = 129 + template.length
  omega

theorem length_oneFinger_v4 (template : List UInt8) (env : DbEnv) :
    (((oneFinger template).migrate env fpcDbVersion3).image fpcDbVersion4).length
      = 161 + template.length := by
  rw [length_image_some rfl]
  simp only [migrateSet, Vector.toList_map, List.map_map]
  show 57 + 8 + 32 + (40 + 8 + template.length + 16) = 161 + template.length
  omega

/-- A template so long that the image of its database is 32 bytes short of `2 ^ 32` in version 3,
which has no state id. -/
@[irreducible] def longTemplate : List UInt8 := List.replicate (2 ^ 32 - 161) 0

theorem length_longTemplate : longTemplate.length = 2 ^ 32 - 161 := by
  unfold longTemplate
  exact List.length_replicate

/-- The version 4 encoding of the migrated database is `2 ^ 32` bytes long. The code counts 0 for
it, encodes it into no bytes with success, and cannot decode these. -/
theorem longTemplate_not_encodable :
    ((oneFinger longTemplate).image fpcDbVersion3).length < 2 ^ 32 ∧
    ∃ d, fpcDbCreate .willing (some ((oneFinger longTemplate).image fpcDbVersion3))
        ((oneFinger longTemplate).image fpcDbVersion3).length = .ok d ∧
      d.view = (oneFinger longTemplate).migrate .willing fpcDbVersion3 ∧
      fpcDbGetDataSize d = .ok 0 ∧ fpcDbGetData d [] 0 = .ok [] ∧
      ∀ env : DbEnv, fpcDbCreate env (some []) 0 = .err (-fpcErrorDb) := by
  have hbuf : ((oneFinger longTemplate).image fpcDbVersion3).length < 2 ^ 32 := by
    rw [length_oneFinger_v3, length_longTemplate]
    decide
  obtain ⟨d, hd, hview, hflag⟩ := fpcDbCreate_image (Or.inr (Or.inl rfl)) (oneFinger longTemplate)
    hbuf DbEnv.willing_allocOk (Or.inr rfl) (Or.inr rfl)
  refine ⟨hbuf, d, hd, hview, ?_, fpcDbGetData_empty hflag, fun env => rfl⟩
  rw [fpcDbGetDataSize_image hflag, hview, length_oneFinger_v4, length_longTemplate]
  rfl

end Fpc
