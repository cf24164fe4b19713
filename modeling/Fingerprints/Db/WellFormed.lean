import Fingerprints.Db.RoundTrip

/-!
# What the decoder accepts

The unpacker drops the status of most of its fields, so it accepts images that are too short for
what they announce, and it never looks at what follows the end marker. What tells the encodings
apart among the version 4 images it accepts is their length: `announcedLength` adds up the records
of an image by the set count, the flags and the template lengths that stand in it, and an accepted
image is the encoding of what was decoded from it exactly when that is its length
(`fpcDbCreate_reencodes_iff`).
-/

namespace Fpc

open Wire Wire.Outcome

/-! ## The records an image announces -/

/-- The bytes from an offset on, as many as there are up to `n`. -/
def bytesAt (b : List UInt8) (p n : Nat) : List UInt8 := (b.drop p).take n

/-- The word at an offset. -/
def wordAt (b : List UInt8) (p : Nat) : UInt32 := ofBe32 (bytesAt b p 4)

/-- Where the slot record at `p` ends: after a flag that is not 1 or, with a finger, after as many
bytes as its template length says. -/
def slotEnd (b : List UInt8) (p : Nat) : Nat :=
  if wordAt b p = fpcDbEntryValid then p + 48 + (wordAt b (p + 44)).toNat else p + 4

/-- Where `n` slot records from `p` on end. -/
def slotsEnd (b : List UInt8) : (n p : Nat) → Nat
  | 0, p => p
  | n + 1, p => slotsEnd b n (slotEnd b p)

/-- The length a version 4 image announces: 25 bytes without a set; with one, the slot records
from offset 93 on, and the end marker. -/
def announcedLength (b : List UInt8) : Nat :=
  if wordAt b 13 = 1 then slotsEnd b fpcDbFingerprintsInSet 93 + 4 else 25

theorem le_slotEnd (b : List UInt8) (p : Nat) : p + 4 ≤ slotEnd b p := by
  unfold slotEnd
  split <;> omega

theorem le_slotsEnd (b : List UInt8) (n p : Nat) : p ≤ slotsEnd b n p := by
  induction n generalizing p with
  | zero => exact Nat.le_refl p
  | succ n ih =>
    have h := le_slotEnd b p
    have hrest := ih (slotEnd b p)
    rw [slotsEnd]
    omega

/-! ## Bytes that are there -/

section Bytes

variable {b : List UInt8} {p : Nat}

theorem length_bytesAt {n : Nat} (h : p + n ≤ b.length) : (bytesAt b p n).length = n := by
  rw [bytesAt, List.length_take, List.length_drop]
  omega

theorem drop_bytesAt (b : List UInt8) (p n : Nat) :
    b.drop p = bytesAt b p n ++ b.drop (p + n) := by
  rw [bytesAt, ← List.drop_drop, List.take_append_drop]

theorem drop_wordAt (h : p + 4 ≤ b.length) :
    b.drop p = be32 (wordAt b p) ++ b.drop (p + 4) := by
  rw [wordAt, be32_ofBe32 (length_bytesAt h), ← drop_bytesAt]

theorem drop_longAt (h : p + 8 ≤ b.length) :
    b.drop p = be64 (ofBe64 (bytesAt b p 8)) ++ b.drop (p + 8) := by
  rw [be64_ofBe64 (length_bytesAt h), ← drop_bytesAt]

theorem drop_idAt (h : p + 32 ≤ b.length) :
    b.drop p = (toId256 (bytesAt b p 32)).toList ++ b.drop (p + 32) := by
  rw [toList_toId256 (length_bytesAt h), ← drop_bytesAt]

/-- What remains at the counter starts with the word there. -/
theorem remains_wordAt (h : p + 4 ≤ b.length) :
    Remains b p (be32 (wordAt b p) ++ b.drop (p + 4)) := by
  rw [← drop_wordAt h]
  exact remains_drop (by omega)

theorem wordAt_remains {x : UInt32} {rest : List UInt8} (h : Remains b p (be32 x ++ rest)) :
    wordAt b p = x := by
  obtain ⟨pre, rfl, rfl⟩ := h
  rw [wordAt, bytesAt, List.drop_left, List.take_left' (length_be32 x), ofBe32_be32]

/-- The finger of a record, read off its fixed offsets. -/
def fingerAt (b : List UInt8) (p : Nat) : Finger :=
  { id := toId256 (bytesAt b (p + 4) 32), userId := ofBe64 (bytesAt b (p + 36) 8),
    template := bytesAt b (p + 48) (wordAt b (p + 44)).toNat }

/-- A record that holds a finger and lies within the buffer is the layout of that finger. -/
theorem drop_slot_some (hvalid : wordAt b p = fpcDbEntryValid) (hend : slotEnd b p ≤ b.length) :
    b.drop p = slotImage fpcDbVersion4 (some (fingerAt b p)) ++ b.drop (slotEnd b p) := by
  rw [slotEnd, if_pos hvalid] at hend ⊢
  have hsize : UInt32.ofNat (fingerAt b p).template.length = wordAt b (p + 44) := by
    rw [fingerAt, length_bytesAt (by omega), UInt32.ofNat_toNat]
  rw [slotImage_v4, hsize, drop_wordAt (by omega), hvalid,
    drop_idAt (by omega), drop_longAt (by omega), drop_wordAt (by omega),
    drop_bytesAt b (p + 4 + 32 + 8 + 4) (wordAt b (p + 44)).toNat]
  simp only [fingerAt, List.append_assoc, Nat.add_assoc, Nat.reduceAdd]

theorem drop_slot_none (hvalid : wordAt b p = fpcDbEntryInvalid)
    (hend : slotEnd b p ≤ b.length) :
    b.drop p = slotImage fpcDbVersion4 none ++ b.drop (slotEnd b p) := by
  have hle := le_slotEnd b p
  rw [slotEnd, if_neg (by rw [hvalid]; decide), slotImage, drop_wordAt (by omega), hvalid]

end Bytes

/-! ## An image announces its length -/

theorem slotEnd_remains {b rest : List UInt8} {p : Nat} (slot : Option Finger)
    (h : Remains b p (slotImage fpcDbVersion4 slot ++ rest)) (hb : b.length < 2 ^ 32) :
    slotEnd b p = p + (slotImage fpcDbVersion4 slot).length := by
  cases slot with
  | none =>
    rw [slotEnd, wordAt_remains h, if_neg (by decide)]
    rfl
  | some f =>
    have hlt := template_lt h hb
    rw [length_slotImage]
    simp only [slotImage_v4, List.append_assoc] at h
    have hsize := h.advance.advance.advance
    rw [length_be32, Vector.length_toList, length_be64] at hsize
    rw [slotEnd, wordAt_remains h, if_pos rfl, wordAt_remains hsize, UInt32.toNat_ofNat',
      Nat.mod_eq_of_lt hlt]
    show p + 48 + f.template.length = p + (40 + 8 + f.template.length)
    omega

theorem slotsEnd_remains {b rest : List UInt8} {p : Nat} (slots : List (Option Finger))
    (h : Remains b p (slotsImage fpcDbVersion4 slots ++ rest)) (hb : b.length < 2 ^ 32) :
    slotsEnd b slots.length p = p + (slotsImage fpcDbVersion4 slots).length := by
  induction slots generalizing p with
  | nil => rfl
  | cons slot slots ih =>
    rw [slotsImage_cons, List.append_assoc] at h
    rw [List.length_cons, slotsEnd, slotEnd_remains slot h hb, ih h.advance, slotsImage_cons,
      List.length_append, Nat.add_assoc]

/-- The length an image announces is its length. -/
theorem announcedLength_image (db : TemplateDb) (hlt : (db.image fpcDbVersion4).length < 2 ^ 32) :
    announcedLength (db.image fpcDbVersion4) = (db.image fpcDbVersion4).length := by
  have h : Remains (db.image fpcDbVersion4) 0 (be32 fpcDbMarkerStartOfDb ++ ([fpcDbVersion4]
      ++ (be64 db.databaseId ++ (bodyImage fpcDbVersion4 db.set
      ++ be32 fpcDbMarkerEndOfFile)))) := Remains.start _
  have hbody := h.advance.advance.advance
  rw [length_be32, List.length_singleton, length_be64] at hbody
  unfold announcedLength
  cases hset : db.set with
  | none =>
    rw [hset, bodyImage, List.append_assoc] at hbody
    rw [wordAt_remains hbody, if_neg (by decide), length_image_none hset]
    rfl
  | some s =>
    rw [hset, bodyImage, setImage_v4] at hbody
    simp only [List.append_assoc] at hbody
    have hslots := hbody.advance.advance.advance.advance.advance.advance
    simp only [length_be32, Vector.length_toList, Nat.reduceAdd] at hslots
    have hend := slotsEnd_remains s.slots.toList hslots hlt
    rw [Vector.length_toList, length_slotsImage] at hend
    rw [wordAt_remains hbody, if_pos rfl, hend, length_image_some hset]
    show 93 + _ + 4 = 57 + 8 + 32 + _
    omega

/-! ## What an accepted image says -/

section Accepted

variable {env : DbEnv} {b : List UInt8} {c : Nat}

theorem unpackVerifyUint32_ok {x : UInt32} {c' : Nat} (hb : b.length < 2 ^ 32)
    (hfits : c + 4 ≤ b.length) (h : unpackVerifyUint32 x b c b.length = .ok c') :
    wordAt b c = x ∧ c' = c + 4 := by
  rw [unpackVerifyUint32, unpackUint32_remains (remains_wordAt hfits) hb, ok_bind,
    if_neg (not_not.mpr rfl)] at h
  by_cases hx : x = wordAt b c
  · rw [if_neg (not_not.mpr hx)] at h
    exact ⟨hx.symm, (Outcome.ok.inj h).symm⟩
  · rw [if_pos hx] at h
    cases h

/-- A turn of the loop that did not fail, on a record that lies within the image: the slot it
made says what the record says. -/
theorem unpackFinger_ok {f : Fingerprint} {c' j : Nat} (hb : b.length < 2 ^ 32)
    (hend : slotEnd b c ≤ b.length)
    (h : unpackFinger env fpcDbVersion4 b b.length j c = .ok (f, c')) :
    c' = slotEnd b c ∧ b.drop c = slotImage fpcDbVersion4 f.view ++ b.drop c' ∧ f.Flagged := by
  have hle := le_slotEnd b c
  by_cases hvalid : wordAt b c = fpcDbEntryValid
  · have hdrop := drop_slot_some hvalid hend
    have hrem : Remains b c (slotImage fpcDbVersion4 (some (fingerAt b c))
        ++ b.drop (slotEnd b c)) := hdrop ▸ remains_drop (by omega)
    have hlen := slotEnd_remains (some (fingerAt b c)) hrem hb
    rw [unpackFinger_some hrem hb, bind_eq_ok] at h
    obtain ⟨fmem, -, h⟩ := h
    obtain ⟨rfl, rfl⟩ := Prod.mk.inj (Outcome.ok.inj h)
    refine ⟨hlen.symm, ?_, Or.inr rfl⟩
    rw [decodedFinger_view (template_lt hrem hb), ← hlen]
    exact hdrop
  · by_cases hinvalid : wordAt b c = fpcDbEntryInvalid
    · have hdrop := drop_slot_none hinvalid hend
      have hrem : Remains b c (slotImage fpcDbVersion4 none ++ b.drop (slotEnd b c)) :=
        hdrop ▸ remains_drop (by omega)
      have hlen := slotEnd_remains none hrem hb
      rw [unpackFinger_none hrem hb] at h
      obtain ⟨rfl, rfl⟩ := Prod.mk.inj (Outcome.ok.inj h)
      exact ⟨hlen.symm, hlen ▸ hdrop, Or.inl rfl⟩
    · -- any other flag ends the decoder
      rw [unpackFinger, unpackUint32_remains (remains_wordAt (by omega)) hb, ok_bind] at h
      dsimp only at h
      rw [if_neg hvalid, if_neg hinvalid] at h
      cases h

/-- The loop over the slots. Induction on the turns that are left; the records behind the current
one are within the image because the last of them is. -/
theorem unpackFingers_ok {fs : List Fingerprint} {n j c' : Nat} (hb : b.length < 2 ^ 32)
    (hend : slotsEnd b n c ≤ b.length)
    (h : unpackFingers env fpcDbVersion4 b b.length n j c = .ok (fs, c')) :
    c' = slotsEnd b n c ∧
      b.drop c = slotsImage fpcDbVersion4 (fs.map Fingerprint.view) ++ b.drop c' ∧
      fs.length = n ∧ ∀ f ∈ fs, f.Flagged := by
  induction n generalizing c j fs with
  | zero =>
    obtain ⟨rfl, rfl⟩ := Prod.mk.inj (Outcome.ok.inj h)
    exact ⟨rfl, rfl, rfl, by simp⟩
  | succ n ih =>
    rw [slotsEnd] at hend
    have hle := le_slotsEnd b n (slotEnd b c)
    rw [unpackFingers, bind_eq_ok] at h
    obtain ⟨⟨f, c1⟩, hfinger, h⟩ := h
    rw [bind_eq_ok] at h
    obtain ⟨⟨rest, c2⟩, hrest, h⟩ := h
    obtain ⟨rfl, rfl⟩ := Prod.mk.inj (Outcome.ok.inj h)
    obtain ⟨rfl, hdrop, hflag⟩ := unpackFinger_ok hb (by omega) hfinger
    obtain ⟨hc2, hdrops, hlen, hflags⟩ := ih hend hrest
    refine ⟨hc2, ?_, by rw [List.length_cons, hlen], List.forall_mem_cons.mpr ⟨hflag, hflags⟩⟩
    rw [hdrop, List.map_cons, slotsImage_cons, List.append_assoc, ← hdrops]

/-- Version 4 reads the state id. -/
theorem unpackStateId_v4 {stateId : Id256} {rest : List UInt8}
    (h : Remains b c (stateId.toList ++ rest)) (hb : b.length < 2 ^ 32) (set : FingerprintSet)
    (db : FingerprintDatabase) :
    unpackStateId env fpcDbVersion4 set db b c b.length
      = .ok ({ set with fingerprintStateId := stateId }, c + 32) := by
  rw [unpackStateId, if_pos (UInt8.le_refl fpcDbVersion4),
    unpackUint8Array_id256 h hb set.fingerprintStateId, ok_bind, toId256_toList]

/-- A set that was decoded, when its records end four bytes before the end of the image. -/
theorem unpackSet_ok {db : FingerprintDatabase} {set : FingerprintSet} (hb : b.length < 2 ^ 32)
    (hend : slotsEnd b fpcDbFingerprintsInSet (c + 72) + 4 = b.length)
    (h : unpackSet env fpcDbVersion4 db b c b.length = .ok set) :
    b.drop c = setImage fpcDbVersion4 set.view ++ be32 fpcDbMarkerEndOfFile ∧
      ∀ f ∈ set.aFingerprintList.toList, f.Flagged := by
  have hle := le_slotsEnd b fpcDbFingerprintsInSet (c + 72)
  have hkey : b.drop c = be32 (wordAt b c) ++ b.drop (c + 4) := drop_wordAt (by omega)
  have hmarker : b.drop (c + 4) = be32 (wordAt b (c + 4)) ++ b.drop (c + 8) :=
    drop_wordAt (by omega)
  have hid : b.drop (c + 8) = (toId256 (bytesAt b (c + 8) 32)).toList ++ b.drop (c + 40) :=
    drop_idAt (by omega)
  have hstate : b.drop (c + 40) = (toId256 (bytesAt b (c + 40) 32)).toList ++ b.drop (c + 72) :=
    drop_idAt (by omega)
  have hidRem := remains_drop (show c + 8 ≤ b.length by omega)
  have hstateRem := remains_drop (show c + 40 ≤ b.length by omega)
  rw [hid] at hidRem
  rw [hstate] at hstateRem
  rw [unpackSet, bind_eq_ok] at h
  obtain ⟨addr, -, h⟩ := h
  dsimp only at h
  rw [unpackUint32_remains (remains_wordAt (by omega)) hb, ok_bind] at h
  dsimp only at h
  rw [bind_eq_ok] at h
  obtain ⟨c1, hverify, h⟩ := h
  obtain ⟨hword, rfl⟩ := unpackVerifyUint32_ok hb (by omega) hverify
  rw [show c + 4 + 4 = c + 8 from rfl,
    unpackUint8Array_id256 hidRem hb (FingerprintSet.zeroed addr).fingerprintSetId, ok_bind] at h
  dsimp only at h
  rw [show c + 8 + 32 = c + 40 from rfl, unpackStateId_v4 hstateRem hb, ok_bind] at h
  dsimp only at h
  rw [show c + 40 + 32 = c + 72 from rfl, bind_eq_ok] at h
  obtain ⟨⟨fs, c2⟩, hfingers, h⟩ := h
  obtain ⟨hc2, hdrops, hlen, hflags⟩ := unpackFingers_ok hb (by omega) hfingers
  dsimp only at h
  rw [hc2, bind_eq_ok] at h
  rw [hc2] at hdrops
  obtain ⟨c3, heof, h⟩ := h
  obtain ⟨heof, -⟩ := unpackVerifyUint32_ok hb (by omega) heof
  have hlast : b.drop (slotsEnd b fpcDbFingerprintsInSet (c + 72)) = be32 fpcDbMarkerEndOfFile := by
    rw [drop_wordAt (by omega), heof, List.drop_eq_nil_of_le (by omega), List.append_nil]
  rw [← Outcome.ok.inj h]
  refine ⟨?_, ?_⟩
  · rw [hkey, hmarker, hword, hid, hstate, hdrops, hlast]
    simp only [setImage_v4, FingerprintSet.view, toId256_toList, Vector.toList_map,
      toList_ofList _ hlen, List.append_assoc]
  · rw [toList_ofList _ hlen]
    exact hflags

/-- An image that announces its length has at least the 25 bytes of an empty one. -/
theorem le_announcedLength (b : List UInt8) : 25 ≤ announcedLength b := by
  have hle := le_slotsEnd b fpcDbFingerprintsInSet 93
  unfold announcedLength
  split <;> omega

theorem unpackDatabaseId_v4 {databaseId : UInt64} {rest : List UInt8}
    (h : Remains b c (be64 databaseId ++ rest)) (hb : b.length < 2 ^ 32)
    (db : FingerprintDatabase) :
    unpackDatabaseId env fpcDbVersion4 db b c b.length
      = .ok ({ db with databaseId := databaseId }, c + 8) := by
  rw [unpackDatabaseId, if_pos (by decide), unpackUint64_remains h hb, ok_bind]

/-- A version 4 image that announces its length, once the unpacker has accepted it. -/
theorem dbUnpackV2V3V4_ok {d : FingerprintDatabase} (hb : b.length < 2 ^ 32)
    (hann : announcedLength b = b.length)
    (h : dbUnpackV2V3V4 env b b.length fpcDbVersion4 = .ok d)
    (hver : b.drop 4 = [fpcDbVersion4] ++ b.drop 5) :
    b = d.view.image fpcDbVersion4 ∧ d.Flagged := by
  have hle := le_announcedLength b
  have hstart : b = be32 (wordAt b 0) ++ b.drop 4 := drop_wordAt (p := 0) (by omega)
  have hdbId : b.drop 5 = be64 (ofBe64 (bytesAt b 5 8)) ++ b.drop 13 := drop_longAt (by omega)
  have hcount : b.drop 13 = be32 (wordAt b 13) ++ b.drop 17 := drop_wordAt (by omega)
  have hsets : b.drop 17 = be32 (wordAt b 17) ++ b.drop 21 := drop_wordAt (by omega)
  have hverRem := remains_drop (show 4 ≤ b.length by omega)
  rw [hver] at hverRem
  have hdbIdRem := remains_drop (show 5 ≤ b.length by omega)
  rw [hdbId] at hdbIdRem
  rw [dbUnpackV2V3V4, bind_eq_ok] at h
  obtain ⟨addr, -, h⟩ := h
  dsimp only at h
  rw [bind_eq_ok] at h
  obtain ⟨c1, hverify, h⟩ := h
  obtain ⟨hstartWord, hc1⟩ := unpackVerifyUint32_ok hb (by omega) hverify
  rw [hc1, show 0 + 4 = 4 from rfl, unpackVerifyUint8_remains hverRem hb, ok_bind,
    show 4 + 1 = 5 from rfl, unpackDatabaseId_v4 hdbIdRem hb, ok_bind] at h
  dsimp only at h
  rw [show 5 + 8 = 13 from rfl, unpackUint32_remains (remains_wordAt (by omega)) hb,
    ok_bind] at h
  dsimp only at h
  rw [bind_eq_ok] at h
  obtain ⟨c2, hverify, h⟩ := h
  obtain ⟨hsetsWord, hc2⟩ := unpackVerifyUint32_ok hb (by omega) hverify
  rw [hc2, show 13 + 4 + 4 = 21 from rfl] at h
  have hhead : b = be32 fpcDbMarkerStartOfDb ++ ([fpcDbVersion4]
      ++ (be64 (ofBe64 (bytesAt b 5 8)) ++ (be32 (wordAt b 13)
      ++ (be32 fpcDbMarkerStartOfSets ++ b.drop 21)))) := by
    rw [← hsetsWord, ← hsets, ← hcount, ← hdbId, ← hver, ← hstartWord]
    exact hstart
  split at h
  · cases h
  · rename_i hgt
    by_cases hone : wordAt b 13 = 1
    · rw [if_neg (not_not.mpr hone), bind_eq_ok] at h
      obtain ⟨set, hset, h⟩ := h
      rw [announcedLength, if_pos hone] at hann
      obtain ⟨hdrop, hflags⟩ := unpackSet_ok hb hann hset
      rw [← Outcome.ok.inj h]
      refine ⟨?_, fun s hs => Option.some.inj hs ▸ hflags⟩
      rw [image_v4]
      simp only [FingerprintDatabase.view, Option.map_some, bodyImage, List.append_assoc]
      rw [← hdrop, ← hone]
      exact hhead
    · rw [if_pos hone, bind_eq_ok] at h
      obtain ⟨c3, heof, h⟩ := h
      rw [announcedLength, if_neg hone] at hann
      obtain ⟨heof, -⟩ := unpackVerifyUint32_ok hb (by omega) heof
      have hzero : wordAt b 13 = 0 := by
        rw [gt_iff_lt, UInt32.lt_iff_toNat_lt] at hgt
        have hne : (wordAt b 13).toNat ≠ 1 := fun h1 => hone (UInt32.toNat_inj.mp h1)
        exact UInt32.toNat_inj.mp (by simp at hgt ⊢; omega)
      have hlast : b.drop 21 = be32 fpcDbMarkerEndOfFile := by
        rw [drop_wordAt (by omega), heof, List.drop_eq_nil_of_le (by omega), List.append_nil]
      rw [← Outcome.ok.inj h]
      refine ⟨?_, flagged_none _ _⟩
      rw [image_v4]
      simp only [FingerprintDatabase.view, Option.map_none, bodyImage, List.append_assoc]
      rw [← hlast, ← hzero]
      exact hhead

/-- A version 4 image that announces its length, once it has been accepted, is the encoding of
what was decoded from it. -/
theorem fpcDbCreate_ok {d : FingerprintDatabase} (hb : b.length < 2 ^ 32)
    (hver : b[4]? = some fpcDbVersion4) (hann : announcedLength b = b.length)
    (h : fpcDbCreate env (some b) b.length = .ok d) :
    b = d.view.image fpcDbVersion4 ∧ d.Flagged := by
  have hle := le_announcedLength b
  have hdrop : b.drop 4 = [fpcDbVersion4] ++ b.drop 5 := by
    obtain ⟨hlt, hbyte⟩ := List.getElem?_eq_some_iff.mp hver
    rw [List.drop_eq_getElem_cons hlt, hbyte, List.singleton_append]
  have hrem := remains_drop (show 4 ≤ b.length by omega)
  rw [hdrop] at hrem
  rw [fpcDbCreate, dbUnpack, bind_eq_ok] at h
  obtain ⟨c1, hverify, h⟩ := h
  obtain ⟨-, hc1⟩ := unpackVerifyUint32_ok hb (by omega) hverify
  rw [hc1, show 0 + 4 = 4 from rfl, unpackUint8_remains hrem hb, ok_bind] at h
  dsimp only at h
  rw [if_neg (by decide), if_neg (by decide), if_pos (by decide)] at h
  exact dbUnpackV2V3V4_ok hb hann h hdrop

end Accepted

/-! ## Exactly which accepted images are encodings -/

/-- **What the decoder accepts.** A version 4 image on which `fpc_db_create` returns 0 is the
encoding of the database it yields, with every field in place and nothing behind the last one,
and encoding that database gives it back, exactly when the records it announces add up to its
length. -/
theorem fpcDbCreate_reencodes_iff (b : List UInt8) (hb : b.length < 2 ^ 32)
    (hver : b[4]? = some fpcDbVersion4) (env : DbEnv) (d : FingerprintDatabase)
    (h : fpcDbCreate env (some b) b.length = .ok d) :
    (b = d.view.image fpcDbVersion4 ∧ fpcDbGetDataSize d = .ok b.length ∧
        ∀ out : List UInt8, out.length = b.length → fpcDbGetData d out b.length = .ok b)
      ↔ announcedLength b = b.length := by
  constructor
  · rintro ⟨himage, -⟩
    rw [himage] at hb ⊢
    exact announcedLength_image d.view hb
  · intro hann
    obtain ⟨himage, hflag⟩ := fpcDbCreate_ok hb hver hann h
    refine ⟨himage, ?_, fun out hout => ?_⟩
    · rw [fpcDbGetDataSize_image hflag, ← himage, wrap32_of_lt hb]
    · have hdata := fpcDbGetData_image hflag (himage ▸ hb) (himage ▸ hout)
      rwa [← himage] at hdata

/-- The image of the sample database, as it decodes. -/
def sampleDecoded : FingerprintDatabase :=
  { addr := 0x1000, databaseId := 7,
    pFingerprintSet := some
      { addr := 0x2000, fingerprintSetKey := 10, fingerprintSetId := Id256.filled 1,
        fingerprintStateId := Id256.filled 2,
        aFingerprintList := #v[.zeroed,
          { valid := fpcDbEntryValid, fingerprintId := Id256.filled 3, secureUserId := 99,
            ftemplate := some (Template.ofList 0x20000 3 [0xA0, 0xA1, 0xA2]) },
          .zeroed, .zeroed, .zeroed] } }

theorem sampleImage_reencodes :
    (sampleDatabase.view.image fpcDbVersion4 = sampleDecoded.view.image fpcDbVersion4 ∧
        fpcDbGetDataSize sampleDecoded = .ok (sampleDatabase.view.image fpcDbVersion4).length ∧
        ∀ out : List UInt8, out.length = (sampleDatabase.view.image fpcDbVersion4).length →
          fpcDbGetData sampleDecoded out (sampleDatabase.view.image fpcDbVersion4).length
            = .ok (sampleDatabase.view.image fpcDbVersion4))
      ↔ announcedLength (sampleDatabase.view.image fpcDbVersion4)
          = (sampleDatabase.view.image fpcDbVersion4).length :=
  fpcDbCreate_reencodes_iff (sampleDatabase.view.image fpcDbVersion4) (by decide +kernel)
    (by decide +kernel) .willing sampleDecoded (by decide +kernel)

/-- A version 4 image whose first slot announces a template of `size` bytes. None of them follow:
behind the length stand four invalid slots and the end marker. -/
def announcingImage (size : UInt32) : List UInt8 :=
  be32 fpcDbMarkerStartOfDb ++ [fpcDbVersion4] ++ be64 7 ++ be32 1 ++ be32 fpcDbMarkerStartOfSets
    ++ be32 10 ++ be32 fpcDbMarkerStartOfSIds ++ List.replicate 32 1 ++ List.replicate 32 2
    ++ be32 fpcDbEntryValid ++ List.replicate 32 3 ++ be64 99 ++ be32 size
    ++ be32 0 ++ be32 0 ++ be32 0 ++ be32 0 ++ be32 fpcDbMarkerEndOfFile

def truncatedImage : List UInt8 := announcingImage 100

/-- What it decodes to: the template holds the zeros of its allocation. -/
def truncatedDecoded : FingerprintDatabase :=
  { addr := 0x1000, databaseId := 7,
    pFingerprintSet := some
      { addr := 0x2000, fingerprintSetKey := 10, fingerprintSetId := Id256.filled 1,
        fingerprintStateId := Id256.filled 2,
        aFingerprintList := #v[
          { valid := fpcDbEntryValid, fingerprintId := Id256.filled 3, secureUserId := 99,
            ftemplate := some (Template.ofList 0x10000 100 (List.replicate 100 0)) },
          .zeroed, .zeroed, .zeroed, .zeroed] } }

/-- It is accepted, and the database that comes of it has an encoding 100 bytes longer. -/
theorem truncatedImage_accepted :
    truncatedImage[4]? = some fpcDbVersion4 ∧ truncatedImage.length = 161 ∧
      fpcDbCreate .willing (some truncatedImage) truncatedImage.length = .ok truncatedDecoded ∧
      fpcDbGetDataSize truncatedDecoded = .ok 261 ∧
      truncatedImage ≠ truncatedDecoded.view.image fpcDbVersion4 := by
  decide +kernel

end Fpc
