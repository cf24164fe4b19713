import Mathlib.Data.List.Perm.Basic
import Fingerprints.Tac.Bio

/-!
# The ids of the fingers

What `GET_FINGER_IDS` and `DELETE_TEMPLATE` do to the ids, 32 bits each, under which the framework
knows the fingers.

* **`fpcTaBioDeleteTemplate_ids`**: a delete under the active key takes one id out of the list;
* **`fpcTeeGetFingerIds_answered`**: the client gets the ids of the active set, in their order;
* **`fpcTeeDeleteTemplate_returns`**: where the application has a database, a delete comes back.
-/

namespace Fpc

open Wire Wire.Outcome

/-! ## The ids of a database -/

/-- The ids of the fingers in some slots. -/
def idsOf (fs : List Fingerprint) : List UInt32 :=
  (fs.filter fun f => f.valid == fpcDbEntryValid).map fun f => fpcDbTrimId32 f.fingerprintId

/-- The ids of the fingers of a database. -/
def enrolledIds (pDb : Option FingerprintDatabase) : List UInt32 := idsOf (slots pDb)

/-- The ids of the fingers of the active set. -/
def activeIds (bio : Bio) : List UInt32 :=
  match fpcDbGetSet bio.userDb bio.activeSetKey with
  | .ok set => idsOf set.aFingerprintList.toList
  | .error _ => []

/-- The fingers can be told apart by their ids, and none is taken for all of them. -/
structure DistinctIds (pDb : Option FingerprintDatabase) : Prop where
  nodup : (enrolledIds pDb).Nodup
  nonzero : 0 ∉ enrolledIds pDb

instance (pDb : Option FingerprintDatabase) : Decidable (DistinctIds pDb) :=
  decidable_of_iff ((enrolledIds pDb).Nodup ∧ 0 ∉ enrolledIds pDb)
    ⟨fun h => ⟨h.1, h.2⟩, fun h => ⟨h.nodup, h.nonzero⟩⟩

theorem idsOf_append (fs gs : List Fingerprint) : idsOf (fs ++ gs) = idsOf fs ++ idsOf gs := by
  simp [idsOf]

theorem idsOf_valid {f : Fingerprint} (h : f.valid = fpcDbEntryValid) (fs : List Fingerprint) :
    idsOf (f :: fs) = fpcDbTrimId32 f.fingerprintId :: idsOf fs := by
  simp [idsOf, h]

theorem idsOf_invalid {f : Fingerprint} (h : f.valid ≠ fpcDbEntryValid) (fs : List Fingerprint) :
    idsOf (f :: fs) = idsOf fs := by
  simp [idsOf, h]

theorem idsOf_perm {fs fs' : List Fingerprint} (h : fs'.Perm fs) :
    (idsOf fs').Perm (idsOf fs) := (h.filter _).map _

/-- The ids once a slot was written, beside those of the other slots. -/
theorem idsOf_set_perm {fs : List Fingerprint} {i : Nat} {old : Fingerprint}
    (h : fs[i]? = some old) (new : Fingerprint) :
    ∃ rest, (idsOf (fs.set i new)).Perm (idsOf (new :: rest)) ∧
      (idsOf fs).Perm (idsOf (old :: rest)) := by
  obtain ⟨hlt, rfl⟩ := List.getElem?_eq_some_iff.mp h
  refine ⟨fs.eraseIdx i, ?_, ?_⟩
  · exact idsOf_perm (List.set_perm_cons_eraseIdx hlt new)
  · exact idsOf_perm (List.getElem_cons_eraseIdx_perm hlt).symm

/-- The ids depend on the flags and the ids in the slots. -/
theorem idsOf_congr {fs fs' : List Fingerprint}
    (h : fs'.map (fun f => (f.valid, f.fingerprintId)) = fs.map fun f => (f.valid, f.fingerprintId)) :
    idsOf fs' = idsOf fs := by
  have hidsOf (gs : List Fingerprint) : idsOf gs =
      ((gs.map fun f => (f.valid, f.fingerprintId)).filter fun x => x.1 == fpcDbEntryValid).map
        fun x => fpcDbTrimId32 x.2 := by
    rw [List.filter_map, List.map_map]
    rfl
  rw [hidsOf, hidsOf, h]

theorem mem_enrolledIds {pDb : Option FingerprintDatabase} {id : UInt32} :
    id ∈ enrolledIds pDb ↔ ∃ f, Enrolled pDb f ∧ fpcDbTrimId32 f.fingerprintId = id := by
  simp [enrolledIds, idsOf, Enrolled]

section

variable {bio bio' : Bio} {pDb : Option FingerprintDatabase} {id : UInt32}

/-- The active set, where there is one, is all of the database. -/
theorem activeIds_eq {set : FingerprintSet}
    (h : fpcDbGetSet bio.userDb bio.activeSetKey = .ok set) :
    activeIds bio = enrolledIds bio.userDb := by
  obtain ⟨db, hdb, hset, _⟩ := fpcDbGetSet_ok h
  unfold activeIds enrolledIds
  rw [h, hdb, slots_of_set hset]

theorem activeIds_congr (hdb : bio'.userDb = bio.userDb)
    (hkey : bio'.activeSetKey = bio.activeSetKey) : activeIds bio' = activeIds bio := by
  unfold activeIds
  rw [hdb, hkey]

theorem activeIds_subset (bio : Bio) : activeIds bio ⊆ enrolledIds bio.userDb := by
  cases h : fpcDbGetSet bio.userDb bio.activeSetKey with
  | ok set => rw [activeIds_eq h]; exact List.Subset.refl _
  | error code => simp [activeIds, h]

theorem DistinctIds.activeIds_nodup (h : DistinctIds bio.userDb) : (activeIds bio).Nodup := by
  cases hset : fpcDbGetSet bio.userDb bio.activeSetKey with
  | ok set => rw [activeIds_eq hset]; exact h.nodup
  | error code => simp [activeIds, hset]

/-- An id that is not enrolled is not found. -/
theorem fpcDbGetIndexOfId32_missing {db : FingerprintDatabase} (h : id ∉ enrolledIds (some db)) :
    fpcDbGetIndexOfId32 (some db) id = .err (-fpcErrorNoentity) := by
  unfold fpcDbGetIndexOfId32 firstIndex
  dsimp only
  have hnone : (slots (some db)).findIdx? (fun f =>
      f.valid == fpcDbEntryValid && fpcDbTrimId32 f.fingerprintId == id) = none := by
    rw [List.findIdx?_eq_none_iff]
    intro f hf
    by_contra hfound
    simp only [Bool.not_eq_false, Bool.and_eq_true, beq_iff_eq] at hfound
    exact h (mem_enrolledIds.mpr ⟨f, ⟨hf, hfound.1⟩, hfound.2⟩)
  rw [hnone]

/-- An id that is enrolled is found. -/
theorem fpcDbGetIndexOfId32_found (h : id ∈ enrolledIds pDb) :
    ∃ index, fpcDbGetIndexOfId32 pDb id = .ok index := by
  obtain ⟨f, ⟨hmem, hvalid⟩, hid⟩ := mem_enrolledIds.mp h
  cases pDb with
  | none => cases hmem
  | some db =>
    unfold fpcDbGetIndexOfId32 firstIndex
    dsimp only
    cases hfind : (slots (some db)).findIdx? (fun f =>
        f.valid == fpcDbEntryValid && fpcDbTrimId32 f.fingerprintId == id) with
    | some i => exact ⟨i, rfl⟩
    | none =>
      have hnot := List.findIdx?_eq_none_iff.mp hfind f hmem
      simp [hvalid, hid] at hnot

/-- **A delete takes one id out.** It is found under the active key, and it is once in the list. -/
theorem fpcTaBioDeleteTemplate_ids {set : FingerprintSet} (hid : id ∈ enrolledIds bio.userDb)
    (hzero : id ≠ 0) (hset : fpcDbGetSet bio.userDb bio.activeSetKey = .ok set) :
    ∃ before after bio', fpcTaBioDeleteTemplate bio id = .ok (0, bio') ∧
      enrolledIds bio.userDb = before ++ id :: after ∧
      enrolledIds bio'.userDb = before ++ after ∧ activeIds bio' = before ++ after ∧
      bio'.userDb ≠ none := by
  obtain ⟨index, hindex⟩ := fpcDbGetIndexOfId32_found hid
  obtain ⟨f, hf, hvalid, htrim⟩ := firstIndex_ok hindex
  obtain ⟨db, hdb, hdbset, hkey⟩ := fpcDbGetSet_ok hset
  have hslots : slots bio.userDb = set.aFingerprintList.toList := by
    rw [hdb, slots_of_set hdbset]
  rw [hslots] at hf
  obtain ⟨hlt, hget⟩ := List.getElem?_eq_some_iff.mp hf
  have hindexLt : index < fpcDbFingerprintsInSet := by
    rwa [Vector.length_toList] at hlt
  have hsplit : set.aFingerprintList.toList = set.aFingerprintList.toList.take index
      ++ f :: set.aFingerprintList.toList.drop (index + 1) := by
    rw [← hget, ← List.drop_eq_getElem_cons hlt, List.take_append_drop]
  have hids : idsOf set.aFingerprintList.toList
      = idsOf (set.aFingerprintList.toList.take index)
        ++ id :: idsOf (set.aFingerprintList.toList.drop (index + 1)) := by
    conv_lhs => rw [hsplit]
    rw [idsOf_append, idsOf_valid hvalid, beq_iff_eq.mp htrim]
  have hwiped : idsOf (set.aFingerprintList.set index
        set.aFingerprintList[index].wiped).toList
      = idsOf (set.aFingerprintList.toList.take index)
        ++ idsOf (set.aFingerprintList.toList.drop (index + 1)) := by
    rw [Vector.toList_set, List.set_eq_take_append_cons_drop, if_pos hlt, idsOf_append,
      idsOf_invalid (f := set.aFingerprintList[index].wiped)
        (show ¬ fpcDbEntryInvalid = fpcDbEntryValid by decide)]
  refine ⟨idsOf (set.aFingerprintList.toList.take index),
    idsOf (set.aFingerprintList.toList.drop (index + 1)), ?_⟩
  unfold fpcTaBioDeleteTemplate
  rw [if_neg hzero, hindex]
  dsimp only
  unfold fpcDbDeleteFingerprint
  rw [dif_pos hindexLt, hset, hdb]
  dsimp only [Option.map_some]
  have hsame : fpcDbGetSet (some { db with pFingerprintSet := some (set.withSlots
      (set.aFingerprintList.set index set.aFingerprintList[index].wiped)) }) bio.activeSetKey
      = .ok (set.withSlots
          (set.aFingerprintList.set index set.aFingerprintList[index].wiped)) := by
    exact if_neg (not_not.mpr hkey)
  split
  · next hcount =>
    -- no finger is left, and the set goes
    have hnone : idsOf (set.aFingerprintList.set index
        set.aFingerprintList[index].wiped).toList = [] := by
      unfold idsOf
      rw [List.map_eq_nil_iff, List.filter_eq_nil_iff]
      exact List.countP_eq_zero.mp hcount
    unfold fpcDbDeleteSet
    rw [hsame]
    refine ⟨_, rfl, ?_, ?_, ?_, ?_⟩
    · rw [enrolledIds, ← hdb, hslots, hids]
    · rw [← hwiped, hnone]
      rfl
    · rw [← hwiped, hnone]
      rfl
    · exact Option.some_ne_none _
  · refine ⟨_, rfl, ?_, ?_, ?_, ?_⟩
    · rw [enrolledIds, ← hdb, hslots, hids]
    · rw [← hwiped]
      rfl
    · unfold activeIds
      rw [hsame, ← hwiped]
      rfl
    · exact Option.some_ne_none _

/-- An id that is not enrolled, or whose set is not the active one, is answered as missing. -/
theorem fpcTaBioDeleteTemplate_missing {db : FingerprintDatabase} (hdb : bio.userDb = some db)
    (hzero : id ≠ 0) (hnot : id ∉ activeIds bio) :
    fpcTaBioDeleteTemplate bio id = .ok (-fpcErrorNoentity, bio) := by
  unfold fpcTaBioDeleteTemplate
  rw [if_neg hzero]
  by_cases hid : id ∈ enrolledIds bio.userDb
  · obtain ⟨index, hindex⟩ := fpcDbGetIndexOfId32_found hid
    have hlt : index < fpcDbFingerprintsInSet := by
      obtain ⟨f, hf, _, _⟩ := firstIndex_ok hindex
      obtain ⟨hlt, _⟩ := List.getElem?_eq_some_iff.mp hf
      exact lt_of_lt_of_le hlt (length_slots_le _)
    rw [hindex]
    dsimp only
    unfold fpcDbDeleteFingerprint
    rw [dif_pos hlt]
    cases hset : fpcDbGetSet bio.userDb bio.activeSetKey with
    | ok set =>
      rw [activeIds_eq hset] at hnot
      exact absurd hid hnot
    | error code =>
      have hcode : code = -fpcErrorNoentity := by
        rw [hdb] at hset
        unfold fpcDbGetSet at hset
        dsimp only at hset
        split at hset
        · cases hset
          rfl
        · split at hset
          · cases hset
            rfl
          · cases hset
      rw [hcode]
  · rw [hdb] at hid ⊢
    rw [fpcDbGetIndexOfId32_missing hid]

end

/-! ## The ids in a reply -/

/-- The id that `fpc_db_get_fingerprint_id` gives for an index. -/
def idAt (bio : Bio) (index : Nat) : UInt32 :=
  match fpcDbGetFingerprintId bio.userDb bio.activeSetKey index with
  | .ok largeTid => fpcDbTrimId32 largeTid
  | .error _ => 0

section

variable {bio : Bio} {msg : List UInt8}

/-- Where the message has room for the ids, they are written. Induction on the entries. -/
theorem storeIds_returns {indices : List Nat} {i : Nat}
    (hin : offArray + 4 * (i + indices.length) ≤ msg.length)
    (hfingers : ∀ index ∈ indices, ∃ id,
      fpcDbGetFingerprintId bio.userDb bio.activeSetKey index = .ok id) :
    ∃ msg', storeIds bio indices i msg = .ok (0, msg') := by
  induction indices generalizing i msg with
  | nil => exact ⟨msg, rfl⟩
  | cons index rest ih =>
    obtain ⟨id, hid⟩ := hfingers index List.mem_cons_self
    rw [List.length_cons] at hin
    have hput : offArray + 4 * i + 4 ≤ msg.length := by omega
    unfold storeIds
    rw [hid]
    dsimp only
    rw [store32_eq hput, ok_bind]
    exact ih (by rw [length_put32 hput]; omega)
      fun index hindex => hfingers index (List.mem_cons_of_mem _ hindex)

/-- The ids are written one behind the other. Induction on the entries. -/
theorem storeIds_written {indices : List Nat} {i : Nat} {status : Int} {msg' : List UInt8}
    (hfingers : ∀ index ∈ indices, ∃ id,
      fpcDbGetFingerprintId bio.userDb bio.activeSetKey index = .ok id)
    (h : storeIds bio indices i msg = .ok (status, msg')) :
    status = 0 ∧ (∀ o, o + 4 ≤ offArray + 4 * i → field32 msg' o = field32 msg o) ∧
      (List.range indices.length).map (fun j => field32 msg' (offArray + 4 * (i + j)))
        = indices.map (idAt bio) := by
  induction indices generalizing i msg with
  | nil =>
    cases h
    exact ⟨rfl, fun _ _ => rfl, rfl⟩
  | cons index rest ih =>
    obtain ⟨id, hid⟩ := hfingers index List.mem_cons_self
    unfold storeIds at h
    rw [hid] at h
    obtain ⟨stored, hstore, h⟩ := bind_eq_ok.mp h
    obtain ⟨hput, rfl⟩ := store32_ok hstore
    obtain ⟨hstatus, hbefore, hids⟩ :=
      ih (fun index hindex => hfingers index (List.mem_cons_of_mem _ hindex)) h
    refine ⟨hstatus, ?_, ?_⟩
    · intro o ho
      rw [hbefore o (by omega), field32_put32_of_disjoint hput (Or.inl ho)]
    · rw [List.length_cons, List.range_succ_eq_map, List.map_cons, List.map_map, List.map_cons,
        Nat.add_zero, hbefore _ (by omega), field32_put32 (by omega)]
      congr 1
      · rw [idAt, hid]
      · rw [← hids]
        refine List.map_congr_left fun j _ => ?_
        show field32 msg' (offArray + 4 * (i + (j + 1))) = _
        rw [Nat.add_right_comm i 1 j, Nat.add_assoc]

/-- The ids by the indices of the valid slots are the ids of the slots. Induction on the slots. -/
theorem idsOf_eq_map_range (fs : List Fingerprint) :
    ((List.range fs.length).filter fun i => (fs[i]?.map Fingerprint.valid) == some fpcDbEntryValid).map
        (fun i => fpcDbTrimId32 (fs.getD i Fingerprint.zeroed).fingerprintId)
      = idsOf fs := by
  induction fs with
  | nil => rfl
  | cons f rest ih =>
    rw [List.length_cons, List.range_succ_eq_map, List.filter_cons, List.filter_map]
    by_cases hvalid : f.valid = fpcDbEntryValid
    · rw [idsOf_valid hvalid, ← ih]
      simp [hvalid, Function.comp_def]
    · rw [idsOf_invalid hvalid, ← ih]
      simp [hvalid, Function.comp_def]

/-- A valid slot of the active set has an id to give. -/
theorem fpcDbGetFingerprintId_valid {set : FingerprintSet} {index : Nat}
    (hset : fpcDbGetSet bio.userDb bio.activeSetKey = .ok set) (hlt : index < fpcDbFingerprintsInSet)
    (hvalid : (set.aFingerprintList.toList[index]?.map Fingerprint.valid) = some fpcDbEntryValid) :
    fpcDbGetFingerprintId bio.userDb bio.activeSetKey index
      = .ok (set.aFingerprintList.toList.getD index Fingerprint.zeroed).fingerprintId := by
  have hget : set.aFingerprintList.toList[index]? = some set.aFingerprintList[index] := by
    simp [hlt]
  rw [hget, Option.map_some] at hvalid
  have hne : ¬ set.aFingerprintList[index].valid = fpcDbEntryInvalid := by
    rw [Option.some.inj hvalid]
    decide
  unfold fpcDbGetFingerprintId getFinger
  rw [dif_pos hlt, hset]
  show Except.map Fingerprint.fingerprintId (if set.aFingerprintList[index].valid
    = fpcDbEntryInvalid then .error (-fpcErrorNoentity) else .ok set.aFingerprintList[index]) = _
  rw [if_neg hne, List.getD_eq_getElem?_getD, hget]
  rfl

/-- The indices of the active set, and the ids at them. -/
theorem fpcDbGetIndices_ids {indices : List Nat}
    (h : fpcDbGetIndices bio.userDb bio.activeSetKey = .ok indices) :
    indices.length ≤ fpcDbFingerprintsInSet ∧ indices.map (idAt bio) = activeIds bio ∧
      ∀ index ∈ indices, ∃ id,
        fpcDbGetFingerprintId bio.userDb bio.activeSetKey index = .ok id := by
  unfold fpcDbGetIndices at h
  split at h
  · next set hset =>
    cases h
    have hgives : ∀ index ∈ (List.range fpcDbFingerprintsInSet).filter (fun i =>
        (set.aFingerprintList.toList[i]?.map Fingerprint.valid) == some fpcDbEntryValid),
        fpcDbGetFingerprintId bio.userDb bio.activeSetKey index
          = .ok (set.aFingerprintList.toList.getD index Fingerprint.zeroed).fingerprintId := by
      intro index hindex
      obtain ⟨hrange, hvalid⟩ := List.mem_filter.mp hindex
      exact fpcDbGetFingerprintId_valid hset (List.mem_range.mp hrange) (beq_iff_eq.mp hvalid)
    refine ⟨?_, ?_, fun index hindex => ⟨_, hgives index hindex⟩⟩
    · exact (List.length_filter_le _ _).trans (List.length_range).le
    · have hids := idsOf_eq_map_range set.aFingerprintList.toList
      rw [Vector.length_toList] at hids
      rw [activeIds, hset]
      dsimp only
      rw [← hids]
      refine List.map_congr_left fun index hindex => ?_
      rw [idAt, hgives index hindex]
  · next code hset =>
    split at h
    · cases h
      simp [activeIds, hset]
    · cases h

theorem fpcDbGetIndices_error {pDb : Option FingerprintDatabase} {key : UInt32} {code : Int}
    (h : fpcDbGetIndices pDb key = .error code) : code = -fpcErrorInput := by
  unfold fpcDbGetIndices at h
  split at h
  · cases h
  · next code' hset =>
    split at h
    · cases h
    · next hne =>
      cases h
      unfold fpcDbGetSet at hset
      split at hset
      · cases hset
        rfl
      · split at hset
        · cases hset
          exact absurd rfl hne
        · split at hset
          · cases hset
            exact absurd rfl hne
          · cases hset

/-- `GET_FINGER_IDS` comes back, as the message has room for the ids of a set. -/
theorem fpcTaBioGetTemplateIds_returns (hmsg : sizeofBioCommand ≤ msg.length) (size : UInt32) :
    ∃ r, fpcTaBioGetTemplateIds bio size msg = .ok r := by
  unfold fpcTaBioGetTemplateIds
  cases hindices : fpcDbGetIndices bio.userDb bio.activeSetKey with
  | error code => exact ⟨_, rfl⟩
  | ok indices =>
    obtain ⟨hlength, _, hgives⟩ := fpcDbGetIndices_ids hindices
    have hroom : offArray + 4 * (0 + indices.length) ≤ msg.length := by
      unfold sizeofBioCommand at hmsg
      unfold fpcDbFingerprintsInSet at hlength
      unfold offArray
      omega
    obtain ⟨msg', hstore⟩ := storeIds_returns hroom hgives
    dsimp only
    split
    · exact ⟨_, rfl⟩
    · rw [hstore, ok_bind]
      exact ⟨_, rfl⟩

/-- **What `GET_FINGER_IDS` answers**: an error, or the ids of the active set, into the message. -/
theorem fpcTaBioGetTemplateIds_ids {status : Int} {msg' : List UInt8} {size : Option UInt32}
    (h : fpcTaBioGetTemplateIds bio 5 msg = .ok (status, msg', size)) :
    FitsInt status ∧ (status = 0 → size = some (UInt32.ofNat (activeIds bio).length) ∧
      (activeIds bio).length ≤ fpcDbFingerprintsInSet ∧
      replyIds msg' (activeIds bio).length = activeIds bio) := by
  unfold fpcTaBioGetTemplateIds at h
  cases hindices : fpcDbGetIndices bio.userDb bio.activeSetKey with
  | error code =>
    rw [hindices] at h
    cases h
    rw [fpcDbGetIndices_error hindices]
    exact ⟨by decide, fun h => absurd h (by decide)⟩
  | ok indices =>
    rw [hindices] at h
    obtain ⟨hlength, hids, hgives⟩ := fpcDbGetIndices_ids hindices
    dsimp only at h
    rw [if_neg (by unfold fpcDbFingerprintsInSet at hlength; exact not_lt.mpr hlength)] at h
    obtain ⟨⟨stored, written⟩, hstore, h⟩ := bind_eq_ok.mp h
    obtain ⟨rfl, _, hreply⟩ := storeIds_written hgives hstore
    cases h
    have hsame : (activeIds bio).length = indices.length := by rw [← hids, List.length_map]
    refine ⟨by decide, fun _ => ⟨by rw [hsame], by rw [hsame]; exact hlength, ?_⟩⟩
    rw [hsame, replyIds, ← hids, ← hreply]
    refine List.map_congr_left fun j _ => ?_
    rw [Nat.zero_add]

end

/-! ## The commands of the client -/

section

variable {P : Platform} {tac : Tac} {envs : Nat → Env} {tee tee' : Tee} {id : UInt32}

/-- A bio command comes back where its case of the application's switch does. -/
theorem bioCommand_returns {cmd : BioCmd} {commandId : UInt32} (htac : tac.DeliversOrFails P)
    (hbuffer : sizeofBioCommand ≤ tee.sharedBuffer.length)
    (hcmd : BioCmd.ofWord commandId = some cmd)
    (hswitch : ¬ tac.Fails → ∀ msg, sizeofBioCommand ≤ msg.length → ∃ reply,
      bioSwitch P (envs tee.messages) tee.ta msg (field32 tee.sharedBuffer offAnswer) cmd
        = .ok reply) :
    ∃ status tee', bioCommand tac envs tee commandId = .ok (status, tee') := by
  have hsize : sizeofBioCommand = 40 := rfl
  obtain ⟨sent, hlen, hcommandOf, hanswer, hcommand⟩ := bioCommand_message hbuffer hcmd
  rw [hcommand]
  unfold transferBuffer transfer
  by_cases hfails : tac.Fails
  · rw [hfails.transfer, ok_bind]
    exact ⟨_, _, rfl⟩
  · obtain ⟨sees, hdelivers⟩ := htac.resolve_right hfails
    obtain ⟨reply, hreply⟩ := hswitch hfails sent (by omega)
    have hreplied := length_of_bioSwitch hreply
    have hresponseIn : offResponse + 4 ≤ reply.msg.length := by unfold offResponse; omega
    have hanswerIn : offAnswer + 4 ≤ (put32 reply.msg offResponse (ofInt32 reply.response)).length := by
      rw [length_put32 hresponseIn]
      unfold offAnswer
      omega
    have hrespond : bioRespond P (envs tee.messages) tee.ta sent cmd
        = .ok { ta := reply.ta, msg := put32 (put32 reply.msg offResponse (ofInt32 reply.response))
                  offAnswer reply.answer, status := 0 } := by
      unfold bioRespond
      rw [load32_eq (by unfold offAnswer; omega), ok_bind, hanswer, hreply, ok_bind,
        store32_eq hresponseIn, ok_bind, store32_eq hanswerIn, ok_bind]
    rw [hdelivers.transfer, (fpcTaRouteCommand_of_bio P _ tee.ta hcommandOf).2, hrespond]
    simp only [ok_bind]
    unfold bioAnswerOf
    split
    · exact ⟨_, _, rfl⟩
    · rw [load32_eq (by rw [length_put32 hanswerIn, length_put32 hresponseIn]; unfold offResponse; omega),
        ok_bind]
      exact ⟨_, _, rfl⟩

/-- And one with an answer in the message. -/
theorem bioCommandWith_returns {cmd : BioCmd} {commandId answer : UInt32}
    (htac : tac.DeliversOrFails P) (hbuffer : sizeofBioCommand ≤ tee.sharedBuffer.length)
    (hcmd : BioCmd.ofWord commandId = some cmd)
    (hswitch : ¬ tac.Fails → ∀ msg, sizeofBioCommand ≤ msg.length → ∃ reply,
      bioSwitch P (envs tee.messages) tee.ta msg answer cmd = .ok reply) :
    ∃ status tee', bioCommandWith tac envs tee answer commandId = .ok (status, tee') := by
  have hsize : sizeofBioCommand = 40 := rfl
  have hin : offAnswer + 4 ≤ tee.sharedBuffer.length := by
    unfold offAnswer
    omega
  have hasked : field32 (put32 tee.sharedBuffer offAnswer answer) offAnswer = answer :=
    field32_put32 (by omega) _
  unfold bioCommandWith
  rw [store32_eq hin, ok_bind]
  apply bioCommand_returns htac _ hcmd
  · intro hreached msg hmsg
    dsimp only
    rw [hasked]
    exact hswitch hreached msg hmsg
  · rw [length_put32 hin]
    exact hbuffer

/-- What `fpc_tee_delete_template` leaves of the ids. -/
inductive IdDeleted (tac : Tac) (tee : Tee) (id : UInt32) (status : Int) (tee' : Tee) : Prop
  | lost (hfails : tac.Fails) (hstatus : status = -fpcErrorComm) (hta : tee'.ta = tee.ta) :
      IdDeleted tac tee id status tee'
  | deleted (hreached : ¬ tac.Fails) (before after : List UInt32) (hstatus : status = 0)
      (hids : activeIds tee.ta.bio = before ++ id :: after)
      (henrolled : enrolledIds tee.ta.bio.userDb = before ++ id :: after)
      (henrolled' : enrolledIds tee'.ta.bio.userDb = before ++ after)
      (hids' : activeIds tee'.ta.bio = before ++ after)
      (hpresent : tee'.ta.bio.userDb ≠ none) : IdDeleted tac tee id status tee'
  | missing (hreached : ¬ tac.Fails) (hstatus : status = -fpcErrorNoentity)
      (hnot : id ∉ activeIds tee.ta.bio) (hta : tee'.ta = tee.ta)
      (hpresent : tee.ta.bio.userDb ≠ none) : IdDeleted tac tee id status tee'

/-- A delete that comes back found the id under the active key, or answered it as missing. -/
theorem fpcTeeDeleteTemplate_ids {status : Int} (htac : tac.DeliversOrFails P)
    (hbuffer : sizeofBioCommand ≤ tee.sharedBuffer.length) (hzero : id ≠ 0)
    (h : fpcTeeDeleteTemplate tac envs tee id = .ok (status, tee')) :
    IdDeleted tac tee id status tee' := by
  cases (fpcTeeDeleteTemplate_commanded htac hbuffer h).1 with
  | lost hfails hstatus hta => exact .lost hfails hstatus hta
  | answered hreached msg reply hswitch hstatus hta _ _ _ =>
    obtain ⟨⟨response, bio⟩, hdelete, hswitch⟩ := bind_eq_ok.mp hswitch
    cases hswitch
    dsimp only at hstatus hta
    cases hdb : tee.ta.bio.userDb with
    | none =>
      unfold fpcTaBioDeleteTemplate at hdelete
      rw [if_neg hzero, hdb] at hdelete
      cases hdelete
    | some db =>
      by_cases hid : id ∈ activeIds tee.ta.bio
      · cases hset : fpcDbGetSet tee.ta.bio.userDb tee.ta.bio.activeSetKey with
        | error code => simp [activeIds, hset] at hid
        | ok set =>
          have hactive := activeIds_eq hset
          rw [hactive] at hid
          obtain ⟨before, after, bio', hok, hids, henrolled, hids', hpresent⟩ :=
            fpcTaBioDeleteTemplate_ids hid hzero hset
          cases hdelete.symm.trans hok
          have hbio : tee'.ta.bio = bio := by rw [hta]
          rw [← hbio] at henrolled hids' hpresent
          exact .deleted hreached before after (hstatus.trans (by decide)) (hactive.trans hids)
            hids henrolled hids' hpresent
      · cases hdelete.symm.trans (fpcTaBioDeleteTemplate_missing hdb hzero hid)
        exact .missing hreached (hstatus.trans (by decide)) hid hta
          (by rw [hdb]; exact Option.some_ne_none _)

/-- Where the application has a database, or the request does not get there, a delete comes back. -/
theorem fpcTeeDeleteTemplate_returns (htac : tac.DeliversOrFails P)
    (hbuffer : sizeofBioCommand ≤ tee.sharedBuffer.length)
    (hpresent : ¬ tac.Fails → tee.ta.bio.userDb ≠ none) :
    ∃ status tee', fpcTeeDeleteTemplate tac envs tee id = .ok (status, tee') := by
  have hcmd : BioCmd.ofWord fpcTaBioDeleteTemplateCmd = some .deleteTemplate := by decide
  have hdelete (hreached : ¬ tac.Fails) : ∃ r, fpcTaBioDeleteTemplate tee.ta.bio id = .ok r := by
    obtain ⟨db, hdb⟩ := Option.ne_none_iff_exists'.mp (hpresent hreached)
    unfold fpcTaBioDeleteTemplate fpcDbGetIndexOfId32 firstIndex
    rw [hdb]
    dsimp only
    split
    · exact ⟨_, rfl⟩
    · split
      · next hfault => split at hfault <;> cases hfault
      · exact ⟨_, rfl⟩
      · exact ⟨_, rfl⟩
  obtain ⟨status, tee', hcommand⟩ :
      ∃ status tee', bioCommandWith tac envs tee id fpcTaBioDeleteTemplateCmd = .ok (status, tee') :=
    bioCommandWith_returns htac hbuffer hcmd fun hreached msg _ => by
      obtain ⟨r, hr⟩ := hdelete hreached
      unfold bioSwitch
      rw [hr, ok_bind]
      exact ⟨_, rfl⟩
  have hlen := (bioCommandWith_commanded htac hbuffer hcmd hcommand).2
  unfold fpcTeeDeleteTemplate
  rw [hcommand, ok_bind]
  dsimp only
  unfold responseOf
  split
  · exact ⟨_, _, rfl⟩
  · rw [load32_eq (by
      have hsize : sizeofBioCommand = 40 := rfl
      unfold offResponse
      omega), ok_bind]
    exact ⟨_, _, rfl⟩

variable (envs) in
/-- The client gets the ids of the active set, or an error. -/
theorem fpcTeeGetFingerIds_answered (htac : tac.DeliversOrFails P)
    (hbuffer : sizeofBioCommand ≤ tee.sharedBuffer.length) :
    ∃ status ids tee', fpcTeeGetFingerIds tac envs tee 5 = .ok (status, ids, tee') ∧
      (status = 0 → ids = some (activeIds tee.ta.bio)) := by
  have hsize : sizeofBioCommand = 40 := rfl
  have hin : offAnswer + 4 ≤ tee.sharedBuffer.length := by
    unfold offAnswer
    omega
  have hbuffer' : sizeofBioCommand ≤ (put32 tee.sharedBuffer offAnswer 5).length := by
    rw [length_put32 hin]
    exact hbuffer
  have hasked : field32 (put32 tee.sharedBuffer offAnswer 5) offAnswer = 5 :=
    field32_put32 (by omega) _
  have hcmd : BioCmd.ofWord fpcTaBioGetFingerIdsCmd = some .getFingerIds := by decide
  obtain ⟨status, tee', hcommand⟩ :
      ∃ status tee', bioCommandWith tac envs tee 5 fpcTaBioGetFingerIdsCmd = .ok (status, tee') :=
    bioCommandWith_returns htac hbuffer hcmd fun _ msg hmsg => by
      obtain ⟨r, hr⟩ : ∃ r, fpcTaBioGetTemplateIds tee.ta.bio 5 msg = .ok r :=
        fpcTaBioGetTemplateIds_returns hmsg 5
      unfold bioSwitch
      rw [hr, ok_bind]
      exact ⟨_, rfl⟩
  unfold bioCommandWith at hcommand
  rw [store32_eq hin, ok_bind] at hcommand
  obtain ⟨hcommanded, hlen⟩ := bioCommand_commanded htac hbuffer' hcmd hcommand
  have hlen' : sizeofBioCommand ≤ tee'.sharedBuffer.length := by
    rw [hlen]
    exact hbuffer'
  unfold fpcTeeGetFingerIds
  rw [store32_eq hin, ok_bind, if_neg (by decide)]
  dsimp only
  rw [hcommand, ok_bind]
  by_cases hzero : status = 0
  · cases hcommanded with
    | lost _ hstatus _ => exact absurd (hstatus.symm.trans hzero) (by decide)
    | answered _ msg reply hswitch hstatus _ _ hanswer harray =>
      obtain ⟨⟨response, msg', size⟩, hids, hswitch⟩ := bind_eq_ok.mp hswitch
      rw [hasked] at hids
      cases hswitch
      obtain ⟨hfits, hreply⟩ := fpcTaBioGetTemplateIds_ids hids
      dsimp only at hstatus hanswer harray
      rw [toInt32_ofInt32 hfits] at hstatus
      obtain ⟨rfl, hlength, hreply⟩ := hreply (hstatus.symm.trans hzero)
      replace hlength : (activeIds tee.ta.bio).length ≤ 5 := hlength
      have hcount : (field32 tee'.sharedBuffer offAnswer).toNat = (activeIds tee.ta.bio).length := by
        rw [hanswer]
        show (UInt32.ofNat (activeIds tee.ta.bio).length).toNat = _
        exact UInt32.toNat_ofNat_of_lt' (lt_of_le_of_lt hlength (by decide))
      have hspan : offArray + 4 * (activeIds tee.ta.bio).length ≤ tee'.sharedBuffer.length := by
        unfold offArray
        omega
      dsimp only
      rw [if_neg (not_not.mpr hzero), load32_eq (by unfold offAnswer; omega), ok_bind, hcount,
        loadSpan_eq hspan, ok_bind]
      unfold responseOf
      rw [if_neg (not_not.mpr hzero), load32_eq (by unfold offResponse; omega), ok_bind, ok_bind]
      refine ⟨_, _, _, rfl, fun _ => ?_⟩
      refine congrArg some (Eq.trans ?_ hreply)
      refine List.map_congr_left fun j _ => ?_
      exact (harray _ (by unfold offArray offAnswer; omega)).2
  · dsimp only
    rw [if_pos hzero]
    exact ⟨_, _, _, rfl, fun h => absurd h hzero⟩

/-- An empty database is loaded, or there is none: the command comes back. -/
theorem fpcTeeLoadEmptyDb_returns (htac : tac.DeliversOrFails P)
    (hbuffer : sizeofBioCommand ≤ tee.sharedBuffer.length) :
    ∃ status tee', fpcTeeLoadEmptyDb tac envs tee = .ok (status, tee') := by
  have hcmd : BioCmd.ofWord fpcTaBioLoadEmptyDbCmd = some .loadEmptyDb := by decide
  refine bioCommand_returns htac hbuffer hcmd fun _ msg _ => ?_
  have hload : ∃ r, fpcTaBioLoadEmptyDb (envs tee.messages) tee.ta.bio = .ok r := by
    unfold fpcTaBioLoadEmptyDb fpcDbCreate DbEnv.memCalloc
    dsimp only
    rw [if_neg (not_not.mpr rfl)]
    cases (envs tee.messages).db.malloc .database with
    | none => exact ⟨_, rfl⟩
    | some addr => exact ⟨_, rfl⟩
  obtain ⟨r, hr⟩ := hload
  unfold bioSwitch
  rw [hr, ok_bind]
  exact ⟨_, rfl⟩

end

end Fpc
