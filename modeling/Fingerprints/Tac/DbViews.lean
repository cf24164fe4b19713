import Fingerprints.Ta.OwnedTemplates
import Fingerprints.Tac.FingerIds

/-!
# The views of a database agree

The slots of a database are looked at by key (`fpc_db_get_indices`, `fpc_db_get_fingerprint_count`),
whatever the key (`fpc_db_get_all_templates`), by the pointer of a template
(`fpc_db_get_index_of_template`) and by the id (`GET_FINGER_IDS`, `IDENTIFY`). That they see the same
fingers rests on the ownership of the templates.

* **`fpcDbGetIndexOfTemplate_owned`**: the block of a finger leads to its slot;
* **`viewsAgree_of_owned`**: the views agree where the templates are owned and distinct;
* **`run_viewsAgree`**: so they do in every run in which the memory was fresh.
-/

namespace Fpc

open Wire Wire.Outcome Runs

/-! ## The views -/

/-- `fpc_db_get_fingerprint_count` -/
def fpcDbGetFingerprintCount (pDb : Option FingerprintDatabase) (fingerprintSetKey : UInt32) :
    Except Int Nat :=
  match fpcDbGetSet pDb fingerprintSetKey with
  | .ok set => .ok (dbCountFingersInSet set)
  | .error code => if code = -fpcErrorNoentity then .ok 0 else .error code

/-- The indices are those of the valid slots, in increasing order and as many as are counted. -/
structure IndexesFingers (pDb : Option FingerprintDatabase) (key : UInt32) (indices : List Nat) :
    Prop where
  returned : fpcDbGetIndices pDb key = .ok indices
  increasing : indices.Pairwise (· < ·)
  valid : ∀ k, k ∈ indices ↔ FingerAt pDb k
  counted : fpcDbGetFingerprintCount pDb key = .ok indices.length

/-- All templates are returned in the order of the indices, and each leads back to its slot. -/
def ListsTemplates (pDb : Option FingerprintDatabase) (indices : List Nat) : Prop :=
  ∀ list : Vector TplRef fpcDbFingerprintsInSet, ∃ list' : Vector TplRef fpcDbFingerprintsInSet,
    fpcDbGetAllTemplates pDb list fpcDbFingerprintsInSet = .ok (list', indices.length) ∧
      ∀ k slot : Nat, indices[k]? = some slot → ∃ f, (slots pDb)[slot]? = some f ∧
        list'.toList[k]? = some f.tplRef ∧ fpcDbGetIndexOfTemplate pDb f.tplRef = .ok slot

/-- `GET_FINGER_IDS` returns the id, to a client that has room for the ids of a set. -/
def ReturnsId (bio : Bio) (id : UInt32) : Prop :=
  ∀ msg : List UInt8, sizeofBioCommand ≤ msg.length → ∃ msg' n,
    fpcTaBioGetTemplateIds bio 5 msg = .ok (0, msg', some n) ∧ id ∈ replyIds msg' n.toNat

/-- What the views of the database say of each other. -/
structure ViewsAgree (P : Platform) (ta : Ta) : Prop where
  owned : SlotsOwned (slots ta.bio.userDb)
  distinct : ∀ (i j : Nat) (f g : Fingerprint), (slots ta.bio.userDb)[i]? = some f →
    (slots ta.bio.userDb)[j]? = some g → f.valid = fpcDbEntryValid → g.valid = fpcDbEntryValid →
      f.tplRef.tpl = g.tplRef.tpl → i = j
  indices : ∀ key ∈ setKeyOf ta.bio.userDb, ∃ indices,
    IndexesFingers ta.bio.userDb key indices ∧ ListsTemplates ta.bio.userDb indices
  identified : ∀ env r, fpcTaBioIdentify P env ta = .ok r → r.Found →
    ReturnsId ta.bio r.id ∧ ReturnsId r.bio r.id

/-! ## Indices and templates -/

/-- The indices of the valid slots. -/
def validIndices (fs : List Fingerprint) : List Nat :=
  (List.range fs.length).filter fun i => (fs[i]?.map Fingerprint.valid) == some fpcDbEntryValid

theorem mem_validIndices {fs : List Fingerprint} {k : Nat} :
    k ∈ validIndices fs ↔ ∃ f, fs[k]? = some f ∧ f.valid = fpcDbEntryValid := by
  rw [validIndices, List.mem_filter, List.mem_range, beq_iff_eq, Option.map_eq_some_iff]
  constructor
  · intro ⟨_, hvalid⟩
    exact hvalid
  · intro ⟨f, hslot, hvalid⟩
    exact ⟨(List.getElem?_eq_some_iff.mp hslot).1, f, hslot, hvalid⟩

theorem pairwise_validIndices (fs : List Fingerprint) : (validIndices fs).Pairwise (· < ·) :=
  List.pairwise_lt_range.filter _

/-- The slots at the indices are the fingers, one behind the other. Induction on the slots. -/
theorem map_validIndices (fs : List Fingerprint) :
    (validIndices fs).map (fun i => fs[i]?) = (fingersOf fs).map some := by
  induction fs with
  | nil => rfl
  | cons f rest ih =>
    unfold validIndices fingersOf at ih ⊢
    rw [List.length_cons, List.range_succ_eq_map, List.filter_cons, List.filter_map, List.filter_cons]
    by_cases hvalid : f.valid = fpcDbEntryValid
    · simp [hvalid, Function.comp_def, ← ih]
    · simp [hvalid, Function.comp_def, ← ih]

theorem length_validIndices (fs : List Fingerprint) :
    (validIndices fs).length = (fingersOf fs).length := by
  have h := congrArg List.length (map_validIndices fs)
  rwa [List.length_map, List.length_map] at h

/-- The finger at a position stands in the slot of the index there. -/
theorem getElem?_fingersOf {fs : List Fingerprint} {k slot : Nat}
    (h : (validIndices fs)[k]? = some slot) : (fingersOf fs)[k]? = fs[slot]? := by
  have hmap := congrArg (fun l => l[k]?) (map_validIndices fs)
  rw [List.getElem?_map, h, List.getElem?_map, Option.map_some] at hmap
  cases hfinger : (fingersOf fs)[k]? with
  | none =>
    rw [hfinger] at hmap
    cases hmap
  | some f =>
    rw [hfinger, Option.map_some, Option.some.injEq] at hmap
    exact hmap.symm

section

variable {db : FingerprintDatabase} {set : FingerprintSet}

/-- The lookup by the key of the stored set finds that set. -/
theorem fpcDbGetSet_of_set (h : db.pFingerprintSet = some set) :
    fpcDbGetSet (some db) set.fingerprintSetKey = .ok set := by
  unfold fpcDbGetSet
  simp only [h]
  exact if_neg (not_not.mpr rfl)

/-- Other slots do not change the key. -/
theorem fpcDbGetSet_withSlots (db : FingerprintDatabase) (set : FingerprintSet)
    (fingers : Vector Fingerprint fpcDbFingerprintsInSet) :
    fpcDbGetSet (some { db with pFingerprintSet := some (set.withSlots fingers) })
      set.fingerprintSetKey = .ok (set.withSlots fingers) :=
  if_neg (not_not.mpr rfl)

theorem indexesFingers_validIndices (h : db.pFingerprintSet = some set) :
    IndexesFingers (some db) set.fingerprintSetKey (validIndices (slots (some db))) where
  returned := by
    unfold fpcDbGetIndices validIndices
    rw [fpcDbGetSet_of_set h, slots_of_set h, Vector.length_toList]
  increasing := pairwise_validIndices _
  valid k := mem_validIndices
  counted := by
    unfold fpcDbGetFingerprintCount
    rw [fpcDbGetSet_of_set h, length_validIndices, slots_of_set h]
    show Except.ok (List.countP _ _) = _
    rw [List.countP_eq_length_filter]
    rfl

/-- The search ends at a slot that passes the test, where no other one does. -/
theorem firstIndex_unique {p : Fingerprint → Bool} {slot : Nat} {f : Fingerprint}
    (hslot : (slots (some db))[slot]? = some f) (hvalid : f.valid = fpcDbEntryValid)
    (hp : p f = true)
    (hunique : ∀ (j : Nat) (g : Fingerprint), (slots (some db))[j]? = some g →
      g.valid = fpcDbEntryValid → p g = true → j = slot) :
    firstIndex (some db) p = .ok slot := by
  have hfound : (slots (some db)).findIdx? (fun g => g.valid == fpcDbEntryValid && p g)
      = some slot := by
    obtain ⟨hlt, hget⟩ := List.getElem?_eq_some_iff.mp hslot
    rw [List.findIdx?_eq_some_iff_getElem]
    refine ⟨hlt, ?_, ?_⟩
    · rw [hget, hvalid, hp]
      rfl
    · intro j hj hpos
      rw [Bool.and_eq_true, beq_iff_eq] at hpos
      have heq := hunique j _ (List.getElem?_eq_getElem (by omega)) hpos.1 hpos.2
      omega
  unfold firstIndex
  simp only [hfound]

/-- No two slots have the same block. -/
theorem slot_of_tplRef {fs : List Fingerprint} (howned : SlotsOwned fs)
    (hdistinct : (templateBlocks fs).Nodup) {i j : Nat} {f g : Fingerprint}
    (hf : fs[i]? = some f) (hg : fs[j]? = some g) (hvalid : f.valid = fpcDbEntryValid)
    (hvalid' : g.valid = fpcDbEntryValid) (hsame : f.tplRef.tpl = g.tplRef.tpl) : i = j := by
  obtain ⟨a, hblock, hblocks⟩ := (howned f (List.mem_of_getElem? hf)).block hvalid
  obtain ⟨b, hblock', hblocks'⟩ := (howned g (List.mem_of_getElem? hg)).block hvalid'
  rw [hblock, hblock', Option.some.injEq] at hsame
  apply slot_of_block hdistinct hf hg (a := a)
  · rw [hblocks, List.mem_singleton]
  · rw [hblocks', List.mem_singleton, hsame]

/-- The search by a block ends at the slot that owns it. -/
theorem fpcDbGetIndexOfTemplate_owned (howned : SlotsOwned (slots (some db)))
    (hdistinct : (templateBlocks (slots (some db))).Nodup) {slot : Nat} {f : Fingerprint}
    (hslot : (slots (some db))[slot]? = some f) (hvalid : f.valid = fpcDbEntryValid) :
    fpcDbGetIndexOfTemplate (some db) f.tplRef = .ok slot := by
  apply firstIndex_unique hslot hvalid
  · exact beq_self_eq_true f.tplRef.tpl
  · intro j g hg hvalid' hsame
    exact slot_of_tplRef howned hdistinct hg hslot hvalid' hvalid (beq_iff_eq.mp hsame)

theorem listsTemplates_validIndices (h : db.pFingerprintSet = some set)
    (howned : SlotsOwned (slots (some db)))
    (hdistinct : (templateBlocks (slots (some db))).Nodup) :
    ListsTemplates (some db) (validIndices (slots (some db))) := by
  intro list
  have hlength := length_slots h
  have hroom : 0 + (slots (some db)).length ≤ fpcDbFingerprintsInSet := by
    rw [hlength, Nat.zero_add]
  obtain ⟨hlist, hcount⟩ := copyTemplates_eq list 0 hroom le_rfl
  refine ⟨(copyTemplates fpcDbFingerprintsInSet (slots (some db)) list 0).1, ?_, ?_⟩
  · unfold fpcDbGetAllTemplates
    rw [length_validIndices, ← Nat.zero_add (fingersOf _).length, ← hcount]
  · intro k slot hslot
    have hfinger := getElem?_fingersOf hslot
    obtain ⟨f, hf, hvalid⟩ := mem_validIndices.mp (List.mem_of_getElem? hslot)
    refine ⟨f, hf, ?_, fpcDbGetIndexOfTemplate_owned howned hdistinct hf hvalid⟩
    rw [hf] at hfinger
    have hlt : k < ((fingersOf (slots (some db))).map Fingerprint.tplRef).length := by
      rw [List.length_map]
      exact (List.getElem?_eq_some_iff.mp hfinger).1
    rw [hlist, List.take_zero, List.nil_append, List.getElem?_append_left hlt, List.getElem?_map,
      hfinger, Option.map_some]

end

/-! ## Ids -/

section

variable {P : Platform} {env : Env} {ta : Ta} {bio : Bio} {r : Identified}

/-- Where there is an active set, `GET_FINGER_IDS` succeeds. -/
theorem fpcTaBioGetTemplateIds_zero {set : FingerprintSet} {msg msg' : List UInt8} {status : Int}
    {size : Option UInt32} (hset : fpcDbGetSet bio.userDb bio.activeSetKey = .ok set)
    (h : fpcTaBioGetTemplateIds bio 5 msg = .ok (status, msg', size)) : status = 0 := by
  unfold fpcTaBioGetTemplateIds at h
  split at h
  · next code hindices =>
    unfold fpcDbGetIndices at hindices
    rw [hset] at hindices
    cases hindices
  · next indices hindices =>
    obtain ⟨hlength, _, hgives⟩ := fpcDbGetIndices_ids hindices
    rw [if_neg (by unfold fpcDbFingerprintsInSet at hlength; exact not_lt.mpr hlength)] at h
    obtain ⟨⟨stored, written⟩, hstore, h⟩ := bind_eq_ok.mp h
    obtain ⟨rfl, _⟩ := storeIds_written hgives hstore
    cases h
    rfl

/-- The id of a finger of the active set is returned. -/
theorem returnsId_of_active {set : FingerprintSet} {id : UInt32}
    (hset : fpcDbGetSet bio.userDb bio.activeSetKey = .ok set)
    (hid : id ∈ enrolledIds bio.userDb) : ReturnsId bio id := by
  intro msg hmsg
  obtain ⟨⟨status, msg', size⟩, h⟩ : ∃ r, fpcTaBioGetTemplateIds bio 5 msg = .ok r :=
    fpcTaBioGetTemplateIds_returns hmsg 5
  have hstatus := fpcTaBioGetTemplateIds_zero hset h
  obtain ⟨rfl, hlength, hreply⟩ := (fpcTaBioGetTemplateIds_ids h).2 hstatus
  rw [hstatus] at h
  refine ⟨msg', _, h, ?_⟩
  have hlt : (activeIds bio).length < 2 ^ 32 := by
    unfold fpcDbFingerprintsInSet at hlength
    omega
  rw [UInt32.toNat_ofNat_of_lt' hlt, hreply, activeIds_eq hset]
  exact hid

theorem getFinger_set {pDb : Option FingerprintDatabase} {key : UInt32} {index : Nat}
    {f : Fingerprint} (h : getFinger pDb key index = .ok f) :
    ∃ set, fpcDbGetSet pDb key = .ok set := by
  unfold getFinger at h
  split at h
  · cases hset : fpcDbGetSet pDb key with
    | error code =>
      rw [hset] at h
      cases h
    | ok set => exact ⟨set, rfl⟩
  · cases h

/-- The match that an identification reports is recorded under the active key. -/
theorem fpcTaBioIdentify_active (h : fpcTaBioIdentify P env ta = .ok r) (hfound : r.Found) :
    ∃ set, fpcDbGetSet ta.bio.userDb ta.bio.activeSetKey = .ok set := by
  cases fpcTaBioIdentify_cases h with
  | failed _ _ _ hstatus _ _ => exact absurd hfound.1 hstatus
  | missed hresult => exact absurd (Option.some.inj hfound.2) hresult
  | matched _ _ _ hrecorded =>
    cases hrecorded with
    | failed _ hstatus _ => exact absurd hfound.1 hstatus.ne_zero
    | found _ _ hfinger _ => exact getFinger_set hfinger

/-- Reordering leaves the set under its key. -/
theorem fpcDbGetSet_fronted {pDb : Option FingerprintDatabase} {i : Nat} {db : FingerprintDatabase}
    {key : UInt32} {set : FingerprintSet} (hset : fpcDbGetSet pDb key = .ok set)
    (h : fpcDbSetTemplateFirst pDb i = .ok db) : ∃ set', fpcDbGetSet (some db) key = .ok set' := by
  obtain ⟨db', rfl, hdb, rfl⟩ := fpcDbGetSet_ok hset
  unfold fpcDbSetTemplateFirst at h
  simp only [hdb] at h
  split at h
  · cases h
    exact ⟨_, fpcDbGetSet_withSlots db' set _⟩
  · cases h

/-- The id of a match is returned by `GET_FINGER_IDS`, before the match and after it. -/
theorem fpcTaBioIdentify_returned (h : fpcTaBioIdentify P env ta = .ok r) (hfound : r.Found) :
    ReturnsId ta.bio r.id ∧ ReturnsId r.bio r.id := by
  obtain ⟨s, f, hfinger⟩ := fpcTaBioIdentify_found h hfound
  obtain ⟨set, hset⟩ := fpcTaBioIdentify_active h hfound
  obtain ⟨db, hfront, hdb⟩ := hfinger.reordered
  have hid : r.id ∈ enrolledIds ta.bio.userDb := by
    rw [mem_enrolledIds, hfinger.id]
    exact ⟨f, ⟨List.mem_of_getElem? hfinger.finger, hfinger.valid⟩, rfl⟩
  refine ⟨returnsId_of_active hset hid, ?_⟩
  obtain ⟨set', hset'⟩ := fpcDbGetSet_fronted hset hfront
  rw [← hdb, ← (fpcTaBioIdentify_keepsIds h).2] at hset'
  apply returnsId_of_active hset'
  rw [hdb]
  exact (idsOf_perm (perm_fpcDbSetTemplateFirst hfront)).mem_iff.mpr hid

end

/-! ## Runs -/

section

variable {P : Platform} {ta : Ta} {history : List Event}

/-- The views agree where the templates are owned, and no block is owned twice. -/
theorem viewsAgree_of_owned (howned : SlotsOwned (slots ta.bio.userDb))
    (hdistinct : (templateBlocks (slots ta.bio.userDb)).Nodup) : ViewsAgree P ta where
  owned := howned
  distinct _ _ _ _ hf hg hvalid hvalid' hsame :=
    slot_of_tplRef howned hdistinct hf hg hvalid hvalid' hsame
  indices := by
    intro key hkey
    obtain ⟨set, hset, rfl⟩ := Option.map_eq_some_iff.mp hkey
    obtain ⟨db, hdb, hset⟩ := Option.bind_eq_some_iff.mp hset
    rw [hdb] at howned hdistinct ⊢
    exact ⟨validIndices (slots (some db)), indexesFingers_validIndices hset,
      listsTemplates_validIndices hset howned hdistinct⟩
  identified _ _ h hfound := fpcTaBioIdentify_returned h hfound

/-- **The views of a database agree** in every state of a run in which the memory that the heap
gave out was not in use. -/
theorem run_viewsAgree (hrun : (taSystem P).Run history ta)
    (hfresh : ∀ e ∈ history, e.FreshBlocks) : ViewsAgree P ta :=
  viewsAgree_of_owned (run_owned hrun) (run_distinct hrun hfresh)

end

/-- Two fingers are enrolled, under ids that are drawn and each into a block of its own. -/
def sampleTwoFingers (id id' : Id256) : List (Env × List UInt8) :=
  let (env, msg) := sampleEndEnrol id'
  sampleTouches ++ [sampleEndEnrol id] ++ sampleTouches ++
    [({ env with algo := { env.algo with enrolMalloc := some 0x71000 } }, msg)]

/-- One of them is identified, and its template is updated. -/
theorem sampleTwoFingers_viewsAgree :
    ∃ history ta, (taSystem samplePlatform).Run history ta ∧
      templateBlocks (slots ta.bio.userDb) = [0x80000, 0x71000] ∧
      ViewsAgree samplePlatform ta := by
  obtain ⟨history, ta, hrun, _, hblocks, hfresh⟩ :=
    execute_decided samplePlatform
      (sampleTwoFingers (Id256.filled 0x5A) (Id256.filled 0x6B) ++
        [(.willing, identifyMessage), (.updatesFirst, updateTemplateMessage)])
      (fun history ta => templateBlocks (slots ta.bio.userDb) = [0x80000, 0x71000] ∧
        ∀ e ∈ history, e.FreshBlocks) (by decide +kernel)
  exact ⟨history, ta, hrun, hblocks, run_viewsAgree hrun hfresh⟩

end Fpc
