import Fingerprints.Db.Unpack
import Mathlib.Data.List.GetD

/-!
# Operations on a database

The functions of `fpc_db.c` that the rest of the trusted application calls: looking fingers up by
index, by truncated id and by template block, enrolling, deleting and reordering them. A database
pointer is an option, and a function that does not look at it before it follows it faults on the
null pointer.
-/

namespace Fpc

open Wire Wire.Outcome

/-- `fpc_algo_template_t`, the pointer and the size as they are copied around. -/
structure TplRef where
  tpl : Option Addr
  size : UInt32
  deriving DecidableEq, Repr

/-- The template of a slot as a copy of its two fields. -/
def Fingerprint.tplRef (f : Fingerprint) : TplRef :=
  { tpl := f.ftemplate.map Template.tpl, size := UInt32.ofNat f.templateBytes.length }

/-- The slots of the set a database pointer leads to. -/
def slots (pDb : Option FingerprintDatabase) : List Fingerprint :=
  match pDb.bind (·.pFingerprintSet) with
  | some set => set.aFingerprintList.toList
  | none => []

/-- A finger stands in a slot of the database and is valid. -/
def Enrolled (pDb : Option FingerprintDatabase) (f : Fingerprint) : Prop :=
  f ∈ slots pDb ∧ f.valid = fpcDbEntryValid

instance (pDb : Option FingerprintDatabase) (f : Fingerprint) : Decidable (Enrolled pDb f) :=
  inferInstanceAs (Decidable (_ ∧ _))

/-- A slot is valid afterwards, with the given finger, that was not valid before. -/
def Adds (pDb pDb' : Option FingerprintDatabase) (f : Fingerprint) : Prop :=
  ∃ i : Nat, (slots pDb')[i]? = some f ∧ f.valid = fpcDbEntryValid ∧
    ∀ g, (slots pDb)[i]? = some g → g.valid ≠ fpcDbEntryValid

/-! ## Looking up -/

/-- `fpc_db_get_set` -/
def fpcDbGetSet (pDb : Option FingerprintDatabase) (fingerprintSetKey : UInt32) :
    Except Int FingerprintSet :=
  match pDb with
  | none => .error (-fpcErrorInput)
  | some db =>
      match db.pFingerprintSet with
      | none => .error (-fpcErrorNoentity)
      | some set =>
          if set.fingerprintSetKey ≠ fingerprintSetKey then .error (-fpcErrorNoentity)
          else .ok set

/-- The valid slot at an index of the set with the given key, as `fpc_db_get_fingerprint_id`,
`fpc_db_get_secure_user_id` and `fpc_db_get_template` look it up. -/
def getFinger (pDb : Option FingerprintDatabase) (fingerprintSetKey : UInt32) (index : Nat) :
    Except Int Fingerprint :=
  if h : index < fpcDbFingerprintsInSet then do
    let set ← fpcDbGetSet pDb fingerprintSetKey
    let finger := set.aFingerprintList[index]
    if finger.valid = fpcDbEntryInvalid then .error (-fpcErrorNoentity) else .ok finger
  else .error (-fpcErrorInput)

/-- `fpc_db_get_fingerprint_id` -/
def fpcDbGetFingerprintId (pDb : Option FingerprintDatabase) (fingerprintSetKey : UInt32)
    (fingerprintIndex : Nat) : Except Int Id256 :=
  (getFinger pDb fingerprintSetKey fingerprintIndex).map Fingerprint.fingerprintId

/-- `fpc_db_get_secure_user_id` -/
def fpcDbGetSecureUserId (pDb : Option FingerprintDatabase) (fingerprintSetKey : UInt32)
    (fingerprintIndex : Nat) : Except Int UInt64 :=
  (getFinger pDb fingerprintSetKey fingerprintIndex).map Fingerprint.secureUserId

/-- `fpc_db_get_template`: the slot whose template the returned pointer leads into. -/
def fpcDbGetTemplate (pDb : Option FingerprintDatabase) (fingerprintSetKey : UInt32)
    (index : Nat) : Except Int Fingerprint :=
  getFinger pDb fingerprintSetKey index

/-- `fpc_db_trim_id_32` -/
def fpcDbTrimId32 (id : Id256) : UInt32 := ofBe32 (id.toList.take 4)

/-- `fpc_db_get_database_id` -/
def fpcDbGetDatabaseId (pDb : Option FingerprintDatabase) : Except Int UInt64 :=
  match pDb with
  | none => .error (-fpcErrorInput)
  | some db => .ok db.databaseId

/-- The index of the first valid slot that passes a test, for a database pointer that is followed
unchecked. -/
def firstIndex (pDb : Option FingerprintDatabase) (p : Fingerprint → Bool) : Outcome Nat :=
  match pDb with
  | none => .fault .null
  | some _ =>
      match (slots pDb).findIdx? fun f => f.valid == fpcDbEntryValid && p f with
      | some i => .ok i
      | none => .err (-fpcErrorNoentity)

/-- `fpc_db_get_index_of_id32` -/
def fpcDbGetIndexOfId32 (pDb : Option FingerprintDatabase) (fingerprintId32 : UInt32) :
    Outcome Nat :=
  firstIndex pDb fun f => fpcDbTrimId32 f.fingerprintId == fingerprintId32

/-- `fpc_db_get_index_of_template` -/
def fpcDbGetIndexOfTemplate (pDb : Option FingerprintDatabase) (tpl : TplRef) : Outcome Nat :=
  firstIndex pDb fun f => f.tplRef.tpl == tpl.tpl

/-- `fpc_db_get_indices`, for the whole set. -/
def fpcDbGetIndices (pDb : Option FingerprintDatabase) (fingerprintSetKey : UInt32) :
    Except Int (List Nat) :=
  match fpcDbGetSet pDb fingerprintSetKey with
  | .ok set => .ok ((List.range fpcDbFingerprintsInSet).filter fun i =>
      (set.aFingerprintList.toList[i]?.map Fingerprint.valid) == some fpcDbEntryValid)
  | .error code => if code = -fpcErrorNoentity then .ok [] else .error code

/-- The loop of `fpc_db_get_all_templates` over the remaining slots: the list and the number of
entries filled. -/
def copyTemplates (sizeList : Nat) : List Fingerprint → Vector TplRef fpcDbFingerprintsInSet →
    Nat → Vector TplRef fpcDbFingerprintsInSet × Nat
  | [], list, validCount => (list, validCount)
  | f :: rest, list, validCount =>
      if validCount ≥ sizeList then (list, validCount)
      else if f.valid = fpcDbEntryValid then
        copyTemplates sizeList rest (list.setIfInBounds validCount f.tplRef) (validCount + 1)
      else copyTemplates sizeList rest list validCount

/-- `fpc_db_get_all_templates`, into a list of `sizeList` entries. -/
def fpcDbGetAllTemplates (pDb : Option FingerprintDatabase)
    (list : Vector TplRef fpcDbFingerprintsInSet) (sizeList : Nat) :
    Outcome (Vector TplRef fpcDbFingerprintsInSet × Nat) :=
  match pDb with
  | none => .fault .null
  | some _ => .ok (copyTemplates sizeList (slots pDb) list 0)

/-! ## Changing -/

/-- The set of a database, with its slots replaced. -/
def FingerprintSet.withSlots (set : FingerprintSet)
    (fingers : Vector Fingerprint fpcDbFingerprintsInSet) : FingerprintSet :=
  { set with aFingerprintList := fingers }

/-- The set that `fpc_db_add_fingerprint` works on: the one with the key, or a new one. -/
def setForKey (env : DbEnv) (db : FingerprintDatabase) (fingerprintSetKey : UInt32) :
    Except Int FingerprintSet :=
  match db.pFingerprintSet with
  | some set =>
      if set.fingerprintSetKey ≠ fingerprintSetKey then .error (-fpcErrorInput) else .ok set
  | none =>
      match env.malloc .fingerprintSet with
      | none => .error (-fpcErrorAlloc)
      | some addr =>
          let (status, setId) := env.random256 .setId
          if status ≠ 0 then .error (-fpcErrorIo)
          else .ok { FingerprintSet.zeroed addr with
            fingerprintSetKey := fingerprintSetKey, fingerprintSetId := setId }

/-- What `fpc_db_add_fingerprint` leaves: its status, the database, the index it set. -/
structure AddedFingerprint where
  status : Int
  pDb : Option FingerprintDatabase
  index : Nat
  deriving DecidableEq, Repr

/-- The finger that `fpc_db_add_fingerprint` puts into a slot. -/
def Fingerprint.enrolledWith (fingerprintId : Id256) (secureUserId : UInt64)
    (pTemplate : Template) : Fingerprint :=
  { valid := fpcDbEntryValid, fingerprintId := fingerprintId, secureUserId := secureUserId,
    ftemplate := some pTemplate }

/-- `fpc_db_add_fingerprint` -/
def fpcDbAddFingerprint (env : DbEnv) (pDb : Option FingerprintDatabase)
    (fingerprintSetKey : UInt32) (secureUserId : UInt64) (pTemplate : Template) :
    AddedFingerprint :=
  match pDb with
  | none => { status := -fpcErrorInput, pDb := none, index := 0 }
  | some db =>
      match setForKey env db fingerprintSetKey with
      | .error code => { status := code, pDb := some db, index := 0 }
      | .ok set =>
          match set.aFingerprintList.toList.findIdx? (·.valid == fpcDbEntryInvalid) with
          | none =>
              { status := -fpcErrorNospace, pDb := some { db with pFingerprintSet := some set },
                index := 0 }
          | some i =>
              let (status, fingerprintId) := env.random256 .fingerprintId
              if status ≠ 0 then
                -- the slot stays invalid with whatever the draw left in its id
                let old := set.aFingerprintList.toList.getD i Fingerprint.zeroed
                let fingers := set.aFingerprintList.setIfInBounds i
                  { old with fingerprintId := fingerprintId }
                { status := -fpcErrorIo,
                  pDb := some { db with pFingerprintSet := some (set.withSlots fingers) },
                  index := 0 }
              else
                let fingers := set.aFingerprintList.setIfInBounds i
                  (Fingerprint.enrolledWith fingerprintId secureUserId pTemplate)
                let db := { db with pFingerprintSet := some (set.withSlots fingers) }
                -- a failing draw of either id goes unnoticed
                let db := (dbUpdateDatabaseId env db).2
                let db := (dbUpdateFingerprintStateId env db).2
                { status := 0, pDb := some db, index := i }

/-- A slot that was deleted. -/
def Fingerprint.wiped (f : Fingerprint) : Fingerprint :=
  { valid := fpcDbEntryInvalid, fingerprintId := Id256.filled 0xCC,
    secureUserId := f.secureUserId, ftemplate := none }

/-- `fpc_db_delete_set` -/
def fpcDbDeleteSet (pDb : Option FingerprintDatabase) (fingerprintSetKey : UInt32) :
    Int × Option FingerprintDatabase :=
  match fpcDbGetSet pDb fingerprintSetKey with
  | .ok _ => (0, pDb.map fun db => { db with pFingerprintSet := none })
  | .error code => (code, pDb)

/-- `db_count_fingers_in_set` -/
def dbCountFingersInSet (set : FingerprintSet) : Nat :=
  set.aFingerprintList.toList.countP (·.valid == fpcDbEntryValid)

/-- `fpc_db_delete_fingerprint` -/
def fpcDbDeleteFingerprint (pDb : Option FingerprintDatabase) (fingerprintSetKey : UInt32)
    (index : Nat) : Int × Option FingerprintDatabase :=
  if h : index < fpcDbFingerprintsInSet then
    match fpcDbGetSet pDb fingerprintSetKey with
    | .ok set =>
        let set := set.withSlots (set.aFingerprintList.set index set.aFingerprintList[index].wiped)
        let pDb := pDb.map fun db => { db with pFingerprintSet := some set }
        if dbCountFingersInSet set = 0 then fpcDbDeleteSet pDb fingerprintSetKey else (0, pDb)
    | .error code => (code, pDb)
  else (-fpcErrorInput, pDb)

/-- The loop of `fpc_db_set_template_first`: every slot up to `i` takes the one before it. -/
def shiftSlots : Nat → Vector Fingerprint fpcDbFingerprintsInSet →
    Vector Fingerprint fpcDbFingerprintsInSet
  | 0, fingers => fingers
  | i + 1, fingers =>
      shiftSlots i (fingers.setIfInBounds (i + 1) (fingers.toList.getD i Fingerprint.zeroed))

/-- `fpc_db_set_template_first`. The index is that of a slot. -/
def fpcDbSetTemplateFirst (pDb : Option FingerprintDatabase) (i : Nat) :
    Outcome FingerprintDatabase :=
  match pDb with
  | none => .fault .null
  | some db =>
      match db.pFingerprintSet with
      | none => .fault .null
      | some set =>
          if h : i < fpcDbFingerprintsInSet then
            let tempTemplate := set.aFingerprintList[i]
            let fingers := (shiftSlots i set.aFingerprintList).setIfInBounds 0 tempTemplate
            .ok { db with pFingerprintSet := some (set.withSlots fingers) }
          else .fault (.load i)

/-! ## Which fingers there are afterwards -/

@[simp] theorem slots_none : slots none = [] := rfl

@[simp] theorem slots_withSet (db : FingerprintDatabase) (set : FingerprintSet) :
    slots (some { db with pFingerprintSet := some set }) = set.aFingerprintList.toList := rfl

@[simp] theorem slots_withoutSet (db : FingerprintDatabase) :
    slots (some { db with pFingerprintSet := none }) = [] := rfl

theorem slots_of_set {db : FingerprintDatabase} {set : FingerprintSet}
    (h : db.pFingerprintSet = some set) : slots (some db) = set.aFingerprintList.toList := by
  simp [slots, h]

/-- The lookup by key ends at the set there is. -/
theorem fpcDbGetSet_ok {pDb : Option FingerprintDatabase} {key : UInt32} {set : FingerprintSet}
    (h : fpcDbGetSet pDb key = .ok set) :
    ∃ db, pDb = some db ∧ db.pFingerprintSet = some set ∧ set.fingerprintSetKey = key := by
  cases pDb with
  | none => cases h
  | some db =>
    unfold fpcDbGetSet at h
    cases hset : db.pFingerprintSet with
    | none => simp [hset] at h
    | some set' =>
      simp only [hset] at h
      split at h
      · cases h
      · next hkey =>
        cases h
        exact ⟨db, rfl, hset, not_not.mp hkey⟩

/-- The slot found by an index is the one at that index of the set with the key. -/
theorem getFinger_ok {pDb : Option FingerprintDatabase} {key : UInt32} {index : Nat}
    {f : Fingerprint} (h : getFinger pDb key index = .ok f) :
    (slots pDb)[index]? = some f ∧ f.valid ≠ fpcDbEntryInvalid := by
  unfold getFinger at h
  split at h
  · next hlt =>
    cases hset : fpcDbGetSet pDb key with
    | error code => rw [hset] at h; cases h
    | ok set =>
      rw [hset] at h
      obtain ⟨db, rfl, hdb, _⟩ := fpcDbGetSet_ok hset
      have hvalid : (if set.aFingerprintList[index].valid = fpcDbEntryInvalid
          then Except.error (-fpcErrorNoentity) else .ok set.aFingerprintList[index]) = .ok f := h
      split at hvalid
      · cases hvalid
      · next hne =>
        cases hvalid
        refine ⟨?_, hne⟩
        rw [slots_of_set hdb]
        simp
  · cases h

/-- The search ends at the first valid slot that passes the test. -/
theorem firstIndex_ok {pDb : Option FingerprintDatabase} {p : Fingerprint → Bool} {i : Nat}
    (h : firstIndex pDb p = .ok i) :
    ∃ f, (slots pDb)[i]? = some f ∧ f.valid = fpcDbEntryValid ∧ p f = true := by
  cases pDb with
  | none => cases h
  | some db =>
    unfold firstIndex at h
    simp only at h
    split at h
    · next j hj =>
      cases h
      obtain ⟨hlt, hpos, _⟩ := List.findIdx?_eq_some_iff_getElem.mp hj
      rw [Bool.and_eq_true, beq_iff_eq] at hpos
      exact ⟨_, List.getElem?_eq_getElem hlt, hpos.1, hpos.2⟩
    · cases h

@[simp] theorem slots_dbUpdateDatabaseId (env : DbEnv) (db : FingerprintDatabase) :
    slots (some (dbUpdateDatabaseId env db).2) = slots (some db) := by
  unfold dbUpdateDatabaseId
  dsimp only
  split <;> rfl

@[simp] theorem slots_dbUpdateFingerprintStateId (env : DbEnv) (db : FingerprintDatabase) :
    slots (some (dbUpdateFingerprintStateId env db).2) = slots (some db) := by
  unfold dbUpdateFingerprintStateId
  split
  · rfl
  · next set hset =>
    dsimp only
    rw [slots_of_set hset]
    split <;> rfl

/-- The set a finger is added to has the database's slots, or slots that are all free. -/
theorem setForKey_ok {env : DbEnv} {db : FingerprintDatabase} {key : UInt32}
    {set : FingerprintSet} (h : setForKey env db key = .ok set) :
    set.aFingerprintList.toList = slots (some db) ∨
      ∀ f ∈ set.aFingerprintList.toList, f.valid = fpcDbEntryInvalid := by
  unfold setForKey at h
  cases hset : db.pFingerprintSet with
  | some set' =>
    simp only [hset] at h
    split at h
    · cases h
    · cases h
      exact Or.inl (slots_of_set hset).symm
  | none =>
    simp only [hset] at h
    right
    split at h
    · cases h
    · split at h
      · cases h
      · cases h
        intro f hf
        rw [FingerprintSet.zeroed, Vector.toList_replicate] at hf
        rw [List.eq_of_mem_replicate hf]
        rfl

theorem setForKey_error {env : DbEnv} {db : FingerprintDatabase} {key : UInt32} {code : Int}
    (h : setForKey env db key = .error code) : code ≠ 0 := by
  unfold setForKey at h
  split at h
  · split at h
    · cases h
      decide
    · cases h
  · split at h
    · cases h
      decide
    · dsimp only at h
      split at h
      · cases h
        decide
      · cases h

/-- A valid slot after `fpc_db_add_fingerprint` was there before, or it is the slot the call
reports, with the new finger. -/
theorem getElem?_fpcDbAddFingerprint {env : DbEnv} {pDb : Option FingerprintDatabase}
    {key : UInt32} {user : UInt64} {tpl : Template} {j : Nat} {f : Fingerprint}
    (hf : (slots (fpcDbAddFingerprint env pDb key user tpl).pDb)[j]? = some f)
    (hvalid : f.valid = fpcDbEntryValid) :
    (slots pDb)[j]? = some f ∨
      ((fpcDbAddFingerprint env pDb key user tpl).status = 0 ∧
        f = Fingerprint.enrolledWith (env.random256 .fingerprintId).2 user tpl) := by
  cases pDb with
  | none => exact Or.inl hf
  | some db =>
    unfold fpcDbAddFingerprint at hf ⊢
    cases hset : setForKey env db key with
    | error code =>
      simp only [hset] at hf
      exact Or.inl hf
    | ok set =>
      -- a valid slot of the set is a slot of the database: the slots of a new set are all free
      have hold (hmem : set.aFingerprintList.toList[j]? = some f) :
          (slots (some db))[j]? = some f := by
        cases setForKey_ok hset with
        | inl h => rwa [← h]
        | inr h =>
          have hfree := h f (List.mem_of_getElem? hmem)
          rw [hvalid] at hfree
          cases hfree
      simp only [hset] at hf ⊢
      split at hf
      · exact Or.inl (hold hf)
      · next i hi =>
        split at hf
        · next hstatus =>
          -- the id was drawn into a slot that stays invalid
          rw [slots_withSet, FingerprintSet.withSlots, Vector.toList_setIfInBounds,
            List.getElem?_set] at hf
          split at hf
          · next hij =>
            obtain ⟨hlt, hfree, _⟩ := List.findIdx?_eq_some_iff_getElem.mp hi
            rw [if_pos hlt] at hf
            cases hf
            rw [List.getD_eq_getElem _ _ hlt, beq_iff_eq.mp hfree] at hvalid
            cases hvalid
          · exact Or.inl (hold hf)
        · next hstatus =>
          rw [slots_dbUpdateFingerprintStateId, slots_dbUpdateDatabaseId, slots_withSet,
            FingerprintSet.withSlots, Vector.toList_setIfInBounds, List.getElem?_set] at hf
          split at hf
          · next hij =>
            split at hf
            · cases hf
              exact Or.inr ⟨by rw [if_neg hstatus], rfl⟩
            · cases hf
          · exact Or.inl (hold hf)

/-- An enrolled finger was enrolled before the call, or is the one it enrolled. -/
theorem enrolled_fpcDbAddFingerprint {env : DbEnv} {pDb : Option FingerprintDatabase}
    {key : UInt32} {user : UInt64} {tpl : Template} {f : Fingerprint}
    (h : Enrolled (fpcDbAddFingerprint env pDb key user tpl).pDb f) :
    Enrolled pDb f ∨
      ((fpcDbAddFingerprint env pDb key user tpl).status = 0 ∧
        f = Fingerprint.enrolledWith (env.random256 .fingerprintId).2 user tpl) := by
  obtain ⟨j, hj⟩ := List.mem_iff_getElem?.mp h.1
  apply (getElem?_fpcDbAddFingerprint hj h.2).imp _ id
  intro hold
  exact ⟨List.mem_of_getElem? hold, h.2⟩

theorem enrolled_fpcDbDeleteSet {pDb : Option FingerprintDatabase} {key : UInt32}
    {f : Fingerprint} (h : Enrolled (fpcDbDeleteSet pDb key).2 f) : Enrolled pDb f := by
  unfold fpcDbDeleteSet at h
  cases hset : fpcDbGetSet pDb key with
  | error code =>
    rw [hset] at h
    exact h
  | ok set =>
    rw [hset] at h
    cases pDb with
    | none => exact h
    | some db => exact absurd h.1 (by simp)

/-- Deleting a finger leaves no finger that was not there. -/
theorem enrolled_fpcDbDeleteFingerprint {pDb : Option FingerprintDatabase} {key : UInt32}
    {index : Nat} {f : Fingerprint} (h : Enrolled (fpcDbDeleteFingerprint pDb key index).2 f) :
    Enrolled pDb f := by
  unfold fpcDbDeleteFingerprint at h
  split at h
  · next hlt =>
    cases hset : fpcDbGetSet pDb key with
    | error code =>
      rw [hset] at h
      exact h
    | ok set =>
      rw [hset] at h
      obtain ⟨db, rfl, hdb, _⟩ := fpcDbGetSet_ok hset
      -- in either case the finger stands in the set with one slot wiped
      have hset' : Enrolled (some { db with pFingerprintSet := some (set.withSlots
          (set.aFingerprintList.set index set.aFingerprintList[index].wiped)) }) f := by
        dsimp only [Option.map_some] at h
        split at h
        · exact enrolled_fpcDbDeleteSet h
        · exact h
      have hmem : f ∈ set.aFingerprintList.toList.set index
          set.aFingerprintList[index].wiped := by
        rw [← Vector.toList_set hlt]
        exact hset'.1
      cases List.mem_or_eq_of_mem_set hmem with
      | inl hold => exact ⟨by rwa [slots_of_set hdb], h.2⟩
      | inr hwiped =>
        have hvalid := h.2
        rw [hwiped] at hvalid
        cases hvalid
  · exact h

/-- Shifting slots brings in no slot that was not there. Induction on the slots to shift. -/
theorem mem_shiftSlots {i : Nat} {fingers : Vector Fingerprint fpcDbFingerprintsInSet}
    {f : Fingerprint} (hi : i < fpcDbFingerprintsInSet) (h : f ∈ (shiftSlots i fingers).toList) :
    f ∈ fingers.toList := by
  induction i generalizing fingers with
  | zero => exact h
  | succ i ih =>
    have hmem := ih (by omega) h
    rw [Vector.toList_setIfInBounds] at hmem
    cases List.mem_or_eq_of_mem_set hmem with
    | inl hold => exact hold
    | inr heq =>
      have hlt : i < fingers.toList.length := by rw [Vector.length_toList]; omega
      rw [heq, List.getD_eq_getElem _ _ hlt]
      exact List.getElem_mem hlt

/-- The slots in front of the one that is taken out move back by one. Induction on its index. -/
theorem shiftSlots_getElem? {i : Nat} {fingers : Vector Fingerprint fpcDbFingerprintsInSet}
    (hi : i < fpcDbFingerprintsInSet) (k : Nat) :
    (shiftSlots i fingers).toList[k]?
      = if 0 < k ∧ k ≤ i then fingers.toList[k - 1]? else fingers.toList[k]? := by
  induction i generalizing fingers with
  | zero =>
    rw [if_neg (by omega)]
    rfl
  | succ i ih =>
    have hlength : fingers.toList.length = fpcDbFingerprintsInSet := Vector.length_toList
    unfold shiftSlots
    rw [ih (by omega), Vector.toList_setIfInBounds]
    by_cases hlast : k = i + 1
    · subst hlast
      rw [if_neg (by omega), if_pos (by omega), List.getElem?_set_self (by omega),
        Nat.add_sub_cancel, List.getD_eq_getElem _ _ (by omega), List.getElem?_eq_getElem (by omega)]
    · by_cases hin : 0 < k ∧ k ≤ i
      · rw [if_pos hin, if_pos (by omega), List.getElem?_set_ne (by omega)]
      · rw [if_neg hin, if_neg (by omega), List.getElem?_set_ne (by omega)]

/-- What a reordering leaves, and what it is done to. -/
theorem fpcDbSetTemplateFirst_ok {pDb : Option FingerprintDatabase} {i : Nat}
    {db' : FingerprintDatabase} (h : fpcDbSetTemplateFirst pDb i = .ok db') :
    ∃ db set, ∃ hlt : i < fpcDbFingerprintsInSet, pDb = some db ∧ db.pFingerprintSet = some set ∧
      db' = { db with pFingerprintSet := some (set.withSlots
        ((shiftSlots i set.aFingerprintList).setIfInBounds 0 set.aFingerprintList[i])) } := by
  cases pDb with
  | none => cases h
  | some db =>
    unfold fpcDbSetTemplateFirst at h
    cases hset : db.pFingerprintSet with
    | none => simp [hset] at h
    | some set =>
      simp only [hset] at h
      split at h
      · next hlt =>
        cases h
        exact ⟨db, set, hlt, rfl, hset, rfl⟩
      · cases h

/-- Reordering brings in no slot. -/
theorem mem_slots_fpcDbSetTemplateFirst {pDb : Option FingerprintDatabase} {i : Nat}
    {db' : FingerprintDatabase} {f : Fingerprint} (h : fpcDbSetTemplateFirst pDb i = .ok db')
    (hf : f ∈ slots (some db')) : f ∈ slots pDb := by
  obtain ⟨db, set, hlt, rfl, hset, rfl⟩ := fpcDbSetTemplateFirst_ok h
  rw [slots_withSet, FingerprintSet.withSlots, Vector.toList_setIfInBounds] at hf
  rw [slots_of_set hset]
  cases List.mem_or_eq_of_mem_set hf with
  | inl hold => exact mem_shiftSlots hlt hold
  | inr heq =>
    rw [heq]
    exact Vector.getElem_mem hlt |> Vector.mem_toList_iff.mpr

/-- Reordering leaves no finger that was not there. -/
theorem enrolled_fpcDbSetTemplateFirst {pDb : Option FingerprintDatabase} {i : Nat}
    {db' : FingerprintDatabase} {f : Fingerprint} (h : fpcDbSetTemplateFirst pDb i = .ok db')
    (hf : Enrolled (some db') f) : Enrolled pDb f :=
  ⟨mem_slots_fpcDbSetTemplateFirst h hf.1, hf.2⟩

end Fpc
