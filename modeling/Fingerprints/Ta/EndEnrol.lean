import Fingerprints.Ta.DatabaseId

/-!
# What the end of an enrolment does to the database

An `END_ENROL` that returns 0 has put one new finger into a slot that was free, and answers the
front of its id (`fpcTaBioEndEnrol_zero`); one that fails leaves the fingers and the id of the
database (`fpcTaBioEndEnrol_ne_zero`). A `DELETE_TEMPLATE` takes out the first finger whose id
begins as it says, and no other (`fpcTaBioDeleteTemplate_found`).
-/

namespace Fpc

open Wire Wire.Outcome

/-! ## Adding a finger -/

section

variable {env : DbEnv} {pDb : Option FingerprintDatabase} {key : UInt32} {user : UInt64}
  {tpl : Template}

/-- What a finger is added to: the slots there are, or those of a new set. -/
structure AddsTo (pDb : Option FingerprintDatabase) (base : List Fingerprint) (index : Nat) :
    Prop where
  slots : base = slots pDb ∨ ∀ f ∈ base, f.valid = fpcDbEntryInvalid
  lt_length : index < base.length
  free : ∀ f, base[index]? = some f → f.valid = fpcDbEntryInvalid

theorem AddsTo.enrolled_set {base : List Fingerprint} {index : Nat}
    {pDb' : Option FingerprintDatabase} {f g : Fingerprint} (h : AddsTo pDb base index)
    (hset : Fpc.slots pDb' = base.set index f)
    (hg : Enrolled pDb' g) : g = f ∨ Enrolled pDb g := by
  obtain ⟨hmem, hvalid⟩ := hg
  rw [hset] at hmem
  rcases List.mem_or_eq_of_mem_set hmem with hold | heq
  · right
    rcases h.slots with hslots | hfree
    · exact ⟨by rwa [← hslots], hvalid⟩
    · rw [hfree g hold] at hvalid
      cases hvalid
  · exact Or.inl heq

theorem setForKey_key {db : FingerprintDatabase} {set : FingerprintSet}
    (h : setForKey env db key = .ok set) : set.fingerprintSetKey = key := by
  unfold setForKey at h
  split at h
  · split at h
    · cases h
    · next hkey =>
      cases h
      exact not_not.mp hkey
  · split at h
    · cases h
    · dsimp only at h
      split at h
      · cases h
      · cases h
        rfl

theorem pFingerprintSet_dbUpdateDatabaseId (env : DbEnv) (db : FingerprintDatabase) :
    (dbUpdateDatabaseId env db).2.pFingerprintSet = db.pFingerprintSet := by
  unfold dbUpdateDatabaseId
  dsimp only
  split <;> rfl

/-- The new state id changes no key. -/
theorem key_dbUpdateFingerprintStateId {db : FingerprintDatabase} {set : FingerprintSet}
    (h : db.pFingerprintSet = some set) :
    ∃ set', (dbUpdateFingerprintStateId env db).2.pFingerprintSet = some set' ∧
      set'.fingerprintSetKey = set.fingerprintSetKey := by
  unfold dbUpdateFingerprintStateId
  rw [h]
  dsimp only
  split
  · exact ⟨_, rfl, rfl⟩
  · exact ⟨_, rfl, rfl⟩

theorem databaseId_dbUpdateFingerprintStateId (env : DbEnv) (db : FingerprintDatabase) :
    (dbUpdateFingerprintStateId env db).2.databaseId = db.databaseId := by
  unfold dbUpdateFingerprintStateId
  split
  · rfl
  · dsimp only
    split <;> rfl

/-- The id that a database has after a new one was drawn. -/
def drawnDatabaseId (env : DbEnv) (old : UInt64) : UInt64 :=
  if (env.random64 .databaseId).1 < 0 then old else (env.random64 .databaseId).2

theorem databaseId_dbUpdateDatabaseId (env : DbEnv) (db : FingerprintDatabase) :
    (dbUpdateDatabaseId env db).2.databaseId = drawnDatabaseId env db.databaseId := by
  unfold dbUpdateDatabaseId drawnDatabaseId
  dsimp only
  split <;> rfl

/-- An addition that succeeds puts the finger into a free slot, under its key, and draws an id. -/
theorem fpcDbAddFingerprint_zero (h : (fpcDbAddFingerprint env pDb key user tpl).status = 0) :
    ∃ base, AddsTo pDb base (fpcDbAddFingerprint env pDb key user tpl).index ∧
      slots (fpcDbAddFingerprint env pDb key user tpl).pDb
        = base.set (fpcDbAddFingerprint env pDb key user tpl).index
            (Fingerprint.enrolledWith (env.random256 .fingerprintId).2 user tpl) ∧
      (∃ set, fpcDbGetSet (fpcDbAddFingerprint env pDb key user tpl).pDb key = .ok set) ∧
      databaseIdOf (fpcDbAddFingerprint env pDb key user tpl).pDb
        = (databaseIdOf pDb).map (drawnDatabaseId env) := by
  cases pDb with
  | none => cases h
  | some db =>
    unfold fpcDbAddFingerprint at h ⊢
    cases hset : setForKey env db key with
    | error code =>
      simp only [hset] at h
      exact absurd h (setForKey_error hset)
    | ok set =>
      simp only [hset] at h ⊢
      split at h
      · cases h
      · next i hi =>
        split at h
        · cases h
        · next hstatus =>
          rw [if_neg hstatus]
          obtain ⟨hlt, hfree, _⟩ := List.findIdx?_eq_some_iff_getElem.mp hi
          refine ⟨set.aFingerprintList.toList, ⟨?_, hlt, ?_⟩, ?_, ?_, ?_⟩
          · exact setForKey_ok hset
          · intro f hf
            rw [List.getElem?_eq_getElem hlt] at hf
            cases hf
            exact beq_iff_eq.mp hfree
          · rw [slots_dbUpdateFingerprintStateId, slots_dbUpdateDatabaseId, slots_withSet,
              FingerprintSet.withSlots, Vector.toList_setIfInBounds]
          · obtain ⟨set', hset', hkey⟩ := @key_dbUpdateFingerprintStateId env _ _
              (pFingerprintSet_dbUpdateDatabaseId env { db with
                pFingerprintSet := some (set.withSlots (set.aFingerprintList.setIfInBounds i
                  (Fingerprint.enrolledWith (env.random256 .fingerprintId).2 user tpl))) })
            refine ⟨set', ?_⟩
            unfold fpcDbGetSet
            dsimp only
            rw [hset']
            dsimp only
            rw [if_neg]
            have hsetKey := setForKey_key hset
            rw [hkey, not_not]
            exact hsetKey
          · rw [databaseIdOf_some, databaseId_dbUpdateFingerprintStateId,
              databaseId_dbUpdateDatabaseId]
            rfl

/-- An addition that fails leaves the id. -/
theorem fpcDbAddFingerprint_ne_zero (h : (fpcDbAddFingerprint env pDb key user tpl).status ≠ 0) :
    databaseIdOf (fpcDbAddFingerprint env pDb key user tpl).pDb = databaseIdOf pDb := by
  cases pDb with
  | none => rfl
  | some db =>
    unfold fpcDbAddFingerprint at h ⊢
    cases hset : setForKey env db key with
    | error code => simp only [hset]
    | ok set =>
      simp only [hset] at h ⊢
      split
      · rfl
      · next hi =>
        split
        · rfl
        · next hstatus =>
          simp only [hi, if_neg hstatus] at h
          exact absurd rfl h

/-- The database has a set under another key. -/
def RejectsKey (pDb : Option FingerprintDatabase) (key : UInt32) : Prop :=
  ∃ k, setKeyOf pDb = some k ∧ k ≠ key

theorem rejectsKey_iff {db : FingerprintDatabase} :
    RejectsKey (some db) key ↔
      ∃ set, db.pFingerprintSet = some set ∧ set.fingerprintSetKey ≠ key := by
  unfold RejectsKey setKeyOf
  rw [Option.bind_some]
  constructor
  · rintro ⟨k, hk, hne⟩
    rcases Option.map_eq_some_iff.mp hk with ⟨set, hset, rfl⟩
    exact ⟨set, hset, hne⟩
  · rintro ⟨set, hset, hne⟩
    rw [hset]
    exact ⟨_, rfl, hne⟩

/-- **A finger is rejected for its key just where there is a set under another one.** -/
theorem setForKey_rejects_iff {db : FingerprintDatabase} :
    setForKey env db key = .error (-fpcErrorInput) ↔ RejectsKey (some db) key := by
  rw [rejectsKey_iff]
  unfold setForKey
  cases hset : db.pFingerprintSet with
  | none =>
    dsimp only
    refine iff_of_false ?_ ?_
    · intro h
      split at h
      · injection h with h
        exact absurd h (by decide)
      · split at h
        · injection h with h
          exact absurd h (by decide)
        · cases h
    · rintro ⟨set, hsome, _⟩
      cases hsome
  | some set =>
    dsimp only
    constructor
    · intro h
      split at h
      · next hne => exact ⟨set, rfl, hne⟩
      · cases h
    · rintro ⟨set', hsome, hne⟩
      cases hsome
      rw [if_pos hne]

/-- An addition brings in no set under a key other than its own. -/
theorem setKeyOf_fpcDbAddFingerprint {k : UInt32}
    (h : setKeyOf (fpcDbAddFingerprint env pDb key user tpl).pDb = some k) :
    setKeyOf pDb = some k ∨ k = key := by
  cases pDb with
  | none => exact Or.inl h
  | some db =>
    unfold fpcDbAddFingerprint at h
    cases hset : setForKey env db key with
    | error code =>
      simp only [hset] at h
      exact Or.inl h
    | ok set =>
      have hkey := setForKey_key hset
      simp only [hset] at h
      right
      split at h
      · cases h
        exact hkey
      · split at h
        · cases h
          exact hkey
        · next i _ _ =>
          -- the draws of the ids leave the set where it is
          obtain ⟨set', hset', hkey'⟩ := @key_dbUpdateFingerprintStateId env _ _
            (pFingerprintSet_dbUpdateDatabaseId env { db with
              pFingerprintSet := some (set.withSlots (set.aFingerprintList.setIfInBounds i
                (Fingerprint.enrolledWith (env.random256 .fingerprintId).2 user tpl))) })
          unfold setKeyOf at h
          rw [Option.bind_some, hset', Option.map_some, hkey'] at h
          cases h
          exact hkey

end

/-! ## The two commands -/

section

variable {P : Platform} {env : Env} {bio : Bio} {hwAuth : HwAuthTa}

theorem fpcTaBioEndEnrol_fits : FitsInt (fpcTaBioEndEnrol P env bio hwAuth).status := by
  have hinput : FitsInt (-fpcErrorInput) := by decide
  unfold fpcTaBioEndEnrol
  split
  · exact (by decide : FitsInt (-fpcErrorAlloc))
  · dsimp only
    split
    · exact (fpcResultToError_isError _).fitsInt
    · split
      · exact hinput
      · split
        · exact hinput
        · split
          · exact hinput
          · exact (by decide : FitsInt 0)

theorem fpcTaBioEndEnrol_activeSetKey :
    (fpcTaBioEndEnrol P env bio hwAuth).bio.activeSetKey = bio.activeSetKey := by
  unfold fpcTaBioEndEnrol
  split
  · rfl
  · dsimp only
    split
    · rfl
    · split
      · rfl
      · split
        · rfl
        · split <;> rfl

theorem setKeyOf_fpcTaBioEndEnrol {k : UInt32}
    (h : setKeyOf (fpcTaBioEndEnrol P env bio hwAuth).bio.userDb = some k) :
    setKeyOf bio.userDb = some k ∨ k = bio.activeSetKey := by
  unfold fpcTaBioEndEnrol at h
  split at h
  · exact Or.inl h
  · dsimp only at h
    split at h
    · exact Or.inl h
    · split at h
      · exact Or.inl h
      · split at h
        · exact setKeyOf_fpcDbAddFingerprint h
        · split at h
          · exact setKeyOf_fpcDbAddFingerprint h
          · exact setKeyOf_fpcDbAddFingerprint h

/-- What an `END_ENROL` that returns 0 leaves. -/
structure EnrolmentEnded (env : Env) (bio bio' : Bio) (id : UInt32) (base : List Fingerprint)
    (index : Nat) (f : Fingerprint) : Prop where
  addsTo : AddsTo bio.userDb base index
  slots : slots bio'.userDb = base.set index f
  valid : f.valid = fpcDbEntryValid
  id : id = fpcDbTrimId32 f.fingerprintId
  set : ∃ set, fpcDbGetSet bio'.userDb bio'.activeSetKey = .ok set
  databaseId : databaseIdOf bio'.userDb = (databaseIdOf bio.userDb).map (drawnDatabaseId env.db)

/-- The lookup of the id of the finger that was just added. -/
theorem getFinger_added {pDb : Option FingerprintDatabase} {key : UInt32} {base : List Fingerprint}
    {index : Nat} {f : Fingerprint} {set : FingerprintSet} (hset : fpcDbGetSet pDb key = .ok set)
    (hslots : slots pDb = base.set index f) (hlt : index < base.length)
    (hvalid : f.valid = fpcDbEntryValid) : fpcDbGetFingerprintId pDb key index = .ok f.fingerprintId := by
  obtain ⟨db, rfl, hdb, _⟩ := fpcDbGetSet_ok hset
  rw [slots_of_set hdb] at hslots
  have hlist : index < set.aFingerprintList.toList.length := by
    rw [hslots, List.length_set]
    exact hlt
  have hf : set.aFingerprintList.toList[index] = f := by
    simp only [hslots, List.getElem_set_self]
  rw [Vector.length_toList] at hlist
  rw [Vector.getElem_toList] at hf
  unfold fpcDbGetFingerprintId getFinger
  rw [dif_pos hlist, hset]
  dsimp only [bind, Except.bind]
  rw [hf, if_neg (by rw [hvalid]; decide)]
  rfl

/-- An `END_ENROL` that returns 0 has added one finger, for the user it was allowed to enrol. -/
theorem fpcTaBioEndEnrol_allowed (h : (fpcTaBioEndEnrol P env bio hwAuth).status = 0) :
    ∃ id base index f, (fpcTaBioEndEnrol P env bio hwAuth).id = some id ∧
      EnrolmentEnded env bio (fpcTaBioEndEnrol P env bio hwAuth).bio id base index f ∧
      (fpcEnrollmentAllowed P env hwAuth).1 = some f.secureUserId := by
  have hactive := @fpcTaBioEndEnrol_activeSetKey P env bio hwAuth
  unfold fpcTaBioEndEnrol at h hactive ⊢
  split at h
  · cases h
  · next addr hmalloc =>
    simp only [hmalloc] at hactive ⊢
    dsimp only at h
    split at h
    · exact absurd h (fpcResultToError_isError _).ne_zero
    · next hended =>
      rw [if_neg hended] at hactive ⊢
      split at h
      · cases h
      · next user hwAuth' hallowed =>
        simp only [hallowed] at hactive ⊢
        split at h
        · cases h
        · next hadded =>
          rw [if_neg hadded] at hactive ⊢
          split at h
          · cases h
          · next id256 hid =>
            simp only [hid] at hactive ⊢
            obtain ⟨base, haddsTo, hslots, ⟨set, hset⟩, hdatabaseId⟩ :=
              fpcDbAddFingerprint_zero (not_not.mp hadded)
            have hlookup := getFinger_added hset hslots haddsTo.lt_length rfl
            rw [hid] at hlookup
            cases hlookup
            exact ⟨_, base, _, _, rfl,
              { addsTo := haddsTo
                slots := hslots
                valid := rfl
                id := rfl
                set := ⟨set, hset⟩
                databaseId := hdatabaseId }, rfl⟩

/-- **An `END_ENROL` that returns 0 has added one finger and answers the front of its id.** -/
theorem fpcTaBioEndEnrol_zero (h : (fpcTaBioEndEnrol P env bio hwAuth).status = 0) :
    ∃ id base index f, (fpcTaBioEndEnrol P env bio hwAuth).id = some id ∧
      EnrolmentEnded env bio (fpcTaBioEndEnrol P env bio hwAuth).bio id base index f := by
  obtain ⟨id, base, index, f, hid, hended, _⟩ := fpcTaBioEndEnrol_allowed h
  exact ⟨id, base, index, f, hid, hended⟩

/-- One that fails has added none, and no id was drawn. -/
theorem fpcTaBioEndEnrol_ne_zero (h : (fpcTaBioEndEnrol P env bio hwAuth).status ≠ 0) :
    (∀ f, Enrolled (fpcTaBioEndEnrol P env bio hwAuth).bio.userDb f → Enrolled bio.userDb f) ∧
      databaseIdOf (fpcTaBioEndEnrol P env bio hwAuth).bio.userDb = databaseIdOf bio.userDb := by
  unfold fpcTaBioEndEnrol at h ⊢
  split
  · exact ⟨fun f hf => hf, rfl⟩
  · next addr hmalloc =>
    simp only [hmalloc] at h
    dsimp only at h ⊢
    split
    · exact ⟨fun f hf => hf, rfl⟩
    · next hended =>
      rw [if_neg hended] at h
      split
      · exact ⟨fun f hf => hf, rfl⟩
      · next user hwAuth' hallowed =>
        simp only [hallowed] at h
        split
        · next hadded =>
          refine ⟨?_, fpcDbAddFingerprint_ne_zero hadded⟩
          intro f hf
          exact (enrolled_fpcDbAddFingerprint hf).resolve_right fun hnew => hadded hnew.1
        · next hadded =>
          rw [if_neg hadded] at h
          -- the finger that was added is found
          obtain ⟨base, haddsTo, hslots, ⟨set, hset⟩, _⟩ :=
            fpcDbAddFingerprint_zero (not_not.mp hadded)
          have hlookup := getFinger_added hset hslots haddsTo.lt_length rfl
          rw [hlookup] at h
          exact absurd rfl h

/-- A finger that stands in a slot other than the given one. -/
def EnrolledBeside (pDb : Option FingerprintDatabase) (index : Nat) (f : Fingerprint) : Prop :=
  ∃ j : Nat, j ≠ index ∧ (slots pDb)[j]? = some f ∧ f.valid = fpcDbEntryValid

/-- A slot that is wiped leaves the fingers of the others, also where the set goes with it. -/
theorem enrolled_fpcDbDeleteFingerprint_iff {pDb : Option FingerprintDatabase} {key : UInt32}
    {index : Nat} {set : FingerprintSet} (hset : fpcDbGetSet pDb key = .ok set)
    (hlt : index < fpcDbFingerprintsInSet) (f : Fingerprint) :
    Enrolled (fpcDbDeleteFingerprint pDb key index).2 f ↔ EnrolledBeside pDb index f := by
  obtain ⟨db, rfl, hdb, hkey⟩ := fpcDbGetSet_ok hset
  have hslots := slots_of_set hdb
  have hwiped : ∀ g : Fingerprint, g ∈ (set.aFingerprintList.set index
      set.aFingerprintList[index].wiped).toList ∧ g.valid = fpcDbEntryValid ↔
      EnrolledBeside (some db) index g := by
    intro g
    unfold EnrolledBeside
    rw [Vector.toList_set, List.mem_iff_getElem?, hslots]
    constructor
    · rintro ⟨⟨j, hj⟩, hvalid⟩
      rw [List.getElem?_set] at hj
      split at hj
      · split at hj
        · cases hj
          cases hvalid
        · cases hj
      · next hne => exact ⟨j, fun heq => hne heq.symm, hj, hvalid⟩
    · rintro ⟨j, hne, hj, hvalid⟩
      refine ⟨⟨j, ?_⟩, hvalid⟩
      rw [List.getElem?_set_ne (fun heq => hne heq.symm)]
      exact hj
  unfold fpcDbDeleteFingerprint
  rw [dif_pos hlt, hset]
  dsimp only
  split
  · next hcount =>
    -- no finger is left, and the set is deleted
    have hnone : ¬ EnrolledBeside (some db) index f := by
      rw [← hwiped]
      rintro ⟨hmem, hvalid⟩
      exact List.countP_eq_zero.mp hcount f hmem (beq_iff_eq.mpr hvalid)
    refine iff_of_false ?_ hnone
    rintro ⟨hmem, _⟩
    have hsame : (set.withSlots (set.aFingerprintList.set index
        set.aFingerprintList[index].wiped)).fingerprintSetKey = key := hkey
    simp [fpcDbDeleteSet, fpcDbGetSet, hsame] at hmem
  · exact hwiped f

/-- **A `DELETE_TEMPLATE` takes out the first finger whose id begins as it says.** -/
theorem fpcTaBioDeleteTemplate_found {id : UInt32} {index : Nat} {set : FingerprintSet}
    (hid : id ≠ 0) (hindex : fpcDbGetIndexOfId32 bio.userDb id = .ok index)
    (hset : fpcDbGetSet bio.userDb bio.activeSetKey = .ok set) :
    ∃ status bio', fpcTaBioDeleteTemplate bio id = .ok (status, bio') ∧
      ∀ f, Enrolled bio'.userDb f ↔ EnrolledBeside bio.userDb index f := by
  have hlt : index < fpcDbFingerprintsInSet := by
    obtain ⟨f, hf, _, _⟩ := firstIndex_ok hindex
    obtain ⟨hlt, _⟩ := List.getElem?_eq_some_iff.mp hf
    exact lt_of_lt_of_le hlt (length_slots_le _)
  unfold fpcTaBioDeleteTemplate
  rw [if_neg hid, hindex]
  exact ⟨_, _, rfl, enrolled_fpcDbDeleteFingerprint_iff hset hlt⟩

end

end Fpc
