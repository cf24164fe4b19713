import Fingerprints.Db.Ops

/-!
# When a finger is added whole or not at all

`fpc_db_add_fingerprint` attaches a new set before it draws the id of the finger, and draws that id
in place, so a draw that fails leaves its traces; once the finger stands in its slot, the draws of
the database id and of the state id may fail unnoticed.

* **`fpcDbAddFingerprint_unreached`**, **`fpcDbAddFingerprint_undrawn`**,
  **`fpcDbAddFingerprint_drawn`**: what the call leaves, by how far it gets;
* **`fpcDbAddFingerprint_slots`**: what it makes of the slots;
* **`allOrNothing_iff`**: the draws that leave all of an addition, or nothing of it.
-/

namespace Fpc

open Wire Wire.Outcome

/-! ## What a call is to leave -/

/-- The slots of a database, or those of a set that was just allocated. -/
def slotsOrFree (db : FingerprintDatabase) : List Fingerprint :=
  match db.pFingerprintSet with
  | some set => set.aFingerprintList.toList
  | none => List.replicate fpcDbFingerprintsInSet Fingerprint.zeroed

/-- The lowest slot that is invalid. -/
def firstFree (fs : List Fingerprint) : Option Nat :=
  fs.findIdx? (·.valid == fpcDbEntryInvalid)

/-- The finger stands in the lowest slot that was invalid, the other slots are as they were, and
the database and its set have ids that were drawn with success. -/
structure AddedWhole (env : DbEnv) (db db' : FingerprintDatabase) (user : UInt64) (tpl : Template)
    (index : Nat) : Prop where
  slot : firstFree (slotsOrFree db) = some index
  finger : ∃ f, (slots (some db'))[index]? = some f ∧ f.valid = fpcDbEntryValid ∧
    f.secureUserId = user ∧ f.ftemplate = some tpl
  others : ∀ k, k ≠ index → (slots (some db'))[k]? = (slotsOrFree db)[k]?
  databaseId : ¬ (env.random64 .databaseId).1 < 0 ∧
    db'.databaseId = (env.random64 .databaseId).2
  stateId : (env.random256 .stateId).1 = 0 ∧
    db'.pFingerprintSet.map FingerprintSet.fingerprintStateId = some (env.random256 .stateId).2

/-- Where the call returns 0 the finger was added whole, and elsewhere the database is the one
there was. -/
def AllOrNothing (env : DbEnv) (pDb : Option FingerprintDatabase) (key : UInt32) (user : UInt64)
    (tpl : Template) : Prop :=
  let added := fpcDbAddFingerprint env pDb key user tpl
  (added.status = 0 → ∃ db db', pDb = some db ∧ added.pDb = some db' ∧
    AddedWhole env db db' user tpl added.index) ∧
  (added.status ≠ 0 → added.pDb = pDb)

/-! ## How far the call gets -/

/-- The call gets as far as drawing the id of the finger: the set has the key and a free slot, or
there is none and a new one can be made. -/
def DrawsFingerId (env : DbEnv) (db : FingerprintDatabase) (key : UInt32) : Prop :=
  match db.pFingerprintSet with
  | some set => set.fingerprintSetKey = key ∧
      ∃ f ∈ set.aFingerprintList.toList, f.valid = fpcDbEntryInvalid
  | none => (env.malloc .fingerprintSet).isSome ∧ (env.random256 .setId).1 = 0

/-- The draws of the call leave all of the addition or nothing of it. If the id of the finger can be
drawn, the other two can; if it cannot, it was drawn into a slot of a set that was there, and left
that slot's id as it was. -/
def DrawsWhole (env : DbEnv) (db : FingerprintDatabase) : Prop :=
  if (env.random256 .fingerprintId).1 = 0 then
    ¬ (env.random64 .databaseId).1 < 0 ∧ (env.random256 .stateId).1 = 0
  else
    ∃ set ∈ db.pFingerprintSet,
      (set.aFingerprintList.toList.find? (·.valid == fpcDbEntryInvalid)).map
        Fingerprint.fingerprintId = some (env.random256 .fingerprintId).2

section

variable {env : DbEnv} {db : FingerprintDatabase} {key : UInt32} {user : UInt64} {tpl : Template}

/-- The set that a finger is added to has the slots that `slotsOrFree` shows. -/
theorem setForKey_slotsOrFree {set : FingerprintSet} (h : setForKey env db key = .ok set) :
    set.aFingerprintList.toList = slotsOrFree db := by
  unfold setForKey at h
  unfold slotsOrFree
  cases hset : db.pFingerprintSet with
  | some old =>
    simp only [hset] at h ⊢
    split at h
    · cases h
    · cases h
      rfl
  | none =>
    simp only [hset] at h ⊢
    split at h
    · cases h
    · split at h
      · cases h
      · cases h
        simp [FingerprintSet.zeroed]

/-- A set that was there is the one a finger is added to. -/
theorem setForKey_of_set {set old : FingerprintSet} (h : setForKey env db key = .ok set)
    (hold : db.pFingerprintSet = some old) : set = old := by
  unfold setForKey at h
  simp only [hold] at h
  split at h
  · cases h
  · cases h
    rfl

theorem firstFree_eq_some {fs : List Fingerprint} {i : Nat} (h : firstFree fs = some i) :
    ∃ hlt : i < fs.length, fs[i].valid = fpcDbEntryInvalid ∧
      fs.find? (·.valid == fpcDbEntryInvalid) = some fs[i] := by
  obtain ⟨hlt, hfree, hbefore⟩ := List.findIdx?_eq_some_iff_getElem.mp h
  refine ⟨hlt, beq_iff_eq.mp hfree, ?_⟩
  rw [List.find?_eq_some_iff_getElem]
  refine ⟨hfree, i, hlt, rfl, ?_⟩
  intro j hj
  simpa using hbefore j hj

/-- The call gets as far as drawing the id of the finger where it has a set with a free slot. -/
theorem drawsFingerId_iff :
    DrawsFingerId env db key ↔ ∃ set i, setForKey env db key = .ok set ∧
      firstFree set.aFingerprintList.toList = some i := by
  unfold DrawsFingerId setForKey
  cases hset : db.pFingerprintSet with
  | some set =>
    dsimp only
    constructor
    · rintro ⟨hkey, f, hmem, hfree⟩
      have hfound : (firstFree set.aFingerprintList.toList).isSome := by
        unfold firstFree
        rw [List.findIdx?_isSome, List.any_eq_true]
        exact ⟨f, hmem, beq_iff_eq.mpr hfree⟩
      obtain ⟨i, hi⟩ := Option.isSome_iff_exists.mp hfound
      exact ⟨set, i, if_neg (not_not.mpr hkey), hi⟩
    · rintro ⟨set', i, hok, hi⟩
      split at hok
      · cases hok
      · next hkey =>
        cases hok
        obtain ⟨hlt, hfree, _⟩ := firstFree_eq_some hi
        exact ⟨not_not.mp hkey, _, List.getElem_mem hlt, hfree⟩
  | none =>
    dsimp only
    cases halloc : env.malloc .fingerprintSet with
    | none =>
      refine iff_of_false ?_ ?_
      · rintro ⟨hsome, _⟩
        cases hsome
      · rintro ⟨set, i, hok, _⟩
        cases hok
    | some addr =>
      dsimp only
      by_cases hdraw : (env.random256 .setId).1 = 0
      · rw [if_neg (not_not.mpr hdraw)]
        -- the first slot of a new set is free
        exact iff_of_true ⟨rfl, hdraw⟩ ⟨_, 0, rfl, rfl⟩
      · rw [if_pos hdraw]
        refine iff_of_false (fun h => hdraw h.2) ?_
        rintro ⟨set, i, hok, _⟩
        cases hok

/-! ## What it leaves -/

/-- A call that does not get as far as drawing the id fails, and leaves the database. -/
theorem fpcDbAddFingerprint_unreached (h : ¬ DrawsFingerId env db key) :
    (fpcDbAddFingerprint env (some db) key user tpl).status ≠ 0 ∧
      (fpcDbAddFingerprint env (some db) key user tpl).pDb = some db := by
  rw [drawsFingerId_iff] at h
  unfold fpcDbAddFingerprint
  cases hset : setForKey env db key with
  | error code =>
    simp only [hset]
    exact ⟨setForKey_error hset, trivial⟩
  | ok set =>
    cases hfree : set.aFingerprintList.toList.findIdx? (·.valid == fpcDbEntryInvalid) with
    | some i => exact absurd ⟨set, i, hset, hfree⟩ h
    | none =>
      simp only [hset, hfree]
      refine ⟨by decide, ?_⟩
      -- a set without a free slot is not a new one
      cases hold : db.pFingerprintSet with
      | some old => rw [setForKey_of_set hset hold, ← hold]
      | none =>
        have hslots := setForKey_slotsOrFree hset
        rw [slotsOrFree, hold] at hslots
        rw [hslots] at hfree
        cases hfree

/-- The set with another slot in one of its places. -/
def FingerprintSet.withSlot (set : FingerprintSet) (i : Nat) (f : Fingerprint) : FingerprintSet :=
  set.withSlots (set.aFingerprintList.setIfInBounds i f)

/-- The draws behind an addition set the ids, but the database id where its draw fails. -/
theorem dbUpdateIds {set : FingerprintSet} (h : db.pFingerprintSet = some set) :
    (dbUpdateFingerprintStateId env (dbUpdateDatabaseId env db).2).2 =
      { db with
        databaseId := if (env.random64 .databaseId).1 < 0 then db.databaseId
          else (env.random64 .databaseId).2
        pFingerprintSet := some { set with
          fingerprintStateId := (env.random256 .stateId).2 } } := by
  unfold dbUpdateFingerprintStateId dbUpdateDatabaseId
  by_cases hdb : (env.random64 .databaseId).1 < 0
  · simp only [if_pos hdb, h]
    split <;> rfl
  · simp only [if_neg hdb, h]
    split <;> rfl

/-- The slot that a failed draw of the id of the finger leaves. -/
def FingerprintSet.failedSlot (env : DbEnv) (set : FingerprintSet) (i : Nat) : Fingerprint :=
  { set.aFingerprintList.toList.getD i Fingerprint.zeroed with
    fingerprintId := (env.random256 .fingerprintId).2 }

/-- The database that a failed draw of the id of the finger leaves. -/
def FingerprintDatabase.failedDraw (env : DbEnv) (db : FingerprintDatabase) (set : FingerprintSet)
    (i : Nat) : FingerprintDatabase :=
  { db with pFingerprintSet := some (set.withSlot i (set.failedSlot env i)) }

/-- The database that an addition leaves. -/
def FingerprintDatabase.added (env : DbEnv) (db : FingerprintDatabase) (set : FingerprintSet)
    (i : Nat) (user : UInt64) (tpl : Template) : FingerprintDatabase :=
  { db with
    databaseId := if (env.random64 .databaseId).1 < 0 then db.databaseId
      else (env.random64 .databaseId).2
    pFingerprintSet := some
      { set.withSlot i (Fingerprint.enrolledWith (env.random256 .fingerprintId).2 user tpl) with
        fingerprintStateId := (env.random256 .stateId).2 } }

section

variable {set : FingerprintSet} {i : Nat} (hset : setForKey env db key = .ok set)
  (hfree : firstFree set.aFingerprintList.toList = some i)

include hset hfree

/-- Where the id of the finger cannot be drawn, the call fails. -/
theorem fpcDbAddFingerprint_undrawn (hdraw : (env.random256 .fingerprintId).1 ≠ 0) :
    fpcDbAddFingerprint env (some db) key user tpl
      = { status := -fpcErrorIo, pDb := some (db.failedDraw env set i), index := 0 } := by
  unfold firstFree at hfree
  unfold fpcDbAddFingerprint
  simp only [hset, hfree]
  rw [if_pos hdraw]
  rfl

/-- Where it can, the finger is added. -/
theorem fpcDbAddFingerprint_drawn (hdraw : (env.random256 .fingerprintId).1 = 0) :
    fpcDbAddFingerprint env (some db) key user tpl
      = { status := 0, pDb := some (db.added env set i user tpl), index := i } := by
  unfold firstFree at hfree
  unfold fpcDbAddFingerprint
  simp only [hset, hfree]
  rw [if_neg (not_not.mpr hdraw), dbUpdateIds rfl]
  rfl

/-- An addition is whole where the draws of the two ids succeed. -/
theorem addedWhole_iff :
    AddedWhole env db (db.added env set i user tpl) user tpl i ↔
      ¬ (env.random64 .databaseId).1 < 0 ∧ (env.random256 .stateId).1 = 0 := by
  constructor
  · intro h
    exact ⟨h.databaseId.1, h.stateId.1⟩
  · rintro ⟨hdatabase, hstate⟩
    have hslots := setForKey_slotsOrFree hset
    obtain ⟨hlt, _, _⟩ := firstFree_eq_some hfree
    have hadded : slots (some (db.added env set i user tpl)) = set.aFingerprintList.toList.set i
        (Fingerprint.enrolledWith (env.random256 .fingerprintId).2 user tpl) := by
      show ((set.aFingerprintList.setIfInBounds i _).toList) = _
      rw [Vector.toList_setIfInBounds]
    refine ⟨by rwa [← hslots], ?_, ?_, ⟨hdatabase, ?_⟩, hstate, rfl⟩
    · rw [hadded, List.getElem?_set_self hlt]
      exact ⟨_, rfl, rfl, rfl, rfl⟩
    · intro k hk
      rw [hadded, List.getElem?_set_ne hk.symm, hslots]
    · show (if (env.random64 .databaseId).1 < 0 then _ else _) = _
      rw [if_neg hdatabase]

/-- A failed draw leaves the database where the set was there, and the free slot has the id that
the draw left. -/
theorem failedDraw_eq_iff :
    db.failedDraw env set i = db ↔
      ∃ old ∈ db.pFingerprintSet,
        (old.aFingerprintList.toList.find? (·.valid == fpcDbEntryInvalid)).map
          Fingerprint.fingerprintId = some (env.random256 .fingerprintId).2 := by
  obtain ⟨hlt, _, hfound⟩ := firstFree_eq_some hfree
  have hslot : set.failedSlot env i = { set.aFingerprintList.toList[i] with
      fingerprintId := (env.random256 .fingerprintId).2 } := by
    unfold FingerprintSet.failedSlot
    rw [List.getD_eq_getElem _ _ hlt]
  constructor
  · intro h
    have hold : db.pFingerprintSet = some (set.withSlot i (set.failedSlot env i)) := by
      rw [← h]
      rfl
    have hsame : set = set.withSlot i (set.failedSlot env i) := setForKey_of_set hset hold
    refine ⟨set, by rw [hold, ← hsame]; rfl, ?_⟩
    have hput : set.aFingerprintList.toList[i]? = some (set.failedSlot env i) := by
      have hlist := congrArg (fun s => s.aFingerprintList.toList[i]?) hsame
      simp only [FingerprintSet.withSlot, FingerprintSet.withSlots,
        Vector.toList_setIfInBounds] at hlist
      rw [hlist, List.getElem?_set_self hlt]
    rw [List.getElem?_eq_getElem hlt] at hput
    rw [hfound, Option.map_some, Option.some.inj hput]
    rfl
  · rintro ⟨old, hold, hid⟩
    cases setForKey_of_set hset hold
    rw [hfound, Option.map_some, Option.some.injEq] at hid
    -- the slot is put back as it was
    have hsame : set.failedSlot env i = set.aFingerprintList.toList[i] := by
      rw [hslot, ← hid]
    have hlist : set.aFingerprintList.setIfInBounds i (set.failedSlot env i)
        = set.aFingerprintList := by
      rw [hsame]
      apply Vector.toList_inj.mp
      rw [Vector.toList_setIfInBounds, List.set_getElem_self]
    unfold FingerprintDatabase.failedDraw FingerprintSet.withSlot FingerprintSet.withSlots
    rw [hlist, ← hold]

end

/-- What a call makes of the slots: it leaves them, or writes one that was free, with the id alone
where that could not be drawn, and else with the finger. -/
inductive AddedSlots (env : DbEnv) (pDb : Option FingerprintDatabase) (key : UInt32) (user : UInt64)
    (tpl : Template) : List Fingerprint → Prop
  | kept (hreached : ∀ db ∈ pDb, ¬ DrawsFingerId env db key) :
      AddedSlots env pDb key user tpl (slots pDb)
  | undrawn {db : FingerprintDatabase} {i : Nat} {old : Fingerprint} (hdb : pDb = some db)
      (hold : (slotsOrFree db)[i]? = some old) (hfree : old.valid = fpcDbEntryInvalid)
      (hdraw : (env.random256 .fingerprintId).1 ≠ 0) :
      AddedSlots env pDb key user tpl
        ((slotsOrFree db).set i { old with fingerprintId := (env.random256 .fingerprintId).2 })
  | drawn {db : FingerprintDatabase} {i : Nat} {old : Fingerprint} (hdb : pDb = some db)
      (hold : (slotsOrFree db)[i]? = some old) (hfree : old.valid = fpcDbEntryInvalid)
      (hreached : DrawsFingerId env db key) (hdraw : (env.random256 .fingerprintId).1 = 0) :
      AddedSlots env pDb key user tpl
        ((slotsOrFree db).set i
          (Fingerprint.enrolledWith (env.random256 .fingerprintId).2 user tpl))

theorem fpcDbAddFingerprint_slots (env : DbEnv) (pDb : Option FingerprintDatabase) (key : UInt32)
    (user : UInt64) (tpl : Template) :
    AddedSlots env pDb key user tpl (slots (fpcDbAddFingerprint env pDb key user tpl).pDb) := by
  cases pDb with
  | none =>
    apply AddedSlots.kept
    intro db hdb
    cases hdb
  | some db =>
    by_cases hreached : DrawsFingerId env db key
    · obtain ⟨set, i, hset, hfree⟩ := drawsFingerId_iff.mp hreached
      have hslots := setForKey_slotsOrFree hset
      obtain ⟨old, hold, hinvalid⟩ : ∃ old, (slotsOrFree db)[i]? = some old ∧
          old.valid = fpcDbEntryInvalid := by
        obtain ⟨hlt, hinvalid, _⟩ := firstFree_eq_some hfree
        rw [← hslots]
        exact ⟨_, List.getElem?_eq_getElem hlt, hinvalid⟩
      by_cases hdraw : (env.random256 .fingerprintId).1 = 0
      · rw [fpcDbAddFingerprint_drawn hset hfree hdraw]
        show AddedSlots _ _ _ _ _ (set.aFingerprintList.setIfInBounds i _).toList
        rw [Vector.toList_setIfInBounds, hslots]
        exact .drawn rfl hold hinvalid hreached hdraw
      · rw [fpcDbAddFingerprint_undrawn hset hfree hdraw]
        show AddedSlots _ _ _ _ _ (set.aFingerprintList.setIfInBounds i _).toList
        rw [Vector.toList_setIfInBounds, FingerprintSet.failedSlot, hslots,
          List.getD_eq_getElem?_getD, hold]
        exact .undrawn rfl hold hinvalid hdraw
    · rw [(fpcDbAddFingerprint_unreached hreached).2]
      apply AddedSlots.kept
      intro db' hdb'
      cases hdb'
      exact hreached

/-- **When an addition is all or nothing**: where the call does not get as far as drawing the id of
the finger, and elsewhere by its draws. -/
theorem allOrNothing_iff (env : DbEnv) (pDb : Option FingerprintDatabase) (key : UInt32)
    (user : UInt64) (tpl : Template) :
    AllOrNothing env pDb key user tpl ↔
      ∀ db ∈ pDb, DrawsFingerId env db key → DrawsWhole env db := by
  cases pDb with
  | none =>
    refine iff_of_true ⟨?_, ?_⟩ ?_
    · intro h
      cases h
    · intro _
      rfl
    · intro db hdb
      cases hdb
  | some db =>
    unfold AllOrNothing DrawsWhole
    by_cases hreach : DrawsFingerId env db key
    · obtain ⟨set, i, hset, hfree⟩ := drawsFingerId_iff.mp hreach
      by_cases hdraw : (env.random256 .fingerprintId).1 = 0
      · have hwhole := @addedWhole_iff env db key user tpl set i hset hfree
        rw [fpcDbAddFingerprint_drawn hset hfree hdraw]
        simp only [Option.mem_some_iff, forall_eq', hreach, if_pos hdraw, ← hwhole]
        constructor
        · rintro ⟨hadded, _⟩
          obtain ⟨db₀, db', hdb, hdb', hwhole⟩ := hadded trivial
          cases hdb
          cases hdb'
          exact fun _ => hwhole
        · intro h
          exact ⟨fun _ => ⟨db, _, rfl, rfl, h trivial⟩, fun hne => absurd rfl hne⟩
      · have hkept := failedDraw_eq_iff hset hfree
        rw [fpcDbAddFingerprint_undrawn hset hfree hdraw]
        simp only [Option.mem_some_iff, forall_eq', hreach, if_neg hdraw, Option.some.injEq]
        rw [← hkept]
        constructor
        · intro h _
          exact h.2 (by decide)
        · intro h
          exact ⟨fun hzero => absurd hzero (by decide), fun _ => h trivial⟩
    · obtain ⟨hstatus, hkept⟩ := @fpcDbAddFingerprint_unreached env db key user tpl hreach
      refine iff_of_true ⟨fun h => absurd h hstatus, fun _ => hkept⟩ ?_
      intro db' hdb'
      cases hdb'
      exact fun h => absurd h hreach

end

/-- A platform on which the id of a finger cannot be drawn. -/
def DbEnv.withoutFingerIds : DbEnv := { DbEnv.willing with
  random256 := fun site =>
    if site = .fingerprintId then (-1, Id256.filled 0) else DbEnv.willing.random256 site }

/-- The first finger of a database cannot be added, and its set stays behind. -/
theorem withoutFingerIds_attaches :
    ¬ ∀ env pDb key user tpl, AllOrNothing env pDb key user tpl := by
  intro h
  have hfailed := (h .withoutFingerIds
    (some { addr := 0x1000, databaseId := 7, pFingerprintSet := none }) 0 1
    (Template.ofList 0x70000 4 [1, 2, 3, 4])).2
  exact absurd (hfailed (by decide)) (by decide)

end Fpc
