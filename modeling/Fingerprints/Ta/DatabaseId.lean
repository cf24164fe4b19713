import Fingerprints.Ta.TokenIdentity

/-!
# What keeps the id of the database

A new id is drawn when a finger is added and when an empty database is made. Every other bio
command leaves the id, whatever it does to the fingers, and brings in no set under another key
(`bioSwitch_keepsIds`), and most leave the database and the active set as they are
(`bioSwitch_sameDb`).
-/

namespace Fpc

open Wire Wire.Outcome

/-- The id of the database, where there is one. -/
def databaseIdOf (pDb : Option FingerprintDatabase) : Option UInt64 :=
  pDb.map FingerprintDatabase.databaseId

@[simp] theorem databaseIdOf_some (db : FingerprintDatabase) :
    databaseIdOf (some db) = some db.databaseId := rfl

theorem databaseIdOf_eq_none {pDb : Option FingerprintDatabase} :
    databaseIdOf pDb = none ↔ pDb = none := Option.map_eq_none_iff

/-- A database with the same id is there exactly when the other is. -/
theorem present_of_databaseIdOf {pDb pDb' : Option FingerprintDatabase}
    (h : databaseIdOf pDb' = databaseIdOf pDb) (hdb : pDb ≠ none) : pDb' ≠ none := by
  rw [Ne, ← databaseIdOf_eq_none, h, databaseIdOf_eq_none]
  exact hdb

/-- The key of the set, where there is one. -/
def setKeyOf (pDb : Option FingerprintDatabase) : Option UInt32 :=
  (pDb.bind FingerprintDatabase.pFingerprintSet).map FingerprintSet.fingerprintSetKey

/-- The database has the id of the other, and no set under another key. -/
structure KeepsIds (pDb pDb' : Option FingerprintDatabase) : Prop where
  databaseId : databaseIdOf pDb' = databaseIdOf pDb
  setKey : ∀ key, setKeyOf pDb' = some key → setKeyOf pDb = some key

theorem KeepsIds.refl (pDb : Option FingerprintDatabase) : KeepsIds pDb pDb := ⟨rfl, fun _ h => h⟩

theorem KeepsIds.trans {db₁ db₂ db₃ : Option FingerprintDatabase} (h : KeepsIds db₁ db₂)
    (h' : KeepsIds db₂ db₃) : KeepsIds db₁ db₃ :=
  ⟨h'.databaseId.trans h.databaseId, fun key hkey => h.setKey key (h'.setKey key hkey)⟩

/-- A set that takes the place of one under the same key. -/
theorem keepsIds_of_set {db : FingerprintDatabase} {set set' : FingerprintSet}
    (hset : db.pFingerprintSet = some set) (hkey : set'.fingerprintSetKey = set.fingerprintSetKey) :
    KeepsIds (some db) (some { db with pFingerprintSet := some set' }) := by
  refine ⟨rfl, ?_⟩
  intro key h
  unfold setKeyOf at h ⊢
  rw [Option.bind_some, hset, ← h, Option.map_some, ← hkey]
  rfl

/-! ## The functions of the database -/

theorem fpcDbDeleteSet_keepsIds (pDb : Option FingerprintDatabase) (key : UInt32) :
    KeepsIds pDb (fpcDbDeleteSet pDb key).2 := by
  unfold fpcDbDeleteSet
  split
  · cases pDb with
    | none => exact KeepsIds.refl none
    | some db =>
      refine ⟨rfl, ?_⟩
      intro k hk
      cases hk
  · exact KeepsIds.refl pDb

theorem fpcDbDeleteFingerprint_keepsIds (pDb : Option FingerprintDatabase) (key : UInt32)
    (index : Nat) : KeepsIds pDb (fpcDbDeleteFingerprint pDb key index).2 := by
  unfold fpcDbDeleteFingerprint
  split
  · split
    · next set hset =>
      obtain ⟨db, rfl, hdb, _⟩ := fpcDbGetSet_ok hset
      have hwiped := @keepsIds_of_set db set
        (set.withSlots (set.aFingerprintList.set index set.aFingerprintList[index].wiped)) hdb rfl
      dsimp only
      split
      · exact hwiped.trans (fpcDbDeleteSet_keepsIds _ key)
      · exact hwiped
    · exact KeepsIds.refl pDb
  · exact KeepsIds.refl pDb

theorem replaceTemplate_keepsIds (pDb : Option FingerprintDatabase) (index : Nat)
    (tpl : Template) : KeepsIds pDb (replaceTemplate pDb index tpl) := by
  cases pDb with
  | none => exact KeepsIds.refl none
  | some db =>
    cases hset : db.pFingerprintSet with
    | none =>
      refine ⟨rfl, ?_⟩
      intro key h
      simp [replaceTemplate, setKeyOf, hset] at h
    | some set =>
      have hkept := @keepsIds_of_set db set (set.replaceTemplate index tpl) hset rfl
      unfold replaceTemplate
      rw [Option.map_some, hset, Option.map_some]
      exact hkept

theorem fpcDbSetTemplateFirst_keepsIds {pDb : Option FingerprintDatabase} {i : Nat}
    {db : FingerprintDatabase} (h : fpcDbSetTemplateFirst pDb i = .ok db) :
    KeepsIds pDb (some db) := by
  obtain ⟨db, set, _, rfl, hset, rfl⟩ := fpcDbSetTemplateFirst_ok h
  exact keepsIds_of_set hset rfl

section

variable {P : Platform} {env : Env} {ta : Ta} {msg : List UInt8}

/-- Updated templates leave the id. Induction on the turns of the loop. -/
theorem updateTemplates_keepsIds {bio : Bio} {n i : Nat}
    {pDb pDb' : Option FingerprintDatabase} {status : Int}
    (h : updateTemplates env bio n i pDb = .ok (status, pDb')) : KeepsIds pDb pDb' := by
  induction n generalizing i pDb with
  | zero =>
    cases h
    exact KeepsIds.refl _
  | succ n ih =>
    unfold updateTemplates at h
    split at h
    · dsimp only at h
      split at h
      · split at h
        · cases h
        · cases h
          exact KeepsIds.refl _
        · split at h
          · cases h
            exact KeepsIds.refl _
          · split at h
            · cases h
              exact KeepsIds.refl _
            · exact (replaceTemplate_keepsIds _ _ _).trans (ih h)
      · cases h
    · cases h

theorem fpcTaBioUpdateTemplate_keepsIds {bio bio' : Bio} {status : Int}
    {didUpdate : Option UInt32}
    (h : fpcTaBioUpdateTemplate env bio = .ok (status, bio', didUpdate)) :
    KeepsIds bio.userDb bio'.userDb ∧ bio'.activeSetKey = bio.activeSetKey := by
  cases fpcTaBioUpdateTemplate_cases h with
  | skipped _ => exact ⟨KeepsIds.refl _, rfl⟩
  | looped _ _ hloop => exact ⟨updateTemplates_keepsIds hloop, rfl⟩

theorem fpcTaBioIdentify_keepsIds {identified : Identified}
    (h : fpcTaBioIdentify P env ta = .ok identified) :
    KeepsIds ta.bio.userDb identified.bio.userDb ∧
      identified.bio.activeSetKey = ta.bio.activeSetKey := by
  cases fpcTaBioIdentify_cases h with
  | failed _ _ _ _ _ hbio =>
    rw [hbio]
    exact ⟨KeepsIds.refl _, rfl⟩
  | missed _ => exact ⟨KeepsIds.refl _, rfl⟩
  | matched _ _ _ hrecorded =>
    cases hrecorded with
    | failed _ _ hbio =>
      rw [hbio]
      exact ⟨KeepsIds.refl _, rfl⟩
    | found _ _ _ hfront => exact ⟨fpcDbSetTemplateFirst_keepsIds hfront, rfl⟩

theorem fpcTaBioDeleteTemplate_keepsIds {bio bio' : Bio} {id : UInt32} {status : Int}
    (h : fpcTaBioDeleteTemplate bio id = .ok (status, bio')) :
    KeepsIds bio.userDb bio'.userDb ∧ bio'.activeSetKey = bio.activeSetKey := by
  cases fpcTaBioDeleteTemplate_cases h with
  | noId _ => exact ⟨KeepsIds.refl _, rfl⟩
  | missed _ _ => exact ⟨KeepsIds.refl _, rfl⟩
  | found _ _ => exact ⟨fpcDbDeleteFingerprint_keepsIds _ _ _, rfl⟩

/-! ## The bio commands -/

/-- The bio commands that change neither the database nor the active set. -/
def BioCmd.keepsDb : BioCmd → Bool
  | .beginEnrol => true
  | .enrol => true
  | .getFingerIds => true
  | .getTemplateDbId => true
  | .getIdentifyStatistics => true
  | .endEnrol => false
  | .identify => false
  | .updateTemplate => false
  | .loadEmptyDb => false
  | .deleteTemplate => false
  | .setActiveFingerprintSet => false

/-- The same database and the same active set. -/
structure SameDb (ta ta' : Ta) : Prop where
  userDb : ta'.bio.userDb = ta.bio.userDb
  activeSetKey : ta'.bio.activeSetKey = ta.bio.activeSetKey

theorem SameDb.refl (ta : Ta) : SameDb ta ta := ⟨rfl, rfl⟩

theorem SameDb.trans {ta₁ ta₂ ta₃ : Ta} (h : SameDb ta₁ ta₂) (h' : SameDb ta₂ ta₃) :
    SameDb ta₁ ta₃ :=
  ⟨h'.userDb.trans h.userDb, h'.activeSetKey.trans h.activeSetKey⟩

theorem SameDb.of_bio {ta ta' : Ta} (h : ta'.bio = ta.bio) : SameDb ta ta' := by
  constructor
  · rw [h]
  · rw [h]

theorem fpcTaBioBeginEnrol_activeSetKey {bio bio' : Bio} {status : Int}
    (h : fpcTaBioBeginEnrol env bio = .ok (status, bio')) :
    bio'.activeSetKey = bio.activeSetKey := by
  unfold fpcTaBioBeginEnrol at h
  rcases bind_eq_ok.mp h with ⟨copied, _, h⟩
  dsimp only at h
  split at h
  · cases h
    rfl
  · split at h
    · cases h
      rfl
    · cases h
      rfl

theorem fpcTaBioEnrol_activeSetKey (bio : Bio) :
    (fpcTaBioEnrol env bio).2.1.activeSetKey = bio.activeSetKey := by
  unfold fpcTaBioEnrol
  dsimp only
  split <;> rfl

theorem bioSwitch_sameDb {cmd : BioCmd} {answer : UInt32} {reply : BioReply}
    (h : bioSwitch P env ta msg answer cmd = .ok reply) (hcmd : cmd.keepsDb = true) :
    SameDb ta reply.ta := by
  cases bioSwitch_ran h with
  | beginEnrol hbegin =>
    exact ⟨(fpcTaBioBeginEnrol_frame hbegin).1, fpcTaBioBeginEnrol_activeSetKey hbegin⟩
  | enrol hbio =>
    constructor
    · rw [hbio]
      exact (fpcTaBioEnrol_frame ta.bio).1
    · rw [hbio]
      exact fpcTaBioEnrol_activeSetKey ta.bio
  | getFingerIds hbio => exact .of_bio hbio
  | getTemplateDbId hbio => exact .of_bio hbio
  | getIdentifyStatistics hbio => exact .of_bio hbio
  | endEnrol _ => cases hcmd
  | identify _ _ => cases hcmd
  | updateTemplate _ => cases hcmd
  | loadEmptyDb _ => cases hcmd
  | deleteTemplate _ => cases hcmd
  | setActiveFingerprintSet _ => cases hcmd

/-- A bio command leaves the id of the database and the key of its set, unless it ends an enrolment
or loads an empty database. It leaves the active set, unless it sets it. -/
theorem bioSwitch_keepsIds {cmd : BioCmd} {answer : UInt32} {reply : BioReply}
    (h : bioSwitch P env ta msg answer cmd = .ok reply) (hadd : cmd ≠ .endEnrol)
    (hempty : cmd ≠ .loadEmptyDb) :
    KeepsIds ta.bio.userDb reply.ta.bio.userDb ∧
      (cmd ≠ .setActiveFingerprintSet → reply.ta.bio.activeSetKey = ta.bio.activeSetKey) := by
  cases hcmd : cmd.keepsDb with
  | true =>
    have hsame := bioSwitch_sameDb h hcmd
    rw [hsame.userDb]
    exact ⟨KeepsIds.refl _, fun _ => hsame.activeSetKey⟩
  | false =>
    cases bioSwitch_ran h with
    | identify hidentify hbio =>
      rcases fpcTaBioIdentify_keepsIds hidentify with ⟨hids, hactive⟩
      rw [hbio]
      exact ⟨hids, fun _ => hactive⟩
    | updateTemplate hupdate =>
      rcases fpcTaBioUpdateTemplate_keepsIds hupdate with ⟨hids, hactive⟩
      exact ⟨hids, fun _ => hactive⟩
    | deleteTemplate hdelete =>
      rcases fpcTaBioDeleteTemplate_keepsIds hdelete with ⟨hids, hactive⟩
      exact ⟨hids, fun _ => hactive⟩
    | setActiveFingerprintSet hbio =>
      rw [hbio]
      exact ⟨KeepsIds.refl _, fun hne => absurd rfl hne⟩
    | endEnrol _ => exact absurd rfl hadd
    | loadEmptyDb _ => exact absurd rfl hempty
    | beginEnrol _ => cases hcmd
    | enrol _ => cases hcmd
    | getFingerIds _ => cases hcmd
    | getTemplateDbId _ => cases hcmd
    | getIdentifyStatistics _ => cases hcmd

end

end Fpc
