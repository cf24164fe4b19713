import Fingerprints.Hal.Calls

/-!
# The databases of the groups

A group is selected with the path of its database. The path is logged, and the database is loaded from
one file and stored in it, whichever group is active.

* **`Hal.Stays`**: what a call other than `fpc_set_active_group` does to the files and to the set that
  the application has loaded.
* **`groups_isolated`**: in a run the groups do not get at the fingers of each other, as long as a group
  is selected only when its own path was active at the last store, for its own set.
-/

namespace Fpc

open Wire Wire.Outcome Runs

section

variable {P : Platform}

/-! ## What is active, and what was stored -/

/-- A call of `fpc_set_active_group` loads a database and sets the group. -/
def groupSet (m : Meets P) (hal : Hal) (gid : UInt32) : Bool :=
  match loadTemplateDb m { hal with currentDbFile := templateFile } with
  | .ok (loading, loaded) =>
      if loading = 0 then
        match fpcTeeSetGid (m.tacOf loaded.tee) m.envs loaded.tee gid with
        | .ok (setting, _) => setting == 0
        | _ => false
      else false
  | _ => false

/-- The group and the path that an event makes the active ones. -/
def HalEvent.selects (e : HalEvent P) : Option (UInt32 × String) :=
  match e.call with
  | .setActiveGroup gid storePath =>
      if groupSet e.meets e.pre gid then some (gid, storePath) else none
  | _ => none

/-- The group and the path that are active after a history. -/
def activeAfter : List (HalEvent P) → Option (UInt32 × String)
  | [] => none
  | e :: past =>
      match e.selects with
      | some selected => some selected
      | none => activeAfter past

/-- An event stores a database in the file that groups are loaded from. -/
def HalEvent.stores (e : HalEvent P) : Bool :=
  e.result.stores != e.pre.stores && e.pre.currentDbFile == templateFile

/-- The database that was last stored, with what was active. -/
def lastStored : List (HalEvent P) → Option (Option (UInt32 × String) × Option FingerprintDatabase)
  | [] => none
  | e :: past => if e.stores then some (activeAfter past, e.result.stored) else lastStored past

/-- The database that was last stored while a path was active. -/
def storedUnder (storePath : String) : List (HalEvent P) → Option FingerprintDatabase
  | [] => none
  | e :: past =>
      if e.stores && (activeAfter past).map Prod.snd == some storePath then e.result.stored
      else storedUnder storePath past

/-! ## Isolation -/

/-- A database is loaded: the stored one, or one without fingers where none is stored. -/
def LoadedFrom (stored userDb : Option FingerprintDatabase) : Prop :=
  match stored with
  | some db => userDb = some db
  | none => setKeyOf userDb = none

/-- What a group that is selected gets, and that its enrolments are under its own key and not
rejected for the set of another group. -/
structure Isolated (history : List (HalEvent P)) (hal : Hal) : Prop where
  loaded : ∀ e past gid storePath, history = e :: past → e.selects = some (gid, storePath) →
    LoadedFrom (storedUnder storePath past) hal.userDb
  accepted : ∀ (m : Meets P) hat started touched, startEnrol m { hal with hat := hat } = .ok (0, started) →
    enrolTouches m m.sensor started = .ok (some (.completed, touched)) →
      ¬ RejectsKey touched.userDb touched.tee.ta.bio.activeSetKey ∧
        ∀ gid storePath, activeAfter history = some (gid, storePath) →
          touched.tee.ta.bio.activeSetKey = gid

/-- The database has no set, or one under the key. -/
def OneGroup (pDb : Option FingerprintDatabase) (key : UInt32) : Prop := ¬ RejectsKey pDb key

/-- Where an event selects a group, the database that was last stored was stored while the path of the
group was active, and has no set of another group. -/
def KeepsApart (past : List (HalEvent P)) (e : HalEvent P) : Prop :=
  ∀ gid storePath, e.selects = some (gid, storePath) → ∀ active db, lastStored past = some (active, db) →
    active.map Prod.snd = some storePath ∧ OneGroup db gid

/-- All events of a history do. -/
def AllApart : List (HalEvent P) → Prop
  | [] => True
  | e :: past => AllApart past ∧ KeepsApart past e

/-- A path that was active at the last store has the database that was stored. Induction on the
history. -/
theorem storedUnder_of_lastStored {history : List (HalEvent P)} {storePath : String}
    (h : ∀ active db, lastStored history = some (active, db) → active.map Prod.snd = some storePath) :
    storedUnder storePath history = (lastStored history).bind Prod.snd := by
  induction history with
  | nil => rfl
  | cons e past ih =>
    unfold storedUnder lastStored
    unfold lastStored at h
    cases hstores : e.stores with
    | true =>
      rw [hstores, if_pos rfl] at h
      have hactive := h _ _ rfl
      rw [hactive]
      simp
    | false =>
      rw [hstores, if_neg (by decide)] at h
      rw [Bool.false_and, if_neg (by decide), if_neg (by decide)]
      exact ih h

end

/-! ## What the other calls do to the files -/

theorem oneGroup_of_none {pDb : Option FingerprintDatabase} {key : UInt32} (h : setKeyOf pDb = none) :
    OneGroup pDb key := by
  rintro ⟨k, hk, _⟩
  rw [h] at hk
  cases hk

/-- A set under another key is not brought in. -/
theorem OneGroup.of_setKey {pDb pDb' : Option FingerprintDatabase} {key : UInt32} (h : OneGroup pDb key)
    (hset : ∀ k, setKeyOf pDb' = some k → setKeyOf pDb = some k ∨ k = key) : OneGroup pDb' key := by
  rintro ⟨k, hk, hne⟩
  rcases hset k hk with hold | hkey
  · exact h ⟨k, hold, hne⟩
  · exact hne hkey

/-- The database of the application and the stored one are of the active group. -/
structure Hal.OfActive (hal : Hal) : Prop where
  userDb : OneGroup hal.userDb hal.tee.ta.bio.activeSetKey
  stored : OneGroup hal.stored hal.tee.ta.bio.activeSetKey

/-- What a call does that selects no group: it stores in the current file alone, and keeps the
databases of the active group. -/
structure Hal.Stays (hal hal' : Hal) : Prop where
  currentDbFile : hal'.currentDbFile = hal.currentDbFile
  activeSetKey : hal'.tee.ta.bio.activeSetKey = hal.tee.ta.bio.activeSetKey
  elsewhere : ∀ file, file ≠ hal.currentDbFile → hal'.files file = hal.files file
  stores : hal.stores ≤ hal'.stores
  unstored : hal'.stores = hal.stores → hal'.files = hal.files
  ofActive : hal.OfActive → hal'.OfActive

theorem Hal.Stays.refl (hal : Hal) : hal.Stays hal :=
  { currentDbFile := rfl
    activeSetKey := rfl
    elsewhere := fun _ _ => rfl
    stores := Nat.le_refl _
    unstored := fun _ => rfl
    ofActive := id }

theorem Hal.Stays.trans {h₁ h₂ h₃ : Hal} (h : h₁.Stays h₂) (h' : h₂.Stays h₃) : h₁.Stays h₃ where
  currentDbFile := h'.currentDbFile.trans h.currentDbFile
  activeSetKey := h'.activeSetKey.trans h.activeSetKey
  elsewhere := by
    intro file hne
    rw [h'.elsewhere file (by rw [h.currentDbFile]; exact hne), h.elsewhere file hne]
  stores := Nat.le_trans h.stores h'.stores
  unstored := by
    intro hsame
    have hfirst := h.stores
    have hsecond := h'.stores
    rw [h'.unstored (by omega), h.unstored (by omega)]
  ofActive hactive := h'.ofActive (h.ofActive hactive)

/-- The files stay, and the application gets a database of the active group. -/
theorem Hal.stays_of_files {hal hal' : Hal} (hfile : hal'.currentDbFile = hal.currentDbFile)
    (hfiles : hal'.files = hal.files) (hstores : hal'.stores = hal.stores)
    (hkey : hal'.tee.ta.bio.activeSetKey = hal.tee.ta.bio.activeSetKey)
    (hdb : hal.OfActive → OneGroup hal'.userDb hal.tee.ta.bio.activeSetKey) : hal.Stays hal' where
  currentDbFile := hfile
  activeSetKey := hkey
  elsewhere file _ := by rw [hfiles]
  stores := Nat.le_of_eq hstores.symm
  unstored _ := hfiles
  ofActive hactive := by
    constructor
    · rw [hkey]
      exact hdb hactive
    · rw [hkey, Hal.stored, hfiles, hfile]
      exact hactive.stored

theorem Hal.stays_withTee {hal : Hal} {tee : Tee} (h : hal.tee.Kept tee) : hal.Stays (hal.withTee tee) :=
  Hal.stays_of_files rfl rfl rfl h.activeSetKey fun hactive =>
    hactive.userDb.of_setKey fun k hk => Or.inl (h.ids.setKey k hk)

theorem Hal.stays_keptInFile (hal : Hal) : hal.Stays hal.keptInFile where
  currentDbFile := rfl
  activeSetKey := rfl
  elsewhere file hne := Function.update_of_ne hne ..
  stores := Nat.le_succ _
  unstored hsame := absurd hsame (by simp [Hal.keptInFile])
  ofActive hactive := by
    refine ⟨hactive.userDb, ?_⟩
    rw [Hal.stored_keptInFile]
    exact hactive.userDb

theorem Hal.Move.stays {hal hal' : Hal} (h : hal.Move hal') : hal.Stays hal' := by
  cases h with
  | noted _ _ _ _ => exact Hal.stays_of_files rfl rfl rfl rfl fun hactive => hactive.userDb
  | asked _ hkept => exact Hal.stays_withTee hkept
  | stored => exact hal.stays_keptInFile

/-- Induction on the moves. -/
theorem Hal.Moves.stays {hal hal' : Hal} (h : hal.Moves hal') : hal.Stays hal' := by
  induction h with
  | refl => exact Hal.Stays.refl hal
  | tail _ hmove ih => exact ih.trans hmove.stays

theorem Hal.Kept.stays {hal hal' : Hal} (h : hal.Kept hal') : hal.Stays hal' :=
  Hal.stays_of_files h.currentDbFile h.files h.stores h.db.activeSetKey fun hactive => by
    rw [h.userDb]
    exact hactive.userDb

section

variable {P : Platform} {m : Meets P} {hal hal' : Hal} {status : Int}

/-- A load leaves the files and the active set, and its database is of the active group where the
stored one is. -/
theorem loadTemplateDb_stays (hbuffer : sizeofBioCommand ≤ hal.tee.sharedBuffer.length)
    (h : loadTemplateDb m hal = .ok (status, hal')) : hal.Stays hal' := by
  unfold loadTemplateDb at h
  split at h
  · rcases bind_eq_ok.mp h with ⟨⟨loaded, tee⟩, hload, h⟩
    cases h
    cases (fpcTeeLoadEmptyDb_commanded (m.tacOf_reaches _) hbuffer hload).1 with
    | lost _ _ hta =>
      refine Hal.stays_of_files rfl rfl rfl (by rw [Hal.withTee, hta]) fun hactive => ?_
      rw [Hal.userDb, Hal.withTee, hta]
      exact hactive.userDb
    | emptied _ hset _ hkey _ =>
      exact Hal.stays_of_files rfl rfl rfl hkey fun _ => oneGroup_of_none hset
  · next db hstored =>
    split at h
    · cases h
      refine Hal.stays_of_files rfl rfl rfl rfl fun hactive => ?_
      rw [show (hal.withTee (hal.tee.withUserDb (some db))).userDb = hal.stored from hstored.symm]
      exact hactive.stored
    · split at h
      · cases h
        exact Hal.stays_of_files rfl rfl rfl rfl fun _ => oneGroup_of_none rfl
      · cases h
        exact .refl _

/-- A load that returns 0 has loaded what is stored. -/
theorem loadTemplateDb_loaded (hbuffer : sizeofBioCommand ≤ hal.tee.sharedBuffer.length)
    (h : loadTemplateDb m hal = .ok (0, hal')) : LoadedFrom hal.stored hal'.userDb := by
  unfold loadTemplateDb at h
  unfold LoadedFrom
  split at h
  · next hnone =>
    rw [hnone]
    rcases bind_eq_ok.mp h with ⟨⟨loaded, tee⟩, hload, h⟩
    cases h
    cases (fpcTeeLoadEmptyDb_commanded (m.tacOf_reaches _) hbuffer hload).1 with
    | lost _ hstatus _ => cases hstatus
    | emptied _ hset _ _ _ => exact hset
  · next db hsome =>
    rw [hsome]
    split at h
    · cases h
      rfl
    · next hload =>
      split at h
      · rcases Prod.mk.inj (Outcome.ok.inj h) with ⟨hzero, _⟩
        exact absurd hzero (toInt_ne_zero hload)
      · rcases Prod.mk.inj (Outcome.ok.inj h) with ⟨hzero, _⟩
        exact absurd hzero (toInt_ne_zero hload)

theorem completeEnrol_stays (hbuffer : sizeofBioCommand ≤ hal.tee.sharedBuffer.length)
    (h : completeEnrol m hal = .ok (status, hal')) : hal.Stays hal' := by
  rcases bind_eq_ok.mp h with ⟨⟨ended, id, tee⟩, hended, _⟩
  have hbuf : sizeofBioCommand ≤ (hal.withTee tee).tee.sharedBuffer.length := by
    show sizeofBioCommand ≤ tee.sharedBuffer.length
    rw [(fpcTeeEndEnrol_commanded (m.tacOf_reaches _) hbuffer hended).2.2]
    exact hbuffer
  -- a set that the enrolment makes is under the active key
  rcases fpcTeeEndEnrol_setKey (m.tacOf_reaches _) hbuffer hended with ⟨hkey, hset⟩
  have hadded : hal.Stays (hal.withTee tee) :=
    Hal.stays_of_files rfl rfl rfl hkey fun hactive => hactive.userDb.of_setKey hset
  have hstored := hadded.trans (Hal.Moves.refl (hal.withTee tee)).keptInFile.stays
  cases completeEnrol_completed hended h with
  | failed _ => exact hadded
  | unstored loaded reached _ _ hload => exact hadded.trans (loadTemplateDb_stays hbuf hload)
  | deleted deleted tee' _ _ _ hdelete =>
    have hdeleted := hstored.trans (Hal.stays_withTee
      (fpcTeeDeleteTemplate_kept (m.tacOf_reaches _) hbuf hdelete))
    exact hdeleted.trans (@storeTemplateDb_moves _ m _ 1).stays
  | reported asked dbId tee' _ _ _ hask =>
    rcases fpcTeeGetTemplateDbId_commanded (m.tacOf_reaches _) hbuf hask with ⟨hsame, _, hlen⟩
    refine hstored.trans (Hal.stays_of_files rfl rfl rfl hsame.activeSetKey fun hactive => ?_)
    show OneGroup tee'.ta.bio.userDb _
    rw [hsame.userDb]
    exact hactive.userDb

theorem doEnroll_stays (hbuffer : sizeofBioCommand ≤ hal.tee.sharedBuffer.length)
    (h : doEnroll m hal = .ok (some hal')) : hal.Stays hal' := by
  cases doEnroll_ended hbuffer h with
  | left status reached htouched _ hend =>
    rw [hend]
    exact htouched.kept.stays.trans (reportEnrol_touched reached status).kept.stays
  | completed status ended answered touched reached tee htouched _ _ hcomplete hend =>
    rw [hend]
    exact (htouched.kept.stays.trans (completeEnrol_stays (htouched.buffer hbuffer) hcomplete)).trans
      (reportEnrol_touched reached status).kept.stays

theorem doRemove_stays (hbuffer : sizeofBioCommand ≤ hal.tee.sharedBuffer.length)
    (h : doRemove m hal = .ok hal') : hal.Stays hal' := by
  cases doRemove_ended hbuffer h with
  | removed hmoves _ => exact hmoves.stays
  | failed failed status hmoves _ hload =>
    have hreported := hmoves.callback (.onError halCompatErrorUnableToRemove)
    exact hreported.stays.trans (loadTemplateDb_stays (hreported.buffer hbuffer) hload)

/-- The calls other than `fpc_set_active_group`. -/
def HalCall.selectsNone : HalCall → Bool
  | .setActiveGroup _ _ => false
  | _ => true

theorem halCall_stays {call : HalCall} (hbuffer : sizeofBioCommand ≤ hal.tee.sharedBuffer.length)
    (hcall : call.selectsNone = true) (h : halCall m hal call = .ok (some (status, hal'))) :
    hal.Stays hal' := by
  cases honly : call.onlyMoves with
  | true => exact (halCall_moves hbuffer honly h).stays
  | false =>
    cases call with
    | setActiveGroup _ _ => cases hcall
    | enroll hat gid =>
      unfold halCall fpcEnroll at h
      dsimp only at h
      split at h
      · cases h
        exact .refl _
      · split at h
        · cases h
          exact .refl _
        · rcases bind_eq_ok.mp h with ⟨ended, henroll, h⟩
          injection h with h
          rcases Option.map_eq_some_iff.mp h with ⟨reached, rfl, hreturned⟩
          cases hreturned
          have hhat : hal.Stays { hal with hat := hat } :=
            (Hal.Move.noted hal hal.challenge hal.removeFid hat hal.callbacks).stays
          exact hhat.trans (doEnroll_stays hbuffer henroll)
    | remove gid fid =>
      rcases bind_eq_ok.mp h with ⟨⟨returned, reached⟩, hremove, h⟩
      cases h
      unfold fpcRemove at hremove
      split at hremove
      · cases hremove
        exact .refl _
      · rcases bind_eq_ok.mp hremove with ⟨removed, hremove, hreturned⟩
        cases hreturned
        have hfid : hal.Stays { hal with removeFid := fid } :=
          (Hal.Move.noted hal hal.challenge fid hal.hat hal.callbacks).stays
        exact hfid.trans (doRemove_stays hbuffer hremove)
    | preEnroll => cases honly
    | postEnroll => cases honly
    | cancel => cases honly
    | authenticate _ _ => cases honly
    | enumerate => cases honly

/-! ## What a selection does -/

/-- A call of `fpc_set_active_group` sets the group exactly when it gets as far as to ask for the id. -/
theorem groupSet_eq_true {gid : UInt32} {loaded : Hal} {setting : Int} {tee : Tee}
    (hload : loadTemplateDb m { hal with currentDbFile := templateFile } = .ok (0, loaded))
    (hset : fpcTeeSetGid (m.tacOf loaded.tee) m.envs loaded.tee gid = .ok (setting, tee)) :
    groupSet m hal gid = (setting == 0) := by
  unfold groupSet
  rw [hload]
  dsimp only
  rw [if_pos rfl, hset]

theorem groupSet_eq_false {gid : UInt32} {loading : Int}
    (hload : loadTemplateDb m { hal with currentDbFile := templateFile } = .ok (loading, hal'))
    (hne : loading ≠ 0) : groupSet m hal gid = false := by
  unfold groupSet
  rw [hload]
  dsimp only
  rw [if_neg hne]

/-- What the device holds in a run of the groups: the file has what was last stored, an active group
has its file and its key, and the databases are of the active group. -/
structure GroupsHold (history : List (HalEvent P)) (hal : Hal) : Prop where
  file : hal.files templateFile = (lastStored history).bind Prod.snd
  current : ∀ gid storePath, activeAfter history = some (gid, storePath) →
    hal.currentDbFile = templateFile ∧ hal.tee.ta.bio.activeSetKey = gid
  ofActive : hal.OfActive
  group : OneGroup (hal.files templateFile) hal.tee.ta.bio.activeSetKey

theorem loadTemplateDb_files (h : loadTemplateDb m hal = .ok (status, hal')) :
    hal'.files = hal.files ∧ hal'.stores = hal.stores := by
  unfold loadTemplateDb at h
  split at h
  · rcases bind_eq_ok.mp h with ⟨_, _, h⟩
    cases h
    exact ⟨rfl, rfl⟩
  · split at h
    · cases h
      exact ⟨rfl, rfl⟩
    · split at h
      · cases h
        exact ⟨rfl, rfl⟩
      · cases h
        exact ⟨rfl, rfl⟩

/-- A call that selects no group keeps what the device holds. -/
theorem groupsHold_stays {past : List (HalEvent P)} {e : HalEvent P}
    (hpast : GroupsHold past e.pre) (hstays : e.pre.Stays e.result) (hselects : e.selects = none) :
    GroupsHold (e :: past) e.result := by
  have hactive : activeAfter (e :: past) = activeAfter past := by
    unfold activeAfter
    rw [hselects]
    cases past <;> rfl
  have hofActive := hstays.ofActive hpast.ofActive
  -- the file that groups are loaded from is the current one, or it stays
  have hfile : e.pre.currentDbFile = templateFile ∧ e.result.files templateFile = e.result.stored ∨
      e.pre.currentDbFile ≠ templateFile ∧
        e.result.files templateFile = e.pre.files templateFile := by
    by_cases hcurrent : e.pre.currentDbFile = templateFile
    · left
      rw [Hal.stored, hstays.currentDbFile, hcurrent]
      exact ⟨rfl, rfl⟩
    · exact Or.inr ⟨hcurrent, hstays.elsewhere _ fun heq => hcurrent heq.symm⟩
  constructor
  · unfold lastStored
    cases hstores : e.stores with
    | true =>
      have hwas := (Bool.and_eq_true_iff.mp hstores).2
      rcases hfile with ⟨_, hsame⟩ | ⟨hne, _⟩
      · rw [if_pos rfl, hsame]
        rfl
      · exact absurd (beq_iff_eq.mp hwas) hne
    | false =>
      rw [if_neg (by decide), ← hpast.file]
      rcases hfile with ⟨hcurrent, _⟩ | ⟨_, hsame⟩
      · unfold HalEvent.stores at hstores
        rw [hcurrent, beq_self_eq_true, Bool.and_true, bne_eq_false_iff_eq] at hstores
        rw [hstays.unstored hstores]
      · exact hsame
  · intro gid storePath hsome
    rw [hactive] at hsome
    rw [hstays.currentDbFile, hstays.activeSetKey]
    exact hpast.current gid storePath hsome
  · exact hofActive
  · rcases hfile with ⟨_, hsame⟩ | ⟨_, hsame⟩
    · rw [hsame]
      exact hofActive.stored
    · rw [hsame, hstays.activeSetKey]
      exact hpast.group

/-- An event that stores nothing leaves what was last stored. -/
theorem lastStored_of_stores {past : List (HalEvent P)} {e : HalEvent P}
    (h : e.result.stores = e.pre.stores) : lastStored (e :: past) = lastStored past := by
  have hstores : e.stores = false := by
    unfold HalEvent.stores
    rw [h, bne_self_eq_false, Bool.false_and]
  unfold lastStored
  rw [hstores, if_neg (by decide)]
  cases past <;> rfl

/-- A call of `fpc_set_active_group` that sets no group. -/
theorem groupsHold_unselected {past : List (HalEvent P)} {e : HalEvent P}
    (hpast : GroupsHold past e.pre) (hselects : e.selects = none)
    (hstays : Hal.Stays { e.pre with currentDbFile := templateFile } e.result)
    (hfiles : e.result.files = e.pre.files) (hstores : e.result.stores = e.pre.stores) :
    GroupsHold (e :: past) e.result := by
  have hactive : activeAfter (e :: past) = activeAfter past := by
    unfold activeAfter
    rw [hselects]
    cases past <;> rfl
  constructor
  · rw [lastStored_of_stores hstores, hfiles]
    exact hpast.file
  · intro gid storePath hsome
    rw [hactive] at hsome
    rw [hstays.currentDbFile, hstays.activeSetKey]
    exact ⟨rfl, (hpast.current gid storePath hsome).2⟩
  · exact hstays.ofActive ⟨hpast.ofActive.userDb, hpast.group⟩
  · rw [hfiles, hstays.activeSetKey]
    exact hpast.group

/-- A call that sets the group. -/
theorem groupsHold_selected {past : List (HalEvent P)} {e : HalEvent P} {gid : UInt32}
    {storePath : String} (hpast : GroupsHold past e.pre) (hselects : e.selects = some (gid, storePath))
    (hapart : KeepsApart past e)
    (hloaded : LoadedFrom (e.pre.files templateFile) e.result.userDb)
    (hfile : e.result.currentDbFile = templateFile) (hkey : e.result.tee.ta.bio.activeSetKey = gid)
    (hfiles : e.result.files = e.pre.files) (hstores : e.result.stores = e.pre.stores) :
    GroupsHold (e :: past) e.result := by
  have hgroup : OneGroup (e.pre.files templateFile) gid := by
    rw [hpast.file]
    cases hlast : lastStored past with
    | none => exact oneGroup_of_none rfl
    | some last => exact (hapart gid storePath hselects last.1 last.2 hlast).2
  have huserDb : OneGroup e.result.userDb gid := by
    unfold LoadedFrom at hloaded
    split at hloaded
    · next db hstored =>
      rw [hloaded, ← hstored]
      exact hgroup
    · exact oneGroup_of_none hloaded
  constructor
  · rw [lastStored_of_stores hstores, hfiles]
    exact hpast.file
  · intro gid' storePath' hsome
    unfold activeAfter at hsome
    rw [hselects] at hsome
    cases hsome
    exact ⟨hfile, hkey⟩
  · refine ⟨by rw [hkey]; exact huserDb, ?_⟩
    rw [hkey, Hal.stored, hfiles, hfile]
    exact hgroup
  · rw [hkey, hfiles]
    exact hgroup

/-- What a call of `fpc_set_active_group` leaves, for a past that keeps the groups apart. -/
theorem groupsHold_setActiveGroup {past : List (HalEvent P)} {e : HalEvent P} {gid : UInt32}
    {storePath : String} (hbuffer : sizeofBioCommand ≤ e.pre.tee.sharedBuffer.length)
    (hpast : GroupsHold past e.pre) (hcall : e.call = .setActiveGroup gid storePath)
    (hapart : KeepsApart past e)
    (h : fpcSetActiveGroup e.meets e.pre gid storePath = .ok (e.status, e.result)) :
    GroupsHold (e :: past) e.result ∧ ∀ selected, e.selects = some selected →
      LoadedFrom (e.pre.files templateFile) e.result.userDb := by
  have hselects : e.selects = if groupSet e.meets e.pre gid then some (gid, storePath) else none := by
    unfold HalEvent.selects
    rw [hcall]
  cases fpcSetActiveGroup_ended h with
  | unloaded loading hload hne _ =>
    rw [groupSet_eq_false hload hne, if_neg (by decide)] at hselects
    rcases loadTemplateDb_files hload with ⟨hfiles, hstores⟩
    have hstays := @loadTemplateDb_stays _ e.meets { e.pre with currentDbFile := templateFile } _ _
      hbuffer hload
    refine ⟨groupsHold_unselected hpast hselects hstays hfiles hstores, ?_⟩
    intro selected hsome
    rw [hselects] at hsome
    cases hsome
  | unset loaded setting tee hload hset hne _ hend =>
    rw [groupSet_eq_true hload hset, beq_false_of_ne hne, if_neg (by decide)] at hselects
    have hbuf := @loadTemplateDb_buffer _ e.meets { e.pre with currentDbFile := templateFile } _ _
      hbuffer hload
    rcases loadTemplateDb_files hload with ⟨hfiles, hstores⟩
    rcases fpcTeeSetGid_active (e.meets.tacOf_reaches _) hbuf hset with ⟨hdb, _, hkey, _⟩
    have hstays := @loadTemplateDb_stays _ e.meets { e.pre with currentDbFile := templateFile } _ _
      hbuffer hload
    have hunset : loaded.Stays (loaded.withTee tee) :=
      Hal.stays_of_files rfl rfl rfl (hkey hne) fun hactive => by
        rw [Hal.userDb, Hal.withTee, hdb]
        exact hactive.userDb
    rw [hend]
    refine ⟨?_, ?_⟩
    · have hheld := @groupsHold_unselected _ past e hpast hselects (by rw [hend]; exact hstays.trans hunset)
        (by rw [hend]; exact hfiles) (by rw [hend]; exact hstores)
      rwa [hend] at hheld
    · intro selected hsome
      rw [hselects] at hsome
      cases hsome
  | selected loaded tee asked dbId tee' hload hset hask _ hend =>
    rw [groupSet_eq_true hload hset, beq_self_eq_true, if_pos rfl] at hselects
    have hbuf := @loadTemplateDb_buffer _ e.meets { e.pre with currentDbFile := templateFile } _ _
      hbuffer hload
    rcases loadTemplateDb_files hload with ⟨hfiles, hstores⟩
    rcases fpcTeeSetGid_active (e.meets.tacOf_reaches _) hbuf hset with ⟨hdb, hkey, _, hlen⟩
    have hsame := (fpcTeeGetTemplateDbId_commanded (e.meets.tacOf_reaches _)
      (by rw [hlen]; exact hbuf) hask).1
    have hfile := (@loadTemplateDb_stays _ e.meets { e.pre with currentDbFile := templateFile } _ _
      hbuffer hload).currentDbFile
    have hloaded : LoadedFrom (e.pre.files templateFile) e.result.userDb := by
      have hfrom := @loadTemplateDb_loaded _ e.meets { e.pre with currentDbFile := templateFile } _
        hbuffer hload
      rw [hend]
      show LoadedFrom _ tee'.ta.bio.userDb
      rw [hsame.userDb, hdb]
      exact hfrom
    refine ⟨groupsHold_selected hpast hselects hapart hloaded ?_ ?_ ?_ ?_, fun _ _ => hloaded⟩
    · rw [hend]
      exact hfile
    · rw [hend]
      show tee'.ta.bio.activeSetKey = gid
      rw [hsame.activeSetKey, hkey rfl]
    · rw [hend]
      exact hfiles
    · rw [hend]
      exact hstores

/-! ## Runs -/

theorem setKeyOf_fpcTaRouterInit {env : Env} {ta : Ta} (h : fpcTaRouterInit env = .ok ta) :
    setKeyOf ta.bio.userDb = none := by
  rcases fpcTaRouterInit_ok h with ⟨db, hcreate, hdb, _⟩
  rcases bind_eq_ok.mp hcreate with ⟨addr, _, hcreate⟩
  cases hcreate
  rw [hdb]
  unfold dbUpdateDatabaseId
  dsimp only
  split <;> rfl

theorem groupsHold_init (h : Opened (fun _ => none) hal) : GroupsHold ([] : List (HalEvent P)) hal := by
  rcases h.db with ⟨env, ta, hinit, hsame⟩
  have hnone : ∀ file, hal.files file = none := by
    intro file
    rw [h.files]
  constructor
  · exact hnone templateFile
  · intro gid storePath hsome
    cases hsome
  · constructor
    · apply oneGroup_of_none
      rw [Hal.userDb, hsame.userDb, setKeyOf_fpcTaRouterInit hinit]
    · apply oneGroup_of_none
      rw [Hal.stored, hnone]
      rfl
  · apply oneGroup_of_none
    rw [hnone]
    rfl

/-- Every run that keeps the groups apart holds what it should, and a group that it selects last gets
what is stored. Induction on the run. -/
theorem groupsHold_of_run {history : List (HalEvent P)}
    (hrun : (halSystem P fun _ => none).Run history hal) (hapart : AllApart history) :
    GroupsHold history hal ∧ ∀ e past, history = e :: past → ∀ selected, e.selects = some selected →
      LoadedFrom (e.pre.files templateFile) hal.userDb := by
  induction hrun with
  | init hopened =>
    refine ⟨groupsHold_init hopened, ?_⟩
    intro e past hcons
    cases hcons
  | @step past s s' e hrun hstep ih =>
    have hbuffer := halSystem_buffer hrun
    have hpast := (ih hapart.1).1
    rcases hstep with ⟨rfl, hcalled, rfl⟩
    cases hnone : e.call.selectsNone with
    | true =>
      have hselects : e.selects = none := by
        unfold HalEvent.selects
        cases hcall : e.call with
        | setActiveGroup gid storePath =>
          rw [hcall] at hnone
          cases hnone
        | preEnroll => rfl
        | postEnroll => rfl
        | enroll hat gid => rfl
        | cancel => rfl
        | authenticate operationId gid => rfl
        | remove gid fid => rfl
        | enumerate => rfl
      refine ⟨groupsHold_stays hpast (halCall_stays hbuffer hnone hcalled) hselects, ?_⟩
      intro e' past' hcons selected hsome
      cases hcons
      rw [hselects] at hsome
      cases hsome
    | false =>
      cases hcall : e.call with
      | setActiveGroup gid storePath =>
        rw [hcall] at hcalled
        rcases bind_eq_ok.mp hcalled with ⟨⟨returned, reached⟩, hset, hreturned⟩
        cases hreturned
        rcases groupsHold_setActiveGroup hbuffer hpast hcall hapart.2 hset with ⟨hheld, hloaded⟩
        refine ⟨hheld, ?_⟩
        intro e' past' hcons selected hsome
        cases hcons
        exact hloaded selected hsome
      | preEnroll => rw [hcall] at hnone; cases hnone
      | postEnroll => rw [hcall] at hnone; cases hnone
      | enroll hat gid => rw [hcall] at hnone; cases hnone
      | cancel => rw [hcall] at hnone; cases hnone
      | authenticate operationId gid => rw [hcall] at hnone; cases hnone
      | remove gid fid => rw [hcall] at hnone; cases hnone
      | enumerate => rw [hcall] at hnone; cases hnone

/-- **The groups of a run are isolated, where it keeps them apart.** -/
theorem groups_isolated {history : List (HalEvent P)}
    (hrun : (halSystem P fun _ => none).Run history hal) (hapart : AllApart history) :
    Isolated history hal := by
  rcases groupsHold_of_run hrun hapart with ⟨hheld, hloaded⟩
  have hbuffer := halSystem_buffer hrun
  constructor
  · rintro e past gid storePath rfl hselects
    have hpast : GroupsHold past e.pre := by
      cases hrun with
      | step hrun hstep =>
        rw [hstep.1]
        exact (groupsHold_of_run hrun hapart.1).1
    rw [storedUnder_of_lastStored fun active db hlast =>
      (hapart.2 gid storePath hselects active db hlast).1, ← hpast.file]
    exact hloaded e past rfl _ hselects
  · intro m hat started touched hstart htouches
    have hstarted := startEnrol_touched (show sizeofBioCommand
      ≤ { hal with hat := hat }.tee.sharedBuffer.length from hbuffer) hstart
    have htouched := hstarted.trans (enrolTouches_touched (hstarted.buffer hbuffer) htouches)
    have hkept : SameDb hal.tee.ta touched.tee.ta := htouched.kept.db
    rw [Hal.userDb, hkept.userDb, hkept.activeSetKey]
    exact ⟨hheld.ofActive.userDb, fun gid storePath hsome => (hheld.current gid storePath hsome).2⟩

end

/-! ## Two runs -/

instance (pDb : Option FingerprintDatabase) (key : UInt32) : Decidable (RejectsKey pDb key) :=
  decidable_of_iff (∃ k ∈ setKeyOf pDb, k ≠ key) Iff.rfl

instance (pDb : Option FingerprintDatabase) (key : UInt32) : Decidable (OneGroup pDb key) :=
  inferInstanceAs (Decidable (¬ _))

instance {P : Platform} (past : List (HalEvent P)) (e : HalEvent P) : Decidable (KeepsApart past e) :=
  decidable_of_iff (∀ s ∈ e.selects, ∀ l ∈ lastStored past,
    l.1.map Prod.snd = some s.2 ∧ OneGroup l.2 s.1)
    ⟨fun h gid storePath hselects active db hlast => h (gid, storePath) hselects (active, db) hlast,
      fun h _ hselects _ hlast => h _ _ hselects _ _ hlast⟩

instance allApartDecidable {P : Platform} :
    (history : List (HalEvent P)) → Decidable (AllApart history)
  | [] => isTrue trivial
  | _ :: past => @instDecidableAnd _ _ (allApartDecidable past) inferInstance

instance (ta ta' : Ta) : Decidable (SameDb ta ta') :=
  decidable_of_iff (ta'.bio.userDb = ta.bio.userDb ∧ ta'.bio.activeSetKey = ta.bio.activeSetKey)
    ⟨fun h => ⟨h.1, h.2⟩, fun h => ⟨h.userDb, h.activeSetKey⟩⟩

/-- Calls made one after the other, each meeting the same. -/
def makeCalls {P : Platform} (m : Meets P) :
    List HalCall → List (HalEvent P) → Hal → Outcome (Option (List (HalEvent P) × Hal))
  | [], history, hal => .ok (some (history, hal))
  | call :: rest, history, hal => do
      match ← halCall m hal call with
      | none => .ok none
      | some (status, hal') => makeCalls m rest (⟨call, m, hal, status, hal'⟩ :: history) hal'

theorem makeCalls_run {P : Platform} {m : Meets P} {files : String → Option FingerprintDatabase}
    {calls : List HalCall} {history history' : List (HalEvent P)} {hal hal' : Hal}
    (hrun : (halSystem P files).Run history hal)
    (h : makeCalls m calls history hal = .ok (some (history', hal'))) :
    (halSystem P files).Run history' hal' := by
  induction calls generalizing history hal with
  | nil =>
    cases h
    exact hrun
  | cons call rest ih =>
    rcases bind_eq_ok.mp h with ⟨returned, hcall, h⟩
    cases returned with
    | none => cases h
    | some returned => exact ih (.step hrun ⟨rfl, hcall, rfl⟩) h

/-- What calls meet of which the third is an enrolment. -/
def sampleSwitch : Meets samplePlatform where
  tac _ := sampleTac
  reaches := sampleTac_delivers_each
  envs n := sampleEnrolEnvs (n - 4)
  sensor := [0]
  cancelled := false
  store _ := 0
  load := 0
  loadDrops := false

/-- The state of the application after `fpc_hal_open`, which gives it a key, and before. -/
def sampleKeyed : Outcome (Ta × Ta) := do
  let ta ← fpcTaRouterInit .willing
  let keyed ← execute samplePlatform [] ta (sampleTouches.take 1)
  .ok (ta, keyed.2)

/-- A finger is enrolled for group 10, and a group selected after it. -/
def sampleSwitchCalls (gid : UInt32) (storePath : String) : List HalCall :=
  [.setActiveGroup 10 "/p", .preEnroll, .enroll sampleToken.bytes 10, .setActiveGroup gid storePath]

/-- What is decided of calls holds of a run. -/
theorem sampleCalls_run (calls : List HalCall)
    (p : List (HalEvent samplePlatform) → Hal → Prop) [∀ history hal, Decidable (p history hal)]
    (h : (sampleKeyed >>= fun k => .ok (decide (SameDb k.1 k.2 ∧
      (makeCalls sampleSwitch calls [] (sampleOpened k.2) >>= fun r =>
        .ok (decide (r.map (fun x => decide (p x.1 x.2)) = some true))) = .ok true))) = .ok true) :
    ∃ history hal, (halSystem samplePlatform fun _ => none).Run history hal ∧ p history hal := by
  rcases exists_of_decided _ h with ⟨⟨ta, keyed⟩, hkeyed, hsame, hcalls⟩
  rcases exists_of_decided _ hcalls with ⟨made, hmade, hdecided⟩
  rcases Option.map_eq_some_iff.mp hdecided with ⟨⟨history, hal⟩, rfl, hp⟩
  rcases bind_eq_ok.mp hkeyed with ⟨start, hinit, hkeyed⟩
  rcases bind_eq_ok.mp hkeyed with ⟨reached, _, hkeyed⟩
  cases hkeyed
  exact ⟨history, hal, makeCalls_run (.init (sampleOpened_opened hinit hsame)) hmade,
    of_decide_eq_true hp⟩

/-- The group is selected again, and gets its finger. -/
theorem sampleSwitch_isolated :
    ∃ history hal, (halSystem samplePlatform fun _ => none).Run history hal ∧
      Enrolled hal.userDb sampleFinger ∧ activeAfter history = some (10, "/p") ∧
        Isolated history hal := by
  rcases sampleCalls_run (sampleSwitchCalls 10 "/p") (fun history hal => AllApart history ∧
    Enrolled hal.userDb sampleFinger ∧ activeAfter history = some (10, "/p")) (by decide +kernel)
    with ⟨history, hal, hrun, hapart, hfinger, hactive⟩
  exact ⟨history, hal, hrun, hfinger, hactive, groups_isolated hrun hapart⟩

/-- Another group is selected, and gets the finger of the first. -/
theorem sampleSwitch_not_isolated :
    ∃ history hal, (halSystem samplePlatform fun _ => none).Run history hal ∧
      Enrolled hal.userDb sampleFinger ∧ activeAfter history = some (11, "/q") ∧
        RejectsKey hal.userDb hal.tee.ta.bio.activeSetKey ∧ ¬ Isolated history hal := by
  rcases sampleCalls_run (sampleSwitchCalls 11 "/q") (fun history hal => Enrolled hal.userDb sampleFinger ∧
    activeAfter history = some (11, "/q") ∧ RejectsKey hal.userDb hal.tee.ta.bio.activeSetKey ∧
      history.head?.map HalEvent.selects = some (some (11, "/q")) ∧
        storedUnder "/q" history.tail = none) (by decide +kernel)
    with ⟨history, hal, hrun, hfinger, hactive, hrejects, hselects, hnone⟩
  refine ⟨history, hal, hrun, hfinger, hactive, hrejects, ?_⟩
  intro hisolated
  rcases Option.map_eq_some_iff.mp hselects with ⟨e, hhead, hselected⟩
  rcases List.head?_eq_some_iff.mp hhead with ⟨past, rfl⟩
  have hloaded := hisolated.loaded e past 11 "/q" rfl hselected
  rw [List.tail_cons] at hnone
  rw [hnone] at hloaded
  rcases hfinger with ⟨hmem, _⟩
  rw [slots_of_setKeyOf hloaded] at hmem
  cases hmem

end Fpc
