import Fingerprints.Db.RoundTrip
import Fingerprints.Hal.Groups
import Fingerprints.Tac.KeptRecords

/-!
# Test captures of the engineering interface

`fpc_hal_ext_engineering.c`. The tasks `do_verify` and `do_enroll` of the engineering interface load
a database of their own into the application, and load the regular one in the end. Of that last load
the result is logged.

* **`restoreRegularDb_regular_iff`**: what the last load leaves, by what it meets;
* **`testVerify_tested`**: the fingers that a test verification leaves to it;
* **`testTask_regular_iff`**: the regular database is the active one when a task returns, but where
  the last load leaves the database of the application and that is the one of the test.
-/

namespace Fpc.Engineering

open Wire Wire.Outcome Runs

/-! ## The files -/

/-- `TEST_TEMPLATE_DB` -/
def testTemplateDb : String := "/data/fpc/test.db"

/-- What the load of a file meets: the transfer of the command where no file is stored, and the result
otherwise. A load that fails keeps the database of the application or drops it. -/
structure Loading (P : Platform) where
  tac : Tac
  reaches : tac.DeliversOrFails P
  load : Int32
  drops : Bool

/-- What a round of `capture_images` meets: the status of the injection where there is one, of the
capture, and of the two images that are fetched behind it. -/
structure Capture where
  injected : Option Int32
  captured : Int32
  raw : Int32
  enhanced : Int32

/-- What a task meets outside. The data of the capture are not initialised where it is left early, and
the images that are freed in the end are then whatever `stale` makes of them. -/
structure TestMeets (P : Platform) where
  tac : Nat → Tac
  reaches : ∀ n, (tac n).DeliversOrFails P
  envs : Nat → Env
  captures : List Capture
  save : Nat → Int32
  testLoad : Loading P
  regularLoad : Loading P
  stale : Outcome Unit

section

variable {P : Platform} (m : TestMeets P) (hal : Hal)

def TestMeets.tacOf (tee : Tee) : Tac := m.tac tee.messages

/-- `fpc_tee_load_template_db` -/
def loadDb (l : Loading P) (path : String) : Outcome (Int × Hal) :=
  match hal.files path with
  | none => do
      let (status, tee) ← fpcTeeLoadEmptyDb l.tac m.envs hal.tee
      .ok (status, hal.withTee tee)
  | some db =>
      if l.load = 0 then .ok (0, hal.withTee (hal.tee.withUserDb (some db)))
      else if l.drops then .ok (l.load.toInt, hal.withTee (hal.tee.withUserDb none))
      else .ok (l.load.toInt, hal)

/-- The device with the database of the application stored as the one of the test. -/
def keptAsTest : Hal :=
  { hal with files := Function.update hal.files testTemplateDb hal.userDb
             stores := hal.stores + 1 }

/-- `save_test_db`, the `n`th of the task. -/
def saveTestDb (n : Nat) : Int × Hal :=
  if m.save n = 0 then (0, keptAsTest hal) else ((m.save n).toInt, hal)

/-- `delete_test_db` -/
def deleteTestDb : Outcome (Int × Hal) := do
  let (status, tee) ← fpcTeeLoadEmptyDb (m.tacOf hal.tee) m.envs hal.tee
  if status ≠ 0 then .ok (status, hal.withTee tee) else .ok (saveTestDb m (hal.withTee tee) 0)

/-- `load_test_db` -/
def loadTestDb : Outcome (Int × Hal) := loadDb m hal m.testLoad testTemplateDb

/-- `restore_regular_db` -/
def restoreRegularDb : Outcome Hal := do
  let (_, hal) ← loadDb m hal m.regularLoad hal.currentDbFile
  .ok hal

/-! ## The tasks -/

/-- `capture_images` -/
def captureImages (c : Capture) : Int :=
  let status := (c.injected.getD c.captured).toInt
  if status = fpcCaptureOk then
    if c.raw.toInt ≠ 0 then c.raw.toInt else c.enhanced.toInt
  else status

/-- `do_verify` behind the load, up to the label `out`, where the capture ends. -/
def verifyImage : Outcome (Option Hal) :=
  match m.captures with
  | [] => .ok none
  | c :: _ =>
      if captureImages c ≠ 0 then .ok (some hal)
      else do
        let (status, _, tee) ← fpcTeeIdentify (m.tacOf hal.tee) m.envs hal.tee
        let hal := hal.withTee tee
        if status ≠ fpcCaptureOk then .ok (some hal)
        else do
          let (status, update, tee) ← fpcTeeUpdateTemplate (m.tacOf hal.tee) m.envs hal.tee
          let hal := hal.withTee tee
          if status ≠ 0 then .ok (some hal)
          else if update.getD 0 ≠ 0 then .ok (some (saveTestDb m hal 0).2)
          else .ok (some hal)

/-- `do_verify` up to the label `out`. -/
def testVerify : Outcome (Option Hal) := do
  let (status, hal) ← loadTestDb m hal
  if status ≠ 0 then do
    -- the data of the capture are behind this jump
    let _ ← m.stale
    .ok (some hal)
  else verifyImage m hal

/-- The loop of `do_enroll` over the rounds of `capture_images`, with the stores that were made, where
it is left. -/
def enrolImages : List Capture → (stores : Nat) → Hal → Outcome (Option Hal)
  | [], _, _ => .ok none
  | c :: rest, stores, hal =>
      let status := captureImages c
      if status = fpcCaptureQualifyAbort ∨ status = fpcCaptureFingerStuck ∨
          status = fpcCaptureFingerLost then enrolImages rest stores hal
      else if status ≠ fpcCaptureOk then .ok (some hal)
      else do
        let (status, remaining, tee) ← fpcTeeEnrol (m.tacOf hal.tee) m.envs hal.tee
        let hal := hal.withTee tee
        if status < 0 ∨ status = fpcEnrolFailedCouldNotComplete ∨
            status = fpcEnrolFailedAlreadyEnroled then .ok (some hal)
        else if status = fpcEnrolCompleted then do
          let (status, _, tee) ← fpcTeeEndEnrol (m.tacOf hal.tee) m.envs hal.tee
          let hal := hal.withTee tee
          if status ≠ 0 then .ok (some hal)
          else
            let (status, hal) := saveTestDb m hal stores
            if status ≠ 0 then .ok (some hal)
            else if remaining.getD 0 = 0 then .ok (some hal)
            else enrolImages rest (stores + 1) hal
        else if remaining.getD 0 = 0 then .ok (some hal)
        else enrolImages rest stores hal

/-- `do_enroll` up to the label `out`. -/
def testEnroll : Outcome (Option Hal) := do
  let (status, hal) ← deleteTestDb m hal
  if status ≠ 0 then do
    let _ ← m.stale
    .ok (some hal)
  else do
    let (_, hal) ← loadTestDb m hal
    let (status, tee) ← fpcTeeBeginEnrol (m.tacOf hal.tee) m.envs hal.tee
    let hal := hal.withTee tee
    if status ≠ 0 then .ok (some hal) else enrolImages m m.captures 1 hal

/-- `do_verify` -/
def doVerify : Outcome (Option Hal) := do
  match ← testVerify m hal with
  | none => .ok none
  | some hal => do
      let hal ← restoreRegularDb m hal
      .ok (some hal)

/-- `clear_enroll_challenge` -/
def clearEnrollChallenge : Outcome Hal := do
  let (_, _, tee) ← fpcTeeGetEnrolChallenge (m.tacOf hal.tee) m.envs hal.tee
  .ok (hal.withTee tee)

/-- `do_enroll` -/
def doEnroll : Outcome (Option Hal) := do
  match ← testEnroll m hal with
  | none => .ok none
  | some hal => do
      let hal ← restoreRegularDb m hal
      let hal ← clearEnrollChallenge m hal
      .ok (some hal)

/-- `fpc_capture_mode_t`, the modes with a database of their own. -/
inductive TestMode where
  | verify
  | enroll
  deriving DecidableEq, Repr

/-- A task of `start_capture`, where it ends. -/
def testTask : TestMode → Outcome (Option Hal)
  | .verify => doVerify m hal
  | .enroll => doEnroll m hal

/-- `set_enroll_token` -/
def setEnrollToken (token : List UInt8) : Outcome Hal := do
  let (_, tee) ← fpcTeeAuthorizeEnrol (m.tacOf hal.tee) m.envs hal.tee token
  .ok (hal.withTee tee)

end

/-- The load of the framework is this one, of the current file. -/
theorem loadTemplateDb_eq {P : Platform} (m : Meets P) (t : TestMeets P) (hal : Hal)
    (henvs : t.envs = m.envs) :
    loadTemplateDb m hal = loadDb t hal
      { tac := m.tacOf hal.tee, reaches := m.tacOf_reaches hal.tee, load := m.load,
        drops := m.loadDrops } hal.currentDbFile := by
  unfold loadTemplateDb loadDb
  rw [henvs]
  rfl

/-! ## Runs -/

/-- A step of the device: a call of the framework, or a call of the engineering interface. -/
inductive DeviceEvent (P : Platform) where
  | called (e : HalEvent P)
  | challenged (m : TestMeets P)
  | authorized (m : TestMeets P) (token : List UInt8)
  | tested (m : TestMeets P) (mode : TestMode)

/-- The device with both interfaces. -/
def deviceSystem (P : Platform) (files : String → Option FingerprintDatabase) :
    System Hal (DeviceEvent P) where
  init := Opened files
  step hal e hal' :=
    match e with
    | .called e => (halSystem P files).step hal e hal'
    | .challenged m => clearEnrollChallenge m hal = .ok hal'
    | .authorized m token => setEnrollToken m hal token = .ok hal'
    | .tested m mode => testTask m hal mode = .ok (some hal')

/-! ## What is left -/

/-- The database of the application has no finger, or those of the current file: with none that the
test enrolled an authentication can succeed. -/
def RegularActive (hal : Hal) : Prop :=
  (∀ record, ¬ Records hal.userDb record) ∨ SameRecords hal.stored hal.userDb

section

variable {P : Platform}

/-- The last load replaces the database of the application: with the stored one, with an empty one
where none is stored, or with none. -/
def RestoringTakes (m : TestMeets P) (hal : Hal) : Prop :=
  match hal.stored with
  | none => ¬ m.regularLoad.tac.Fails
  | some _ => m.regularLoad.load = 0 ∨ m.regularLoad.drops = true

/-- A task leaves no finger of the test to the last load. A verification loads none, and an enrolment
comes to no finger. -/
def LeavesRegular (m : TestMeets P) (hal : Hal) : TestMode → Prop
  | .verify =>
      match hal.files testTemplateDb with
      | none => m.testLoad.tac.Fails → RegularActive hal
      | some db =>
          (m.testLoad.load = 0 →
            (∀ record, ¬ Records (some db) record) ∨ SameRecords hal.stored (some db)) ∧
          (m.testLoad.load ≠ 0 → m.testLoad.drops = false → RegularActive hal)
  | .enroll => ∀ tested, testEnroll m hal = .ok (some tested) → RegularActive tested

variable {m : TestMeets P} {hal hal' : Hal} {l : Loading P} {path : String} {status : Int}

/-- What a load leaves. -/
inductive DbLoaded (l : Loading P) (hal : Hal) (path : String) (status : Int) (hal' : Hal) : Prop
  | emptied (hfile : hal.files path = none) (hreached : ¬ l.tac.Fails)
      (hnone : ∀ record, ¬ Records hal'.userDb record) : DbLoaded l hal path status hal'
  | lost (hfile : hal.files path = none) (hfails : l.tac.Fails) (hstatus : status ≠ 0)
      (hdb : hal'.userDb = hal.userDb) : DbLoaded l hal path status hal'
  | loaded (db : FingerprintDatabase) (hfile : hal.files path = some db) (hload : l.load = 0)
      (hstatus : status = 0) (hdb : hal'.userDb = some db) : DbLoaded l hal path status hal'
  | dropped (db : FingerprintDatabase) (hfile : hal.files path = some db) (hload : l.load ≠ 0)
      (hdrops : l.drops = true) (hstatus : status ≠ 0) (hdb : hal'.userDb = none) :
      DbLoaded l hal path status hal'
  | kept (db : FingerprintDatabase) (hfile : hal.files path = some db) (hload : l.load ≠ 0)
      (hdrops : l.drops = false) (hstatus : status ≠ 0) (hdb : hal'.userDb = hal.userDb) :
      DbLoaded l hal path status hal'

/-- The files but that of the test, and the message buffer, are as they were. -/
structure Tests (hal hal' : Hal) : Prop where
  currentDbFile : hal'.currentDbFile = hal.currentDbFile
  elsewhere : ∀ file, file ≠ testTemplateDb → hal'.files file = hal.files file
  buffer : hal'.tee.sharedBuffer.length = hal.tee.sharedBuffer.length

theorem Tests.refl (hal : Hal) : Tests hal hal :=
  { currentDbFile := rfl
    elsewhere := fun _ _ => rfl
    buffer := rfl }

theorem Tests.trans {h₁ h₂ h₃ : Hal} (h : Tests h₁ h₂) (h' : Tests h₂ h₃) : Tests h₁ h₃ :=
  { currentDbFile := h'.currentDbFile.trans h.currentDbFile
    elsewhere := fun file hne => (h'.elsewhere file hne).trans (h.elsewhere file hne)
    buffer := h'.buffer.trans h.buffer }

theorem tests_withTee {tee : Tee} (h : tee.sharedBuffer.length = hal.tee.sharedBuffer.length) :
    Tests hal (hal.withTee tee) :=
  { currentDbFile := rfl
    elsewhere := fun _ _ => rfl
    buffer := h }

theorem Tests.stored (h : Tests hal hal') (hfile : hal.currentDbFile ≠ testTemplateDb) :
    hal'.stored = hal.stored := by
  unfold Hal.stored
  rw [h.currentDbFile]
  exact h.elsewhere _ hfile

theorem TestMeets.tacOf_reaches (m : TestMeets P) (tee : Tee) :
    (m.tacOf tee).DeliversOrFails P := m.reaches tee.messages

theorem loadDb_loaded (hbuffer : sizeofBioCommand ≤ hal.tee.sharedBuffer.length)
    (h : loadDb m hal l path = .ok (status, hal')) :
    DbLoaded l hal path status hal' ∧ Tests hal hal' := by
  unfold loadDb at h
  split at h
  · next hfile =>
    obtain ⟨⟨loaded, tee⟩, hload, h⟩ := bind_eq_ok.mp h
    cases h
    obtain ⟨hempty, hlength⟩ := fpcTeeLoadEmptyDb_commanded l.reaches hbuffer hload
    refine ⟨?_, tests_withTee hlength⟩
    cases hempty with
    | lost hfails hstatus hta =>
      refine .lost hfile hfails ?_ ?_
      · rw [hstatus]
        decide
      · show tee.ta.bio.userDb = _
        rw [hta]
        rfl
    | emptied hreached hset _ _ _ =>
      exact .emptied hfile hreached (not_records_of_slots (slots_of_setKeyOf hset))
  · next db hfile =>
    split at h
    · next hload =>
      cases h
      exact ⟨.loaded db hfile hload rfl rfl, tests_withTee rfl⟩
    · next hload =>
      split at h
      · next hdrops =>
        cases h
        exact ⟨.dropped db hfile hload hdrops (toInt_ne_zero hload) rfl, tests_withTee rfl⟩
      · next hdrops =>
        cases h
        exact ⟨.kept db hfile hload (by simpa using hdrops) (toInt_ne_zero hload) rfl, .refl _⟩

theorem saveTestDb_tests (n : Nat) : Tests hal (saveTestDb m hal n).2 := by
  unfold saveTestDb
  split
  · exact
      { currentDbFile := rfl
        elsewhere := fun file hne => Function.update_of_ne hne ..
        buffer := rfl }
  · exact .refl _

theorem saveTestDb_userDb (n : Nat) : (saveTestDb m hal n).2.userDb = hal.userDb := by
  unfold saveTestDb
  split <;> rfl

/-- **What the last load leaves**: the regular database where the load takes, and otherwise what there
was. -/
theorem restoreRegularDb_regular_iff (hbuffer : sizeofBioCommand ≤ hal.tee.sharedBuffer.length)
    (hfile : hal.currentDbFile ≠ testTemplateDb) (h : restoreRegularDb m hal = .ok hal') :
    (RestoringTakes m hal → (∀ record, ¬ Records hal'.userDb record) ∨ hal'.userDb = hal'.stored) ∧
      (RegularActive hal' ↔ RestoringTakes m hal ∨ RegularActive hal) ∧ Tests hal hal' := by
  obtain ⟨⟨status, loaded⟩, hload, h⟩ := bind_eq_ok.mp h
  cases h
  obtain ⟨hloaded, htests⟩ := loadDb_loaded hbuffer hload
  have hstored := htests.stored hfile
  -- the active database is empty, the stored one, or the one before
  have hcases : RestoringTakes m hal ∧
        ((∀ record, ¬ Records hal'.userDb record) ∨ hal'.userDb = hal'.stored) ∨
      ¬ RestoringTakes m hal ∧ hal'.userDb = hal.userDb := by
    unfold RestoringTakes
    cases hloaded with
    | emptied hnofile hreached hnone =>
      rw [show hal.stored = none from hnofile]
      exact Or.inl ⟨hreached, Or.inl hnone⟩
    | lost hnofile hfails _ hdb =>
      rw [show hal.stored = none from hnofile]
      exact Or.inr ⟨not_not.mpr hfails, hdb⟩
    | loaded db hsome hzero _ hdb =>
      rw [hstored, show hal.stored = some db from hsome]
      exact Or.inl ⟨Or.inl hzero, Or.inr hdb⟩
    | dropped db hsome _ hdrops _ hdb =>
      rw [hstored, show hal.stored = some db from hsome, hdb]
      exact Or.inl ⟨Or.inr hdrops, Or.inl (not_records_of_slots rfl)⟩
    | kept db hsome hne hdrops _ hdb =>
      rw [show hal.stored = some db from hsome]
      refine Or.inr ⟨?_, hdb⟩
      rintro (hzero | hdropped)
      · exact hne hzero
      · rw [hdrops] at hdropped
        cases hdropped
  cases hcases with
  | inl htakes =>
    refine ⟨fun _ => htakes.2, iff_of_true ?_ (Or.inl htakes.1), htests⟩
    cases htakes.2 with
    | inl hnone => exact Or.inl hnone
    | inr hsame =>
      refine Or.inr ?_
      rw [hsame]
      exact .refl _
  | inr hkeeps =>
    refine ⟨fun htakes => absurd htakes hkeeps.1, ?_, htests⟩
    unfold RegularActive
    rw [hstored, hkeeps.2]
    exact ⟨Or.inr, fun h => h.resolve_left hkeeps.1⟩

/-- The capture of a verification keeps the fingers. -/
theorem verifyImage_tested (hbuffer : sizeofBioCommand ≤ hal.tee.sharedBuffer.length)
    (h : verifyImage m hal = .ok (some hal')) :
    SameRecords hal.userDb hal'.userDb ∧ Tests hal hal' := by
  unfold verifyImage at h
  split at h
  · cases h
  · split at h
    · cases h
      exact ⟨.refl _, .refl _⟩
    · obtain ⟨⟨status, id, tee⟩, hidentify, h⟩ := bind_eq_ok.mp h
      have hsame := sameRecords_fpcTeeIdentify (m.tacOf_reaches _) hbuffer hidentify
      have htests : Tests hal (hal.withTee tee) :=
        tests_withTee (fpcTeeIdentify_kept (m.tacOf_reaches _) hbuffer hidentify).buffer
      dsimp only at h
      split at h
      · cases h
        exact ⟨hsame, htests⟩
      · obtain ⟨⟨status', update, tee'⟩, hupdate, h⟩ := bind_eq_ok.mp h
        have hbuffer' : sizeofBioCommand ≤ (hal.withTee tee).tee.sharedBuffer.length := by
          rw [htests.buffer]
          exact hbuffer
        have hsame' := hsame.trans
          (sameRecords_fpcTeeUpdateTemplate (m.tacOf_reaches _) hbuffer' hupdate)
        have htests' : Tests hal ((hal.withTee tee).withTee tee') :=
          htests.trans (tests_withTee
            (fpcTeeUpdateTemplate_kept (m.tacOf_reaches _) hbuffer' hupdate).buffer)
        dsimp only at h
        split at h
        · cases h
          exact ⟨hsame', htests'⟩
        · split at h
          · cases h
            rw [saveTestDb_userDb]
            exact ⟨hsame', htests'.trans (saveTestDb_tests 0)⟩
          · cases h
            exact ⟨hsame', htests'⟩

/-- **What a test verification leaves to the last load**: the fingers that the load of the test
database left, and where that failed nothing was captured. -/
theorem testVerify_tested (hbuffer : sizeofBioCommand ≤ hal.tee.sharedBuffer.length)
    (h : testVerify m hal = .ok (some hal')) :
    (∃ status loaded, DbLoaded m.testLoad hal testTemplateDb status loaded ∧
      SameRecords loaded.userDb hal'.userDb) ∧ Tests hal hal' := by
  obtain ⟨⟨status, loaded⟩, hload, h⟩ := bind_eq_ok.mp h
  obtain ⟨hloaded, htests⟩ := loadDb_loaded hbuffer hload
  have hbuffer' : sizeofBioCommand ≤ loaded.tee.sharedBuffer.length := by
    rw [htests.buffer]
    exact hbuffer
  dsimp only at h
  split at h
  · obtain ⟨_, _, h⟩ := bind_eq_ok.mp h
    cases h
    exact ⟨⟨status, _, hloaded, .refl _⟩, htests⟩
  · obtain ⟨hsame, htests'⟩ := verifyImage_tested hbuffer' h
    exact ⟨⟨status, loaded, hloaded, hsame⟩, htests.trans htests'⟩

/-- Which of its outcomes leave no finger of the test. -/
theorem testVerify_regular_iff (hbuffer : sizeofBioCommand ≤ hal.tee.sharedBuffer.length)
    (hfile : hal.currentDbFile ≠ testTemplateDb) (h : testVerify m hal = .ok (some hal')) :
    RegularActive hal' ↔ LeavesRegular m hal .verify := by
  obtain ⟨⟨status, loaded, hloaded, hsame⟩, htests⟩ := testVerify_tested hbuffer h
  have hstored := htests.stored hfile
  have hrecords : RegularActive hal' ↔ (∀ record, ¬ Records loaded.userDb record) ∨
      SameRecords hal.stored loaded.userDb := by
    unfold RegularActive SameRecords
    rw [hstored]
    simp only [hsame _]
  rw [hrecords]
  unfold LeavesRegular
  cases hloaded with
  | emptied hnofile hreached hnone =>
    rw [hnofile]
    exact iff_of_true (Or.inl hnone) fun hfails => absurd hfails hreached
  | lost hnofile hfails _ hdb =>
    rw [hnofile, hdb]
    exact ⟨fun h _ => h, fun h => h hfails⟩
  | loaded db hsome hzero _ hdb =>
    rw [hsome, hdb]
    exact ⟨fun h => ⟨fun _ => h, fun hne => absurd hzero hne⟩, fun h => h.1 hzero⟩
  | dropped db hsome hne hdrops _ hdb =>
    rw [hsome, hdb]
    refine iff_of_true (Or.inl (not_records_of_slots rfl)) ⟨fun hzero => absurd hzero hne, ?_⟩
    intro _ hkeeps
    rw [hdrops] at hkeeps
    cases hkeeps
  | kept db hsome hne hdrops _ hdb =>
    rw [hsome, hdb]
    exact ⟨fun h => ⟨fun hzero => absurd hzero hne, fun _ _ => h⟩, fun h => h.2 hne hdrops⟩

/-- The rounds of an enrolment store nothing but the database of the test. Induction on the rounds. -/
theorem enrolImages_tests {captures : List Capture} {stores : Nat}
    (hbuffer : sizeofBioCommand ≤ hal.tee.sharedBuffer.length)
    (h : enrolImages m captures stores hal = .ok (some hal')) : Tests hal hal' := by
  induction captures generalizing hal stores with
  | nil => cases h
  | cons c rest ih =>
    unfold enrolImages at h
    dsimp only at h
    split at h
    · exact ih hbuffer h
    · split at h
      · cases h
        exact .refl _
      · obtain ⟨⟨status, remaining, tee⟩, henrol, h⟩ := bind_eq_ok.mp h
        have htests : Tests hal (hal.withTee tee) :=
          tests_withTee (fpcTeeEnrol_commanded (m.tacOf_reaches _) hbuffer henrol).2
        have hbuffer' : sizeofBioCommand ≤ (hal.withTee tee).tee.sharedBuffer.length := by
          rw [htests.buffer]
          exact hbuffer
        dsimp only at h
        split at h
        · cases h
          exact htests
        · split at h
          · obtain ⟨⟨ended, id, tee'⟩, hended, h⟩ := bind_eq_ok.mp h
            have htests' : Tests hal ((hal.withTee tee).withTee tee') := htests.trans
              (tests_withTee (fpcTeeEndEnrol_commanded (m.tacOf_reaches _) hbuffer' hended).2.2)
            have hsaved : Tests hal (saveTestDb m ((hal.withTee tee).withTee tee') stores).2 :=
              htests'.trans (saveTestDb_tests stores)
            dsimp only at h
            split at h
            · cases h
              exact htests'
            · split at h
              · cases h
                exact hsaved
              · split at h
                · cases h
                  exact hsaved
                · refine hsaved.trans (ih ?_ h)
                  rw [hsaved.buffer]
                  exact hbuffer
          · split at h
            · cases h
              exact htests
            · exact htests.trans (ih hbuffer' h)

theorem testEnroll_tests (hbuffer : sizeofBioCommand ≤ hal.tee.sharedBuffer.length)
    (h : testEnroll m hal = .ok (some hal')) : Tests hal hal' := by
  obtain ⟨⟨status, deleted⟩, hdelete, h⟩ := bind_eq_ok.mp h
  have hdeleted : Tests hal deleted := by
    obtain ⟨⟨emptied, tee⟩, hempty, hdelete⟩ := bind_eq_ok.mp hdelete
    have htests : Tests hal (hal.withTee tee) :=
      tests_withTee (fpcTeeLoadEmptyDb_commanded (m.tacOf_reaches _) hbuffer hempty).2
    dsimp only at hdelete
    split at hdelete
    · cases hdelete
      exact htests
    · have hsaved := htests.trans (saveTestDb_tests (m := m) 0)
      rw [Outcome.ok.inj hdelete] at hsaved
      exact hsaved
  have hbuffer' : sizeofBioCommand ≤ deleted.tee.sharedBuffer.length := by
    rw [hdeleted.buffer]
    exact hbuffer
  dsimp only at h
  split at h
  · obtain ⟨_, _, h⟩ := bind_eq_ok.mp h
    cases h
    exact hdeleted
  · obtain ⟨⟨loading, loaded⟩, hload, h⟩ := bind_eq_ok.mp h
    have hloaded := hdeleted.trans (loadDb_loaded hbuffer' hload).2
    have hbuffer'' : sizeofBioCommand ≤ loaded.tee.sharedBuffer.length := by
      rw [hloaded.buffer]
      exact hbuffer
    obtain ⟨⟨begun, tee⟩, hbegin, h⟩ := bind_eq_ok.mp h
    have hbegun : Tests hal (loaded.withTee tee) := hloaded.trans
      (tests_withTee (fpcTeeBeginEnrol_commanded (m.tacOf_reaches _) hbuffer'' hbegin).2)
    dsimp only at h
    split at h
    · cases h
      exact hbegun
    · refine hbegun.trans (enrolImages_tests ?_ h)
      rw [hbegun.buffer]
      exact hbuffer

/-- A task leaves the active database to the last load. -/
theorem testTask_restores {mode : TestMode} (hbuffer : sizeofBioCommand ≤ hal.tee.sharedBuffer.length)
    (hfile : hal.currentDbFile ≠ testTemplateDb) (h : testTask m hal mode = .ok (some hal')) :
    (RestoringTakes m hal → (∀ record, ¬ Records hal'.userDb record) ∨ hal'.userDb = hal'.stored) ∧
      (RegularActive hal' ↔ RestoringTakes m hal ∨ LeavesRegular m hal mode) ∧ Tests hal hal' := by
  have hrestored {tested restored : Hal} (htested : Tests hal tested)
      (hleaves : RegularActive tested ↔ LeavesRegular m hal mode)
      (hrestore : restoreRegularDb m tested = .ok restored) :
      (RestoringTakes m hal →
          (∀ record, ¬ Records restored.userDb record) ∨ restored.userDb = restored.stored) ∧
        (RegularActive restored ↔ RestoringTakes m hal ∨ LeavesRegular m hal mode) ∧
        Tests hal restored := by
    have hbuffer' : sizeofBioCommand ≤ tested.tee.sharedBuffer.length := by
      rw [htested.buffer]
      exact hbuffer
    have hfile' : tested.currentDbFile ≠ testTemplateDb := by
      rw [htested.currentDbFile]
      exact hfile
    have htakes : RestoringTakes m tested ↔ RestoringTakes m hal := by
      unfold RestoringTakes
      rw [htested.stored hfile]
    obtain ⟨hloads, hregular, htests⟩ := restoreRegularDb_regular_iff hbuffer' hfile' hrestore
    rw [htakes] at hloads hregular
    rw [hleaves] at hregular
    exact ⟨hloads, hregular, htested.trans htests⟩
  cases mode with
  | verify =>
    obtain ⟨tested, htest, h⟩ := bind_eq_ok.mp h
    cases tested with
    | none => cases h
    | some tested =>
      obtain ⟨restored, hrestore, h⟩ := bind_eq_ok.mp h
      cases h
      exact hrestored (testVerify_tested hbuffer htest).2
        (testVerify_regular_iff hbuffer hfile htest) hrestore
  | enroll =>
    obtain ⟨tested, htest, h⟩ := bind_eq_ok.mp h
    cases tested with
    | none => cases h
    | some tested =>
      obtain ⟨restored, hrestore, h⟩ := bind_eq_ok.mp h
      obtain ⟨cleared, hclear, h⟩ := bind_eq_ok.mp h
      cases h
      have hleaves : RegularActive tested ↔ LeavesRegular m hal .enroll := by
        unfold LeavesRegular
        constructor
        · intro hregular tested' htest'
          rw [htest] at htest'
          cases htest'
          exact hregular
        · exact fun hall => hall tested htest
      obtain ⟨hloads, hregular, htests⟩ :=
        hrestored (testEnroll_tests hbuffer htest) hleaves hrestore
      -- the challenge is cleared behind the load, and the database stays
      obtain ⟨⟨status, challenge, tee⟩, hask, hclear⟩ := bind_eq_ok.mp hclear
      cases hclear
      have hbuffer' : sizeofBioCommand ≤ restored.tee.sharedBuffer.length := by
        rw [htests.buffer]
        exact hbuffer
      obtain ⟨hsame, hlength⟩ :=
        fpcTeeGetEnrolChallenge_frame (m.tacOf_reaches _) hbuffer' hask
      have hdb : (restored.withTee tee).userDb = restored.userDb := hsame.userDb
      have hstored : (restored.withTee tee).stored = restored.stored := rfl
      unfold RegularActive at hregular ⊢
      rw [hdb, hstored]
      exact ⟨hloads, hregular, htests.trans (tests_withTee hlength)⟩

/-- A call of the framework leaves the current file, or takes that of the groups. -/
theorem halCall_currentDbFile {c : Meets P} {call : HalCall}
    (hbuffer : sizeofBioCommand ≤ hal.tee.sharedBuffer.length)
    (h : halCall c hal call = .ok (some (status, hal'))) :
    hal'.currentDbFile = hal.currentDbFile ∨ hal'.currentDbFile = templateFile := by
  cases hselects : call.selectsNone with
  | true => exact Or.inl (halCall_stays hbuffer hselects h).currentDbFile
  | false =>
    cases call with
    | setActiveGroup gid storePath =>
      right
      obtain ⟨returned, hset, h⟩ := bind_eq_ok.mp h
      cases h
      have hloads {loading : Int} {loaded : Hal}
          (hload : loadTemplateDb c { hal with currentDbFile := templateFile }
            = .ok (loading, loaded)) : loaded.currentDbFile = templateFile := by
        have hbuffer' : sizeofBioCommand ≤
            { hal with currentDbFile := templateFile }.tee.sharedBuffer.length := hbuffer
        exact (loadTemplateDb_stays hbuffer' hload).currentDbFile
      cases fpcSetActiveGroup_ended hset with
      | unloaded _ hload _ _ => exact hloads hload
      | unset loaded _ tee hload _ _ _ hend =>
        rw [hend]
        show loaded.currentDbFile = templateFile
        exact hloads hload
      | selected loaded tee _ _ tee' hload _ _ _ hend =>
        rw [hend]
        show loaded.currentDbFile = templateFile
        exact hloads hload
    | preEnroll => cases hselects
    | postEnroll => cases hselects
    | enroll hat gid => cases hselects
    | cancel => cases hselects
    | authenticate operationId gid => cases hselects
    | remove gid fid => cases hselects
    | enumerate => cases hselects

/-- The message buffer is long enough in every state of a run, and the current file is not that of
the test. -/
theorem deviceSystem_tests {files : String → Option FingerprintDatabase}
    {history : List (DeviceEvent P)} (hrun : (deviceSystem P files).Run history hal) :
    sizeofBioCommand ≤ hal.tee.sharedBuffer.length ∧ hal.currentDbFile ≠ testTemplateDb := by
  induction hrun with
  | init hinit =>
    refine ⟨hinit.buffer, ?_⟩
    rw [hinit.currentDbFile]
    decide
  | step hrun hstep ih =>
    rename_i history s s' e
    obtain ⟨hbuffer, hfile⟩ := ih
    cases e with
    | called e =>
      obtain ⟨_, hcall, hsame⟩ := hstep
      rw [hsame] at hcall
      refine ⟨halCall_buffer hbuffer hcall, ?_⟩
      cases halCall_currentDbFile hbuffer hcall with
      | inl hsame =>
        rw [hsame]
        exact hfile
      | inr htemplate =>
        rw [htemplate]
        decide
    | challenged m =>
      obtain ⟨⟨status, challenge, tee⟩, hask, hstep⟩ := bind_eq_ok.mp hstep
      cases hstep
      refine ⟨?_, hfile⟩
      show sizeofBioCommand ≤ tee.sharedBuffer.length
      rw [(fpcTeeGetEnrolChallenge_frame (m.tacOf_reaches _) hbuffer hask).2]
      exact hbuffer
    | authorized m token =>
      obtain ⟨⟨status, tee⟩, hauthorize, hstep⟩ := bind_eq_ok.mp hstep
      cases hstep
      refine ⟨?_, hfile⟩
      show sizeofBioCommand ≤ tee.sharedBuffer.length
      rw [(fpcTeeAuthorizeEnrol_frame (m.tacOf_reaches _) hauthorize).2]
      exact hbuffer
    | tested m mode =>
      obtain ⟨_, _, htests⟩ := testTask_restores hbuffer hfile hstep
      rw [htests.buffer, htests.currentDbFile]
      exact ⟨hbuffer, hfile⟩

end

/-- The files of a device with a finger of a test, and no other. -/
def sampleFiles : String → Option FingerprintDatabase :=
  Function.update (Function.update (fun _ => none) testTemplateDb (some sampleDatabase)) templateFile
    (some { sampleDatabase with pFingerprintSet := none })

/-- A test verification that is cancelled, with the result of its last load. -/
def sampleVerify (load : Int32) : TestMeets samplePlatform where
  tac _ := sampleTac
  reaches := sampleTac_delivers_each
  envs _ := .willing
  captures := [{ injected := none, captured := -7, raw := 0, enhanced := 0 }]
  save _ := 0
  testLoad := { tac := sampleTac, reaches := sampleTac_delivers, load := 0, drops := false }
  regularLoad := { tac := sampleTac, reaches := sampleTac_delivers, load := load, drops := false }
  stale := .ok ()

/-- After a group was selected, such a verification returns. -/
theorem sampleVerify_returns (load : Int32) (hload : load = 0 ∨ load = -1) :
    ∃ history hal hal', (deviceSystem samplePlatform sampleFiles).Run history hal ∧
      testTask (sampleVerify load) hal .verify = .ok (some hal') ∧
      hal.files testTemplateDb = some sampleDatabase ∧
      hal.stored = some { sampleDatabase with pFingerprintSet := none } := by
  have hready : (fpcTaRouterInit .willing >>= fun ta => .ok (decide (
      (halCall sampleSwitch { sampleOpened ta with files := sampleFiles } (.setActiveGroup 10 "/p")
        >>= fun r => .ok (decide (r.map (fun x => decide (
          x.2.files testTemplateDb = some sampleDatabase ∧
          x.2.stored = some { sampleDatabase with pFingerprintSet := none } ∧
          (testTask (sampleVerify 0) x.2 .verify >>= fun t => .ok t.isSome) = .ok true ∧
          (testTask (sampleVerify (-1)) x.2 .verify >>= fun t => .ok t.isSome) = .ok true))
            = some true))) = .ok true))) = .ok true := by
    decide +kernel
  obtain ⟨ta, hinit, hcalled⟩ := exists_of_decided _ hready
  obtain ⟨returned, hcall, hdecided⟩ := exists_of_decided _ hcalled
  obtain ⟨⟨status, hal⟩, rfl, hreached⟩ := Option.map_eq_some_iff.mp hdecided
  obtain ⟨htest, hstored, hworks, hfails⟩ := of_decide_eq_true hreached
  have hopened : Opened sampleFiles { sampleOpened ta with files := sampleFiles } :=
    { db := ⟨_, _, hinit, SameDb.refl _⟩
      buffer := (by decide : sizeofBioCommand ≤ (List.replicate 40 (0 : UInt8)).length)
      files := rfl
      stores := rfl
      currentDbFile := rfl
      currentGid := rfl
      authenticatorId := rfl }
  have hrun : (deviceSystem samplePlatform sampleFiles).Run
      [.called ⟨.setActiveGroup 10 "/p", sampleSwitch, _, status, hal⟩] hal :=
    .step (.init hopened) ⟨rfl, hcall, rfl⟩
  have hreturns : (testTask (sampleVerify load) hal .verify >>= fun t => .ok t.isSome) = .ok true := by
    rcases hload with rfl | rfl
    · exact hworks
    · exact hfails
  obtain ⟨ended, htask, hsome⟩ := bind_eq_ok.mp hreturns
  obtain ⟨hal', rfl⟩ := Option.isSome_iff_exists.mp (Outcome.ok.inj hsome)
  exact ⟨_, hal, hal', hrun, htask, htest, hstored⟩

end Fpc.Engineering
