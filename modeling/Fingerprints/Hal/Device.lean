import Fingerprints.Tac.Bio

/-!
# The device of the HAL

`fpc_tee_hal.c`. A call of the framework first waits until the worker is idle, and then does its
work itself or gives the worker a task. A task is one loop over what the sensor answers; it ends
with callbacks to the framework. What a call and its task meet outside (whether a transfer reaches
the application, what the application meets, what the sensor answers, whether the file calls work)
is a `Meets`.

The file calls are taken by what they return: a store that returns 0 makes the stored database the
one of the application, a load that returns 0 makes the database of the application the stored one,
and where nothing is stored a load asks the application for an empty database.
-/

namespace Fpc

open Wire Wire.Outcome

def fpcErrorCancelled : Int := 7

/-- `EIO` -/
def eio : Int := 5

/-! ## Callbacks (`fpc_tee_hal.h`) -/

def halCompatErrorHwUnavailable : Int := 1
def halCompatErrorUnableToProcess : Int := 2
def halCompatErrorTimeout : Int := 3
def halCompatErrorNoSpace : Int := 4
def halCompatErrorCanceled : Int := 5
def halCompatErrorUnableToRemove : Int := 6
def halCompatErrorAlreadyEnrolled : Int := 1000

def halCompatAcquiredGood : Int := 0
def halCompatAcquiredPartial : Int := 1
def halCompatAcquiredInsufficient : Int := 2
def halCompatAcquiredImagerDirty : Int := 3
def halCompatAcquiredTooFast : Int := 5
def halCompatAcquiredTooSimilar : Int := 1000

/-- `fpc_hal_compat_callback_t`, a callback with its arguments. -/
inductive Callback where
  | onEnrollResult (fid gid remaining : UInt32)
  | onAcquired (code : Int)
  | onAuthenticated (fid gid : UInt32) (token : List UInt8)
  | onError (code : Int)
  | onRemoved (fid gid remaining : UInt32)
  | onEnumerate (fid gid remaining : UInt32)
  deriving DecidableEq, Repr

/-! ## The device -/

/-- `struct fpc_hal_common`, with the databases that are stored at the paths, how many were stored,
and the callbacks that were made, the latest first. -/
structure Hal where
  tee : Tee
  files : String → Option FingerprintDatabase
  stores : Nat
  currentDbFile : String
  currentGid : UInt32
  challenge : UInt64
  authenticatorId : UInt64
  removeFid : UInt32
  hat : List UInt8
  callbacks : List Callback

/-- The database that the application has loaded. -/
def Hal.userDb (hal : Hal) : Option FingerprintDatabase := hal.tee.ta.bio.userDb

/-- The database that is stored in the current file. -/
def Hal.stored (hal : Hal) : Option FingerprintDatabase := hal.files hal.currentDbFile

def Hal.callback (hal : Hal) (c : Callback) : Hal := { hal with callbacks := c :: hal.callbacks }

def Hal.withTee (hal : Hal) (tee : Tee) : Hal := { hal with tee := tee }

/-- The device with the database of the application stored. -/
def Hal.keptInFile (hal : Hal) : Hal :=
  { hal with files := Function.update hal.files hal.currentDbFile hal.userDb
             stores := hal.stores + 1 }

/-- What a call of the framework and its task meet outside: the transfer of every message with what
the application meets, the answers of the sensor to `fpc_tee_capture_image`, whether the sensor was
cancelled, and the results of the stores and of the load. A load that fails keeps the database of
the application or drops it. -/
structure Meets (P : Platform) where
  tac : Nat → Tac
  reaches : ∀ n, (tac n).DeliversOrFails P
  envs : Nat → Env
  sensor : List Int32
  cancelled : Bool
  store : Nat → Int32
  load : Int32
  loadDrops : Bool

section

variable {P : Platform} (m : Meets P) (hal : Hal)

/-- The client for the next message. -/
def Meets.tacOf (tee : Tee) : Tac := m.tac tee.messages

/-- `fpc_tee_store_template_db` of the current file, the `n`th of the call. -/
def storeTemplateDb (n : Nat) : Int × Hal :=
  if m.store n = 0 then (0, hal.keptInFile) else ((m.store n).toInt, hal)

/-- The application with another database. -/
def Tee.withUserDb (tee : Tee) (userDb : Option FingerprintDatabase) : Tee :=
  { tee with ta := { tee.ta with bio := { tee.ta.bio with userDb := userDb } } }

/-- `fpc_tee_load_template_db` of the current file. -/
def loadTemplateDb : Outcome (Int × Hal) :=
  match hal.stored with
  | none => do
      let (status, tee) ← fpcTeeLoadEmptyDb (m.tacOf hal.tee) m.envs hal.tee
      .ok (status, hal.withTee tee)
  | some db =>
      if m.load = 0 then .ok (0, hal.withTee (hal.tee.withUserDb (some db)))
      else if m.loadDrops then .ok (m.load.toInt, hal.withTee (hal.tee.withUserDb none))
      else .ok (m.load.toInt, hal)

/-! ## Captures -/

def fpcCaptureFingerLost : Int := 1
def fpcCaptureQualifyAbort : Int := 3
def fpcCaptureFingerStuck : Int := 4

/-! ## Authentication -/

def fpcMaxFailedAttempts : Nat := 5

/-- `sizeof(hat)` -/
def sizeofHat : Nat := 69

/-- The end of an attempt that matched no finger: the loop is left after too many. -/
def failedAttempt (failedAttempts : Nat) : Option Int :=
  if failedAttempts + 1 ≥ fpcMaxFailedAttempts then some (-fpcErrorCancelled) else none

/-- `fpc_tee_update_template`, and the store where templates were updated. The result of the store
is not looked at. -/
def updateTemplate (stores : Nat) : Outcome (Int × Nat × Hal) := do
  let (status, update, tee) ← fpcTeeUpdateTemplate (m.tacOf hal.tee) m.envs hal.tee
  let hal := hal.withTee tee
  if status ≠ 0 then .ok (status, stores, hal)
  else if update.getD 0 ≠ 0 then .ok (0, stores + 1, (storeTemplateDb m hal stores).2)
  else .ok (0, stores, hal)

/-- The end of an attempt that matched a finger. -/
def authMatched (id : UInt32) (stores : Nat) : Outcome (Int × Hal) := do
  let (status, hat, tee) ← fpcTeeGetAuthResult (m.tacOf hal.tee) m.envs hal.tee sizeofHat
  let hal := hal.withTee tee
  if status ≠ 0 then .ok (status, hal)
  else do
    let hal := hal.callback (.onAuthenticated id hal.currentGid (hat.getD []))
    let (status, _, hal) ← updateTemplate m hal stores
    .ok (status, hal)

/-- The loop of `do_authenticate` over the answers of the sensor, with the attempts that failed and
the stores that were made: the status it is left with, where it is left. A finger that is lost is
the loop of `capture_image`. No id is left from an image before, as the loop ends with one. -/
def authImages : List Int32 → (failedAttempts stores : Nat) → Hal → Outcome (Option (Int × Hal))
  | [], _, _, _ => .ok none
  | captured :: rest, failedAttempts, stores, hal =>
      let status := captured.toInt
      if status = fpcCaptureFingerLost then
        authImages rest failedAttempts stores (hal.callback (.onAcquired halCompatAcquiredTooFast))
      else if status = fpcCaptureQualifyAbort ∨ status = fpcCaptureFingerStuck then
        let hal := hal.callback (.onAuthenticated 0 hal.currentGid [])
        match failedAttempt failedAttempts with
        | some status => .ok (some (status, hal))
        | none => authImages rest (failedAttempts + 1) stores hal
      else if status ≠ fpcCaptureOk then .ok (some (status, hal))
      else do
        let (status, id, tee) ← fpcTeeIdentify (m.tacOf hal.tee) m.envs hal.tee
        let hal := hal.withTee tee
        if status < 0 then .ok (some (status, hal))
        else if status = fpcCaptureBadQuality then
          authImages rest failedAttempts stores
            (hal.callback (.onAcquired halCompatAcquiredInsufficient))
        else
          let hal := hal.callback (.onAcquired halCompatAcquiredGood)
          if id.getD 0 ≠ 0 then do
            let (status, hal) ← authMatched m hal (id.getD 0) stores
            .ok (some (status, hal))
          else do
            let hal := hal.callback (.onAuthenticated 0 hal.currentGid [])
            let (status, stores, hal) ← updateTemplate m hal stores
            if status ≠ 0 then .ok (some (status, hal))
            else
              match failedAttempt failedAttempts with
              | some status => .ok (some (status, hal))
              | none => authImages rest (failedAttempts + 1) stores hal

/-- `do_authenticate`, where it ends. -/
def doAuthenticate : Outcome (Option Hal) := do
  let (status, tee) ← fpcTeeSetAuthChallenge (m.tacOf hal.tee) m.envs hal.tee hal.challenge
  let hal := hal.withTee tee
  let ended ← if status ≠ 0 then .ok (some (status, hal)) else authImages m m.sensor 0 0 hal
  .ok (ended.map fun e =>
    if e.1 = 0 ∨ e.1 = -fpcErrorCancelled then e.2
    else e.2.callback (.onError halCompatErrorHwUnavailable))

/-! ## Enrolment -/

/-- How the loop of `do_enroll` is left: with a status, or with all touches there. -/
inductive EnrolExit where
  | left (status : Int)
  | completed
  deriving DecidableEq, Repr

/-- The callbacks of `do_enroll` for a touch that is not the last one, the latest first, and the
exit where there is one. -/
def touchReport (status : Int) (gid remaining : UInt32) : List Callback × Option EnrolExit :=
  if status = fpcEnrolProgress then
    ([.onEnrollResult 0 gid remaining, .onAcquired halCompatAcquiredGood], none)
  else if status = fpcEnrolFailedCouldNotComplete then
    ([.onError halCompatErrorUnableToProcess], some (.left 0))
  else if status = fpcEnrolImageTooSimilar then
    ([.onAcquired halCompatAcquiredTooSimilar, .onEnrollResult 0 gid remaining], none)
  else if status = fpcEnrolFailedAlreadyEnroled then
    ([.onError halCompatErrorAlreadyEnrolled], some (.left 0))
  else if status = fpcEnrolImageLowQuality then ([.onAcquired halCompatAcquiredImagerDirty], none)
  else if status = fpcEnrolImageLowCoverage then ([.onAcquired halCompatAcquiredPartial], none)
  else ([], none)

/-- The loop of `do_enroll` over the answers of the sensor: how it is left, where it is left. -/
def enrolTouches : List Int32 → Hal → Outcome (Option (EnrolExit × Hal))
  | [], _ => .ok none
  | captured :: rest, hal =>
      let status := captured.toInt
      if status = fpcCaptureFingerLost then
        enrolTouches rest (hal.callback (.onAcquired halCompatAcquiredTooFast))
      else if status = fpcCaptureQualifyAbort then
        enrolTouches rest (hal.callback (.onAcquired halCompatAcquiredInsufficient))
      else if status = fpcCaptureFingerStuck then enrolTouches rest hal
      else if status ≠ 0 then .ok (some (.left status, hal))
      else do
        let (status, remaining, tee) ← fpcTeeEnrol (m.tacOf hal.tee) m.envs hal.tee
        let hal := hal.withTee tee
        if status < 0 then .ok (some (.left status, hal))
        else if status = fpcEnrolCompleted then .ok (some (.completed, hal))
        else
          let report := touchReport status hal.currentGid (remaining.getD 0)
          let hal := { hal with callbacks := report.1 ++ hal.callbacks }
          match report.2 with
          | some exit => .ok (some (exit, hal))
          | none => enrolTouches rest hal

/-- The case `FPC_ENROL_COMPLETED` of `do_enroll`: its status. -/
def completeEnrol : Outcome (Int × Hal) := do
  let (status, id, tee) ← fpcTeeEndEnrol (m.tacOf hal.tee) m.envs hal.tee
  let hal := hal.withTee tee
  let id := id.getD 0
  if status ≠ 0 then .ok (status, hal)
  else
    let (status, hal) := storeTemplateDb m hal 0
    if status ≠ 0 then do
      let (_, hal) ← loadTemplateDb m hal
      .ok (status, hal)
    else if m.cancelled then do
      let (_, tee) ← fpcTeeDeleteTemplate (m.tacOf hal.tee) m.envs hal.tee id
      let (_, hal) := storeTemplateDb m (hal.withTee tee) 1
      .ok (-fpcErrorCancelled, hal)
    else do
      let hal := hal.callback (.onEnrollResult id hal.currentGid 0)
      let (_, dbId, tee) ← fpcTeeGetTemplateDbId (m.tacOf hal.tee) m.envs hal.tee
      .ok (0, { hal.withTee tee with authenticatorId := dbId.getD 0 })

/-- The end of `do_enroll`. -/
def reportEnrol (status : Int) : Hal :=
  if status = 0 ∨ status = -fpcErrorCancelled then hal
  else if status = -fpcErrorTimedout then hal.callback (.onError halCompatErrorTimeout)
  else if status = -fpcErrorNospace then hal.callback (.onError halCompatErrorNoSpace)
  else hal.callback (.onError halCompatErrorHwUnavailable)

/-- The part of `do_enroll` in front of the loop. -/
def startEnrol : Outcome (Int × Hal) := do
  let (status, tee) ← fpcTeeAuthorizeEnrol (m.tacOf hal.tee) m.envs hal.tee hal.hat
  let hal := hal.withTee tee
  if status ≠ 0 then .ok (status, hal)
  else do
    let (status, tee) ← fpcTeeBeginEnrol (m.tacOf hal.tee) m.envs hal.tee
    .ok (status, hal.withTee tee)

/-- `do_enroll`, where it ends. -/
def doEnroll : Outcome (Option Hal) := do
  let (status, hal) ← startEnrol m hal
  if status ≠ 0 then .ok (some (reportEnrol hal status))
  else do
    match ← enrolTouches m m.sensor hal with
    | none => .ok none
    | some (.left status, hal) => .ok (some (reportEnrol hal status))
    | some (.completed, hal) => do
        let (status, hal) ← completeEnrol m hal
        .ok (some (reportEnrol hal status))

/-! ## Removal and enumeration -/

/-- The loop of `do_remove` over the ids that are left, with the stores that were made. -/
def removeIds : List UInt32 → (stores : Nat) → Hal → Outcome (Int × Hal)
  | [], _, hal => .ok (0, hal)
  | id :: rest, stores, hal => do
      let (status, tee) ← fpcTeeDeleteTemplate (m.tacOf hal.tee) m.envs hal.tee id
      let hal := hal.withTee tee
      let removed := Callback.onRemoved id hal.currentGid (UInt32.ofNat rest.length)
      if status ≠ 0 ∧ status ≠ -fpcErrorNoentity then .ok (-eio, hal)
      else if status ≠ -fpcErrorNoentity then do
        let (status, hal) := storeTemplateDb m hal stores
        if status ≠ 0 then .ok (-eio, hal)
        else removeIds rest (stores + 1) (hal.callback removed)
      else removeIds rest stores (hal.callback removed)

/-- The ids that `do_remove` removes, all there are or the one asked for. -/
def idsToRemove : Outcome (Int × List UInt32 × Hal) :=
  if hal.removeFid = 0 then do
    let (status, ids, tee) ← fpcTeeGetFingerIds (m.tacOf hal.tee) m.envs hal.tee 5
    let hal := hal.withTee tee
    if status ≠ 0 then .ok (-eio, [], hal) else .ok (0, ids.getD [], hal)
  else .ok (0, [hal.removeFid], hal)

/-- `is_treble_hal`, in a build for Android 8 or later. -/
def isTrebleHal : Bool := true

/-- `do_remove` -/
def doRemove : Outcome Hal := do
  let (status, ids, hal) ← idsToRemove m hal
  let (status, hal) ← if status ≠ 0 then .ok (status, hal) else removeIds m ids 0 hal
  if status ≠ 0 then do
    let (_, hal) ← loadTemplateDb m (hal.callback (.onError halCompatErrorUnableToRemove))
    .ok hal
  else if !isTrebleHal || hal.removeFid == 0 then
    .ok (hal.callback (.onRemoved 0 hal.currentGid 0))
  else .ok hal

/-- The callbacks of `do_enumerate` for the ids that are left, the latest first. -/
def enumerateIds (gid : UInt32) : List UInt32 → List Callback
  | [] => []
  | id :: rest => enumerateIds gid rest ++ [.onEnumerate id gid (UInt32.ofNat rest.length)]

/-- `do_enumerate` -/
def doEnumerate : Outcome Hal := do
  let (status, ids, tee) ← fpcTeeGetFingerIds (m.tacOf hal.tee) m.envs hal.tee 5
  let hal := hal.withTee tee
  if status ≠ 0 then .ok (hal.callback (.onError halCompatErrorUnableToProcess))
  else
    match ids.getD [] with
    | [] => .ok (hal.callback (.onEnumerate 0 hal.currentGid 0))
    | ids => .ok { hal with callbacks := enumerateIds hal.currentGid ids ++ hal.callbacks }

/-! ## Calls of the framework -/

/-- `fpc_pre_enroll`. It answers the challenge, or 0. -/
def fpcPreEnroll : Outcome (UInt64 × Hal) := do
  let (status, challenge, tee) ← fpcTeeGetEnrolChallenge (m.tacOf hal.tee) m.envs hal.tee
  .ok (if status ≠ 0 then 0 else challenge.getD 0, hal.withTee tee)

/-- `fpc_post_enroll` -/
def fpcPostEnroll : Outcome (Int × Hal) := do
  let (status, _, tee) ← fpcTeeGetEnrolChallenge (m.tacOf hal.tee) m.envs hal.tee
  .ok (if status ≠ 0 then -eio else 0, hal.withTee tee)

def templatePostfix : String := "/user.db"
def templatePath : String := "/data/vendor_de/0/fpdata"

/-- The file that `fpc_set_active_group` takes, whatever path it is given. -/
def templateFile : String := templatePath ++ templatePostfix

/-- `fpc_set_active_group`. The path is logged and not used. -/
def fpcSetActiveGroup (gid : UInt32) (_storePath : String) : Outcome (Int × Hal) := do
  let hal := { hal with currentDbFile := templateFile }
  let (status, hal) ← loadTemplateDb m hal
  if status ≠ 0 then .ok (-1, hal)
  else do
    let (status, tee) ← fpcTeeSetGid (m.tacOf hal.tee) m.envs hal.tee gid
    let hal := hal.withTee tee
    if status ≠ 0 then .ok (-1, hal)
    else do
      let hal := { hal with currentGid := gid }
      let (status, dbId, tee) ← fpcTeeGetTemplateDbId (m.tacOf hal.tee) m.envs hal.tee
      let hal := { hal.withTee tee with authenticatorId := dbId.getD 0 }
      if status ≠ 0 then .ok (-1, hal) else .ok (0, hal)

/-- `fpc_authenticate`, and its task to the end. -/
def fpcAuthenticate (operationId : UInt64) (gid : UInt32) : Outcome (Option (Int × Hal)) :=
  if gid ≠ hal.currentGid then .ok (some (-1, hal))
  else do
    let ended ← doAuthenticate m { hal with challenge := operationId }
    .ok (ended.map fun hal => (0, hal))

/-- `fpc_enroll`, and its task to the end. -/
def fpcEnroll (hat : List UInt8) (gid : UInt32) : Outcome (Option (Int × Hal)) :=
  if gid ≠ hal.currentGid then .ok (some (-1, hal))
  else if hat.length ≠ sizeofHat then .ok (some (-1, hal))
  else do
    let ended ← doEnroll m { hal with hat := hat }
    .ok (ended.map fun hal => (0, hal))

/-- `fpc_cancel`, once the worker is idle. -/
def fpcCancel : Int × Hal := (0, hal.callback (.onError halCompatErrorCanceled))

/-- `fpc_remove`, and its task to the end. -/
def fpcRemove (gid fid : UInt32) : Outcome (Int × Hal) :=
  if gid ≠ hal.currentGid then .ok (-2, hal)
  else do
    let hal ← doRemove m { hal with removeFid := fid }
    .ok (0, hal)

/-- `fpc_enumerate`, and its task to the end. -/
def fpcEnumerate : Outcome (Int × Hal) := do
  let hal ← doEnumerate m hal
  .ok (0, hal)

/-- `fpc_get_authenticator_id` -/
def fpcGetAuthenticatorId : UInt64 := hal.authenticatorId

end

end Fpc
