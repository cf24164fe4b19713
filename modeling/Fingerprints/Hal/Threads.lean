import Fingerprints.Runs.History
import Mathlib.Logic.Function.Basic

/-!
# Threads of the HAL

`fpc_tee_hal.c`, `fpc_worker.c`, `nav/fpc_hal_navigation.c` and the extensions. Calls of any number
of clients, the thread that runs the tasks of the HAL and the one of the navigation loop take turns
between their lock operations.

An entry point is a `Prog`, what is left of a call. What decides its branches is read or answered in
it; callbacks, and locks that guard the data of an extension alone, are left out. The flag that
cancels the captures only makes a task return, with a status that is arbitrary here.
-/

namespace Fpc.Threads

open Runs

/-! ## Workers -/

/-- `fpc_worker_t`: what its thread runs, `none` for `WORKER_STATE_IDLE`, and whether a task is handed
over that was not taken. -/
structure Worker (β : Type) where
  running : Option β
  task : Bool

/-! ## The navigation module -/

/-- `nav_module_t` -/
structure NavModule where
  enabled : Bool
  paused : Bool
  configured : Bool
  cancel : Bool

/-- The loop is to run. -/
def NavModule.runs (nav : NavModule) : Bool := nav.enabled && !nav.paused

/-- What an operation of the module does with the thread of the loop. -/
inductive NavWork
  | nothing
  | cancel
  | runTask
  deriving DecidableEq

/-- An operation of the module under its mutex: what it does with the loop, and what it leaves then.
The loop is cancelled where it ran and is not to run behind it, and the other way round. -/
structure NavOp where
  work : NavModule → NavWork
  update : NavModule → NavModule
  keeps : ∀ nav, work nav = .nothing → nav.runs = true → (update nav).runs = true
  cancels : ∀ nav, work nav = .cancel → nav.runs = true
  starts : ∀ nav, work nav = .runTask → nav.runs = false ∧ (update nav).runs = true

/-- `fpc_navigation_pause` -/
def fpcNavigationPause : NavOp where
  work nav := if nav.enabled && !nav.paused then .cancel else .nothing
  update nav := { nav with paused := true }
  keeps := by simp +contextual [NavModule.runs]
  cancels := by simp +contextual [NavModule.runs]
  starts := by grind

/-- `fpc_navigation_resume` -/
def fpcNavigationResume : NavOp where
  work nav := if nav.enabled && nav.paused then .runTask else .nothing
  update nav := { nav with paused := false }
  keeps := by simp +contextual [NavModule.runs]
  cancels := by grind
  starts := by simp +contextual [NavModule.runs]

/-- `set_enabled` of the navigation -/
def navSetEnabled (enabled : Bool) : NavOp where
  work nav :=
    let isRunning := nav.enabled && !nav.paused
    let shouldRun := enabled && !nav.paused
    if shouldRun && !isRunning then .runTask
    else if !shouldRun && isRunning then .cancel
    else .nothing
  update nav := { nav with enabled := enabled }
  keeps := by grind [NavModule.runs]
  cancels := by grind [NavModule.runs]
  starts := by grind [NavModule.runs]

/-- `set_config` of the navigation -/
def navSetConfig : NavOp where
  work _ := .nothing
  update nav := { nav with configured := true }
  keeps := by simp [NavModule.runs]
  cancels := by simp
  starts := by simp

/-- `get_enabled` and `get_config` of the navigation -/
def navGet : NavOp where
  work _ := .nothing
  update nav := nav
  keeps := by simp
  cancels := by simp
  starts := by simp

/-- Where `nav_loop` is. -/
inductive NavLoop
  | start
  | setConfig
  | init
  | check
  | poll
  | request
  | exit
  deriving DecidableEq

/-- The places of `nav_loop` that are calls of `fpc_tee_nav.c`. -/
def NavLoop.calls : NavLoop → Bool
  | .setConfig | .init | .poll | .exit => true
  | .start | .check | .request => false

/-- `nav_loop`: where it goes on, by the status of the call or of the wait for the interrupt. -/
def NavLoop.next (nav : NavModule) (status : Int) : NavLoop → Option NavLoop
  | .start => if nav.configured then some .setConfig else some .init
  | .setConfig => if status ≠ 0 then none else some .init
  | .init => if status ≠ 0 then none else some .check
  | .check => if nav.cancel then some .exit else some .poll
  | .poll => if status ≠ 0 then some .exit else some .request
  | .request => if status ≠ 0 then some .exit else some .check
  | .exit => none

/-! ## The entry points -/

/-- `fpc_task_owner_t` -/
inductive TaskOwner
  | hal
  | halExt
  deriving DecidableEq

/-- `fpc_hal_common_t`: what branches of entry points read. -/
structure HalCommon where
  currentGid : UInt32
  owner : TaskOwner

/-- What a call of the client library returns. -/
structure Answer where
  status : Int
  value : Int

/-- What is left of a call of an entry point. `lock` and `unlock` are of `hal->lock`, `join` is
`fpc_worker_join_task` of the worker of the HAL, `post` and `taken` are `fpc_worker_run_task` up to
its wait and behind it, and `tee` is a call of the client library, which issues its commands on
`tee->shared_buffer`. -/
inductive Prog
  | ret
  | lock (rest : Prog)
  | unlock (rest : Prog)
  | join (rest : Prog)
  | nav (op : NavOp) (rest : Prog)
  | post (rest : Prog)
  | taken (rest : Prog)
  | read (rest : HalCommon → Prog)
  | write (f : HalCommon → HalCommon) (rest : Prog)
  | tee (rest : Answer → Prog)

open Prog

/-- `fingerprint_hal_do_async_work` -/
def fingerprintHalDoAsyncWork (owner : TaskOwner) (rest : Prog) : Prog :=
  join (nav fpcNavigationPause (write (fun hal => { hal with owner }) (post (taken rest))))

/-- `fingerprint_hal_goto_idle` -/
def fingerprintHalGotoIdle (rest : Prog) : Prog := join (nav fpcNavigationPause rest)

/-- `fingerprint_hal_resume` -/
def fingerprintHalResume (rest : Prog) : Prog := join (nav fpcNavigationResume rest)

/-- An entry point that issues its commands itself. -/
def whileIdle (body : Prog → Prog) : Prog :=
  lock (fingerprintHalGotoIdle (body (fingerprintHalResume (unlock ret))))

/-- An entry point that hands over a task. -/
def asTask (owner : TaskOwner) : Prog :=
  lock (fingerprintHalGotoIdle (fingerprintHalDoAsyncWork owner (unlock ret)))

/-- A call whose answer decides nothing. -/
def teeCall (rest : Prog) : Prog := tee fun _ => rest

/-! ### `fpc_tee_hal.c` -/

def fpcPreEnroll : Prog := whileIdle teeCall

def fpcPostEnroll : Prog := whileIdle teeCall

def fpcGetAuthenticatorId : Prog := lock (unlock ret)

def fpcSetActiveGroup (gid : UInt32) : Prog :=
  whileIdle fun out =>
    tee fun load =>
      if load.status ≠ 0 then out
      else tee fun setGid =>
        if setGid.status ≠ 0 then out
        else write (fun hal => { hal with currentGid := gid }) (teeCall out)

def fpcAuthenticate (gid : UInt32) : Prog :=
  lock (read fun hal =>
    if gid ≠ hal.currentGid then unlock ret
    else fingerprintHalGotoIdle (fingerprintHalDoAsyncWork .hal (unlock ret)))

def fpcEnroll (gid : UInt32) (sizeHat : Nat) : Prog :=
  lock (read fun hal =>
    if gid ≠ hal.currentGid then unlock ret
    else if sizeHat ≠ 69 then unlock ret
    else fingerprintHalGotoIdle (fingerprintHalDoAsyncWork .hal (unlock ret)))

def fpcCancel : Prog :=
  lock (read fun hal =>
    if hal.owner = .hal then fingerprintHalGotoIdle (fingerprintHalResume (unlock ret))
    else unlock ret)

def fpcRemove (gid : UInt32) : Prog :=
  lock (read fun hal =>
    if gid ≠ hal.currentGid then unlock ret
    else fingerprintHalGotoIdle (fingerprintHalDoAsyncWork .hal (unlock ret)))

def fpcEnumerate : Prog := asTask .hal

/-! ### `fpc_hal_ext_sensortest.c` -/

/-- `FPC_HAL_EXT_SENSORTEST_TESTS_MAX` -/
def testsMax : Int := 16

/-- `add_sensor_test`, with the exit where the list is full. -/
def addSensorTest (size : Int) (out : Prog) (rest : Int → Prog) : Prog :=
  if size < testsMax then rest (size + 1) else out

/-- The tests of `get_sensor_tests` that are asked for before they are added. -/
def addSupportedTests (out : Prog) : (tests : Nat) → (size : Int) → Prog
  | 0, _ => out
  | tests + 1, size =>
      tee fun answer =>
        if answer.status = 0 ∧ answer.value = 1 then
          addSensorTest size out (addSupportedTests out tests)
        else addSupportedTests out tests size

def getSensorInfo : Prog := whileIdle teeCall

def getSensorTests (size : Int) : Prog :=
  whileIdle fun out =>
    addSensorTest size out fun size =>
      addSensorTest size out fun size => addSupportedTests out 8 size

def runSensorTest (valid : Bool) : Prog := if valid then asTask .halExt else ret

def cancelSensorTest : Prog := whileIdle id

def sensortestCapture (valid : Bool) : Prog := if valid then asTask .halExt else ret

def sensortestCancelCapture : Prog := whileIdle id

/-! ### `fpc_hal_ext_sense_touch.c` -/

def getForce : Prog := whileIdle teeCall

def isSupported : Prog := whileIdle teeCall

/-! ### `fpc_hal_ext_engineering.c` -/

/-- `fpc_capture_mode_t`, and what is none of its values. -/
inductive CaptureMode
  | capture
  | verify
  | enroll
  | other
  deriving DecidableEq

def getEnrollChallenge : Prog := whileIdle teeCall

def setEnrollToken : Prog := whileIdle teeCall

def startCapture : CaptureMode → Prog
  | .capture | .verify | .enroll => asTask .halExt
  | .other => lock (unlock ret)

def cancelCapture : Prog := whileIdle id

/-! ### `fpc_hal_ext_authenticator.c` -/

def verifyUser (valid : Bool) : Prog :=
  lock (if valid then
      fingerprintHalGotoIdle (fingerprintHalDoAsyncWork .halExt (unlock ret))
    else unlock ret)

def authenticatorCancel : Prog := whileIdle id

def isUserValid : Prog := whileIdle teeCall

/-! ### `fpc_hal_ext_calibration.c` and `fpc_hal_ext_recalibration.c` -/

def calibratePn : Prog := asTask .halExt

/-- `pre_recalibrate_pn`: it takes no lock. -/
def preRecalibratePn : Prog := teeCall ret

def recalibratePn (allocated : Bool) : Prog := if allocated then asTask .halExt else ret

def cancelRecalibration : Prog := whileIdle id

/-- The entry points, with what decides their branches. -/
inductive EntryPoint
  | preEnroll
  | postEnroll
  | getAuthenticatorId
  | setActiveGroup (gid : UInt32)
  | authenticate (gid : UInt32)
  | enroll (gid : UInt32) (sizeHat : Nat)
  | cancel
  | remove (gid : UInt32)
  | enumerate
  | navigationSetEnabled (enabled : Bool)
  | navigationSetConfig
  | navigationGet
  | getSensorInfo
  | getSensorTests (size : Int)
  | runSensorTest (valid : Bool)
  | cancelSensorTest
  | sensortestCapture (valid : Bool)
  | sensortestCancelCapture
  | getForce
  | isSupported
  | getEnrollChallenge
  | setEnrollToken
  | startCapture (mode : CaptureMode)
  | cancelCapture
  | verifyUser (valid : Bool)
  | authenticatorCancel
  | isUserValid
  | calibratePn
  | preRecalibratePn
  | recalibratePn (allocated : Bool)
  | cancelRecalibration
  deriving DecidableEq

def EntryPoint.prog : EntryPoint → Prog
  | .preEnroll => fpcPreEnroll
  | .postEnroll => fpcPostEnroll
  | .getAuthenticatorId => fpcGetAuthenticatorId
  | .setActiveGroup gid => fpcSetActiveGroup gid
  | .authenticate gid => fpcAuthenticate gid
  | .enroll gid sizeHat => fpcEnroll gid sizeHat
  | .cancel => fpcCancel
  | .remove gid => fpcRemove gid
  | .enumerate => fpcEnumerate
  | .navigationSetEnabled enabled => nav (navSetEnabled enabled) ret
  | .navigationSetConfig => nav navSetConfig ret
  | .navigationGet => nav navGet ret
  | .getSensorInfo => Threads.getSensorInfo
  | .getSensorTests size => Threads.getSensorTests size
  | .runSensorTest valid => Threads.runSensorTest valid
  | .cancelSensorTest => Threads.cancelSensorTest
  | .sensortestCapture valid => Threads.sensortestCapture valid
  | .sensortestCancelCapture => Threads.sensortestCancelCapture
  | .getForce => Threads.getForce
  | .isSupported => Threads.isSupported
  | .getEnrollChallenge => Threads.getEnrollChallenge
  | .setEnrollToken => Threads.setEnrollToken
  | .startCapture mode => Threads.startCapture mode
  | .cancelCapture => Threads.cancelCapture
  | .verifyUser valid => Threads.verifyUser valid
  | .authenticatorCancel => Threads.authenticatorCancel
  | .isUserValid => Threads.isUserValid
  | .calibratePn => Threads.calibratePn
  | .preRecalibratePn => Threads.preRecalibratePn
  | .recalibratePn allocated => Threads.recalibratePn allocated
  | .cancelRecalibration => Threads.cancelRecalibration

/-! ## The device -/

/-- Where the thread of `hal->worker` is in `hal_work_func`. -/
inductive HalWork
  | task
  | resume
  deriving DecidableEq

/-- Who issues commands: the thread of a call, the one of the tasks, the one of the loop. -/
inductive Party (T : Type)
  | client (t : T)
  | worker
  | nav
  deriving DecidableEq

/-- Where an operation of the navigation module is that holds the mutex. -/
inductive NavPhase
  | cancelling
  | posting
  | taking
  | leaving
  deriving DecidableEq

/-- The holder of the mutex of the navigation module. -/
structure NavHolder (T : Type) where
  party : Party T
  op : NavOp
  phase : NavPhase

/-- The threads, what they share, whose command is in `tee->shared_buffer`, and who filled one in and
waits for its answer. -/
structure State (T : Type) where
  lock : Option T
  hal : HalCommon
  worker : Worker HalWork
  nav : NavModule
  navMutex : Option (NavHolder T)
  navThread : Worker NavLoop
  calls : T → Option (EntryPoint × Prog)
  buffer : Option (Party T)
  pending : Party T → Bool

section

variable {T : Type} [DecidableEq T]

/-- The call of a client goes on. -/
def State.move (s : State T) (t : T) (e : EntryPoint) (rest : Prog) : State T :=
  { s with calls := Function.update s.calls t (some (e, rest)) }

/-- A party is in a call of the client library. -/
def State.InTee (s : State T) : Party T → Prop
  | .client t => ∃ e rest, s.calls t = some (e, .tee rest)
  | .worker => s.worker.running = some .task
  | .nav => ∃ stage, s.navThread.running = some stage ∧ stage.calls = true

/-- A party is at an operation of the navigation module. -/
def State.AtOp (s : State T) (op : NavOp) : Party T → Prop
  | .client t => ∃ e rest, s.calls t = some (e, .nav op rest)
  | .worker => s.worker.running = some .resume ∧ op = fpcNavigationResume
  | .nav => False

/-- An operation took the mutex. -/
def State.enter (s : State T) (p : Party T) (op : NavOp) : State T :=
  match op.work s.nav with
  | .nothing => { s with navMutex := some ⟨p, op, .leaving⟩ }
  | .cancel => { s with navMutex := some ⟨p, op, .cancelling⟩, nav := { s.nav with cancel := true } }
  | .runTask => { s with navMutex := some ⟨p, op, .posting⟩ }

/-- An operation leaves the module and its mutex. -/
def State.leave (s : State T) (op : NavOp) : State T :=
  { s with nav := op.update s.nav, navMutex := none }

/-- What a thread does. -/
inductive Action (T : Type)
  | fill (p : Party T)
  | answer (p : Party T)
  | other

/-- The steps of the threads. -/
inductive Step : State T → Action T → State T → Prop
  -- the calls
  | call {s : State T} (t : T) (e : EntryPoint) (hcall : s.calls t = none) :
      Step s .other (s.move t e e.prog)
  | ret {s : State T} {t : T} {e : EntryPoint} (hcall : s.calls t = some (e, .ret)) :
      Step s .other { s with calls := Function.update s.calls t none }
  | lock {s : State T} {t : T} {e : EntryPoint} {rest : Prog}
      (hcall : s.calls t = some (e, .lock rest)) (hfree : s.lock = none) :
      Step s .other { s.move t e rest with lock := some t }
  | unlock {s : State T} {t : T} {e : EntryPoint} {rest : Prog}
      (hcall : s.calls t = some (e, .unlock rest)) :
      Step s .other { s.move t e rest with lock := none }
  | join {s : State T} {t : T} {e : EntryPoint} {rest : Prog}
      (hcall : s.calls t = some (e, .join rest)) (hidle : s.worker.running = none) :
      Step s .other (s.move t e rest)
  | post {s : State T} {t : T} {e : EntryPoint} {rest : Prog}
      (hcall : s.calls t = some (e, .post rest)) :
      Step s .other { s.move t e rest with worker := { s.worker with task := true } }
  | taken {s : State T} {t : T} {e : EntryPoint} {rest : Prog}
      (hcall : s.calls t = some (e, .taken rest)) (htaken : s.worker.task = false) :
      Step s .other (s.move t e rest)
  | read {s : State T} {t : T} {e : EntryPoint} {rest : HalCommon → Prog}
      (hcall : s.calls t = some (e, .read rest)) :
      Step s .other (s.move t e (rest s.hal))
  | write {s : State T} {t : T} {e : EntryPoint} {f : HalCommon → HalCommon} {rest : Prog}
      (hcall : s.calls t = some (e, .write f rest)) :
      Step s .other { s.move t e rest with hal := f s.hal }
  | teeReturn {s : State T} {t : T} {e : EntryPoint} {rest : Answer → Prog} (answer : Answer)
      (hcall : s.calls t = some (e, .tee rest)) (hdone : s.pending (.client t) = false) :
      Step s .other (s.move t e (rest answer))
  -- the tasks of the HAL
  | take {s : State T} (hidle : s.worker.running = none) (htask : s.worker.task = true) :
      Step s .other { s with worker := ⟨some .task, false⟩ }
  | taskDone {s : State T} (htask : s.worker.running = some .task)
      (hdone : s.pending .worker = false) :
      Step s .other { s with worker := { s.worker with running := some .resume } }
  -- the operations of the navigation module
  | enter {s : State T} {p : Party T} {op : NavOp} (hat : s.AtOp op p) (hfree : s.navMutex = none) :
      Step s .other (s.enter p op)
  | cancelled {s : State T} {p : Party T} {op : NavOp}
      (hmutex : s.navMutex = some ⟨p, op, .cancelling⟩) (hidle : s.navThread.running = none) :
      Step s .other { s with navMutex := some ⟨p, op, .leaving⟩
                             nav := { s.nav with cancel := false } }
  | navPost {s : State T} {p : Party T} {op : NavOp}
      (hmutex : s.navMutex = some ⟨p, op, .posting⟩) :
      Step s .other { s with navMutex := some ⟨p, op, .taking⟩
                             navThread := { s.navThread with task := true } }
  | navTaken {s : State T} {p : Party T} {op : NavOp}
      (hmutex : s.navMutex = some ⟨p, op, .taking⟩) (htaken : s.navThread.task = false) :
      Step s .other { s with navMutex := some ⟨p, op, .leaving⟩ }
  | leaveClient {s : State T} {t : T} {op : NavOp} {e : EntryPoint} {rest : Prog}
      (hmutex : s.navMutex = some ⟨.client t, op, .leaving⟩)
      (hcall : s.calls t = some (e, .nav op rest)) :
      Step s .other ((s.leave op).move t e rest)
  | leaveWorker {s : State T} {op : NavOp}
      (hmutex : s.navMutex = some ⟨.worker, op, .leaving⟩) :
      Step s .other { s.leave op with worker := { s.worker with running := none } }
  -- the navigation loop
  | navTake {s : State T} (hidle : s.navThread.running = none) (htask : s.navThread.task = true) :
      Step s .other { s with navThread := ⟨some .start, false⟩ }
  | navNext {s : State T} {stage : NavLoop} (status : Int)
      (hrunning : s.navThread.running = some stage) (hdone : s.pending .nav = false) :
      Step s .other { s with navThread := { s.navThread with running := stage.next s.nav status } }
  -- the commands
  | fill {s : State T} {p : Party T} (hin : s.InTee p) (hdone : s.pending p = false) :
      Step s (.fill p) { s with buffer := some p, pending := Function.update s.pending p true }
  | answer {s : State T} {p : Party T} (hpending : s.pending p = true) :
      Step s (.answer p) { s with pending := Function.update s.pending p false }

/-- A step, with the state it was taken in. -/
structure Moment (T : Type) where
  before : State T
  action : Action T

/-- The device that `fpc_hal_open` left. -/
def opened : State T where
  lock := none
  hal := ⟨0, .hal⟩
  worker := ⟨none, false⟩
  nav := ⟨true, false, false, false⟩
  navMutex := none
  navThread := ⟨some .start, false⟩
  calls _ := none
  buffer := none
  pending _ := false

/-- The device at work. -/
def deviceSystem : System (State T) (Moment T) where
  init s := s = opened
  step s m s' := m.before = s ∧ Step s m.action s'

end

end Fpc.Threads
