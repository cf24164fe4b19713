import Fingerprints.Hal.Device
import Fingerprints.Runs.History
import Fingerprints.Ta.Pn

/-!
# Recalibration

`pn/fpc_hal_ext_recalibration.c`. Calls of `set_recalibration_cb`, `recalibrate_pn` and
`cancel_recalibration` by any number of clients take turns with the task `do_recalibrate_pn`, statement
by statement where they touch the module they share. The token is copied to a block of its own, and a
block is a number that is not given out again.

What a call of the client library returns is arbitrary. The worker runs no tasks but these, and the
steps of `goto_idle` and `resume` that touch the navigation and the sensor alone are left out.
-/

namespace Fpc.Recalibration

open Runs

/-! ## The module -/

def errorAuthorization : Int := 0
def errorFailed : Int := 2
def errorCanceled : Int := 3
def errorMemory : Int := 4
def errorInternal : Int := 5

/-- `recalibration_module_t`. A callback stands for itself and its context. -/
structure Module (C : Type) where
  statusCb : Option C
  errorCb : Option C
  token : Option Nat
  sizeToken : Nat
  canceled : Bool

/-- What a run belongs to: the token and its copy, and the callbacks that were registered. -/
structure Start (C : Type) where
  token : List UInt8
  block : Nat
  statusCb : Option C
  errorCb : Option C

/-- The terminal reports. -/
inductive Report (C : Type)
  | done (cb : C)
  | error (cb : C) (code : Int)

/-- The statements of `reset_recalibration`. -/
inductive ResetStage
  | errorCb
  | statusCb
  | free
  | token
  | size
  deriving DecidableEq

/-- The statements of `do_recalibrate_pn`. -/
inductive TaskStage
  | args
  | authorize (token : Option Nat) (size : Nat)
  | waiting
  | lost
  | down
  | calibrate
  | readCancel (status : Int)
  | update (status : Int)
  | size
  | buffer
  | fingerEnd
  | save
  | load
  | done
  | out (status code : Int)
  | reset (stage : ResetStage)
  deriving DecidableEq

/-- A task that runs, with the terminal reports it made. -/
structure Task (C : Type) where
  start : Start C
  stage : TaskStage
  reports : List (Report C)

/-- The statements of `recalibrate_pn`. -/
inductive RecalibrateStage (C : Type)
  | clear (token : List UInt8)
  | alloc (token : List UInt8)
  | copy (start : Start C)
  | lock (start : Start C)
  | idle (start : Start C)
  | run (start : Start C)
  | unlock

/-- The statements of `cancel_recalibration`. -/
inductive CancelStage
  | flag
  | lock
  | idle
  | unlock
  | reset (stage : ResetStage)

/-- A call of a client that is under way. -/
inductive Call (C : Type)
  | recalibrate (stage : RecalibrateStage C)
  | cancel (stage : CancelStage)

/-- What a call of `recalibrate_pn` prepares. -/
def Call.start? {C : Type} : Call C → Option (Start C)
  | .recalibrate (.copy start) | .recalibrate (.lock start) | .recalibrate (.idle start)
  | .recalibrate (.run start) => some start
  | _ => none

/-- The module, the blocks that are live, `hal->lock`, the worker and the calls. -/
structure State (T C : Type) where
  module : Module C
  heap : Nat → Option (List UInt8)
  fresh : Nat
  lock : Option T
  worker : Option (Task C)
  calls : T → Option (Call C)

/-- What happens next: a call, the next statement of a client or of the task. The outcomes are those
of `malloc` and of the client library. -/
inductive Action (T C : Type)
  | setRecalibrationCb (statusCb errorCb : Option C)
  | recalibratePn (t : T) (token : List UInt8)
  | cancelRecalibration (t : T)
  | client (t : T) (allocated : Bool)
  | task (status : Int) (allocated : Bool)

section

variable {T C : Type} [DecidableEq T] (s : State T C)

/-- A statement of `reset_recalibration`, and the next one. -/
def resetStep : ResetStage → State T C × Option ResetStage
  | .errorCb => ({ s with module := { s.module with errorCb := none } }, some .statusCb)
  | .statusCb => ({ s with module := { s.module with statusCb := none } }, some .free)
  | .free =>
      (match s.module.token with
        | none => s
        | some block => { s with heap := Function.update s.heap block none }, some .token)
  | .token => ({ s with module := { s.module with token := none } }, some .size)
  | .size => ({ s with module := { s.module with sizeToken := 0 } }, none)

def State.withCall (t : T) (call : Option (Call C)) : State T C :=
  { s with calls := Function.update s.calls t call }

@[simp] theorem withCall_calls (t : T) (call : Option (Call C)) :
    (s.withCall t call).calls = Function.update s.calls t call := rfl

@[simp] theorem withCall_module (t : T) (call : Option (Call C)) :
    (s.withCall t call).module = s.module := rfl

@[simp] theorem withCall_heap (t : T) (call : Option (Call C)) :
    (s.withCall t call).heap = s.heap := rfl

@[simp] theorem withCall_worker (t : T) (call : Option (Call C)) :
    (s.withCall t call).worker = s.worker := rfl

/-! ## The calls -/

/-- The next statement of `recalibrate_pn`. -/
def recalibrateStep (t : T) (allocated : Bool) : RecalibrateStage C → Option (State T C)
  | .clear token =>
      some ({ s with module := { s.module with canceled := false } }.withCall t
        (some (.recalibrate (.alloc token))))
  | .alloc token =>
      if allocated then
        let start := ⟨token, s.fresh, s.module.statusCb, s.module.errorCb⟩
        some ({ s with module := { s.module with token := some s.fresh }
                       -- the bytes are those that `malloc` left
                       heap := Function.update s.heap s.fresh (some (token.map fun _ => 0))
                       fresh := s.fresh + 1 }.withCall t (some (.recalibrate (.copy start))))
      else some ({ s with module := { s.module with token := none } }.withCall t none)
  | .copy start =>
      let written := match s.module.token with
        | none => s.heap
        | some block => Function.update s.heap block ((s.heap block).map fun _ => start.token)
      some ({ s with module := { s.module with sizeToken := start.token.length }
                     heap := written }.withCall t (some (.recalibrate (.lock start))))
  | .lock start =>
      if s.lock = none then
        some ({ s with lock := some t }.withCall t (some (.recalibrate (.idle start))))
      else none
  | .idle start =>
      if s.worker.isNone then some (s.withCall t (some (.recalibrate (.run start)))) else none
  | .run start =>
      if s.worker.isNone then
        some ({ s with worker := some ⟨start, .args, []⟩ }.withCall t (some (.recalibrate .unlock)))
      else none
  | .unlock => some ({ s with lock := none }.withCall t none)

/-- The next statement of `cancel_recalibration`. -/
def cancelStep (t : T) : CancelStage → Option (State T C)
  | .flag =>
      some ({ s with module := { s.module with canceled := true } }.withCall t
        (some (.cancel .lock)))
  | .lock =>
      if s.lock = none then some ({ s with lock := some t }.withCall t (some (.cancel .idle)))
      else none
  | .idle => if s.worker.isNone then some (s.withCall t (some (.cancel .unlock))) else none
  | .unlock => some ({ s with lock := none }.withCall t (some (.cancel (.reset .errorCb))))
  | .reset stage =>
      let (s, next) := resetStep s stage
      some (s.withCall t (next.map fun stage => .cancel (.reset stage)))

/-! ## The task -/

/-- Where a statement goes on that jumps to `out` with an error code. -/
def orOut (status code : Int) (next : TaskStage) : TaskStage :=
  if status ≠ 0 then .out status code else next

/-- Where `do_recalibrate_pn` goes on up to its reports. -/
def nextStage (status : Int) (allocated : Bool) : TaskStage → TaskStage
  | .args => .authorize s.module.token s.module.sizeToken
  | .authorize _ _ =>
      if allocated then orOut status errorAuthorization .waiting
      else .out (-fpcErrorAlloc) errorAuthorization
  | .waiting => .lost
  | .lost => if status = fpcCaptureFingerStuck then .lost else .down
  | .down => orOut status errorCanceled .calibrate
  | .calibrate => .readCancel status
  | .readCancel status =>
      if status = -fpcPnFailed ∨ status = -fpcErrorCancelled ∨ s.module.canceled then
        .out status (if s.module.canceled then errorCanceled else errorFailed)
      else .update status
  | .update status =>
      if status = -fpcPnRetryCalibration then .calibrate else orOut status errorInternal .size
  | .size => orOut status errorInternal .buffer
  | .buffer => if allocated then .fingerEnd else .out (-fpcErrorAlloc) errorMemory
  | .fingerEnd => orOut status errorInternal .save
  | .save => orOut status errorInternal .load
  | .load => orOut status errorInternal .done
  | .done => .out 0 0
  | .out _ _ => .reset .errorCb
  | .reset stage => .reset stage

/-- `cb_recalibration_status` of the end of a run, and `cb_recalibration_error`. -/
def newReports : TaskStage → List (Report C)
  | .done => (s.module.statusCb.map fun cb => .done cb).toList
  | .out status code =>
      if status ≠ 0 then (s.module.errorCb.map fun cb => .error cb code).toList else []
  | _ => []

/-- The next statement of `do_recalibrate_pn`. -/
def taskStep (task : Task C) (status : Int) (allocated : Bool) : State T C :=
  match task.stage with
  | .reset stage =>
      let (s, next) := resetStep s stage
      { s with worker := next.map fun stage => { task with stage := .reset stage } }
  | stage =>
      { s with worker := some { task with
                                stage := nextStage s status allocated stage
                                reports := task.reports ++ newReports s stage } }

/-- What an action does, where it can be taken. -/
def State.step : Action T C → Option (State T C)
  | .setRecalibrationCb statusCb errorCb =>
      some { s with module := { s.module with statusCb, errorCb } }
  | .recalibratePn t token =>
      if (s.calls t).isNone then some (s.withCall t (some (.recalibrate (.clear token)))) else none
  | .cancelRecalibration t =>
      if (s.calls t).isNone then some (s.withCall t (some (.cancel .flag))) else none
  | .client t allocated =>
      match s.calls t with
      | none => none
      | some (.recalibrate stage) => recalibrateStep s t allocated stage
      | some (.cancel stage) => cancelStep s t stage
  | .task status allocated => s.worker.map fun task => taskStep s task status allocated

/-- A step, with the state it was taken in. -/
structure Moment (T C : Type) where
  before : State T C
  action : Action T C

/-- The module that `fpc_recalibration_new` left. -/
def opened : State T C where
  module := ⟨none, none, none, 0, false⟩
  heap _ := none
  fresh := 0
  lock := none
  worker := none
  calls _ := none

/-- The module at work. -/
def moduleSystem : System (State T C) (Moment T C) where
  init s := s = opened
  step s m s' := m.before = s ∧ s.step m.action = some s'

/-! ## What the runs are to do -/

/-- The bytes that are read behind a pointer, none where they are not those of a live block. -/
def readBytes (pointer : Option Nat) (size : Nat) : Option (List UInt8) :=
  match pointer with
  | none => if size = 0 then some [] else none
  | some block =>
      match s.heap block with
      | none => none
      | some bytes => if size ≤ bytes.length then some (bytes.take size) else none

/-- `free` and `memcpy` meet no block that was freed. -/
def TokenLive : Prop := ∀ block, s.module.token = some block → s.heap block ≠ none

/-- A run whose callbacks were registered reported once to them. -/
def Reported (start : Start C) (reports : List (Report C)) : Prop :=
  ∀ statusCb errorCb, start.statusCb = some statusCb → start.errorCb = some errorCb →
    reports = [.done statusCb] ∨ ∃ code, reports = [.error errorCb code]

/-- What a statement of the task is to meet: the token of its call where it authorizes, a live block
where it frees one, and in the end that its copy is freed and that it reported. -/
def TaskTruthful (task : Task C) (allocated : Bool) : Prop :=
  match task.stage with
  | .authorize pointer size =>
      allocated = true → readBytes s pointer size = some task.start.token
  | .reset .free => TokenLive s
  | .reset .size => s.heap task.start.block = none ∧ Reported task.start task.reports
  | _ => True

/-- What a step is to meet. -/
def Truthful (m : Moment T C) : Prop :=
  match m.action with
  | .task _ allocated => ∀ task, m.before.worker = some task → TaskTruthful m.before task allocated
  | .client t _ =>
      match m.before.calls t with
      | some (.recalibrate (.copy _)) => m.before.module.token ≠ none ∧ TokenLive m.before
      | some (.cancel (.reset .free)) => TokenLive m.before
      | _ => True
  | _ => True

/-- A run is in progress from the allocation of its token to the last statement of its task. -/
def InProgress : Prop := s.worker ≠ none ∨ ∃ t, (s.calls t).bind Call.start? ≠ none

/-- No call touches the token or the callbacks while a run is in progress, and a cancellation is not
read behind a step of the calibration that succeeded. -/
def Apart (m : Moment T C) : Prop :=
  match m.action with
  | .setRecalibrationCb _ _ => ¬ InProgress m.before
  | .client t _ =>
      match m.before.calls t with
      | some (.recalibrate (.alloc _)) => ¬ InProgress m.before
      | some (.cancel (.reset _)) => ¬ InProgress m.before
      | _ => True
  | .task _ _ =>
      ∀ task, m.before.worker = some task → task.stage = .readCancel fpcPnOk →
        m.before.module.canceled = false
  | _ => True

end

end Fpc.Recalibration
