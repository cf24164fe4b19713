import Fingerprints.Hal.Device
import Fingerprints.Runs.History

/-!
# Captures of the sensor test

`capture` and `do_capture` of `fpc_hal_ext_sensortest.c`. A call writes what is asked for into the
module, behind a join of the task in front of it, and the task reads it there.

* **`Inv.step`**: while a task runs the module holds what was asked for, but for the uncalibrated
  capture, which is written as not asked for;
* **`sensortestOk_step_iff`**: a result of the sensor keeps the captures as asked for and answered
  exactly when no uncalibrated one was asked for and the result that ends the task is one that is
  answered;
* **`sensortestOk_iff`**: so for all states of a run.
-/

namespace Fpc.Sensortest

open Runs

def eintr : Int := 4
def einval : Int := 22

/-! ## The module -/

/-- The arguments of `capture`. A null pointer is `none`. -/
structure Request (C : Type) where
  waitForFinger : Bool
  uncalibrated : Bool
  ctx : Option C
  acquiredCb : Option C
  errorCb : Option C

/-- `sensortest_module_t`: what captures use of it. -/
structure Module (C : Type) where
  waitForFinger : Bool
  uncalibrated : Bool
  captureCbCtx : Option C
  captureAcquiredCb : Option C
  captureErrorCb : Option C
  engineering : Bool

/-- The captures of the client library. -/
inductive SensorCall
  | captureUncalibrated
  | captureImage
  | captureSnapshot
  deriving DecidableEq, Repr

/-- `fingerprint_acquired_info_t` -/
inductive AcquiredInfo
  | good
  | insufficient
  deriving DecidableEq, Repr

/-- What a task calls in the end: the callbacks, with their context, and the image subscription. -/
inductive Report (C : Type)
  | acquired (cb ctx : Option C) (info : AcquiredInfo)
  | error (cb ctx : Option C)
  | imageSubscription

/-- An acquired or an error callback. -/
def Report.answers {C : Type} : Report C → Bool
  | .acquired _ _ _ | .error _ _ => true
  | .imageSubscription => false

section

variable {C : Type}

/-- `capture` up to the task that it hands over: its status, and the module. -/
def capture (request : Request C) (module : Module C) : Int × Module C :=
  if request.ctx.isNone then (-einval, module)
  else if request.acquiredCb.isNone then (-einval, module)
  else if request.errorCb.isNone then (-einval, module)
  else if request.waitForFinger && request.uncalibrated then (-einval, module)
  else
    (0, { module with
          waitForFinger := request.waitForFinger
          uncalibrated := false
          captureCbCtx := request.ctx
          captureAcquiredCb := request.acquiredCb
          captureErrorCb := request.errorCb })

/-- The branch of `do_capture`. -/
def sensorCall (module : Module C) : SensorCall :=
  if module.uncalibrated then .captureUncalibrated
  else if module.waitForFinger then .captureImage
  else .captureSnapshot

/-- `do_capture` captures again: in the loop that waits for a finger only. -/
def retries (call : SensorCall) (status : Int) : Bool :=
  match call with
  | .captureImage =>
      status = fpcCaptureQualifyAbort ∨ status = fpcCaptureFingerStuck ∨
        status = fpcCaptureFingerLost
  | .captureUncalibrated | .captureSnapshot => false

/-- The image subscription of the engineering interface, where there is one. -/
def handleImageSubscription (module : Module C) : List (Report C) :=
  if module.engineering then [.imageSubscription] else []

/-- `do_capture` from the label `out` on. -/
def sendResult (module : Module C) (status : Int) : List (Report C) × Module C :=
  let reports :=
    if status = fpcCaptureOk then
      .acquired module.captureAcquiredCb module.captureCbCtx .good :: handleImageSubscription module
    else if status = fpcCaptureBadQuality then
      .acquired module.captureAcquiredCb module.captureCbCtx .insufficient ::
        handleImageSubscription module
    else if status = -eintr ∨ status = -fpcErrorIo ∨ status = -fpcErrorCancelled then
      [.error module.captureErrorCb module.captureCbCtx]
    else []
  (reports,
    { module with captureCbCtx := none, captureAcquiredCb := none, captureErrorCb := none })

/-! ## Runs -/

/-- A task: the call that started it, the branch that it is in, the captures that it made, and what it
reported. -/
structure Task (C : Type) where
  request : Request C
  branch : Option SensorCall
  calls : List SensorCall
  reports : List (Report C)

/-- The module, the task that runs, and those that ended. -/
structure State (C : Type) where
  module : Module C
  task : Option (Task C)
  ended : List (Task C)

/-- A call of `capture`, or a result of the sensor. -/
inductive Event (C : Type)
  | capture (request : Request C)
  | result (status : Int32)

structure Moment (C : Type) where
  before : State C
  event : Event C

/-- A call that is accepted is behind the join of the task in front of it. -/
def startTask (request : Request C) (s : State C) : State C :=
  { s with module := (capture request s.module).2
           task := some { request := request, branch := none, calls := [], reports := [] } }

/-- A task goes on by a result of the sensor. -/
def resultOf (status : Int) (task : Task C) (s : State C) : State C :=
  let call := task.branch.getD (sensorCall s.module)
  let task := { task with branch := some call, calls := task.calls ++ [call] }
  if retries call status then { s with task := some task }
  else
    let (reports, module) := sendResult s.module status
    { module := module, task := none, ended := s.ended ++ [{ task with reports := reports }] }

/-- The steps: calls of `capture`, and the results that their tasks get. -/
inductive Step : State C → Event C → State C → Prop
  | rejected {s : State C} {request : Request C} (hrejected : (capture request s.module).1 ≠ 0) :
      Step s (.capture request) s
  | accepted {s : State C} {request : Request C} (haccepted : (capture request s.module).1 = 0)
      (hjoined : s.task = none) : Step s (.capture request) (startTask request s)
  | result {s : State C} {task : Task C} (status : Int32) (htask : s.task = some task) :
      Step s (.result status) (resultOf status.toInt task s)

/-- The extension behind `fpc_sensortest_new`. -/
def sensortestSystem (C : Type) : System (State C) (Moment C) where
  init s := s.task = none ∧ s.ended = []
  step s m s' := m.before = s ∧ Step s m.event s'

/-- The capture that is asked for. -/
def Request.wants (request : Request C) : SensorCall :=
  if request.uncalibrated then .captureUncalibrated
  else if request.waitForFinger then .captureImage
  else .captureSnapshot

/-- An acquired or an error callback of the caller, with its context. -/
def Report.IsTo (request : Request C) : Report C → Prop
  | .acquired cb ctx _ => cb = request.acquiredCb ∧ ctx = request.ctx
  | .error cb ctx => cb = request.errorCb ∧ ctx = request.ctx
  | .imageSubscription => False

/-- All captures are what was asked for. -/
def Task.Honours (task : Task C) : Prop := ∀ call ∈ task.calls, call = task.request.wants

/-- One acquired or error callback is among the reports, and that is to the caller. -/
def AnswersTo (request : Request C) (reports : List (Report C)) : Prop :=
  ∃ report, reports.filter Report.answers = [report] ∧ report.IsTo request

def Task.Answers (task : Task C) : Prop := AnswersTo task.request task.reports

/-- The captures are as they are asked for, and answered when they are over. -/
structure SensortestOk (s : State C) : Prop where
  ended : ∀ task ∈ s.ended, task.Honours ∧ task.Answers
  running : ∀ task, s.task = some task → task.Honours

/-- A result that is answered. -/
def Answered (status : Int) : Prop :=
  status = fpcCaptureOk ∨ status = fpcCaptureBadQuality ∨ status = -eintr ∨
    status = -fpcErrorIo ∨ status = -fpcErrorCancelled

/-- A result comes to a task that was not asked for an uncalibrated capture, and is answered if no
other one comes behind it. -/
def ResultOk (m : Moment C) : Prop :=
  ∀ status task, m.event = .result status → m.before.task = some task →
    task.request.uncalibrated = false ∧
      (retries task.request.wants status.toInt = true ∨ Answered status.toInt)

/-! ## What a task finds -/

/-- A request that is accepted, as the module holds it. -/
structure Held (module : Module C) (request : Request C) : Prop where
  apart : ¬ (request.waitForFinger = true ∧ request.uncalibrated = true)
  waitForFinger : module.waitForFinger = request.waitForFinger
  uncalibrated : module.uncalibrated = false
  ctx : module.captureCbCtx = request.ctx
  acquiredCb : module.captureAcquiredCb = request.acquiredCb
  errorCb : module.captureErrorCb = request.errorCb

/-- While a task runs the module is that of its call. -/
def Inv (s : State C) : Prop :=
  ∀ task, s.task = some task → Held s.module task.request ∧
    (task.branch = none ∨ task.branch = some (sensorCall s.module))

variable {s s' : State C} {request : Request C} {module : Module C}

theorem capture_held (h : (capture request module).1 = 0) :
    Held (capture request module).2 request := by
  have hne : -einval ≠ 0 := by decide
  unfold capture at h ⊢
  split at h
  · exact absurd h hne
  · split at h
    · exact absurd h hne
    · split at h
      · exact absurd h hne
      · split at h
        · exact absurd h hne
        · next hctx hacquired herror hapart =>
          rw [if_neg hctx, if_neg hacquired, if_neg herror, if_neg hapart]
          exact ⟨by simpa using hapart, rfl, rfl, rfl, rfl, rfl⟩

/-- The capture that is made is the one that is asked for unless that is uncalibrated. -/
theorem Held.sensorCall_iff (h : Held module request) :
    sensorCall module = request.wants ↔ request.uncalibrated = false := by
  have hapart := h.apart
  unfold sensorCall Request.wants
  rw [h.uncalibrated, h.waitForFinger]
  cases request.uncalibrated <;> cases request.waitForFinger <;> simp_all

theorem handleImageSubscription_answers (module : Module C) :
    (handleImageSubscription module).filter Report.answers = [] := by
  unfold handleImageSubscription
  split <;> rfl

/-- The switch answers the caller for five results, and for no other one. -/
theorem Held.answers_iff (h : Held module request) (status : Int) :
    AnswersTo request (sendResult module status).1 ↔ Answered status := by
  have hacquired : ∀ info, AnswersTo request
      (.acquired module.captureAcquiredCb module.captureCbCtx info ::
        handleImageSubscription module) := by
    intro info
    refine ⟨.acquired module.captureAcquiredCb module.captureCbCtx info, ?_, h.acquiredCb, h.ctx⟩
    rw [List.filter_cons_of_pos rfl, handleImageSubscription_answers]
  have herror : AnswersTo request [.error module.captureErrorCb module.captureCbCtx] :=
    ⟨_, rfl, h.errorCb, h.ctx⟩
  have hsilent : ¬ AnswersTo request [] := by
    rintro ⟨_, hnone, _⟩
    cases hnone
  unfold sendResult Answered
  dsimp only
  split
  · next hgood => exact iff_of_true (hacquired .good) (Or.inl hgood)
  · next hgood =>
    split
    · next hbad => exact iff_of_true (hacquired .insufficient) (Or.inr (Or.inl hbad))
    · next hbad =>
      split
      · next hfailed => exact iff_of_true herror (Or.inr (Or.inr hfailed))
      · next hfailed =>
        refine iff_of_false hsilent ?_
        rintro (hgood' | hbad' | hfailed')
        · exact hgood hgood'
        · exact hbad hbad'
        · exact hfailed hfailed'

/-- A task stays in its branch. -/
theorem Inv.branch (h : Inv s) {task : Task C} (htask : s.task = some task) :
    task.branch.getD (sensorCall s.module) = sensorCall s.module := by
  obtain hnone | hsome := (h task htask).2
  · rw [hnone, Option.getD_none]
  · rw [hsome, Option.getD_some]

/-- A result, by whether the task captures again. -/
theorem Inv.resultOf_eq (h : Inv s) {task : Task C} (htask : s.task = some task) (status : Int) :
    let made := { task with branch := some (sensorCall s.module)
                            calls := task.calls ++ [sensorCall s.module] }
    resultOf status task s =
      if retries (sensorCall s.module) status then { s with task := some made }
      else
        { module := (sendResult s.module status).2
          task := none
          ended := s.ended ++ [{ made with reports := (sendResult s.module status).1 }] } := by
  unfold resultOf
  dsimp only
  rw [h.branch htask]

theorem Inv.step {e : Event C} (h : Inv s) (hstep : Step s e s') : Inv s' := by
  cases hstep with
  | rejected => exact h
  | accepted haccepted =>
    rintro _ ⟨⟩
    exact ⟨capture_held haccepted, Or.inl rfl⟩
  | @result task status htask =>
    rw [h.resultOf_eq htask]
    split
    · rintro _ ⟨⟩
      exact ⟨(h task htask).1, Or.inr rfl⟩
    · exact nofun

/-- A result keeps the captures as asked for, and answered, exactly when it is of that kind. -/
theorem sensortestOk_step_iff {m : Moment C} (hinv : Inv m.before) (hok : SensortestOk m.before)
    (hstep : Step m.before m.event s') : SensortestOk s' ↔ ResultOk m := by
  obtain ⟨s, e⟩ := m
  cases hstep with
  | rejected => exact iff_of_true hok nofun
  | accepted =>
    refine iff_of_true ⟨hok.ended, ?_⟩ nofun
    rintro _ ⟨⟩
    exact nofun
  | @result task status htask =>
    have hheld := (hinv task htask).1
    have hresult : ResultOk ⟨s, .result status⟩ ↔ task.request.uncalibrated = false ∧
        (retries task.request.wants status.toInt = true ∨ Answered status.toInt) := by
      constructor
      · exact fun h => h status task rfl htask
      · rintro h _ _ ⟨⟩ htask'
        rw [htask] at htask'
        cases htask'
        exact h
    have hhonours : ∀ branch reports, Task.Honours { task with
        branch := branch, calls := task.calls ++ [sensorCall s.module], reports := reports } ↔
          task.request.uncalibrated = false := by
      intro branch reports
      rw [← hheld.sensorCall_iff, Task.Honours, List.forall_mem_append, List.forall_mem_singleton]
      exact and_iff_right (hok.running task htask)
    rw [hresult, hinv.resultOf_eq htask]
    by_cases huncalibrated : task.request.uncalibrated = false
    · rw [← hheld.sensorCall_iff.mpr huncalibrated]
      split
      · next hretries =>
        refine iff_of_true ⟨hok.ended, ?_⟩ ⟨huncalibrated, Or.inl hretries⟩
        rintro _ ⟨⟩
        exact (hhonours _ _).mpr huncalibrated
      · next hretries =>
        have hanswers := hheld.answers_iff status.toInt
        constructor
        · intro hafter
          have hlast := hafter.ended _ (List.mem_append_right _ List.mem_cons_self)
          exact ⟨huncalibrated, Or.inr (hanswers.mp hlast.2)⟩
        · rintro ⟨_, hretries' | hanswered⟩
          · exact absurd hretries' hretries
          · refine ⟨?_, nofun⟩
            rw [List.forall_mem_append, List.forall_mem_singleton]
            exact ⟨hok.ended, (hhonours _ _).mpr huncalibrated, hanswers.mpr hanswered⟩
    · refine iff_of_false ?_ fun h => huncalibrated h.1
      intro hafter
      split at hafter
      · exact huncalibrated ((hhonours _ _).mp (hafter.running _ rfl))
      · have hlast := hafter.ended _ (List.mem_append_right _ List.mem_cons_self)
        exact huncalibrated ((hhonours _ _).mp hlast.1)

theorem run_inv {history : List (Moment C)} (hrun : (sensortestSystem C).Run history s) : Inv s := by
  refine hrun.invariant_state ?_ ?_
  · intro s hinit task htask
    rw [hinit.1] at htask
    cases htask
  · intro s m s' hinv hstep
    exact hinv.step hstep.2

/-- **When captures are as they are asked for, and answered.** In all states of a run exactly when no
result comes to a task that was asked for an uncalibrated capture, and each result that ends a task is
one of five. -/
theorem sensortestOk_iff {history : List (Moment C)}
    (hrun : (sensortestSystem C).Run history s) :
    (SensortestOk s ∧ ∀ m ∈ history, SensortestOk m.before) ↔ ∀ m ∈ history, ResultOk m := by
  rw [← System.forall_split_iff_mem, ← System.forall_split_iff_mem]
  apply hrun.throughout_history_iff (I := fun _ s => SensortestOk s) (K := fun _ m => ResultOk m)
  · intro s m s' hstep
    exact hstep.1
  · intro s hinit
    refine ⟨?_, ?_⟩
    · rw [hinit.2]
      exact nofun
    · rw [hinit.1]
      exact nofun
  · intro history s m s' hrun hok hstep
    obtain ⟨rfl, hstep⟩ := hstep
    exact sensortestOk_step_iff (run_inv hrun) hok hstep

theorem run_step {history : List (Moment C)} {e : Event C}
    (hrun : (sensortestSystem C).Run history s) (hstep : Step s e s') :
    (sensortestSystem C).Run (⟨s, e⟩ :: history) s' := hrun.step ⟨rfl, hstep⟩

end

/-- The extension before the first call, without the engineering interface. -/
def opened : State Unit where
  module := ⟨false, false, none, none, none, false⟩
  task := none
  ended := []

/-- A request with callbacks and a context. -/
def request (waitForFinger uncalibrated : Bool) : Request Unit :=
  ⟨waitForFinger, uncalibrated, some (), some (), some ()⟩

/-- A capture that waits for a finger, which is lost once. -/
theorem sensortestOk_waiting :
    ∃ (history : List (Moment Unit)) (s : State Unit), (sensortestSystem Unit).Run history s ∧
      s.ended.map Task.calls = [[.captureImage, .captureImage]] ∧
      SensortestOk s ∧ ∀ m ∈ history, SensortestOk m.before := by
  have hopened : (sensortestSystem Unit).Run [] opened := .init ⟨rfl, rfl⟩
  have hcall := run_step hopened (@Step.accepted _ _ (request true false) rfl rfl)
  have hlost := run_step hcall (.result 1 rfl)
  have hended := run_step hlost (.result 2 rfl)
  refine ⟨_, _, hended, rfl, (sensortestOk_iff hended).mpr ?_⟩
  simp only [List.forall_mem_cons]
  refine ⟨?_, ?_, nofun, List.forall_mem_nil _⟩
  · rintro _ _ ⟨⟩ ⟨⟩
    exact ⟨rfl, Or.inr (Or.inr (Or.inl rfl))⟩
  · rintro _ _ ⟨⟩ ⟨⟩
    exact ⟨rfl, Or.inl rfl⟩

/-- An uncalibrated capture is asked for and a snapshot is made; and a snapshot that loses the finger
is reported to nobody. -/
theorem sensortestOk_broken :
    (∃ (history : List (Moment Unit)) (s : State Unit), (sensortestSystem Unit).Run history s ∧
      s.ended.map Task.calls = [[.captureSnapshot]] ∧ ¬ SensortestOk s) ∧
    ∃ (history : List (Moment Unit)) (s : State Unit), (sensortestSystem Unit).Run history s ∧
      s.ended.map Task.reports = [[]] ∧ ¬ SensortestOk s := by
  have hopened : (sensortestSystem Unit).Run [] opened := .init ⟨rfl, rfl⟩
  constructor
  · have hcall := run_step hopened (@Step.accepted _ _ (request false true) rfl rfl)
    have hended := run_step hcall (.result 0 rfl)
    refine ⟨_, _, hended, rfl, ?_⟩
    intro hok
    have hwants := (hok.ended _ List.mem_cons_self).1 _ List.mem_cons_self
    cases hwants
  · have hcall := run_step hopened (@Step.accepted _ _ (request false false) rfl rfl)
    have hended := run_step hcall (.result 1 rfl)
    refine ⟨_, _, hended, rfl, ?_⟩
    intro hok
    obtain ⟨_, hnone, _⟩ := (hok.ended _ List.mem_cons_self).2
    cases hnone

end Fpc.Sensortest
