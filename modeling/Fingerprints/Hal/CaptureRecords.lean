import Fingerprints.Hal.CaptureTasks
import Fingerprints.Runs.History

/-!
# Records of the engineering captures

`start_capture` and `cancel_capture` of `fpc_hal_ext_engineering.c`, with the tasks that they wait for. A
call writes `capture_cb` and `capture_cb_ctx` before it waits for the task in front of it, which may still
read them, and which clears them with its last record. The two fields are written, read and cleared
together. What a task does with what it has read touches nothing that is shared, and is in one step with
the reading.

* **`taskStep_nextOk`**: a result keeps a task as it should be exactly when the task is prepared for it,
  and the last one when the fields of the module are those of its caller;
* **`lastAskedBy_iff`**: they are when a call with its callback and context was the last to write them;
* **`capturesOk_iff`**: so for all states of a run.
-/

namespace Fpc.CaptureRecords

open Wire Runs

/-! ## Runs -/

/-- Where the thread is that holds the lock of the device: it waits for the worker in one of the two
calls. -/
inductive Caller (C : Type)
  | idle
  | starting (request : Request C) (mode : CaptureMode)
  | cancelling

/-- The interface: the module, the caller, the task that runs, whether the task in front has still to
clear the fields of the module, and the tasks that are over. -/
structure State (C : Type) where
  module : Module C
  caller : Caller C
  task : Option (Task C)
  clearing : Bool
  ended : List (Task C)

/-- A call is made, a call that waited goes on, a task gets a result, or clears the fields of the
module. -/
inductive Event (C : Type)
  | startCapture (request : Request C)
  | cancelCapture
  | joined
  | result (result : TaskResult)
  | cleared

structure Moment (C : Type) where
  before : State C
  event : Event C

section

variable {C : Type}

/-- A task before its first call. -/
def startTask (request : Request C) (mode : CaptureMode) : Task C where
  request := request
  place := match mode with
    | .capture => .capture
    | .verify => .loadTestDb
    | .enroll => .deleteTestDb
  data := match mode with
    | .capture => .zeroed .capture
    | .verify | .enroll => .unwritten
  allocated := 0
  freed := []
  reports := []

/-- `start_capture` up to the wait for the worker. A mode that is none of the three ends it there. -/
def startCapture (request : Request C) (s : State C) : State C :=
  { s with module := ⟨request.callback, request.ctx⟩
           caller := match request.mode with
             | some mode => .starting request mode
             | none => .idle }

/-- The device with what a task does. -/
def State.goes (s : State C) : Next C → State C
  | .running task => { s with task := some task }
  | .finished task clears => { s with task := none, clearing := clears, ended := s.ended ++ [task] }

/-- The steps of the callers and of the worker. -/
inductive Step (sensorSize : Nat) : State C → Event C → State C → Prop
  | startCapture {s : State C} {request : Request C} (hcaller : s.caller = .idle) :
      Step sensorSize s (.startCapture request) (startCapture request s)
  | cancelCapture {s : State C} (hcaller : s.caller = .idle) :
      Step sensorSize s .cancelCapture { s with caller := .cancelling }
  | started {s : State C} {request : Request C} {mode : CaptureMode}
      (hcaller : s.caller = .starting request mode) (htask : s.task = none)
      (hclearing : s.clearing = false) :
      Step sensorSize s .joined { s with caller := .idle, task := some (startTask request mode) }
  | cancelled {s : State C} (hcaller : s.caller = .cancelling) (htask : s.task = none)
      (hclearing : s.clearing = false) : Step sensorSize s .joined { s with caller := .idle }
  | result {s : State C} {task : Task C} {next : Next C} {result : TaskResult}
      (htask : s.task = some task)
      (hnext : taskStep s.module task sensorSize result = some next) :
      Step sensorSize s (.result result) (s.goes next)
  | cleared {s : State C} (hclearing : s.clearing = true) :
      Step sensorSize s .cleared { s with module := ⟨none, none⟩, clearing := false }

/-- The interface behind `fpc_engineering_new`. -/
def captureSystem (C : Type) (sensorSize : Nat) : System (State C) (Moment C) where
  init s := s = ⟨⟨none, none⟩, .idle, none, false, []⟩
  step s m s' := m.before = s ∧ Step sensorSize s m.event s'

/-! ## Records that are as they should be -/

/-- The last record of a task. -/
def Report.final (report : Report C) : Bool := report.data.samplesRemaining = some 0

/-- A record for the caller. -/
def Report.IsTo (report : Report C) (request : Request C) : Prop :=
  request.callback = some report.callback ∧ request.ctx = some report.ctx

/-- A task that is over has given its caller one last record, has given away no record with a field that
it did not write, and has freed what it allocated, and that once. -/
structure Task.Over (task : Task C) : Prop where
  final : ∃ report, task.reports.filter Report.final = [report] ∧ report.IsTo task.request
  written : ∀ report ∈ task.reports, report.data.written = true
  freed : task.freed.Perm (buffers task.allocated)

/-- A task that runs has given nobody a last record, and each buffer was freed or is in the record. -/
structure Task.UnderWay (task : Task C) : Prop where
  silent : task.reports.filter Report.final = []
  written : ∀ report ∈ task.reports, report.data.written = true
  kept : (task.freed ++ task.data.held).Perm (buffers task.allocated)

/-- The tasks are as they should be. -/
structure CapturesOk (s : State C) : Prop where
  ended : ∀ task ∈ s.ended, task.Over
  running : ∀ task, s.task = some task → task.UnderWay

/-! ## When they are -/

/-- The fields of the module are written. -/
def Moment.writes (m : Moment C) : Bool :=
  match m.event with
  | .startCapture _ | .cleared => true
  | _ => false

/-- The last that was done to the fields of the module is a call with the same callback and context, and
neither is null. -/
def LastAskedBy (request : Request C) (past : List (Moment C)) : Prop :=
  ∃ m asked, latest Moment.writes past = some m ∧ m.event = .startCapture asked ∧
    asked.callback = request.callback ∧ asked.ctx = request.ctx ∧
    request.callback.isSome = true ∧ request.ctx.isSome = true

/-- A result that `do_verify` and `do_enroll` are prepared for. -/
def Usable (place : TaskPlace) : TaskResult → Prop
  | .loadTestDb status _ => status = 0
  | .deleteTestDb status => status = 0
  | .captureImages c => place = .enrolImages → ¬ c.Lost
  | _ => True

/-- The result of a task is one that it is prepared for, and when it is over with that the fields of the
module were last written by its caller. -/
def ResultOk (sensorSize : Nat) (past : List (Moment C)) (m : Moment C) : Prop :=
  ∀ result task, m.event = .result result → m.before.task = some task →
    Usable task.place result ∧
      ∀ ended clears,
        taskStep m.before.module task sensorSize result = some (.finished ended clears) →
          LastAskedBy task.request past

/-! ## What a task gives away -/

/-- The fields of the module are those of the request, and none is null. -/
def FieldsOf (module : Module C) (request : Request C) : Prop :=
  ∃ cb ctx, module = ⟨some cb, some ctx⟩ ∧ request.callback = some cb ∧ request.ctx = some ctx

/-- The reports of a record. -/
def given (module : Module C) (data : CaptureData) : List (Report C) :=
  match module.captureCb, module.captureCbCtx with
  | some cb, some ctx => [⟨cb, ctx, data⟩]
  | _, _ => []

variable {module : Module C} {task task' : Task C} {request : Request C} {data : CaptureData}

theorem executeCaptureCallback_eq :
    executeCaptureCallback module task data =
      { task with data := data, reports := task.reports ++ given module data } := by
  obtain ⟨cb, ctx⟩ := module
  cases cb with
  | none => simp [executeCaptureCallback, given]
  | some cb =>
    cases ctx with
    | none => simp [executeCaptureCallback, given]
    | some ctx => rfl

@[simp] theorem executeCaptureCallback_reports :
    (executeCaptureCallback module task data).reports = task.reports ++ given module data := by
  rw [executeCaptureCallback_eq]

@[simp] theorem executeCaptureCallback_request :
    (executeCaptureCallback module task data).request = task.request := by
  rw [executeCaptureCallback_eq]

@[simp] theorem executeCaptureCallback_allocated :
    (executeCaptureCallback module task data).allocated = task.allocated := by
  rw [executeCaptureCallback_eq]

@[simp] theorem executeCaptureCallback_freed :
    (executeCaptureCallback module task data).freed = task.freed := by
  rw [executeCaptureCallback_eq]

@[simp] theorem executeCaptureCallback_data :
    (executeCaptureCallback module task data).data = data := by
  rw [executeCaptureCallback_eq]

@[simp] theorem freeCapturedImages_reports : (freeCapturedImages task).reports = task.reports := rfl

@[simp] theorem freeCapturedImages_request : (freeCapturedImages task).request = task.request := rfl

@[simp] theorem freeCapturedImages_allocated :
    (freeCapturedImages task).allocated = task.allocated := rfl

theorem mem_given {report : Report C} (h : report ∈ given module data) : report.data = data := by
  obtain ⟨cb, ctx⟩ := module
  cases cb with
  | none => cases h
  | some cb =>
    cases ctx with
    | none => cases h
    | some ctx =>
      rw [List.mem_singleton.mp h]

/-- The records that are given away stay written. -/
theorem written_given (hwritten : ∀ report ∈ task.reports, report.data.written = true)
    (hdata : data.written = true) :
    ∀ report ∈ task.reports ++ given module data, report.data.written = true := by
  rw [List.forall_mem_append]
  refine ⟨hwritten, ?_⟩
  intro report hmem
  rw [mem_given hmem]
  exact hdata

/-- A record that is not the last one is not taken for it. -/
theorem filter_given_of_more (hmore : data.samplesRemaining ≠ some 0) :
    (given module data).filter Report.final = [] := by
  rw [List.filter_eq_nil_iff]
  intro report hmem
  simp [Report.final, mem_given hmem, hmore]

theorem remainingUnknown_ne : some remainingUnknown ≠ some 0 := by decide

/-- The last record gets to the caller exactly when the fields of the module are those of its request. -/
theorem final_given_iff (hlast : data.samplesRemaining = some 0) :
    (∃ report, (given module data).filter Report.final = [report] ∧ report.IsTo request) ↔
      FieldsOf module request := by
  obtain ⟨cb, ctx⟩ := module
  have hnobody : ∀ {module : Module C}, given module data = [] →
      ¬ ∃ report, (given module data).filter Report.final = [report] ∧ report.IsTo request := by
    rintro module hnone ⟨report, hreport, _⟩
    rw [hnone] at hreport
    cases hreport
  cases cb with
  | none => exact iff_of_false (hnobody rfl) (by rintro ⟨_, _, ⟨⟩, _⟩)
  | some cb =>
    cases ctx with
    | none => exact iff_of_false (hnobody rfl) (by rintro ⟨_, _, ⟨⟩, _⟩)
    | some ctx =>
      have hfinal : (given (⟨some cb, some ctx⟩ : Module C) data).filter Report.final =
          [⟨cb, ctx, data⟩] := by
        simp [given, Report.final, hlast]
      rw [hfinal]
      constructor
      · rintro ⟨_, ⟨⟩, hcallback, hctx⟩
        exact ⟨cb, ctx, rfl, hcallback, hctx⟩
      · rintro ⟨_, _, ⟨⟩, hcallback, hctx⟩
        exact ⟨_, rfl, hcallback, hctx⟩

theorem freeImage_of_written {image : ImageData} (hwritten : image.written = true) :
    freeImage image = image.held := by
  obtain ⟨imageType, buffer, bufferSize⟩ := image
  cases buffer with
  | none => simp [ImageData.written] at hwritten
  | some buffer => cases buffer <;> rfl

/-- What is freed of a record that is written is what it holds. -/
theorem freed_of_written (hwritten : task.data.written = true) :
    (freeCapturedImages task).freed = task.freed ++ task.data.held := by
  simp only [CaptureData.written, Bool.and_eq_true] at hwritten
  rw [CaptureData.held, ← freeImage_of_written hwritten.1.2, ← freeImage_of_written hwritten.2]
  rfl

/-- Images that are freed twice are freed once: the pointers are cleared. -/
theorem freeCapturedImages_twice :
    freeCapturedImages (freeCapturedImages task) = freeCapturedImages task := by
  simp [freeCapturedImages, ImageData.afterFree, freeImage]

/-- A task that is left with a record that is written and the last one. -/
theorem over_iff (hway : Task.UnderWay { task with data := data }) (hwritten : data.written = true)
    (hlast : data.samplesRemaining = some 0) :
    (freeCapturedImages (executeCaptureCallback module task data)).Over ↔
      FieldsOf module task.request := by
  have hfreed : (freeCapturedImages (executeCaptureCallback module task data)).freed =
      task.freed ++ data.held := by
    rw [freed_of_written (by rw [executeCaptureCallback_data]; exact hwritten),
      executeCaptureCallback_freed, executeCaptureCallback_data]
  have hsilent : task.reports.filter Report.final = [] := hway.silent
  have hfinals : (freeCapturedImages (executeCaptureCallback module task data)).reports.filter
      Report.final = (given module data).filter Report.final := by
    rw [freeCapturedImages_reports, executeCaptureCallback_reports, List.filter_append, hsilent,
      List.nil_append]
  rw [← final_given_iff hlast]
  constructor
  · intro hover
    have hfinal := hover.final
    rw [hfinals, freeCapturedImages_request, executeCaptureCallback_request] at hfinal
    exact hfinal
  · intro hfinal
    exact
      { final := by
          rw [hfinals, freeCapturedImages_request, executeCaptureCallback_request]
          exact hfinal
        written := by
          rw [freeCapturedImages_reports, executeCaptureCallback_reports]
          exact written_given hway.written hwritten
        freed := by
          rw [hfreed, freeCapturedImages_allocated, executeCaptureCallback_allocated]
          exact hway.kept }

/-- A record whose image was never written frees what nobody allocated. -/
theorem not_over_of_unwritten (hbuffer : data.rawImage.buffer = none) :
    ¬ (freeCapturedImages (executeCaptureCallback module task data)).Over := by
  intro hover
  have hwild : none ∈ (freeCapturedImages (executeCaptureCallback module task data)).freed := by
    have hfree : freeImage data.rawImage = [none] := by
      rw [freeImage, hbuffer]
    simp [freeCapturedImages, hfree]
  have hallocated := hover.freed.mem_iff.mp hwild
  simp [buffers] at hallocated

/-! ## Steps -/

/-- What a step that meets `usable` makes of a task. -/
def NextOk (usable : Prop) (module : Module C) (request : Request C) : Next C → Prop
  | .running task => task.UnderWay ↔ usable
  | .finished task _ => task.Over ↔ usable ∧ FieldsOf module request

variable {usable : Prop} {place : TaskPlace}

theorem nextOk_goto (husable : usable) (hway : Task.UnderWay { task with data := data }) :
    NextOk usable module request (goto task place data) :=
  iff_of_true ⟨hway.silent, hway.written, hway.kept⟩ husable

theorem nextOk_out (task : Task C) {stale : Int} (husable : usable) (hway : Task.UnderWay { task with data := data })
    (hwritten : data.written = true) (hlast : data.samplesRemaining = some 0) :
    NextOk usable module task.request (out module task stale data) :=
  (over_iff hway hwritten hlast).trans (and_iff_right husable).symm

theorem nextOk_error (task : Task C) (husable : usable) (hway : Task.UnderWay { task with data := data })
    (hwritten : data.written = true) :
    NextOk usable module task.request (error module task data) := by
  exact nextOk_out _ husable ⟨hway.silent, hway.written, hway.kept⟩
    (written_samplesRemaining hwritten 0) rfl

theorem nextOk_progress (husable : usable) (hway : Task.UnderWay { task with data := data })
    (hwritten : data.written = true) :
    NextOk usable module task.request (progress module task data) := by
  unfold progress
  dsimp only
  split
  · next hlast =>
    rw [freeCapturedImages_twice]
    exact (over_iff hway hwritten hlast).trans (and_iff_right husable).symm
  · next hmore =>
    have hsilent : task.reports.filter Report.final = [] := hway.silent
    refine nextOk_goto husable ⟨?_, ?_, ?_⟩
    · rw [freeCapturedImages_reports, executeCaptureCallback_reports, List.filter_append, hsilent,
        filter_given_of_more hmore, List.append_nil]
    · rw [freeCapturedImages_reports, executeCaptureCallback_reports]
      exact written_given hway.written hwritten
    · rw [freed_of_written (by rw [executeCaptureCallback_data]; exact hwritten), held_zeroed,
        List.append_nil, executeCaptureCallback_freed, executeCaptureCallback_data,
        freeCapturedImages_allocated, executeCaptureCallback_allocated]
      exact hway.kept

/-- A round without an image keeps the task under way unless its record held a buffer. -/
theorem nextOk_retry (task : Task C) (hlost : usable ↔ data.held = [])
    (hway : Task.UnderWay { task with data := data }) (hwritten : data.written = true) :
    NextOk usable module task.request (retry module task data) := by
  have hsilent : task.reports.filter Report.final = [] := hway.silent
  have hkept : (task.freed ++ data.held).Perm (buffers task.allocated) := hway.kept
  change Task.UnderWay _ ↔ usable
  rw [hlost]
  constructor
  · intro hnext
    have hfreed := hnext.kept
    rw [held_zeroed, List.append_nil, executeCaptureCallback_freed,
      executeCaptureCallback_allocated] at hfreed
    -- what was allocated is freed already, so nothing is left for the record to hold
    have hlength := (hkept.trans hfreed.symm).length_eq
    rw [List.length_append] at hlength
    exact List.length_eq_zero_iff.mp (by omega)
  · intro hheld
    rw [hheld, List.append_nil] at hkept
    refine ⟨?_, ?_, ?_⟩
    · rw [executeCaptureCallback_reports, List.filter_append, hsilent,
        filter_given_of_more remainingUnknown_ne, List.append_nil]
    · rw [executeCaptureCallback_reports]
      exact written_given hway.written (written_samplesRemaining hwritten remainingUnknown)
    · rw [held_zeroed, List.append_nil, executeCaptureCallback_freed,
        executeCaptureCallback_allocated]
      exact hkept

/-- The record behind `capture_images` holds what was allocated in it. -/
theorem Captures.underWay {c : Capture} {captured : Int × CaptureData × Nat}
    (h : Captures c task.data task.allocated captured) (hway : task.UnderWay)
    (hheld : task.data.held = []) :
    Task.UnderWay { task with data := captured.2.1, allocated := captured.2.2 } := by
  have hkept := hway.kept
  rw [hheld, List.append_nil] at hkept
  refine ⟨hway.silent, hway.written, ?_⟩
  rw [h.held]
  exact hkept.append_right _

theorem nextOk_verifyCaptured {c : Capture} {captured : Int × CaptureData × Nat}
    (h : Captures c task.data task.allocated captured) (hway : task.UnderWay)
    (hheld : task.data.held = []) (hlast : task.data.samplesRemaining = some 0) :
    NextOk (Usable .verify (.captureImages c)) module task.request
      (verifyCaptured module task captured) := by
  have hunder := h.underWay hway hheld
  have husable : Usable .verify (.captureImages c) := nofun
  obtain ⟨status, data, allocated⟩ := captured
  unfold verifyCaptured
  dsimp only
  split
  · exact nextOk_out { task with allocated := allocated } husable hunder h.written
      (h.samplesRemaining.trans hlast)
  · exact nextOk_goto husable hunder

/-- An image that is not retried is not lost either. -/
theorem nextOk_enrolCaptured {c : Capture} {captured : Int × CaptureData × Nat}
    (h : Captures c task.data task.allocated captured) (hway : task.UnderWay)
    (hheld : task.data.held = []) :
    NextOk (Usable .enrolImages (.captureImages c)) module task.request
      (enrolCaptured module task captured) := by
  have hunder := h.underWay hway hheld
  obtain ⟨status, data, allocated⟩ := captured
  unfold enrolCaptured
  dsimp only
  split
  · next hretried =>
    have hlost : Usable .enrolImages (.captureImages c) ↔ data.held = [] := by
      rw [← not_iff_not]
      simp only [Usable, true_imp_iff, not_not]
      exact h.lost hretried
    exact nextOk_retry { task with allocated := allocated } hlost hunder h.written
  · next hretried =>
    have husable : Usable .enrolImages (.captureImages c) := fun _ hlost =>
      hretried (h.retried hlost)
    split
    · exact nextOk_error { task with allocated := allocated } husable hunder h.written
    · exact nextOk_goto husable hunder

/-- A step keeps a task as it should be exactly when its result is one that the task is prepared for. By
the place that the task waits at. -/
theorem taskStep_nextOk {sensorSize : Nat} {result : TaskResult} {next : Next C}
    (hinv : TaskInv task) (hway : task.UnderWay)
    (hnext : taskStep module task sensorSize result = some next) :
    NextOk (Usable task.place result) module task.request next := by
  obtain ⟨request, place, data, allocated, freed, reports⟩ := task
  cases place <;> cases result <;> cases hnext
  case capture.captureImages.refl c =>
    obtain ⟨hwritten, hheld, hlast⟩ := hinv
    have hcaptured := captureImages_captures sensorSize c allocated hwritten hheld
    have husable : Usable .capture (.captureImages c) := nofun
    exact nextOk_out _ husable (hcaptured.underWay hway hheld) hcaptured.written
      (hcaptured.samplesRemaining.trans hlast)
  case loadTestDb.loadTestDb.refl status stale =>
    have hunwritten : data = .unwritten := hinv
    subst hunwritten
    split
    -- the jump is in front of the `memset`
    · next hfailed => exact iff_of_false (not_over_of_unwritten rfl) fun h => hfailed h.1
    · next hok => exact nextOk_goto (not_not.mp hok) ⟨hway.silent, hway.written, hway.kept⟩
  case verify.captureImages.refl c =>
    obtain ⟨hwritten, hheld, hlast⟩ := hinv
    exact nextOk_verifyCaptured (captureImages_captures _ _ _ hwritten hheld) hway hheld hlast
  case identify.identify.refl status id =>
    obtain ⟨hwritten, hlast⟩ := hinv
    dsimp only
    split
    · exact nextOk_out _ trivial ⟨hway.silent, hway.written, hway.kept⟩
        (written_identifyResult hwritten status) hlast
    · exact nextOk_goto trivial ⟨hway.silent, hway.written, hway.kept⟩
  case updateTemplate.updateTemplate.refl status =>
    obtain ⟨hwritten, hlast⟩ := hinv
    split
    · exact nextOk_out _ trivial hway hwritten hlast
    · exact nextOk_out _ trivial ⟨hway.silent, hway.written, hway.kept⟩
        (written_templateUpdateResult hwritten status) hlast
  case deleteTestDb.deleteTestDb.refl status =>
    have hunwritten : data = .unwritten := hinv
    subst hunwritten
    split
    -- so is this one, and `samples_remaining` is all that is written behind it
    · next hfailed => exact iff_of_false (not_over_of_unwritten rfl) fun h => hfailed h.1
    · next hok => exact nextOk_goto (not_not.mp hok) ⟨hway.silent, hway.written, hway.kept⟩
  case beginEnrol.beginEnrol.refl status =>
    obtain ⟨hwritten, hheld⟩ := hinv
    split
    · exact nextOk_error _ trivial ⟨hway.silent, hway.written, hway.kept⟩
        (written_enrollResult hwritten status)
    · refine nextOk_goto trivial ⟨hway.silent, hway.written, ?_⟩
      have hkept := hway.kept
      rw [show CaptureData.held data = [] from hheld] at hkept
      exact hkept
  case enrolImages.captureImages.refl c =>
    obtain ⟨hwritten, hheld⟩ := hinv
    exact nextOk_enrolCaptured (captureImages_captures _ _ _ hwritten hheld) hway hheld
  case enrol.enrol.refl status remaining =>
    have hwritten : data.written = true := hinv
    -- whether the client sets `remaining` or not, the record stays written and holds its images
    have hanswered : ∃ data', { (if status < 0 then data
          else { data with samplesRemaining := some (toInt32 remaining) }) with
            enrollResult := some status } = data' ∧
        data'.written = true ∧ data'.held = data.held := by
      refine ⟨_, rfl, ?_⟩
      split
      · exact ⟨written_enrollResult hwritten status, rfl⟩
      · exact ⟨written_enrollResult (written_samplesRemaining hwritten _) status, rfl⟩
    obtain ⟨data', hdata', hwritten', hheld'⟩ := hanswered
    have hkept := hway.kept
    dsimp only at hkept ⊢
    rw [← hheld'] at hkept
    rw [hdata']
    split
    · exact nextOk_error _ trivial ⟨hway.silent, hway.written, hkept⟩ hwritten'
    · split
      · exact nextOk_goto trivial ⟨hway.silent, hway.written, hkept⟩
      · exact nextOk_progress trivial ⟨hway.silent, hway.written, hkept⟩ hwritten'
  case endEnrol.endEnrol.refl status id =>
    have hwritten : data.written = true := hinv
    split
    · exact nextOk_error _ trivial ⟨hway.silent, hway.written, hway.kept⟩
        (written_enrollResult hwritten status)
    · exact nextOk_goto trivial ⟨hway.silent, hway.written, hway.kept⟩
  case saveTestDb.saveTestDb.refl id status =>
    have hwritten : data.written = true := hinv
    split
    · exact nextOk_error _ trivial ⟨hway.silent, hway.written, hway.kept⟩
        (written_enrollResult hwritten status)
    · exact nextOk_progress trivial ⟨hway.silent, hway.written, hway.kept⟩
        (written_userId hwritten id)

theorem startTask_inv {mode : CaptureMode} : TaskInv (startTask request mode) := by
  cases mode with
  | capture => exact ⟨rfl, rfl, rfl⟩
  | verify | enroll => exact rfl

theorem startTask_held {mode : CaptureMode} : (startTask request mode).data.held = [] := by
  cases mode with
  | capture | verify | enroll => rfl

theorem startTask_underWay {mode : CaptureMode} : (startTask request mode).UnderWay where
  silent := rfl
  written := List.forall_mem_nil _
  kept := by
    rw [startTask_held, List.append_nil]
    exact List.Perm.refl []

variable {s s' : State C} {sensorSize : Nat}

def Inv (s : State C) : Prop := ∀ task, s.task = some task → TaskInv task

theorem Inv.step {e : Event C} (hinv : Inv s) (hstep : Step sensorSize s e s') : Inv s' := by
  cases hstep with
  | startCapture | cancelCapture | cancelled | cleared => exact hinv
  | started =>
    rintro _ ⟨⟩
    exact startTask_inv
  | @result task next result htask hnext =>
    have hinv' := taskStep_nextInv (hinv task htask) hnext
    cases next with
    | running task' =>
      rintro _ ⟨⟩
      exact hinv'
    | finished task' clears =>
      intro _ hnone
      cases hnone

/-- The fields of the module are what the last call that wrote them asked for, or null. -/
theorem fields_of_run {history : List (Moment C)}
    (hrun : (captureSystem C sensorSize).Run history s) :
    s.module = match latest Moment.writes history with
      | some ⟨_, .startCapture request⟩ => ⟨request.callback, request.ctx⟩
      | _ => ⟨none, none⟩ := by
  apply hrun.latest (W := fun o s => s.module = match o with
    | some ⟨_, .startCapture request⟩ => ⟨request.callback, request.ctx⟩
    | _ => ⟨none, none⟩)
  · rintro s rfl
    rfl
  · rintro s ⟨_, e⟩ s' ⟨_, hstep⟩ hwrites
    cases hstep with
    | startCapture | cleared => rfl
    | cancelCapture | started | cancelled | result => cases hwrites
  -- a task only reads the fields: they are cleared in a step of its own
  · rintro s ⟨_, e⟩ s' o ⟨_, hstep⟩ hwrites hmodule
    cases hstep with
    | startCapture | cleared => cases hwrites
    | cancelCapture | started | cancelled => exact hmodule
    | @result task next result htask hnext =>
      cases next with
      | running | finished => exact hmodule

theorem lastAskedBy_iff {history : List (Moment C)}
    (hrun : (captureSystem C sensorSize).Run history s) :
    LastAskedBy request history ↔ FieldsOf s.module request := by
  have hfields := fields_of_run hrun
  have hnull : s.module = ⟨none, none⟩ → ¬ FieldsOf s.module request := by
    rintro hmodule ⟨cb, ctx, hset, _⟩
    rw [hmodule] at hset
    cases hset
  cases hlast : latest Moment.writes history with
  | none =>
    rw [hlast] at hfields
    refine iff_of_false ?_ (hnull hfields)
    rintro ⟨m, asked, hm, _⟩
    rw [hlast] at hm
    cases hm
  | some m =>
    rw [hlast] at hfields
    obtain ⟨before, e⟩ := m
    cases e with
    | startCapture asked =>
      dsimp only at hfields
      constructor
      · rintro ⟨m, asked', hm, hevent, hcallback, hctx, hsomeCb, hsomeCtx⟩
        rw [hlast] at hm
        cases hm
        cases hevent
        obtain ⟨cb, hcb⟩ := Option.isSome_iff_exists.mp hsomeCb
        obtain ⟨ctx, hctx'⟩ := Option.isSome_iff_exists.mp hsomeCtx
        refine ⟨cb, ctx, ?_, hcb, hctx'⟩
        rw [hfields, hcallback, hctx, hcb, hctx']
      · rintro ⟨cb, ctx, hmodule, hcb, hctx⟩
        rw [hmodule] at hfields
        injection hfields with hcallback hcontext
        exact ⟨_, asked, hlast, rfl, by rw [← hcallback, hcb], by rw [← hcontext, hctx],
          by rw [hcb]; rfl, by rw [hctx]; rfl⟩
    | cancelCapture | joined | result | cleared =>
      refine iff_of_false ?_ (hnull hfields)
      rintro ⟨m, asked, hm, hevent, _⟩
      rw [hlast] at hm
      cases hm
      cases hevent

/-- A result keeps the captures as they should be exactly when it is one that the tasks are prepared for,
and finds the fields of the module those of the caller where it is the last one. -/
theorem capturesOk_result_iff {past : List (Moment C)} {result : TaskResult} {next : Next C}
    (hrun : (captureSystem C sensorSize).Run past s) (hinv : Inv s) (hok : CapturesOk s)
    (htask : s.task = some task) (hnext : taskStep s.module task sensorSize result = some next) :
    CapturesOk (s.goes next) ↔ ResultOk sensorSize past ⟨s, .result result⟩ := by
  have hnextOk := taskStep_nextOk (hinv task htask) (hok.running task htask) hnext
  cases next with
  | running task' =>
    have hresult : ResultOk sensorSize past ⟨s, .result result⟩ ↔ Usable task.place result := by
      constructor
      · exact fun h => (h result task rfl htask).1
      · rintro husable _ _ ⟨⟩ htask'
        cases htask.symm.trans htask'
        refine ⟨husable, ?_⟩
        intro ended clears hover
        cases hnext.symm.trans hover
    rw [hresult, ← show task'.UnderWay ↔ Usable task.place result from hnextOk]
    constructor
    · exact fun h => h.running task' rfl
    · intro hway
      refine ⟨hok.ended, ?_⟩
      rintro _ ⟨⟩
      exact hway
  | finished task' clears =>
    have hresult : ResultOk sensorSize past ⟨s, .result result⟩ ↔
        Usable task.place result ∧ FieldsOf s.module task.request := by
      rw [← lastAskedBy_iff hrun]
      constructor
      · intro h
        exact ⟨(h result task rfl htask).1, (h result task rfl htask).2 task' clears hnext⟩
      · rintro ⟨husable, hasked⟩ _ _ ⟨⟩ htask'
        cases htask.symm.trans htask'
        exact ⟨husable, fun _ _ _ => hasked⟩
    rw [hresult, ← show task'.Over ↔ _ from hnextOk]
    constructor
    · exact fun h => h.ended task' (List.mem_append_right _ List.mem_cons_self)
    · intro hover
      refine ⟨?_, fun _ hnone => ?_⟩
      · rw [State.goes, List.forall_mem_append, List.forall_mem_singleton]
        exact ⟨hok.ended, hover⟩
      · cases hnone

theorem run_inv {history : List (Moment C)} (hrun : (captureSystem C sensorSize).Run history s) :
    Inv s := by
  refine hrun.invariant_state ?_ ?_
  · rintro s rfl _ ⟨⟩
  · intro s m s' hinv hstep
    exact hinv.step hstep.2

/-- A step keeps the captures as they should be exactly when its result, if it is one, does. -/
theorem capturesOk_step_iff {past : List (Moment C)} {m : Moment C}
    (hrun : (captureSystem C sensorSize).Run past m.before) (hok : CapturesOk m.before)
    (hstep : Step sensorSize m.before m.event s') : CapturesOk s' ↔ ResultOk sensorSize past m := by
  obtain ⟨s, e⟩ := m
  have hother : (∀ result, e ≠ .result result) → ResultOk sensorSize past ⟨s, e⟩ :=
    fun hne result _ hevent => absurd hevent (hne result)
  cases hstep with
  | startCapture | cancelCapture | cancelled | cleared =>
    exact iff_of_true ⟨hok.ended, hok.running⟩ (hother fun _ h => by cases h)
  | started =>
    refine iff_of_true ⟨hok.ended, ?_⟩ (hother fun _ h => by cases h)
    rintro _ ⟨⟩
    exact startTask_underWay
  | result htask hnext => exact capturesOk_result_iff hrun (run_inv hrun) hok htask hnext

/-- **When each task reports once, to its own caller, with written data, and frees what it allocates.**
In all states of a run exactly when each verification can load the test database and each enrolment can
delete it, no image of an enrolment is lost, and the last thing that was done to the fields of the module
in front of the last record of a task is a call with the callback and the context of its own. -/
theorem capturesOk_iff {history : List (Moment C)}
    (hrun : (captureSystem C sensorSize).Run history s) :
    (CapturesOk s ∧ ∀ m ∈ history, CapturesOk m.before) ↔
      ∀ later m past, history = later ++ m :: past → ResultOk sensorSize past m := by
  rw [← System.forall_split_iff_mem]
  apply hrun.throughout_history_iff (I := fun _ s => CapturesOk s) (K := ResultOk sensorSize)
  · intro s m s' hstep
    exact hstep.1
  · rintro s rfl
    refine ⟨List.forall_mem_nil _, fun _ hnone => ?_⟩
    cases hnone
  · intro history s m s' hrun hok hstep
    obtain ⟨rfl, hstep⟩ := hstep
    exact capturesOk_step_iff hrun hok hstep

theorem run_step {history : List (Moment C)} {e : Event C}
    (hrun : (captureSystem C sensorSize).Run history s) (hstep : Step sensorSize s e s') :
    (captureSystem C sensorSize).Run (⟨s, e⟩ :: history) s' := hrun.step ⟨rfl, hstep⟩

end

/-- An image of four bytes that is captured and fetched. -/
def fetched : Capture where
  injected := false
  status := 0
  cacResult := 0
  raw := ⟨0, 4, true, 0⟩
  enhanced := ⟨true, 0⟩

/-- A request with a callback and a context of its own. -/
def asks (caller : Nat) (mode : CaptureMode) : Request Nat := ⟨some caller, some caller, some mode⟩

theorem opened_run :
    (captureSystem Nat 4).Run [] ⟨⟨none, none⟩, .idle, none, false, []⟩ := .init rfl

/-- A capture that is over before the next call. -/
theorem capturesOk_captured :
    ∃ (history : List (Moment Nat)) (s : State Nat), (captureSystem Nat 4).Run history s ∧
      s.ended.map Task.freed = [[some 0, some 1]] ∧
      CapturesOk s ∧ ∀ m ∈ history, CapturesOk m.before := by
  have hcalled := run_step opened_run (@Step.startCapture _ _ _ (asks 1 .capture) rfl)
  have hstarted := run_step hcalled (.started rfl rfl rfl)
  have hended := run_step hstarted (@Step.result _ _ _ _ _ (.captureImages fetched) rfl rfl)
  have hcleared := run_step hended (.cleared rfl)
  refine ⟨_, _, hcleared, rfl, (capturesOk_iff hcleared).mpr ?_⟩
  rw [System.forall_split_cons, System.forall_split_cons, System.forall_split_cons,
    System.forall_split_cons]
  refine ⟨?_, ?_, ?_, ?_, ?_⟩
  · rintro _ _ ⟨⟩
  · rintro _ _ ⟨⟩ ⟨⟩
    exact ⟨by simp [Usable, startTask, asks], fun _ _ _ => ⟨_, _, rfl, rfl, rfl, rfl, rfl, rfl⟩⟩
  · rintro _ _ ⟨⟩
  · rintro _ _ ⟨⟩
  · simp

/-- A call is made while the task in front still captures: that task reports to the new caller. And a
verification that cannot load the test database gives a record away that it did not write, and frees what
it did not allocate. -/
theorem captures_broken :
    (∃ (history : List (Moment Nat)) (s : State Nat), (captureSystem Nat 4).Run history s ∧
      s.ended.map (fun task => (task.request.callback, task.reports.map Report.callback)) =
        [(some 1, [2])] ∧ ¬ CapturesOk s) ∧
    ∃ (history : List (Moment Nat)) (s : State Nat), (captureSystem Nat 4).Run history s ∧
      s.ended.map (fun task => (task.reports.map Report.data, task.freed)) =
        [([.unwritten], [none, none])] ∧ ¬ CapturesOk s := by
  constructor
  · have hcalled := run_step opened_run (@Step.startCapture _ _ _ (asks 1 .capture) rfl)
    have hstarted := run_step hcalled (.started rfl rfl rfl)
    have hcalled' := run_step hstarted (@Step.startCapture _ _ _ (asks 2 .verify) rfl)
    have hended := run_step hcalled' (@Step.result _ _ _ _ _ (.captureImages fetched) rfl rfl)
    refine ⟨_, _, hended, rfl, ?_⟩
    intro hok
    obtain ⟨_, ⟨⟩, hcallback, _⟩ := (hok.ended _ List.mem_cons_self).final
    cases hcallback
  · have hcalled := run_step opened_run (@Step.startCapture _ _ _ (asks 1 .verify) rfl)
    have hstarted := run_step hcalled (.started rfl rfl rfl)
    have hended := run_step hstarted (@Step.result _ _ _ _ _ (.loadTestDb (-5) 0) rfl rfl)
    refine ⟨_, _, hended, rfl, ?_⟩
    intro hok
    have hwritten := (hok.ended _ List.mem_cons_self).written _ List.mem_cons_self
    cases hwritten

end Fpc.CaptureRecords
