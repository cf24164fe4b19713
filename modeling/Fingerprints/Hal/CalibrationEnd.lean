import Fingerprints.Hal.RecalibrationRuns

/-!
# Whether a calibration is ended

The algorithm has to be told of the end of a calibration, however it went, to release what it holds.
`do_recalibrate_pn` makes that call wherever it leaves its loop without success, and once more when
it fetches the image. Between the loop and that call it asks for the size of the image and allocates
a buffer, and where either fails it jumps over the call.

* **`TaskCalls.next`**: a statement of the task keeps what its calls are by its stage;
* **`endedOnce_iff`**: in any interleaving, a task that returns has ended its calibration exactly when
  it did not fail in between.
-/

namespace Fpc.Recalibration

open Runs

/-- The calls of a task to the calibration of the client library. -/
inductive TeeCall
  | calibrateFinger
  | calibrateFingerEnd
  deriving DecidableEq

section

variable {T C : Type}

/-! ## The calls of a run -/

/-- The calls that a statement of the task makes. -/
def stageCalls (s : State T C) : TaskStage → List TeeCall
  | .calibrate => [.calibrateFinger]
  | .readCancel status =>
      if status = -fpcPnFailed ∨ status = -fpcErrorCancelled ∨ s.module.canceled then
        [.calibrateFingerEnd]
      else []
  | .update status =>
      if status = -fpcPnRetryCalibration then []
      else if status ≠ 0 then [.calibrateFingerEnd] else []
  | .fingerEnd => [.calibrateFingerEnd]
  | _ => []

/-- The statement of the task that a step is. -/
def Moment.stage (m : Moment T C) : Option TaskStage :=
  match m.action with
  | .task _ _ => m.before.worker.map Task.stage
  | _ => none

/-- The calls that a step makes. -/
def Moment.calls (m : Moment T C) : List TeeCall :=
  match m.stage with
  | some stage => stageCalls m.before stage
  | none => []

/-- The step hands a task to the worker. -/
def isStart (m : Moment T C) : Bool :=
  match m.action with
  | .client t _ =>
      match m.before.calls t with
      | some (.recalibrate (.run _)) => true
      | _ => false
  | _ => false

/-- The calls of the latest task. -/
def runCalls (history : List (Moment T C)) : List TeeCall :=
  collect Moment.calls (since isStart history)

/-- The step is the last statement of a task. -/
def Moment.Returns (m : Moment T C) : Prop := m.stage = some (.reset .size)

/-- The step is the size query behind a calibration that is complete, and it fails, or the allocation
of the buffer for the image, and there is no memory. -/
def Moment.SkipsEnd (m : Moment T C) : Prop :=
  match m.action with
  | .task status allocated =>
      m.stage = some .size ∧ status ≠ 0 ∨ m.stage = some .buffer ∧ allocated = false
  | _ => False

instance : DecidablePred (Moment.SkipsEnd (T := T) (C := C)) := fun m => by
  unfold Moment.SkipsEnd
  split <;> infer_instance

/-- If an image was added, the calls behind the last one end the calibration once. -/
def EndedOnce (calls : List TeeCall) : Prop :=
  .calibrateFinger ∈ calls →
    (since (· == .calibrateFinger) calls.reverse).count .calibrateFingerEnd = 1

instance : DecidablePred EndedOnce := fun _ => inferInstanceAs (Decidable (_ → _))

/-! ## Calls by stage -/

/-- Images were added, and the calibration is open. -/
def Open (calls : List TeeCall) : Prop := ∃ n, calls = List.replicate (n + 1) .calibrateFinger

/-- Images were added, and the calibration was ended behind them. -/
def Ended (calls : List TeeCall) : Prop :=
  ∃ n, calls = List.replicate (n + 1) .calibrateFinger ++ [.calibrateFingerEnd]

theorem Open.ended {calls : List TeeCall} (h : Open calls) :
    Ended (calls ++ [.calibrateFingerEnd]) := by
  obtain ⟨n, rfl⟩ := h
  exact ⟨n, rfl⟩

/-- A calibration that is open was not ended. -/
theorem Open.not_endedOnce {calls : List TeeCall} (h : Open calls) : ¬ EndedOnce calls := by
  obtain ⟨n, rfl⟩ := h
  intro hended
  have hcount := hended (by simp)
  rw [List.reverse_replicate, List.replicate_succ, since_cons_of_pos rfl] at hcount
  cases hcount

theorem Ended.endedOnce {calls : List TeeCall} (h : Ended calls) : EndedOnce calls := by
  obtain ⟨n, rfl⟩ := h
  intro _
  rw [List.reverse_append, List.reverse_replicate, List.replicate_succ]
  rfl

theorem endedOnce_nil : EndedOnce [] := by
  intro hmem
  cases hmem

/-- What the calls of a task are where it is, and whether it jumped over the end of its
calibration. -/
def TaskCalls (calls : List TeeCall) (skipped : Prop) : TaskStage → Prop
  | .calibrate => ¬ skipped ∧ (calls = [] ∨ Open calls)
  | .readCancel _ | .update _ | .size | .buffer | .fingerEnd => ¬ skipped ∧ Open calls
  | .save | .load | .done => ¬ skipped ∧ Ended calls
  | .out _ _ | .reset _ =>
      ¬ skipped ∧ (calls = [] ∨ Ended calls) ∨ skipped ∧ Open calls
  | _ => ¬ skipped ∧ calls = []

/-- A call of the task leaves its calls, and what it jumps over, as they are to be at the next
statement. -/
theorem TaskCalls.next {s : State T C} {calls : List TeeCall} {skipped : Prop} {stage : TaskStage}
    (h : TaskCalls calls skipped stage) (status : Int) (allocated : Bool) :
    TaskCalls (calls ++ stageCalls s stage)
      (skipped ∨ stage = .size ∧ status ≠ 0 ∨ stage = .buffer ∧ allocated = false)
      (nextStage s status allocated stage) := by
  have hout {calls : List TeeCall} {skipped : Prop} (h : ¬ skipped) (hcalls : calls = [] ∨ Ended calls)
      (status code : Int) : TaskCalls calls skipped (.out status code) := Or.inl ⟨h, hcalls⟩
  cases stage with
  | args => simpa [nextStage, stageCalls, TaskCalls] using h
  | authorize token size =>
    obtain ⟨hskipped, rfl⟩ := h
    simp only [nextStage, orOut, stageCalls]
    split
    · split
      · exact hout (by simpa using hskipped) (Or.inl rfl) _ _
      · exact ⟨by simpa using hskipped, rfl⟩
    · exact hout (by simpa using hskipped) (Or.inl rfl) _ _
  | waiting => simpa [nextStage, stageCalls, TaskCalls] using h
  | lost =>
    obtain ⟨hskipped, rfl⟩ := h
    simp only [nextStage, stageCalls]
    split
    · exact ⟨by simpa using hskipped, rfl⟩
    · exact ⟨by simpa using hskipped, rfl⟩
  | down =>
    obtain ⟨hskipped, rfl⟩ := h
    simp only [nextStage, orOut, stageCalls]
    split
    · exact hout (by simpa using hskipped) (Or.inl rfl) _ _
    · exact ⟨by simpa using hskipped, Or.inl rfl⟩
  | calibrate =>
    obtain ⟨hskipped, hcalls⟩ := h
    refine ⟨by simpa using hskipped, ?_⟩
    rcases hcalls with rfl | ⟨n, rfl⟩
    · exact ⟨0, rfl⟩
    · exact ⟨n + 1, by rw [stageCalls, List.replicate_succ' (n := n + 1)]⟩
  | readCancel read =>
    obtain ⟨hskipped, hopen⟩ := h
    simp only [nextStage, stageCalls]
    split
    · exact hout (by simpa using hskipped) (Or.inr hopen.ended) _ _
    · exact ⟨by simpa using hskipped, by simpa using hopen⟩
  | update read =>
    obtain ⟨hskipped, hopen⟩ := h
    simp only [nextStage, orOut, stageCalls]
    split
    · exact ⟨by simpa using hskipped, Or.inr (by simpa using hopen)⟩
    · split
      · exact hout (by simpa using hskipped) (Or.inr hopen.ended) _ _
      · exact ⟨by simpa using hskipped, by simpa using hopen⟩
  | size =>
    obtain ⟨hskipped, hopen⟩ := h
    simp only [nextStage, orOut, stageCalls, List.append_nil]
    split
    · next hfailed =>
      exact Or.inr ⟨Or.inr (Or.inl ⟨trivial, hfailed⟩), hopen⟩
    · next hok =>
      refine ⟨?_, hopen⟩
      rintro (hearlier | ⟨_, hfailed⟩ | ⟨hbuffer, _⟩)
      · exact hskipped hearlier
      · exact hok hfailed
      · cases hbuffer
  | buffer =>
    obtain ⟨hskipped, hopen⟩ := h
    simp only [nextStage, stageCalls, List.append_nil]
    split
    · next hok => exact ⟨by simp [hskipped, hok], hopen⟩
    · next hfailed => exact Or.inr ⟨Or.inr (Or.inr ⟨trivial, by simpa using hfailed⟩), hopen⟩
  | fingerEnd =>
    obtain ⟨hskipped, hopen⟩ := h
    simp only [nextStage, orOut, stageCalls]
    split
    · exact hout (by simpa using hskipped) (Or.inr hopen.ended) _ _
    · exact ⟨by simpa using hskipped, hopen.ended⟩
  | save | load =>
    obtain ⟨hskipped, hended⟩ := h
    simp only [nextStage, orOut, stageCalls, List.append_nil]
    split
    · exact hout (by simpa using hskipped) (Or.inr hended) _ _
    · exact ⟨by simpa using hskipped, hended⟩
  | done =>
    obtain ⟨hskipped, hended⟩ := h
    simp only [nextStage, stageCalls, List.append_nil]
    exact hout (by simpa using hskipped) (Or.inr hended) _ _
  | out _ _ => simpa [nextStage, stageCalls, TaskCalls] using h
  | reset stage => simpa [nextStage, stageCalls, TaskCalls] using h

/-! ## Runs -/

variable [DecidableEq T] {s s' : State T C} {history : List (Moment T C)} {m : Moment T C}

/-- A statement of a client that starts no task leaves the worker. -/
theorem client_worker {t : T} {allocated : Bool}
    (hstep : s.step (.client t allocated) = some s')
    (hstart : isStart ⟨s, .client t allocated⟩ = false) : s'.worker = s.worker := by
  simp only [State.step] at hstep
  split at hstep
  · cases hstep
  · next stage hcall =>
    cases stage with
    | run start => simp [isStart, hcall] at hstart
    | clear token | copy start | unlock =>
      simp only [recalibrateStep, Option.some.injEq] at hstep
      rw [← hstep, withCall_worker]
    | alloc token =>
      simp only [recalibrateStep] at hstep
      split at hstep <;> rw [← Option.some.inj hstep, withCall_worker]
    | lock start =>
      simp only [recalibrateStep, Option.ite_none_right_eq_some, Option.some.injEq] at hstep
      rw [← hstep.2, withCall_worker]
    | idle start =>
      simp only [recalibrateStep, Option.ite_none_right_eq_some, Option.some.injEq] at hstep
      rw [← hstep.2, withCall_worker]
  · next stage hcall =>
    cases stage with
    | flag | unlock =>
      simp only [cancelStep, Option.some.injEq] at hstep
      rw [← hstep, withCall_worker]
    | lock | idle =>
      simp only [cancelStep, Option.ite_none_right_eq_some, Option.some.injEq] at hstep
      rw [← hstep.2, withCall_worker]
    | reset stage =>
      simp only [cancelStep, Option.some.injEq] at hstep
      rw [← hstep, withCall_worker]
      cases stage <;> first | rfl | (simp only [resetStep]; split <;> rfl)

/-- The step that starts a task leaves it at its first statement. -/
theorem start_worker {task : Task C} (hstep : m.before.step m.action = some s')
    (hstart : isStart m = true) (hworker : s'.worker = some task) : task.stage = .args := by
  obtain ⟨before, action⟩ := m
  cases action with
  | client t allocated =>
    simp only [isStart] at hstart
    split at hstart
    · next start hcall =>
      simp only [State.step, hcall, recalibrateStep, Option.ite_none_right_eq_some,
        Option.some.injEq] at hstep
      rw [← hstep.2, withCall_worker] at hworker
      cases hworker
      rfl
    · cases hstart
  | _ => cases hstart

/-- A step that starts no task and is no statement of one leaves the worker. -/
theorem other_worker (hstep : m.before.step m.action = some s') (hstart : isStart m = false)
    (htask : ∀ status allocated, m.action ≠ .task status allocated) :
    s'.worker = m.before.worker := by
  obtain ⟨before, action⟩ := m
  cases action with
  | setRecalibrationCb statusCb errorCb =>
    cases hstep
    rfl
  | recalibratePn t token =>
    simp only [State.step, Option.ite_none_right_eq_some, Option.some.injEq] at hstep
    rw [← hstep.2, withCall_worker]
  | cancelRecalibration t =>
    simp only [State.step, Option.ite_none_right_eq_some, Option.some.injEq] at hstep
    rw [← hstep.2, withCall_worker]
  | client t allocated => exact client_worker hstep hstart
  | task status allocated => exact absurd rfl (htask status allocated)

/-- The calls of the latest task, and whether it jumped over the end of its calibration, are as they
are to be where it is. -/
def Tracks (history : List (Moment T C)) (s : State T C) : Prop :=
  ∀ task, s.worker = some task →
    TaskCalls (runCalls history) (∃ e ∈ since isStart history, e.SkipsEnd) task.stage

omit [DecidableEq T] in
theorem runCalls_cons (hstart : isStart m = false) (history : List (Moment T C)) :
    runCalls (m :: history) = runCalls history ++ m.calls := by
  rw [runCalls, since_cons_of_neg hstart, collect_cons, runCalls]

omit [DecidableEq T] in
theorem exists_since_cons (hstart : isStart m = false) (history : List (Moment T C)) :
    (∃ e ∈ since isStart (m :: history), e.SkipsEnd) =
      ((∃ e ∈ since isStart history, e.SkipsEnd) ∨ m.SkipsEnd) := by
  rw [since_cons_of_neg hstart, List.exists_mem_cons_iff, or_comm]

/-- A statement of the task keeps its calls as they are to be. -/
theorem Tracks.task {status : Int} {allocated : Bool} (h : Tracks history s)
    (hstep : s.step (.task status allocated) = some s') :
    Tracks (⟨s, .task status allocated⟩ :: history) s' := by
  simp only [State.step, Option.map_eq_some_iff] at hstep
  obtain ⟨task, hworker, rfl⟩ := hstep
  have hold := h task hworker
  have hstage : (⟨s, .task status allocated⟩ : Moment T C).stage = some task.stage := by
    simp only [Moment.stage, hworker, Option.map_some]
  intro task' hworker'
  rw [runCalls_cons rfl, exists_since_cons rfl]
  simp only [Moment.calls, Moment.SkipsEnd, hstage, Option.some.injEq]
  have hnext := hold.next (s := s) status allocated
  unfold taskStep at hworker'
  split at hworker'
  · next reset hreset =>
    simp only [Option.map_eq_some_iff] at hworker'
    obtain ⟨next, _, rfl⟩ := hworker'
    rw [hreset] at hnext ⊢
    exact hnext
  · cases hworker'
    exact hnext

/-- Every step keeps the calls of the task as they are to be. -/
theorem Tracks.step (h : Tracks history m.before) (hstep : m.before.step m.action = some s') :
    Tracks (m :: history) s' := by
  obtain ⟨before, action⟩ := m
  cases hstart : isStart ⟨before, action⟩ with
  | true =>
    -- a new task has made no calls
    intro task hworker
    rw [start_worker hstep hstart hworker, runCalls, since_cons_of_pos hstart]
    exact ⟨by simp, rfl⟩
  | false =>
    by_cases htask : ∃ status allocated, action = .task status allocated
    · obtain ⟨status, allocated, rfl⟩ := htask
      exact h.task hstep
    · have hother : ∀ status allocated, action ≠ .task status allocated :=
        fun status allocated heq => htask ⟨status, allocated, heq⟩
      intro task hworker
      rw [other_worker hstep hstart hother] at hworker
      rw [runCalls_cons hstart, exists_since_cons hstart]
      have hstage : (⟨before, action⟩ : Moment T C).stage = none := by
        cases action <;> first | rfl | exact absurd rfl (hother _ _)
      have hskips : ¬ (⟨before, action⟩ : Moment T C).SkipsEnd := by
        cases action <;> first | exact id | exact absurd rfl (hother _ _)
      rw [Moment.calls, hstage, List.append_nil]
      simp only [hskips, or_false]
      exact h task hworker

theorem run_tracks (hrun : moduleSystem.Run history s) : Tracks history s := by
  apply hrun.invariant (I := Tracks)
  · rintro s rfl task hworker
    cases hworker
  · rintro history s m s' _ h ⟨rfl, hstep⟩
    exact h.step hstep

/-- **When a calibration is ended**: in every interleaving, a task that returns has ended the
calibration that it began, once and behind its last image, exactly when neither the size query nor
the allocation behind a complete calibration failed. -/
theorem endedOnce_iff (hrun : moduleSystem.Run (m :: history) s) (hreturns : m.Returns) :
    EndedOnce (runCalls (m :: history)) ↔
      ∀ e ∈ since isStart (m :: history), ¬ e.SkipsEnd := by
  obtain ⟨before, action⟩ := m
  cases hrun with
  | step hrun hstep =>
    obtain ⟨rfl, hstep⟩ := hstep
    cases action with
    | task status allocated =>
      have hstage : (⟨before, .task status allocated⟩ : Moment T C).stage = some (.reset .size) :=
        hreturns
      obtain ⟨task, hworker, htask⟩ := Option.map_eq_some_iff.mp hreturns
      have htracks := run_tracks hrun task hworker
      rw [htask] at htracks
      -- the last statement makes no call and jumps over none
      have hcalls : (⟨before, .task status allocated⟩ : Moment T C).calls = [] := by
        rw [Moment.calls, hstage]
        rfl
      have hskips : ¬ (⟨before, .task status allocated⟩ : Moment T C).SkipsEnd := by
        simp [Moment.SkipsEnd, hstage]
      rw [runCalls_cons rfl, hcalls, List.append_nil, since_cons_of_neg rfl, List.forall_mem_cons,
        and_iff_right hskips]
      rcases htracks with ⟨hkept, hended⟩ | ⟨hskipped, hopen⟩
      · refine iff_of_true ?_ ?_
        · rcases hended with hnil | hended
          · rw [hnil]
            exact endedOnce_nil
          · exact hended.endedOnce
        · intro e he hskip
          exact hkept ⟨e, he, hskip⟩
      · refine iff_of_false hopen.not_endedOnce ?_
        intro hnone
        obtain ⟨e, he, hskip⟩ := hskipped
        exact hnone e he hskip
    | _ => cases hreturns

end

/-- The actions of one client that has a recalibration run. -/
def sampleStart : List (Action Bool Nat) :=
  [.setRecalibrationCb (some 1) (some 2), .recalibratePn true [7]] ++
    List.replicate 7 (.client true true)

/-- An image is asked for twice, and the calibration is complete. -/
def sampleImages : List (Action Bool Nat) :=
  List.replicate 5 (.task 0 true) ++
    [.task (-fpcPnRetryCalibration) true, .task 0 true, .task 0 true] ++
    List.replicate 3 (.task 0 true)

/-- The image is fetched, saved and loaded. -/
theorem sampleCalibration_ended :
    ∃ (history : List (Moment Bool Nat)) (s : State Bool Nat), moduleSystem.Run history s ∧
      s.worker = none ∧
      runCalls history = [.calibrateFinger, .calibrateFinger, .calibrateFingerEnd] ∧
      EndedOnce (runCalls history) := by
  have hrun := run_of_steps (T := Bool) (C := Nat) (.init rfl)
    (rfl : opened.steps [] (sampleStart ++ sampleImages ++ List.replicate 12 (.task 0 true)) = some (_, _))
  exact ⟨_, _, hrun, rfl, rfl, (endedOnce_iff hrun rfl).mpr (by decide)⟩

/-- The size of the image cannot be asked for, and the calibration is left open. -/
theorem sampleCalibration_open :
    ¬ ∀ (history : List (Moment Bool Nat)) (m : Moment Bool Nat) (s : State Bool Nat),
      moduleSystem.Run (m :: history) s → m.Returns → EndedOnce (runCalls (m :: history)) := by
  intro h
  have hrun := run_of_steps (T := Bool) (C := Nat) (.init rfl)
    (rfl : opened.steps [] (sampleStart ++ sampleImages ++ [.task (-5) true] ++
      List.replicate 6 (.task 0 true)) = some (_, _))
  have hended := h _ _ _ hrun rfl
  revert hended
  decide

end Fpc.Recalibration
