import Fingerprints.Runs.Fair

/-!
# The worker

`worker_function`, `fpc_worker_run_task` and `fpc_worker_join_task` of `fpc_worker.c`: the thread of a
worker and one client. A critical section of the mutex is one step, up to the unlock or to the wait for
the condition, which lets go of the mutex. Who waits is woken by a signal of the other or by none, and
then goes on where it waited.

* **`run_workerInv`**: what was executed, is executed and is pending is what was passed, in order; who
  is asleep has nothing to do; and no task is pending but for a client in `fpc_worker_run_task`;
* **`handOver_exact`**: so `fpc_worker_run_task` returns once its task was taken over,
  `fpc_worker_join_task` when none is pending or executed, and every task passed is executed once, in
  order, where the thread goes on while it can.

Destruction of the worker is not part of it.
-/

namespace Fpc.Worker

open Runs

variable {T : Type}

/-! ## The two threads -/

/-- `worker_state_t` -/
inductive WorkerState
  | idle
  | running
  deriving DecidableEq, Repr

/-- `fpc_worker_t`: what its mutex guards. A task without a function is `none`. -/
structure FpcWorker (T : Type) where
  task : Option T
  terminate : Bool
  state : WorkerState

/-- `pthread_cond_wait`: who waits sleeps until it is woken, and takes the mutex then. -/
inductive CondWait
  | asleep
  | awake
  deriving DecidableEq, Repr

/-- Where the thread is in `worker_function`. -/
inductive ThreadAt (T : Type)
  | top
  | wait (wait : CondWait)
  | execute (task : T)
  | returned

/-- A call of the client. -/
inductive Call (T : Type)
  | runTask (task : T)
  | joinTask

/-- Where the client is: it waits in a call, or is in none. -/
inductive ClientAt (T : Type)
  | outside
  | wait (call : Call T) (wait : CondWait)

/-- The worker, where the two are, the tasks that were passed to `fpc_worker_run_task`, and those that
were executed. -/
structure State (T : Type) where
  worker : FpcWorker T
  thread : ThreadAt T
  client : ClientAt T
  passed : List T
  executed : List T

/-- `pthread_cond_signal` by the client: it wakes the thread if that waits. -/
def ThreadAt.signal : ThreadAt T → ThreadAt T
  | .wait _ => .wait .awake
  | thread => thread

/-- `pthread_cond_signal` by the thread. -/
def ClientAt.signal : ClientAt T → ClientAt T
  | .wait call _ => .wait call .awake
  | .outside => .outside

/-- The inner loop of `worker_function`, up to its wait or to the unlock behind it. -/
def workerLoop (s : State T) : State T :=
  if s.worker.terminate then { s with thread := .returned }
  else match s.worker.task with
    | some task =>
        { s with worker := { s.worker with state := .running, task := none }
                 client := s.client.signal
                 thread := .execute task }
    | none => { s with thread := .wait .asleep }

/-- The outer loop of `worker_function` from its top on. -/
def workerFunction (s : State T) : State T :=
  workerLoop { s with worker := { s.worker with state := .idle }, client := s.client.signal }

/-- The function of a task returns. -/
def taskReturns (task : T) (s : State T) : State T :=
  { s with thread := .top, executed := s.executed ++ [task] }

/-- The loop of a call: it waits, or it returns. -/
def callLoop (call : Call T) (s : State T) : State T :=
  match call with
  | .runTask _ =>
      if s.worker.task.isSome then { s with client := .wait call .asleep }
      else { s with client := .outside }
  | .joinTask =>
      if s.worker.state ≠ .idle then { s with client := .wait call .asleep }
      else { s with client := .outside }

/-- `fpc_worker_run_task` in front of its loop. -/
def passTask (task : T) (s : State T) : State T :=
  { s with worker := { s.worker with task := some task }
           thread := s.thread.signal
           passed := s.passed ++ [task] }

/-- `fpc_worker_run_task` -/
def fpcWorkerRunTask (task : T) (s : State T) : State T := callLoop (.runTask task) (passTask task s)

/-- `fpc_worker_join_task` -/
def fpcWorkerJoinTask (s : State T) : State T := callLoop .joinTask s

/-- A call from its beginning on. -/
def Call.enter : Call T → State T → State T
  | .runTask task => fpcWorkerRunTask task
  | .joinTask => fpcWorkerJoinTask

/-- Who takes a step: the thread, the client in a call, or nobody, where a wait ends spuriously. -/
inductive Event (T : Type)
  | thread
  | client (call : Call T)
  | spurious

/-- The steps of the two. -/
inductive Step : State T → Event T → State T → Prop
  | top {s : State T} (hat : s.thread = .top) : Step s .thread (workerFunction s)
  | woken {s : State T} (hat : s.thread = .wait .awake) : Step s .thread (workerLoop s)
  | returns {s : State T} {task : T} (hat : s.thread = .execute task) :
      Step s .thread (taskReturns task s)
  | call {s : State T} (call : Call T) (hat : s.client = .outside) :
      Step s (.client call) (call.enter s)
  | callWoken {s : State T} {call : Call T} (hat : s.client = .wait call .awake) :
      Step s (.client call) (callLoop call s)
  | threadSpurious {s : State T} : Step s .spurious { s with thread := s.thread.signal }
  | clientSpurious {s : State T} : Step s .spurious { s with client := s.client.signal }

/-- What `fpc_worker_new` leaves. -/
def fpcWorkerNew : State T where
  worker := { task := none, terminate := false, state := .idle }
  thread := .top
  client := .outside
  passed := []
  executed := []

def workerSystem (T : Type) : System (State T) (Event T) where
  init s := s = fpcWorkerNew
  step := Step

/-! ## The hand-over -/

/-- The task that is executed. -/
def ThreadAt.executing : ThreadAt T → List T
  | .execute task => [task]
  | _ => []

@[simp] theorem ThreadAt.signal_executing (thread : ThreadAt T) :
    thread.signal.executing = thread.executing := by
  cases thread <;> rfl

theorem ThreadAt.signal_ne_asleep (thread : ThreadAt T) : thread.signal ≠ .wait .asleep := by
  cases thread <;> nofun

theorem ThreadAt.signal_ne_returned {thread : ThreadAt T} (h : thread ≠ .returned) :
    thread.signal ≠ .returned := by
  cases thread with
  | returned => exact absurd rfl h
  | _ => nofun

/-- What holds of the thread between the steps. It sleeps only where no task is pending. -/
structure ThreadInv (s : State T) : Prop where
  terminate : s.worker.terminate = false
  goesOn : s.thread ≠ .returned
  handed : s.executed ++ s.thread.executing ++ s.worker.task.toList = s.passed
  executes : s.worker.state = .idle → s.thread.executing = []
  asleep : s.thread = .wait .asleep → s.worker.task = none

/-- What a call that waits knows: its task is the last one that was passed, or none is pending. -/
def Call.Knows (s : State T) : Call T → Prop
  | .runTask task => s.passed.getLast? = some task
  | .joinTask => s.worker.task = none

/-- What holds of the client between the steps. -/
structure ClientInv (s : State T) : Prop where
  outside : s.client = .outside → s.worker.task = none
  waits : ∀ call wait, s.client = .wait call wait → call.Knows s

structure WorkerInv (s : State T) : Prop where
  thread : ThreadInv s
  client : ClientInv s

variable {s s' : State T}

/-- The client is woken, and the worker kept or left without a pending task. -/
theorem ClientInv.signal (h : ClientInv s) (htask : s'.worker.task = s.worker.task ∨ s'.worker.task = none)
    (hpassed : s'.passed = s.passed) (hclient : s'.client = s.client ∨ s'.client = s.client.signal) :
    ClientInv s' := by
  have hnone : s.worker.task = none → s'.worker.task = none := by
    intro hnone
    cases htask with
    | inl hkept => rw [hkept, hnone]
    | inr hnone => exact hnone
  have hknows : ∀ call : Call T, call.Knows s → call.Knows s' := by
    intro call
    cases call with
    | runTask task =>
      simp only [Call.Knows, hpassed]
      exact id
    | joinTask => exact hnone
  cases hat : s.client with
  | outside =>
    have hat' : s'.client = .outside := by simpa [hat, ClientAt.signal] using hclient
    exact ⟨fun _ => hnone (h.outside hat), by simp [hat']⟩
  | wait call wait =>
    have hat' : ∃ wait', s'.client = .wait call wait' := by
      cases hclient with
      | inl hkept => exact ⟨wait, by rw [hkept, hat]⟩
      | inr hwoken => exact ⟨.awake, by rw [hwoken, hat, ClientAt.signal]⟩
    obtain ⟨wait', hat'⟩ := hat'
    refine ⟨by simp [hat'], ?_⟩
    intro call' wait'' hcall
    rw [hat'] at hcall
    cases hcall
    exact hknows call (h.waits call wait hat)

/-- The inner loop takes over the task that is pending, or goes to sleep where there is none. -/
theorem workerLoop_cases (hterminate : s.worker.terminate = false) :
    (∃ task, s.worker.task = some task ∧
      workerLoop s =
        { s with worker := { s.worker with state := .running, task := none }
                 client := s.client.signal
                 thread := .execute task }) ∨
      s.worker.task = none ∧ workerLoop s = { s with thread := .wait .asleep } := by
  unfold workerLoop
  rw [hterminate]
  cases htask : s.worker.task with
  | none => exact Or.inr ⟨rfl, rfl⟩
  | some task => exact Or.inl ⟨task, rfl, rfl⟩

theorem workerLoop_inv (h : WorkerInv s) (hidle : s.thread.executing = []) :
    WorkerInv (workerLoop s) := by
  obtain ⟨task, htask, hloop⟩ | ⟨htask, hloop⟩ := workerLoop_cases h.thread.terminate
  · have hhanded := h.thread.handed
    rw [hidle, htask] at hhanded
    rw [hloop]
    refine ⟨⟨h.thread.terminate, nofun, ?_, nofun, nofun⟩, ?_⟩
    · simpa [ThreadAt.executing] using hhanded
    · exact h.client.signal (Or.inr rfl) rfl (Or.inr rfl)
  · have hhanded := h.thread.handed
    rw [hidle] at hhanded
    rw [hloop]
    exact ⟨⟨h.thread.terminate, nofun, hhanded, fun _ => rfl, fun _ => htask⟩,
      h.client.signal (Or.inl rfl) rfl (Or.inl rfl)⟩

/-- The outer loop declares the worker idle while no task is executed. -/
theorem workerTop_inv (h : WorkerInv s) (hat : s.thread = .top) :
    WorkerInv { s with worker := { s.worker with state := .idle }, client := s.client.signal } := by
  have hidle : s.thread.executing = [] := by rw [hat]; rfl
  exact ⟨⟨h.thread.terminate, h.thread.goesOn, h.thread.handed, fun _ => hidle, h.thread.asleep⟩,
    h.client.signal (Or.inl rfl) rfl (Or.inr rfl)⟩

theorem taskReturns_inv (h : WorkerInv s) {task : T} (hat : s.thread = .execute task) :
    WorkerInv (taskReturns task s) := by
  have hhanded := h.thread.handed
  rw [hat] at hhanded
  refine ⟨⟨h.thread.terminate, nofun, ?_, fun _ => rfl, nofun⟩, ?_⟩
  · simpa [taskReturns, ThreadAt.executing] using hhanded
  · exact h.client.signal (Or.inl rfl) rfl (Or.inl rfl)

/-- A call goes to sleep or returns: it returns from `fpc_worker_run_task` once its task is taken over,
and from `fpc_worker_join_task` while the worker is idle. -/
theorem callLoop_cases (call : Call T) (s : State T) :
    callLoop call s = { s with client := .wait call .asleep } ∨
      callLoop call s = { s with client := .outside } ∧
        (match call with
        | .runTask _ => s.worker.task = none
        | .joinTask => s.worker.state = .idle) := by
  cases call with
  | runTask task =>
    unfold callLoop
    cases htask : s.worker.task with
    | none => exact Or.inr ⟨rfl, rfl⟩
    | some _ => exact Or.inl rfl
  | joinTask =>
    unfold callLoop
    cases hstate : s.worker.state with
    | idle => exact Or.inr ⟨rfl, rfl⟩
    | running => exact Or.inl rfl

theorem callLoop_inv {call : Call T} (h : ThreadInv s) (hknows : call.Knows s) :
    WorkerInv (callLoop call s) := by
  obtain hloop | ⟨hloop, hover⟩ := callLoop_cases call s
  · rw [hloop]
    refine ⟨⟨h.terminate, h.goesOn, h.handed, h.executes, h.asleep⟩, nofun, ?_⟩
    rintro _ _ ⟨⟩
    cases call <;> exact hknows
  · rw [hloop]
    refine ⟨⟨h.terminate, h.goesOn, h.handed, h.executes, h.asleep⟩, fun _ => ?_, nofun⟩
    cases call with
    | runTask task => exact hover
    | joinTask => exact hknows

/-- A call that begins: it is in its loop behind what it passes. Passing a task wakes the thread, so
that it does not sleep while the task is pending. -/
theorem WorkerInv.enter (h : WorkerInv s) (call : Call T) (hat : s.client = .outside) :
    ∃ t, ThreadInv t ∧ call.Knows t ∧ call.enter s = callLoop call t := by
  have hnone := h.client.outside hat
  cases call with
  | runTask task =>
    have hhanded := h.thread.handed
    rw [hnone] at hhanded
    refine ⟨passTask task s, ⟨h.thread.terminate, ThreadAt.signal_ne_returned h.thread.goesOn, ?_, ?_, ?_⟩, ?_, rfl⟩
    · simp [passTask, ← hhanded]
    · simpa [passTask] using h.thread.executes
    · intro hasleep
      exact absurd hasleep s.thread.signal_ne_asleep
    · simp [passTask, Call.Knows]
  | joinTask => exact ⟨s, h.thread, hnone, rfl⟩

/-- A step of the client is a turn of the loop of its call. -/
theorem WorkerInv.of_client (h : WorkerInv s) {call : Call T} (hstep : Step s (.client call) s') :
    ∃ t, ThreadInv t ∧ call.Knows t ∧ s' = callLoop call t := by
  cases hstep with
  | call _ hat => exact h.enter call hat
  | callWoken hat => exact ⟨s, h.thread, h.client.waits _ _ hat, rfl⟩

theorem WorkerInv.step {e : Event T} (h : WorkerInv s) (hstep : Step s e s') : WorkerInv s' := by
  cases hstep with
  | top hat => exact workerLoop_inv (workerTop_inv h hat) (by rw [hat]; rfl)
  | woken hat => exact workerLoop_inv h (by rw [hat]; rfl)
  | returns hat => exact taskReturns_inv h hat
  | call call hat =>
    obtain ⟨t, hthread, hknows, hloop⟩ := h.enter call hat
    rw [hloop]
    exact callLoop_inv hthread hknows
  | callWoken hat => exact callLoop_inv h.thread (h.client.waits _ _ hat)
  | threadSpurious =>
    refine ⟨⟨h.thread.terminate, ThreadAt.signal_ne_returned h.thread.goesOn, ?_, ?_, ?_⟩, ?_⟩
    · simpa using h.thread.handed
    · simpa using h.thread.executes
    · intro hasleep
      exact absurd hasleep s.thread.signal_ne_asleep
    · exact h.client.signal (Or.inl rfl) rfl (Or.inl rfl)
  | clientSpurious =>
    exact ⟨⟨h.thread.terminate, h.thread.goesOn, h.thread.handed, h.thread.executes, h.thread.asleep⟩,
      h.client.signal (Or.inl rfl) rfl (Or.inr rfl)⟩

theorem run_workerInv {history : List (Event T)} (hrun : (workerSystem T).Run history s) :
    WorkerInv s := by
  refine hrun.invariant_state ?_ ?_
  · intro s hinit
    rw [show s = fpcWorkerNew from hinit]
    exact ⟨⟨rfl, nofun, rfl, fun _ => rfl, nofun⟩, fun _ => rfl, nofun⟩
  · intro s e s' h hstep
    exact h.step hstep

/-! ## What the calls and the thread do -/

/-- `fpc_worker_run_task` returns once its task was taken over. -/
theorem WorkerInv.runTask_returns (h : WorkerInv s) {task : T}
    (hstep : Step s (.client (.runTask task)) s') (hreturns : s'.client = .outside) :
    s'.worker.task = none ∧ s'.executed ++ s'.thread.executing = s'.passed ∧
      s'.passed.getLast? = some task := by
  obtain ⟨t, hthread, hknows, hloop⟩ := h.of_client hstep
  obtain hwaits | ⟨hreturned, hnone⟩ := callLoop_cases (.runTask task) t
  · rw [hloop, hwaits] at hreturns
    cases hreturns
  · have hhanded := hthread.handed
    rw [hnone, Option.toList_none, List.append_nil] at hhanded
    rw [hloop, hreturned]
    exact ⟨hnone, hhanded, hknows⟩

/-- `fpc_worker_join_task` returns while no task is pending or executed. -/
theorem WorkerInv.joinTask_returns (h : WorkerInv s)
    (hstep : Step s (.client .joinTask) s') (hreturns : s'.client = .outside) :
    s'.worker.task = none ∧ s'.thread.executing = [] := by
  obtain ⟨t, hthread, hknows, hloop⟩ := h.of_client hstep
  obtain hwaits | ⟨hreturned, hidle⟩ := callLoop_cases .joinTask t
  · rw [hloop, hwaits] at hreturns
    cases hreturns
  · rw [hloop, hreturned]
    exact ⟨hknows, hthread.executes hidle⟩

/-- A step of the thread. -/
def OfThread (e : Event T) : Prop := e = .thread

/-- The thread goes on while not everything that was passed is executed. -/
theorem WorkerInv.enabled (h : WorkerInv s) (hleft : s.executed ≠ s.passed) :
    (workerSystem T).Enabled OfThread s := by
  cases hat : s.thread with
  | top => exact ⟨.thread, _, rfl, .top hat⟩
  | execute task => exact ⟨.thread, _, rfl, .returns hat⟩
  | returned => exact absurd hat h.thread.goesOn
  | wait wait =>
    cases wait with
    | awake => exact ⟨.thread, _, rfl, .woken hat⟩
    | asleep =>
      have hhanded := h.thread.handed
      rw [hat, h.thread.asleep hat] at hhanded
      exact absurd (by simpa [ThreadAt.executing] using hhanded) hleft

/-- A thread that is asleep waits for the client or for a spurious wake-up. -/
theorem not_enabled_of_asleep (hasleep : s.thread = .wait .asleep) :
    ¬ (workerSystem T).Enabled OfThread s := by
  rintro ⟨e, s', hthread, hstep⟩
  cases hstep with
  | top hat => simp [hasleep] at hat
  | woken hat => simp [hasleep] at hat
  | returns hat => simp [hasleep] at hat
  | _ => cases hthread

/-- The inner loop takes a task over where not all are executed. -/
theorem WorkerInv.takes (h : WorkerInv s) (hidle : s.thread.executing = [])
    (hleft : s.executed.length < s.passed.length) :
    (workerLoop s).executed = s.executed ∧ (workerLoop s).thread.executing ≠ [] := by
  obtain ⟨task, _, hloop⟩ | ⟨htask, _⟩ := workerLoop_cases h.thread.terminate
  · rw [hloop]
    exact ⟨rfl, by simp [ThreadAt.executing]⟩
  · have hhanded := congrArg List.length h.thread.handed
    simp [hidle, htask] at hhanded
    omega

@[simp] theorem callLoop_thread (call : Call T) (s : State T) :
    (callLoop call s).thread = s.thread := by
  obtain hloop | ⟨hloop, _⟩ := callLoop_cases call s <;> rw [hloop]

@[simp] theorem callLoop_executed (call : Call T) (s : State T) :
    (callLoop call s).executed = s.executed := by
  obtain hloop | ⟨hloop, _⟩ := callLoop_cases call s <;> rw [hloop]

@[simp] theorem callLoop_passed (call : Call T) (s : State T) :
    (callLoop call s).passed = s.passed := by
  obtain hloop | ⟨hloop, _⟩ := callLoop_cases call s <;> rw [hloop]

@[simp] theorem workerLoop_passed (s : State T) : (workerLoop s).passed = s.passed := by
  unfold workerLoop
  cases s.worker.terminate with
  | true => rfl
  | false => cases s.worker.task <;> rfl

/-- Only the thread executes. -/
theorem Step.frame {e : Event T} (hstep : Step s e s') (hnot : ¬ OfThread e) :
    s'.executed = s.executed ∧ s'.thread.executing = s.thread.executing := by
  cases hstep with
  | top => exact absurd rfl hnot
  | woken => exact absurd rfl hnot
  | returns => exact absurd rfl hnot
  | call call =>
    cases call with
    | runTask task => simp [Call.enter, fpcWorkerRunTask, passTask]
    | joinTask => simp [Call.enter, fpcWorkerJoinTask]
  | callWoken => simp
  | threadSpurious => simp
  | clientSpurious => simp

/-- No step takes back what was passed. -/
theorem Step.passed_grows {e : Event T} (hstep : Step s e s') : s.passed <+: s'.passed := by
  cases hstep with
  | call call =>
    cases call with
    | runTask task => simp [Call.enter, fpcWorkerRunTask, passTask]
    | joinTask => simp [Call.enter, fpcWorkerJoinTask]
  | top => simp [workerFunction]
  | woken => simp
  | returns => simp [taskReturns]
  | callWoken => simp
  | threadSpurious => simp
  | clientSpurious => simp

/-- How many steps the thread takes before some tasks are executed, at most. -/
def stepsLeft (n : ℕ) (s : State T) : ℕ :=
  2 * (n - s.executed.length) + if s.thread.executing = [] then 1 else 0

/-- While tasks are left each step of the thread takes one over or lets one return, and no other step
leaves more to do. -/
theorem WorkerInv.stepsLeft (h : WorkerInv s) {e : Event T} (hstep : Step s e s') {n : ℕ}
    (hpassed : n ≤ s.passed.length) (hleft : s.executed.length < n) :
    Worker.stepsLeft n s' ≤ Worker.stepsLeft n s ∧
      (OfThread e → Worker.stepsLeft n s' < Worker.stepsLeft n s) := by
  by_cases hthread : OfThread e
  · have hless : Worker.stepsLeft n s' < Worker.stepsLeft n s := by
      cases hstep with
      | top hat =>
        have hidle : s.thread.executing = [] := by rw [hat]; rfl
        obtain ⟨hexecuted, htaken⟩ := (workerTop_inv h hat).takes hidle (hleft.trans_le hpassed)
        unfold workerFunction Worker.stepsLeft
        rw [hexecuted, if_neg htaken, if_pos hidle]
        exact Nat.lt_succ_self _
      | woken hat =>
        have hidle : s.thread.executing = [] := by rw [hat]; rfl
        obtain ⟨hexecuted, htaken⟩ := h.takes hidle (hleft.trans_le hpassed)
        unfold Worker.stepsLeft
        rw [hexecuted, if_neg htaken, if_pos hidle]
        exact Nat.lt_succ_self _
      | returns hat =>
        simp [Worker.stepsLeft, taskReturns, hat, ThreadAt.executing]
        omega
      | _ => cases hthread
    exact ⟨hless.le, fun _ => hless⟩
  · obtain ⟨hexecuted, hexecuting⟩ := hstep.frame hthread
    unfold Worker.stepsLeft
    rw [hexecuted, hexecuting]
    exact ⟨le_rfl, fun hof => absurd hof hthread⟩

/-- In a fair execution what was passed is executed, in order. -/
theorem eventually_executed (x : (workerSystem T).Execution) (hfair : x.Fair OfThread) (n : ℕ) :
    ∃ m, n ≤ m ∧ (x.state n).passed <+: (x.state m).executed := by
  have henabled : ∀ history s, (workerSystem T).Run history s →
      (x.state n).passed <+: s.passed → ¬ (x.state n).passed.length ≤ s.executed.length →
      (workerSystem T).Enabled OfThread s := by
    intro history s hrun hpassed hnot
    apply (run_workerInv hrun).enabled
    intro hall
    rw [hall] at hnot
    exact hnot hpassed.length_le
  obtain ⟨m, hm, hlong⟩ := x.eventually_of_rank hfair (Worker.stepsLeft (x.state n).passed.length)
    henabled (fun history s e s' hrun hpassed hnot hstep =>
      ⟨hpassed.trans hstep.passed_grows,
        (run_workerInv hrun).stepsLeft hstep hpassed.length_le (Nat.lt_of_not_le hnot)⟩)
    List.prefix_rfl
  obtain ⟨history, hrun⟩ := x.run m
  have hexecuted : (x.state m).executed <+: (x.state m).passed := by
    rw [← (run_workerInv hrun).thread.handed, List.append_assoc]
    exact List.prefix_append _ _
  have hpassed : (x.state n).passed <+: (x.state m).passed := by
    apply x.invariant_from (P := fun s => (x.state n).passed <+: s.passed) List.prefix_rfl _ hm
    intro k e _ hbefore hevent
    exact hbefore.trans (x.steps k e hevent).passed_grows
  exact ⟨m, hm, List.prefix_of_prefix_length_le hpassed hexecuted hlong⟩

/-- The hand-over of the tasks is exact, also where the steps of the two come to an end. -/
theorem handOver_exact (T : Type) :
    (∀ (history : List (Event T)) (s : State T), (workerSystem T).Run history s →
      s.executed ++ s.thread.executing ++ s.worker.task.toList = s.passed) ∧
    (∀ (history : List (Event T)) (s s' : State T) (task : T), (workerSystem T).Run history s →
      Step s (.client (.runTask task)) s' → s'.client = .outside →
      s'.worker.task = none ∧ s'.executed ++ s'.thread.executing = s'.passed ∧
        s'.passed.getLast? = some task) ∧
    (∀ (history : List (Event T)) (s s' : State T), (workerSystem T).Run history s →
      Step s (.client .joinTask) s' → s'.client = .outside →
      s'.worker.task = none ∧ s'.thread.executing = []) ∧
    (∀ (history : List (Event T)) (s : State T), (workerSystem T).Run history s →
      ¬ (workerSystem T).Enabled OfThread s → s.executed = s.passed) ∧
    ∀ x : (workerSystem T).Execution, x.Fair OfThread →
      ∀ n, ∃ m, n ≤ m ∧ (x.state n).passed <+: (x.state m).executed := by
  refine ⟨?_, ?_, ?_, ?_, fun x hfair => eventually_executed x hfair⟩
  · intro history s hrun
    exact (run_workerInv hrun).thread.handed
  · intro history s s' task hrun hstep hreturns
    exact (run_workerInv hrun).runTask_returns hstep hreturns
  · intro history s s' hrun hstep hreturns
    exact (run_workerInv hrun).joinTask_returns hstep hreturns
  · intro history s hrun hover
    by_contra hleft
    exact hover ((run_workerInv hrun).enabled hleft)

/-- Two tasks, the second passed while the first is executed, and a join: the thread sleeps then. -/
theorem handOver_exact_two :
    ∃ (x : (workerSystem ℕ).Execution) (n : ℕ), x.Fair OfThread ∧ (x.state n).passed = [1, 2] ∧
      ∃ m, n ≤ m ∧ (x.state n).passed <+: (x.state m).executed := by
  have hsleeps : (workerSystem ℕ).Run [.thread] (workerFunction fpcWorkerNew) :=
    (System.Run.init rfl).step (.top rfl)
  have htaken := ((hsleeps.step (.call (.runTask 1) rfl)).step (.woken rfl)).step (.callWoken rfl)
  have hended := (htaken.step (.call (.runTask 2) rfl)).step (.returns rfl)
  have htaken := ((hended.step (.top rfl)).step (.callWoken rfl)).step (.call .joinTask rfl)
  have hjoined := ((htaken.step (.returns rfl)).step (.top rfl)).step (.callWoken rfl)
  obtain ⟨x, n, hfair, hstate⟩ := hjoined.exists_fair (not_enabled_of_asleep rfl)
  exact ⟨x, n, hfair, by rw [hstate]; rfl, (handOver_exact ℕ).2.2.2.2 x hfair n⟩

end Fpc.Worker
