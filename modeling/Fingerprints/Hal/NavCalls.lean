import Fingerprints.Hal.Threads

/-!
# When the navigation runs

`cancel`, `set_enabled`, `fpc_navigation_resume` and `fpc_navigation_pause` of
`nav/fpc_hal_navigation.c`, each atomic under the mutex of the module, over a worker that runs what it
is handed and lets a join return when nothing runs. Between calls the loop may end by itself.

* **`NavCall.work_eq`**: a call starts the loop where it is to run behind the call only, and cancels
  it where it was to run in front of the call only;
* **`run_navInv`**: so what the trace of the worker says of the loop and what the flags say of it agree
  in every run;
* **`navCalls_exact`**: the loop was started and not cancelled since exactly while the module is
  enabled and not paused, no two starts overlap, and the cancel flag is false between calls.
-/

namespace Fpc.NavCalls

open Runs Threads

/-! ## The calls -/

/-- What becomes of the tasks of the worker: one is taken over, a join finds it over, with the flag of
the module as it was then, and one ends by itself. -/
inductive TaskEvent
  | started
  | joined (cancelled : Bool)
  | ended
  deriving DecidableEq, Repr

/-- `nav_module_t` with the cancel flag of its interrupt, whether its worker runs the loop, and the
trace of the worker, the latest event first. -/
structure NavDevice where
  module : NavModule
  irqCancel : Bool
  running : Bool
  trace : List TaskEvent

/-- `fpc_worker_run_task`. It waits for no task that runs: that none does is to be shown. -/
def fpcWorkerRunTask (s : NavDevice) : NavDevice :=
  { s with running := true, trace := .started :: s.trace }

/-- `fpc_worker_join_task` -/
def fpcWorkerJoinTask (s : NavDevice) : NavDevice :=
  { s with running := false, trace := .joined s.module.cancel :: s.trace }

/-- `cancel` of the navigation -/
def cancel (s : NavDevice) : NavDevice :=
  let s := { s with irqCancel := true, module := { s.module with cancel := true } }
  let s := fpcWorkerJoinTask s
  { s with module := { s.module with cancel := false }, irqCancel := false }

/-- An operation of the module does its work with the loop, and then writes its flag. -/
def navCall (op : NavOp) (s : NavDevice) : NavDevice :=
  let s' := match op.work s.module with
    | .nothing => s
    | .cancel => cancel s
    | .runTask => fpcWorkerRunTask s
  { s' with module := op.update s'.module }

/-- The operations of the module. -/
inductive NavCall
  | setEnabled (enabled : Bool)
  | setConfig
  | get
  | pause
  | resume
  deriving DecidableEq, Repr

def NavCall.op : NavCall → NavOp
  | .setEnabled enabled => navSetEnabled enabled
  | .setConfig => navSetConfig
  | .get => navGet
  | .pause => fpcNavigationPause
  | .resume => fpcNavigationResume

inductive NavEvent
  | call (c : NavCall)
  | loopEnds
  deriving DecidableEq, Repr

/-- What `fpc_navigation_new` leaves. -/
def fpcNavigationNew : NavDevice where
  module := { enabled := true, paused := true, configured := false, cancel := false }
  irqCancel := false
  running := false
  trace := []

/-- Calls in any order, with the loop ending by itself at any time between them. -/
def navCallSystem : System NavDevice NavEvent where
  init s := s = fpcNavigationNew
  step s e s' :=
    match e with
    | .call c => s' = navCall c.op s
    | .loopEnds => s.running = true ∧ s' = { s with running := false, trace := .ended :: s.trace }

/-! ## What the trace says -/

/-- A start of the loop, or a join of the loop that was cancelled. -/
def TaskEvent.decides : TaskEvent → Bool
  | .started => true
  | .joined cancelled => cancelled
  | .ended => false

/-- A task was started, and not cancelled and joined since. -/
def Live (trace : List TaskEvent) : Prop := latest TaskEvent.decides trace = some .started

/-- Every task that was started was joined or ended by itself. -/
def Quiet (trace : List TaskEvent) : Prop :=
  ∀ later past, trace = later ++ .started :: past → ∃ e ∈ later, e ≠ .started

/-- Before a second task was started the one in front of it was joined or ended by itself. -/
def NoOverlap (trace : List TaskEvent) : Prop :=
  ∀ later past, trace = later ++ .started :: past → Quiet past

section

variable {trace : List TaskEvent}

@[simp] theorem not_live_nil : ¬ Live [] := nofun

@[simp] theorem live_started : Live (.started :: trace) := latest_cons_of_pos rfl trace

@[simp] theorem not_live_cancelled : ¬ Live (.joined true :: trace) := by
  unfold Live
  rw [latest_cons_of_pos rfl]
  nofun

@[simp] theorem live_ended : Live (.ended :: trace) ↔ Live trace := by
  unfold Live
  rw [latest_cons_of_neg rfl]

theorem quiet_nil : Quiet [] := by
  intro later past hsplit
  simp at hsplit

/-- Behind the end of a task nothing is left to end. -/
theorem quiet_cons {e : TaskEvent} (he : e ≠ .started) : Quiet (e :: trace) := by
  intro later past hsplit
  cases later with
  | nil =>
    injection hsplit with hhead _
    exact absurd hhead he
  | cons first later =>
    injection hsplit with hhead _
    exact ⟨first, List.mem_cons_self, by rwa [← hhead]⟩

theorem noOverlap_nil : NoOverlap [] := by
  intro later past hsplit
  simp at hsplit

/-- Only a start may overlap with what was started before. -/
theorem noOverlap_cons {e : TaskEvent} (he : e = .started → Quiet trace) (h : NoOverlap trace) :
    NoOverlap (e :: trace) := by
  intro later past hsplit
  cases later with
  | nil =>
    injection hsplit with hhead htail
    rw [← htail]
    exact he hhead
  | cons first later =>
    injection hsplit with _ htail
    exact h later past htail

end

/-! ## The flags and the trace agree -/

/-- What a call does with the loop is told by whether the loop is to run in front of it and behind
it. -/
theorem NavCall.work_eq (c : NavCall) (nav : NavModule) :
    c.op.work nav =
      match nav.runs, (c.op.update nav).runs with
      | false, true => .runTask
      | true, false => .cancel
      | _, _ => .nothing := by
  obtain ⟨enabled, paused, _, _⟩ := nav
  cases c with
  | setEnabled enable => cases enable <;> cases enabled <;> cases paused <;> rfl
  | setConfig => cases enabled <;> cases paused <;> rfl
  | get => cases enabled <;> cases paused <;> rfl
  | pause => cases enabled <;> cases paused <;> rfl
  | resume => cases enabled <;> cases paused <;> rfl

/-- No operation writes the cancel flag of its own, nor looks at it. -/
theorem NavCall.update_cancel (c : NavCall) (nav : NavModule) :
    (c.op.update nav).cancel = nav.cancel := by
  cases c <;> rfl

/-- What holds between calls: the loop runs only while it is live, it is live while the flags say so,
and what does not run was joined or ended. -/
structure NavInv (s : NavDevice) : Prop where
  cancel : s.module.cancel = false
  irqCancel : s.irqCancel = false
  live : Live s.trace ↔ s.module.runs = true
  running : s.running = true → Live s.trace
  quiet : s.running = false → Quiet s.trace
  apart : NoOverlap s.trace

theorem navInv_new : NavInv fpcNavigationNew where
  cancel := rfl
  irqCancel := rfl
  live := ⟨nofun, nofun⟩
  running := nofun
  quiet _ := quiet_nil
  apart := noOverlap_nil

/-- The loop ends by itself. It stays live: nobody cancelled it. -/
theorem NavInv.loopEnds {s : NavDevice} (h : NavInv s) :
    NavInv { s with running := false, trace := .ended :: s.trace } where
  cancel := h.cancel
  irqCancel := h.irqCancel
  live := live_ended.trans h.live
  running := nofun
  quiet _ := quiet_cons nofun
  apart := noOverlap_cons nofun h.apart

/-- A call keeps the invariant, by what it does with the loop. -/
theorem NavInv.call {s : NavDevice} (h : NavInv s) (c : NavCall) : NavInv (navCall c.op s) := by
  have hwork := c.work_eq s.module
  have hcancel := (c.update_cancel s.module).trans h.cancel
  cases hbefore : s.module.runs with
  | false =>
    have hdead : ¬ Live s.trace := by simp [h.live, hbefore]
    have hidle : s.running = false := Bool.eq_false_iff.mpr fun hrunning => hdead (h.running hrunning)
    cases hafter : (c.op.update s.module).runs with
    | false =>
      have hcall : navCall c.op s = { s with module := c.op.update s.module } := by
        simp only [navCall, hwork, hbefore, hafter]
      rw [hcall]
      exact ⟨hcancel, h.irqCancel, by simp [hdead, hafter], h.running, h.quiet, h.apart⟩
    | true =>
      have hcall : navCall c.op s =
          { s with module := c.op.update s.module, running := true, trace := .started :: s.trace } := by
        simp only [navCall, hwork, hbefore, hafter, fpcWorkerRunTask]
      rw [hcall]
      -- the loop that was started before is over, so this start overlaps with none
      exact ⟨hcancel, h.irqCancel, by simp [hafter], fun _ => live_started, nofun,
        noOverlap_cons (fun _ => h.quiet hidle) h.apart⟩
  | true =>
    have hlive : Live s.trace := h.live.mpr hbefore
    cases hafter : (c.op.update s.module).runs with
    | false =>
      have hmodule : { s.module with cancel := false } = s.module := by
        rw [← h.cancel]
      have hcall : navCall c.op s =
          { module := c.op.update s.module, irqCancel := false, running := false,
            trace := .joined true :: s.trace } := by
        simp only [navCall, hwork, hbefore, hafter, NavCalls.cancel, fpcWorkerJoinTask, hmodule]
      rw [hcall]
      exact ⟨hcancel, rfl, by simp [hafter], nofun, fun _ => quiet_cons nofun,
        noOverlap_cons nofun h.apart⟩
    | true =>
      have hcall : navCall c.op s = { s with module := c.op.update s.module } := by
        simp only [navCall, hwork, hbefore, hafter]
      rw [hcall]
      exact ⟨hcancel, h.irqCancel, by simp [hlive, hafter], h.running, h.quiet, h.apart⟩

theorem run_navInv {history : List NavEvent} {s : NavDevice}
    (hrun : navCallSystem.Run history s) : NavInv s := by
  refine hrun.invariant_state ?_ ?_
  · intro s hinit
    rw [show s = fpcNavigationNew from hinit]
    exact navInv_new
  · intro s e s' h hstep
    cases e with
    | call c =>
      rw [show s' = navCall c.op s from hstep]
      exact h.call c
    | loopEnds =>
      rw [hstep.2]
      exact h.loopEnds

/-- The navigation runs exactly when it should. -/
theorem navCalls_exact {history : List NavEvent} {s : NavDevice}
    (hrun : navCallSystem.Run history s) :
    (Live s.trace ↔ s.module.enabled = true ∧ s.module.paused = false) ∧
      NoOverlap s.trace ∧ s.module.cancel = false := by
  have hinv := run_navInv hrun
  refine ⟨?_, hinv.apart, hinv.cancel⟩
  rw [hinv.live, NavModule.runs, Bool.and_eq_true, Bool.not_eq_true']

theorem run_call {history : List NavEvent} {s : NavDevice} (hrun : navCallSystem.Run history s)
    (c : NavCall) : navCallSystem.Run (.call c :: history) (navCall c.op s) := hrun.step rfl

theorem run_loopEnds {history : List NavEvent} {s : NavDevice} (hrun : navCallSystem.Run history s)
    (hrunning : s.running = true) :
    navCallSystem.Run (.loopEnds :: history)
      { s with running := false, trace := .ended :: s.trace } := hrun.step ⟨hrunning, rfl⟩

/-- A run: the loop is resumed, ends by itself, is disabled, and is enabled while paused. -/
theorem navCalls_exact_disabled :
    ∃ (history : List NavEvent) (s : NavDevice), navCallSystem.Run history s ∧
      s.trace = [.joined true, .ended, .started] ∧
      (Live s.trace ↔ s.module.enabled = true ∧ s.module.paused = false) ∧
      NoOverlap s.trace ∧ s.module.cancel = false := by
  have hnew : navCallSystem.Run [] fpcNavigationNew := .init rfl
  have hended := run_loopEnds (run_call hnew .resume) rfl
  have henabled := run_call (run_call (run_call hended (.setEnabled false)) .pause) (.setEnabled true)
  exact ⟨_, _, henabled, rfl, navCalls_exact henabled⟩

end Fpc.NavCalls
