import Fingerprints.Hal.Threads

/-!
# The convention of the entry points

`tee->shared_buffer` has no lock. An entry point that issues a command takes `hal->lock`, joins the
worker and pauses the navigation before it, and the worker issues its commands while the navigation
is paused. `Follows` is this convention as a property of an entry point alone, and `Inv` what it
makes of the device, whatever the order of the steps.

* **`EntryPoint.follows`**: all entry points but `pre_recalibrate_pn` follow the convention;
* **`Inv.step`**, **`inv_of_run`**: a step keeps the invariant, so every run does;
* **`Inv.idle_of_quiet`**, **`Inv.idle_of_task`**: where an entry point may issue commands and while
  a task runs, the navigation loop does not.
-/

namespace Fpc.Threads

open Runs

/-! ## The convention -/

/-- What a call achieved that is left at some point: nothing, the lock, a worker that is joined, the
navigation paused, a task handed over. -/
inductive Stage
  | out
  | held
  | joined
  | quiet
  | posted
  deriving DecidableEq

/-- The lock is held and no task is handed over. -/
def Stage.holding : Stage → Bool
  | .held | .joined | .quiet => true
  | .out | .posted => false

/-- The operation leaves `paused` as it is. -/
def NavOp.KeepsPaused (op : NavOp) : Prop := ∀ nav, (op.update nav).paused = nav.paused

/-- The operation pauses the navigation. -/
def NavOp.Pauses (op : NavOp) : Prop := ∀ nav, (op.update nav).paused = true

/-- What is left of a call keeps to the convention from a stage on. A `bare` one may issue commands
where it holds nothing. -/
inductive Follows (bare : Prop) : Stage → Prog → Prop
  | ret : Follows bare .out .ret
  | lock {rest : Prog} (hrest : Follows bare .held rest) : Follows bare .out (.lock rest)
  | unlock {stage : Stage} {rest : Prog} (hstage : stage.holding = true)
      (hrest : Follows bare .out rest) : Follows bare stage (.unlock rest)
  | join {stage : Stage} {rest : Prog} (hstage : stage.holding = true)
      (hrest : Follows bare .joined rest) : Follows bare stage (.join rest)
  | navOut {op : NavOp} {rest : Prog} (hop : op.KeepsPaused) (hrest : Follows bare .out rest) :
      Follows bare .out (.nav op rest)
  | navPause {op : NavOp} {rest : Prog} (hop : op.Pauses) (hrest : Follows bare .quiet rest) :
      Follows bare .joined (.nav op rest)
  | navJoined {op : NavOp} {rest : Prog} (hrest : Follows bare .joined rest) :
      Follows bare .joined (.nav op rest)
  | post {rest : Prog} (hrest : Follows bare .posted rest) : Follows bare .quiet (.post rest)
  | taken {rest : Prog} (hrest : Follows bare .held rest) : Follows bare .posted (.taken rest)
  | read {stage : Stage} {rest : HalCommon → Prog} (hrest : ∀ hal, Follows bare stage (rest hal)) :
      Follows bare stage (.read rest)
  | write {stage : Stage} {f : HalCommon → HalCommon} {rest : Prog}
      (hrest : Follows bare stage rest) : Follows bare stage (.write f rest)
  | tee {rest : Answer → Prog} (hrest : ∀ answer, Follows bare .quiet (rest answer)) :
      Follows bare .quiet (.tee rest)
  | teeBare {rest : Answer → Prog} (hbare : bare) (hrest : ∀ answer, Follows bare .out (rest answer)) :
      Follows bare .out (.tee rest)

variable {bare : Prop}

theorem pause_pauses : fpcNavigationPause.Pauses := fun _ => rfl

theorem setEnabled_keepsPaused (enabled : Bool) : (navSetEnabled enabled).KeepsPaused := fun _ => rfl

theorem unlock_follows {stage : Stage} (hstage : stage.holding = true) :
    Follows bare stage (.unlock .ret) := .unlock hstage .ret

theorem gotoIdle_follows {stage : Stage} {rest : Prog} (hstage : stage.holding = true)
    (hrest : Follows bare .quiet rest) : Follows bare stage (fingerprintHalGotoIdle rest) :=
  .join hstage (.navPause pause_pauses hrest)

theorem resume_follows {stage : Stage} {rest : Prog} (hstage : stage.holding = true)
    (hrest : Follows bare .joined rest) : Follows bare stage (fingerprintHalResume rest) :=
  .join hstage (.navJoined hrest)

theorem doAsyncWork_follows {stage : Stage} {owner : TaskOwner} {rest : Prog}
    (hstage : stage.holding = true) (hrest : Follows bare .held rest) :
    Follows bare stage (fingerprintHalDoAsyncWork owner rest) :=
  .join hstage (.navPause pause_pauses (.write (.post (.taken hrest))))

/-- A task is handed over by the call that holds the lock. -/
theorem idleTask_follows (owner : TaskOwner) :
    Follows bare .held
      (fingerprintHalGotoIdle (fingerprintHalDoAsyncWork owner (.unlock .ret))) :=
  gotoIdle_follows rfl (doAsyncWork_follows rfl (unlock_follows rfl))

theorem asTask_follows (owner : TaskOwner) : Follows bare .out (asTask owner) :=
  .lock (idleTask_follows owner)

/-- What an entry point does between `goto_idle` and `resume` may issue commands. -/
theorem whileIdle_follows {body : Prog → Prog}
    (hbody : ∀ out, Follows bare .quiet out → Follows bare .quiet (body out)) :
    Follows bare .out (whileIdle body) :=
  .lock (gotoIdle_follows rfl (hbody _ (resume_follows rfl (unlock_follows rfl))))

theorem teeCall_follows {rest : Prog} (hrest : Follows bare .quiet rest) :
    Follows bare .quiet (teeCall rest) := .tee fun _ => hrest

theorem ite_follows {c : Prop} [Decidable c] {stage : Stage} {p q : Prog}
    (hp : Follows bare stage p) (hq : Follows bare stage q) :
    Follows bare stage (if c then p else q) := by
  split
  · exact hp
  · exact hq

theorem setActiveGroup_follows (gid : UInt32) : Follows bare .out (fpcSetActiveGroup gid) := by
  apply whileIdle_follows
  intro out hout
  apply Follows.tee
  intro load
  refine ite_follows hout (.tee ?_)
  intro setGid
  exact ite_follows hout (.write (teeCall_follows hout))

theorem addSensorTest_follows {size : Int} {out : Prog} {rest : Int → Prog}
    (hout : Follows bare .quiet out) (hrest : ∀ size, Follows bare .quiet (rest size)) :
    Follows bare .quiet (addSensorTest size out rest) := ite_follows (hrest _) hout

theorem addSupportedTests_follows {out : Prog} (hout : Follows bare .quiet out) (tests : Nat)
    (size : Int) : Follows bare .quiet (addSupportedTests out tests size) := by
  induction tests generalizing size with
  | zero => exact hout
  | succ tests ih =>
    apply Follows.tee
    intro answer
    exact ite_follows (addSensorTest_follows hout ih) (ih size)

theorem getSensorTests_follows (size : Int) : Follows bare .out (getSensorTests size) := by
  apply whileIdle_follows
  intro out hout
  refine addSensorTest_follows hout fun size => ?_
  exact addSensorTest_follows hout (addSupportedTests_follows hout 8)

/-- All entry points but `pre_recalibrate_pn` keep to the convention. -/
theorem EntryPoint.follows (e : EntryPoint) : Follows (e = .preRecalibratePn) .out e.prog := by
  cases e with
  | preRecalibratePn => exact .teeBare rfl fun _ => .ret
  | getAuthenticatorId => exact .lock (unlock_follows rfl)
  | setActiveGroup gid => exact setActiveGroup_follows gid
  | authenticate | remove =>
    exact .lock (.read fun _ => ite_follows (unlock_follows rfl) (idleTask_follows _))
  | enroll =>
    refine .lock (.read fun _ => ite_follows (unlock_follows rfl) ?_)
    exact ite_follows (unlock_follows rfl) (idleTask_follows _)
  | cancel =>
    refine .lock (.read fun _ => ite_follows ?_ (unlock_follows rfl))
    exact gotoIdle_follows rfl (resume_follows rfl (unlock_follows rfl))
  | enumerate | calibratePn => exact asTask_follows _
  | navigationSetEnabled enabled => exact .navOut (setEnabled_keepsPaused enabled) .ret
  | navigationSetConfig | navigationGet => exact .navOut (fun _ => rfl) .ret
  | getSensorTests size => exact getSensorTests_follows size
  | runSensorTest | sensortestCapture | recalibratePn =>
    exact ite_follows (asTask_follows _) .ret
  | cancelSensorTest | sensortestCancelCapture | cancelCapture | authenticatorCancel
  | cancelRecalibration => exact whileIdle_follows fun _ hout => hout
  | startCapture mode =>
    cases mode with
    | capture | verify | enroll => exact asTask_follows _
    | other => exact .lock (unlock_follows rfl)
  | verifyUser => exact .lock (ite_follows (idleTask_follows _) (unlock_follows rfl))
  | preEnroll | postEnroll | getSensorInfo | getForce | isSupported | getEnrollChallenge
  | setEnrollToken | isUserValid => exact whileIdle_follows fun _ hout => teeCall_follows hout

/-! ## The invariant -/

section

variable {T : Type} {s s' : State T}

/-- What the device is like where the call of a client is at a stage. -/
def Holds (s : State T) (t : T) : Stage → Prop
  | .out => s.lock ≠ some t
  | .held => s.lock = some t ∧ s.worker.task = false
  | .joined => s.lock = some t ∧ s.worker.task = false ∧ s.worker.running = none
  | .quiet =>
      s.lock = some t ∧ s.worker.task = false ∧ s.worker.running = none ∧ s.nav.paused = true
  | .posted => s.lock = some t

/-- What is left of a call, or that there is none, at a stage. -/
def CallAt : Option (EntryPoint × Prog) → Stage → Prop
  | none, stage => stage = .out
  | some (e, prog), stage => Follows (e = .preRecalibratePn) stage prog

theorem CallAt.of_follows {e : EntryPoint} {prog : Prog} {stage : Stage}
    (h : Follows (e = .preRecalibratePn) stage prog) : CallAt (some (e, prog)) stage := h

/-- The call of a client keeps to the convention. -/
def ClientOk (s : State T) (t : T) : Prop := ∃ stage, CallAt (s.calls t) stage ∧ Holds s t stage

/-- The loop is where an operation of the module has brought it. -/
def PhaseOk (nav : NavModule) (loop : Worker NavLoop) (op : NavOp) : NavPhase → Prop
  | .cancelling => nav.runs = true ∧ loop.task = false
  | .posting => op.work nav = .runTask ∧ loop.task = false ∧ loop.running = none
  | .taking => op.work nav = .runTask
  | .leaving => loop.task = false ∧ (loop.running ≠ none → (op.update nav).runs = true)

/-- The loop runs only where it is to run, but for what an operation under way is changing. -/
def MutexOk (s : State T) : Prop :=
  match s.navMutex with
  | none => s.navThread.task = false ∧ (s.navThread.running ≠ none → s.nav.runs = true)
  | some holder =>
      s.AtOp holder.op holder.party ∧ PhaseOk s.nav s.navThread holder.op holder.phase

/-- The invariant of the device. -/
structure Inv (s : State T) : Prop where
  clients : ∀ t, ClientOk s t
  posted : s.worker.task = true →
    s.worker.running = none ∧ s.nav.paused = true ∧ s.lock ≠ none
  task : s.worker.running = some .task → s.nav.paused = true
  mutex : MutexOk s

/-- A client that holds the lock is the only one. -/
theorem Holds.lock_eq {t : T} {stage : Stage} (h : Holds s t stage) (hout : stage ≠ .out) :
    s.lock = some t := by
  cases stage with
  | out => exact absurd rfl hout
  | held | joined | quiet => exact h.1
  | posted => exact h

theorem Holds.held {t : T} {stage : Stage} (h : Holds s t stage) (hstage : stage.holding = true) :
    Holds s t .held := by
  cases stage with
  | out | posted => cases hstage
  | held => exact h
  | joined | quiet => exact ⟨h.1, h.2.1⟩

/-- While another client holds the lock, a client holds nothing. -/
theorem Holds.eq_out {t u : T} {stage : Stage} (h : Holds s u stage) (hlock : s.lock = some t)
    (hne : u ≠ t) : stage = .out := by
  by_contra hout
  rw [h.lock_eq hout] at hlock
  exact hne (Option.some.inj hlock)

/-- The stage of a client is read from the lock, the worker and `paused`. -/
theorem Holds.frame {t : T} {stage : Stage} (h : Holds s t stage) (hlock : s'.lock = s.lock)
    (hworker : s'.worker = s.worker) (hpaused : s'.nav.paused = s.nav.paused) :
    Holds s' t stage := by
  cases stage with
  | out | held | joined | quiet | posted => simpa [Holds, hlock, hworker, hpaused] using h

theorem ClientOk.of_call {t : T} {e : EntryPoint} {prog : Prog} (h : ClientOk s t)
    (hcall : s.calls t = some (e, prog)) :
    ∃ stage, Follows (e = .preRecalibratePn) stage prog ∧ Holds s t stage := by
  unfold ClientOk at h
  rw [hcall] at h
  exact h

/-- A step of one client: its call goes on, and the stages of the others stay. -/
theorem clients_move [DecidableEq T] {t : T} {call : Option (EntryPoint × Prog)} {stage : Stage}
    (hinv : Inv s) (hcalls : s'.calls = Function.update s.calls t call) (hcall : CallAt call stage)
    (hholds : Holds s' t stage)
    (hothers : ∀ u stage, u ≠ t → Holds s u stage → Holds s' u stage) :
    ∀ u, ClientOk s' u := by
  intro u
  by_cases hu : u = t
  · subst hu
    refine ⟨stage, ?_, hholds⟩
    rwa [hcalls, Function.update_self]
  · obtain ⟨other, hat, hother⟩ := hinv.clients u
    refine ⟨other, ?_, hothers u other hu hother⟩
    rwa [hcalls, Function.update_of_ne hu]

/-- A step of another thread: the calls stay where they are. -/
theorem clients_frame (hinv : Inv s) (hcalls : s'.calls = s.calls)
    (hholds : ∀ u stage, CallAt (s.calls u) stage → Holds s u stage → Holds s' u stage) :
    ∀ u, ClientOk s' u := by
  intro u
  obtain ⟨stage, hat, h⟩ := hinv.clients u
  exact ⟨stage, by rwa [hcalls], hholds u stage hat h⟩

/-! ### The mutex of the navigation module -/

/-- An operation stays where it is when the call it is in does. -/
theorem atOp_frame {op : NavOp} {p : Party T} (h : s.AtOp op p)
    (hcalls : ∀ u e op rest, s.calls u = some (e, .nav op rest) →
      s'.calls u = some (e, .nav op rest))
    (hworker : s.worker.running = some .resume → s'.worker.running = some .resume) :
    s'.AtOp op p := by
  cases p with
  | client u =>
    obtain ⟨e, rest, hcall⟩ := h
    exact ⟨e, rest, hcalls u e op rest hcall⟩
  | worker => exact ⟨hworker h.1, h.2⟩
  | nav => exact h

theorem MutexOk.frame (h : MutexOk s) (hmutex : s'.navMutex = s.navMutex) (hnav : s'.nav = s.nav)
    (hthread : s'.navThread = s.navThread)
    (hcalls : ∀ u e op rest, s.calls u = some (e, .nav op rest) →
      s'.calls u = some (e, .nav op rest))
    (hworker : s.worker.running = some .resume → s'.worker.running = some .resume) :
    MutexOk s' := by
  unfold MutexOk at h ⊢
  rw [hmutex, hnav, hthread]
  cases hholder : s.navMutex with
  | none =>
    rw [hholder] at h
    exact h
  | some holder =>
    rw [hholder] at h
    exact ⟨atOp_frame h.1 hcalls hworker, h.2⟩

/-- A client that is not at an operation goes on: the operations under way stay. -/
theorem calls_move [DecidableEq T] {t : T} {e : EntryPoint} {prog : Prog}
    {call : Option (EntryPoint × Prog)} (hcall : s.calls t = some (e, prog)) (hprog : ∀ op rest, prog ≠ .nav op rest)
    (u : T) (e' : EntryPoint) (op : NavOp) (rest : Prog)
    (hat : s.calls u = some (e', .nav op rest)) :
    Function.update s.calls t call u = some (e', .nav op rest) := by
  have hne : u ≠ t := by
    rintro rfl
    rw [hcall] at hat
    injection hat with hat
    injection hat with _ hat
    exact hprog op rest hat
  rw [Function.update_of_ne hne, hat]

theorem MutexOk.move [DecidableEq T] {t : T} {e : EntryPoint} {prog : Prog}
    {call : Option (EntryPoint × Prog)} (h : MutexOk s) (hcall : s.calls t = some (e, prog)) (hprog : ∀ op rest, prog ≠ .nav op rest)
    (hcalls : s'.calls = Function.update s.calls t call) (hmutex : s'.navMutex = s.navMutex)
    (hnav : s'.nav = s.nav) (hthread : s'.navThread = s.navThread)
    (hrunning : s'.worker.running = s.worker.running) : MutexOk s' := by
  refine h.frame hmutex hnav hthread ?_ fun hresume => by rw [hrunning, hresume]
  rw [hcalls]
  exact calls_move hcall hprog

theorem not_runs_of_paused {nav : NavModule} (h : nav.paused = true) : nav.runs = false := by
  simp [NavModule.runs, h]

/-- While the navigation is paused and no operation under way resumes it, the loop is idle. -/
theorem MutexOk.idle (h : MutexOk s) (hpaused : s.nav.paused = true)
    (hkeeps : ∀ holder, s.navMutex = some holder → holder.op.KeepsPaused) :
    s.navThread.running = none := by
  by_contra hrunning
  have hnot := not_runs_of_paused hpaused
  unfold MutexOk at h
  cases hholder : s.navMutex with
  | none =>
    rw [hholder] at h
    rw [h.2 hrunning] at hnot
    cases hnot
  | some holder =>
    rw [hholder] at h
    have hupdate : (holder.op.update s.nav).runs = false :=
      not_runs_of_paused ((hkeeps holder hholder s.nav).trans hpaused)
    replace h := h.2
    cases hphase : holder.phase with
    | cancelling =>
      rw [hphase] at h
      rw [h.1] at hnot
      cases hnot
    | posting =>
      rw [hphase] at h
      exact hrunning h.2.2
    | taking =>
      rw [hphase] at h
      rw [(holder.op.starts _ h).2] at hupdate
      cases hupdate
    | leaving =>
      rw [hphase] at h
      rw [h.2 hrunning] at hupdate
      cases hupdate

/-- The operation under way keeps `paused` where the worker does not resume and the client that holds
the lock is at none. -/
theorem Inv.keepsPaused (hinv : Inv s) (hresume : s.worker.running ≠ some .resume)
    (hjoined : ∀ u e op rest, s.calls u = some (e, .nav op rest) → ¬ Holds s u .joined)
    (holder : NavHolder T) (hholder : s.navMutex = some holder) : holder.op.KeepsPaused := by
  have hmutex := hinv.mutex
  unfold MutexOk at hmutex
  rw [hholder] at hmutex
  have hat := hmutex.1
  obtain ⟨party, op, phase⟩ := holder
  cases party with
  | client u =>
    obtain ⟨e, rest, hcall⟩ := hat
    obtain ⟨stage, hfollows, hholds⟩ := (hinv.clients u).of_call hcall
    cases hfollows with
    | navOut hop => exact hop
    | navPause | navJoined => exact absurd hholds (hjoined u e op rest hcall)
  | worker => exact absurd hat.1 hresume
  | nav => exact hat.elim

/-- Where an entry point may issue commands, the loop does not run. -/
theorem Inv.idle_of_quiet (hinv : Inv s) {t : T} (hquiet : Holds s t .quiet)
    (hcall : ∀ e op rest, s.calls t ≠ some (e, .nav op rest)) : s.navThread.running = none := by
  obtain ⟨hlock, _, hrunning, hpaused⟩ := hquiet
  apply hinv.mutex.idle hpaused
  apply hinv.keepsPaused
  · simp [hrunning]
  · rintro u e op rest hat ⟨hu, _⟩
    rw [hlock] at hu
    injection hu with hu
    subst hu
    exact hcall e op rest hat

/-- While a task runs, the loop does not. -/
theorem Inv.idle_of_task (hinv : Inv s) (htask : s.worker.running = some .task) :
    s.navThread.running = none := by
  apply hinv.mutex.idle (hinv.task htask)
  apply hinv.keepsPaused
  · simp [htask]
  · rintro u e op rest _ ⟨_, _, hrunning⟩
    rw [htask] at hrunning
    cases hrunning

/-! ### The steps -/

/-- The threads of the navigation take a step of their own. -/
theorem Inv.navStep (hinv : Inv s) (hcalls : s'.calls = s.calls) (hlock : s'.lock = s.lock)
    (hworker : s'.worker = s.worker) (hpaused : s'.nav.paused = s.nav.paused)
    (hmutex : MutexOk s') : Inv s' where
  clients := clients_frame hinv hcalls fun _ _ _ h => h.frame hlock hworker hpaused
  posted := by
    rw [hworker, hpaused, hlock]
    exact hinv.posted
  task := by
    rw [hworker, hpaused]
    exact hinv.task
  mutex := hmutex

/-- A task that is handed over is taken. -/
theorem Inv.take (hinv : Inv s) (htask : s.worker.task = true) :
    Inv { s with worker := ⟨some .task, false⟩ } := by
  obtain ⟨hrunning, hpaused, _⟩ := hinv.posted htask
  constructor
  · refine clients_frame hinv rfl ?_
    intro u stage _ h
    cases stage with
    | out | posted => exact h
    | held | joined | quiet =>
      have hnot := h.2
      simp [htask] at hnot
  · simp
  · exact fun _ => hpaused
  · refine hinv.mutex.frame rfl rfl rfl (fun _ _ _ _ h => h) ?_
    simp [hrunning]

/-- The worker is behind its task. -/
theorem Inv.worker (hinv : Inv s) {work : HalWork} {running : Option HalWork}
    (hwork : s.worker.running = some work) (hnot : running ≠ some .task)
    (hmutex : MutexOk s') (hcalls : s'.calls = s.calls) (hlock : s'.lock = s.lock)
    (hworker : s'.worker = { s.worker with running := running }) : Inv s' where
  clients := by
    apply clients_frame hinv hcalls
    intro u stage _ h
    cases stage with
    | out | posted => simpa [Holds, hlock] using h
    | held => simpa [Holds, hlock, hworker] using h
    | joined | quiet =>
      have hidle := h.2.2
      simp [hwork] at hidle
  posted := by
    intro h
    rw [hworker] at h
    have hidle := (hinv.posted h).1
    rw [hwork] at hidle
    cases hidle
  task := by
    intro h
    rw [hworker] at h
    exact absurd h hnot
  mutex := hmutex

theorem MutexOk.enter (h : MutexOk s) {p : Party T} {op : NavOp} (hat : s.AtOp op p)
    (hfree : s.navMutex = none) : MutexOk (s.enter p op) := by
  unfold MutexOk at h
  rw [hfree] at h
  obtain ⟨htask, hruns⟩ := h
  have hat' : ∀ s' : State T, s'.calls = s.calls → s'.worker = s.worker → s'.AtOp op p := by
    intro s' hcalls hworker
    refine atOp_frame hat ?_ ?_
    · simp [hcalls]
    · simp [hworker]
  unfold State.enter
  cases hwork : op.work s.nav with
  | nothing =>
    exact ⟨hat' _ rfl rfl, htask, fun hrunning => op.keeps _ hwork (hruns hrunning)⟩
  | cancel => exact ⟨hat' _ rfl rfl, (op.cancels s.nav hwork : s.nav.runs = true), htask⟩
  | runTask =>
    refine ⟨hat' _ rfl rfl, hwork, htask, ?_⟩
    by_contra hrunning
    have hnot := (op.starts _ hwork).1
    rw [hruns hrunning] at hnot
    cases hnot

theorem enter_frame (s : State T) (p : Party T) (op : NavOp) :
    (s.enter p op).calls = s.calls ∧ (s.enter p op).lock = s.lock ∧
      (s.enter p op).worker = s.worker ∧ (s.enter p op).nav.paused = s.nav.paused := by
  unfold State.enter
  cases op.work s.nav <;> exact ⟨rfl, rfl, rfl, rfl⟩

/-- The holder of the mutex is at its operation, and its phase says where the loop is. -/
theorem MutexOk.held (h : MutexOk s) {p : Party T} {op : NavOp} {phase : NavPhase}
    (hmutex : s.navMutex = some ⟨p, op, phase⟩) :
    s.AtOp op p ∧ PhaseOk s.nav s.navThread op phase := by
  unfold MutexOk at h
  rw [hmutex] at h
  exact h

section

variable [DecidableEq T]

/-- A client goes on, and nothing that the others know changes. -/
theorem Inv.move {t : T} {e : EntryPoint} {prog : Prog} {call : Option (EntryPoint × Prog)}
    {stage : Stage} (hinv : Inv s) (hat : s.calls t = some (e, prog))
    (hprog : ∀ op rest, prog ≠ .nav op rest)
    (hcalls : s'.calls = Function.update s.calls t call) (hlock : s'.lock = s.lock)
    (hworker : s'.worker = s.worker) (hnav : s'.nav = s.nav)
    (hmutex : s'.navMutex = s.navMutex) (hthread : s'.navThread = s.navThread)
    (hcall : CallAt call stage) (hholds : Holds s t stage) : Inv s' where
  clients := by
    apply clients_move hinv hcalls hcall (hholds.frame hlock hworker (by rw [hnav]))
    intro u stage _ h
    exact h.frame hlock hworker (by rw [hnav])
  posted := by
    rw [hworker, hnav, hlock]
    exact hinv.posted
  task := by
    rw [hworker, hnav]
    exact hinv.task
  mutex := hinv.mutex.move hat hprog hcalls hmutex hnav hthread (by rw [hworker])

theorem Inv.call (hinv : Inv s) {t : T} {e : EntryPoint} (hcall : s.calls t = none) :
    Inv (s.move t e e.prog) where
  clients := by
    obtain ⟨stage, hat, hholds⟩ := hinv.clients t
    rw [hcall] at hat
    cases hat
    exact clients_move hinv rfl e.follows hholds fun u stage _ h => h.frame rfl rfl rfl
  posted := hinv.posted
  task := hinv.task
  mutex := by
    refine hinv.mutex.frame rfl rfl rfl ?_ id
    intro u e' op rest hat
    have hne : u ≠ t := by
      rintro rfl
      rw [hcall] at hat
      cases hat
    simpa [State.move, hne] using hat

theorem Inv.lock (hinv : Inv s) {t : T} {e : EntryPoint} {rest : Prog}
    (hcall : s.calls t = some (e, .lock rest)) (hfree : s.lock = none) :
    Inv { s.move t e rest with lock := some t } where
  clients := by
    obtain ⟨stage, hfollows, hholds⟩ := (hinv.clients t).of_call hcall
    cases hfollows with
    | lock hrest =>
      have htask : s.worker.task = false := by
        by_contra h
        exact (hinv.posted (by simpa using h)).2.2 hfree
      refine clients_move hinv rfl (CallAt.of_follows hrest) ⟨rfl, htask⟩ ?_
      intro u stage hu h
      -- nobody held the lock
      cases stage with
      | out => exact fun hlock => hu (Option.some.inj hlock).symm
      | held | joined | quiet => exact absurd h.1 (by simp [hfree])
      | posted => exact absurd h (by simp [Holds, hfree])
  posted := fun h => absurd hfree (hinv.posted h).2.2
  task := hinv.task
  mutex := hinv.mutex.move hcall (by simp) rfl rfl rfl rfl rfl

theorem Inv.unlock (hinv : Inv s) {t : T} {e : EntryPoint} {rest : Prog}
    (hcall : s.calls t = some (e, .unlock rest)) :
    Inv { s.move t e rest with lock := none } := by
  obtain ⟨stage, hfollows, hholds⟩ := (hinv.clients t).of_call hcall
  cases hfollows with
  | unlock hstage hrest =>
    obtain ⟨hlock, htask⟩ := hholds.held hstage
    constructor
    · refine clients_move hinv rfl (CallAt.of_follows hrest) (by simp [Holds]) ?_
      intro u stage hu h
      rw [h.eq_out hlock hu]
      simp [Holds]
    · intro h
      rw [show s.worker.task = true from h] at htask
      cases htask
    · exact hinv.task
    · exact hinv.mutex.move hcall (by simp) rfl rfl rfl rfl rfl

theorem Inv.post (hinv : Inv s) {t : T} {e : EntryPoint} {rest : Prog}
    (hcall : s.calls t = some (e, .post rest)) :
    Inv { s.move t e rest with worker := { s.worker with task := true } } := by
  obtain ⟨stage, hfollows, hholds⟩ := (hinv.clients t).of_call hcall
  cases hfollows with
  | post hrest =>
    obtain ⟨hlock, _, hrunning, hpaused⟩ := hholds
    constructor
    · refine clients_move hinv rfl (CallAt.of_follows hrest) hlock ?_
      intro u stage hu h
      obtain rfl := h.eq_out hlock hu
      exact h
    · intro _
      refine ⟨hrunning, hpaused, ?_⟩
      simp [State.move, hlock]
    · exact hinv.task
    · exact hinv.mutex.move hcall (by simp) rfl rfl rfl rfl rfl

theorem Inv.leaveClient (hinv : Inv s) {t : T} {op : NavOp} {e : EntryPoint} {rest : Prog}
    (hmutex : s.navMutex = some ⟨.client t, op, .leaving⟩)
    (hcall : s.calls t = some (e, .nav op rest)) : Inv ((s.leave op).move t e rest) := by
  obtain ⟨stage, hfollows, hholds⟩ := (hinv.clients t).of_call hcall
  have hfree : MutexOk ((s.leave op).move t e rest) := (hinv.mutex.held hmutex).2
  -- in the stage `joined` no task runs or is handed over, and the others hold nothing
  have hjoined : Holds s t .joined → ∀ u stage, u ≠ t → Holds s u stage →
      Holds ((s.leave op).move t e rest) u stage := by
    intro hjoined u stage hu h
    obtain rfl := h.eq_out hjoined.1 hu
    exact h
  cases hfollows with
  | navOut hop hrest =>
    have hpaused : ((s.leave op).move t e rest).nav.paused = s.nav.paused := hop s.nav
    constructor
    · refine clients_move hinv rfl (CallAt.of_follows hrest) hholds ?_
      intro u stage _ h
      exact h.frame rfl rfl hpaused
    · rw [hpaused]
      exact hinv.posted
    · rw [hpaused]
      exact hinv.task
    · exact hfree
  | navPause hop hrest =>
    obtain ⟨hlock, htask, hrunning⟩ := hholds
    constructor
    · exact clients_move hinv rfl (CallAt.of_follows hrest)
        ⟨hlock, htask, hrunning, hop s.nav⟩ (hjoined ⟨hlock, htask, hrunning⟩)
    · intro h
      rw [show s.worker.task = true from h] at htask
      cases htask
    · exact fun _ => hop s.nav
    · exact hfree
  | navJoined hrest =>
    obtain ⟨hlock, htask, hrunning⟩ := hholds
    constructor
    · exact clients_move hinv rfl (CallAt.of_follows hrest) ⟨hlock, htask, hrunning⟩
        (hjoined ⟨hlock, htask, hrunning⟩)
    · intro h
      rw [show s.worker.task = true from h] at htask
      cases htask
    · intro h
      rw [show s.worker.running = some .task from h] at hrunning
      cases hrunning
    · exact hfree

/-- A step keeps the invariant. -/
theorem Inv.step {a : Action T} (hinv : Inv s) (hstep : Step s a s') : Inv s' := by
  cases hstep with
  | call t e hcall => exact hinv.call hcall
  | lock hcall hfree => exact hinv.lock hcall hfree
  | unlock hcall => exact hinv.unlock hcall
  | post hcall => exact hinv.post hcall
  | take _ htask => exact hinv.take htask
  | ret hcall =>
    obtain ⟨stage, hfollows, hholds⟩ := (hinv.clients _).of_call hcall
    cases hfollows with
    | ret => exact hinv.move hcall (by simp) rfl rfl rfl rfl rfl rfl rfl hholds
  | join hcall hidle =>
    obtain ⟨stage, hfollows, hholds⟩ := (hinv.clients _).of_call hcall
    cases hfollows with
    | join hstage hrest =>
      obtain ⟨hlock, htask⟩ := hholds.held hstage
      exact hinv.move hcall (by simp) rfl rfl rfl rfl rfl rfl hrest ⟨hlock, htask, hidle⟩
  | taken hcall htaken =>
    obtain ⟨stage, hfollows, hholds⟩ := (hinv.clients _).of_call hcall
    cases hfollows with
    | taken hrest => exact hinv.move hcall (by simp) rfl rfl rfl rfl rfl rfl hrest ⟨hholds, htaken⟩
  | read hcall =>
    obtain ⟨stage, hfollows, hholds⟩ := (hinv.clients _).of_call hcall
    cases hfollows with
    | read hrest => exact hinv.move hcall (by simp) rfl rfl rfl rfl rfl rfl (hrest _) hholds
  | write hcall =>
    obtain ⟨stage, hfollows, hholds⟩ := (hinv.clients _).of_call hcall
    cases hfollows with
    | write hrest => exact hinv.move hcall (by simp) rfl rfl rfl rfl rfl rfl hrest hholds
  | teeReturn answer hcall =>
    obtain ⟨stage, hfollows, hholds⟩ := (hinv.clients _).of_call hcall
    cases hfollows with
    | tee hrest | teeBare _ hrest =>
      exact hinv.move hcall (by simp) rfl rfl rfl rfl rfl rfl (hrest answer) hholds
  | taskDone htask =>
    refine hinv.worker htask ?_ ?_ rfl rfl rfl
    · simp
    · refine hinv.mutex.frame rfl rfl rfl (fun _ _ _ _ h => h) ?_
      simp
  | enter hat hfree =>
    obtain ⟨hcalls, hlock, hworker, hpaused⟩ := enter_frame s _ _
    exact hinv.navStep hcalls hlock hworker hpaused (hinv.mutex.enter hat hfree)
  | cancelled hmutex hidle =>
    obtain ⟨hat, _, htask⟩ := hinv.mutex.held hmutex
    refine hinv.navStep rfl rfl rfl rfl ⟨atOp_frame hat (fun _ _ _ _ h => h) id, htask, ?_⟩
    exact fun hrunning => absurd hidle hrunning
  | navPost hmutex =>
    obtain ⟨hat, hwork, _⟩ := hinv.mutex.held hmutex
    exact hinv.navStep rfl rfl rfl rfl ⟨atOp_frame hat (fun _ _ _ _ h => h) id, hwork⟩
  | navTaken hmutex htaken =>
    obtain ⟨hat, hwork⟩ := hinv.mutex.held hmutex
    refine hinv.navStep rfl rfl rfl rfl ⟨atOp_frame hat (fun _ _ _ _ h => h) id, htaken, ?_⟩
    exact fun _ => (NavOp.starts _ _ hwork).2
  | leaveClient hmutex hcall => exact hinv.leaveClient hmutex hcall
  | leaveWorker hmutex =>
    obtain ⟨hat, hphase⟩ := hinv.mutex.held hmutex
    exact hinv.worker hat.1 (by simp) hphase rfl rfl rfl
  | navTake hidle htask =>
    refine hinv.navStep rfl rfl rfl rfl ?_
    have hmutex := hinv.mutex
    unfold MutexOk at hmutex ⊢
    cases hholder : s.navMutex with
    | none => simp [hholder, htask] at hmutex
    | some holder =>
      rw [hholder] at hmutex
      obtain ⟨hat, hphase⟩ := hmutex
      refine ⟨atOp_frame hat (fun _ _ _ _ h => h) id, ?_⟩
      cases hp : holder.phase with
      | cancelling | posting | leaving => simp [hp, PhaseOk, htask] at hphase
      | taking => simpa [hp, PhaseOk] using hphase
  | navNext status hrunning =>
    refine hinv.navStep rfl rfl rfl rfl ?_
    have hmutex := hinv.mutex
    unfold MutexOk at hmutex ⊢
    cases hholder : s.navMutex with
    | none =>
      rw [hholder] at hmutex
      exact ⟨hmutex.1, fun _ => hmutex.2 (by simp [hrunning])⟩
    | some holder =>
      rw [hholder] at hmutex
      obtain ⟨hat, hphase⟩ := hmutex
      refine ⟨atOp_frame hat (fun _ _ _ _ h => h) id, ?_⟩
      cases hp : holder.phase with
      | cancelling | posting | taking | leaving => simp_all [PhaseOk]
  | fill | answer =>
    refine hinv.navStep rfl rfl rfl rfl ?_
    exact hinv.mutex.frame rfl rfl rfl (fun _ _ _ _ h => h) id

/-- The invariant holds in every run. -/
theorem inv_of_run {history : List (Moment T)} (hrun : deviceSystem.Run history s) : Inv s := by
  apply hrun.invariant_state
  · rintro _ rfl
    constructor
    · exact fun t => ⟨.out, rfl, by simp [Holds, opened]⟩
    · simp [opened]
    · simp [opened]
    · exact ⟨rfl, fun _ => rfl⟩
  · rintro s m s' hinv ⟨_, hstep⟩
    exact hinv.step hstep

end

end

end Fpc.Threads
