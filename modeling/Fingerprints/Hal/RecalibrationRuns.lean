import Fingerprints.Hal.Recalibration

/-!
# Recalibrations apart

Nothing keeps the calls that write the recalibration module from the task that reads it. Where they
keep apart by themselves, the module is the one of the run in progress.

* **`Inv.step`**: where no call touches the module while a run is in progress, a step keeps the
  invariant, which says whose token and callbacks are there;
* **`truthful_of_apart`**: so in a run of that kind every task uses the token of its own call, frees
  it once and reports once, but where a cancellation is read behind a step that succeeded;
* **`okCanceled_silent`**: there it reports nothing.
-/

namespace Fpc.Recalibration

open Runs

/-! ## The invariant -/

section

variable {T C : Type} {s s' : State T C}

/-- The block of a run is the only one, and the module has it. -/
structure Owned (s : State T C) (start : Start C) : Prop where
  token : s.module.token = some start.block
  live : s.heap start.block ≠ none
  only : ∀ block, block ≠ start.block → s.heap block = none

/-- The callbacks of a run are in the module. -/
structure Ready (s : State T C) (start : Start C) : Prop extends Owned s start where
  statusCb : s.module.statusCb = start.statusCb
  errorCb : s.module.errorCb = start.errorCb

/-- The token of a run is in its block. -/
structure Copied (s : State T C) (start : Start C) : Prop extends Ready s start where
  bytes : s.heap start.block = some start.token
  size : s.module.sizeToken = start.token.length

/-- What a task finds at a statement of `reset_recalibration`. -/
def ResetOk (s : State T C) (start : Start C) : ResetStage → Prop
  | .errorCb | .statusCb | .free => Owned s start
  | .token => ∀ block, s.heap block = none
  | .size => s.module.token = none ∧ ∀ block, s.heap block = none

/-- What a task finds and has reported where it is. -/
def TaskOk (s : State T C) (start : Start C) (reports : List (Report C)) : TaskStage → Prop
  | .args => Copied s start ∧ reports = []
  | .authorize pointer size =>
      Copied s start ∧ reports = [] ∧ pointer = some start.block ∧ size = start.token.length
  | .out status _ => Ready s start ∧ if status = 0 then Reported start reports else reports = []
  | .reset stage => ResetOk s start stage ∧ Reported start reports
  | _ => Ready s start ∧ reports = []

/-- No run is in progress. -/
structure Idle (s : State T C) : Prop where
  worker : s.worker = none
  calls : ∀ t, (s.calls t).bind Call.start? = none
  token : s.module.token = none
  heap : ∀ block, s.heap block = none

/-- A call prepares a run. -/
structure Preparing (s : State T C) (t : T) (stage : RecalibrateStage C) (start : Start C) :
    Prop where
  worker : s.worker = none
  call : s.calls t = some (.recalibrate stage)
  prepares : (Call.recalibrate stage).start? = some start
  others : ∀ u, u ≠ t → (s.calls u).bind Call.start? = none
  ready : Ready s start
  copied : stage ≠ .copy start → Copied s start

/-- A task runs. -/
structure Running (s : State T C) (task : Task C) : Prop where
  worker : s.worker = some task
  calls : ∀ t, (s.calls t).bind Call.start? = none
  task : TaskOk s task.start task.reports task.stage

/-- At most one run is in progress, and the module is its own. -/
inductive Inv (s : State T C) : Prop
  | idle (h : Idle s)
  | preparing (t : T) (stage : RecalibrateStage C) (start : Start C) (h : Preparing s t stage start)
  | running (task : Task C) (h : Running s task)

theorem Inv.idle_of_not (hinv : Inv s) (hnot : ¬ InProgress s) : Idle s := by
  cases hinv with
  | idle h => exact h
  | preparing t stage start h =>
    refine absurd (.inr ⟨t, ?_⟩) hnot
    simp [h.call, h.prepares]
  | running task h => exact absurd (.inl (by simp [h.worker])) hnot

/-- The call that prepares a run is the only one. -/
theorem Inv.preparing_of {t : T} {stage : RecalibrateStage C} {start : Start C} (hinv : Inv s)
    (hcall : s.calls t = some (.recalibrate stage))
    (hstart : (Call.recalibrate stage).start? = some start) : Preparing s t stage start := by
  have hprepares : (s.calls t).bind Call.start? = some start := by simp [hcall, hstart]
  cases hinv with
  | idle h => simp [h.calls t] at hprepares
  | running task h => simp [h.calls t] at hprepares
  | preparing u stage' start' h =>
    by_cases hu : t = u
    · subst hu
      have heq := h.call
      rw [hcall] at heq
      simp only [Option.some.injEq, Call.recalibrate.injEq] at heq
      subst heq
      have hsame := h.prepares
      rw [hstart] at hsame
      obtain rfl := Option.some.inj hsame
      exact h
    · simp [h.others t hu] at hprepares

theorem Inv.running_of {task : Task C} (hinv : Inv s) (hworker : s.worker = some task) :
    Running s task := by
  cases hinv with
  | idle h => simp [h.worker] at hworker
  | preparing t stage start h => simp [h.worker] at hworker
  | running task' h =>
    rw [h.worker] at hworker
    obtain rfl := Option.some.inj hworker
    exact h

/-! ### What the steps keep -/

/-- `s'` differs from `s` in what a run does not look at. -/
structure Same (s s' : State T C) : Prop where
  heap : s'.heap = s.heap
  token : s'.module.token = s.module.token
  statusCb : s'.module.statusCb = s.module.statusCb
  errorCb : s'.module.errorCb = s.module.errorCb
  size : s'.module.sizeToken = s.module.sizeToken

theorem Owned.same {start : Start C} (h : Owned s start) (hsame : Same s s') : Owned s' start where
  token := by rw [hsame.token, h.token]
  live := by
    rw [hsame.heap]
    exact h.live
  only := by
    rw [hsame.heap]
    exact h.only

theorem Ready.same {start : Start C} (h : Ready s start) (hsame : Same s s') : Ready s' start where
  toOwned := h.toOwned.same hsame
  statusCb := by rw [hsame.statusCb, h.statusCb]
  errorCb := by rw [hsame.errorCb, h.errorCb]

theorem Copied.same {start : Start C} (h : Copied s start) (hsame : Same s s') :
    Copied s' start where
  toReady := h.toReady.same hsame
  bytes := by rw [hsame.heap, h.bytes]
  size := by rw [hsame.size, h.size]

theorem TaskOk.same {start : Start C} {reports : List (Report C)} {stage : TaskStage}
    (h : TaskOk s start reports stage) (hsame : Same s s') : TaskOk s' start reports stage := by
  cases stage with
  | args | authorize => exact ⟨h.1.same hsame, h.2⟩
  | reset stage =>
    refine ⟨?_, h.2⟩
    cases stage with
    | errorCb | statusCb | free => exact Owned.same h.1 hsame
    | token | size => simpa [ResetOk, hsame.heap, hsame.token] using h.1
  | _ => exact ⟨h.1.same hsame, h.2⟩

/-- `reset_recalibration` frees nothing where no run is in progress. -/
theorem Idle.resetStep (h : Idle s) (stage : ResetStage) : Idle (resetStep s stage).1 := by
  cases stage with
  | errorCb | statusCb | size => exact ⟨h.worker, h.calls, h.token, h.heap⟩
  | token => exact ⟨h.worker, h.calls, rfl, h.heap⟩
  | free =>
    unfold Recalibration.resetStep
    rw [h.token]
    exact h

/-! ### The task -/

/-- A run that ends early has reported nothing so far. -/
theorem taskOk_out {start : Start C} {status : Int} (hready : Ready s start) (hstatus : status ≠ 0)
    (code : Int) : TaskOk s start [] (.out status code) := ⟨hready, by simp [hstatus]⟩

theorem taskOk_orOut {start : Start C} {status code : Int} {next : TaskStage}
    (hready : Ready s start) (hnext : TaskOk s start [] next) :
    TaskOk s start [] (orOut status code next) := by
  unfold orOut
  split
  · next hstatus => exact taskOk_out hready hstatus code
  · exact hnext

/-- What a statement in front of `reset_recalibration` leaves to the next one. -/
theorem TaskOk.next {start : Start C} {reports : List (Report C)} {stage : TaskStage}
    (h : TaskOk s start reports stage)
    (hcancel : stage = .readCancel fpcPnOk → s.module.canceled = false)
    (hreset : ∀ reset, stage ≠ .reset reset) (status : Int) (allocated : Bool) :
    TaskOk s start (reports ++ newReports s stage) (nextStage s status allocated stage) := by
  cases stage with
  | args =>
    obtain ⟨hcopied, rfl⟩ := h
    exact ⟨hcopied, rfl, hcopied.token, hcopied.size⟩
  | authorize pointer size =>
    obtain ⟨hcopied, rfl, _, _⟩ := h
    unfold nextStage
    dsimp only
    split
    · exact taskOk_orOut hcopied.toReady ⟨hcopied.toReady, rfl⟩
    · exact taskOk_out hcopied.toReady (by decide) _
  | waiting | calibrate =>
    obtain ⟨hready, rfl⟩ := h
    exact ⟨hready, rfl⟩
  | lost =>
    obtain ⟨hready, rfl⟩ := h
    unfold nextStage
    dsimp only
    split <;> exact ⟨hready, rfl⟩
  | down | size | fingerEnd | save | load =>
    obtain ⟨hready, rfl⟩ := h
    exact taskOk_orOut hready ⟨hready, rfl⟩
  | buffer =>
    obtain ⟨hready, rfl⟩ := h
    unfold nextStage
    dsimp only
    split
    · exact ⟨hready, rfl⟩
    · exact taskOk_out hready (by decide) _
  | readCancel last =>
    obtain ⟨hready, rfl⟩ := h
    unfold nextStage
    dsimp only
    split
    · next hends =>
      -- only a cancellation can end the loop behind a success
      have hlast : last ≠ 0 := by
        rintro rfl
        rw [hcancel rfl] at hends
        revert hends
        decide
      exact taskOk_out hready hlast _
    · exact ⟨hready, rfl⟩
  | update last =>
    obtain ⟨hready, rfl⟩ := h
    unfold nextStage
    dsimp only
    split
    · exact ⟨hready, rfl⟩
    · exact taskOk_orOut hready ⟨hready, rfl⟩
  | done =>
    obtain ⟨hready, rfl⟩ := h
    refine ⟨hready, ?_⟩
    intro statusCb errorCb hstatus _
    simp [newReports, hready.statusCb, hstatus]
  | out last code =>
    obtain ⟨hready, hreports⟩ := h
    refine ⟨hready.toOwned, ?_⟩
    split at hreports
    · next hlast => simpa [newReports, hlast] using hreports
    · next hlast =>
      intro statusCb errorCb _ herror
      exact .inr ⟨code, by simp [newReports, hreports, hlast, hready.errorCb, herror]⟩
  | reset reset => exact absurd rfl (hreset reset)

/-- What a statement of `reset_recalibration` leaves to the next one of the task. -/
theorem Owned.resetStep {start : Start C} {reset next : ResetStage} (h : ResetOk s start reset)
    (hnext : (resetStep s reset).2 = some next) : ResetOk (resetStep s reset).1 start next := by
  cases reset with
  | errorCb | statusCb =>
    cases hnext
    exact ⟨h.token, h.live, h.only⟩
  | free =>
    cases hnext
    intro block
    unfold Recalibration.resetStep
    rw [Owned.token h]
    by_cases hblock : block = start.block
    · simp [hblock]
    · simpa [hblock] using Owned.only h block hblock
  | token =>
    cases hnext
    exact ⟨rfl, h⟩
  | size => cases hnext

theorem resetStep_calls (s : State T C) (reset : ResetStage) :
    (resetStep s reset).1.calls = s.calls := by
  cases reset with
  | free =>
    unfold resetStep
    cases s.module.token <;> rfl
  | _ => rfl

theorem Inv.taskStep {task : Task C} (hinv : Inv s) (hworker : s.worker = some task)
    (hcancel : task.stage = .readCancel fpcPnOk → s.module.canceled = false) (status : Int)
    (allocated : Bool) : Inv (taskStep s task status allocated) := by
  obtain ⟨_, hcalls, htask⟩ := hinv.running_of hworker
  unfold Recalibration.taskStep
  split
  · next reset hstage =>
    rw [hstage] at htask
    have hsame := resetStep_calls s reset
    cases hreset : (resetStep s reset).2 with
    | none =>
      -- the last statement
      refine .idle ⟨by simp [hreset], by simpa [hsame] using hcalls, ?_, ?_⟩
      all_goals
        cases reset with
        | size => first | exact htask.1.1 | exact htask.1.2
        | _ => cases hreset
    | some next =>
      refine .running { task with stage := .reset next }
        ⟨by simp [hreset], by simpa [hsame] using hcalls, ?_⟩
      have hnext : TaskOk (resetStep s reset).1 task.start task.reports (.reset next) :=
        ⟨Owned.resetStep htask.1 hreset, htask.2⟩
      exact hnext.same ⟨rfl, rfl, rfl, rfl, rfl⟩
  · next hstage =>
    refine .running _ ⟨rfl, hcalls, ?_⟩
    exact (htask.next hcancel hstage status allocated).same ⟨rfl, rfl, rfl, rfl, rfl⟩

/-- A task finds at every statement what it is to meet there. -/
theorem Running.truthful {task : Task C} (h : Running s task) (allocated : Bool) :
    TaskTruthful s task allocated := by
  have htask := h.task
  unfold TaskTruthful
  cases hstage : task.stage with
  | authorize pointer size =>
    rw [hstage] at htask
    obtain ⟨hcopied, _, rfl, rfl⟩ := htask
    intro _
    simp [readBytes, hcopied.bytes]
  | reset reset =>
    rw [hstage] at htask
    cases reset with
    | free =>
      obtain ⟨howned, _⟩ := htask
      intro block hblock
      rw [Owned.token howned] at hblock
      obtain rfl := Option.some.inj hblock
      exact Owned.live howned
    | size => exact ⟨htask.1.2 _, htask.2⟩
    | errorCb | statusCb | token => trivial
  | _ => trivial

theorem Inv.truthful {m : Moment T C} (hinv : Inv m.before) (hapart : Apart m) : Truthful m := by
  obtain ⟨s, a⟩ := m
  cases a with
  | setRecalibrationCb | recalibratePn | cancelRecalibration => trivial
  | task status allocated => exact fun task hworker => (hinv.running_of hworker).truthful allocated
  | client t allocated =>
    unfold Truthful
    dsimp only
    split
    · next start hcall =>
      have hready := (hinv.preparing_of hcall rfl).ready
      have htoken : s.module.token = some start.block := hready.token
      refine ⟨by simp [htoken], ?_⟩
      intro block hblock
      rw [htoken] at hblock
      obtain rfl := Option.some.inj hblock
      exact hready.live
    · next hcall =>
      simp only [Apart, hcall] at hapart
      have htoken : s.module.token = none := (hinv.idle_of_not hapart).token
      simp [TokenLive, htoken]
    · trivial

/-- A cancellation that is read behind a step that succeeded ends the run with the status of that
step, and `out` reports nothing. -/
theorem okCanceled_silent (hcanceled : s.module.canceled = true) (status : Int) (allocated : Bool) :
    nextStage s status allocated (.readCancel fpcPnOk) = .out 0 errorCanceled ∧
      ∀ s' : State T C, newReports s' (.out 0 errorCanceled) = [] := by
  constructor
  · simp [nextStage, hcanceled, fpcPnOk]
  · intro s'
    simp [newReports]

/-! ### The calls -/

variable [DecidableEq T]

/-- A client that prepares no run goes on. -/
theorem Inv.move {t : T} {call : Option (Call C)} (hinv : Inv s) (hsame : Same s s')
    (hworker : s'.worker = s.worker) (hcalls : s'.calls = Function.update s.calls t call)
    (hold : (s.calls t).bind Call.start? = none) (hnew : call.bind Call.start? = none) :
    Inv s' := by
  have hnone : ∀ u, (s.calls u).bind Call.start? = none →
      (s'.calls u).bind Call.start? = none := by
    intro u hu
    by_cases h : u = t
    · subst h
      rw [hcalls, Function.update_self, hnew]
    · rw [hcalls, Function.update_of_ne h, hu]
  cases hinv with
  | idle h =>
    refine .idle ⟨by rw [hworker, h.worker], fun u => hnone u (h.calls u), ?_, ?_⟩
    · rw [hsame.token, h.token]
    · rw [hsame.heap]
      exact h.heap
  | preparing u stage start h =>
    have hne : u ≠ t := by
      rintro rfl
      simp [h.call, h.prepares] at hold
    refine .preparing u stage start ⟨by rw [hworker, h.worker], ?_, h.prepares, ?_, ?_, ?_⟩
    · rw [hcalls, Function.update_of_ne hne, h.call]
    · exact fun v hv => hnone v (h.others v hv)
    · exact h.ready.same hsame
    · exact fun hstage => (h.copied hstage).same hsame
  | running task h =>
    exact .running task ⟨by rw [hworker, h.worker], fun u => hnone u (h.calls u),
      h.task.same hsame⟩

/-- The call that prepares a run goes on with it. -/
theorem Preparing.move {t : T} {stage stage' : RecalibrateStage C} {start : Start C}
    (h : Preparing s t stage start) (hstage' : (Call.recalibrate stage').start? = some start)
    (hworker : s'.worker = s.worker)
    (hcalls : s'.calls = Function.update s.calls t (some (.recalibrate stage')))
    (hcopied : Copied s' start) : Preparing s' t stage' start where
  worker := by rw [hworker, h.worker]
  call := by rw [hcalls, Function.update_self]
  prepares := hstage'
  others := by
    intro u hu
    rw [hcalls, Function.update_of_ne hu]
    exact h.others u hu
  ready := hcopied.toReady
  copied := fun _ => hcopied

theorem Inv.recalibrateStep {t : T} {stage : RecalibrateStage C} {allocated : Bool}
    (hinv : Inv s) (hcall : s.calls t = some (.recalibrate stage))
    (hapart : ∀ token, stage = .alloc token → ¬ InProgress s)
    (hstep : recalibrateStep s t allocated stage = some s') : Inv s' := by
  cases stage with
  | clear token =>
    cases hstep
    exact hinv.move ⟨rfl, rfl, rfl, rfl, rfl⟩ rfl rfl (by simp [hcall, Call.start?]) rfl
  | alloc token =>
    have hidle := hinv.idle_of_not (hapart token rfl)
    unfold Recalibration.recalibrateStep at hstep
    dsimp only at hstep
    split at hstep
    · cases hstep
      refine .preparing t _ _ ⟨hidle.worker, Function.update_self .., rfl, ?_, ?_, ?_⟩
      · intro u hu
        simpa [hu] using hidle.calls u
      · refine ⟨⟨rfl, by simp, ?_⟩, rfl, rfl⟩
        intro block hblock
        simpa [hblock] using hidle.heap block
      · simp
    · cases hstep
      refine hinv.move ⟨rfl, ?_, rfl, rfl, rfl⟩ rfl rfl (by simp [hcall, Call.start?]) rfl
      exact hidle.token.symm
  | copy start =>
    have h := hinv.preparing_of hcall rfl
    cases hstep
    refine .preparing t _ _ (h.move rfl rfl rfl ?_)
    have hbytes : (s.heap start.block).map (fun _ => start.token) = some start.token := by
      obtain ⟨bytes, hbytes⟩ := Option.ne_none_iff_exists'.mp h.ready.live
      rw [hbytes]
      rfl
    refine ⟨⟨⟨h.ready.token, ?_, ?_⟩, h.ready.statusCb, h.ready.errorCb⟩, ?_, rfl⟩
    · simp [h.ready.token, hbytes]
    · intro block hblock
      simp [h.ready.token, hblock, h.ready.only block hblock]
    · simp [h.ready.token, hbytes]
  | lock start =>
    have h := hinv.preparing_of hcall rfl
    unfold Recalibration.recalibrateStep at hstep
    dsimp only at hstep
    split at hstep
    · cases hstep
      refine .preparing t _ _ (h.move rfl rfl rfl ?_)
      exact (h.copied (by simp)).same ⟨rfl, rfl, rfl, rfl, rfl⟩
    · cases hstep
  | idle start =>
    have h := hinv.preparing_of hcall rfl
    unfold Recalibration.recalibrateStep at hstep
    dsimp only at hstep
    split at hstep
    · cases hstep
      refine .preparing t _ _ (h.move rfl rfl rfl ?_)
      exact (h.copied (by simp)).same ⟨rfl, rfl, rfl, rfl, rfl⟩
    · cases hstep
  | run start =>
    have h := hinv.preparing_of hcall rfl
    unfold Recalibration.recalibrateStep at hstep
    dsimp only at hstep
    split at hstep
    · cases hstep
      refine .running ⟨start, .args, []⟩ ⟨rfl, ?_, ?_, rfl⟩
      · intro u
        by_cases hu : u = t
        · subst hu
          simp [Call.start?]
        · simpa [hu] using h.others u hu
      · exact (h.copied (by simp)).same ⟨rfl, rfl, rfl, rfl, rfl⟩
    · cases hstep
  | unlock =>
    cases hstep
    exact hinv.move ⟨rfl, rfl, rfl, rfl, rfl⟩ rfl rfl (by simp [hcall, Call.start?]) rfl

theorem Inv.cancelStep {t : T} {stage : CancelStage} (hinv : Inv s)
    (hcall : s.calls t = some (.cancel stage))
    (hapart : ∀ reset, stage = .reset reset → ¬ InProgress s)
    (hstep : cancelStep s t stage = some s') : Inv s' := by
  have hold : (s.calls t).bind Call.start? = none := by simp [hcall, Call.start?]
  unfold Recalibration.cancelStep at hstep
  cases stage with
  | flag | unlock =>
    cases hstep
    exact hinv.move ⟨rfl, rfl, rfl, rfl, rfl⟩ rfl rfl hold rfl
  | lock | idle =>
    dsimp only at hstep
    split at hstep
    · cases hstep
      exact hinv.move ⟨rfl, rfl, rfl, rfl, rfl⟩ rfl rfl hold rfl
    · cases hstep
  | reset reset =>
    cases hstep
    have hidle := (hinv.idle_of_not (hapart reset rfl)).resetStep reset
    refine (Inv.idle hidle).move ⟨rfl, rfl, rfl, rfl, rfl⟩ rfl rfl (hidle.calls t) ?_
    cases reset <;> rfl

/-! ## Runs -/

/-- A step keeps the invariant. -/
theorem Inv.step {m : Moment T C} (hinv : Inv m.before) (hapart : Apart m)
    (hstep : m.before.step m.action = some s') : Inv s' := by
  obtain ⟨s, a⟩ := m
  cases a with
  | setRecalibrationCb statusCb errorCb =>
    cases hstep
    have hidle := hinv.idle_of_not hapart
    exact .idle ⟨hidle.worker, hidle.calls, hidle.token, hidle.heap⟩
  | recalibratePn t token =>
    simp only [State.step] at hstep
    split at hstep
    · next hcall =>
      cases hstep
      exact hinv.move ⟨rfl, rfl, rfl, rfl, rfl⟩ rfl rfl (by simp_all) rfl
    · cases hstep
  | cancelRecalibration t =>
    simp only [State.step] at hstep
    split at hstep
    · next hcall =>
      cases hstep
      exact hinv.move ⟨rfl, rfl, rfl, rfl, rfl⟩ rfl rfl (by simp_all) rfl
    · cases hstep
  | client t allocated =>
    simp only [State.step] at hstep
    cases hcall : s.calls t with
    | none => simp [hcall] at hstep
    | some call =>
      simp only [Apart, hcall] at hapart
      rw [hcall] at hstep
      cases call with
      | recalibrate stage =>
        refine hinv.recalibrateStep hcall ?_ hstep
        rintro token rfl
        exact hapart
      | cancel stage =>
        refine hinv.cancelStep hcall ?_ hstep
        rintro reset rfl
        exact hapart
  | task status allocated =>
    simp only [State.step, Option.map_eq_some_iff] at hstep
    obtain ⟨task, hworker, rfl⟩ := hstep
    exact hinv.taskStep hworker (hapart task hworker) status allocated

/-- In a run in which no call touches the module while a run of the recalibration is in progress, and
no cancellation is read behind a step that succeeded, every task authorizes with the token of its
call, every copy is freed once and used before that only, and every task reports once. Induction on
the run. -/
theorem truthful_of_apart {history : List (Moment T C)} (hrun : moduleSystem.Run history s)
    (hapart : ∀ m ∈ history, Apart m) : Inv s ∧ ∀ m ∈ history, Truthful m := by
  induction hrun with
  | init hinit =>
    obtain rfl := hinit
    exact ⟨.idle ⟨rfl, fun _ => rfl, rfl, fun _ => rfl⟩, by simp⟩
  | step hrun hstep ih =>
    rw [List.forall_mem_cons] at hapart
    obtain ⟨hinv, hbefore⟩ := ih hapart.2
    obtain ⟨rfl, hstep⟩ := hstep
    refine ⟨hinv.step hapart.1 hstep, ?_⟩
    rw [List.forall_mem_cons]
    exact ⟨hinv.truthful hapart.1, hbefore⟩

/-- The steps of a list of actions, behind a history. -/
def State.steps (s : State T C) (history : List (Moment T C)) :
    List (Action T C) → Option (List (Moment T C) × State T C)
  | [] => some (history, s)
  | a :: rest => (s.step a).bind fun s' => s'.steps (⟨s, a⟩ :: history) rest

/-- Actions that can be taken one after the other are a run. Induction on them. -/
theorem run_of_steps {actions : List (Action T C)} {history later : List (Moment T C)}
    (hrun : moduleSystem.Run history s) (hsteps : s.steps history actions = some (later, s')) :
    moduleSystem.Run later s' := by
  induction actions generalizing s history with
  | nil =>
    cases hsteps
    exact hrun
  | cons a rest ih =>
    obtain ⟨next, hstep, hrest⟩ := Option.bind_eq_some_iff.mp hsteps
    exact ih (.step hrun ⟨rfl, hstep⟩) hrest

end

/-- A call alone, whose token is refused: its task reports the error and frees the copy. -/
theorem refusedRecalibration_truthful :
    ∃ (history : List (Moment Bool Nat)) (s : State Bool Nat), moduleSystem.Run history s ∧
      s.worker = none ∧ Inv s ∧ ∀ m ∈ history, Truthful m := by
  have hrun := run_of_steps (T := Bool) (C := Nat) (.init rfl)
    (rfl : opened.steps [] ([.setRecalibrationCb (some 1) (some 2), .recalibratePn true [7]] ++
      List.replicate 6 (.client true true) ++ [.task 0 true, .task (-5) true] ++
      List.replicate 6 (.task 0 true)) = some (_, _))
  refine ⟨_, _, hrun, rfl, truthful_of_apart hrun ?_⟩
  simp only [List.forall_mem_cons]
  refine ⟨?_, ?_, ?_, ?_, ?_, ?_, ?_, ?_, ?_, ?_, ?_, ?_, ?_, ?_, ?_, ?_, List.forall_mem_nil _⟩
  iterate 8
    · rintro _ ⟨⟩ hstage
      revert hstage
      decide
  · trivial
  · trivial
  · trivial
  · trivial
  · rintro (h | ⟨t, h⟩)
    · exact h rfl
    · cases t <;> exact h rfl
  · trivial
  · trivial
  · rintro (h | ⟨t, h⟩)
    · exact h rfl
    · exact h rfl

/-- The call of another client replaces the token that the task is to use. -/
theorem secondRecalibration_untruthful :
    ¬ ∀ (history : List (Moment Bool Nat)) (s : State Bool Nat), moduleSystem.Run history s →
      ∀ m ∈ history, Truthful m := by
  intro h
  have hrun := run_of_steps (T := Bool) (C := Nat) (.init rfl)
    (rfl : opened.steps [] ([.setRecalibrationCb (some 1) (some 2), .recalibratePn true [7]] ++
      List.replicate 6 (.client true true) ++ [.recalibratePn false [8]] ++
      List.replicate 3 (.client false true) ++ [.task 0 true, .task 0 true]) = some (_, _))
  have hlast := h _ _ hrun _ List.mem_cons_self _ rfl rfl
  revert hlast
  decide

end Fpc.Recalibration
