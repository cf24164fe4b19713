import Mathlib.Data.List.Chain
import Mathlib.Data.List.Induction
import Mathlib.Tactic.Push
import Fingerprints.Hal.Threads

/-!
# The force button of the navigation

`nav_loop` of `nav/fpc_hal_navigation.c`, built with the force sensor. It polls samples and reports
what it makes of them to the input device, until it is cancelled or a call fails. The button is
pressed by a force from the upper threshold of the configuration on and released by one up to the
lower threshold, and whichever of a press and a navigation event comes first in a touch keeps the
other from being reported.

* **`forceButtonDown_iff`**: the button is down behind samples of which one pressed it and none
  released it since;
* **`presses_eq`**: what was reported of the button is pairs of DOWN and UP, and one more DOWN while it
  is down;
* **`balanced_iff`**: the events alternate in every run, and where the loop returns there are as many
  UP as DOWN exactly when its samples released every press.

None of the ways out of the loop looks at the button.
-/

namespace Fpc.Navigation

open Runs Threads

/-! ## A turn of the loop -/

def fpcNavEventNone : UInt32 := 0

def forceSensorNotAvailable : Int32 := -1

def fpcNavRequestWaitIrqHigh : Int32 := 1
def fpcNavRequestWaitIrqLow : Int32 := 2

/-- `fpc_nav_data_t` -/
structure NavData where
  navEvent : UInt32
  force : Int32
  fingerDown : Int32
  request : Int32
  deriving DecidableEq, Repr

/-- `fpc_sense_touch_config_t`: what the loop reads of it. -/
structure SenseTouchConfig where
  triggerThreshold : UInt8
  untriggerThreshold : UInt8
  deriving DecidableEq, Repr

inductive Key
  | down
  | up
  deriving DecidableEq, Repr

/-- What `report_input_event` reports: a key of the navigation, the raw force, or the button. -/
inductive InputEvent
  | nav (event : UInt32) (value : Key)
  | raw (force : Int32)
  | press (value : Key)
  deriving DecidableEq, Repr

/-- The local variables that the loop keeps from turn to turn. -/
structure Locals where
  blockNavEvents : Bool
  blockStEvents : Bool
  prevForce : Int32
  forceButtonDown : Bool
  deriving DecidableEq, Repr

def Locals.initial : Locals :=
  { blockNavEvents := false, blockStEvents := false, prevForce := 0, forceButtonDown := false }

/-- The event of the navigation. -/
def reportNavEvent (nav : NavData) (s : Locals) : Locals × List InputEvent :=
  if s.blockNavEvents = false ∧ nav.navEvent ≠ fpcNavEventNone then
    ({ s with blockStEvents := true }, [.nav nav.navEvent .down, .nav nav.navEvent .up])
  else (s, [])

/-- The raw force. -/
def reportRawForce (nav : NavData) (s : Locals) : Locals × List InputEvent :=
  if nav.force ≠ forceSensorNotAvailable ∧ nav.force ≠ s.prevForce then
    ({ s with prevForce := nav.force }, [.raw nav.force])
  else (s, [])

/-- The force of a sample triggers the button. A threshold of 0 turns the button off. -/
def Triggers (config : SenseTouchConfig) (nav : NavData) : Prop :=
  config.triggerThreshold ≠ 0 ∧ nav.force.toInt ≥ config.triggerThreshold.toNat

/-- The force of a sample releases the button. -/
def Untriggers (config : SenseTouchConfig) (nav : NavData) : Prop :=
  nav.force.toInt ≤ config.untriggerThreshold.toNat

instance (config : SenseTouchConfig) (nav : NavData) : Decidable (Triggers config nav) :=
  inferInstanceAs (Decidable (_ ∧ _))

instance (config : SenseTouchConfig) (nav : NavData) : Decidable (Untriggers config nav) :=
  inferInstanceAs (Decidable (_ ≤ _))

/-- The button, where there is a configuration. -/
def reportForceButton (stConfig : Option SenseTouchConfig) (nav : NavData) (s : Locals) :
    Locals × List InputEvent :=
  match stConfig with
  | none => (s, [])
  | some config =>
      if s.blockStEvents = false ∧ Triggers config nav then
        if s.forceButtonDown = false then
          ({ s with forceButtonDown := true, blockNavEvents := true }, [.press .down])
        else (s, [])
      else if Untriggers config nav then
        if s.forceButtonDown = true then
          ({ s with forceButtonDown := false }, [.press .up])
        else (s, [])
      else (s, [])

/-- A touch that is over blocks nothing any more. -/
def clearBlocks (nav : NavData) (s : Locals) : Locals :=
  if nav.fingerDown = 0 then { s with blockNavEvents := false, blockStEvents := false } else s

/-- What a turn of the loop makes of its sample. -/
def navSample (stConfig : Option SenseTouchConfig) (s : Locals) (nav : NavData) :
    Locals × List InputEvent :=
  let (s, navReports) := reportNavEvent nav s
  let (s, rawReports) := reportRawForce nav s
  let (s, buttonReports) := reportForceButton stConfig nav s
  (clearBlocks nav s, navReports ++ (rawReports ++ buttonReports))

/-! ## The loop -/

/-- A run of the loop: where it is, `none` once it has returned, its variables, the sample of the
turn, and what it has reported. -/
structure NavRun where
  place : Option NavLoop
  vars : Locals
  nav : NavData
  reports : List InputEvent

/-- A step of a run, with the run it was taken in: the module as the loop finds it, the status of the
call that is made or of the wait for the interrupt, and the data that a poll brings. -/
structure NavMoment where
  before : NavRun
  module : NavModule
  status : Int
  data : NavData

/-- The wait for an interrupt that a sample asks for. Without a request there is none to fail. -/
def requestStatus (nav : NavData) (status : Int) : Int :=
  if nav.request = fpcNavRequestWaitIrqHigh ∨ nav.request = fpcNavRequestWaitIrqLow then status
  else 0

/-- What a step leaves of a run that is at a place. -/
def navStep (stConfig : Option SenseTouchConfig) (run : NavRun) (place : NavLoop)
    (module : NavModule) (status : Int) (data : NavData) : NavRun :=
  match place with
  | .poll =>
      if status ≠ 0 then { run with place := NavLoop.next module status .poll }
      else
        let (vars, reports) := navSample stConfig run.vars data
        { place := NavLoop.next module status .poll, vars := vars, nav := data,
          reports := run.reports ++ reports }
  | .request =>
      { run with place := NavLoop.next module (requestStatus run.nav status) .request }
  | place => { run with place := NavLoop.next module status place }

/-- The loop from its start on. Its cancellation, and the configuration that it sets, come from other
threads at any time. -/
def navSystem (stConfig : Option SenseTouchConfig) : System NavRun NavMoment where
  init run := run.place = some .start ∧ run.vars = .initial ∧ run.reports = []
  step run e run' := e.before = run ∧ ∃ place, run.place = some place ∧
    run' = navStep stConfig run place e.module e.status e.data

/-- The sample that a step polls. -/
def NavMoment.samples (e : NavMoment) : List NavData :=
  if e.before.place = some .poll ∧ e.status = 0 then [e.data] else []

/-- The variables behind some samples. -/
def varsAfter (stConfig : Option SenseTouchConfig) (samples : List NavData) : Locals :=
  samples.foldl (fun s nav => (navSample stConfig s nav).1) .initial

/-- What was reported behind some samples. -/
def reportsAfter (stConfig : Option SenseTouchConfig) (samples : List NavData) : List InputEvent :=
  (samples.foldl (fun (s, reports) nav =>
    ((navSample stConfig s nav).1, reports ++ (navSample stConfig s nav).2)) (.initial, [])).2

/-! ## The button -/

section

variable {stConfig : Option SenseTouchConfig}

/-- A sample presses the button: its force triggers it, and no event of the touch blocks it. -/
def Presses (stConfig : Option SenseTouchConfig) (s : Locals) (nav : NavData) : Prop :=
  ∃ config ∈ stConfig, (reportNavEvent nav s).1.blockStEvents = false ∧ Triggers config nav

/-- A sample releases the button. -/
def Releases (stConfig : Option SenseTouchConfig) (nav : NavData) : Prop :=
  ∃ config ∈ stConfig, Untriggers config nav

/-- A button that is released by no force that triggers it. -/
def Hysteresis (stConfig : Option SenseTouchConfig) : Prop :=
  ∀ config ∈ stConfig, config.untriggerThreshold < config.triggerThreshold

instance : Decidable (Hysteresis stConfig) := by
  unfold Hysteresis
  cases stConfig <;> simp only [Option.mem_def] <;> infer_instance

instance (s : Locals) (nav : NavData) : Decidable (Presses stConfig s nav) := by
  unfold Presses
  cases stConfig <;> simp only [Option.mem_def] <;> infer_instance

/-- What was reported of the button. -/
def presses (reports : List InputEvent) : List Key :=
  reports.filterMap fun
    | .press value => some value
    | _ => none

@[simp] theorem presses_append (first last : List InputEvent) :
    presses (first ++ last) = presses first ++ presses last := List.filterMap_append

@[simp] theorem reportNavEvent_button (nav : NavData) (s : Locals) :
    (reportNavEvent nav s).1.forceButtonDown = s.forceButtonDown := by
  unfold reportNavEvent
  split <;> rfl

@[simp] theorem reportNavEvent_presses (nav : NavData) (s : Locals) :
    presses (reportNavEvent nav s).2 = [] := by
  unfold reportNavEvent
  split <;> rfl

@[simp] theorem reportRawForce_button (nav : NavData) (s : Locals) :
    (reportRawForce nav s).1.forceButtonDown = s.forceButtonDown := by
  unfold reportRawForce
  split <;> rfl

@[simp] theorem reportRawForce_blockSt (nav : NavData) (s : Locals) :
    (reportRawForce nav s).1.blockStEvents = s.blockStEvents := by
  unfold reportRawForce
  split <;> rfl

@[simp] theorem reportRawForce_presses (nav : NavData) (s : Locals) :
    presses (reportRawForce nav s).2 = [] := by
  unfold reportRawForce
  split <;> rfl

@[simp] theorem clearBlocks_button (nav : NavData) (s : Locals) :
    (clearBlocks nav s).forceButtonDown = s.forceButtonDown := by
  unfold clearBlocks
  split <;> rfl

/-- What the button is behind the test of the force, and what was reported of it. -/
theorem reportForceButton_spec (nav : NavData) (s : Locals) (config : SenseTouchConfig) :
    (reportForceButton (some config) nav s).1.forceButtonDown =
        (if s.blockStEvents = false ∧ Triggers config nav then true
        else if Untriggers config nav then false
        else s.forceButtonDown) ∧
      presses (reportForceButton (some config) nav s).2 =
        (if s.blockStEvents = false ∧ Triggers config nav then
          if s.forceButtonDown = true then [] else [.down]
        else if Untriggers config nav ∧ s.forceButtonDown = true then [.up]
        else []) := by
  cases hbutton : s.forceButtonDown <;> unfold reportForceButton
  · by_cases htrigger : s.blockStEvents = false ∧ Triggers config nav
    · simp [htrigger, hbutton, presses]
    · by_cases huntrigger : Untriggers config nav
      · simp [htrigger, huntrigger, hbutton, presses]
      · simp [htrigger, huntrigger, hbutton, presses]
  · by_cases htrigger : s.blockStEvents = false ∧ Triggers config nav
    · simp [htrigger, hbutton, presses]
    · by_cases huntrigger : Untriggers config nav
      · simp [htrigger, huntrigger, hbutton, presses]
      · simp [htrigger, huntrigger, hbutton, presses]

/-- The button is down behind a sample that pressed it, or where it was down and the sample did not
release it. -/
theorem navSample_button (s : Locals) (nav : NavData) :
    (navSample stConfig s nav).1.forceButtonDown = true ↔
      Presses stConfig s nav ∨ s.forceButtonDown = true ∧ ¬ Releases stConfig nav := by
  cases stConfig with
  | none => simp [navSample, reportForceButton, Presses, Releases]
  | some config =>
    have hspec := (reportForceButton_spec nav (reportRawForce nav (reportNavEvent nav s).1).1 config).1
    simp only [reportRawForce_blockSt, reportRawForce_button, reportNavEvent_button] at hspec
    simp only [navSample, clearBlocks_button, hspec, Presses, Releases, Option.mem_def,
      Option.some.injEq, exists_eq_left']
    split
    · next hpressed => simp [hpressed]
    · next hpressed =>
      split
      · next hreleased => simp [hpressed, hreleased]
      · next hreleased => simp [hpressed, hreleased]

/-- What a sample reports of the button is how it changed. -/
theorem navSample_presses (s : Locals) (nav : NavData) :
    presses (navSample stConfig s nav).2 =
      match s.forceButtonDown, (navSample stConfig s nav).1.forceButtonDown with
      | false, true => [.down]
      | true, false => [.up]
      | _, _ => [] := by
  cases stConfig with
  | none =>
    simp only [navSample, reportForceButton, presses_append, reportNavEvent_presses,
      reportRawForce_presses, clearBlocks_button, reportRawForce_button, reportNavEvent_button]
    cases s.forceButtonDown <;> rfl
  | some config =>
    obtain ⟨hbutton, hreports⟩ :=
      reportForceButton_spec nav (reportRawForce nav (reportNavEvent nav s).1).1 config
    simp only [reportRawForce_blockSt, reportRawForce_button, reportNavEvent_button]
      at hbutton hreports
    simp only [navSample, presses_append, reportNavEvent_presses, reportRawForce_presses,
      clearBlocks_button, hbutton, hreports, List.nil_append]
    split
    · cases s.forceButtonDown <;> rfl
    · by_cases hreleased : Untriggers config nav
      · cases s.forceButtonDown <;> simp [hreleased]
      · cases s.forceButtonDown <;> simp [hreleased]

/-! ## The samples of a run -/

@[simp] theorem varsAfter_nil : varsAfter stConfig [] = .initial := rfl

theorem varsAfter_append (samples : List NavData) (nav : NavData) :
    varsAfter stConfig (samples ++ [nav]) = (navSample stConfig (varsAfter stConfig samples) nav).1 := by
  rw [varsAfter, List.foldl_append]
  rfl

@[simp] theorem reportsAfter_nil : reportsAfter stConfig [] = [] := rfl

/-- What a run carries along while it reports. -/
theorem reportsAfter_foldl (samples : List NavData) :
    samples.foldl (fun (s, reports) nav =>
      ((navSample stConfig s nav).1, reports ++ (navSample stConfig s nav).2)) (.initial, []) =
      (varsAfter stConfig samples, reportsAfter stConfig samples) := by
  induction samples using List.reverseRecOn with
  | nil => rfl
  | append_singleton samples nav ih =>
    rw [reportsAfter, List.foldl_append, ih, varsAfter_append]
    rfl

theorem reportsAfter_append (samples : List NavData) (nav : NavData) :
    reportsAfter stConfig (samples ++ [nav]) = reportsAfter stConfig samples ++
      (navSample stConfig (varsAfter stConfig samples) nav).2 := by
  rw [reportsAfter, List.foldl_append, reportsAfter_foldl]
  rfl

/-- The samples that a run polled, in their order. -/
def samplesOf (history : List NavMoment) : List NavData := collect NavMoment.samples history

/-- The variables and the reports of a run are those of its samples. -/
theorem samples_of_run {history : List NavMoment} {run : NavRun}
    (hrun : (navSystem stConfig).Run history run) :
    run.vars = varsAfter stConfig (samplesOf history) ∧
      run.reports = reportsAfter stConfig (samplesOf history) := by
  induction hrun with
  | init hinit => exact hinit.2
  | @step history run run' e hrun hstep ih =>
    obtain ⟨rfl, place, hplace, rfl⟩ := hstep
    obtain ⟨hvars, hreports⟩ := ih
    simp only [samplesOf, collect_cons] at hvars hreports ⊢
    cases place with
    | poll =>
      by_cases hstatus : e.status = 0
      · simp only [navStep, NavMoment.samples, hplace, hstatus, ne_eq, not_true_eq_false, if_false,
          and_self, if_true, varsAfter_append, reportsAfter_append, hvars, hreports]
      · simp only [navStep, NavMoment.samples, hstatus, ne_eq, not_false_eq_true, if_true, and_false,
          if_false, List.append_nil]
        exact ⟨hvars, hreports⟩
    | start | setConfig | init | check | request | exit =>
      simp only [navStep, NavMoment.samples, hplace, Option.some.injEq, reduceCtorEq, false_and,
        if_false, List.append_nil]
      exact ⟨hvars, hreports⟩

/-- The button is down behind samples of which one pressed it, and no later one released it. Induction
on the samples, from the last one on. -/
theorem forceButtonDown_iff (samples : List NavData) :
    (varsAfter stConfig samples).forceButtonDown = true ↔
      ∃ before nav after, samples = before ++ nav :: after ∧
        Presses stConfig (varsAfter stConfig before) nav ∧
        ∀ later ∈ after, ¬ Releases stConfig later := by
  induction samples using List.reverseRecOn with
  | nil => simp [Locals.initial]
  | append_singleton samples last ih =>
    rw [varsAfter_append, navSample_button, ih]
    constructor
    · rintro (hpresses | ⟨⟨before, nav, after, rfl, hpresses, hheld⟩, hlast⟩)
      · exact ⟨samples, last, [], rfl, hpresses, by simp⟩
      · refine ⟨before, nav, after ++ [last], by simp, hpresses, ?_⟩
        intro later hmem
        rcases List.mem_append.mp hmem with hmem | hmem
        · exact hheld later hmem
        · rw [List.mem_singleton.mp hmem]
          exact hlast
    · rintro ⟨before, nav, after, hsamples, hpresses, hheld⟩
      -- the sample that pressed the button is the last one, or it is in front of it
      rcases List.eq_nil_or_concat after with rfl | ⟨after, later, rfl⟩
      · obtain ⟨rfl, hlast⟩ := List.append_inj' hsamples rfl
        rw [List.cons.inj hlast |>.1]
        exact Or.inl hpresses
      · rw [List.concat_eq_append, ← List.cons_append, ← List.append_assoc] at hsamples
        obtain ⟨rfl, hlast⟩ := List.append_inj' hsamples rfl
        have hlast : last = later := (List.cons.inj hlast).1
        refine Or.inr ⟨⟨before, nav, after, rfl, hpresses, ?_⟩, ?_⟩
        · intro earlier hmem
          exact hheld earlier (by simp [hmem])
        · rw [hlast]
          exact hheld later (by simp)

/-! ## The events of a run -/

/-- DOWN and UP, some times over. -/
def pairs (n : Nat) : List Key := (List.replicate n [Key.down, Key.up]).flatten

theorem pairs_succ (n : Nat) : pairs (n + 1) = pairs n ++ [.down, .up] := by
  rw [pairs, List.replicate_succ', List.flatten_append]
  rfl

/-- What was reported of the button is pairs, and one more DOWN while it is down. Induction on the
samples, from the last one on. -/
theorem presses_eq (samples : List NavData) :
    ∃ n, presses (reportsAfter stConfig samples) =
      pairs n ++ if (varsAfter stConfig samples).forceButtonDown then [.down] else [] := by
  induction samples using List.reverseRecOn with
  | nil => exact ⟨0, rfl⟩
  | append_singleton samples last ih =>
    obtain ⟨n, hpresses⟩ := ih
    rw [reportsAfter_append, presses_append, hpresses, navSample_presses, varsAfter_append]
    cases (varsAfter stConfig samples).forceButtonDown <;>
      cases (navSample stConfig (varsAfter stConfig samples) last).1.forceButtonDown
    · exact ⟨n, by simp⟩
    · exact ⟨n, by simp⟩
    · exact ⟨n + 1, by simp [pairs_succ]⟩
    · exact ⟨n, by simp⟩

/-- The keys change from DOWN to UP and back, from DOWN on. -/
def Alternates (keys : List Key) : Prop :=
  (∀ key ∈ keys.head?, key = .down) ∧ keys.IsChain (· ≠ ·)

instance (keys : List Key) : Decidable (Alternates keys) :=
  inferInstanceAs (Decidable (_ ∧ _))

theorem alternates_down_up {keys : List Key} (h : Alternates keys) :
    Alternates (.down :: .up :: keys) := by
  refine ⟨by simp, List.isChain_cons_cons.mpr ⟨by decide, List.isChain_cons.mpr ⟨?_, h.2⟩⟩⟩
  intro key hhead
  rw [h.1 key hhead]
  decide

theorem alternates_pairs (n : Nat) {keys : List Key} (h : Alternates keys) :
    Alternates (pairs n ++ keys) := by
  induction n with
  | zero => exact h
  | succ n ih =>
    rw [pairs, List.replicate_succ, List.flatten_cons, List.append_assoc]
    exact alternates_down_up ih

@[simp] theorem count_pairs (n : Nat) (key : Key) : (pairs n).count key = n := by
  induction n with
  | zero => rfl
  | succ n ih =>
    rw [pairs_succ, List.count_append, ih]
    cases key <;> rfl

/-- Whatever the samples, the events of the button alternate. -/
theorem alternates (samples : List NavData) :
    Alternates (presses (reportsAfter stConfig samples)) := by
  obtain ⟨n, hpresses⟩ := presses_eq samples
  rw [hpresses]
  apply alternates_pairs
  split
  · exact ⟨by simp, List.isChain_singleton _⟩
  · exact ⟨by simp, List.isChain_nil⟩

/-- There are as many UP as DOWN when the button is up. -/
theorem count_eq_iff (samples : List NavData) :
    (presses (reportsAfter stConfig samples)).count .up =
        (presses (reportsAfter stConfig samples)).count .down ↔
      (varsAfter stConfig samples).forceButtonDown = false := by
  obtain ⟨n, hpresses⟩ := presses_eq samples
  rw [hpresses, List.count_append, List.count_append, count_pairs, count_pairs]
  cases (varsAfter stConfig samples).forceButtonDown <;> simp

/-- Every sample that presses the button is followed by one whose force releases it. -/
def PressesReleased (stConfig : Option SenseTouchConfig) (samples : List NavData) : Prop :=
  ∀ before nav after, samples = before ++ nav :: after →
    Presses stConfig (varsAfter stConfig before) nav → ∃ later ∈ after, Releases stConfig later

/-- The events of the button alternate, and where the loop returns there are as many UP as DOWN,
exactly when, where it returns, its samples release every press. -/
theorem balanced_iff {history : List NavMoment} {run : NavRun}
    (hrun : (navSystem stConfig).Run history run) :
    Alternates (presses run.reports) ∧
        (run.place = none →
          (presses run.reports).count .up = (presses run.reports).count .down) ↔
      (run.place = none → PressesReleased stConfig (samplesOf history)) := by
  rw [(samples_of_run hrun).2, and_iff_right (alternates _)]
  apply imp_congr_right
  intro _
  rw [count_eq_iff, ← Bool.not_eq_true, forceButtonDown_iff, PressesReleased]
  push Not
  rfl

/-! ## Closed runs -/

/-- The loop takes steps, each with what it finds. -/
def NavRun.steps (stConfig : Option SenseTouchConfig) (run : NavRun) (history : List NavMoment) :
    List (NavModule × Int × NavData) → Option (List NavMoment × NavRun)
  | [] => some (history, run)
  | (module, status, data) :: rest =>
      match run.place with
      | none => none
      | some place =>
          (navStep stConfig run place module status data).steps stConfig
            (⟨run, module, status, data⟩ :: history) rest

/-- The steps are those of a run. Induction on the steps. -/
theorem run_of_steps {inputs : List (NavModule × Int × NavData)} {history later : List NavMoment}
    {run run' : NavRun} (hrun : (navSystem stConfig).Run history run)
    (hsteps : run.steps stConfig history inputs = some (later, run')) :
    (navSystem stConfig).Run later run' := by
  induction inputs generalizing run history with
  | nil =>
    cases hsteps
    exact hrun
  | cons input rest ih =>
    obtain ⟨module, status, data⟩ := input
    simp only [NavRun.steps] at hsteps
    split at hsteps
    · cases hsteps
    · next place hplace =>
      exact ih (.step (e := ⟨run, module, status, data⟩) hrun ⟨rfl, place, hplace, rfl⟩) hsteps

end

/-- The loop where it starts. -/
def sampleLoop : NavRun :=
  { place := some .start, vars := .initial, nav := ⟨0, 0, 0, 0⟩, reports := [] }

/-- A sample of a finger that presses with a force. -/
def sampleForce (force : Int32) : NavData := ⟨fpcNavEventNone, force, 1, 0⟩

/-- A loop that polls samples of some forces, and is cancelled then. -/
def sampleInputs (forces : List Int32) : List (NavModule × Int × NavData) :=
  [(⟨true, false, false, false⟩, 0, sampleForce 0), (⟨true, false, false, false⟩, 0, sampleForce 0)] ++
    forces.flatMap (fun force =>
      List.replicate 3 (⟨true, false, false, false⟩, 0, sampleForce force)) ++
    List.replicate 2 (⟨true, false, false, true⟩, 0, sampleForce 0)

/-- A press and its release. -/
theorem samplePress_balanced :
    ∃ (history : List NavMoment) (run : NavRun),
      (navSystem (some ⟨80, 40⟩)).Run history run ∧ run.place = none ∧
      presses run.reports = [.down, .up] ∧
      PressesReleased (some ⟨80, 40⟩) (samplesOf history) := by
  have hrun := run_of_steps (.init ⟨rfl, rfl, rfl⟩)
    (rfl : sampleLoop.steps (some ⟨80, 40⟩) [] (sampleInputs [90, 20]) = some (_, _))
  refine ⟨_, _, hrun, rfl, rfl, ?_⟩
  exact (balanced_iff hrun).mp (by decide) rfl

/-- The loop is cancelled while the button is down. -/
theorem samplePress_kept :
    ¬ ∀ (stConfig : Option SenseTouchConfig) (history : List NavMoment) (run : NavRun),
      Hysteresis stConfig → (navSystem stConfig).Run history run →
        Alternates (presses run.reports) ∧
          (run.place = none →
            (presses run.reports).count .up = (presses run.reports).count .down) := by
  intro h
  have hrun := run_of_steps (.init ⟨rfl, rfl, rfl⟩)
    (rfl : sampleLoop.steps (some ⟨80, 40⟩) [] (sampleInputs [90]) = some (_, _))
  have hcount := (h _ _ _ (by decide) hrun).2 rfl
  revert hcount
  decide

end Fpc.Navigation
