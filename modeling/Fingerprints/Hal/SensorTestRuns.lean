import Fingerprints.Hal.SensorTests

/-!
# Runs of the tests of the sensor

A monitor keeps what the sensor has shown in a test, beside what a capture knows of it, and refuses what a
test is not to do.

* **`selfTest_watched`**: however a self test ends, the sensor is taken out of the test mode again, and it
  is passed exactly behind the whole sequence of commands and levels of the interrupt pin;
* **`doRunSensorTest_watched`**: a test reports one result, as the last thing it does, and `PASS` exactly
  for what the sensor has shown.
-/

namespace Fpc.SensorTests

open Wire Runs Script Capture SensorParcels

variable (N : Numbers) {build : SensorBuild}

/-! ## What a test does to the sensor -/

/-- What the sensor has shown in the test that runs. -/
inductive Shown
  | nothing
  | initialised
  | low
  | tested
  | raised
  | cleaned
  | passed (test : NamedTest)
  | failed
  deriving DecidableEq, Repr

/-- What is shown behind a look at the pin, where one is due. -/
def Shown.pin (level : Int) : Shown → Shown
  | .initialised => if level = 0 then .low else .failed
  | .tested => if 0 < level then .raised else .failed
  | .cleaned => if level = 0 then .passed (.tee .selfTest) else .failed
  | shown => shown

/-- What is known of a test: what was shown, the product that was read, whether the sensor is in the test
mode, how often it was taken out of it, whether the record and the image are allocated, and what was
reported. -/
structure Log where
  shown : Shown
  product : Option UInt32
  dirty : Bool
  cleanups : Nat
  record : Bool
  image : Bool
  reported : Option (Option TestResult)

/-- The test that a command outside of the self test is passed by. -/
def SensortestCmd.named : SensortestCmd → NamedTest
  | .checkerboardTest => .tee .checkerboardTest
  | .imageQualityTest => .tee .imageQualityTest
  | .resetPixelTest => .tee .resetPixelTest
  | .afdCalibrationTest => .tee .afdCalibrationTest
  | .afdCalibrationRubberStampTest => .tee .afdCalibrationRubberStampTest
  | .afdRubberStampTest => .tee .afdRubberStampTest
  | .pnImageTest => .tee .pnImageTest
  | .selfTestInit | .selfTest | .selfTestCleanup => .tee .selfTest

/-- The command needs something on the sensor. -/
def SensortestCmd.needsFinger : SensortestCmd → Bool
  | .imageQualityTest | .afdCalibrationRubberStampTest | .afdRubberStampTest => true
  | _ => false

/-- What is known behind a command. The self test goes on behind a low pin only, and the sensor is taken
out of the test mode only where it was put into it. -/
def Log.tested (log : Log) (armed : Bool) (cmd : SensortestCmd) (ended : Int × UInt32) : Option Log :=
  match cmd with
  | .selfTestInit =>
      if log.shown = .nothing then
        some { log with shown := if ended.1 = 0 then .initialised else .failed, dirty := true }
      else none
  | .selfTest =>
      if log.shown = .low then
        some { log with shown := if ended = (0, 0) then .tested else .failed, dirty := true }
      else none
  | .selfTestCleanup =>
      if log.shown = .nothing then none
      else
        some { log with
          shown := if log.shown = .raised ∧ ended.1 = 0 then .cleaned else .failed
          dirty := false
          cleanups := log.cleanups + 1 }
  | cmd =>
      if log.shown = .nothing ∧ (cmd.needsFinger = true → armed = true) then
        some { log with shown := if ended = (0, 0) then .passed cmd.named else .failed }
      else none

/-- The module quality test is passed. -/
def QualityTested.passes (sent : QualityTested) (limit : QualityLimit N) : Bool :=
  sent.status = 0 ∧ sent.response = 0 ∧ sent.result = 0 ∧ N.below sent.snr limit.snrThreshold = false

/-- What is known behind a call of the tests. One result is reported, with the sensor out of the test
mode, and then the sensor is left alone; the record and the image are freed once, and behind the report. -/
def Log.step (testLimits : List UInt8) (log : Log) (armed : Bool) :
    (call : TestCall) → TestAnswer call → Option Log
  | .malloc, allocated => if log.record then none else some { log with record := allocated }
  | .uninitialized, _ => some log
  | .sleep _, _ => some log
  | .test cmd result, sent =>
      if log.reported.isSome then none else log.tested armed cmd (sent.outcome result)
  | .otpInfo, otp =>
      if log.reported.isSome ∨ log.shown ≠ .nothing then none
      else
        some { log with
          shown := if otp.1 = 0 ∧ ¬ 0 < otp.2.otpErrorInfo.totalNumBitErrors.toInt32 then
            .passed .otpValidation else .failed
          product := if otp.1 = 0 then some otp.2.productType else none }
  | .moduleQuality params, sent =>
      match log.product.bind (qualityLimit N testLimits) with
      | none => none
      | some limit =>
          if log.reported = none ∧ armed = true ∧ params = limit.params then
            some { log with shown := if sent.passes N limit then .passed .moduleQuality else .failed }
          else none
  | .rawImage, _ =>
      if log.reported = none ∧ log.image = false then some { log with image := true } else none
  | .report result, _ =>
      if log.reported = none ∧ log.dirty = false ∧ result.isSome = log.record then
        some { log with reported := some result }
      else none
  | .freeImage, _ =>
      if log.reported.isSome ∧ log.image = true then some { log with image := false } else none
  | .free, _ =>
      if log.reported.isSome ∧ log.record = true ∧ log.image = false then
        some { log with record := false }
      else none

/-- What is known of the interrupt node and the sensor, and of the test. -/
structure Bench where
  known : Known
  log : Log

/-- What the interrupt node shows to a test. -/
def Log.seen (log : Log) : Sigma (Answer TestAnswer) → Log
  | ⟨.openIrq, opened⟩ => if opened then log else { log with shown := log.shown.pin (-fpcErrorIo) }
  | ⟨.readIrq, read⟩ => { log with shown := log.shown.pin (irqLevel read) }
  | _ => log

def Bench.step (testLimits : List UInt8) (b : Bench) (said : Sigma (Answer TestAnswer)) : Option Bench :=
  match said with
  | ⟨.other asked, answer⟩ =>
      (b.log.step N testLimits b.known.armed asked answer).map fun log => { b with log := log }
  | said =>
      if b.log.reported.isSome then none
      else (b.known.step said).map fun known => ⟨known, b.log.seen said⟩

/-- The monitor of a test. -/
def benchMonitor (testLimits : List UInt8) : Monitor Bench (Sigma (Answer TestAnswer)) :=
  ⟨Bench.step N testLimits⟩

/-- What is known at rest: the interrupt node is closed, and so much of the test. -/
def Bench.At (w : Bool) (n : Nat) (log : Log) (b : Bench) : Prop := b.known.Closed w n ∧ b.log = log

section

variable {N} {testLimits : List UInt8} {w : Bool} {n : Nat} {log : Log} {result : UInt32}

/-! ### The calls of a wait -/

def isOther : Call TestCall → Bool
  | .other _ => true
  | _ => false

theorem sensorCommand_only (cmd : SensorCmd) :
    (sensorCommand build cmd : Script (Answer TestAnswer) Int).Only fun call => isOther call = false := by
  have hrounds : ∀ rounds sleepTime last, (transferRounds build cmd rounds sleepTime last :
      Script (Answer TestAnswer) (Int × Int)).Only fun call => isOther call = false := by
    intro rounds
    induction rounds with
    | zero => intro _ _; trivial
    | succ rounds ih =>
      intro sleepTime last
      refine Only.bind (.ask rfl) fun sent => .ite trivial ?_
      refine Only.bind (.when (.ask rfl)) fun _ => .ite trivial ?_
      refine Only.bind (Only.bind (.when (.ask rfl)) fun _ => .when (.ask rfl)) fun _ => ?_
      exact Only.bind (.ask rfl) fun _ => ih _ _
  exact Only.bind (hrounds _ _ _) fun sent => .ite trivial trivial

theorem fpcIrqWait_only (irqValue : Int) :
    (fpcIrqWait irqValue : Script (Answer TestAnswer) Int).Only fun call => isOther call = false := by
  have hclose : ∀ status, (closeWith status : Script (Answer TestAnswer) (Unit ⊕ Int)).Only
      fun call => isOther call = false := fun _ => Only.bind (.ask rfl) fun _ => trivial
  refine .iter (fun _ => ?_) ()
  refine Only.bind (.ask rfl) fun opened => .ite trivial ?_
  refine Only.bind (.ask rfl) fun read => ?_
  refine .ite (hclose _) (.ite (hclose _) (.ite (hclose _) ?_))
  refine Only.bind (.ask rfl) fun polled => Only.bind (.ask rfl) fun _ => ?_
  cases polled with
  | failed => exact hclose _
  | cancelled => exact hclose _
  | irq => exact Only.bind (.ask rfl) fun _ => trivial

theorem fpcTeeWaitFingerDown_only :
    (fpcTeeWaitFingerDown build : Script (Answer TestAnswer) Int).Only fun call => isOther call = false :=
  Only.bind (sensorCommand_only _) fun _ => .ite trivial (fpcIrqWait_only 1)

theorem step_of_known {b : Bench} {asked : Call TestCall} {answer : Answer TestAnswer asked} {known : Known}
    (hasked : isOther asked = false) (hreported : b.log.reported = none)
    (hstep : b.known.step ⟨asked, answer⟩ = some known) :
    b.step N testLimits ⟨asked, answer⟩ = some ⟨known, b.log.seen ⟨asked, answer⟩⟩ := by
  have hnew : ∀ said : Sigma (Answer TestAnswer), b.known.step said = some known →
      (if b.log.reported.isSome then none
        else (b.known.step said).map fun known => Bench.mk known (b.log.seen said))
        = some ⟨known, b.log.seen said⟩ := by
    intro said hknown
    rw [hreported, hknown]
    rfl
  cases asked with
  | other o => cases hasked
  | _ => exact hnew _ hstep

/-- Where no look at the pin is due, the sensor is used as in a capture. -/
theorem benchMonitor_extends (hpin : ∀ level, log.shown.pin level = log.shown)
    (hreported : log.reported = none) :
    (benchMonitor N testLimits).Extends (sensorMonitor TestAnswer) Bench.known (fun b => b.log = log)
      fun said => isOther said.1 = false := by
  rintro b ⟨asked, answer⟩ t hlog hasked hstep
  refine ⟨_, step_of_known hasked (by rw [hlog, hreported]) hstep, rfl, ?_⟩
  show b.log.seen _ = log
  rw [hlog]
  cases asked with
  | openIrq =>
    cases answer with
    | true => rfl
    | false =>
      show { log with shown := log.shown.pin _ } = log
      rw [hpin]
  | readIrq =>
    show { log with shown := log.shown.pin _ } = log
    rw [hpin]
  | _ => rfl

theorem fpcTeeWaitFingerDown_bench (hpin : ∀ level, log.shown.pin level = log.shown)
    (hreported : log.reported = none) :
    Watched (benchMonitor N testLimits) (Bench.At w n log) (fpcTeeWaitFingerDown build)
      fun status b => b.At w n log ∧ (status = 0 → b.known.armed = true) := by
  have hwait : Watched (sensorMonitor TestAnswer) (fun k => k.Closed w n) (fpcTeeWaitFingerDown build)
      fun status k => k.Closed w n ∧ (status = 0 → k.armed = true) := fpcTeeWaitFingerDown_watched
  refine (hwait.extend (benchMonitor_extends hpin hreported) fpcTeeWaitFingerDown_only).mono ?_ ?_
  · rintro b ⟨hclosed, hlog⟩
    exact ⟨hlog, hclosed⟩
  · rintro status b ⟨hlog, hclosed, harmed⟩
    exact ⟨⟨hclosed, hlog⟩, harmed⟩

/-! ### The calls of a test -/

variable {P : Bench → Prop}

theorem callTest_watched {asked : TestCall} {Q : TestAnswer asked → Bench → Prop}
    (h : ∀ b answer, P b → ∃ log', b.log.step N testLimits b.known.armed asked answer = some log' ∧
      Q answer { b with log := log' }) :
    Watched (benchMonitor N testLimits) P (callTest asked) Q := by
  refine .ask fun b answer hb => ?_
  obtain ⟨log', hstep, hQ⟩ := h b answer hb
  refine ⟨_, ?_, hQ⟩
  show (b.log.step N testLimits b.known.armed asked answer).map _ = _
  rw [hstep]
  rfl

theorem testCommand_watched {cmd : SensortestCmd} {Q : Int × UInt32 → Bench → Prop}
    (h : ∀ b ended, P b → b.log.reported = none ∧
      ∃ log', b.log.tested b.known.armed cmd ended = some log' ∧ Q ended { b with log := log' }) :
    Watched (benchMonitor N testLimits) P (fpcTeeSensortestTestCommand cmd result) Q := by
  refine Watched.bind (Q := fun sent => Q (sent.outcome result)) (callTest_watched ?_) fun _ => .ret fun _ => id
  intro b sent hb
  obtain ⟨hreported, log', htested, hQ⟩ := h b (sent.outcome result) hb
  refine ⟨log', ?_, hQ⟩
  show (if b.log.reported.isSome then none else _) = _
  rw [hreported]
  exact htested

theorem sensorCall_watched {asked : Call TestCall} {Q : Answer TestAnswer asked → Bench → Prop}
    (hasked : isOther asked = false) (h : ∀ b answer, P b → b.log.reported = none ∧
      ∃ known, b.known.step ⟨asked, answer⟩ = some known ∧ Q answer ⟨known, b.log.seen ⟨asked, answer⟩⟩) :
    Watched (benchMonitor N testLimits) P (ask asked) Q := by
  refine .ask fun b answer hb => ?_
  obtain ⟨hreported, known, hstep, hQ⟩ := h b answer hb
  exact ⟨_, step_of_known hasked hreported hstep, hQ⟩

/-- The level of the pin is what the test sees of it. -/
theorem fpcIrqStatus_watched (hreported : log.reported = none) :
    Watched (benchMonitor N testLimits) (Bench.At w n log) fpcIrqStatus
      fun level => Bench.At w n { log with shown := log.shown.pin level } := by
  refine Watched.bind (Q := fun opened b => b.known.opened = opened ∧ b.known.wakeup = w ∧
    b.known.asked ≤ n ∧ b.log = log.seen ⟨.openIrq, opened⟩) (sensorCall_watched rfl ?_) fun opened => ?_
  · rintro b opened ⟨hclosed, rfl⟩
    exact ⟨hreported, _, if_neg (by rw [hclosed.opened]; decide), rfl, hclosed.wakeup, hclosed.asked, rfl⟩
  cases opened with
  | false => exact .ret fun b hb => ⟨⟨hb.1, hb.2.1, hb.2.2.1⟩, hb.2.2.2⟩
  | true =>
    refine Watched.bind (Q := fun read b => b.known.opened = true ∧ b.known.wakeup = w ∧
      b.known.asked ≤ n ∧ b.log = log.seen ⟨.readIrq, read⟩) (sensorCall_watched rfl ?_) fun read => ?_
    · rintro b read ⟨hopened, hwakeup, hasked, rfl⟩
      exact ⟨hreported, _, if_pos hopened, hopened, hwakeup, hasked, rfl⟩
    refine Watched.bind (Q := fun _ => Bench.At w n { log with shown := log.shown.pin (irqLevel read) })
      (sensorCall_watched rfl ?_) fun _ => .ret fun _ => id
    rintro b _ ⟨hopened, hwakeup, hasked, hlog⟩
    refine ⟨by rw [hlog]; exact hreported, _, if_pos hopened, ⟨rfl, hwakeup, hasked⟩, hlog⟩

/-! ### The self test -/

/-- What is known of a test that put the sensor into the test mode: the rest stays as it was. -/
def Log.during (log : Log) (shown : Shown) (dirty : Bool) (cleanups : Nat) : Log :=
  { log with shown := shown, dirty := dirty, cleanups := cleanups }

/-- What is known behind a self test. -/
def SelfTested (w : Bool) (n : Nat) (log : Log) (ended : Int × UInt32) (b : Bench) : Prop :=
  ∃ shown cleanups, b.At w n (log.during shown false cleanups) ∧ cleanups ≤ 2 ∧
    (ended = (0, 0) ↔ shown = .passed (.tee .selfTest))

/-- The test mode is left by a test that failed. -/
theorem cleanSelfTest_watched {temp : UInt32} {ended : Int × UInt32} {shown : Shown} {dirty : Bool}
    {cleanups : Nat} (hreported : log.reported = none) (hnothing : shown ≠ .nothing)
    (hraised : shown ≠ .raised) (hcleanups : cleanups ≤ 1) (hended : ended ≠ (0, 0)) :
    Watched (benchMonitor N testLimits) (Bench.At w n (log.during shown dirty cleanups))
      (cleanSelfTest temp ended) (SelfTested w n log) := by
  refine Watched.bind (Q := fun _ => Bench.At w n (log.during .failed false (cleanups + 1)))
    (testCommand_watched ?_) fun _ => .ret fun b hb => ?_
  · rintro b cleaned ⟨hclosed, hlog⟩
    refine ⟨by rw [hlog]; exact hreported, log.during .failed false (cleanups + 1), ?_, hclosed, rfl⟩
    rw [hlog]
    show (if shown = .nothing then none else some _) = _
    rw [if_neg hnothing, if_neg fun h => hraised h.1]
    rfl
  · exact ⟨.failed, cleanups + 1, hb, by omega, iff_of_false hended (by decide)⟩

/-- A look at the pin in the test mode, and what comes then. -/
theorem levelThen_watched {shown : Shown} {dirty : Bool} {cleanups : Nat}
    {rest : Int → Script (Answer TestAnswer) (Int × UInt32)} (hreported : log.reported = none)
    (hrest : ∀ level, Watched (benchMonitor N testLimits)
      (Bench.At w n (log.during (shown.pin level) dirty cleanups)) (rest level) (SelfTested w n log)) :
    Watched (benchMonitor N testLimits) (Bench.At w n (log.during shown dirty cleanups))
      (fpcIrqStatus.bind rest) (SelfTested w n log) :=
  Watched.bind
    (fpcIrqStatus_watched (show (log.during shown dirty cleanups).reported = none from hreported)) hrest

/-- **A self test**, from a sensor that is not in the test mode. -/
theorem selfTest_watched (hreported : log.reported = none) (hnothing : log.shown = .nothing)
    (hcleanups : log.cleanups = 0) :
    Watched (benchMonitor N testLimits) (Bench.At w n log) (fpcTeeSensortestSelfTest result)
      (SelfTested w n log) := by
  refine Watched.bind (Q := fun _ => Bench.At w n log) (callTest_watched ?_) fun temp => ?_
  · intro b _ hb
    exact ⟨b.log, rfl, hb⟩
  refine Watched.bind (Q := fun inited =>
    Bench.At w n (log.during (if inited.1 = 0 then .initialised else .failed) true 0))
    (testCommand_watched ?_) fun inited => ?_
  · rintro b inited ⟨hclosed, rfl⟩
    refine ⟨hreported, _, if_pos hnothing, hclosed, ?_⟩
    rw [Log.during, ← hcleanups]
  refine .ite (fun hfailed => ?_) fun hinited => ?_
  · rw [if_neg hfailed]
    exact cleanSelfTest_watched hreported (by decide) (by decide) (by decide) (by simp [fpcErrorSensor])
  rw [if_pos (not_not.mp hinited)]
  -- the pin has to be low
  refine levelThen_watched hreported fun level => ?_
  refine .ite (fun hneg => ?_) fun hneg => .ite (fun hpos => ?_) fun hpos => ?_
  · rw [show Shown.pin level .initialised = .failed from if_neg (by omega)]
    exact cleanSelfTest_watched hreported (by decide) (by decide) (by decide) (by simp [fpcErrorSensor])
  · rw [show Shown.pin level .initialised = .failed from if_neg (by omega)]
    exact cleanSelfTest_watched hreported (by decide) (by decide) (by decide) (by decide)
  rw [show Shown.pin level .initialised = .low from if_pos (by omega)]
  refine Watched.bind (Q := fun tested =>
    Bench.At w n (log.during (if tested = (0, 0) then .tested else .failed) true 0))
    (testCommand_watched ?_) fun tested => ?_
  · rintro b tested ⟨hclosed, hlog⟩
    rw [hlog]
    exact ⟨hreported, _, rfl, hclosed, rfl⟩
  refine .ite (fun hfailed => ?_) fun htested => ?_
  · have hne : tested ≠ (0, 0) := by
      rintro rfl
      simp at hfailed
    rw [if_neg hne]
    exact cleanSelfTest_watched hreported (by decide) (by decide) (by decide) hne
  have hzero : tested = (0, 0) := by
    rw [not_or, not_not, not_not] at htested
    exact Prod.ext htested.2 htested.1
  subst hzero
  rw [if_pos rfl]
  -- and high behind the command
  refine levelThen_watched hreported fun level => ?_
  refine .ite (fun hneg => ?_) fun hneg => .ite (fun hlow => ?_) fun hlow => ?_
  · rw [show Shown.pin level .tested = .failed from if_neg (by omega)]
    exact cleanSelfTest_watched hreported (by decide) (by decide) (by decide) (by decide)
  · rw [show Shown.pin level .tested = .failed from if_neg (by omega)]
    exact cleanSelfTest_watched hreported (by decide) (by decide) (by decide) (by decide)
  rw [show Shown.pin level .tested = .raised from if_pos (by omega)]
  refine Watched.bind (Q := fun cleaned =>
    Bench.At w n (log.during (if cleaned.1 = 0 then .cleaned else .failed) false 1))
    (testCommand_watched ?_) fun cleaned => ?_
  · rintro b cleaned ⟨hclosed, hlog⟩
    rw [hlog]
    refine ⟨hreported, _, rfl, hclosed, ?_⟩
    simp [Log.during]
  refine .ite (fun hfailed => .ret fun b hb => ?_) fun hcleaned => ?_
  · rw [if_neg hfailed] at hb
    exact ⟨.failed, 1, hb, by decide, by decide⟩
  rw [if_pos (not_not.mp hcleaned)]
  -- and low again
  refine levelThen_watched hreported fun level => ?_
  refine .ite (fun hneg => ?_) fun hneg => .ite (fun hpos => ?_) fun hpos => .ret fun b hb => ?_
  · rw [show Shown.pin level .cleaned = .failed from if_neg (by omega)]
    exact cleanSelfTest_watched hreported (by decide) (by decide) (by decide) (by decide)
  · rw [show Shown.pin level .cleaned = .failed from if_neg (by omega)]
    exact cleanSelfTest_watched hreported (by decide) (by decide) (by decide) (by decide)
  · have hzero : level = 0 := by omega
    subst hzero
    exact ⟨_, 1, hb, by decide, by decide⟩

/-! ### The other tests -/

/-- What is known behind the commands of a test: it is passed exactly where the sensor has shown it. -/
def RanTest (w : Bool) (n : Nat) (log : Log) (test : NamedTest) (ended : Int × UInt32) (b : Bench) : Prop :=
  ∃ shown cleanups, b.At w n (log.during shown false cleanups) ∧ cleanups ≤ 2 ∧
    (ended = (0, 0) ↔ shown = .passed test)

/-- A test that is one command. -/
theorem command_watched {cmd : SensortestCmd} (hcmd : cmd.named ≠ .tee .selfTest)
    (hreported : log.reported = none) (hnothing : log.shown = .nothing) (hdirty : log.dirty = false)
    (hcleanups : log.cleanups = 0) :
    Watched (benchMonitor N testLimits)
      (fun b => b.At w n log ∧ (cmd.needsFinger = true → b.known.armed = true))
      (fpcTeeSensortestTestCommand cmd result) (RanTest w n log cmd.named) := by
  refine testCommand_watched ?_
  rintro b ended ⟨⟨hclosed, rfl⟩, hfinger⟩
  refine ⟨hreported, { b.log with shown := if ended = (0, 0) then .passed cmd.named else .failed }, ?_,
    if ended = (0, 0) then .passed cmd.named else .failed, 0, ⟨hclosed, ?_⟩, by decide, ?_⟩
  · cases cmd with
    | selfTestInit | selfTest | selfTestCleanup => exact absurd rfl hcmd
    | _ => exact if_pos ⟨hnothing, hfinger⟩
  · rw [Log.during, ← hdirty, ← hcleanups]
  · by_cases h : ended = (0, 0) <;> simp [h]

/-- A test that waits for a finger. -/
theorem behindFinger_watched {test : NamedTest} {c : Script (Answer TestAnswer) (Int × UInt32)}
    (hreported : log.reported = none) (hnothing : log.shown = .nothing) (hdirty : log.dirty = false)
    (hcleanups : log.cleanups = 0)
    (hc : Watched (benchMonitor N testLimits) (fun b => b.At w n log ∧ b.known.armed = true) c
      (RanTest w n log test)) :
    Watched (benchMonitor N testLimits) (Bench.At w n log) (behindFinger build c result)
      (RanTest w n log test) := by
  have hpin : ∀ level, log.shown.pin level = log.shown := fun level => by rw [hnothing]; rfl
  refine Watched.bind (fpcTeeWaitFingerDown_bench hpin hreported) fun status => ?_
  refine .ite (fun hne => .ret fun b hb => ⟨.nothing, 0, ⟨hb.1.1, ?_⟩, by decide, ?_⟩) fun hzero => ?_
  · rw [hb.1.2, Log.during, ← hnothing, ← hdirty, ← hcleanups]
  · exact iff_of_false (fun h => hne (congrArg Prod.fst h)) (by simp)
  · exact hc.mono (fun b hb => ⟨hb.1, hb.2 (not_not.mp hzero)⟩) fun _ _ => id

theorem stabilized_watched {c : Script (Answer TestAnswer) (Int × UInt32)}
    {Q : Int × UInt32 → Bench → Prop} {P : Bench → Prop} (hc : Watched (benchMonitor N testLimits) P c Q) :
    Watched (benchMonitor N testLimits) P (stabilized c) Q :=
  Watched.bind (Q := fun _ => P) (callTest_watched fun b _ hb => ⟨b.log, rfl, hb⟩) fun _ => hc

theorem fpcTeeSensortestRunTest_watched (test : SensortestTest) (hreported : log.reported = none)
    (hnothing : log.shown = .nothing) (hdirty : log.dirty = false) (hcleanups : log.cleanups = 0) :
    Watched (benchMonitor N testLimits) (Bench.At w n log) (fpcTeeSensortestRunTest build test result)
      (RanTest w n log (.tee test)) := by
  have hcommand : ∀ cmd : SensortestCmd, cmd.named ≠ .tee .selfTest →
      Watched (benchMonitor N testLimits)
        (fun b => b.At w n log ∧ (cmd.needsFinger = true → b.known.armed = true))
        (fpcTeeSensortestTestCommand cmd result) (RanTest w n log cmd.named) :=
    fun cmd hcmd => command_watched hcmd hreported hnothing hdirty hcleanups
  have hplain : ∀ cmd : SensortestCmd, cmd.named ≠ .tee .selfTest → cmd.needsFinger = false →
      Watched (benchMonitor N testLimits) (Bench.At w n log) (fpcTeeSensortestTestCommand cmd result)
        (RanTest w n log cmd.named) := by
    intro cmd hcmd hfinger
    refine (hcommand cmd hcmd).mono (fun b hb => ⟨hb, fun h => ?_⟩) fun _ _ => id
    rw [hfinger] at h
    cases h
  have hstamp : ∀ cmd : SensortestCmd, cmd.named ≠ .tee .selfTest →
      Watched (benchMonitor N testLimits) (fun b => b.At w n log ∧ b.known.armed = true)
        (fpcTeeSensortestTestCommand cmd result) (RanTest w n log cmd.named) :=
    fun cmd hcmd => (hcommand cmd hcmd).mono (fun b hb => ⟨hb.1, fun _ => hb.2⟩) fun _ _ => id
  cases test with
  | selfTest => exact selfTest_watched hreported hnothing hcleanups
  | checkerboardTest => exact hplain .checkerboardTest (by decide) rfl
  | resetPixelTest => exact hplain .resetPixelTest (by decide) rfl
  | afdCalibrationTest => exact hplain .afdCalibrationTest (by decide) rfl
  | pnImageTest => exact hplain .pnImageTest (by decide) rfl
  | imageQualityTest =>
    exact behindFinger_watched hreported hnothing hdirty hcleanups (hstamp .imageQualityTest (by decide))
  | afdCalibrationRubberStampTest =>
    exact behindFinger_watched hreported hnothing hdirty hcleanups
      (stabilized_watched (hstamp .afdCalibrationRubberStampTest (by decide)))
  | afdRubberStampTest =>
    exact behindFinger_watched hreported hnothing hdirty hcleanups
      (stabilized_watched (hstamp .afdRubberStampTest (by decide)))
  | moduleQualityTest =>
    refine .ret fun b hb => ⟨.nothing, 0, ⟨hb.1, ?_⟩, by decide, by simp [fpcTaSensortestTestNotSupported]⟩
    rw [hb.2, Log.during, ← hnothing, ← hdirty, ← hcleanups]

/-! ### The task -/

theorem resultCode_eq_pass (ran : Ran) : ran.resultCode = testPass ↔ ran.status = 0 ∧ ran.result = 0 := by
  unfold Ran.resultCode
  by_cases hstatus : ran.status = 0
  · rw [if_neg (not_not.mpr hstatus)]
    by_cases hresult : ran.result = 0
    · simp [hstatus, hresult]
    · simp [hresult, testFail, testPass]
  · rw [if_pos hstatus]
    refine iff_of_false ?_ fun h => hstatus h.1
    split
    · decide
    · split
      · decide
      · decide

/-- What is known behind the branches of the task. -/
def RanNamed (w : Bool) (n : Nat) (log : Log) (test : Option NamedTest) (ran : Ran) (b : Bench) : Prop :=
  ∃ shown product cleanups, b.At w n { log.during shown false cleanups with product := product } ∧
    cleanups ≤ 2 ∧ (ran.resultCode = testPass ↔ ∃ t, test = some t ∧ shown = .passed t)

/-- What the sensor has shown behind its information. -/
def shownByOtp (otp : Int × HwModuleInfo) : Shown :=
  if otp.1 = 0 ∧ ¬ 0 < otp.2.otpErrorInfo.totalNumBitErrors.toInt32 then .passed .otpValidation
  else .failed

def productOf (otp : Int × HwModuleInfo) : Option UInt32 :=
  if otp.1 = 0 then some otp.2.productType else none

theorem otpInfo_watched (hreported : log.reported = none) (hnothing : log.shown = .nothing)
    (hdirty : log.dirty = false) (hcleanups : log.cleanups = 0) :
    Watched (benchMonitor N testLimits) (Bench.At w n log) (callTest .otpInfo) fun otp =>
      Bench.At w n { log.during (shownByOtp otp) false 0 with product := productOf otp } := by
  refine callTest_watched ?_
  rintro b otp ⟨hclosed, rfl⟩
  refine ⟨{ b.log with shown := shownByOtp otp, product := productOf otp }, ?_, hclosed, ?_⟩
  · refine if_neg ?_
    rw [hreported, hnothing]
    decide
  · rw [Log.during, ← hdirty, ← hcleanups]

theorem shownByOtp_ne (otp : Int × HwModuleInfo) : shownByOtp otp ≠ .passed .moduleQuality := by
  unfold shownByOtp
  split
  · decide
  · decide

theorem shownByOtp_pin (otp : Int × HwModuleInfo) (level : Int) :
    (shownByOtp otp).pin level = shownByOtp otp := by
  unfold shownByOtp
  split
  · rfl
  · rfl

theorem ofQuality_pass {engineering : Bool} {limit : QualityLimit N} {sent : QualityTested} :
    (Ran.ofQuality N engineering limit sent).resultCode = testPass ↔ sent.passes N limit = true := by
  rw [resultCode_eq_pass]
  unfold Ran.ofQuality QualityTested.passes
  by_cases hstatus : sent.status = 0
  · by_cases hresponse : sent.response = 0
    · by_cases hresult : sent.result = 0
      · cases hbelow : N.below sent.snr limit.snrThreshold with
        | false => simp [hstatus, hresponse, hresult, Ran.of]
        | true => simp [hstatus, hresponse, hresult, Ran.of]
      · simp [hstatus, hresponse, hresult, Ran.of]
    · simp [hstatus, hresponse, Ran.of]
  · simp [hstatus, Ran.of]

theorem runModuleQuality_watched {m : TestModule} (hreported : log.reported = none)
    (hnothing : log.shown = .nothing) (hdirty : log.dirty = false) (hcleanups : log.cleanups = 0) :
    Watched (benchMonitor N m.testLimits) (Bench.At w n log) (runModuleQuality build N m)
      (RanNamed w n log (some .moduleQuality)) := by
  have hunpassed : ∀ otp ran, ran.resultCode ≠ testPass → ∀ b,
      b.At w n { log.during (shownByOtp otp) false 0 with product := productOf otp } →
      RanNamed w n log (some .moduleQuality) ran b := by
    intro otp ran hne b hb
    refine ⟨_, _, 0, hb, by decide, iff_of_false hne ?_⟩
    rintro ⟨t, htest, hshown⟩
    cases htest
    exact shownByOtp_ne otp hshown
  refine Watched.bind (otpInfo_watched hreported hnothing hdirty hcleanups) fun otp => ?_
  refine .ite (fun hfailed => .ret fun b hb => ?_) fun hread => ?_
  · exact hunpassed otp _ (fun h => hfailed ((resultCode_eq_pass _).mp h).1) b hb
  cases hlimit : qualityLimit N m.testLimits otp.2.productType with
  | none =>
    refine .ret fun b hb => hunpassed otp _ (fun h => ?_) b hb
    exact absurd ((resultCode_eq_pass _).mp h).1 (by decide)
  | some limit =>
    have hkept : ({ log.during (shownByOtp otp) false 0 with product := productOf otp } : Log).reported =
        none := hreported
    refine Watched.bind (fpcTeeWaitFingerDown_bench (shownByOtp_pin otp) hkept) fun status => ?_
    refine .ite (fun hne => .ret fun b hb => ?_) fun hzero => ?_
    · exact hunpassed otp _ (fun h => hne ((resultCode_eq_pass _).mp h).1) b hb.1
    refine Watched.bind (Q := fun _ b => b.At w n { log.during (shownByOtp otp) false 0 with
      product := productOf otp } ∧ b.known.armed = true) (callTest_watched ?_) fun _ => ?_
    · intro b _ hb
      exact ⟨b.log, rfl, hb.1, hb.2 (not_not.mp hzero)⟩
    refine Watched.bind (Q := fun sent => Bench.At w n
      { log.during (if sent.passes N limit then .passed .moduleQuality else .failed) false 0 with
        product := productOf otp }) (callTest_watched ?_) fun sent => .ret fun b hb => ?_
    · rintro b sent ⟨⟨hclosed, hlog⟩, harmed⟩
      refine ⟨{ log.during (if sent.passes N limit then .passed .moduleQuality else .failed) false 0 with
        product := productOf otp }, ?_, hclosed, rfl⟩
      have hproduct : b.log.product.bind (qualityLimit N m.testLimits) = some limit := by
        rw [hlog]
        show (productOf otp).bind _ = _
        rw [productOf, if_pos (not_not.mp hread)]
        exact hlimit
      unfold Log.step
      rw [hproduct]
      show (if _ then _ else _) = _
      rw [if_pos ⟨by rw [hlog]; exact hreported, harmed, rfl⟩, hlog]
      rfl
    · refine ⟨_, _, 0, hb, by decide, ?_⟩
      rw [ofQuality_pass]
      cases sent.passes N limit with
      | false => simp
      | true => simp

theorem runOtpValidation_watched (hreported : log.reported = none) (hnothing : log.shown = .nothing)
    (hdirty : log.dirty = false) (hcleanups : log.cleanups = 0) :
    Watched (benchMonitor N testLimits) (Bench.At w n log) runOtpValidation
      (RanNamed w n log (some .otpValidation)) := by
  refine Watched.bind (otpInfo_watched hreported hnothing hdirty hcleanups) fun otp => .ret fun b hb => ?_
  refine ⟨_, _, 0, hb, by decide, ?_⟩
  rw [resultCode_eq_pass]
  unfold shownByOtp
  by_cases hread : otp.1 = 0
  · by_cases herrors : 0 < otp.2.otpErrorInfo.totalNumBitErrors.toInt32
    · simp [hread, herrors, Ran.of]
    · simp [hread, herrors, Ran.of]
  · simp [hread, Ran.of]

theorem runNamed_watched {m : TestModule} (test : Option NamedTest) (hreported : log.reported = none)
    (hnothing : log.shown = .nothing) (hdirty : log.dirty = false) (hcleanups : log.cleanups = 0) :
    Watched (benchMonitor N m.testLimits) (Bench.At w n log) (runNamed build N m test)
      (RanNamed w n log test) := by
  cases test with
  | none =>
    refine .ret fun b hb => ⟨.nothing, log.product, 0, ⟨hb.1, ?_⟩, by decide, ?_⟩
    · rw [hb.2, Log.during, ← hnothing, ← hdirty, ← hcleanups]
    · rw [resultCode_eq_pass]
      simp [Ran.of, fpcTaSensortestTestNotSupported]
  | some test =>
    cases test with
    | moduleQuality => exact runModuleQuality_watched hreported hnothing hdirty hcleanups
    | otpValidation => exact runOtpValidation_watched hreported hnothing hdirty hcleanups
    | tee test =>
      refine Watched.bind (fpcTeeSensortestRunTest_watched test hreported hnothing hdirty hcleanups)
        fun ended => .ret ?_
      rintro b ⟨shown, cleanups, hb, hle, hpass⟩
      refine ⟨shown, log.product, cleanups, hb, hle, ?_⟩
      rw [resultCode_eq_pass]
      simpa [Ran.of, Prod.ext_iff] using hpass

/-- What is known before a test: the interrupt node is closed, and nothing was done. -/
def Log.start : Log where
  shown := .nothing
  product := none
  dirty := false
  cleanups := 0
  record := false
  image := false
  reported := none

/-- What is known behind the task of a test: the interrupt node is closed, the sensor is out of the test
mode, what was allocated is freed, and the result is that of what the sensor has shown; without a record
nothing was done. -/
structure Ended (m : TestModule) (completed : Bool) (b : Bench) : Prop where
  opened : b.known.opened = false
  dirty : b.log.dirty = false
  cleanups : b.log.cleanups ≤ 2
  record : b.log.record = false
  image : b.log.image = false
  reported : completed = true → ∃ result, b.log.reported = some (some result) ∧
    (result.resultCode = testPass ↔ ∃ test, testNamed m.name = some test ∧ b.log.shown = .passed test)
  stopped : completed = false → b.log.reported = none ∧ b.log.shown = .nothing

/-- The record is freed behind the report, and that is the end. -/
theorem free_watched {m : TestModule} {log' : Log} {ran : Ran} {image : Option (List UInt8)}
    (hrecord : log'.record = true) (himage : log'.image = false)
    (hreported : log'.reported = some (some (ran.toResult m.engineering image)))
    (hdirty : log'.dirty = false) (hcleanups : log'.cleanups ≤ 2)
    (hpass : ran.resultCode = testPass ↔ ∃ t, testNamed m.name = some t ∧ log'.shown = .passed t) :
    Watched (benchMonitor N testLimits) (Bench.At w n log') ((callTest .free).bind fun _ => .ret true)
      (Ended m) := by
  refine Watched.bind (Q := fun _ => Bench.At w n { log' with record := false }) (callTest_watched ?_)
    fun _ => .ret fun b hb => ?_
  · rintro b _ ⟨hclosed, rfl⟩
    exact ⟨{ b.log with record := false }, if_pos ⟨by rw [hreported]; rfl, hrecord, himage⟩, hclosed, rfl⟩
  · obtain ⟨known, log''⟩ := b
    obtain ⟨hclosed, rfl⟩ := hb
    exact ⟨hclosed.opened, hdirty, hcleanups, rfl, himage, fun _ => ⟨_, hreported, hpass⟩,
      fun h => absurd h (by decide)⟩

theorem report_watched {result : TestResult} (hrecord : log.record = true) (hreported : log.reported = none)
    (hdirty : log.dirty = false) :
    Watched (benchMonitor N testLimits) (Bench.At w n log) (callTest (.report (some result)))
      fun _ => Bench.At w n { log with reported := some (some result) } := by
  refine callTest_watched ?_
  rintro b _ ⟨hclosed, rfl⟩
  exact ⟨_, if_pos ⟨hreported, hdirty, hrecord.symm⟩, hclosed, rfl⟩

/-- **A test of the sensor**, in every run of it: with any answer of the TEE, the interrupt node and the
clock, for any name and any limits. -/
theorem doRunSensorTest_watched (N : Numbers) (build : SensorBuild) (m : TestModule) :
    Watched (benchMonitor N m.testLimits) (fun b => b.known.opened = false ∧ b.log = .start)
      (doRunSensorTest build N m) (Ended m) := by
  intro b₀ hstart
  have hwatched : Watched (benchMonitor N m.testLimits) (Bench.At b₀.known.wakeup b₀.known.asked .start)
      (doRunSensorTest build N m) (Ended m) := by
    refine Watched.bind (Q := fun allocated =>
      Bench.At b₀.known.wakeup b₀.known.asked { Log.start with record := allocated })
      (callTest_watched ?_) fun allocated => ?_
    · rintro b allocated ⟨hclosed, hlog⟩
      rw [hlog]
      exact ⟨_, rfl, hclosed, rfl⟩
    cases allocated with
    | false =>
      refine .ret fun b hb => ?_
      obtain ⟨known, log⟩ := b
      obtain ⟨hclosed, rfl⟩ := hb
      exact ⟨hclosed.opened, rfl, Nat.zero_le _, rfl, rfl, fun h => absurd h (by decide),
        fun _ => ⟨rfl, rfl⟩⟩
    | true =>
      refine Watched.bind (runNamed_watched (testNamed m.name) rfl rfl rfl rfl) fun ran => ?_
      intro b hb
      obtain ⟨shown, product, cleanups, hb, hcleanups, hpass⟩ := hb
      refine Watched.ite (fun hfetch => ?_) (fun _ => ?_) b hb
      · -- the image is fetched in front of the report and freed behind it
        refine Watched.bind (Q := fun _ => Bench.At b₀.known.wakeup b₀.known.asked
          { Log.start.during shown false cleanups with product := product, record := true, image := true })
          (callTest_watched ?_) fun image => ?_
        · rintro b _ ⟨hclosed, hlog⟩
          rw [hlog]
          exact ⟨_, rfl, hclosed, rfl⟩
        refine Watched.bind (report_watched rfl rfl rfl) fun _ => ?_
        refine Watched.bind (Q := fun _ => Bench.At b₀.known.wakeup b₀.known.asked
          { Log.start.during shown false cleanups with
            product := product, record := true,
            reported := some (some (ran.toResult m.engineering image)) })
          (callTest_watched ?_) fun _ => free_watched rfl rfl rfl rfl hcleanups hpass
        rintro b _ ⟨hclosed, hlog⟩
        rw [hlog]
        exact ⟨_, rfl, hclosed, rfl⟩
      · refine Watched.bind (report_watched rfl rfl rfl) fun _ => ?_
        exact free_watched rfl rfl rfl rfl hcleanups hpass
  exact hwatched b₀ ⟨⟨hstart.1, rfl, le_rfl⟩, hstart.2⟩

end

/-- Whole numbers, and no texts. -/
def wholeNumbers : Numbers where
  Float := Nat
  literal := id
  atof := List.length
  atoi _ := 0
  below snr threshold := snr.toNat / 100 < threshold
  resultString _ _ := .empty resultString_fits
  errorString _ := .empty errorString_fits

def sampleModule : TestModule := ⟨text "Self Test", [], false⟩

/-- A self test that is passed. -/
def sampleSelfTest : List (Sigma (Answer TestAnswer)) :=
  [⟨.other .malloc, true⟩, ⟨.other .uninitialized, (7 : UInt32)⟩,
    ⟨.other (.test .selfTestInit 7), ⟨0, 0, 9⟩⟩, ⟨.openIrq, true⟩, ⟨.readIrq, ⟨1, 48⟩⟩, ⟨.closeIrq, ()⟩,
    ⟨.other (.test .selfTest 0), ⟨0, 0, 0⟩⟩, ⟨.openIrq, true⟩, ⟨.readIrq, ⟨1, 49⟩⟩, ⟨.closeIrq, ()⟩,
    ⟨.other (.test .selfTestCleanup 9), ⟨0, 0, 0⟩⟩, ⟨.openIrq, true⟩, ⟨.readIrq, ⟨1, 48⟩⟩, ⟨.closeIrq, ()⟩,
    ⟨.other (.report (some ((Ran.of false (0, 0)).toResult false none))), ()⟩, ⟨.other .free, ()⟩]

theorem sampleSelfTest_yields :
    Yields (doRunSensorTest pollingBuild wholeNumbers sampleModule) sampleSelfTest true :=
  yields_of_play (show play 40 _ sampleSelfTest = some true by decide +kernel)

end Fpc.SensorTests
