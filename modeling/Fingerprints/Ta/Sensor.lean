import Fingerprints.Runs.Monitor
import Fingerprints.Ta.Platform

/-!
# The sensor module of the application

`fpc_ta_sensor.c`: what the application does to the sensor for each command, as a script of the calls of
the device library. The library, that is not part of the repository, answers in any way; the pictures
themselves are left out.

* **`fpcTaPollQualify_watched`**: a finger is found by as many zones as the sensor asks for, within
  `max_retries` counts of them;
* **`fpcTaSensorCommandHandler_watched`**: what a command leaves of what is known of the sensor.
-/

namespace Fpc.TaSensor

open Runs Script

/-! ## Calls -/

/-- The calls of the device library. -/
inductive DeviceCall
  | communicationStart
  | communicationStop
  | checkFingerLost
  | fingerLostWakeupSetup
  | wakeupSetup
  | wakeupQualification
  | getFingerDetectLimit
  | getDfdZoneCount
  | getTimestamp
  | getUptime
  | captureImage
  | deepSleep
  | deadPixelUpdate
  | otpIsSupported
  | otpGetSensorInfo
  | earlyStopCtrl
  | forceAvailable
  | forceGetValue
  deriving DecidableEq, Repr

/-- What a call of the device library answers: its status, with what it puts out. -/
abbrev DeviceAnswer : DeviceCall → Type
  | .getFingerDetectLimit => Int × UInt32
  | .getDfdZoneCount => Int × UInt32
  | .getTimestamp => UInt64
  | .getUptime => UInt64
  | .captureImage => Int × Int32
  | .forceAvailable => Bool
  | .forceGetValue => Int × UInt8
  | _ => Int

/-- What the module keeps of `fpc_ta_common_t`. -/
structure SensorTa where
  checkForBadPixels : Bool
  imageTimestamp : UInt64
  deriving DecidableEq, Repr

/-- `fpc_ta_sensor_cmd_t` -/
inductive TaSensorCmd
  | checkFingerLost
  | fingerLostWakeupSetup
  | wakeupSetup
  | captureImage
  | deepSleep
  | isOtpSupported
  | getOtpInfo
  | earlyStopCtrl
  | getForceValue
  | isSensorForceSupported
  deriving DecidableEq, Repr

/-- What a command leaves: the result of the handler, and what it wrote to the response, to `cac_result`
and to the force value. -/
structure SensorReply where
  ret : Int
  response : Option Int
  cacResult : Option Int32
  value : Option UInt8
  deriving DecidableEq, Repr

/-- `FPC_SENSOR_TYPE_FPC1280` and `FPC_CONFIG_ENGINEERING` -/
structure TaSensorBuild where
  fpc1280 : Bool
  engineering : Bool
  deriving DecidableEq, Repr

def fpcResultWaitTime : Int := 1
def fpcResultFingerPresent : Int := 2
def fpcErrorHardware : Int := 9
def fpcCaptureOk : Int := 0
def fpcCaptureFingerLost : Int := 1

def device (call : DeviceCall) : Script DeviceAnswer (DeviceAnswer call) := ask call

/-! ## Commands -/

/-- What the setups of the wakeup and the deep sleep make of the status of the library. -/
def setupStatus (status : Int) : Int :=
  if status = fpcResultOk then 0
  else if status = fpcResultErrorSensor then -fpcErrorResetHardware
  else -fpcErrorIo

/-- `fpc_ta_finger_lost_wakeup_setup` -/
def fpcTaFingerLostWakeupSetup : Script DeviceAnswer Int := do
  let status ← device .fingerLostWakeupSetup
  .ret (setupStatus status)

/-- `fpc_ta_wakeup_setup` -/
def fpcTaWakeupSetup : Script DeviceAnswer Int := do
  let status ← device .wakeupSetup
  .ret (setupStatus status)

/-- `fpc_ta_deep_sleep` -/
def fpcTaDeepSleep : Script DeviceAnswer Int := do
  let status ← device .deepSleep
  .ret (setupStatus status)

variable (build : TaSensorBuild)

/-- `fpc_ta_check_finger_lost` -/
def fpcTaCheckFingerLost (ta : SensorTa) : Script DeviceAnswer (Int × SensorTa) := do
  let status ← device .checkFingerLost
  if status = fpcResultFingerLost then
    let ta := if build.fpc1280 then { ta with checkForBadPixels := false } else ta
    if ta.checkForBadPixels then do
      let updated ← device .deadPixelUpdate
      .ret (1, if 0 ≤ updated then { ta with checkForBadPixels := false } else ta)
    else .ret (1, ta)
  else if status = fpcResultWaitTime then .ret (0, ta)
  else if status = fpcResultErrorSensor then .ret (-fpcErrorResetHardware, ta)
  else .ret (-fpcErrorIo, ta)

def timeoutUs : UInt64 := 30 * 1000
def maxRetries : Nat := 60

/-- The loop of `fpc_ta_poll_qualify` with the retries that are left and the last status. -/
def pollRounds (expectedZones : UInt32) (timeStartUs : UInt64) :
    Nat → (timeCurrentUs : UInt64) → (last : Int) → Script DeviceAnswer Int
  | 0, _, last => .ret last
  | retries + 1, timeCurrentUs, last =>
      if timeCurrentUs - timeStartUs < timeoutUs then do
        let counted ← device .getDfdZoneCount
        if counted.1 < 0 then .ret counted.1
        else if counted.2 ≥ expectedZones then .ret fpcResultFingerPresent
        else do
          let now ← device .getTimestamp
          pollRounds expectedZones timeStartUs retries now
            (if counted.2 = 0 then fpcResultFingerLost else fpcResultWaitTime)
      else .ret last

/-- `fpc_ta_poll_qualify` -/
def fpcTaPollQualify : Script DeviceAnswer Int := do
  let limit ← device .getFingerDetectLimit
  if limit.1 < 0 then .ret limit.1
  else do
    let timeStartUs ← device .getTimestamp
    pollRounds limit.2 timeStartUs maxRetries timeStartUs limit.1

/-- `fpc_ta_capture_image`, with the `cac_result` of the details. -/
def fpcTaCaptureImage (ta : SensorTa) : Script DeviceAnswer (Int × Int32 × SensorTa) := do
  let uptime ← device .getUptime
  let captured ← device .captureImage
  let status :=
    if captured.1 = fpcResultOk then fpcCaptureOk
    else if captured.1 = fpcResultFingerLost then fpcCaptureFingerLost
    else if captured.1 = fpcResultErrorSensor then -fpcErrorResetHardware
    else -fpcErrorIo
  .ret (status, captured.2, { ta with imageTimestamp := uptime })

/-- What `fpc_ta_qualify_capture` does with the status of the qualification. -/
def captureQualified (ta : SensorTa) (status : Int) : Script DeviceAnswer (Int × Int32 × SensorTa) :=
  if status = fpcResultFingerPresent then fpcTaCaptureImage ta
  else if status = fpcResultFingerLost ∨ status = fpcResultWaitTime then
    .ret (fpcCaptureFingerLost, 0, ta)
  else if status = fpcResultErrorSensor then .ret (-fpcErrorResetHardware, 0, ta)
  else .ret (-fpcErrorIo, 0, ta)

/-- `fpc_ta_qualify_capture` -/
def fpcTaQualifyCapture (ta : SensorTa) : Script DeviceAnswer (Int × Int32 × SensorTa) := do
  let status ← device .wakeupQualification
  if status = fpcResultFingerLost ∨ status = fpcResultWaitTime then do
    let status ← fpcTaPollQualify
    captureQualified ta status
  else captureQualified ta status

/-- `fpc_ta_get_force_value`. The error of a sensor that is not there is not negative. -/
def fpcTaGetForceValue : Script DeviceAnswer (Int × Option UInt8) := do
  let available ← device .forceAvailable
  if available then do
    let got ← device .forceGetValue
    .ret (got.1, some got.2)
  else .ret (fpcErrorHardware, none)

/-- A command that leaves a response. -/
def SensorReply.responds (response : Int) : SensorReply where
  ret := 0
  response := some response
  cacResult := none
  value := none

/-- The `switch` of the handler. -/
def runCommand (ta : SensorTa) : Option TaSensorCmd → Script DeviceAnswer (SensorReply × SensorTa)
  | some .checkFingerLost => do
      let r ← fpcTaCheckFingerLost build ta
      .ret (.responds r.1, r.2)
  | some .fingerLostWakeupSetup => do
      let response ← fpcTaFingerLostWakeupSetup
      .ret (.responds response, ta)
  | some .wakeupSetup => do
      let response ← fpcTaWakeupSetup
      .ret (.responds response, ta)
  | some .captureImage => do
      let r ← fpcTaQualifyCapture ta
      .ret ({ SensorReply.responds r.1 with cacResult := some r.2.1 }, r.2.2)
  | some .deepSleep => do
      let response ← fpcTaDeepSleep
      .ret (.responds response, ta)
  | some .isOtpSupported => do
      let response ← device .otpIsSupported
      .ret (.responds response, ta)
  | some .getOtpInfo => do
      let response ← device .otpGetSensorInfo
      .ret (.responds response, ta)
  | some .earlyStopCtrl =>
      if build.engineering then do
        let response ← device .earlyStopCtrl
        .ret (.responds response, ta)
      else .ret (⟨-fpcErrorInput, none, none, none⟩, ta)
  | some .getForceValue => do
      let r ← fpcTaGetForceValue
      .ret ({ SensorReply.responds r.1 with value := r.2 }, ta)
  | some .isSensorForceSupported => do
      let available ← device .forceAvailable
      .ret (.responds (if available then 1 else 0), ta)
  | none => .ret (⟨-fpcErrorInput, none, none, none⟩, ta)

/-- `fpc_ta_sensor_command_handler` behind the check of the size, by the command, or that it is unknown. -/
def fpcTaSensorCommandHandler (cmd : Option TaSensorCmd) (ta : SensorTa) :
    Script DeviceAnswer (SensorReply × SensorTa) := do
  let started ← device .communicationStart
  if started < 0 then .ret (⟨-fpcErrorResetHardware, none, none, none⟩, ta)
  else do
    let r ← runCommand build ta cmd
    let stopped ← device .communicationStop
    .ret (if stopped < 0 then { r.1 with ret := -fpcErrorResetHardware } else r.1, r.2)

/-! ## What commands do to the sensor -/

/-- What is known of the sensor: whether the communication is open and the pin of the interrupt was read
high since the wakeup was set up, the zones that are asked for, whether a finger is known to be there and
how often the zones were counted since the communication was opened, how many images were captured,
whether the last of them is one, the uptime before it, and whether the dead pixels were updated. -/
structure DeviceKnown where
  started : Bool
  irq : Bool
  limit : Option UInt32
  present : Bool
  polls : Nat
  captures : Nat
  image : Bool
  uptime : UInt64
  updated : Bool
  deriving DecidableEq, Repr

/-- What is known behind a call of the library. It is called while the communication is open; an image is
captured behind an interrupt, of a finger that is known to be there. -/
def DeviceKnown.device (d : DeviceKnown) : (call : DeviceCall) → DeviceAnswer call → Option DeviceKnown
  | .communicationStart, status =>
      if d.started then none
      else some { d with started := 0 ≤ status, limit := none, present := false, polls := 0 }
  | .communicationStop, _ => if d.started then some { d with started := false, present := false } else none
  | .getTimestamp, _ => some d
  | .getUptime, uptime => some { d with uptime := uptime }
  | .fingerLostWakeupSetup, _ | .wakeupSetup, _ => if d.started then some { d with irq := false } else none
  | .wakeupQualification, status =>
      if d.started then some { d with present := status = fpcResultFingerPresent } else none
  | .getFingerDetectLimit, (status, zones) =>
      if d.started then some { d with limit := if 0 ≤ status then some zones else none } else none
  | .getDfdZoneCount, (status, zones) =>
      if d.started ∧ d.polls < maxRetries then
        some { d with polls := d.polls + 1, present := 0 ≤ status ∧ ∃ limit ∈ d.limit, limit ≤ zones }
      else none
  | .captureImage, (status, _) =>
      if d.started ∧ d.present ∧ d.irq then
        some { d with captures := d.captures + 1, image := status = fpcResultOk }
      else none
  | .deadPixelUpdate, status =>
      if d.started ∧ d.updated = false then some { d with updated := 0 ≤ status } else none
  | _, _ => if d.started then some d else none

/-- The monitor of the sensor below the application. -/
def deviceMonitor : Monitor DeviceKnown (Sigma DeviceAnswer) := ⟨fun d said => d.device said.1 said.2⟩

/-- What is known of the sensor, beside what a command finds out: whether the pin is high and the image
one, how many images were captured at most, and what the module keeps. -/
structure Between (started irq image : Bool) (captures : Nat) (ta : SensorTa) (d : DeviceKnown) : Prop where
  started : d.started = started
  irq : irq = true → d.irq = true
  image : image = true → d.image = true
  captures : d.captures ≤ captures
  pixels : ta.checkForBadPixels = true → d.updated = false
  uptime : d.uptime = ta.imageTimestamp

section

variable {build : TaSensorBuild} {started irq irq' image image' : Bool} {captures captures' : Nat}
  {ta : SensorTa} {d : DeviceKnown}

theorem Between.mono (h : Between started irq image captures ta d) (hirq : irq' = true → irq = true)
    (himage : image' = true → image = true) (hcaptures : captures ≤ captures') :
    Between started irq' image' captures' ta d :=
  ⟨h.started, fun hi => h.irq (hirq hi), fun hi => h.image (himage hi), h.captures.trans hcaptures,
    h.pixels, h.uptime⟩

/-- A call while the communication is open, that nothing is learned from. -/
theorem device_silent {call : DeviceCall} {P : DeviceKnown → Prop}
    (hcall : ∀ d (answer : DeviceAnswer call), P d → d.device call answer = some d) :
    Watched deviceMonitor P (device call) fun _ => P :=
  .ask fun d answer hd => ⟨d, hcall d answer hd, hd⟩

/-! ### The qualification -/

/-- What is known while the zones are counted. -/
structure Polling (irq image : Bool) (captures : Nat) (ta : SensorTa) (zones : UInt32) (retries : Nat)
    (d : DeviceKnown) : Prop where
  between : Between true irq image captures ta d
  limit : d.limit = some zones
  polls : d.polls + retries ≤ maxRetries

/-- Induction on the retries. The status before the first round is not returned, since its time is not up. -/
theorem pollRounds_watched {zones : UInt32} {timeStartUs timeCurrentUs : UInt64} {last : Int} (retries : Nat)
    (hlast : last ≠ fpcResultFingerPresent ∨ 0 < retries ∧ timeCurrentUs = timeStartUs) :
    Watched deviceMonitor (Polling irq image captures ta zones retries)
      (pollRounds zones timeStartUs retries timeCurrentUs last) fun status d =>
        Between true irq image captures ta d ∧ (status = fpcResultFingerPresent → d.present = true) := by
  induction retries generalizing timeCurrentUs last with
  | zero =>
    refine .ret fun d hd => ⟨hd.between, fun hstatus => ?_⟩
    exact hlast.elim (fun h => absurd hstatus h) fun h => absurd h.1 (Nat.lt_irrefl 0)
  | succ retries ih =>
    refine .ite (fun _ => ?_) fun htime => .ret fun d hd => ⟨hd.between, fun hstatus => ?_⟩
    · refine Watched.bind (Q := fun counted d => Polling irq image captures ta zones retries d ∧
        d.present = decide (0 ≤ counted.1 ∧ zones ≤ counted.2)) (.ask ?_) fun counted => ?_
      · rintro d ⟨status, count⟩ ⟨hbetween, hlimit, hpolls⟩
        refine ⟨_, if_pos ⟨hbetween.started, by omega⟩, ⟨⟨hbetween.started, hbetween.irq, hbetween.image,
          hbetween.captures, hbetween.pixels, hbetween.uptime⟩, hlimit, by simp; omega⟩, ?_⟩
        simp [hlimit]
      refine .ite (fun hfailed => .ret fun d hd => ⟨hd.1.between, fun hstatus => ?_⟩) fun hcounted => ?_
      · rw [hstatus] at hfailed
        exact absurd hfailed (by decide)
      refine .ite (fun hzones => .ret fun d hd => ⟨hd.1.between, fun _ => ?_⟩) fun _ => ?_
      · rw [hd.2]
        exact decide_eq_true ⟨not_lt.mp hcounted, hzones⟩
      refine Watched.bind (Q := fun _ => Polling irq image captures ta zones retries)
        ((device_silent fun _ _ _ => rfl).mono (fun d hd => hd.1) fun _ _ => id) fun now => ih (.inl ?_)
      split
      · decide
      · decide
    · refine hlast.elim (fun h => absurd hstatus h) fun h => absurd ?_ htime
      rw [h.2, UInt64.sub_self]
      decide

theorem fpcTaPollQualify_watched :
    Watched deviceMonitor (fun d => Between true irq image captures ta d ∧ d.polls = 0) fpcTaPollQualify
      fun status d => Between true irq image captures ta d ∧
        (status = fpcResultFingerPresent → d.present = true) := by
  refine Watched.bind (Q := fun limit d => Between true irq image captures ta d ∧ d.polls = 0 ∧
    (0 ≤ limit.1 → d.limit = some limit.2)) (.ask ?_) fun limit => ?_
  · rintro d ⟨status, zones⟩ ⟨hbetween, hpolls⟩
    exact ⟨_, if_pos hbetween.started, ⟨hbetween.started, hbetween.irq, hbetween.image, hbetween.captures,
      hbetween.pixels, hbetween.uptime⟩, hpolls, fun h => if_pos h⟩
  refine .ite (fun hfailed => .ret fun d hd => ⟨hd.1, fun hstatus => ?_⟩) fun hlimit => ?_
  · rw [hstatus] at hfailed
    exact absurd hfailed (by decide)
  refine Watched.bind (device_silent fun _ _ _ => rfl) fun timeStartUs => ?_
  refine (pollRounds_watched maxRetries (.inr ⟨by decide, rfl⟩)).mono ?_ fun _ _ => id
  rintro d ⟨hbetween, hpolls, hzones⟩
  exact ⟨hbetween, hzones (not_lt.mp hlimit), by omega⟩

/-! ### The capture -/

theorem fpcTaCaptureImage_watched :
    Watched deviceMonitor (fun d => Between true true image captures ta d ∧ d.present = true)
      (fpcTaCaptureImage ta) fun r => Between true true (r.1 = 0) (captures + 1) r.2.2 := by
  refine Watched.bind (Q := fun uptime d => Between true true image captures
    { ta with imageTimestamp := uptime } d ∧ d.present = true) (.ask ?_) fun uptime => ?_
  · rintro d uptime ⟨hbetween, hpresent⟩
    exact ⟨_, rfl, ⟨hbetween.started, hbetween.irq, hbetween.image, hbetween.captures, hbetween.pixels, rfl⟩,
      hpresent⟩
  refine Watched.bind (Q := fun captured => Between true true (captured.1 = fpcResultOk) (captures + 1)
    { ta with imageTimestamp := uptime }) (.ask ?_) fun captured => .ret fun d hd => ?_
  · rintro d ⟨status, cac⟩ ⟨hbetween, hpresent⟩
    exact ⟨_, if_pos ⟨hbetween.started, hpresent, hbetween.irq rfl⟩, hbetween.started, hbetween.irq, id,
      Nat.succ_le_succ hbetween.captures, hbetween.pixels, hbetween.uptime⟩
  · refine hd.mono id (fun hzero => ?_) le_rfl
    by_cases hok : captured.1 = fpcResultOk
    · exact decide_eq_true hok
    · -- the other statuses of the library become errors, or the loss of the finger
      simp only [if_neg hok, decide_eq_true_eq] at hzero
      split at hzero
      · cases hzero
      · split at hzero
        · cases hzero
        · cases hzero

theorem captureQualified_watched {status : Int} :
    Watched deviceMonitor (fun d => Between true true image captures ta d ∧
        (status = fpcResultFingerPresent → d.present = true))
      (captureQualified ta status) fun r => Between true true (r.1 = 0) (captures + 1) r.2.2 := by
  refine .ite (fun hpresent => ?_) fun _ => ?_
  · exact fpcTaCaptureImage_watched.mono (fun d hd => ⟨hd.1, hd.2 hpresent⟩) fun _ _ => id
  have hfailed : ∀ response : Int, response ≠ 0 → Watched deviceMonitor
      (fun d => Between true true image captures ta d ∧ (status = fpcResultFingerPresent → d.present = true))
      (.ret (response, (0 : Int32), ta)) fun r => Between true true (r.1 = 0) (captures + 1) r.2.2 := by
    intro response hne
    refine .ret fun d hd => hd.1.mono id (fun h => ?_) (Nat.le_succ _)
    exact absurd (of_decide_eq_true h) hne
  refine .ite (fun _ => hfailed _ (by decide)) fun _ => ?_
  exact .ite (fun _ => hfailed _ (by decide)) fun _ => hfailed _ (by decide)

theorem fpcTaQualifyCapture_watched :
    Watched deviceMonitor (fun d => Between true true image captures ta d ∧ d.polls = 0)
      (fpcTaQualifyCapture ta) fun r => Between true true (r.1 = 0) (captures + 1) r.2.2 := by
  refine Watched.bind (Q := fun status d => Between true true image captures ta d ∧ d.polls = 0 ∧
    (status = fpcResultFingerPresent → d.present = true)) (.ask ?_) fun status => ?_
  · rintro d status ⟨hbetween, hpolls⟩
    exact ⟨_, if_pos hbetween.started, ⟨hbetween.started, hbetween.irq, hbetween.image, hbetween.captures,
      hbetween.pixels, hbetween.uptime⟩, hpolls, fun h => decide_eq_true h⟩
  refine .ite (fun _ => ?_) fun _ => ?_
  · refine Watched.bind (fpcTaPollQualify_watched.mono (fun d hd => ⟨hd.1, hd.2.1⟩) fun _ _ => id) fun _ => ?_
    exact captureQualified_watched
  · exact captureQualified_watched.mono (fun d hd => ⟨hd.1, hd.2.2⟩) fun _ _ => id

/-! ### The other commands -/

/-- The command waits for another interrupt. -/
def setsUp : Option TaSensorCmd → Bool
  | some .fingerLostWakeupSetup | some .wakeupSetup => true
  | _ => false

/-- A call of the library, while the communication is open, that leaves the image as it is. -/
theorem device_kept {call : DeviceCall} {P : DeviceKnown → Prop}
    (hcall : ∀ (d : DeviceKnown) (answer : DeviceAnswer call), d.started = true →
      d.device call answer = some d)
    (hopen : ∀ d, P d → d.started = true) : Watched deviceMonitor P (device call) fun _ => P :=
  device_silent fun d answer hd => hcall d answer (hopen d hd)

theorem fpcTaCheckFingerLost_watched :
    Watched deviceMonitor (Between true irq image captures ta) (fpcTaCheckFingerLost build ta)
      fun r => Between true irq image captures r.2 := by
  refine Watched.bind (device_kept (fun d _ h => if_pos h) fun d hd => hd.started) fun status => ?_
  refine .ite (fun _ => ?_) fun _ => ?_
  · have hbefore : ∀ d, Between true irq image captures ta d → Between true irq image captures
        (if build.fpc1280 then { ta with checkForBadPixels := false } else ta) d := by
      intro d hd
      split
      · exact ⟨hd.started, hd.irq, hd.image, hd.captures, fun h => (by cases h), hd.uptime⟩
      · exact hd
    refine Watched.mono (P := Between true irq image captures
      (if build.fpc1280 then { ta with checkForBadPixels := false } else ta)) ?_ hbefore fun _ _ => id
    generalize (if build.fpc1280 then { ta with checkForBadPixels := false } else ta) = ta'
    refine .ite (fun hcheck => ?_) fun _ => .ret fun _ => id
    refine Watched.bind (Q := fun updated => Between true irq image captures
      (if 0 ≤ updated then { ta' with checkForBadPixels := false } else ta')) (.ask ?_)
      fun _ => .ret fun _ => id
    intro d updated hd
    refine ⟨_, if_pos ⟨hd.started, hd.pixels hcheck⟩, ?_⟩
    split
    · exact ⟨hd.started, hd.irq, hd.image, hd.captures, fun h => (by cases h), hd.uptime⟩
    · next hfailed =>
      exact ⟨hd.started, hd.irq, hd.image, hd.captures, fun _ => decide_eq_false hfailed, hd.uptime⟩
  · refine .ite (fun _ => .ret fun _ => id) fun _ => ?_
    exact .ite (fun _ => .ret fun _ => id) fun _ => .ret fun _ => id

/-- A setup of the wakeup. -/
theorem setup_watched {call : DeviceCall}
    (hcall : ∀ (d : DeviceKnown) (answer : DeviceAnswer call), d.started = true →
      d.device call answer = some { d with irq := false }) :
    Watched deviceMonitor (Between true irq image captures ta) (device call)
      fun _ => Between true false image captures ta := by
  refine .ask fun d answer hd => ⟨_, hcall d answer hd.started, hd.started, fun h => absurd h (by decide),
    hd.image, hd.captures, hd.pixels, hd.uptime⟩

theorem runCommand_watched {cmd : Option TaSensorCmd} (hcmd : cmd ≠ some .captureImage) :
    Watched deviceMonitor (Between true irq image captures ta) (runCommand build ta cmd)
      fun r => Between true (irq && !setsUp cmd) image captures r.2 := by
  have hkept : ∀ {ta' : SensorTa} {d}, Between true irq image captures ta' d →
      Between true (irq && !false) image captures ta' d :=
    fun h => h.mono (fun h => by simpa using h) id le_rfl
  have hdevice : ∀ call : DeviceCall,
      (∀ (d : DeviceKnown) (answer : DeviceAnswer call), d.started = true →
        d.device call answer = some d) →
      Watched deviceMonitor (Between true irq image captures ta) (device call)
        fun _ => Between true irq image captures ta :=
    fun call hcall => device_kept hcall fun d hd => hd.started
  cases cmd with
  | none => exact .ret fun _ => hkept
  | some cmd =>
    cases cmd with
    | captureImage => exact absurd rfl hcmd
    | checkFingerLost => exact Watched.bind fpcTaCheckFingerLost_watched fun _ => .ret fun _ => hkept
    | fingerLostWakeupSetup =>
      refine Watched.bind (Q := fun _ => Between true false image captures ta) ?_ fun _ =>
        .ret fun d hd => hd.mono (by simp [setsUp]) id le_rfl
      exact Watched.bind (setup_watched fun d _ h => if_pos h) fun _ => .ret fun _ => id
    | wakeupSetup =>
      refine Watched.bind (Q := fun _ => Between true false image captures ta) ?_ fun _ =>
        .ret fun d hd => hd.mono (by simp [setsUp]) id le_rfl
      exact Watched.bind (setup_watched fun d _ h => if_pos h) fun _ => .ret fun _ => id
    | deepSleep =>
      exact Watched.bind (Watched.bind (hdevice _ fun d _ h => if_pos h) fun _ => .ret fun _ => id)
        fun _ => .ret fun _ => hkept
    | isOtpSupported => exact Watched.bind (hdevice _ fun d _ h => if_pos h) fun _ => .ret fun _ => hkept
    | getOtpInfo => exact Watched.bind (hdevice _ fun d _ h => if_pos h) fun _ => .ret fun _ => hkept
    | earlyStopCtrl =>
      refine .ite (fun _ => ?_) fun _ => .ret fun _ => hkept
      exact Watched.bind (hdevice _ fun d _ h => if_pos h) fun _ => .ret fun _ => hkept
    | isSensorForceSupported =>
      exact Watched.bind (hdevice _ fun d _ h => if_pos h) fun _ => .ret fun _ => hkept
    | getForceValue =>
      refine Watched.bind (Q := fun _ => Between true irq image captures ta) ?_ fun _ => .ret fun _ => hkept
      refine Watched.bind (hdevice _ fun d _ h => if_pos h) fun _ => ?_
      refine .ite (fun _ => ?_) fun _ => .ret fun _ => id
      exact Watched.bind (hdevice _ fun d _ h => if_pos h) fun _ => .ret fun _ => id

/-! ### The handler -/

/-- The communication is opened for a command and closed behind it. -/
theorem handler_watched {cmd : Option TaSensorCmd} {Q : SensorReply × SensorTa → DeviceKnown → Prop}
    (hfailed : ∀ d, Between false irq image captures ta d →
      Q (⟨-fpcErrorResetHardware, none, none, none⟩, ta) d)
    (hrun : Watched deviceMonitor (fun d => Between true irq image captures ta d ∧ d.polls = 0)
      (runCommand build ta cmd) fun r d => d.started = true ∧ ∀ stopped : Int,
        Q (if stopped < 0 then { r.1 with ret := -fpcErrorResetHardware } else r.1, r.2)
          { d with started := false, present := false }) :
    Watched deviceMonitor (Between false irq image captures ta) (fpcTaSensorCommandHandler build cmd ta) Q := by
  refine Watched.bind (Q := fun started d => Between (0 ≤ started) irq image captures ta d ∧ d.polls = 0)
    (.ask ?_) fun started => ?_
  · intro d started hd
    exact ⟨_, if_neg (by rw [hd.started]; decide),
      ⟨rfl, hd.irq, hd.image, hd.captures, hd.pixels, hd.uptime⟩, rfl⟩
  refine .ite (fun hneg => .ret fun d hd => hfailed d ?_) fun hstarted => ?_
  · rw [decide_eq_false (not_le.mpr hneg)] at hd
    exact hd.1
  rw [decide_eq_true (not_lt.mp hstarted)]
  refine Watched.bind hrun fun r => ?_
  refine Watched.bind (Q := fun stopped d => Q (if stopped < 0 then { r.1 with ret := -fpcErrorResetHardware }
    else r.1, r.2) d) (.ask ?_) fun stopped => .ret fun _ => id
  rintro d stopped ⟨hopen, hQ⟩
  exact ⟨_, if_pos hopen, hQ stopped⟩

theorem Between.closed (h : Between true irq image captures ta d) :
    Between false irq image captures ta { d with started := false, present := false } :=
  ⟨rfl, h.irq, h.image, h.captures, h.pixels, h.uptime⟩

/-- **A command other than that for an image** leaves the images as they are, and the interrupt unless it
sets another one up. -/
theorem fpcTaSensorCommandHandler_watched {cmd : Option TaSensorCmd} (hcmd : cmd ≠ some .captureImage) :
    Watched deviceMonitor (Between false irq image captures ta) (fpcTaSensorCommandHandler build cmd ta)
      fun r => Between false (irq && !setsUp cmd) image captures r.2 := by
  refine handler_watched (fun d hd => hd.mono (fun h => ?_) id le_rfl) ?_
  · rw [Bool.and_eq_true] at h
    exact h.1
  · refine ((runCommand_watched hcmd).mono (fun d hd => hd.1) fun r d hd => ⟨hd.started, fun _ => hd.closed⟩)

/-- **The command for an image**, behind an interrupt: it captures at most one, and one that comes back as
captured is there. -/
theorem captureHandler_watched :
    Watched deviceMonitor (Between false true image captures ta)
      (fpcTaSensorCommandHandler build (some .captureImage) ta) fun r d =>
        Between false true (r.1.ret = 0 ∧ r.1.response = some 0) (captures + 1) r.2 d ∧
          (r.1.ret = -fpcErrorResetHardware ∨ r.1.ret = 0 ∧ r.1.response.isSome) := by
  refine handler_watched (fun d hd => ⟨hd.mono id (fun h => ?_) (Nat.le_succ _), .inl rfl⟩) ?_
  · exact absurd (of_decide_eq_true h).1 (show -fpcErrorResetHardware ≠ 0 by decide)
  · refine Watched.bind fpcTaQualifyCapture_watched fun r => .ret fun d hd => ⟨hd.started, fun stopped => ?_⟩
    by_cases hstopped : stopped < 0
    · rw [if_pos hstopped]
      refine ⟨hd.closed.mono id (fun h => ?_) le_rfl, .inl rfl⟩
      exact absurd (of_decide_eq_true h).1 (show -fpcErrorResetHardware ≠ 0 by decide)
    · rw [if_neg hstopped]
      refine ⟨hd.closed.mono id (fun h => ?_) le_rfl, .inr ⟨rfl, rfl⟩⟩
      exact decide_eq_true (Option.some.inj (of_decide_eq_true h).2)

end

end Fpc.TaSensor
