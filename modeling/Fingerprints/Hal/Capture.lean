import Fingerprints.Hal.Device
import Fingerprints.Runs.Monitor

/-!
# Captures of the sensor

`fpc_tee_sensor.c` and `fpc_irq_device.c`: how the client library waits for a finger and captures it. A
function is a script of the calls that leave it: transfers to the trusted application, the calls of the
kernel on the interrupt node and the pipe that cancels a wait, the flag under `sensor->mutex` and the
clock. Calls of another kind, that the callers make, are a parameter.

`sensor` and its fields are set where these functions are called. What goes to the log is left out, and
`cac_result`, which only the log of the KPI shows.

* **`sensorCommand_watched`**: a command is tried again only after a reset of the hardware, and at most
  `MAX_TRANSFER_RETRIES` times;
* **`fpcTeeCaptureImage_watched`**: an image is asked for only behind an interrupt, the interrupt node is
  closed as often as it is opened, and however the capture ends the wakeup is disabled, and the sensor
  sent to sleep exactly where no image is there.
-/

namespace Fpc.Capture

open Runs Script

/-! ## Calls -/

/-- `fpc_ta_sensor_cmd_t`, the commands that these functions send. -/
inductive SensorCmd
  | checkFingerLost
  | fingerLostWakeupSetup
  | wakeupSetup
  | captureImage
  | deepSleep
  | getForceValue
  deriving DecidableEq, Repr

/-- `struct timespec` -/
structure Timespec where
  sec : Int
  nsec : Int

/-- What `fpc_tac_transfer` returns, with the response and the value that are in the buffer then. -/
structure Transferred where
  status : Int
  response : Int
  value : UInt8
  deriving DecidableEq, Repr

/-- What a read of the interrupt node returns, and the character. -/
structure IrqRead where
  size : Int
  value : UInt8
  deriving DecidableEq, Repr

/-- How `poll` on the interrupt node and the pipe returns: with -1, with the pipe readable, or with the
interrupt alone. -/
inductive PollResult
  | failed
  | cancelled
  | irq
  deriving DecidableEq, Repr

/-- The calls, with those of other kinds. -/
inductive Call (O : Type)
  | transfer (cmd : SensorCmd)
  | getErrorLog
  | resetSpi
  | resetSensor
  | usleep (ms : Nat)
  | openIrq
  | readIrq
  | closeIrq
  | poll
  | acknowledge
  | wakeup (enable : Bool)
  | cancelled
  | clock
  | other (o : O)
  deriving DecidableEq, Repr

/-- What a call answers. -/
abbrev Answer {O : Type} (B : O → Type) : Call O → Type
  | .transfer _ => Transferred
  | .getErrorLog => Int
  | .resetSpi => Int
  | .resetSensor => Int
  | .usleep _ => Unit
  | .openIrq => Bool
  | .readIrq => IrqRead
  | .closeIrq => Unit
  | .poll => PollResult
  | .acknowledge => Bool
  | .wakeup _ => Bool
  | .cancelled => Bool
  | .clock => Timespec
  | .other o => B o

/-- What the functions are built with: `FPC_CONFIG_FINGER_LOST_INTERRUPT`,
`FPC_CONFIG_NORMAL_SPI_RESET` and `FPC_CONFIG_NORMAL_SENSOR_RESET`. -/
structure SensorBuild where
  fingerLostInterrupt : Bool
  spiReset : Bool
  sensorReset : Bool
  deriving DecidableEq, Repr

section

variable {O : Type} {B : O → Type}

def transfer (cmd : SensorCmd) : Script (Answer B) Transferred := ask (Call.transfer cmd)
def getErrorLog : Script (Answer B) Int := ask Call.getErrorLog
def resetSpi : Script (Answer B) Int := ask Call.resetSpi
def resetSensor : Script (Answer B) Int := ask Call.resetSensor
def usleep (ms : Nat) : Script (Answer B) Unit := ask (Call.usleep ms)
def openIrq : Script (Answer B) Bool := ask Call.openIrq
def readIrq : Script (Answer B) IrqRead := ask Call.readIrq
def closeIrq : Script (Answer B) Unit := ask Call.closeIrq
def poll : Script (Answer B) PollResult := ask Call.poll
def acknowledge : Script (Answer B) Bool := ask Call.acknowledge
def clock : Script (Answer B) Timespec := ask Call.clock

/-- `fpc_sysfs_node_write`, with what it returns. -/
def nodeWritten (written : Bool) : Int := if written then 0 else -fpcErrorIo

/-- `fpc_irq_wakeup_enable` and `fpc_irq_wakeup_disable` -/
def wakeup (enable : Bool) : Script (Answer B) Int := do
  let written ← ask (Call.wakeup enable)
  .ret (nodeWritten written)

def fpcTeeSensorCancelled : Script (Answer B) Bool := ask Call.cancelled

/-! ## Commands -/

def fpcErrorHardware : Int := 9

def maxTransferRetries : Nat := 2
def transferRetrySleepIncMs : Nat := 10
def transferRetryMaxSleepTime : Nat := 500

variable (build : SensorBuild)

/-- The resets that are built in. Their results are logged. -/
def resetHardware : Script (Answer B) Unit := do
  when build.spiReset resetSpi
  when build.sensorReset resetSensor

def nextSleepTime (sleepTime : Nat) : Nat :=
  if sleepTime ≥ transferRetryMaxSleepTime then transferRetryMaxSleepTime
  else sleepTime + transferRetrySleepIncMs

/-- The loop of `sensor_transfer` with the rounds that are left: its status, and the response in the
buffer. -/
def transferRounds (cmd : SensorCmd) : Nat → (sleepTime : Nat) → (last : Int × Int) →
    Script (Answer B) (Int × Int)
  | 0, _, last => .ret last
  | rounds + 1, sleepTime, _ => do
      let sent ← transfer cmd
      if sent.status ≠ 0 then .ret (sent.status, sent.response)
      else do
        when (sent.response < 0) getErrorLog
        if sent.response ≠ -fpcErrorResetHardware then .ret (0, sent.response)
        else do
          resetHardware build
          usleep (nextSleepTime sleepTime)
          transferRounds cmd rounds (nextSleepTime sleepTime) (-fpcErrorHardware, sent.response)

/-- `sensor_transfer` -/
def sensorTransfer (cmd : SensorCmd) : Script (Answer B) (Int × Int) :=
  transferRounds build cmd maxTransferRetries 0 (-1, 0)

/-- `sensor_command` -/
def sensorCommand (cmd : SensorCmd) : Script (Answer B) Int := do
  let sent ← sensorTransfer build cmd
  if sent.1 ≠ 0 then .ret sent.1 else .ret sent.2

/-! ## Waits -/

/-- The character `'0'`. -/
def charZero : Int := 48

/-- The label `out` of `fpc_irq_wait`, behind an interrupt node that was opened. -/
def closeWith (status : Int) : Script (Answer B) (Unit ⊕ Int) := do
  closeIrq
  leave status

/-- `fpc_irq_wait` -/
def fpcIrqWait (irqValue : Int) : Script (Answer B) Int :=
  iter (fun _ => do
    let opened ← openIrq
    if !opened then leave (-fpcErrorIo)
    else do
      let read ← readIrq
      if read.size < 0 then closeWith (-fpcErrorIo)
      else if read.size = 0 then closeWith (-fpcErrorIo)
      else if (read.value.toNat : Int) - charZero = irqValue then closeWith 0
      else do
        let polled ← poll
        let _ ← acknowledge
        match polled with
        | .failed => closeWith (-fpcErrorIo)
        | .cancelled => closeWith (-fpcErrorCancelled)
        | .irq => do
            closeIrq
            again ()) ()

def maxFingerLostCheckTimeMs : Int := 2000
def checkFingerUpSleepTimeMs : Nat := 20

/-- `fpc_get_ms_diff` -/
def fpcGetMsDiff (start stop : Timespec) : Int :=
  let secDiff := stop.sec - start.sec
  let msDiff := (stop.nsec - start.nsec).tdiv 1000000
  if secDiff > 0 then msDiff + 1000 * secDiff else msDiff

/-- `fpc_tee_wait_finger_lost` where the loss of a finger raises no interrupt. -/
def pollFingerLost : Script (Answer B) Int := do
  let start ← clock
  iter (fun _ => do
    let cancelled ← fpcTeeSensorCancelled
    if cancelled then leave (-fpcErrorCancelled)
    else do
      let status ← sensorCommand build .checkFingerLost
      if status > 0 then leave 0
      else if status < 0 then leave status
      else do
        let now ← clock
        if fpcGetMsDiff start now < maxFingerLostCheckTimeMs then do
          usleep checkFingerUpSleepTimeMs
          again ()
        else leave fpcCaptureFingerStuck) ()

/-- `fpc_tee_wait_finger_lost` -/
def fpcTeeWaitFingerLost : Script (Answer B) Int :=
  if build.fingerLostInterrupt then do
    let status ← sensorCommand build .fingerLostWakeupSetup
    if status ≠ 0 then .ret status
    else do
      let status ← fpcIrqWait 1
      let _ ← sensorCommand build .checkFingerLost
      .ret status
  else pollFingerLost build

/-- `fpc_tee_wait_finger_down` -/
def fpcTeeWaitFingerDown : Script (Answer B) Int := do
  let status ← sensorCommand build .wakeupSetup
  if status ≠ 0 then .ret status else fpcIrqWait 1

/-- `fpc_tee_wait_for_button_down_force`. What the loop keeps is the force and the time that passed. -/
def fpcTeeWaitForButtonDownForce (timeoutMs : UInt32) (threshold : UInt8) : Script (Answer B) Int := do
  let start ← clock
  iter (fun (kept : UInt8 × UInt32) =>
    if kept.1 ≤ threshold ∧ kept.2 < timeoutMs then do
      let sent ← transfer .getForceValue
      if sent.status ≠ 0 then leave sent.status
      else do
        let status ← sensorCommand build .checkFingerLost
        if status < 0 then leave status
        else if status > 0 then leave fpcCaptureFingerLost
        else do
          let cancelled ← fpcTeeSensorCancelled
          if cancelled then leave (-fpcErrorCancelled)
          else do
            let now ← clock
            again (sent.value, UInt32.ofInt (fpcGetMsDiff start now))
    else if kept.2 ≥ timeoutMs then leave (-fpcErrorTimedout)
    else leave 0) (0, 0)

/-- `fpc_tee_wait_for_button_up_force`. It does not look for the finger. -/
def fpcTeeWaitForButtonUpForce (timeoutMs : UInt32) (threshold : UInt8) : Script (Answer B) Int := do
  let start ← clock
  iter (fun (kept : UInt8 × UInt32) =>
    if threshold ≤ kept.1 ∧ kept.2 < timeoutMs then do
      let sent ← transfer .getForceValue
      if sent.status ≠ 0 then leave sent.status
      else do
        let cancelled ← fpcTeeSensorCancelled
        if cancelled then leave (-fpcErrorCancelled)
        else do
          let now ← clock
          again (sent.value, UInt32.ofInt (fpcGetMsDiff start now))
    else if kept.2 ≥ timeoutMs then leave (-fpcErrorTimedout)
    else leave 0) (255, 0)

/-! ## The capture -/

def maxQualifyCaptureRetries : Nat := 4

/-- The loop of `fpc_tee_capture_image` with the rounds that are left, and what comes behind it where a
finger was lost in each of them. -/
def captureRounds : Nat → Script (Answer B) Int
  | 0 => .ret fpcCaptureQualifyAbort
  | rounds + 1 => do
      let status ← fpcTeeWaitFingerDown build
      if status ≠ 0 then .ret status
      else do
        let status ← sensorCommand build .captureImage
        if status ≠ fpcCaptureFingerLost then .ret status else captureRounds rounds

/-- `fpc_tee_capture_image` up to the label `out`. -/
def captureQualified : Script (Answer B) Int := do
  let status ← wakeup true
  if status ≠ 0 then .ret status
  else do
    let status ← fpcTeeWaitFingerLost build
    if status ≠ 0 then .ret status else captureRounds build maxQualifyCaptureRetries

/-- `fpc_tee_capture_image` -/
def fpcTeeCaptureImage : Script (Answer B) Int := do
  let status ← captureQualified build
  let _ ← wakeup false
  if status ≠ 0 then do
    let _ ← sensorCommand build .deepSleep
    .ret status
  else .ret status

end

/-! ## What captures do to the sensor -/

/-- What is known of the interrupt node and the sensor: whether the wakeup is enabled and the node is
open, whether the pin was read high since the wakeup was set up and no image came since, how often an
image was asked for, and whether the last command brought one or sent the sensor to sleep. -/
structure Known where
  wakeup : Bool
  opened : Bool
  armed : Bool
  asked : Nat
  image : Bool
  slept : Bool
  deriving DecidableEq, Repr

/-- The pin is high. -/
def IrqRead.high (read : IrqRead) : Bool := 0 < read.size ∧ (read.value.toNat : Int) - charZero = 1

/-- The hardware has to be reset before the command is tried again. -/
def Transferred.resets (sent : Transferred) : Bool :=
  sent.status = 0 ∧ sent.response = -fpcErrorResetHardware

/-- The command was executed and answered 0. -/
def Transferred.done (sent : Transferred) : Bool := sent.status = 0 ∧ sent.response = 0

/-- What is known behind a command. An image is asked for behind an interrupt only. -/
def Known.sent (k : Known) (sent : Transferred) : SensorCmd → Option Known
  | .captureImage =>
      if k.wakeup && k.armed then
        some { k with armed := sent.resets, asked := k.asked + 1, image := sent.done, slept := false }
      else none
  | .deepSleep => some { k with image := false, slept := true }
  | .wakeupSetup | .fingerLostWakeupSetup =>
      some { k with armed := false, image := false, slept := false }
  | .checkFingerLost | .getForceValue => some { k with image := false, slept := false }

/-- What is known behind a call. The node is read, waited for and closed while it is open, and opened
while it is not. -/
def Known.step {O : Type} {B : O → Type} (k : Known) : Sigma (Answer B) → Option Known
  | ⟨.transfer cmd, sent⟩ => k.sent sent cmd
  | ⟨.openIrq, opened⟩ => if k.opened then none else some { k with opened := opened }
  | ⟨.readIrq, read⟩ => if k.opened then some { k with armed := read.high } else none
  | ⟨.poll, _⟩ => if k.opened then some k else none
  | ⟨.closeIrq, _⟩ => if k.opened then some { k with opened := false } else none
  | ⟨.wakeup enable, _⟩ => some { k with wakeup := enable }
  | _ => some k

/-- The monitor of the sensor. -/
def sensorMonitor {O : Type} (B : O → Type) : Monitor Known (Sigma (Answer B)) := ⟨Known.step⟩

/-- The interrupt node is closed, and so much is known of the rest. -/
structure Known.Closed (k : Known) (wakeup : Bool) (asked : Nat) : Prop where
  opened : k.opened = false
  wakeup : k.wakeup = wakeup
  asked : k.asked ≤ asked

theorem Known.Closed.mono {k : Known} {wakeup : Bool} {asked asked' : Nat} (h : k.Closed wakeup asked)
    (hle : asked ≤ asked') : k.Closed wakeup asked' := ⟨h.opened, h.wakeup, h.asked.trans hle⟩

section

variable {O : Type} {B : O → Type} {build : SensorBuild} {w : Bool} {n : Nat} {P : Known → Prop}

/-- A call that nothing is learned from. -/
theorem watched_silent {e : Call O} (h : ∀ (k : Known) (answer : Answer B e), k.step ⟨e, answer⟩ = some k) :
    Watched (sensorMonitor B) P (ask e) fun _ => P :=
  .ask fun k answer hk => ⟨k, h k answer, hk⟩

theorem resetHardware_watched :
    Watched (sensorMonitor B) P (resetHardware build) fun _ => P := by
  refine Watched.bind (Q := fun _ => P) (.when (watched_silent ?_)) ?_
  · intro k answer
    rfl
  · intro _
    refine .when (watched_silent ?_)
    intro k answer
    rfl

/-- What `sensor_command` returns. -/
def commandResult (sent : Int × Int) : Int := if sent.1 ≠ 0 then sent.1 else sent.2

/-- Induction on the rounds. `J` is what is known before a round, by those that are left. -/
theorem transferRounds_watched {cmd : SensorCmd} {J : Nat → Known → Prop} {Q : Int → Known → Prop}
    (hsent : ∀ rounds k (sent : Transferred), J (rounds + 1) k → ∃ k', k.sent sent cmd = some k' ∧
      (sent.resets = true → J rounds k') ∧
      (sent.resets = false → Q (commandResult (sent.status, sent.response)) k'))
    (hlast : ∀ k, J 0 k → Q (-fpcErrorHardware) k) (rounds sleepTime : Nat) (last : Int × Int)
    (hrounds : rounds = 0 → commandResult last = -fpcErrorHardware) :
    Watched (sensorMonitor B) (J rounds) (transferRounds build cmd rounds sleepTime last)
      fun sent => Q (commandResult sent) := by
  induction rounds generalizing sleepTime last with
  | zero =>
    refine .ret fun k hk => ?_
    rw [hrounds rfl]
    exact hlast k hk
  | succ rounds ih =>
    rw [transferRounds, bind_eq]
    refine Watched.bind (Q := fun sent k => (sent.resets = true → J rounds k) ∧
      (sent.resets = false → Q (commandResult (sent.status, sent.response)) k)) (.ask ?_) ?_
    · intro k sent hk
      exact hsent rounds k sent hk
    · intro sent
      refine .ite (fun hfailed => .ret fun k hk => hk.2 (by simp [Transferred.resets, hfailed])) ?_
      intro hok
      rw [not_not] at hok
      refine Watched.bind (.when (watched_silent fun _ _ => rfl)) fun _ => ?_
      refine .ite (fun hanswered => .ret fun k hk => ?_) ?_
      · rw [← hok]
        exact hk.2 (by simp [Transferred.resets, hanswered])
      · intro hresets
        rw [not_not] at hresets
        refine Watched.bind resetHardware_watched fun _ => ?_
        refine Watched.bind (watched_silent fun _ _ => rfl) fun _ => ?_
        refine (ih _ _ fun _ => rfl).mono (fun k hk => hk.1 ?_) fun _ _ => id
        simp [Transferred.resets, hok, hresets]

/-- A command is tried at most `MAX_TRANSFER_RETRIES` times. -/
theorem sensorCommand_of_rounds {cmd : SensorCmd} {J : Nat → Known → Prop} {Q : Int → Known → Prop}
    (hsent : ∀ rounds k (sent : Transferred), J (rounds + 1) k → ∃ k', k.sent sent cmd = some k' ∧
      (sent.resets = true → J rounds k') ∧
      (sent.resets = false → Q (commandResult (sent.status, sent.response)) k'))
    (hlast : ∀ k, J 0 k → Q (-fpcErrorHardware) k) :
    Watched (sensorMonitor B) (J maxTransferRetries) (sensorCommand build cmd) Q := by
  refine Watched.bind (transferRounds_watched hsent hlast _ _ _ (by decide)) fun sent => ?_
  refine .ite (fun h => .ret fun k hk => ?_) fun h => .ret fun k hk => ?_
  · rwa [commandResult, if_pos h] at hk
  · rwa [commandResult, if_neg h] at hk

/-- A command other than that for an image. -/
theorem sensorCommand_watched {cmd : SensorCmd} (hcmd : cmd ≠ .captureImage) :
    Watched (sensorMonitor B) (fun k => k.Closed w n) (sensorCommand build cmd)
      fun _ k => k.Closed w n := by
  refine sensorCommand_of_rounds (J := fun _ k => k.Closed w n) ?_ fun _ => id
  intro rounds k sent hk
  cases cmd with
  | captureImage => exact absurd rfl hcmd
  | deepSleep | wakeupSetup | fingerLostWakeupSetup | checkFingerLost | getForceValue =>
    exact ⟨_, rfl, fun _ => ⟨hk.opened, hk.wakeup, hk.asked⟩, fun _ => ⟨hk.opened, hk.wakeup, hk.asked⟩⟩

theorem deepSleep_watched :
    Watched (sensorMonitor B) (fun k => k.Closed w n) (sensorCommand build .deepSleep)
      fun _ k => k.Closed w n ∧ k.image = false ∧ k.slept = true := by
  refine (sensorCommand_of_rounds (J := fun rounds k => k.Closed w n ∧
    (rounds < maxTransferRetries → k.image = false ∧ k.slept = true)) ?_ ?_).mono
    (fun k hk => ⟨hk, fun h => absurd h (Nat.lt_irrefl _)⟩) fun _ _ => id
  · intro rounds k sent hk
    have hclosed : k.Closed w n := hk.1
    exact ⟨_, rfl, fun _ => ⟨⟨hclosed.opened, hclosed.wakeup, hclosed.asked⟩, fun _ => ⟨rfl, rfl⟩⟩,
      fun _ => ⟨⟨hclosed.opened, hclosed.wakeup, hclosed.asked⟩, rfl, rfl⟩⟩
  · intro k hk
    exact ⟨hk.1, hk.2 (by decide)⟩

/-- The command for an image, behind an interrupt. -/
theorem captureCommand_watched :
    Watched (sensorMonitor B) (fun k => k.Closed true n ∧ k.armed = true)
      (sensorCommand build .captureImage)
      fun status k => k.Closed true (n + maxTransferRetries) ∧
        (status = 0 → k.image = true ∧ k.slept = false) := by
  refine (sensorCommand_of_rounds (J := fun rounds k => k.Closed true (n + (maxTransferRetries - rounds)) ∧
    k.armed = true ∧ rounds ≤ maxTransferRetries) ?_ ?_).mono
    (fun k hk => ⟨by simpa using hk.1, hk.2, le_rfl⟩) fun _ _ => id
  · rintro rounds k sent ⟨hclosed, harmed, hle⟩
    have hasked : k.asked + 1 ≤ n + (maxTransferRetries - rounds) := by
      have h := hclosed.asked
      omega
    refine ⟨_, by rw [Known.sent, hclosed.wakeup, harmed]; rfl, ?_, ?_⟩
    · intro hresets
      exact ⟨⟨hclosed.opened, rfl, hasked⟩, hresets, by omega⟩
    · intro _
      refine ⟨⟨hclosed.opened, rfl, hasked.trans (by omega)⟩, fun hzero => ⟨?_, rfl⟩⟩
      -- the status and the response are both 0 where the result is
      by_cases hstatus : sent.status = 0
      · rw [commandResult, if_neg (not_not.mpr hstatus)] at hzero
        simpa [Transferred.done, hstatus] using hzero
      · rw [commandResult, if_pos hstatus] at hzero
        exact absurd hzero hstatus
  · rintro k ⟨hclosed, _, _⟩
    exact ⟨hclosed, fun h => absurd h (by decide)⟩

/-! ### Waits -/

theorem closeWith_watched {status : Int} {Q : Int → Known → Prop} :
    Watched (sensorMonitor B)
      (fun k => k.opened = true ∧ k.wakeup = w ∧ k.asked ≤ n ∧
        ∀ k', k'.Closed w n → k'.armed = k.armed → Q status k')
      (closeWith status) (Sum.elim (fun _ k => k.Closed w n) Q) := by
  refine Watched.bind (Q := fun _ => Q status) (.ask ?_) fun _ => .ret fun _ => id
  rintro k _ ⟨hopened, hwakeup, hasked, hQ⟩
  exact ⟨_, if_pos hopened, hQ _ ⟨rfl, hwakeup, hasked⟩ rfl⟩

/-- The node is closed behind every wait, and one that returns 0 read the pin as it was to be. -/
theorem fpcIrqWait_watched (irqValue : Int) :
    Watched (sensorMonitor B) (fun k => k.Closed w n) (fpcIrqWait irqValue)
      fun status k => k.Closed w n ∧ (status = 0 → irqValue = 1 → k.armed = true) := by
  refine .iter (fun _ (k : Known) => k.Closed w n) (fun _ => ?_) ()
  have hfailed : ∀ (status : Int), status ≠ 0 → Watched (sensorMonitor B)
      (fun k => k.opened = true ∧ k.wakeup = w ∧ k.asked ≤ n) (closeWith status)
      (Sum.elim (fun _ k => k.Closed w n)
        fun status k => k.Closed w n ∧ (status = 0 → irqValue = 1 → k.armed = true)) := by
    intro status hne
    refine closeWith_watched.mono ?_ fun _ _ => id
    rintro k ⟨hopened, hwakeup, hasked⟩
    exact ⟨hopened, hwakeup, hasked, fun k' hk' _ => ⟨hk', fun h => absurd h hne⟩⟩
  refine Watched.bind (Q := fun opened k => k.opened = opened ∧ k.wakeup = w ∧ k.asked ≤ n)
    (.ask ?_) fun opened => ?_
  · intro k opened hk
    exact ⟨_, if_neg (by rw [hk.opened]; decide), rfl, hk.wakeup, hk.asked⟩
  refine .ite (fun hopened => .ret ?_) fun hopened => ?_
  · rintro k ⟨hk, hwakeup, hasked⟩
    rw [Bool.not_eq_true'] at hopened
    exact ⟨⟨hk.trans hopened, hwakeup, hasked⟩, fun h => absurd h (by decide)⟩
  rw [Bool.not_eq_true', Bool.not_eq_false] at hopened
  subst hopened
  refine Watched.bind (Q := fun read k => (k.opened = true ∧ k.wakeup = w ∧ k.asked ≤ n) ∧
    k.armed = read.high) (.ask ?_) fun read => ?_
  · rintro k read ⟨hk, hwakeup, hasked⟩
    exact ⟨_, if_pos hk, ⟨hk, hwakeup, hasked⟩, rfl⟩
  refine .ite (fun _ => (hfailed _ (by decide)).mono (fun k hk => hk.1) fun _ _ => id) fun hsize => ?_
  refine .ite (fun _ => (hfailed _ (by decide)).mono (fun k hk => hk.1) fun _ _ => id) fun hsize' => ?_
  refine .ite (fun hvalue => ?_) fun _ => ?_
  · -- the pin is as it was to be
    refine closeWith_watched.mono ?_ fun _ _ => id
    rintro k ⟨⟨hk, hwakeup, hasked⟩, harmed⟩
    refine ⟨hk, hwakeup, hasked, fun k' hk' harmed' => ⟨hk', fun _ hone => ?_⟩⟩
    rw [harmed', harmed]
    exact decide_eq_true ⟨by omega, hvalue.trans hone⟩
  refine Watched.bind (Q := fun _ k => k.opened = true ∧ k.wakeup = w ∧ k.asked ≤ n) (.ask ?_)
    fun polled => ?_
  · rintro k _ ⟨hk, _⟩
    exact ⟨k, if_pos hk.1, hk⟩
  refine Watched.bind (watched_silent fun _ _ => rfl) fun _ => ?_
  cases polled with
  | failed => exact hfailed _ (by decide)
  | cancelled => exact hfailed _ (by decide)
  | irq =>
    refine Watched.bind (Q := fun _ k => k.Closed w n) (.ask ?_) fun _ => .ret fun _ => id
    rintro k _ ⟨hk, hwakeup, hasked⟩
    exact ⟨_, if_pos hk, rfl, hwakeup, hasked⟩

theorem pollFingerLost_watched :
    Watched (sensorMonitor B) (fun k => k.Closed w n) (pollFingerLost build)
      fun _ k => k.Closed w n := by
  refine Watched.bind (watched_silent fun _ _ => rfl) fun start => ?_
  refine .iter (fun _ (k : Known) => k.Closed w n) (fun _ => ?_) ()
  refine Watched.bind (watched_silent fun _ _ => rfl) fun cancelled => ?_
  refine .ite (fun _ => .ret fun _ => id) fun _ => ?_
  refine Watched.bind (sensorCommand_watched (by decide)) fun status => ?_
  refine .ite (fun _ => .ret fun _ => id) fun _ => ?_
  refine .ite (fun _ => .ret fun _ => id) fun _ => ?_
  refine Watched.bind (watched_silent fun _ _ => rfl) fun now => ?_
  refine .ite (fun _ => ?_) fun _ => .ret fun _ => id
  exact Watched.bind (watched_silent fun _ _ => rfl) fun _ => .ret fun _ => id

theorem fpcTeeWaitFingerLost_watched :
    Watched (sensorMonitor B) (fun k => k.Closed w n) (fpcTeeWaitFingerLost build)
      fun _ k => k.Closed w n := by
  refine .ite (fun _ => ?_) fun _ => pollFingerLost_watched
  refine Watched.bind (sensorCommand_watched (by decide)) fun status => ?_
  refine .ite (fun _ => .ret fun _ => id) fun _ => ?_
  refine Watched.bind ((fpcIrqWait_watched 1).mono (fun _ => id) fun _ _ h => h.1) fun status => ?_
  exact Watched.bind (sensorCommand_watched (by decide)) fun _ => .ret fun _ => id

theorem fpcTeeWaitFingerDown_watched :
    Watched (sensorMonitor B) (fun k => k.Closed w n) (fpcTeeWaitFingerDown build)
      fun status k => k.Closed w n ∧ (status = 0 → k.armed = true) := by
  refine Watched.bind (sensorCommand_watched (by decide)) fun status => ?_
  refine .ite (fun hne => .ret fun k hk => ⟨hk, fun h => absurd h hne⟩) fun _ => ?_
  exact (fpcIrqWait_watched 1).mono (fun _ => id) fun status k hk => ⟨hk.1, fun h => hk.2 h rfl⟩

/-! ### The capture -/

/-- Induction on the rounds. -/
theorem captureRounds_watched (rounds : Nat) :
    Watched (sensorMonitor B) (fun k => k.Closed true n) (captureRounds build rounds)
      fun status k => k.Closed true (n + rounds * maxTransferRetries) ∧
        (status = 0 → k.image = true ∧ k.slept = false) := by
  induction rounds generalizing n with
  | zero =>
    refine .ret fun k hk => ⟨hk.mono (by omega), fun h => absurd h (by decide)⟩
  | succ rounds ih =>
    have hmore : n + maxTransferRetries + rounds * maxTransferRetries =
        n + (rounds + 1) * maxTransferRetries := by
      rw [Nat.succ_mul]
      omega
    refine Watched.bind fpcTeeWaitFingerDown_watched fun status => ?_
    refine .ite (fun hne => .ret ?_) fun hzero => ?_
    · rintro k ⟨hk, _⟩
      exact ⟨hk.mono (by omega), fun h => absurd h hne⟩
    rw [not_not] at hzero
    refine Watched.bind (captureCommand_watched.mono (fun k hk => ⟨hk.1, hk.2 hzero⟩) fun _ _ => id)
      fun status => ?_
    refine .ite (fun _ => .ret ?_) fun _ => ?_
    · rintro k ⟨hk, himage⟩
      exact ⟨hk.mono (by omega), himage⟩
    · rw [← hmore]
      exact ih.mono (fun k hk => hk.1) fun _ _ => id

/-- The most that `fpc_tee_capture_image` asks for an image. -/
def maxAsked : Nat := maxQualifyCaptureRetries * maxTransferRetries

theorem captureQualified_watched :
    Watched (sensorMonitor B) (fun k => k.opened = false ∧ k.asked = 0) (captureQualified build)
      fun status k => k.Closed true maxAsked ∧ (status = 0 → k.image = true ∧ k.slept = false) := by
  refine Watched.bind (Q := fun _ k => k.Closed true 0)
    (.bind (Q := fun _ k => k.Closed true 0) (.ask ?_) fun _ => .ret fun _ => id) fun status => ?_
  · rintro k _ ⟨hopened, hasked⟩
    exact ⟨_, rfl, hopened, rfl, hasked.le⟩
  refine .ite (fun hne => .ret fun k hk => ⟨hk.mono (Nat.zero_le _), fun h => absurd h hne⟩) fun _ => ?_
  refine Watched.bind fpcTeeWaitFingerLost_watched fun status => ?_
  refine .ite (fun hne => .ret fun k hk => ⟨hk.mono (Nat.zero_le _), fun h => absurd h hne⟩) fun _ => ?_
  refine (captureRounds_watched maxQualifyCaptureRetries).mono (fun _ => id) fun status k hk => ?_
  rwa [Nat.zero_add] at hk

/-- What is known behind a capture with a status. -/
structure Captured (status : Int) (k : Known) : Prop where
  closed : k.Closed false maxAsked
  image : k.image = true ↔ status = 0
  slept : k.slept = true ↔ status ≠ 0

theorem fpcTeeCaptureImage_watched :
    Watched (sensorMonitor B) (fun k => k.opened = false ∧ k.asked = 0) (fpcTeeCaptureImage build)
      Captured := by
  refine Watched.bind captureQualified_watched fun status => ?_
  have hdisable : Watched (sensorMonitor B)
      (fun k => k.Closed true maxAsked ∧ (status = 0 → k.image = true ∧ k.slept = false)) (wakeup false)
      fun _ k => k.Closed false maxAsked ∧ (status = 0 → k.image = true ∧ k.slept = false) := by
    refine Watched.bind (Q := fun _ k => k.Closed false maxAsked ∧
      (status = 0 → k.image = true ∧ k.slept = false)) (.ask ?_) fun _ => .ret fun _ => id
    rintro k _ ⟨hk, himage⟩
    exact ⟨_, rfl, ⟨hk.opened, rfl, hk.asked⟩, himage⟩
  refine Watched.bind hdisable fun _ => ?_
  refine .ite (fun hne => ?_) fun hzero => .ret ?_
  · refine Watched.bind (deepSleep_watched.mono (fun k hk => hk.1) fun _ _ => id) fun _ => .ret ?_
    rintro k ⟨hk, himage, hslept⟩
    exact ⟨hk, by simp [himage, hne], by simp [hslept, hne]⟩
  · rintro k ⟨hk, himage⟩
    rw [not_not] at hzero
    exact ⟨hk, by simp [himage hzero, hzero], by simp [himage hzero, hzero]⟩

/-- What is known in front of a capture. -/
def Known.start : Known := ⟨false, false, false, 0, false, false⟩

end

/-- The build that polls for the loss of a finger. -/
def pollingBuild : SensorBuild := ⟨false, false, true⟩

/-- A capture: the finger is lost in the first round, and the hardware is reset in the second. -/
def sampleCapture : List (Sigma (Answer fun _ : Empty => Unit)) :=
  [⟨.wakeup true, true⟩, ⟨.clock, ⟨0, 0⟩⟩, ⟨.cancelled, false⟩,
    ⟨.transfer .checkFingerLost, ⟨0, 1, 0⟩⟩,
    ⟨.transfer .wakeupSetup, ⟨0, 0, 0⟩⟩, ⟨.openIrq, true⟩, ⟨.readIrq, ⟨1, 48⟩⟩, ⟨.poll, PollResult.irq⟩,
    ⟨.acknowledge, true⟩, ⟨.closeIrq, ()⟩, ⟨.openIrq, true⟩, ⟨.readIrq, ⟨1, 49⟩⟩, ⟨.closeIrq, ()⟩,
    ⟨.transfer .captureImage, ⟨0, 1, 0⟩⟩,
    ⟨.transfer .wakeupSetup, ⟨0, 0, 0⟩⟩, ⟨.openIrq, true⟩, ⟨.readIrq, ⟨1, 49⟩⟩, ⟨.closeIrq, ()⟩,
    ⟨.transfer .captureImage, ⟨0, -12, 0⟩⟩, ⟨.getErrorLog, (0 : Int)⟩, ⟨.resetSensor, (0 : Int)⟩,
    ⟨.usleep 10, ()⟩, ⟨.transfer .captureImage, ⟨0, 0, 0⟩⟩, ⟨.wakeup false, true⟩]

theorem sampleCapture_yields : Yields (fpcTeeCaptureImage pollingBuild) sampleCapture 0 :=
  yields_of_play (show play 40 _ sampleCapture = some 0 by decide)

end Fpc.Capture
