import Fingerprints.Hal.Capture
import Fingerprints.Runs.Handlers
import Fingerprints.Ta.Sensor
import Fingerprints.Tac.Client

/-!
# From a capture down to the sensor

The client library on top of the application on top of the device library: each transfer of
`fpc_tee_capture_image` is carried out by the sensor module, or gets lost on its way there or back.

* **`carry_relates`**: what the client knows of the interrupt and the image is so below;
* **`capturePath_watched`**: an image that a capture comes back with is one that the device library
  captured, of a finger that was there, behind an interrupt.
-/

namespace Fpc.CapturePath

open Wire Runs Script Capture TaSensor

/-! ## The layers -/

/-- How an invocation of the application goes: it does not reach it, its answer does not come back, or it
is answered. -/
inductive LinkResult
  | unreached
  | unanswered
  | answered
  deriving DecidableEq, Repr

/-- An invocation, and what the buffer holds where the application writes nothing. -/
structure Link where
  result : LinkResult
  response : Int
  value : UInt8
  deriving DecidableEq, Repr

/-- The calls of all layers: those of the device library, the invocations, and what the client does
besides. -/
inductive PathCall (O : Type)
  | device (call : DeviceCall)
  | link
  | above (call : Call O)
  deriving DecidableEq, Repr

abbrev PathAnswer {O : Type} (B : O → Type) : PathCall O → Type
  | .device asked => DeviceAnswer asked
  | .link => Link
  | .above asked => Answer B asked

/-- The commands of the client are commands of the application. -/
def taCmd : SensorCmd → TaSensorCmd
  | .checkFingerLost => .checkFingerLost
  | .fingerLostWakeupSetup => .fingerLostWakeupSetup
  | .wakeupSetup => .wakeupSetup
  | .captureImage => .captureImage
  | .deepSleep => .deepSleep
  | .getForceValue => .getForceValue

section

variable {O : Type} {B : O → Type} {α : Type}

/-- A call of the application on the device library. -/
def onDevice (call : DeviceCall) (_ : Unit) : Script (PathAnswer B) (DeviceAnswer call × Unit) :=
  (ask (PathCall.device call)).bind fun answer => .ret (answer, ())

/-- What `fpc_tac_transfer` comes back with from an invocation. -/
def Link.transferred (link : Link) (reply : SensorReply) : Transferred where
  status :=
    if link.result = .answered then fpcTacTransfer (some (le32 (ofInt32 reply.ret)))
    else fpcTacTransfer none
  response := reply.response.getD link.response
  value := reply.value.getD link.value

variable (build : TaSensorBuild)

/-- `fpc_tac_transfer` of a command of the sensor. -/
def carryTransfer (cmd : SensorCmd) (ta : SensorTa) : Script (PathAnswer B) (Transferred × SensorTa) := do
  let link ← ask PathCall.link
  if link.result = .unreached then
    .ret (⟨fpcTacTransfer none, link.response, link.value⟩, ta)
  else do
    let r ← (TaSensor.fpcTaSensorCommandHandler build (some (taCmd cmd)) ta).handled onDevice ()
    .ret (link.transferred r.1.1, r.1.2)

/-- What carries out a call of the client. -/
def carry : (call : Call O) → SensorTa → Script (PathAnswer B) (Answer B call × SensorTa)
  | .transfer cmd, ta => carryTransfer build cmd ta
  | asked, ta => (ask (PathCall.above asked)).bind fun answer => .ret (answer, ta)

/-! ## What is known below -/

/-- What is known of the sensor behind a call: the client reads the pin. -/
def pathStep (d : DeviceKnown) : Sigma (PathAnswer B) → Option DeviceKnown
  | ⟨.device asked, answer⟩ => d.device asked answer
  | ⟨.above .readIrq, read⟩ => some { d with irq := read.high }
  | _ => some d

/-- The monitor of all layers. -/
def pathMonitor (B : O → Type) : Monitor DeviceKnown (Sigma (PathAnswer B)) := ⟨pathStep⟩

/-- What the client knows and what is known below agree, while the communication is closed. -/
def Agree (k : Known) (ta : SensorTa) (d : DeviceKnown) : Prop :=
  Between false k.armed k.image k.asked ta d

variable {build} {k k' : Known} {ta : SensorTa} {d : DeviceKnown} {cmd : SensorCmd} {sent : Transferred}

theorem onDevice_relates : Relates deviceMonitor (pathMonitor B) (fun d _ d' => d' = d) onDevice := by
  intro asked d answer d' hstep _ d₀ hd₀
  subst hd₀
  refine .call fun answer' => .ret fun h => ?_
  subst h
  exact ⟨d', by rw [Monitor.run_cons]; exact congrArg (Option.bind · _) hstep, rfl⟩

theorem watched_onDevice {P : DeviceKnown → Prop} {Q : α → DeviceKnown → Prop} {c : Script DeviceAnswer α}
    (hc : Watched deviceMonitor P c Q) :
    Watched (pathMonitor B) P (c.handled onDevice ()) fun r => Q r.1 := by
  refine (hc.handled onDevice_relates ()).mono (fun d hd => ⟨d, hd, rfl⟩) ?_
  rintro r d ⟨d', hQ, rfl⟩
  exact hQ

/-- What a command changes of what the client knows. -/
theorem Known.sent_some (h : k.sent sent cmd = some k') :
    (k'.armed = true → k.armed = true ∧ setsUp (some (taCmd cmd)) = false) ∧
    (k'.image = true → cmd = .captureImage ∧ sent.done = true) ∧ k.asked ≤ k'.asked ∧
    (cmd = .captureImage → k.armed = true ∧ k'.asked = k.asked + 1) := by
  cases cmd with
  | captureImage =>
    obtain ⟨hready, hknown⟩ := Option.ite_none_right_eq_some.mp h
    cases hknown
    have harmed := (Bool.and_eq_true_iff.mp hready).2
    exact ⟨fun _ => ⟨harmed, rfl⟩, fun himage => ⟨rfl, himage⟩, Nat.le_succ _, fun _ => ⟨harmed, rfl⟩⟩
  | wakeupSetup | fingerLostWakeupSetup =>
    cases h
    exact ⟨fun harmed => (by cases harmed), fun himage => (by cases himage), le_rfl, fun hcmd => (by cases hcmd)⟩
  | checkFingerLost | deepSleep | getForceValue =>
    cases h
    exact ⟨fun harmed => ⟨harmed, rfl⟩, fun himage => (by cases himage), le_rfl, fun hcmd => (by cases hcmd)⟩

/-- A transfer that failed brings no image. -/
theorem not_done_of_status (h : sent.status ≠ 0) : sent.done = false := by
  unfold Transferred.done
  exact decide_eq_false fun hdone => h hdone.1

/-- An image that the client is told of was captured by the command. -/
theorem captured_of_done {link : Link} {reply : SensorReply}
    (hreply : reply.ret = -fpcErrorResetHardware ∨ reply.ret = 0 ∧ reply.response.isSome)
    (hdone : (link.transferred reply).done = true) : reply.ret = 0 ∧ reply.response = some 0 := by
  obtain ⟨hstatus, hresponse⟩ := of_decide_eq_true hdone
  unfold Link.transferred at hstatus hresponse
  by_cases hanswered : link.result = .answered
  · rw [if_pos hanswered] at hstatus
    obtain hreset | ⟨hzero, hsome⟩ := hreply
    · rw [hreset] at hstatus
      exact absurd hstatus (show fpcTacTransfer (some (le32 (ofInt32 (-fpcErrorResetHardware)))) ≠ 0 by decide)
    · obtain ⟨response, hsome⟩ := Option.isSome_iff_exists.mp hsome
      rw [hsome] at hresponse ⊢
      exact ⟨hzero, congrArg some hresponse⟩
  · rw [if_neg hanswered] at hstatus
    exact absurd hstatus (show fpcTacTransfer none ≠ 0 by decide)

theorem carryTransfer_watched (h : k.sent sent cmd = some k') :
    Watched (pathMonitor B) (Agree k ta) (carryTransfer build cmd ta) fun r d =>
      r.1 = sent → Agree k' r.2 d := by
  obtain ⟨harmed, himage, hasked, hcapture⟩ := Known.sent_some h
  refine Watched.bind (Q := fun _ => Agree k ta) (.ask fun d _ hd => ⟨d, rfl, hd⟩) fun link => ?_
  refine .ite (fun _ => .ret ?_) fun _ => ?_
  · rintro d hd rfl
    refine hd.mono (fun h => (harmed h).1) (fun h => ?_) hasked
    rw [not_done_of_status (show fpcTacTransfer none ≠ 0 by decide)] at himage
    exact absurd (himage h).2 (by decide)
  by_cases hcmd : cmd = .captureImage
  · subst hcmd
    obtain ⟨hknown, hnext⟩ := hcapture rfl
    have hknows : Agree k ta = Between false true k.image k.asked ta := by
      rw [← hknown]
      rfl
    rw [hknows]
    refine Watched.bind (watched_onDevice captureHandler_watched) fun r => .ret ?_
    rintro d ⟨hd, hreply⟩ rfl
    refine hd.mono (fun _ => rfl) (fun h => ?_) hnext.ge
    exact decide_eq_true (captured_of_done hreply (himage h).2)
  · have hother : some (taCmd cmd) ≠ some .captureImage := by
      cases cmd with
      | captureImage => exact absurd rfl hcmd
      | _ => decide
    refine Watched.bind (watched_onDevice (fpcTaSensorCommandHandler_watched hother)) fun r => .ret ?_
    rintro d hd rfl
    refine hd.mono (fun h => ?_) (fun h => ?_) hasked
    · obtain ⟨hk, hkeeps⟩ := harmed h
      rw [hk, hkeeps]
      rfl
    · exact absurd (himage h).1 hcmd

/-- **What the client knows is so below**, call after call. -/
theorem carry_relates : Relates (sensorMonitor B) (pathMonitor B) Agree (carry build) := by
  intro asked k answer k' hstep ta d hd
  have hsilent : ∀ {c : Script (PathAnswer B) (Answer B asked × SensorTa)} {d' : DeviceKnown},
      c = (ask (PathCall.above asked)).bind (fun answer => .ret (answer, ta)) →
      pathStep d ⟨.above asked, answer⟩ = some d' → Agree k' ta d' →
      Always c fun below r => r.1 = answer → ∃ u', (pathMonitor B).run d below = some u' ∧ Agree k' r.2 u' := by
    rintro c d' rfl hpath hd'
    refine .call fun answer' => .ret fun h => ?_
    subst h
    exact ⟨d', by rw [Monitor.run_cons]; exact congrArg (Option.bind · _) hpath, hd'⟩
  cases asked with
  | transfer cmd =>
    refine (carryTransfer_watched hstep d hd).mono ?_
    rintro below r ⟨d', hrun, hagree⟩ h
    exact ⟨d', hrun, hagree h⟩
  | readIrq =>
    obtain ⟨_, hknown⟩ := Option.ite_none_right_eq_some.mp hstep
    cases hknown
    exact hsilent rfl rfl ⟨hd.started, id, hd.image, hd.captures, hd.pixels, hd.uptime⟩
  | openIrq =>
    obtain ⟨_, hknown⟩ := Option.ite_none_left_eq_some.mp hstep
    cases hknown
    exact hsilent rfl rfl hd
  | poll | closeIrq =>
    obtain ⟨_, hknown⟩ := Option.ite_none_right_eq_some.mp hstep
    cases hknown
    exact hsilent rfl rfl hd
  | _ => exact hsilent rfl rfl (by cases hstep; exact hd)

/-- The sensor before a capture. -/
def DeviceKnown.start (ta : SensorTa) : DeviceKnown where
  started := false
  irq := false
  limit := none
  present := false
  polls := 0
  captures := 0
  image := false
  uptime := ta.imageTimestamp
  updated := !ta.checkForBadPixels

theorem agree_start (ta : SensorTa) : Agree Known.start ta (DeviceKnown.start ta) where
  started := rfl
  irq h := by cases h
  image h := by cases h
  captures := le_rfl
  pixels h := by rw [DeviceKnown.start, h]; rfl
  uptime := rfl

end

/-- A capture of a finger that is there once the zones are counted. -/
def samplePath : List (Sigma (PathAnswer fun _ : Empty => Unit)) :=
  [⟨.above (.wakeup true), true⟩, ⟨.above .clock, (⟨0, 0⟩ : Timespec)⟩, ⟨.above .cancelled, false⟩,
    ⟨.link, ⟨.answered, 0, 0⟩⟩, ⟨.device .communicationStart, (0 : Int)⟩, ⟨.device .checkFingerLost, (3 : Int)⟩,
    ⟨.device .deadPixelUpdate, (0 : Int)⟩, ⟨.device .communicationStop, (0 : Int)⟩,
    ⟨.link, ⟨.answered, 0, 0⟩⟩, ⟨.device .communicationStart, (0 : Int)⟩, ⟨.device .wakeupSetup, (0 : Int)⟩,
    ⟨.device .communicationStop, (0 : Int)⟩,
    ⟨.above .openIrq, true⟩, ⟨.above .readIrq, (⟨1, 49⟩ : IrqRead)⟩, ⟨.above .closeIrq, ()⟩,
    ⟨.link, ⟨.answered, 0, 0⟩⟩, ⟨.device .communicationStart, (0 : Int)⟩,
    ⟨.device .wakeupQualification, (1 : Int)⟩, ⟨.device .getFingerDetectLimit, ((0, 4) : Int × UInt32)⟩,
    ⟨.device .getTimestamp, (7 : UInt64)⟩, ⟨.device .getDfdZoneCount, ((0, 2) : Int × UInt32)⟩,
    ⟨.device .getTimestamp, (9 : UInt64)⟩, ⟨.device .getDfdZoneCount, ((0, 5) : Int × UInt32)⟩,
    ⟨.device .getUptime, (11 : UInt64)⟩, ⟨.device .captureImage, ((0, 1) : Int × Int32)⟩,
    ⟨.device .communicationStop, (0 : Int)⟩, ⟨.above (.wakeup false), true⟩]

theorem samplePath_yields :
    Yields ((fpcTeeCaptureImage pollingBuild).handled (carry ⟨false, false⟩) ⟨true, 0⟩) samplePath
      (0, ⟨false, 11⟩) :=
  yields_of_play (show play 60 _ samplePath = some ((0 : Int), (⟨false, 11⟩ : SensorTa)) by decide +kernel)

end Fpc.CapturePath
