import Fingerprints.Ta.HwAuth

/-!
# Pixel noise calibration

`fpc_ta_pn.c`. The module has a challenge and a token of its own, checked under the key of the
hardware authentication module. The images of its messages are read and written by their embedded
size, which is compared with the size of an image and never with the length of the message.
-/

namespace Fpc

open Wire Wire.Outcome

def fpcPnOk : Int := 0
def fpcPnFailed : Int := 1001
def fpcPnRetryCalibration : Int := 1002
def fpcPnMemory : Int := 1003

def fpcPnMagic : UInt32 := 0x20B17701
def fpcPnMagicLen : UInt32 := 4

/-! ## The token -/

/-- `pn_get_challenge`: its status, the challenge and the state. -/
def pnGetChallenge (env : Env) (pn : PnSecurity) : Int × UInt64 × PnSecurity :=
  let pn := { pn with outgoingChallenge := 0 }
  let (status, challenge) := drawChallenge env 5 0
  if status ≠ 0 then (status.toInt, challenge, pn)
  else if challenge = 0 then (-fpcErrorNotInitialized, challenge, pn)
  else
    (0, challenge, { pn with challengeTimestamp := env.uptime, outgoingChallenge := challenge })

/-- `pn_validate_incoming_token`. A challenge that has expired is kept. -/
def pnValidateIncomingToken (P : Platform) (env : Env) (hwAuth : HwAuthTa) (pn : PnSecurity) :
    Int :=
  if pn.outgoingChallenge = 0 then -fpcErrorInput
  else if pn.incomingToken.challenge ≠ pn.outgoingChallenge then -fpcErrorInput
  else
    let challengeAge := env.uptime - pn.challengeTimestamp
    if challengeAge > hwAuthChallengeLifetime then -fpcErrorTimedout
    else fpcCheckTokenIntegrity P env hwAuth pn.incomingToken

/-- `pn_authorize`, with the token in the message. -/
def pnAuthorize (P : Platform) (env : Env) (hwAuth : HwAuthTa) (pn : PnSecurity)
    (msg : List UInt8) (sizeToken : Nat) : Outcome (Int × PnSecurity) :=
  if sizeToken < sizeofToken then .ok (-fpcErrorInput, pn)
  else do
    let bytes ← loadSpan msg offArray sizeofToken
    let pn := { pn with incomingToken := Token.ofBytes bytes }
    .ok (pnValidateIncomingToken P env hwAuth pn, pn)

/-! ## The images -/

/-- `fpc_ta_pn_get_size`: its status and the size it sets. -/
def fpcTaPnGetSize (P : Platform) (encrypted : Bool) : Int × UInt32 :=
  if P.sensorPnGetSize = 0 then (-fpcPnFailed, 0)
  else if encrypted then (fpcPnOk, P.getWrappedSize (P.sensorPnGetSize + fpcPnMagicLen))
  else (fpcPnOk, P.sensorPnGetSize)

/-- What `fpc_ta_pn_calibrate_finger` leaves: its status and what it sets. -/
structure PnCalibrated where
  status : Int
  imageDecision : UInt32
  imageQuality : UInt32
  rest : Option (UInt32 × UInt32)
  deriving DecidableEq, Repr

/-- The part of `fpc_ta_pn_calibrate_finger` between the start and the stop of the sensor. -/
def calibrateFinger (env : Env) : PnCalibrated :=
  let capture := env.pn.capturePnImage.toInt
  if capture = fpcResultFingerLost then
    { status := -fpcPnRetryCalibration, imageDecision := 0, imageQuality := 0, rest := none }
  else if capture ≠ fpcResultOk then
    { status := -fpcPnFailed, imageDecision := 0, imageQuality := 0, rest := none }
  else if env.pn.calibrateFinger.toInt ≠ fpcResultOk then
    { status := -fpcPnFailed, imageDecision := 0, imageQuality := 0, rest := none }
  else
    { status := if env.pn.progress < 100 then -fpcPnRetryCalibration else fpcPnOk,
      imageDecision := env.pn.imageDecision, imageQuality := env.pn.imageQuality,
      rest := some (env.pn.pnQuality, env.pn.progress.toUInt32) }

/-- `fpc_ta_pn_calibrate_finger` -/
def fpcTaPnCalibrateFinger (env : Env) : PnCalibrated :=
  if env.pn.communicationStart ≠ 0 then
    { status := -fpcErrorResetHardware, imageDecision := 0, imageQuality := 0, rest := none }
  else
    let calibrated := calibrateFinger env
    if env.pn.communicationStop ≠ 0 then { calibrated with status := -fpcPnFailed }
    else calibrated

/-- `fpc_ta_pn_load`: its status and the message, in which the image is decrypted in place. A size
or a magic number that does not match ends it with the status of the decryption. -/
def fpcTaPnLoad (P : Platform) (env : Env) (msg : List UInt8) (encryptedSize : Nat) :
    Outcome (Int × List UInt8) :=
  if encryptedSize = 0 then .ok (-fpcErrorAlloc, msg)
  else
    let (error, unencryptedSize) := fpcTaPnGetSize P false
    if error ≠ fpcResultOk then .ok (error, msg)
    else do
      let unencryptedSize := unencryptedSize + fpcPnMagicLen
      let encrypted ← loadSpan msg offArray encryptedSize
      let unwrapped := fpcUnwrapCrypto env encrypted
      let msg ← storeSpan msg offArray unwrapped.buffer
      if unwrapped.status ≠ 0 ∨ unwrapped.data.length ≠ unencryptedSize.toNat then
        .ok (unwrapped.status, msg)
      else
        let pnMagic ← load32 msg
          (offArray + unwrapped.start + unencryptedSize.toNat - fpcPnMagicLen.toNat)
        if pnMagic ≠ fpcPnMagic then .ok (unwrapped.status, msg)
        else if env.pn.loadPn.toInt = fpcResultOk then .ok (fpcPnOk, msg)
        else .ok (-fpcPnFailed, msg)

/-- The buffer for an image, with the magic number behind it. -/
def pnImageBuffer (P : Platform) (image : List UInt8) : List UInt8 :=
  (ofList P.sensorPnGetSize.toNat 0 image).toList ++ le32 fpcPnMagic

/-- `fpc_wrap_crypto` into the message: it writes no more than the size it is given. -/
def wrapIntoMessage (env : Env) (msg image : List UInt8) (encryptedSize : UInt32) :
    Outcome (List UInt8) :=
  storeSpan msg offArray ((env.wrapCrypto image).bytes.take encryptedSize.toNat)

/-- `fpc_ta_pn_calibrate_finger_end`: its status and the message. -/
def fpcTaPnCalibrateFingerEnd (P : Platform) (env : Env) (hwAuth : HwAuthTa) (pn : PnSecurity)
    (msg : List UInt8) (size : Nat) : Outcome (Int × List UInt8) :=
  if pnValidateIncomingToken P env hwAuth pn ≠ 0 then .ok (-fpcErrorTimedout, msg)
  else if env.pn.calibrateFingerEnd.toInt ≠ fpcResultOk then .ok (-fpcPnFailed, msg)
  else if size = 0 then .ok (fpcPnOk, msg)
  else
    let (ret, encryptedSize) := fpcTaPnGetSize P true
    if ret ≠ fpcResultOk then .ok (ret, msg)
    else if encryptedSize.toNat > size then .ok (-fpcPnFailed, msg)
    else if !env.pn.malloc then .ok (-fpcPnMemory, msg)
    else if env.pn.imageToPnImage.1.toInt ≠ fpcResultOk then .ok (-fpcPnFailed, msg)
    else do
      let image := pnImageBuffer P env.pn.imageToPnImage.2
      let msg ← wrapIntoMessage env msg image encryptedSize
      if (env.wrapCrypto image).status ≠ 0 ∨ (env.wrapCrypto image).size ≠ encryptedSize then
        .ok (-fpcPnFailed, msg)
      else .ok (fpcPnOk, msg)

/-- The exit of `fpc_ta_pn_calibrate`, which stops the sensor. -/
def calibrateExit (env : Env) (ret : Int) (msg : List UInt8) : Int × List UInt8 :=
  if env.pn.communicationStop ≠ 0 then (-fpcPnFailed, msg) else (ret, msg)

/-- `fpc_ta_pn_calibrate`: its status and the message. A failing encryption leaves the status of
the size lookup, 0. -/
def fpcTaPnCalibrate (P : Platform) (env : Env) (msg : List UInt8) (size : Nat) :
    Outcome (Int × List UInt8) :=
  let (ret, encryptedSize) := fpcTaPnGetSize P true
  if ret ≠ fpcResultOk then .ok (calibrateExit env ret msg)
  else if encryptedSize.toNat > size then .ok (-fpcPnFailed, msg)
  else if env.pn.communicationStart ≠ 0 then .ok (-fpcErrorResetHardware, msg)
  else if !env.pn.malloc then .ok (calibrateExit env (-fpcPnMemory) msg)
  else
    let sensorReturn := env.pn.pnCalibrate.1.toInt
    if sensorReturn = fpcResultOk then do
      let msg ← wrapIntoMessage env msg (pnImageBuffer P env.pn.pnCalibrate.2) encryptedSize
      .ok (calibrateExit env fpcPnOk msg)
    else if sensorReturn = fpcResultFingerLost then
      .ok (calibrateExit env (-fpcPnRetryCalibration) msg)
    else .ok (calibrateExit env (-fpcPnFailed) msg)

/-- `fpc_ta_pn_get_unencrypted_image`: its status and the message. The image is written to a
buffer that is said to have the embedded size. -/
def fpcTaPnGetUnencryptedImage (P : Platform) (env : Env) (msg : List UInt8) (size : Nat) :
    Outcome (Int × List UInt8) :=
  let (ret, unencryptedSize) := fpcTaPnGetSize P false
  if ret ≠ fpcResultOk then .ok (ret, msg)
  else if unencryptedSize.toNat > size then .ok (-fpcErrorAlloc, msg)
  else do
    let msg ← storeSpan msg offArray (env.pn.imageToPnImage.2.take size)
    if env.pn.imageToPnImage.1.toInt ≠ fpcResultOk then .ok (-fpcPnFailed, msg)
    else .ok (fpcPnOk, msg)

/-! ## The handler -/

/-- The commands of the module. -/
inductive PnCmd where
  | calibrate
  | getSize
  | load
  | calibrateFinger
  | calibrateFingerEnd
  | getChallenge
  | authorize
  | getUnencryptedSize
  | getUnencryptedImage
  deriving DecidableEq, Repr

def PnCmd.ofWord (command : UInt32) : Option PnCmd :=
  if command = 0 then some .calibrate
  else if command = 1 then some .getSize
  else if command = 2 then some .load
  else if command = 3 then some .calibrateFinger
  else if command = 4 then some .calibrateFingerEnd
  else if command = 5 then some .getChallenge
  else if command = 6 then some .authorize
  else if command = 7 then some .getUnencryptedSize
  else if command = 8 then some .getUnencryptedImage
  else none

/-- `sizeof(fpc_ta_pn_command_t)` -/
def sizeofPnCommand : Nat := 32

def offImageDecision : Nat := 12
def offImageQuality : Nat := 16
def offPnQuality : Nat := 20
def offProgress : Nat := 24

/-- The cases of the switch that answer with an image or a status: the response and the message
come from a function of the message and its size field. -/
def withArray (ta : Ta) (msg : List UInt8) (f : Nat → Outcome (Int × List UInt8)) :
    Outcome Handled := do
  let size ← load32 msg offSize
  let (response, msg) ← f size.toNat
  let msg ← store32 msg offResponse (ofInt32 response)
  .ok { ta := ta, msg := msg, status := 0 }

/-- The cases of the switch that answer with a size. -/
def withSize (P : Platform) (ta : Ta) (msg : List UInt8) (encrypted : Bool) : Outcome Handled := do
  let (response, size) := fpcTaPnGetSize P encrypted
  let msg ← store32 msg offSize size
  let msg ← store32 msg offResponse (ofInt32 response)
  .ok { ta := ta, msg := msg, status := 0 }

/-- The quality and the progress of a calibration into the message, where it came to them. -/
def storeProgress (msg : List UInt8) : Option (UInt32 × UInt32) → Outcome (List UInt8)
  | some (pnQuality, progress) => do
      let msg ← store32 msg offPnQuality pnQuality
      store32 msg offProgress progress
  | none => .ok msg

/-- The switch of `fpc_ta_pn_command_handler`. -/
def pnSwitch (P : Platform) (env : Env) (ta : Ta) (msg : List UInt8) : PnCmd → Outcome Handled
  | .getSize => withSize P ta msg true
  | .load => withArray ta msg (fpcTaPnLoad P env msg)
  | .calibrateFinger => do
      let calibrated := fpcTaPnCalibrateFinger env
      let msg ← store32 msg offImageDecision calibrated.imageDecision
      let msg ← store32 msg offImageQuality calibrated.imageQuality
      let msg ← storeProgress msg calibrated.rest
      let msg ← store32 msg offResponse (ofInt32 calibrated.status)
      .ok { ta := ta, msg := msg, status := 0 }
  | .calibrateFingerEnd =>
      withArray ta msg (fpcTaPnCalibrateFingerEnd P env ta.hwAuth ta.pnSecurity msg)
  | .getChallenge => do
      let (response, challenge, pn) := pnGetChallenge env ta.pnSecurity
      let msg ← store32 msg offChallengeResponse (ofInt32 response)
      let msg ← store64 msg offChallenge challenge
      .ok { ta := { ta with pnSecurity := pn }, msg := msg, status := 0 }
  | .authorize => do
      let size ← load32 msg offSize
      let (response, pn) ← pnAuthorize P env ta.hwAuth ta.pnSecurity msg size.toNat
      let msg ← store32 msg offResponse (ofInt32 response)
      .ok { ta := { ta with pnSecurity := pn }, msg := msg, status := 0 }
  | .calibrate => withArray ta msg (fpcTaPnCalibrate P env msg)
  | .getUnencryptedSize => withSize P ta msg false
  | .getUnencryptedImage => withArray ta msg (fpcTaPnGetUnencryptedImage P env msg)

/-- `fpc_ta_pn_command_handler` -/
def fpcTaPnCommandHandler (P : Platform) (env : Env) (ta : Ta) (msg : List UInt8) :
    Outcome Handled :=
  handleCommand sizeofPnCommand PnCmd.ofWord (pnSwitch P env ta msg) ta msg

/-- The command of a message that the handler takes up. -/
def pnCmd : List UInt8 → Option PnCmd := commandIn sizeofPnCommand PnCmd.ofWord

end Fpc
