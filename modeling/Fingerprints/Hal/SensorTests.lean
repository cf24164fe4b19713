import Fingerprints.Hal.Capture
import Fingerprints.Hal.SensorParcels

/-!
# Tests of the sensor

`fpc_tee_sensortest.c`, `do_run_sensor_test` of `fpc_hal_ext_sensortest.c` and `fpc_irq_status`: a test that
the framework asks for by its name, as a script over the calls of a capture and those of the tests. What
the sensor is asked for outside of the tests (its information and the raw image) is a call with any answer,
and so is the value of `temp_result` before it is set.
-/

namespace Fpc.SensorTests

open Wire Runs Script Capture SensorParcels

/-! ## Calls -/

/-- `fpc_ta_sensortest_cmd_t`, the commands with a `fpc_ta_sensortest_test_cmd_t` -/
inductive SensortestCmd
  | selfTestInit
  | selfTest
  | selfTestCleanup
  | checkerboardTest
  | imageQualityTest
  | resetPixelTest
  | afdCalibrationTest
  | afdCalibrationRubberStampTest
  | afdRubberStampTest
  | pnImageTest
  deriving DecidableEq, Repr

/-- What `fpc_tac_transfer` returns, with the response and the result that are in the buffer then. -/
structure Tested where
  status : Int
  response : Int
  result : UInt32
  deriving DecidableEq, Repr

/-- What a module quality test is sent. -/
structure QualityParams where
  snrLimitPreset : UInt32
  snrCroppingLeft : UInt32
  snrCroppingTop : UInt32
  snrCroppingRight : UInt32
  snrCroppingBottom : UInt32
  deriving DecidableEq, Repr

/-- What `fpc_tac_transfer` of a module quality test returns, with what is in the buffer then. -/
structure QualityTested where
  status : Int
  response : Int
  result : UInt32
  snr : UInt32
  snrError : UInt32
  deriving DecidableEq, Repr

/-- The calls of the tests. `otpInfo` is `fpc_tee_get_sensor_otp_info`, and `rawImage` is
`fpc_hal_ext_get_raw_image` with the image that the buffer has then. -/
inductive TestCall
  | malloc
  | uninitialized
  | test (cmd : SensortestCmd) (result : UInt32)
  | moduleQuality (params : QualityParams)
  | sleep (us : UInt32)
  | otpInfo
  | rawImage
  | report (result : Option TestResult)
  | freeImage
  | free
  deriving DecidableEq, Repr

/-- What a call of the tests answers. -/
abbrev TestAnswer : TestCall → Type
  | .malloc => Bool
  | .uninitialized => UInt32
  | .test _ _ => Tested
  | .moduleQuality _ => QualityTested
  | .sleep _ => Unit
  | .otpInfo => Int × HwModuleInfo
  | .rawImage => Option (List UInt8)
  | .report _ => Unit
  | .freeImage => Unit
  | .free => Unit

def callTest (call : TestCall) : Script (Answer TestAnswer) (TestAnswer call) :=
  ask (Call.other call)

/-! ## The commands -/

def fpcTaSensortestTestOk : Int := 0
def fpcTaSensortestTestNotSupported : Int := 1
def fpcSelftestIrqFail : UInt32 := 6
def fpcErrorSensor : Int := 7

def usecsPerMsec : UInt32 := 1000
def sensortestStabilizationMs : UInt32 := 500

/-- The status and the `*result` behind a command that was sent with a `*result`. -/
def Tested.outcome (sent : Tested) (result : UInt32) : Int × UInt32 :=
  if sent.status ≠ 0 then (sent.status, result) else (sent.response, sent.result)

/-- `fpc_tee_sensortest_test_command` -/
def fpcTeeSensortestTestCommand (cmd : SensortestCmd) (result : UInt32) :
    Script (Answer TestAnswer) (Int × UInt32) := do
  let sent ← callTest (.test cmd result)
  .ret (sent.outcome result)

/-- The level of the pin in what was read, or an error. -/
def irqLevel (read : IrqRead) : Int :=
  if read.size < 0 then -fpcErrorIo
  else if read.size = 0 then -fpcErrorIo
  else
    let status : Int := read.value.toNat - charZero
    if status < 0 ∨ status > 9 then -fpcErrorIo else status

/-- `fpc_irq_status` -/
def fpcIrqStatus : Script (Answer TestAnswer) Int := do
  let opened ← openIrq
  if !opened then .ret (-fpcErrorIo)
  else do
    let read ← readIrq
    closeIrq
    .ret (irqLevel read)

/-- The label `clean` of `fpc_tee_sensortest_self_test` -/
def cleanSelfTest (temp : UInt32) (ended : Int × UInt32) : Script (Answer TestAnswer) (Int × UInt32) := do
  let _ ← fpcTeeSensortestTestCommand .selfTestCleanup temp
  .ret ended

/-- `fpc_tee_sensortest_self_test`, with the `*result` that it is given, and its status and `*result`. -/
def fpcTeeSensortestSelfTest (result : UInt32) : Script (Answer TestAnswer) (Int × UInt32) := do
  let temp ← callTest .uninitialized
  let inited ← fpcTeeSensortestTestCommand .selfTestInit temp
  if inited.1 ≠ 0 then cleanSelfTest inited.2 (fpcErrorSensor, result)
  else do
    let level ← fpcIrqStatus
    if level < 0 then cleanSelfTest inited.2 (fpcErrorSensor, result)
    else if level > 0 then cleanSelfTest inited.2 (fpcTaSensortestTestOk, fpcSelftestIrqFail)
    else do
      let tested ← fpcTeeSensortestTestCommand .selfTest result
      if tested.2 ≠ 0 ∨ tested.1 ≠ 0 then cleanSelfTest inited.2 tested
      else do
        let level ← fpcIrqStatus
        if level < 0 then cleanSelfTest inited.2 (fpcErrorSensor, tested.2)
        else if level = 0 then cleanSelfTest inited.2 (fpcTaSensortestTestOk, fpcSelftestIrqFail)
        else do
          let cleaned ← fpcTeeSensortestTestCommand .selfTestCleanup inited.2
          if cleaned.1 ≠ 0 then .ret (fpcErrorSensor, tested.2)
          else do
            let level ← fpcIrqStatus
            if level < 0 then cleanSelfTest cleaned.2 (fpcErrorSensor, tested.2)
            else if level > 0 then cleanSelfTest cleaned.2 (fpcTaSensortestTestOk, fpcSelftestIrqFail)
            else .ret (level, tested.2)

/-- `fpc_tee_sensortest_test_t` -/
inductive SensortestTest
  | selfTest
  | checkerboardTest
  | imageQualityTest
  | resetPixelTest
  | afdCalibrationTest
  | afdCalibrationRubberStampTest
  | afdRubberStampTest
  | moduleQualityTest
  | pnImageTest
  deriving DecidableEq, Repr

variable (build : SensorBuild)

/-- A command behind a finger on the sensor. -/
def behindFinger (c : Script (Answer TestAnswer) (Int × UInt32)) (result : UInt32) :
    Script (Answer TestAnswer) (Int × UInt32) := do
  let status ← fpcTeeWaitFingerDown build
  if status ≠ 0 then .ret (status, result) else c

/-- A command behind some time for the finger to lie still. -/
def stabilized (c : Script (Answer TestAnswer) (Int × UInt32)) : Script (Answer TestAnswer) (Int × UInt32) := do
  callTest (.sleep (sensortestStabilizationMs * usecsPerMsec))
  c

/-- `fpc_tee_sensortest_run_test` -/
def fpcTeeSensortestRunTest (test : SensortestTest) (result : UInt32) :
    Script (Answer TestAnswer) (Int × UInt32) :=
  match test with
  | .selfTest => fpcTeeSensortestSelfTest result
  | .checkerboardTest => fpcTeeSensortestTestCommand .checkerboardTest result
  | .imageQualityTest =>
      behindFinger build (fpcTeeSensortestTestCommand .imageQualityTest result) result
  | .resetPixelTest => fpcTeeSensortestTestCommand .resetPixelTest result
  | .afdCalibrationTest => fpcTeeSensortestTestCommand .afdCalibrationTest result
  | .afdCalibrationRubberStampTest =>
      behindFinger build
        (stabilized (fpcTeeSensortestTestCommand .afdCalibrationRubberStampTest result)) result
  | .afdRubberStampTest =>
      behindFinger build (stabilized (fpcTeeSensortestTestCommand .afdRubberStampTest result)) result
  | .pnImageTest => fpcTeeSensortestTestCommand .pnImageTest result
  | .moduleQualityTest => .ret (fpcTaSensortestTestNotSupported, result)

/-! ## The limits of a module quality test -/

/-- The numbers of the C library: a type of floating point numbers with the literals of the table, `atof`
and `atoi`, the comparison of `snr_value / 100` with a threshold, and the texts of a result and of an
error. -/
structure Numbers where
  Float : Type
  literal : Nat → Float
  atof : List UInt8 → Float
  atoi : List UInt8 → UInt32
  below : UInt32 → Float → Bool
  resultString : UInt32 → Float → CString 128
  errorString : UInt32 → CString 64

variable (N : Numbers)

/-- What `get_module_quality_test_limit` finds. -/
structure QualityLimit where
  snrThreshold : N.Float
  params : QualityParams
  stabilizationMs : UInt32

/-- An entry of `module_quality_test_limits`. -/
structure ProductLimit where
  productType : Int32
  snrThreshold : Nat
  snrLimitPreset : UInt32
  cropping : UInt32
  deriving DecidableEq, Repr

/-- `module_quality_test_limits`. The four croppings of an entry are the same. -/
def moduleQualityTestLimits : List ProductLimit :=
  [⟨16, 9, 0, 0⟩, ⟨6, 11, 1, 0⟩, ⟨17, 9, 0, 0⟩, ⟨25, 7, 1, 0⟩, ⟨36, 7, 1, 0⟩, ⟨10, 3, 0, 0⟩,
    ⟨21, 7, 1, 0⟩, ⟨20, 7, 1, 0⟩, ⟨23, 7, 1, 4⟩, ⟨14, 7, 1, 4⟩, ⟨22, 7, 1, 4⟩, ⟨26, 7, 1, 4⟩,
    ⟨15, 7, 2, 4⟩, ⟨24, 7, 1, 0⟩, ⟨38, 7, 1, 0⟩]

def defaultStabilizationMs : UInt32 := 500

def text (s : String) : List UInt8 := utf8 s.toList

/-- `strtok_r` with one delimiter: the next token and what is left behind it. -/
def strtok (delimiter : UInt8) (s : List UInt8) : Option (List UInt8 × List UInt8) :=
  match s.dropWhile (· == delimiter) with
  | [] => none
  | c :: rest =>
      some ((c :: rest).takeWhile (· != delimiter), ((c :: rest).dropWhile (· != delimiter)).drop 1)

/-- The first tokens, at most so many. -/
def tokens (delimiter : UInt8) : Nat → List UInt8 → List (List UInt8)
  | 0, _ => []
  | n + 1, s =>
      match strtok delimiter s with
      | none => []
      | some (token, rest) => token :: tokens delimiter n rest

variable {N}

/-- The croppings that the values of `snrcropping` replace, from the left on. -/
def QualityParams.cropped (params : QualityParams) : List UInt32 → QualityParams
  | [] => params
  | [l] => { params with snrCroppingLeft := l }
  | [l, t] => { params with snrCroppingLeft := l, snrCroppingTop := t }
  | [l, t, r] =>
      { params with snrCroppingLeft := l, snrCroppingTop := t, snrCroppingRight := r }
  | l :: t :: r :: b :: _ =>
      { params with
        snrCroppingLeft := l, snrCroppingTop := t, snrCroppingRight := r, snrCroppingBottom := b }

/-- What one key with its value replaces. -/
def QualityLimit.override (limit : QualityLimit N) (key : List UInt8) : QualityLimit N :=
  if (text "snr=").isPrefixOf key then
    { limit with snrThreshold := N.atof (key.drop (text "snr=").length) }
  else if (text "snrlimitpreset=").isPrefixOf key then
    { limit with
      params := { limit.params with
        snrLimitPreset := N.atoi (key.drop (text "snrlimitpreset=").length) } }
  else if (text "snrcropping=").isPrefixOf key then
    { limit with
      params := limit.params.cropped
        ((tokens 0x2C 4 (key.drop (text "snrcropping=").length)).map N.atoi) }
  else if (text "stabilizationms=").isPrefixOf key then
    { limit with stabilizationMs := N.atoi (key.drop (text "stabilizationms=").length) }
  else limit

variable (N)

/-- `get_module_quality_test_limit` behind the information of the sensor: nothing for a product that is
not in the table. -/
def qualityLimit (testLimits : List UInt8) (productType : UInt32) : Option (QualityLimit N) :=
  (moduleQualityTestLimits.find? fun entry => entry.productType == productType.toInt32).map fun entry =>
    (tokens 0x3B 4 testLimits).foldl QualityLimit.override
      { snrThreshold := N.literal entry.snrThreshold
        params := ⟨entry.snrLimitPreset, entry.cropping, entry.cropping, entry.cropping, entry.cropping⟩
        stabilizationMs := defaultStabilizationMs }

/-! ## The test of a name -/

/-- The tests that have a title. -/
inductive NamedTest
  | tee (test : SensortestTest)
  | moduleQuality
  | otpValidation
  deriving DecidableEq, Repr

/-- The titles in the order in which the name is compared with them. -/
def titles : List (String × NamedTest) :=
  [("Self Test", .tee .selfTest), ("Checkerboard Test", .tee .checkerboardTest),
    ("Image Quality Test", .tee .imageQualityTest), ("Image Reset Pixel Test", .tee .resetPixelTest),
    ("AFD Calibration Test", .tee .afdCalibrationTest),
    ("AFD Calibration Rubber Stamp Test", .tee .afdCalibrationRubberStampTest),
    ("AFD Rubber Stamp Test", .tee .afdRubberStampTest), ("Module Quality Test", .moduleQuality),
    ("OTP Validation Test", .otpValidation), ("PN Image Test", .tee .pnImageTest)]

/-- The test whose title a name begins with. -/
def testNamed (name : List UInt8) : Option NamedTest :=
  (titles.find? fun entry => (text entry.1).isPrefixOf name).map Prod.snd

/-- `test.name` and `test_input.test_limits_key_value_pair` of the module, and
`FPC_CONFIG_ENGINEERING`. -/
structure TestModule where
  name : List UInt8
  testLimits : List UInt8
  engineering : Bool

/-- What a test came to before its result is put together. -/
structure Ran where
  status : Int
  result : UInt32
  imageFetched : Bool
  resultString : CString 128
  errorString : CString 64

theorem resultString_fits : 0 < 128 := by decide

theorem errorString_fits : 0 < 64 := by decide

def Ran.of (imageFetched : Bool) (ended : Int × UInt32) : Ran where
  status := ended.1
  result := ended.2
  imageFetched := imageFetched
  resultString := .empty resultString_fits
  errorString := .empty errorString_fits

/-- What is made of the answer to a module quality test. -/
def Ran.ofQuality (engineering : Bool) (limit : QualityLimit N) (sent : QualityTested) : Ran :=
  if sent.status ≠ 0 then .of true (sent.status, 0)
  else if sent.response ≠ 0 then .of true (sent.response, sent.result)
  else if sent.result = 0 then
    { Ran.of true (0, if N.below sent.snr limit.snrThreshold then 1 else 0) with
      resultString :=
        if engineering then N.resultString sent.snr limit.snrThreshold else .empty resultString_fits }
  else
    { Ran.of true (0, sent.result) with
      errorString := if engineering then N.errorString sent.snrError else .empty errorString_fits }

/-- `fpc_tee_sensortest_run_module_quality_test` -/
def fpcTeeSensortestRunModuleQualityTest (engineering : Bool) (limit : QualityLimit N) :
    Script (Answer TestAnswer) Ran := do
  let status ← fpcTeeWaitFingerDown build
  if status ≠ 0 then .ret (.of true (status, 0))
  else do
    callTest (.sleep (limit.stabilizationMs * usecsPerMsec))
    let sent ← callTest (.moduleQuality limit.params)
    .ret (.ofQuality N engineering limit sent)

/-- The branch of `do_run_sensor_test` for the module quality test. -/
def runModuleQuality (m : TestModule) : Script (Answer TestAnswer) Ran := do
  let otp ← callTest .otpInfo
  if otp.1 ≠ 0 then .ret (.of false (otp.1, 0))
  else
    match qualityLimit N m.testLimits otp.2.productType with
    | none => .ret (.of false (fpcTaSensortestTestNotSupported, 0))
    | some limit => fpcTeeSensortestRunModuleQualityTest build N m.engineering limit

/-- The branch of `do_run_sensor_test` for the validation of the OTP memory. -/
def runOtpValidation : Script (Answer TestAnswer) Ran := do
  let otp ← callTest .otpInfo
  .ret (.of false (otp.1,
    if otp.1 = 0 ∧ 0 < otp.2.otpErrorInfo.totalNumBitErrors.toInt32 then 1 else 0))

/-- The tests that leave an image behind. -/
def fetchesImage : SensortestTest → Bool
  | .checkerboardTest | .imageQualityTest => true
  | _ => false

/-- The branches of `do_run_sensor_test` -/
def runNamed (m : TestModule) : Option NamedTest → Script (Answer TestAnswer) Ran
  | none => .ret (.of false (fpcTaSensortestTestNotSupported, 0))
  | some (.tee test) => do
      let ended ← fpcTeeSensortestRunTest build test 0
      .ret (.of (fetchesImage test) ended)
  | some .moduleQuality => runModuleQuality build N m
  | some .otpValidation => runOtpValidation

def testPass : Int32 := 0
def testFail : Int32 := 1
def testCancelled : Int32 := 2
def testNotSupported : Int32 := 3
def testError : Int32 := 4

/-- The `result_code` of a test. -/
def Ran.resultCode (ran : Ran) : Int32 :=
  if ran.status ≠ 0 then
    if ran.status = -fpcErrorCancelled then testCancelled
    else if ran.status = fpcTaSensortestTestNotSupported then testNotSupported
    else testError
  else if ran.result = 0 then testPass
  else testFail

/-- The result that is reported, with the image that was fetched. -/
def Ran.toResult (ran : Ran) (engineering : Bool) (image : Option (List UInt8)) : TestResult where
  resultCode := ran.resultCode
  resultString := ran.resultString
  errorCode := if ran.status ≠ 0 then Int32.ofInt ran.status else 0
  errorString := ran.errorString
  imageFetched := engineering && ran.imageFetched
  imageResult := image

/-- `do_run_sensor_test`, and whether it got to its end. The record is cleared before it is compared with
`NULL`, so that one which was not allocated ends the process. -/
def doRunSensorTest (m : TestModule) : Script (Answer TestAnswer) Bool := do
  let allocated ← callTest .malloc
  if !allocated then .ret false
  else do
    let ran ← runNamed build N m (testNamed m.name)
    if m.engineering && ran.imageFetched then do
      let image ← callTest .rawImage
      callTest (.report (some (ran.toResult m.engineering image)))
      callTest .freeImage
      callTest .free
      .ret true
    else do
      callTest (.report (some (ran.toResult m.engineering none)))
      callTest .free
      .ret true

end Fpc.SensorTests
