import Fingerprints.Wire.Message
import Fingerprints.Wire.Parcel

/-!
# The parcels of the sensor tests

The results and the hardware information of `com.fingerprints.extension.sensortest` pass from native
code to Java, and between Java processes. Each of `SensorTestResult` and `SensorInfo` has a writer and
a reader by hand, and each has a native writer in `IFingerprintSensorTest.cpp`; nothing in a parcel
tells where a field begins.

A reader and a writer agree when every field is read as it was written and what follows in the parcel
is left where it is. The native writers agree with the readers, and so does the writer of
`SensorInfo`. That of `SensorTestResult` leaves the image out, and the flag that there is one, which
its reader then takes from what follows: **`parcelAgrees_iff`**.
-/

namespace Fpc.SensorParcels

open Wire Wire.Outcome

variable {W : Type}

abbrev JavaString := JavaArray UInt16

/-! ## `SensorTestResult` -/

/-- `SensorTestResult.ResultCode` -/
inductive ResultCode where
  | pass
  | fail
  | cancelled
  | notSupported
  | error
  deriving DecidableEq, Repr

def ResultCode.values : List ResultCode := [.pass, .fail, .cancelled, .notSupported, .error]

def ResultCode.getValue : ResultCode → Int32
  | .pass => 0
  | .fail => 1
  | .cancelled => 2
  | .notSupported => 3
  | .error => 4

def ResultCode.fromInt (i : Int32) : ResultCode :=
  (ResultCode.values.find? fun r => r.getValue = i).getD .error

/-- `SensorTestResult`, whose objects may be null. -/
structure SensorTestResult where
  resultCode : Option ResultCode
  resultString : Option JavaString
  errorCode : Int32
  errorString : Option JavaString
  imageFetched : Bool
  image : Option (JavaArray UInt8)
  deriving DecidableEq, Repr

/-- The constructor `SensorTestResult(Parcel)`, with what it leaves behind the position. -/
def SensorTestResult.ofParcel (P : ParcelCalls W) (parcel : List W) : SensorTestResult × List W :=
  let (resultCode, parcel) := P.readInt parcel
  let (resultString, parcel) := P.readString parcel
  let (errorCode, parcel) := P.readInt parcel
  let (errorString, parcel) := P.readString parcel
  let (imageFetched, parcel) := P.readInt parcel
  let (image, parcel) := if imageFetched ≠ 0 then P.createByteArray parcel else (none, parcel)
  ({ resultCode := some (ResultCode.fromInt resultCode), resultString, errorCode, errorString,
     imageFetched := imageFetched ≠ 0, image }, parcel)

/-- `SensorTestResult.writeToParcel` -/
def SensorTestResult.writeToParcel (P : ParcelCalls W) (result : SensorTestResult) :
    Outcome (List W) :=
  match result.resultCode with
  | none => .fault .null
  | some resultCode =>
      .ok (List.flatten
        [P.writeInt resultCode.getValue,
         P.writeString (result.resultString.map JavaArray.elems),
         P.writeInt result.errorCode,
         P.writeString (result.errorString.map JavaArray.elems)])

/-! ## `SensorInfo` -/

/-- The fields of `SensorInfo` that are written and read. -/
structure SensorInfoValues where
  mSensorDieValidFlag : Int32
  mHardwareId : Int32
  mLotId : Option JavaString
  mWaferId : Int32
  mWaferPositionX : Int32
  mWaferPositionY : Int32
  mProductionTimestamp : Option JavaString
  mCompanionDieValidFlag : Int32
  mCompanionChipHardwareId : Int32
  mCompanionChipLotId : Option JavaString
  mVendorHwValidFlag : Int32
  mVendorData : Option (JavaArray UInt8)
  mTotalNumOtpBitErrors : Int32
  mMaxNumOtpBitErrorsInByte : Int32
  mProductType : Int32
  deriving DecidableEq, Repr

/-- `SensorInfo`: its values, and the strings that show them. The map that `getParameterMap` makes of
these is left out. -/
structure SensorInfo extends SensorInfoValues where
  mHardwareIdStr : Option (List UInt16)
  mLotIdStr : Option (List UInt16)
  mWaferIdStr : Option (List UInt16)
  mWaferPositionXStr : Option (List UInt16)
  mWaferPositionYStr : Option (List UInt16)
  mProductionTimestampStr : Option (List UInt16)
  mCompanionChipHardwareIdStr : Option (List UInt16)
  mCompanionChipLotIdStr : Option (List UInt16)
  mVendorDataStr : Option (List UInt16)
  mTotalNumOtpBitErrorsStr : Option (List UInt16)
  mMaxNumOtpBitErrorsInByteStr : Option (List UInt16)
  deriving DecidableEq, Repr

/-- A string literal. -/
def ascii (text : String) : List UInt16 := utf16 text.toList

/-- `Integer.toString` -/
def toDecimal (x : Int32) : List UInt16 := ascii (toString x.toInt)

/-- `"0x" + Integer.toHexString` -/
def toHex (x : Int32) : List UInt16 := ascii "0x" ++ utf16 (Nat.toDigits 16 x.toUInt32.toNat)

/-- `Arrays.toString` of bytes, which Java takes for signed. -/
def arrayToString : Option (JavaArray UInt8) → List UInt16
  | none => ascii "null"
  | some array =>
      ascii "[" ++ ((array.elems.map fun b => ascii (toString b.toInt8.toInt)).intersperse
        (ascii ", ")).flatten ++ ascii "]"

/-- `parseValue` of a value that is there or not. -/
def parseAvailable (valueAvailable : Bool) (value : Option (List UInt16)) : Option (List UInt16) :=
  if !valueAvailable then some (ascii "N/A (" ++ value.getD (ascii "null") ++ ascii ")")
  else value

def isFieldSet (bitField mask : Int32) : Bool := 0 < (bitField &&& mask)

/-- `parseValue` of a value that a bit field tells of. -/
def parseValue (bitField mask : Int32) (value : Option (List UInt16)) : Option (List UInt16) :=
  parseAvailable (isFieldSet bitField mask) value

def fpcSensorDieHardwareIdField : Int32 := 1
def fpcSensorDieLotIdField : Int32 := 2
def fpcSensorDieWaferIdField : Int32 := 4
def fpcSensorDieWaferPositionXField : Int32 := 8
def fpcSensorDieWaferPositionYField : Int32 := 16
def fpcSensorDieProductionTimestampField : Int32 := 32
def fpcCompanionDieHardwareIdField : Int32 := 1
def fpcCompanionDieLotIdField : Int32 := 2
def fpcVendorHwData : Int32 := 1

/-- The information with these values, as the constructor shows them. -/
def SensorInfoValues.shown (v : SensorInfoValues) : SensorInfo where
  toSensorInfoValues := v
  mHardwareIdStr :=
    parseValue v.mSensorDieValidFlag fpcSensorDieHardwareIdField (some (toHex v.mHardwareId))
  mLotIdStr :=
    parseValue v.mSensorDieValidFlag fpcSensorDieLotIdField (v.mLotId.map JavaArray.elems)
  mWaferIdStr :=
    parseValue v.mSensorDieValidFlag fpcSensorDieWaferIdField (some (toDecimal v.mWaferId))
  mWaferPositionXStr :=
    parseValue v.mSensorDieValidFlag fpcSensorDieWaferPositionXField
      (some (toDecimal v.mWaferPositionX))
  mWaferPositionYStr :=
    parseValue v.mSensorDieValidFlag fpcSensorDieWaferPositionYField
      (some (toDecimal v.mWaferPositionY))
  mProductionTimestampStr :=
    parseValue v.mSensorDieValidFlag fpcSensorDieProductionTimestampField
      (v.mProductionTimestamp.map JavaArray.elems)
  mCompanionChipHardwareIdStr :=
    parseValue v.mCompanionDieValidFlag fpcCompanionDieHardwareIdField
      (some (toHex v.mCompanionChipHardwareId))
  mCompanionChipLotIdStr :=
    parseValue v.mCompanionDieValidFlag fpcCompanionDieLotIdField
      (v.mCompanionChipLotId.map JavaArray.elems)
  mVendorDataStr :=
    parseValue v.mVendorHwValidFlag fpcVendorHwData (some (arrayToString v.mVendorData))
  mTotalNumOtpBitErrorsStr :=
    parseAvailable (0 ≤ v.mTotalNumOtpBitErrors) (some (toDecimal v.mTotalNumOtpBitErrors))
  -- the total tells whether the maximum is there
  mMaxNumOtpBitErrorsInByteStr :=
    parseAvailable (0 ≤ v.mTotalNumOtpBitErrors) (some (toDecimal v.mMaxNumOtpBitErrorsInByte))

/-- The constructor `SensorInfo(Parcel)` -/
def SensorInfo.ofParcel (P : ParcelCalls W) (parcel : List W) : SensorInfo × List W :=
  let (mSensorDieValidFlag, parcel) := P.readInt parcel
  let (mHardwareId, parcel) := P.readInt parcel
  let (mLotId, parcel) := P.readString parcel
  let (mWaferId, parcel) := P.readInt parcel
  let (mWaferPositionX, parcel) := P.readInt parcel
  let (mWaferPositionY, parcel) := P.readInt parcel
  let (mProductionTimestamp, parcel) := P.readString parcel
  let (mCompanionDieValidFlag, parcel) := P.readInt parcel
  let (mCompanionChipHardwareId, parcel) := P.readInt parcel
  let (mCompanionChipLotId, parcel) := P.readString parcel
  let (mVendorHwValidFlag, parcel) := P.readInt parcel
  let (mVendorData, parcel) := P.createByteArray parcel
  let (mTotalNumOtpBitErrors, parcel) := P.readInt parcel
  let (mMaxNumOtpBitErrorsInByte, parcel) := P.readInt parcel
  let (mProductType, parcel) := P.readInt parcel
  let values : SensorInfoValues :=
    { mSensorDieValidFlag, mHardwareId, mLotId, mWaferId, mWaferPositionX, mWaferPositionY,
      mProductionTimestamp, mCompanionDieValidFlag, mCompanionChipHardwareId, mCompanionChipLotId,
      mVendorHwValidFlag, mVendorData, mTotalNumOtpBitErrors, mMaxNumOtpBitErrorsInByte,
      mProductType }
  (values.shown, parcel)

/-- `SensorInfo.writeToParcel` -/
def SensorInfo.writeToParcel (P : ParcelCalls W) (info : SensorInfo) : List W :=
  List.flatten
    [P.writeInt info.mSensorDieValidFlag,
     P.writeInt info.mHardwareId,
     P.writeString (info.mLotId.map JavaArray.elems),
     P.writeInt info.mWaferId,
     P.writeInt info.mWaferPositionX,
     P.writeInt info.mWaferPositionY,
     P.writeString (info.mProductionTimestamp.map JavaArray.elems),
     P.writeInt info.mCompanionDieValidFlag,
     P.writeInt info.mCompanionChipHardwareId,
     P.writeString (info.mCompanionChipLotId.map JavaArray.elems),
     P.writeInt info.mVendorHwValidFlag,
     P.writeByteArray (info.mVendorData.map JavaArray.elems),
     P.writeInt info.mTotalNumOtpBitErrors,
     P.writeInt info.mMaxNumOtpBitErrorsInByte,
     P.writeInt info.mProductType]

/-! ## The native records -/

/-- A string in a `char` array of a size, which its zero is inside of. -/
structure CString (size : Nat) where
  bytes : List UInt8
  noZero : 0 ∉ bytes
  length_lt : bytes.length < size
  deriving DecidableEq, Repr

def CString.empty {size : Nat} (h : 0 < size) : CString size := ⟨[], List.not_mem_nil, h⟩

/-- `fpc_hal_ext_sensortest_test_result_t`. Of the image it has the bytes at `buffer`, as many as
`buffer_size`, where `buffer` is not null. -/
structure TestResult where
  resultCode : Int32
  resultString : CString 128
  errorCode : Int32
  errorString : CString 64
  imageFetched : Bool
  imageResult : Option (List UInt8)
  deriving DecidableEq, Repr

/-- `fpc_sensor_die_info_t` -/
structure SensorDieInfo where
  hardwareId : UInt16
  lotId : CString 7
  waferId : UInt8
  waferPositionX : Int16
  waferPositionY : Int16
  productionTimestamp : CString 11
  validField : UInt8
  deriving DecidableEq, Repr

/-- `fpc_companion_die_info_t` -/
structure CompanionDieInfo where
  hardwareId : UInt16
  lotId : CString 7
  validField : UInt8
  deriving DecidableEq, Repr

/-- `fpc_vendor_hw_info_t` -/
structure VendorHwInfo where
  vendorData : Vector UInt8 20
  vendorDataSize : UInt8
  validField : UInt8
  deriving DecidableEq, Repr

/-- `fpc_otp_error_info_t` -/
structure OtpErrorInfo where
  totalNumBitErrors : UInt32
  maxNumBitErrorsInByte : UInt32
  deriving DecidableEq, Repr

/-- `fpc_hw_module_info_t` -/
structure HwModuleInfo where
  sensorDieInfo : SensorDieInfo
  companionDieInfo : CompanionDieInfo
  vendorOtpInfo : VendorHwInfo
  otpErrorInfo : OtpErrorInfo
  productType : UInt32
  deriving DecidableEq, Repr

/-- The information before `getSensorInfo` of the device. The vendor data, of which there is none, is
not set. -/
def HwModuleInfo.invalid : HwModuleInfo where
  sensorDieInfo :=
    { hardwareId := 0xFFFF, lotId := .empty (by decide), waferId := 0xFF, waferPositionX := 0x7FFF,
      waferPositionY := 0x7FFF, productionTimestamp := .empty (by decide), validField := 0 }
  companionDieInfo := { hardwareId := 0xFFFF, lotId := .empty (by decide), validField := 0 }
  vendorOtpInfo := { vendorData := Vector.replicate 20 0, vendorDataSize := 0, validField := 0 }
  otpErrorInfo := { totalNumBitErrors := 0, maxNumBitErrorsInByte := 0 }
  productType := 0

/-! ## The native writers -/

def noParcelData : Int32 := 0
def hasParcelData : Int32 := 1

/-- `writeString16(String16(…))` -/
def writeCString (P : ParcelCalls W) {size : Nat} (string : CString size) : List W :=
  P.writeString (some (P.string16 string.bytes))

/-- `BpSensorTestCallback::onResult`, behind the interface token. -/
def onResult (P : ParcelCalls W) (token : List W) : Option TestResult → List W
  | some result =>
      token ++ (P.writeInt hasParcelData ++ List.flatten
        [P.writeInt result.resultCode,
         writeCString P result.resultString,
         P.writeInt result.errorCode,
         writeCString P result.errorString,
         P.writeInt (if result.imageFetched then 1 else 0),
         if result.imageFetched then P.writeByteArray result.imageResult else []])
  | none => token ++ P.writeInt noParcelData

/-- What the case `GET_SENSOR_INFO` writes behind its presence header. -/
def sensorInfoFields (P : ParcelCalls W) (info : HwModuleInfo) (vendorData : List UInt8) : List W :=
  List.flatten
    [P.writeInt info.sensorDieInfo.validField.toUInt32.toInt32,
     P.writeInt info.sensorDieInfo.hardwareId.toUInt32.toInt32,
     writeCString P info.sensorDieInfo.lotId,
     P.writeInt info.sensorDieInfo.waferId.toUInt32.toInt32,
     P.writeInt info.sensorDieInfo.waferPositionX.toInt32,
     P.writeInt info.sensorDieInfo.waferPositionY.toInt32,
     writeCString P info.sensorDieInfo.productionTimestamp,
     P.writeInt info.companionDieInfo.validField.toUInt32.toInt32,
     P.writeInt info.companionDieInfo.hardwareId.toUInt32.toInt32,
     writeCString P info.companionDieInfo.lotId,
     P.writeInt info.vendorOtpInfo.validField.toUInt32.toInt32,
     P.writeByteArray (some vendorData),
     P.writeInt info.otpErrorInfo.totalNumBitErrors.toInt32,
     P.writeInt info.otpErrorInfo.maxNumBitErrorsInByte.toInt32,
     P.writeInt info.productType.toInt32]

/-- The case `GET_SENSOR_INFO` of `BnFingerprintSensorTest::onTransact`, for a caller that has the
permission: the reply, behind the header of `writeNoException`. More vendor data than the array holds
is read behind it. -/
def onTransactGetSensorInfo (P : ParcelCalls W) (noException : List W)
    (getSensorInfo : HwModuleInfo → HwModuleInfo) : Outcome (List W) := do
  let info := getSensorInfo .invalid
  let vendorData ← loadSpan info.vendorOtpInfo.vendorData.toList 0
    info.vendorOtpInfo.vendorDataSize.toNat
  .ok (noException ++ (P.writeInt hasParcelData ++ sensorInfoFields P info vendorData))

/-! ## What is read -/

/-- A Java string is the text of a native one. -/
def Means (bytes : List UInt8) (string : Option JavaString) : Prop :=
  ∃ text, utf8 text = bytes ∧ string.map JavaArray.elems = some (utf16 text)

/-- Every field of a native result is in the Java one; an image is there when one was fetched. -/
structure SensorTestResult.Reproduces (java : SensorTestResult) (result : TestResult) : Prop where
  resultCode : java.resultCode.map ResultCode.getValue = some result.resultCode
  resultString : Means result.resultString.bytes java.resultString
  errorCode : java.errorCode = result.errorCode
  errorString : Means result.errorString.bytes java.errorString
  imageFetched : java.imageFetched = result.imageFetched
  image : java.image.map JavaArray.elems = if result.imageFetched then result.imageResult else none

/-- Every field of the native information is in the Java one. An unsigned word keeps its bits. -/
structure SensorInfo.Reproduces (java : SensorInfo) (info : HwModuleInfo) : Prop where
  sensorDieValidFlag : java.mSensorDieValidFlag.toInt = info.sensorDieInfo.validField.toNat
  hardwareId : java.mHardwareId.toInt = info.sensorDieInfo.hardwareId.toNat
  lotId : Means info.sensorDieInfo.lotId.bytes java.mLotId
  waferId : java.mWaferId.toInt = info.sensorDieInfo.waferId.toNat
  waferPositionX : java.mWaferPositionX.toInt = info.sensorDieInfo.waferPositionX.toInt
  waferPositionY : java.mWaferPositionY.toInt = info.sensorDieInfo.waferPositionY.toInt
  productionTimestamp :
    Means info.sensorDieInfo.productionTimestamp.bytes java.mProductionTimestamp
  companionDieValidFlag :
    java.mCompanionDieValidFlag.toInt = info.companionDieInfo.validField.toNat
  companionChipHardwareId :
    java.mCompanionChipHardwareId.toInt = info.companionDieInfo.hardwareId.toNat
  companionChipLotId : Means info.companionDieInfo.lotId.bytes java.mCompanionChipLotId
  vendorHwValidFlag : java.mVendorHwValidFlag.toInt = info.vendorOtpInfo.validField.toNat
  vendorData : ∃ vendorData, java.mVendorData.map JavaArray.elems = some vendorData ∧
    vendorData.length = info.vendorOtpInfo.vendorDataSize.toNat ∧
    vendorData <+: info.vendorOtpInfo.vendorData.toList
  totalNumOtpBitErrors : java.mTotalNumOtpBitErrors.toUInt32 = info.otpErrorInfo.totalNumBitErrors
  maxNumOtpBitErrorsInByte :
    java.mMaxNumOtpBitErrorsInByte.toUInt32 = info.otpErrorInfo.maxNumBitErrorsInByte
  productType : java.mProductType.toUInt32 = info.productType

/-- What stands behind a token or a header: the presence header, and what a constructor makes of the
rest. -/
def createPresent {α : Type} (P : ParcelCalls W) (create : List W → α × List W) (parcel : List W) :
    Int32 × α × List W :=
  let (header, parcel) := P.readInt parcel
  (header, create parcel)

/-- What is written into a parcel. -/
inductive Written where
  | result (result : SensorTestResult)
  | onResult (result : TestResult)
  | info (info : SensorInfo)
  | getSensorInfo (device : HwModuleInfo → HwModuleInfo)

/-- The constructor reads every field of what was written, and leaves what follows. -/
def Agrees (P : ParcelCalls W) (preamble rest : List W) : Written → Prop
  | .result result => ∃ written, result.writeToParcel P = .ok written ∧
      SensorTestResult.ofParcel P (written ++ rest) = (result, rest)
  | .onResult result => ∃ java, java.Reproduces result ∧
      createPresent P (SensorTestResult.ofParcel P)
        ((onResult P preamble (some result) ++ rest).drop preamble.length)
          = (hasParcelData, java, rest)
  | .info info => SensorInfo.ofParcel P (info.writeToParcel P ++ rest) = (info, rest)
  | .getSensorInfo device => ∃ reply java,
      onTransactGetSensorInfo P preamble device = .ok reply ∧ java.Reproduces (device .invalid) ∧
      createPresent P (SensorInfo.ofParcel P) ((reply ++ rest).drop preamble.length)
        = (hasParcelData, java, rest)

def IsUtf8 (bytes : List UInt8) : Prop := ∃ text, utf8 text = bytes

/-- What Java has a value for: the code of a `ResultCode`, strings of UTF-8, and an image whose length
is an `int`. -/
structure TestResult.InJava (result : TestResult) : Prop where
  resultCode : ∃ code : ResultCode, code.getValue = result.resultCode
  resultString : IsUtf8 result.resultString.bytes
  errorString : IsUtf8 result.errorString.bytes
  image : ∀ bytes, result.imageFetched = true → result.imageResult = some bytes →
    bytes.length < 2 ^ 31

structure HwModuleInfo.InJava (info : HwModuleInfo) : Prop where
  lotId : IsUtf8 info.sensorDieInfo.lotId.bytes
  productionTimestamp : IsUtf8 info.sensorDieInfo.productionTimestamp.bytes
  companionLotId : IsUtf8 info.companionDieInfo.lotId.bytes
  vendorDataSize : info.vendorOtpInfo.vendorDataSize.toNat ≤ 20

/-- When what is written is read as it was: of a result that Java writes only where it has no image and
nothing follows. -/
def AgreesWhen (rest : List W) : Written → Prop
  | .result result => result.resultCode ≠ none ∧ result.imageFetched = false ∧
      result.image = none ∧ rest = []
  | .onResult result => result.InJava
  | .info info => info.toSensorInfoValues.shown = info
  | .getSensorInfo device => (device .invalid).InJava

section

variable {P : ParcelCalls W} {rest : List W}

theorem fromInt_getValue (code : ResultCode) : ResultCode.fromInt code.getValue = code := by
  cases code <;> rfl

/-- A string of UTF-8 is read as the text it is. -/
theorem readString_writeCString (hP : P.Lawful) {size : Nat} {string : CString size}
    (hsize : size < 2 ^ 31) (h : IsUtf8 string.bytes) :
    ∃ java, Means string.bytes java ∧
      ∀ rest, P.readString (writeCString P string ++ rest) = (java, rest) := by
  obtain ⟨text, htext⟩ := h
  have hlt : (utf16 text).length < 2 ^ 31 := by
    have hle := length_utf16_le text
    have hbytes := string.length_lt
    rw [htext] at hle
    omega
  refine ⟨some ⟨utf16 text, hlt⟩, ⟨text, htext, rfl⟩, fun rest => ?_⟩
  have hread := hP.readString_writeString (some ⟨utf16 text, hlt⟩) rest
  unfold writeCString
  rw [← htext, hP.string16_utf8]
  exact hread

/-- The flag of an image is what is read behind the four fields. -/
theorem SensorTestResult.ofParcel_fields (hP : P.Lawful) (code errorCode : Int32)
    (resultString errorString : Option JavaString) :
    SensorTestResult.ofParcel P (List.flatten
        [P.writeInt code, P.writeString (resultString.map JavaArray.elems), P.writeInt errorCode,
         P.writeString (errorString.map JavaArray.elems)] ++ rest)
      = (let (imageFetched, parcel) := P.readInt rest
         let (image, parcel) :=
           if imageFetched ≠ 0 then P.createByteArray parcel else (none, parcel)
         ({ resultCode := some (ResultCode.fromInt code), resultString, errorCode, errorString,
            imageFetched := imageFetched ≠ 0, image }, parcel)) := by
  unfold SensorTestResult.ofParcel
  simp only [List.flatten_cons, List.flatten_nil, List.append_nil, List.append_assoc,
    hP.readInt_writeInt, hP.readString_writeString]

/-- A read that takes the flag of an image takes a word of what follows. -/
theorem rest_eq_nil_of_flag (hP : P.Lawful) {flag : Int32} {left left' : List W}
    {image : Option (JavaArray UInt8)} (hflag : P.readInt rest = (flag, left))
    (himage : (if flag ≠ 0 then P.createByteArray left else (none, left)) = (image, left'))
    (hleft : left' = rest) : rest = [] := by
  by_contra hrest
  have hlt := hP.length_readInt_lt rest hrest
  rw [hflag] at hlt
  have hle : left'.length ≤ left.length := by
    split at himage
    · have hcreate := hP.length_createByteArray_le left
      rw [himage] at hcreate
      exact hcreate
    · cases himage
      exact Nat.le_refl _
  rw [hleft] at hle
  exact absurd hlt (Nat.not_lt.mpr hle)

/-- The result that Java writes has no image and no flag for it. -/
theorem SensorTestResult.agrees_result_iff (hP : P.Lawful) (result : SensorTestResult)
    (preamble rest : List W) :
    Agrees P preamble rest (.result result) ↔ AgreesWhen rest (.result result) := by
  constructor
  · rintro ⟨written, hwritten, hread⟩
    unfold SensorTestResult.writeToParcel at hwritten
    split at hwritten
    · cases hwritten
    · next code hcode =>
      cases hwritten
      rw [SensorTestResult.ofParcel_fields hP] at hread
      cases hflag : P.readInt rest with
      | mk flag left =>
        rw [hflag] at hread
        dsimp only at hread
        cases himage : (if flag ≠ 0 then P.createByteArray left else (none, left)) with
        | mk image left' =>
          rw [himage] at hread
          obtain ⟨hresult, hleft⟩ := Prod.mk.inj hread
          have hnil := rest_eq_nil_of_flag hP hflag himage hleft
          rw [hnil, hP.readInt_end] at hflag
          cases hflag
          cases himage
          refine ⟨by rw [hcode]; exact Option.some_ne_none _, ?_, ?_, hnil⟩
          · rw [← hresult]
            rfl
          · rw [← hresult]
  · rintro ⟨hcode, hfetched, himage, rfl⟩
    obtain ⟨code, hcode⟩ := Option.ne_none_iff_exists'.mp hcode
    refine ⟨_, by unfold SensorTestResult.writeToParcel; rw [hcode], ?_⟩
    rw [SensorTestResult.ofParcel_fields hP, hP.readInt_end]
    obtain ⟨resultCode, resultString, errorCode, errorString, imageFetched, image⟩ := result
    dsimp only at hcode hfetched himage
    subst hcode hfetched himage
    simp [fromInt_getValue]

/-- What stands behind the presence header is read by the constructor. -/
theorem createPresent_append (hP : P.Lawful) {α : Type} (create : List W → α × List W)
    (preamble fields rest : List W) :
    createPresent P create
        ((preamble ++ (P.writeInt hasParcelData ++ fields) ++ rest).drop preamble.length)
      = (hasParcelData, create (fields ++ rest)) := by
  rw [List.append_assoc, List.drop_left, List.append_assoc, createPresent, hP.readInt_writeInt]

/-- A result from native code is read as what it is, where Java has values for it. -/
theorem agrees_onResult (hP : P.Lawful) {result : TestResult} (h : result.InJava)
    (preamble rest : List W) : Agrees P preamble rest (.onResult result) := by
  obtain ⟨code, hcode⟩ := h.resultCode
  obtain ⟨resultString, hresult, hreadResult⟩ :=
    readString_writeCString hP (by decide) h.resultString
  obtain ⟨errorString, herror, hreadError⟩ := readString_writeCString hP (by decide) h.errorString
  have himage : ∃ image : Option (JavaArray UInt8), image.map JavaArray.elems
      = (if result.imageFetched then result.imageResult else none) := by
    cases hfetched : result.imageFetched with
    | false => exact ⟨none, rfl⟩
    | true =>
      cases hbytes : result.imageResult with
      | none => exact ⟨none, rfl⟩
      | some bytes => exact ⟨some ⟨bytes, h.image bytes hfetched hbytes⟩, rfl⟩
  obtain ⟨image, himage⟩ := himage
  refine ⟨{ resultCode := some code, resultString, errorCode := result.errorCode, errorString,
            imageFetched := result.imageFetched, image }, ?_, ?_⟩
  · exact ⟨congrArg some hcode, hresult, rfl, herror, rfl, himage⟩
  · unfold onResult
    rw [createPresent_append hP, ← hcode]
    unfold SensorTestResult.ofParcel
    simp only [List.flatten_cons, List.flatten_nil, List.append_nil, List.append_assoc,
      hP.readInt_writeInt, hreadResult, hreadError, fromInt_getValue]
    cases hfetched : result.imageFetched with
    | false =>
      rw [hfetched] at himage
      cases image with
      | none => simp
      | some image => cases himage
    | true =>
      rw [hfetched] at himage
      have hread := hP.createByteArray_writeByteArray image rest
      rw [himage] at hread
      simp only [if_true] at hread
      simp [hread]

/-- The values of an information are read as they were written, and shown anew. -/
theorem SensorInfo.ofParcel_writeToParcel (hP : P.Lawful) (info : SensorInfo) (rest : List W) :
    SensorInfo.ofParcel P (info.writeToParcel P ++ rest) = (info.toSensorInfoValues.shown, rest) := by
  unfold SensorInfo.ofParcel SensorInfo.writeToParcel
  simp only [List.flatten_cons, List.flatten_nil, List.append_nil, List.append_assoc,
    hP.readInt_writeInt, hP.readString_writeString, hP.createByteArray_writeByteArray]

/-- What was read from a parcel shows its values, so that it is read again as it is. -/
theorem SensorInfo.shown_ofParcel (P : ParcelCalls W) (parcel : List W) :
    (SensorInfo.ofParcel P parcel).1.toSensorInfoValues.shown = (SensorInfo.ofParcel P parcel).1 :=
  rfl

theorem SensorInfo.agrees_info_iff (hP : P.Lawful) (info : SensorInfo) (preamble rest : List W) :
    Agrees P preamble rest (.info info) ↔ AgreesWhen rest (.info info) := by
  show SensorInfo.ofParcel P (info.writeToParcel P ++ rest) = (info, rest) ↔
    info.toSensorInfoValues.shown = info
  rw [SensorInfo.ofParcel_writeToParcel hP]
  constructor
  · intro h
    exact (Prod.mk.inj h).1
  · intro h
    rw [h]

theorem toInt_toInt32_of_lt {x : UInt32} (h : x.toNat < 2 ^ 31) : x.toInt32.toInt = x.toNat := by
  have hint := Int32.toInt_ofNat_of_lt h
  rw [← UInt32.toInt32_ofNat', UInt32.ofNat_toNat] at hint
  exact hint

theorem toInt_toInt32_byte (x : UInt8) : x.toUInt32.toInt32.toInt = x.toNat := by
  have hlt := x.toNat_lt
  rw [toInt_toInt32_of_lt (by rw [UInt8.toNat_toUInt32]; omega), UInt8.toNat_toUInt32]

theorem toInt_toInt32_half (x : UInt16) : x.toUInt32.toInt32.toInt = x.toNat := by
  have hlt := x.toNat_lt
  rw [toInt_toInt32_of_lt (by rw [UInt16.toNat_toUInt32]; omega), UInt16.toNat_toUInt32]

theorem vendorData_inside {info : HwModuleInfo} (h : info.InJava) :
    0 + info.vendorOtpInfo.vendorDataSize.toNat ≤ info.vendorOtpInfo.vendorData.toList.length := by
  rw [Vector.length_toList, Nat.zero_add]
  exact h.vendorDataSize

/-- The fields of an information are read as what they are, where Java has values for them. -/
theorem SensorInfo.ofParcel_fields (hP : P.Lawful) {info : HwModuleInfo} (h : info.InJava) :
    ∃ java : SensorInfo, java.Reproduces info ∧ ∀ rest, SensorInfo.ofParcel P
        (sensorInfoFields P info (slice info.vendorOtpInfo.vendorData.toList 0
          info.vendorOtpInfo.vendorDataSize.toNat) ++ rest) = (java, rest) := by
  obtain ⟨lotId, hlotId, hreadLotId⟩ := readString_writeCString hP (by decide) h.lotId
  obtain ⟨timestamp, htimestamp, hreadTimestamp⟩ :=
    readString_writeCString hP (by decide) h.productionTimestamp
  obtain ⟨companionLotId, hcompanion, hreadCompanion⟩ :=
    readString_writeCString hP (by decide) h.companionLotId
  have hlength := length_slice (vendorData_inside h)
  have hprefix : slice info.vendorOtpInfo.vendorData.toList 0
      info.vendorOtpInfo.vendorDataSize.toNat <+: info.vendorOtpInfo.vendorData.toList :=
    List.take_prefix _ _
  generalize slice info.vendorOtpInfo.vendorData.toList 0
    info.vendorOtpInfo.vendorDataSize.toNat = vendorData at hlength hprefix ⊢
  have hlt : vendorData.length < 2 ^ 31 := by
    rw [hlength]
    exact lt_of_le_of_lt h.vendorDataSize (by decide)
  have hreadVendor := hP.createByteArray_writeByteArray (some ⟨vendorData, hlt⟩)
  rw [Option.map_some] at hreadVendor
  let values : SensorInfoValues :=
    { mSensorDieValidFlag := info.sensorDieInfo.validField.toUInt32.toInt32
      mHardwareId := info.sensorDieInfo.hardwareId.toUInt32.toInt32
      mLotId := lotId
      mWaferId := info.sensorDieInfo.waferId.toUInt32.toInt32
      mWaferPositionX := info.sensorDieInfo.waferPositionX.toInt32
      mWaferPositionY := info.sensorDieInfo.waferPositionY.toInt32
      mProductionTimestamp := timestamp
      mCompanionDieValidFlag := info.companionDieInfo.validField.toUInt32.toInt32
      mCompanionChipHardwareId := info.companionDieInfo.hardwareId.toUInt32.toInt32
      mCompanionChipLotId := companionLotId
      mVendorHwValidFlag := info.vendorOtpInfo.validField.toUInt32.toInt32
      mVendorData := some ⟨vendorData, hlt⟩
      mTotalNumOtpBitErrors := info.otpErrorInfo.totalNumBitErrors.toInt32
      mMaxNumOtpBitErrorsInByte := info.otpErrorInfo.maxNumBitErrorsInByte.toInt32
      mProductType := info.productType.toInt32 }
  refine ⟨values.shown, ?_, fun rest => ?_⟩
  · exact {
      sensorDieValidFlag := toInt_toInt32_byte _
      hardwareId := toInt_toInt32_half _
      lotId := hlotId
      waferId := toInt_toInt32_byte _
      waferPositionX := Int16.toInt_toInt32 _
      waferPositionY := Int16.toInt_toInt32 _
      productionTimestamp := htimestamp
      companionDieValidFlag := toInt_toInt32_byte _
      companionChipHardwareId := toInt_toInt32_half _
      companionChipLotId := hcompanion
      vendorHwValidFlag := toInt_toInt32_byte _
      vendorData := ⟨vendorData, rfl, hlength, hprefix⟩
      totalNumOtpBitErrors := UInt32.toUInt32_toInt32 _
      maxNumOtpBitErrorsInByte := UInt32.toUInt32_toInt32 _
      productType := UInt32.toUInt32_toInt32 _ }
  · unfold SensorInfo.ofParcel sensorInfoFields
    simp only [List.flatten_cons, List.flatten_nil, List.append_nil, List.append_assoc,
      hP.readInt_writeInt, hreadLotId, hreadTimestamp, hreadCompanion, hreadVendor]
    rfl

theorem onTransactGetSensorInfo_eq {device : HwModuleInfo → HwModuleInfo}
    (h : (device .invalid).InJava) (noException : List W) :
    onTransactGetSensorInfo P noException device
      = .ok (noException ++ (P.writeInt hasParcelData ++ sensorInfoFields P (device .invalid)
          (slice (device .invalid).vendorOtpInfo.vendorData.toList 0
            (device .invalid).vendorOtpInfo.vendorDataSize.toNat))) := by
  unfold onTransactGetSensorInfo
  dsimp only
  rw [loadSpan_eq (vendorData_inside h), ok_bind]

theorem agrees_getSensorInfo (hP : P.Lawful) {device : HwModuleInfo → HwModuleInfo}
    (h : (device .invalid).InJava) (preamble rest : List W) :
    Agrees P preamble rest (.getSensorInfo device) := by
  obtain ⟨java, hjava, hread⟩ := SensorInfo.ofParcel_fields hP h
  refine ⟨_, java, onTransactGetSensorInfo_eq h preamble, hjava, ?_⟩
  rw [createPresent_append hP, hread]

/-- Only what Java has a value for is reproduced. -/
theorem inJava_of_agrees_onResult {result : TestResult} {preamble : List W}
    (h : Agrees P preamble rest (.onResult result)) : result.InJava := by
  obtain ⟨java, hjava, _⟩ := h
  obtain ⟨code, _, hcode⟩ := Option.map_eq_some_iff.mp hjava.resultCode
  obtain ⟨resultText, hresult, _⟩ := hjava.resultString
  obtain ⟨errorText, herror, _⟩ := hjava.errorString
  refine ⟨⟨code, hcode⟩, ⟨resultText, hresult⟩, ⟨errorText, herror⟩, ?_⟩
  intro bytes hfetched hbytes
  have himage := hjava.image
  rw [hfetched, if_pos rfl, hbytes] at himage
  obtain ⟨array, _, helems⟩ := Option.map_eq_some_iff.mp himage
  rw [← helems]
  exact array.length_lt

theorem inJava_of_agrees_getSensorInfo {device : HwModuleInfo → HwModuleInfo} {preamble : List W}
    (h : Agrees P preamble rest (.getSensorInfo device)) : (device .invalid).InJava := by
  obtain ⟨reply, java, hreply, hjava, _⟩ := h
  obtain ⟨lotText, hlot, _⟩ := hjava.lotId
  obtain ⟨timeText, htime, _⟩ := hjava.productionTimestamp
  obtain ⟨companionText, hcompanion, _⟩ := hjava.companionChipLotId
  obtain ⟨vendorData, _, hlength, hprefix⟩ := hjava.vendorData
  have hle := hprefix.length_le
  rw [hlength, Vector.length_toList] at hle
  exact ⟨⟨lotText, hlot⟩, ⟨timeText, htime⟩, ⟨companionText, hcompanion⟩, hle⟩

/-- **A record is read as it was written, and nothing of what follows it, exactly when** it is a
native one that Java has values for, or an information whose strings show its values, or a result
without an image that Java wrote at the end of a parcel. -/
theorem parcelAgrees_iff (hP : P.Lawful) (preamble rest : List W) (written : Written) :
    Agrees P preamble rest written ↔ AgreesWhen rest written := by
  cases written with
  | result result => exact SensorTestResult.agrees_result_iff hP result preamble rest
  | onResult result =>
    exact ⟨inJava_of_agrees_onResult, fun h => agrees_onResult hP h preamble rest⟩
  | info info => exact SensorInfo.agrees_info_iff hP info preamble rest
  | getSensorInfo device =>
    exact ⟨inJava_of_agrees_getSensorInfo, fun h => agrees_getSensorInfo hP h preamble rest⟩

end

/-- A result of native code with an image of two bytes. -/
def fetchedResult : TestResult where
  resultCode := 0
  resultString := ⟨[0x4F, 0x4B], by decide, by decide⟩
  errorCode := 0
  errorString := .empty (by decide)
  imageFetched := true
  imageResult := some [0x10, 0x20]

/-- It is read as it is from a parcel in which more follows. -/
theorem parcelAgrees_fetched : Agrees wordParcel [7] [1, 2] (.onResult fetchedResult) := by
  apply (parcelAgrees_iff wordParcel_lawful [7] [1, 2] (.onResult fetchedResult)).mpr
  refine ⟨⟨.pass, rfl⟩, ⟨['O', 'K'], by decide⟩, ⟨[], rfl⟩, ?_⟩
  intro bytes _ hbytes
  cases hbytes
  decide

/-- The result that `new SensorTestResult(ResultCode.PASS)` makes. -/
def passResult : SensorTestResult where
  resultCode := some .pass
  resultString := some ⟨[], by decide⟩
  errorCode := 0
  errorString := some ⟨[], by decide⟩
  imageFetched := false
  image := none

/-- **A result with an image is read without it, and one without an image takes the int that
follows.** -/
theorem parcels_broken :
    ¬ Agrees wordParcel [] []
        (.result { passResult with imageFetched := true, image := some ⟨[0x10, 0x20], by decide⟩ }) ∧
      ¬ Agrees wordParcel [] (wordParcel.writeInt 0) (.result passResult) := by
  rw [SensorTestResult.agrees_result_iff wordParcel_lawful,
    SensorTestResult.agrees_result_iff wordParcel_lawful]
  constructor
  · rintro ⟨_, hfetched, _⟩
    cases hfetched
  · rintro ⟨_, _, _, hrest⟩
    cases hrest

end Fpc.SensorParcels
