import Fingerprints.Ta.State

/-!
# What the application gets from outside

The matcher, the sensor, the file system, the crypto services, the clock and the allocator are
not part of the application. What does not change over a run is the `Platform`: the HMAC function
and two sizes. What one command gets from the calls it makes, successes and failures alike, is its
`Env`; a status is a C `int`.
-/

namespace Fpc

open Wire

/-- How the build configures liveness detection. -/
inductive LivenessDetection where
  | enabled
  | appOnly
  | disabled
  deriving DecidableEq, Repr

/-- The services whose result depends on their arguments alone: HMAC-SHA256 of data under a key,
the size of an encryption object, and the size of a pixel noise image. -/
structure Platform where
  liveness : LivenessDetection
  hmacSha256 : List UInt8 → Vector UInt8 32 → Vector UInt8 32
  getWrappedSize : UInt32 → UInt32
  sensorPnGetSize : UInt32

/-- A platform that knows the HMAC of some data under some keys. -/
def Platform.signing (macs : List ((List UInt8 × List UInt8) × Vector UInt8 32)) : Platform where
  liveness := .disabled
  hmacSha256 data key := (macs.lookup (data, key.toList)).getD (Vector.replicate 32 0)
  getWrappedSize size := size + 48
  sensorPnGetSize := 0x7800

/-- What the matcher answers. `identify` is given the liveness flag. The contents of a template
buffer come from the matcher, its address from `malloc`. -/
structure AlgoEnv where
  qualifyImage : Int32
  beginEnroll : Int32
  enroll : Int32 × EnrollData
  enrolMalloc : Option Addr
  endEnroll : Int32 × List UInt8
  beginIdentify : Int32
  identify : UInt8 → Int32 × IdentifyData
  identifyUpdate : Int32 × IdentifyData
  updateMalloc : Nat → Option Addr
  updateTemplates : Int32
  updatedTemplate : Nat → List UInt8
  endIdentify : Int32

/-- What the file system answers, and whether the buffer for a file is allocated. -/
structure FsEnv where
  getFilesize : Int32 × UInt32
  read : Int32 × List UInt8
  write : Int32
  malloc : Bool

/-- The outcome of `fpc_unwrap_crypto` on some encrypted data, which it decrypts in place: the bytes
that the buffer starts with afterwards, and where in it the data is. -/
structure UnwrapOutcome where
  status : Int32
  buffer : List UInt8
  start : Nat
  size : Nat

/-- The outcome of `fpc_wrap_crypto` on some data: the bytes written to the destination and their
size. -/
structure WrapOutcome where
  status : Int32
  bytes : List UInt8
  size : UInt32

/-- What the blob module's allocations give. -/
structure BlobEnv where
  mallocData : Bool
  mallocUnwrapped : Bool

/-- What the sensor and the matcher answer to the pixel noise module. -/
structure PnEnv where
  communicationStart : Int32
  communicationStop : Int32
  capturePnImage : Int32
  calibrateFinger : Int32
  imageDecision : UInt32
  imageQuality : UInt32
  pnQuality : UInt32
  progress : Int32
  calibrateFingerEnd : Int32
  loadPn : Int32
  malloc : Bool
  pnCalibrate : Int32 × List UInt8
  imageToPnImage : Int32 × List UInt8

/-- What one command gets from the calls it makes. -/
structure Env where
  db : DbEnv
  uptime : UInt64
  /-- The draws into a challenge, in order: the status and what the challenge holds after it. -/
  secureRandom : Nat → Int32 × UInt64
  hmacStatus : Int32
  /-- What a failing HMAC leaves in its output. -/
  hmacPartial : Vector UInt8 32
  /-- The status of the key service and the bytes it wrote over the front of the key. -/
  unwrapKey : Int32 × List UInt8
  unwrapCrypto : List UInt8 → UnwrapOutcome
  wrapCrypto : List UInt8 → WrapOutcome
  algo : AlgoEnv
  fs : FsEnv
  blob : BlobEnv
  pn : PnEnv
  /-- A sensor command came to capture an image. -/
  captured : Bool
  /-- The status and the reply of a module that shares no state with the ones above. -/
  other : Int32 × List UInt8

/-- A command during which every call succeeds. -/
def Env.willing : Env where
  db := .willing
  uptime := 1000
  secureRandom _ := (0, 0x1122334455667788)
  hmacStatus := 0
  hmacPartial := Vector.replicate 32 0
  unwrapKey := (0, List.replicate 32 0x0B)
  unwrapCrypto _ := { status := 0, buffer := [], start := 0, size := 0 }
  wrapCrypto _ := { status := 0, bytes := [], size := 0 }
  algo :=
    { qualifyImage := 0, beginEnroll := 0, enroll := (0, .zeroed), enrolMalloc := some 0x70000,
      endEnroll := (0, []), beginIdentify := 0,
      identify := fun _ => (0, { IdentifyData.zeroed with result := fpcAlgoIdentifyMatch }),
      identifyUpdate := (0, .zeroed), updateMalloc := fun i => some (0x80000 + 0x1000 * i),
      updateTemplates := 0, updatedTemplate := fun _ => [], endIdentify := 0 }
  fs := { getFilesize := (0, 0), read := (0, []), write := 1, malloc := true }
  blob := { mallocData := true, mallocUnwrapped := true }
  pn :=
    { communicationStart := 0, communicationStop := 0, capturePnImage := 0, calibrateFinger := 0,
      imageDecision := 1, imageQuality := 100, pnQuality := 100, progress := 100,
      calibrateFingerEnd := 0, loadPn := 0, malloc := true, pnCalibrate := (0, []),
      imageToPnImage := (0, []) }
  captured := true
  other := (0, [])

/-- `fpc_hmac_sha256`: the documented result on success, anything on failure. -/
def fpcHmacSha256 (P : Platform) (env : Env) (data : List UInt8) (key : Vector UInt8 32) :
    Int × Vector UInt8 32 :=
  if env.hmacStatus = 0 then (0, P.hmacSha256 data key) else (env.hmacStatus.toInt, env.hmacPartial)

/-- An HMAC that was computed without error is the documented one. -/
theorem fpcHmacSha256_ok {P : Platform} {env : Env} {data : List UInt8} {key : Vector UInt8 32}
    (h : (fpcHmacSha256 P env data key).1 = 0) :
    (fpcHmacSha256 P env data key).2 = P.hmacSha256 data key := by
  unfold fpcHmacSha256 at h ⊢
  split at h
  · next hstatus => rw [if_pos hstatus]
  · next hstatus => exact absurd (Int32.toInt_inj.mp h) hstatus

/-- The bytes over the front of a buffer, as far as it reaches. -/
def overFront (buf bytes : List UInt8) : List UInt8 :=
  bytes.take buf.length ++ buf.drop bytes.length

@[simp] theorem length_overFront (buf bytes : List UInt8) :
    (overFront buf bytes).length = buf.length := by
  simp only [overFront, List.length_append, List.length_take, List.length_drop]
  omega

theorem overFront_eq {buf bytes : List UInt8} (h : bytes.length = buf.length) :
    overFront buf bytes = bytes := by
  rw [overFront, List.take_of_length_le (by omega), List.drop_of_length_le (by omega),
    List.append_nil]

/-- Wrapping that succeeds yields as many bytes as `fpc_get_wrapped_size` says. -/
def WrapsToSize (P : Platform) (env : Env) : Prop :=
  ∀ data, ¬ (env.wrapCrypto data).status < 0 →
    (env.wrapCrypto data).bytes.length = (P.getWrappedSize (UInt32.ofNat data.length)).toNat

/-- What `fpc_unwrap_crypto` leaves: the buffer it decrypted in place, where the data starts in it,
and the data. -/
structure Unwrapped where
  status : Int
  buffer : List UInt8
  start : Nat
  data : List UInt8

/-- `fpc_unwrap_crypto`, without a buffer for the data. -/
def fpcUnwrapCrypto (env : Env) (encData : List UInt8) : Unwrapped :=
  let outcome := env.unwrapCrypto encData
  let buffer := overFront encData outcome.buffer
  let start := min outcome.start buffer.length
  { status := outcome.status.toInt, buffer := buffer, start := start,
    data := slice buffer start outcome.size }

@[simp] theorem length_fpcUnwrapCrypto_buffer (env : Env) (encData : List UInt8) :
    (fpcUnwrapCrypto env encData).buffer.length = encData.length :=
  length_overFront _ _

/-- The data lies inside the buffer. -/
theorem fpcUnwrapCrypto_inside (env : Env) (encData : List UInt8) :
    (fpcUnwrapCrypto env encData).start + (fpcUnwrapCrypto env encData).data.length
      ≤ encData.length := by
  simp only [fpcUnwrapCrypto, slice, List.length_take, List.length_drop, length_overFront]
  omega

/-! ## Results of the libraries (`fpc_result.h`) -/

def fpcResultOk : Int := 0
def fpcResultFingerLost : Int := 3
def fpcResultBadQuality : Int := 4
def fpcResultErrorMemory : Int := -7
def fpcResultErrorParameter : Int := -8
def fpcResultErrorTimedout : Int := -10
def fpcResultErrorSensor : Int := -11
def fpcResultErrorSpi : Int := -12
def fpcResultErrorState : Int := -15
def fpcResultErrorPn : Int := -16
def fpcResultErrorDeadPixels : Int := -17
def fpcResultErrorTemplateCorrupted : Int := -18

/-- `FAILED` -/
def failed (x : Int) : Prop := x < 0

instance (x : Int) : Decidable (failed x) := inferInstanceAs (Decidable (_ < _))

/-- `fpc_result_to_error` -/
def fpcResultToError (result : Int) : Int :=
  if result = fpcResultErrorMemory then -fpcErrorAlloc
  else if result = fpcResultErrorParameter then -fpcErrorInput
  else if result = fpcResultErrorTimedout then -fpcErrorTimedout
  else if result = fpcResultErrorSpi then -fpcErrorIo
  else if result = fpcResultErrorPn then -fpcErrorPn
  else if result = fpcResultErrorState then -fpcErrorNotInitialized
  else if result = fpcResultErrorSensor then -fpcErrorSensorBroken
  else if result = fpcResultErrorDeadPixels then -fpcErrorTooManyDeadPixels
  else if result = fpcResultErrorTemplateCorrupted then -fpcErrorTemplateCorrupted
  else -fpcErrorInput

/-- Every library result converts to an error. -/
theorem fpcResultToError_neg (result : Int) : fpcResultToError result < 0 := by
  unfold fpcResultToError
  repeat' split
  all_goals decide

end Fpc
