import Fingerprints.Ta.Calibration
import Fingerprints.Ta.MessageBounds
import Fingerprints.Ta.Snapshot

/-!
# Calibration data that is taken for valid

The three commands of `fpc_ta_pn.c` that take calibration data in or give it out keep their status in
one variable. A payload that unwraps to something else than an image leaves `PN_LOAD` with the status
of the unwrapping, and a wrapping that fails leaves `PN_CALIBRATE` with the status of the lookup of the
size in front of it. `CALIBRATE_FINGER_END` sets the status behind every call.

* **`fpcTaPnLoad_holds`**, **`fpcTaPnCalibrate_ok_iff`** and **`fpcTaPnCalibrateFingerEnd_ok`**: what a
  command that reports success went through;
* **`Sealed.loads`**: a sealed image loads wherever the crypto services undo the sealing;
* **`pnSound_iff`**: when no command reports success without valid calibration data.
-/

namespace Fpc

open Wire Wire.Outcome

section

variable {P : Platform} {env env' : Env} {hwAuth : HwAuthTa} {pn : PnSecurity}
  {msg msg' image : List UInt8} {size : Nat}

/-! ## A payload that is loaded -/

/-- The size of an image with its magic number, and that of its encryption object. -/
def pnDataSize (P : Platform) : UInt32 := P.sensorPnGetSize + fpcPnMagicLen

def pnEncryptedSize (P : Platform) : UInt32 := P.getWrappedSize (pnDataSize P)

/-- What the payload of a message unwraps to. -/
def unwrappedPayload (env : Env) (msg : List UInt8) (size : Nat) : Unwrapped :=
  fpcUnwrapCrypto env (slice msg offArray size)

/-- The message with its payload decrypted in place. -/
def decryptedMessage (env : Env) (msg : List UInt8) (size : Nat) : List UInt8 :=
  overlay msg offArray (unwrappedPayload env msg size).buffer

/-- The word of the decrypted payload that the data ends in. -/
def trailingWord (env : Env) (msg : List UInt8) (size : Nat) : UInt32 :=
  let unwrapped := unwrappedPayload env msg size
  field32 (decryptedMessage env msg size)
    (offArray + unwrapped.start + unwrapped.data.length - fpcPnMagicLen.toNat)

/-- The payload unwraps to as many bytes as an image and its magic number have, and ends in the magic
number. -/
def UnwrapsToImage (P : Platform) (env : Env) (msg : List UInt8) (size : Nat) : Prop :=
  (unwrappedPayload env msg size).data.length = (pnDataSize P).toNat ∧
    trailingWord env msg size = fpcPnMagic

instance : Decidable (UnwrapsToImage P env msg size) := inferInstanceAs (Decidable (_ ∧ _))

/-- The payload is valid calibration data, and the sensor accepts it. -/
structure Loads (P : Platform) (env : Env) (msg : List UInt8) (size : Nat) : Prop where
  unwrapped : (unwrappedPayload env msg size).status = 0
  image : UnwrapsToImage P env msg size
  accepted : env.pn.loadPn.toInt = fpcResultOk

/-- A load of a payload that is there. -/
theorem fpcTaPnLoad_holds (hsize : size ≠ 0) (hsensor : P.sensorPnGetSize ≠ 0)
    (hholds : PayloadHolds msg size) :
    fpcTaPnLoad P env msg size =
      .ok (if (unwrappedPayload env msg size).status = 0 ∧ UnwrapsToImage P env msg size then
          if env.pn.loadPn.toInt = fpcResultOk then fpcPnOk else -fpcPnFailed
        else (unwrappedPayload env msg size).status, decryptedMessage env msg size) := by
  have hslice : (slice msg offArray size).length = size := length_slice hholds
  have hbuffer : (unwrappedPayload env msg size).buffer.length = size := by
    rw [unwrappedPayload, length_fpcUnwrapCrypto_buffer, hslice]
  have hinside : (unwrappedPayload env msg size).start
      + (unwrappedPayload env msg size).data.length ≤ size := by
    have h := fpcUnwrapCrypto_inside env (slice msg offArray size)
    rwa [hslice] at h
  have hholds : offArray + size ≤ msg.length := hholds
  have hstore : storeSpan msg offArray (unwrappedPayload env msg size).buffer
      = .ok (decryptedMessage env msg size) := storeSpan_eq (by rw [hbuffer]; exact hholds)
  have hlength : (decryptedMessage env msg size).length = msg.length :=
    length_overlay (by rw [hbuffer]; exact hholds)
  have hmagic : fpcPnMagicLen.toNat = 4 := rfl
  have hoff : offArray = 16 := rfl
  have hunwrap : fpcUnwrapCrypto env (slice msg offArray size) = unwrappedPayload env msg size := rfl
  have hlookup : fpcTaPnGetSize P false = (fpcResultOk, P.sensorPnGetSize) := by
    simp [fpcTaPnGetSize, hsensor, fpcResultOk, fpcPnOk]
  have hnumber : P.sensorPnGetSize + fpcPnMagicLen = pnDataSize P := rfl
  unfold fpcTaPnLoad
  simp only [if_neg hsize, hlookup, ne_eq, not_true_eq_false, if_false, loadSpan_eq hholds, ok_bind,
    hunwrap, hstore, hnumber]
  by_cases hdata : (unwrappedPayload env msg size).data.length = (pnDataSize P).toNat
  · have hword : load32 (decryptedMessage env msg size)
        (offArray + (unwrappedPayload env msg size).start + (pnDataSize P).toNat - fpcPnMagicLen.toNat)
        = .ok (trailingWord env msg size) := by
      rw [load32_eq (by omega), trailingWord, hdata]
    by_cases hstatus : (unwrappedPayload env msg size).status = 0
    · rw [if_neg (by rw [not_or, not_not, not_not]; exact ⟨hstatus, hdata⟩), hword, ok_bind]
      by_cases hnumber : trailingWord env msg size = fpcPnMagic
      · have himage : (unwrappedPayload env msg size).status = 0 ∧ UnwrapsToImage P env msg size :=
          ⟨hstatus, hdata, hnumber⟩
        rw [if_neg (not_not.mpr hnumber), if_pos himage]
        by_cases haccepted : env.pn.loadPn.toInt = fpcResultOk
        · rw [if_pos haccepted, if_pos haccepted]
        · rw [if_neg haccepted, if_neg haccepted]
      · rw [if_pos hnumber, if_neg (fun h => hnumber h.2.2)]
    · rw [if_pos (Or.inl hstatus), if_neg (fun h => hstatus h.1)]
  · rw [if_pos (Or.inr hdata), if_neg (fun h => hdata h.2.1)]

/-- The word that the data ends in is its last four bytes, where it has as many. -/
theorem trailingWord_eq (hholds : PayloadHolds msg size)
    (hlength : fpcPnMagicLen.toNat ≤ (unwrappedPayload env msg size).data.length) :
    trailingWord env msg size = ofLe32 ((unwrappedPayload env msg size).data.drop
      ((unwrappedPayload env msg size).data.length - fpcPnMagicLen.toNat)) := by
  have hholds : offArray + size ≤ msg.length := hholds
  have hslice : (slice msg offArray size).length = size := length_slice hholds
  have hinside := fpcUnwrapCrypto_inside env (slice msg offArray size)
  have hbuffer := length_fpcUnwrapCrypto_buffer env (slice msg offArray size)
  rw [trailingWord, decryptedMessage, field32]
  unfold unwrappedPayload at hlength ⊢
  generalize hunwrapped : fpcUnwrapCrypto env (slice msg offArray size) = unwrapped at *
  have hdata : unwrapped.data = slice unwrapped.buffer unwrapped.start
      (env.unwrapCrypto (slice msg offArray size)).size := by
    rw [← hunwrapped]
    rfl
  have hmagic : fpcPnMagicLen.toNat = 4 := rfl
  rw [show offArray + unwrapped.start + unwrapped.data.length - fpcPnMagicLen.toNat
      = offArray + (unwrapped.start + (unwrapped.data.length - fpcPnMagicLen.toNat)) by omega,
    slice_overlay_inside (by omega) (by omega)]
  rw [hdata] at hlength ⊢
  rw [drop_slice hlength, hmagic]

/-- A load that reports success had a payload, and unwrapped it. If it was an image, the sensor accepted
it. -/
theorem fpcTaPnLoad_ok_iff :
    (∃ msg', fpcTaPnLoad P env msg size = .ok (fpcPnOk, msg')) ↔
      size ≠ 0 ∧ P.sensorPnGetSize ≠ 0 ∧ PayloadHolds msg size ∧
        (unwrappedPayload env msg size).status = 0 ∧
        (UnwrapsToImage P env msg size → env.pn.loadPn.toInt = fpcResultOk) := by
  by_cases hsize : size = 0
  · simp [fpcTaPnLoad, hsize, fpcErrorAlloc, fpcPnOk]
  · by_cases hsensor : P.sensorPnGetSize = 0
    · simp [fpcTaPnLoad, hsize, fpcTaPnGetSize, hsensor, fpcPnFailed, fpcResultOk, fpcPnOk]
    · by_cases hholds : PayloadHolds msg size
      · rw [fpcTaPnLoad_holds hsize hsensor hholds]
        by_cases hstatus : (unwrappedPayload env msg size).status = 0
        · by_cases himage : UnwrapsToImage P env msg size
          · by_cases haccepted : env.pn.loadPn.toInt = fpcResultOk
            · simp [hsize, hsensor, hholds, hstatus, himage, haccepted]
            · simp [hsize, hsensor, hholds, hstatus, himage, haccepted, fpcPnFailed, fpcPnOk]
          · simp [hsize, hsensor, hholds, hstatus, himage, fpcPnOk]
        · simp [hsize, hsensor, hholds, hstatus, fpcPnOk]
      · have hfault : loadSpan msg offArray size = .fault (.load (max offArray msg.length)) :=
          if_neg (by rw [not_or]; exact ⟨hsize, hholds⟩)
        simp [fpcTaPnLoad, hsize, fpcTaPnGetSize, hsensor, fpcResultOk, fpcPnOk, hfault, hholds]

/-! ## An image that is given out -/

/-- `fpc_wrap_crypto` wraps an image, all of it. -/
def Seals (P : Platform) (env : Env) (image : List UInt8) : Prop :=
  (env.wrapCrypto image).status = 0 ∧ (env.wrapCrypto image).size = pnEncryptedSize P

instance : Decidable (Seals P env image) := inferInstanceAs (Decidable (_ ∧ _))

/-- Unwrapping undoes wrapping. -/
def UndoesWrap (env env' : Env) : Prop :=
  ∀ data, (env.wrapCrypto data).status = 0 →
    (fpcUnwrapCrypto env' (env.wrapCrypto data).bytes).status = 0 ∧
      (fpcUnwrapCrypto env' (env.wrapCrypto data).bytes).data = data

/-- The payload of a message starts with the encryption object of an image with its magic number, all
of it, and any message that starts with it loads where the crypto services undo the wrapping and the
sensor accepts the image. -/
structure Sealed (P : Platform) (env : Env) (image msg : List UInt8) : Prop where
  seals : Seals P env image
  length : image.length = P.sensorPnGetSize.toNat + fpcPnMagicLen.toNat
  magic : image.drop (image.length - fpcPnMagicLen.toNat) = le32 fpcPnMagic
  object : slice msg offArray (pnEncryptedSize P).toNat = (env.wrapCrypto image).bytes
  complete : (env.wrapCrypto image).bytes.length = (pnEncryptedSize P).toNat
  loads : ∀ (env' : Env) (loaded : List UInt8), UndoesWrap env env' →
    env'.pn.loadPn.toInt = fpcResultOk →
    slice loaded offArray (pnEncryptedSize P).toNat = (env.wrapCrypto image).bytes →
    Loads P env' loaded (pnEncryptedSize P).toNat ∧
      ∃ msg', fpcTaPnLoad P env' loaded (pnEncryptedSize P).toNat = .ok (fpcPnOk, msg')

theorem pnImageBuffer_length (P : Platform) (image : List UInt8) :
    (pnImageBuffer P image).length = P.sensorPnGetSize.toNat + fpcPnMagicLen.toNat := by
  rw [pnImageBuffer, List.length_append, Vector.length_toList, length_le32]
  rfl

/-- An image ends in its magic number. -/
theorem pnImageBuffer_magic (P : Platform) (image : List UInt8) :
    (pnImageBuffer P image).drop ((pnImageBuffer P image).length - fpcPnMagicLen.toNat)
      = le32 fpcPnMagic := by
  rw [pnImageBuffer_length, Nat.add_sub_cancel, pnImageBuffer]
  exact List.drop_left' Vector.length_toList

/-- The encryption object of an image has as many bytes as the message is to take. -/
theorem length_wrapCrypto (hwrap : WrapsToSize P env) (hseals : Seals P env image)
    (hlength : image.length = P.sensorPnGetSize.toNat + fpcPnMagicLen.toNat) :
    (env.wrapCrypto image).bytes.length = (pnEncryptedSize P).toNat := by
  have hnonneg : ¬ (env.wrapCrypto image).status < 0 := by
    rw [hseals.1]
    decide
  rw [hwrap image hnonneg, hlength, UInt32.ofNat_add, UInt32.ofNat_toNat, UInt32.ofNat_toNat]
  rfl

/-- The encryption object of an image loads from any message that starts with it. -/
theorem loads_of_object (hsensor : P.sensorPnGetSize ≠ 0) (hseals : Seals P env image)
    (hlength : image.length = P.sensorPnGetSize.toNat + fpcPnMagicLen.toNat)
    (hmagic : image.drop (image.length - fpcPnMagicLen.toNat) = le32 fpcPnMagic)
    (hcomplete : (env.wrapCrypto image).bytes.length = (pnEncryptedSize P).toNat)
    (hundoes : UndoesWrap env env') (haccepts : env'.pn.loadPn.toInt = fpcResultOk)
    (hobject : slice msg offArray (pnEncryptedSize P).toNat = (env.wrapCrypto image).bytes) :
    Loads P env' msg (pnEncryptedSize P).toNat ∧
      ∃ msg', fpcTaPnLoad P env' msg (pnEncryptedSize P).toNat = .ok (fpcPnOk, msg') := by
  obtain ⟨hstatus, hdata⟩ := hundoes image hseals.1
  have hinside := fpcUnwrapCrypto_inside env' (env.wrapCrypto image).bytes
  rw [hdata, hcomplete] at hinside
  have hpayload : unwrappedPayload env' msg (pnEncryptedSize P).toNat
      = fpcUnwrapCrypto env' (env.wrapCrypto image).bytes := by
    rw [unwrappedPayload, hobject]
  have hmagicLen : fpcPnMagicLen.toNat = 4 := rfl
  -- the object contains its image, so it is not empty, and the size of the image is no overflow
  have hlt : (pnEncryptedSize P).toNat < 2 ^ 32 := (pnEncryptedSize P).toNat_lt
  have hsize : (pnDataSize P).toNat = image.length := by
    rw [pnDataSize, UInt32.toNat_add, hlength]
    omega
  have hholds : PayloadHolds msg (pnEncryptedSize P).toNat := by
    have hslice := congrArg List.length hobject
    rw [hcomplete, slice, List.length_take, List.length_drop] at hslice
    unfold PayloadHolds
    omega
  have himage : UnwrapsToImage P env' msg (pnEncryptedSize P).toNat := by
    refine ⟨by rw [hpayload, hdata, hsize], ?_⟩
    rw [trailingWord_eq hholds (by rw [hpayload, hdata]; omega), hpayload, hdata, hmagic, ofLe32_le32]
  have hstatus : (unwrappedPayload env' msg (pnEncryptedSize P).toNat).status = 0 := by
    rw [hpayload, hstatus]
  refine ⟨⟨hstatus, himage, haccepts⟩, ?_⟩
  exact fpcTaPnLoad_ok_iff.mpr ⟨by omega, hsensor, hholds, hstatus, fun _ => haccepts⟩

/-- An image that was wrapped into a message is sealed there. -/
theorem wrapIntoMessage_sealed (hsensor : P.sensorPnGetSize ≠ 0) (hwrap : WrapsToSize P env)
    (hseals : Seals P env (pnImageBuffer P image))
    (hstore : wrapIntoMessage env msg (pnImageBuffer P image) (pnEncryptedSize P) = .ok msg') :
    Sealed P env (pnImageBuffer P image) msg' := by
  have hlength := pnImageBuffer_length P image
  have hmagic := pnImageBuffer_magic P image
  have hcomplete := length_wrapCrypto hwrap hseals hlength
  have hobject : slice msg' offArray (pnEncryptedSize P).toNat
      = (env.wrapCrypto (pnImageBuffer P image)).bytes := by
    rw [wrapIntoMessage, List.take_of_length_le (le_of_eq hcomplete)] at hstore
    rw [← hcomplete]
    by_cases hempty : (env.wrapCrypto (pnImageBuffer P image)).bytes.length = 0
    · rw [hempty, List.length_eq_zero_iff.mp hempty, slice, List.take_zero]
    · obtain ⟨hin, rfl⟩ := storeSpan_ok hstore hempty
      exact slice_overlay (by omega)
  exact
    { seals := hseals, length := hlength, magic := hmagic, object := hobject, complete := hcomplete,
      loads := fun env' loaded hundoes haccepts hloaded =>
        loads_of_object hsensor hseals hlength hmagic hcomplete hundoes haccepts hloaded }

/-! ## The commands -/

/-- A calibration with a finger that comes to its wrapping, and none of its calls fails. -/
structure CalibrateWraps (P : Platform) (env : Env) (msg : List UInt8) (size : Nat) : Prop where
  sensor : P.sensorPnGetSize ≠ 0
  room : (pnEncryptedSize P).toNat ≤ size
  start : env.pn.communicationStart = 0
  malloc : env.pn.malloc = true
  calibrated : env.pn.pnCalibrate.1.toInt = fpcResultOk
  inside : ∃ msg', wrapIntoMessage env msg (pnImageBuffer P env.pn.pnCalibrate.2) (pnEncryptedSize P)
    = .ok msg'
  stop : env.pn.communicationStop = 0

theorem fpcTaPnGetSize_true (hsensor : P.sensorPnGetSize ≠ 0) :
    fpcTaPnGetSize P true = (fpcResultOk, pnEncryptedSize P) := by
  rw [fpcTaPnGetSize, if_neg hsensor, if_pos rfl]
  rfl

theorem calibrateExit_ok_iff {ret : Int} :
    calibrateExit env ret msg = (fpcPnOk, msg') ↔
      env.pn.communicationStop = 0 ∧ ret = fpcPnOk ∧ msg = msg' := by
  unfold calibrateExit
  split
  · next hstop => simp [hstop, fpcPnFailed, fpcPnOk]
  · next hstop => simp [not_not.mp hstop]

/-- An error stays one at the exit. -/
theorem calibrateExit_ne {ret : Int} (h : ret ≠ fpcPnOk) :
    (Outcome.ok (calibrateExit env ret msg)) ≠ .ok (fpcPnOk, msg') := by
  intro hok
  injection hok with hok
  exact h (calibrateExit_ok_iff.mp hok).2.1

/-- A calibration that reports success has wrapped its image, whatever came of that. -/
theorem fpcTaPnCalibrate_ok_iff :
    fpcTaPnCalibrate P env msg size = .ok (fpcPnOk, msg') ↔
      CalibrateWraps P env msg size ∧
        wrapIntoMessage env msg (pnImageBuffer P env.pn.pnCalibrate.2) (pnEncryptedSize P)
          = .ok msg' := by
  constructor
  · intro h
    by_cases hsensor : P.sensorPnGetSize = 0
    · have hlookup : fpcTaPnGetSize P true = (-fpcPnFailed, 0) := by
        rw [fpcTaPnGetSize, if_pos hsensor]
      unfold fpcTaPnCalibrate at h
      simp only [hlookup] at h
      rw [if_pos (by decide)] at h
      exact absurd h (calibrateExit_ne (by decide))
    · unfold fpcTaPnCalibrate at h
      simp only [fpcTaPnGetSize_true hsensor, ne_eq, not_true_eq_false, if_false] at h
      by_cases hroom : (pnEncryptedSize P).toNat > size
      · simp [hroom, fpcPnFailed, fpcPnOk] at h
      by_cases hstart : env.pn.communicationStart = 0
      · cases hmalloc : env.pn.malloc
        · simp only [hroom, hstart, hmalloc, not_true_eq_false, Bool.not_false, if_true, if_false] at h
          exact absurd h (calibrateExit_ne (by decide))
        · by_cases hcalibrated : env.pn.pnCalibrate.1.toInt = fpcResultOk
          · simp only [hroom, hstart, hmalloc, hcalibrated, not_true_eq_false, Bool.not_true,
              Bool.false_eq_true, if_false, if_true] at h
            obtain ⟨msg1, hstore, hexit⟩ := bind_eq_ok.mp h
            injection hexit with hexit
            obtain ⟨hstop, _, rfl⟩ := calibrateExit_ok_iff.mp hexit
            exact ⟨⟨hsensor, Nat.not_lt.mp hroom, hstart, hmalloc, hcalibrated, ⟨_, hstore⟩, hstop⟩,
              hstore⟩
          · -- neither what a lost finger returns nor what a failure does is success
            simp only [hroom, hstart, hmalloc, hcalibrated, not_true_eq_false, Bool.not_true,
              Bool.false_eq_true, if_false] at h
            split at h
            · exact absurd h (calibrateExit_ne (by decide))
            · exact absurd h (calibrateExit_ne (by decide))
      · simp [hroom, hstart, fpcErrorResetHardware, fpcPnOk] at h
  · intro h
    obtain ⟨hwraps, hstore⟩ := h
    unfold fpcTaPnCalibrate
    simp only [fpcTaPnGetSize_true hwraps.sensor, ne_eq, not_true_eq_false, if_false,
      Nat.not_lt.mpr hwraps.room, hwraps.start, hwraps.malloc, hwraps.calibrated,
      Bool.not_true, Bool.false_eq_true, if_true, hstore, ok_bind]
    rw [calibrateExit_ok_iff.mpr ⟨hwraps.stop, rfl, rfl⟩]

/-- The end of a calibration that reports success with a buffer for the image has sealed it. -/
theorem fpcTaPnCalibrateFingerEnd_ok (hsize : size ≠ 0)
    (h : fpcTaPnCalibrateFingerEnd P env hwAuth pn msg size = .ok (fpcPnOk, msg')) :
    P.sensorPnGetSize ≠ 0 ∧ Seals P env (pnImageBuffer P env.pn.imageToPnImage.2) ∧
      wrapIntoMessage env msg (pnImageBuffer P env.pn.imageToPnImage.2) (pnEncryptedSize P)
        = .ok msg' := by
  unfold fpcTaPnCalibrateFingerEnd at h
  by_cases htoken : pnValidateIncomingToken P env hwAuth pn ≠ 0
  · simp [htoken, fpcErrorTimedout, fpcPnOk] at h
  by_cases hend : env.pn.calibrateFingerEnd.toInt ≠ fpcResultOk
  · simp [htoken, hend, fpcPnFailed, fpcPnOk] at h
  by_cases hsensor : P.sensorPnGetSize = 0
  · simp [htoken, hsize, hsensor, fpcTaPnGetSize, fpcPnFailed, fpcResultOk, fpcPnOk] at h
  rw [if_neg htoken, if_neg hend, if_neg hsize, fpcTaPnGetSize_true hsensor] at h
  simp only [ne_eq, not_true_eq_false, if_false] at h
  by_cases hroom : (pnEncryptedSize P).toNat > size
  · simp [hroom, fpcPnFailed, fpcPnOk] at h
  cases hmalloc : env.pn.malloc
  · simp [hroom, hmalloc, fpcPnMemory, fpcPnOk] at h
  by_cases himage : env.pn.imageToPnImage.1.toInt = fpcResultOk
  · simp only [hroom, hmalloc, himage, not_true_eq_false, Bool.not_true, Bool.false_eq_true,
      if_false] at h
    obtain ⟨msg1, hstore, hresult⟩ := bind_eq_ok.mp h
    by_cases hseals : Seals P env (pnImageBuffer P env.pn.imageToPnImage.2)
    · rw [if_neg (by rw [not_or, not_not, not_not]; exact hseals)] at hresult
      injection hresult with hresult
      cases hresult
      exact ⟨hsensor, hseals, hstore⟩
    · rw [if_pos (by rw [← not_and_or]; exact hseals)] at hresult
      simp [fpcPnFailed, fpcPnOk] at hresult
  · simp [hroom, hmalloc, himage, fpcPnFailed, fpcPnOk] at h

/-- Success of a command is reported for valid calibration data only. -/
structure PnSound (P : Platform) (env : Env) (hwAuth : HwAuthTa) (pn : PnSecurity)
    (msg : List UInt8) (size : Nat) : Prop where
  load : ∀ msg', fpcTaPnLoad P env msg size = .ok (fpcPnOk, msg') → Loads P env msg size
  calibrate : ∀ msg', fpcTaPnCalibrate P env msg size = .ok (fpcPnOk, msg') →
    Sealed P env (pnImageBuffer P env.pn.pnCalibrate.2) msg'
  calibrateFingerEnd : size ≠ 0 → ∀ msg',
    fpcTaPnCalibrateFingerEnd P env hwAuth pn msg size = .ok (fpcPnOk, msg') →
      Sealed P env (pnImageBuffer P env.pn.imageToPnImage.2) msg'

/-- Success of a command is reported for valid calibration data only exactly when a payload that is
loaded, and unwraps without an error, unwraps to an image, and a calibration that comes to its wrapping
without an error wraps its image. -/
theorem pnSound_iff (hwrap : WrapsToSize P env) :
    PnSound P env hwAuth pn msg size ↔
      (size ≠ 0 → P.sensorPnGetSize ≠ 0 → PayloadHolds msg size →
        (unwrappedPayload env msg size).status = 0 → UnwrapsToImage P env msg size) ∧
      (CalibrateWraps P env msg size → Seals P env (pnImageBuffer P env.pn.pnCalibrate.2)) := by
  constructor
  · intro h
    constructor
    · intro hsize hsensor hholds hstatus
      by_contra himage
      have hok := fpcTaPnLoad_ok_iff.mpr
        ⟨hsize, hsensor, hholds, hstatus, fun h => absurd h himage⟩
      obtain ⟨msg', hok⟩ := hok
      exact himage (h.load msg' hok).image
    · intro hwraps
      obtain ⟨msg', hstore⟩ := hwraps.inside
      exact (h.calibrate msg' (fpcTaPnCalibrate_ok_iff.mpr ⟨hwraps, hstore⟩)).seals
  · rintro ⟨hload, hcalibrate⟩
    refine ⟨?_, ?_, ?_⟩
    · intro msg' hok
      obtain ⟨hsize, hsensor, hholds, hstatus, haccepted⟩ := fpcTaPnLoad_ok_iff.mp ⟨msg', hok⟩
      have himage := hload hsize hsensor hholds hstatus
      exact ⟨hstatus, himage, haccepted himage⟩
    · intro msg' hok
      obtain ⟨hwraps, hstore⟩ := fpcTaPnCalibrate_ok_iff.mp hok
      exact wrapIntoMessage_sealed hwraps.sensor hwrap (hcalibrate hwraps) hstore
    · intro hsize msg' hok
      obtain ⟨hsensor, hseals, hstore⟩ := fpcTaPnCalibrateFingerEnd_ok hsize hok
      exact wrapIntoMessage_sealed hsensor hwrap hseals hstore

end

/-- A message with a payload. -/
def payloadMessage (payload : List UInt8) : List UInt8 := List.replicate offArray 0 ++ payload

/-- The encryption object of an image of four bytes. -/
def sampleObject : List UInt8 := [1, 2, 3, 4] ++ (le32 fpcPnMagic ++ List.replicate 48 0x5E)

theorem sealing_wrapsToSize_sampleSensor : WrapsToSize sampleSensor .sealing :=
  Env.sealing_wrapsToSize

/-- An image is loaded, and others are calibrated in its place. -/
theorem sampleObject_sound :
    PnSound sampleSensor .sealing (pnAuthorisedTa sampleSensor).hwAuth
        (pnAuthorisedTa sampleSensor).pnSecurity (payloadMessage sampleObject) 56 ∧
      (∃ msg', fpcTaPnLoad sampleSensor .sealing (payloadMessage sampleObject) 56
        = .ok (fpcPnOk, msg')) ∧
      (∃ msg', fpcTaPnCalibrate sampleSensor .sealing (payloadMessage sampleObject) 56
        = .ok (fpcPnOk, msg')) ∧
      ∃ msg', fpcTaPnCalibrateFingerEnd sampleSensor .sealing (pnAuthorisedTa sampleSensor).hwAuth
        (pnAuthorisedTa sampleSensor).pnSecurity (payloadMessage sampleObject) 56
          = .ok (fpcPnOk, msg') := by
  have himage : UnwrapsToImage sampleSensor .sealing (payloadMessage sampleObject) 56 := by
    decide +kernel
  have hseals : Seals sampleSensor .sealing
      (pnImageBuffer sampleSensor Env.sealing.pn.pnCalibrate.2) := by
    decide +kernel
  refine ⟨?_, ⟨_, rfl⟩, ⟨_, rfl⟩, ⟨_, rfl⟩⟩
  exact (pnSound_iff sealing_wrapsToSize_sampleSensor).mpr
    ⟨fun _ _ _ _ => himage, fun _ => hseals⟩

/-- An encryption object of two bytes is no image, and loading it is reported as a success. -/
theorem shortObject_loaded :
    ¬ ∀ (P : Platform) (env : Env) (hwAuth : HwAuthTa) (pn : PnSecurity) (msg : List UInt8)
      (size : Nat), WrapsToSize P env → PnSound P env hwAuth pn msg size := by
  intro h
  have hsound := h sampleSensor .sealing (pnAuthorisedTa sampleSensor).hwAuth
    (pnAuthorisedTa sampleSensor).pnSecurity (payloadMessage ([1, 2] ++ List.replicate 48 0x5E)) 50
    sealing_wrapsToSize_sampleSensor
  have himage := (hsound.load _ rfl).image
  revert himage
  decide +kernel

end Fpc
