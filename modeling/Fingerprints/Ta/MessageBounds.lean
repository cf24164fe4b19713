import Fingerprints.Ta.Router

/-!
# Which messages the handlers stay inside of

The handlers of the hardware authentication and the pixel noise module check that a message holds
the fixed part of its command, and hand the embedded size of a payload on as it stands. The
functions compare it with the size of what they read or write, not with the length of the message.
So the accesses are inside exactly when the payload is: `handlers_inside_iff`.
-/

namespace Fpc

open Wire Wire.Outcome

/-- The size field of a message with a payload. -/
def payloadSize (msg : List UInt8) : Nat := (field32 msg offSize).toNat

/-- The first bytes of the payload are inside the message. -/
def PayloadHolds (msg : List UInt8) (n : Nat) : Prop := offArray + n ≤ msg.length

instance (msg : List UInt8) (n : Nat) : Decidable (PayloadHolds msg n) :=
  inferInstanceAs (Decidable (_ ≤ _))

/-- The command takes a token from its payload or puts one there. -/
def HwAuthCmd.movesToken : HwAuthCmd → Bool
  | .authorizeEnrol => true
  | .getAuthResult => true
  | _ => false

/-- When the hardware authentication handler stays inside a message: its command moves no token,
or the size field is too small for one, or the payload holds one. -/
def HwAuthInside (msg : List UInt8) : Prop :=
  ∀ cmd, hwAuthCmd msg = some cmd → cmd.movesToken = true →
    payloadSize msg < sizeofToken ∨ PayloadHolds msg sizeofToken

/-- When the pixel noise handler stays inside a message with a given command. An image is there
only when the sensor has a size for it. -/
def PnCmd.Inside (P : Platform) (msg : List UInt8) : PnCmd → Prop
  | .authorize => payloadSize msg < sizeofToken ∨ PayloadHolds msg sizeofToken
  | .load => P.sensorPnGetSize = 0 ∨ PayloadHolds msg (payloadSize msg)
  | .calibrate | .calibrateFingerEnd =>
      P.sensorPnGetSize = 0 ∨ payloadSize msg < (fpcTaPnGetSize P true).2.toNat ∨
        PayloadHolds msg (fpcTaPnGetSize P true).2.toNat
  | .getUnencryptedImage =>
      P.sensorPnGetSize = 0 ∨ payloadSize msg < P.sensorPnGetSize.toNat ∨
        PayloadHolds msg (payloadSize msg)
  | _ => True

def PnInside (P : Platform) (msg : List UInt8) : Prop :=
  ∀ cmd, pnCmd msg = some cmd → cmd.Inside P msg

section

variable {P : Platform} {env : Env} {ta : Ta} {msg : List UInt8}

/-- A handler of the common shape goes out of bounds in its case of the switch. -/
theorem outOfBounds_handleCommand {C : Type} {size : Nat} {ofWord : UInt32 → Option C}
    {handle : C → Outcome Handled} (hsize : sizeofHeader ≤ size) :
    (handleCommand size ofWord handle ta msg).OutOfBounds ↔
      ∃ cmd, commandIn size ofWord msg = some cmd ∧ (handle cmd).OutOfBounds := by
  cases hcmd : commandIn size ofWord msg with
  | none =>
    rw [handleCommand_of_none ta hsize hcmd]
    apply iff_of_false (not_outOfBounds_ok _)
    rintro ⟨cmd, hnone, _⟩
    cases hnone
  | some cmd =>
    rw [handleCommand_of_some ta hsize hcmd]
    constructor
    · intro h
      exact ⟨cmd, rfl, h⟩
    · rintro ⟨cmd', hsome, h⟩
      cases hsome
      exact h

/-- An answer that is put into the fixed part of the command stays inside. -/
theorem not_outOfBounds_answer {buf : List UInt8} {off : Nat} {x : UInt32}
    {k : List UInt8 → Handled} (h : off + 4 ≤ buf.length) :
    ¬ (store32 buf off x >>= fun buf => .ok (k buf)).OutOfBounds := by
  rw [store32_eq h, ok_bind]
  exact not_outOfBounds_ok _

/-! ## Hardware authentication -/

/-- A token is taken out of the payload behind a look at the size that the message gives. -/
theorem outOfBounds_takesToken {α : Type} {n : Nat} {rejected : α} {taken : List UInt8 → α} :
    Outcome.OutOfBounds (if n < sizeofToken then .ok rejected
      else loadSpan msg offArray sizeofToken >>= fun bytes => .ok (taken bytes)) ↔
        ¬ (n < sizeofToken ∨ PayloadHolds msg sizeofToken) := by
  unfold PayloadHolds
  split
  · next hsmall =>
    apply iff_of_false (not_outOfBounds_ok _)
    exact not_not.mpr (Or.inl hsmall)
  · next hlarge =>
    rw [outOfBounds_bind, outOfBounds_loadSpan]
    constructor
    · rintro (⟨_, hshort⟩ | ⟨_, _, hok⟩)
      · omega
      · exact absurd hok (not_outOfBounds_ok _)
    · intro h
      exact Or.inl ⟨by decide, by omega⟩

theorem outOfBounds_authorizeEnrol (hlen : sizeofHwAuthCommand ≤ msg.length) :
    (hwAuthSwitch P env ta msg .authorizeEnrol).OutOfBounds ↔
      ¬ (payloadSize msg < sizeofToken ∨ PayloadHolds msg sizeofToken) := by
  unfold sizeofHwAuthCommand at hlen
  rw [hwAuthSwitch, load32_eq (by unfold offSize; omega), ok_bind, outOfBounds_bind]
  refine (or_iff_left ?_).trans outOfBounds_takesToken
  rintro ⟨_, _, hanswer⟩
  exact not_outOfBounds_answer (by unfold offResponse; omega) hanswer

theorem firstIndex_fault {pDb : Option FingerprintDatabase} {p : Fingerprint → Bool} {f : Fault}
    (h : firstIndex pDb p = .fault f) : f = .null := by
  unfold firstIndex at h
  split at h
  · cases h
    rfl
  · split at h
    · cases h
    · cases h

/-- A token that the payload holds is written inside it. What remains is a database pointer that
is null. -/
theorem getAuthResult_inside (P : Platform) (env : Env) (ta : Ta) {size : Nat}
    (h : size < sizeofToken ∨ PayloadHolds msg sizeofToken) :
    getAuthResult P env ta msg size = .fault .null ∨
      ∃ response msg', getAuthResult P env ta msg size = .ok (response, msg') ∧
        msg'.length = msg.length := by
  unfold getAuthResult
  split
  · exact Or.inr ⟨_, msg, rfl, rfl⟩
  · next hlarge =>
    have hin : offArray + 69 ≤ msg.length := h.resolve_left hlarge
    split
    · next f hf =>
      rw [firstIndex_fault hf]
      exact Or.inl rfl
    · exact Or.inr ⟨_, msg, rfl, rfl⟩
    · next templateIndex _ =>
      dsimp only
      split
      · exact Or.inr ⟨_, msg, rfl, rfl⟩
      · next dbId _ =>
        right
        let token := authToken ta (tokenUserId ta templateIndex) dbId (Vector.replicate 32 0)
        obtain ⟨msg1, hstore1, hlen1⟩ := @exists_storeSpan msg token.signedBytes offArray
          (by rw [Token.length_signedBytes]; omega)
        rw [hstore1, ok_bind, loadSpan_eq (by unfold sizeofToken sizeofHmac; omega), ok_bind]
        obtain ⟨msg2, hstore2, hlen2⟩ := @exists_storeSpan msg1
          (fpcHmacSha256 P env (slice msg1 offArray (sizeofToken - sizeofHmac))
            ta.hwAuth.hmacKey).2.toList (offArray + (sizeofToken - sizeofHmac))
          (by rw [Vector.length_toList]; unfold sizeofToken sizeofHmac; omega)
        rw [hstore2, ok_bind]
        split
        · exact ⟨_, msg2, rfl, hlen2.trans hlen1⟩
        · exact ⟨_, msg2, rfl, hlen2.trans hlen1⟩

/-- A token that is signed goes out of bounds when the payload does not hold one. -/
theorem outOfBounds_getAuthResult {size templateIndex : Nat} {dbId : UInt64}
    (hsize : sizeofToken ≤ size) (hshort : ¬ PayloadHolds msg sizeofToken)
    (hindex : fpcDbGetIndexOfId32 ta.bio.userDb ta.bio.matchResult.templateId = .ok templateIndex)
    (hdb : fpcDbGetDatabaseId ta.bio.userDb = .ok dbId) :
    (getAuthResult P env ta msg size).OutOfBounds := by
  have hlen : msg.length < offArray + 69 := Nat.lt_of_not_le hshort
  unfold getAuthResult
  rw [if_neg (Nat.not_lt.mpr hsize), hindex]
  dsimp only
  rw [hdb]
  dsimp only
  let token := authToken ta (tokenUserId ta templateIndex) dbId (Vector.replicate 32 0)
  rw [outOfBounds_bind, outOfBounds_storeSpan, Token.length_signedBytes]
  -- the signed bytes may still be inside: the HMAC behind them is not
  cases Nat.lt_or_ge msg.length (offArray + 37) with
  | inl hsigned => exact Or.inl ⟨by decide, hsigned⟩
  | inr hsigned =>
    right
    obtain ⟨msg1, hstore1, hlen1⟩ := @exists_storeSpan msg token.signedBytes offArray
      (by rw [Token.length_signedBytes]; exact hsigned)
    refine ⟨msg1, hstore1, ?_⟩
    rw [loadSpan_eq (by unfold sizeofToken sizeofHmac; omega), ok_bind, outOfBounds_bind,
      outOfBounds_storeSpan, Vector.length_toList]
    exact Or.inl ⟨by decide, by unfold sizeofToken sizeofHmac; omega⟩

/-- A set that is full of fingers with the same id. -/
def fullSet (id : Id256) : FingerprintSet :=
  (FingerprintSet.zeroed 0x2000).withSlots (Vector.replicate fpcDbFingerprintsInSet
    (Fingerprint.enrolledWith id 0 (Template.ofList 0x10000 0 [])))

/-- A state in which a finger with the id of the match result is enrolled. -/
def enrolledTa : Ta :=
  { bio :=
      { userDb := some
          { addr := 0x1000, databaseId := 0, pFingerprintSet := some (fullSet (Id256.filled 0)) },
        activeSetKey := 0, identData := IdentifyData.zeroed, enrollData := EnrollData.zeroed,
        list := Vector.replicate fpcDbFingerprintsInSet { tpl := none, size := 0 }, sizeList := 0,
        matchResult := fpcMatchResultReset },
    hwAuth := fpcTaHwAuthInit, transfer := Transfer.closed,
    pnSecurity := { outgoingChallenge := 0, challengeTimestamp := 0, incomingToken := .zeroed },
    imageTimestamp := 0 }

/-- The handler stays inside a message, in every state and whatever it gets from outside, exactly
when the payload holds the token that its command moves. -/
theorem fpcTaHwAuthHandler_inside_iff :
    (∀ env ta, ¬ (fpcTaHwAuthHandler P env ta msg).OutOfBounds) ↔ HwAuthInside msg := by
  constructor
  · intro hinside cmd hcmd hmoves
    have hlen := le_length_of_commandIn hcmd
    by_contra hout
    have hswitch (env : Env) (ta : Ta) : ¬ (hwAuthSwitch P env ta msg cmd).OutOfBounds := by
      intro h
      exact hinside env ta ((outOfBounds_handleCommand (by decide)).mpr ⟨cmd, hcmd, h⟩)
    cases cmd with
    | authorizeEnrol =>
      exact hswitch .willing enrolledTa ((outOfBounds_authorizeEnrol hlen).mpr hout)
    | getAuthResult =>
      apply hswitch .willing enrolledTa
      rw [not_or] at hout
      unfold sizeofHwAuthCommand at hlen
      rw [hwAuthSwitch, load32_eq (by unfold offSize; omega), ok_bind, outOfBounds_bind]
      exact Or.inl (outOfBounds_getAuthResult (Nat.le_of_not_lt hout.1) hout.2
        (by decide : fpcDbGetIndexOfId32 enrolledTa.bio.userDb
          enrolledTa.bio.matchResult.templateId = .ok 0) rfl)
    | setAuthChallenge => cases hmoves
    | getEnrolChallenge => cases hmoves
    | setSharedKey => cases hmoves
  · intro hinside env ta hout
    obtain ⟨cmd, hcmd, hout⟩ := (outOfBounds_handleCommand (by decide)).mp hout
    have hlen := le_length_of_commandIn hcmd
    cases cmd with
    | setAuthChallenge =>
      rw [hwAuthSwitch_setAuthChallenge hlen] at hout
      exact hout
    | getEnrolChallenge =>
      rw [hwAuthSwitch_getEnrolChallenge hlen] at hout
      exact hout
    | authorizeEnrol =>
      exact (outOfBounds_authorizeEnrol hlen).mp hout (hinside _ hcmd rfl)
    | getAuthResult =>
      unfold sizeofHwAuthCommand at hlen
      rw [hwAuthSwitch, load32_eq (by unfold offSize; omega), ok_bind] at hout
      cases getAuthResult_inside P env ta (hinside _ hcmd rfl) with
      | inl hnull =>
        unfold payloadSize at hnull
        rw [hnull] at hout
        exact hout
      | inr hok =>
        obtain ⟨response, msg', hok, hlen'⟩ := hok
        unfold payloadSize at hok
        rw [hok, ok_bind] at hout
        exact not_outOfBounds_answer (by rw [hlen']; unfold offResponse; omega) hout
    | setSharedKey =>
      rw [hwAuthSwitch_setSharedKey hlen] at hout
      exact hout

/-! ## Pixel noise -/

theorem fpcTaPnGetSize_ok (h : P.sensorPnGetSize ≠ 0) (encrypted : Bool) :
    (fpcTaPnGetSize P encrypted).1 = fpcResultOk := by
  unfold fpcTaPnGetSize
  rw [if_neg h]
  cases encrypted with
  | true => rfl
  | false => rfl

theorem sensorPnGetSize_ne_zero {encrypted : Bool}
    (h : (fpcTaPnGetSize P encrypted).1 = fpcResultOk) : P.sensorPnGetSize ≠ 0 := by
  intro hzero
  unfold fpcTaPnGetSize at h
  rw [if_pos hzero] at h
  exact absurd h (by decide)

theorem outOfBounds_wrapIntoMessage {image : List UInt8} {encryptedSize : UInt32} :
    (wrapIntoMessage env msg image encryptedSize).OutOfBounds ↔
      ((env.wrapCrypto image).bytes.take encryptedSize.toNat).length ≠ 0 ∧
        ¬ PayloadHolds msg ((env.wrapCrypto image).bytes.take encryptedSize.toNat).length := by
  rw [wrapIntoMessage, outOfBounds_storeSpan, PayloadHolds, Nat.not_le]

theorem not_outOfBounds_wrapIntoMessage {image : List UInt8} {encryptedSize : UInt32}
    (h : PayloadHolds msg encryptedSize.toNat) :
    ¬ (wrapIntoMessage env msg image encryptedSize).OutOfBounds := by
  rw [outOfBounds_wrapIntoMessage]
  rintro ⟨_, hout⟩
  apply hout
  unfold PayloadHolds at h ⊢
  rw [List.length_take]
  omega

theorem fpcTaPnCalibrate_inside {size : Nat}
    (h : P.sensorPnGetSize = 0 ∨ size < (fpcTaPnGetSize P true).2.toNat ∨
      PayloadHolds msg (fpcTaPnGetSize P true).2.toNat) :
    ¬ (fpcTaPnCalibrate P env msg size).OutOfBounds := by
  unfold fpcTaPnCalibrate
  dsimp only
  split
  · exact not_outOfBounds_ok _
  · next hret =>
    have hsize := sensorPnGetSize_ne_zero (not_not.mp hret)
    split
    · exact not_outOfBounds_ok _
    · next hfits =>
      have hholds := (h.resolve_left hsize).resolve_left hfits
      split
      · exact not_outOfBounds_ok _
      · split
        · exact not_outOfBounds_ok _
        · split
          · rw [outOfBounds_bind]
            rintro (hwrap | ⟨_, _, hok⟩)
            · exact not_outOfBounds_wrapIntoMessage hholds hwrap
            · exact hok
          · split
            · exact not_outOfBounds_ok _
            · exact not_outOfBounds_ok _

theorem fpcTaPnCalibrateFingerEnd_inside {hwAuth : HwAuthTa} {pn : PnSecurity} {size : Nat}
    (h : P.sensorPnGetSize = 0 ∨ size < (fpcTaPnGetSize P true).2.toNat ∨
      PayloadHolds msg (fpcTaPnGetSize P true).2.toNat) :
    ¬ (fpcTaPnCalibrateFingerEnd P env hwAuth pn msg size).OutOfBounds := by
  unfold fpcTaPnCalibrateFingerEnd
  split
  · exact not_outOfBounds_ok _
  · split
    · exact not_outOfBounds_ok _
    · split
      · exact not_outOfBounds_ok _
      · dsimp only
        split
        · exact not_outOfBounds_ok _
        · next hret =>
          have hsize := sensorPnGetSize_ne_zero (not_not.mp hret)
          split
          · exact not_outOfBounds_ok _
          · next hfits =>
            have hholds := (h.resolve_left hsize).resolve_left hfits
            split
            · exact not_outOfBounds_ok _
            · split
              · exact not_outOfBounds_ok _
              · rw [outOfBounds_bind]
                rintro (hwrap | ⟨_, _, hrest⟩)
                · exact not_outOfBounds_wrapIntoMessage hholds hwrap
                · split at hrest
                  · exact hrest
                  · exact hrest

theorem fpcTaPnGetUnencryptedImage_inside {size : Nat}
    (h : P.sensorPnGetSize = 0 ∨ size < P.sensorPnGetSize.toNat ∨ PayloadHolds msg size) :
    ¬ (fpcTaPnGetUnencryptedImage P env msg size).OutOfBounds := by
  unfold fpcTaPnGetUnencryptedImage
  dsimp only
  split
  · exact not_outOfBounds_ok _
  · next hret =>
    have hsize := sensorPnGetSize_ne_zero (not_not.mp hret)
    have hsame : (fpcTaPnGetSize P false).2 = P.sensorPnGetSize := by
      rw [fpcTaPnGetSize, if_neg hsize]
      rfl
    rw [hsame]
    split
    · exact not_outOfBounds_ok _
    · next hfits =>
      have hholds := (h.resolve_left hsize).resolve_left hfits
      unfold PayloadHolds at hholds
      rw [outOfBounds_bind, outOfBounds_storeSpan, List.length_take]
      rintro (⟨_, hout⟩ | ⟨_, _, hrest⟩)
      · omega
      · split at hrest
        · exact hrest
        · exact hrest

/-- The image is decrypted in place, and its magic number stands at the end of the data. -/
theorem fpcTaPnLoad_inside {size : Nat} (hlen : sizeofPnCommand ≤ msg.length)
    (h : P.sensorPnGetSize = 0 ∨ PayloadHolds msg size) :
    ¬ (fpcTaPnLoad P env msg size).OutOfBounds := by
  unfold fpcTaPnLoad
  split
  · exact not_outOfBounds_ok _
  · dsimp only
    split
    · exact not_outOfBounds_ok _
    · next hret =>
      have hholds : offArray + size ≤ msg.length :=
        h.resolve_left (sensorPnGetSize_ne_zero (not_not.mp hret))
      rw [loadSpan_eq hholds, ok_bind]
      have hslice := length_slice hholds
      obtain ⟨msg1, hstore1, hlen1⟩ := @exists_storeSpan msg
        (fpcUnwrapCrypto env (slice msg offArray size)).buffer offArray
        (by rw [length_fpcUnwrapCrypto_buffer, hslice]; exact hholds)
      rw [hstore1, ok_bind]
      split
      · exact not_outOfBounds_ok _
      · next hdata =>
        rw [not_or] at hdata
        have hinside := fpcUnwrapCrypto_inside env (slice msg offArray size)
        rw [not_not.mp hdata.2, hslice] at hinside
        unfold sizeofPnCommand at hlen
        have hmagic : fpcPnMagicLen.toNat = 4 := rfl
        rw [load32_eq (by rw [hmagic]; unfold offArray at *; omega), ok_bind]
        split
        · exact not_outOfBounds_ok _
        · split
          · exact not_outOfBounds_ok _
          · exact not_outOfBounds_ok _

/-- What a function of the payload leaves of the message has its length. -/
def KeepsLength (msg : List UInt8) (x : Outcome (Int × List UInt8)) : Prop :=
  ∀ response msg', x = .ok (response, msg') → msg'.length = msg.length

theorem keepsLength_ok {response : Int} : KeepsLength msg (.ok (response, msg)) := by
  intro response' msg' h
  cases h
  rfl

theorem keepsLength_wrapIntoMessage {image : List UInt8} {encryptedSize : UInt32}
    {k : List UInt8 → Outcome (Int × List UInt8)}
    (hk : ∀ msg', KeepsLength msg' (k msg')) :
    KeepsLength msg (wrapIntoMessage env msg image encryptedSize >>= k) := by
  intro response msg' h
  obtain ⟨msg1, hstore, h⟩ := bind_eq_ok.mp h
  rw [hk msg1 response msg' h, length_of_storeSpan hstore]

theorem keepsLength_calibrateExit {ret : Int} : KeepsLength msg (.ok (calibrateExit env ret msg)) := by
  unfold calibrateExit
  split
  · exact keepsLength_ok
  · exact keepsLength_ok

theorem fpcTaPnCalibrate_keepsLength (size : Nat) :
    KeepsLength msg (fpcTaPnCalibrate P env msg size) := by
  unfold fpcTaPnCalibrate
  dsimp only
  split
  · exact keepsLength_calibrateExit
  · split
    · exact keepsLength_ok
    · split
      · exact keepsLength_ok
      · split
        · exact keepsLength_calibrateExit
        · split
          · apply keepsLength_wrapIntoMessage
            intro msg'
            exact keepsLength_calibrateExit
          · split
            · exact keepsLength_calibrateExit
            · exact keepsLength_calibrateExit

theorem fpcTaPnCalibrateFingerEnd_keepsLength {hwAuth : HwAuthTa} {pn : PnSecurity} (size : Nat) :
    KeepsLength msg (fpcTaPnCalibrateFingerEnd P env hwAuth pn msg size) := by
  unfold fpcTaPnCalibrateFingerEnd
  split
  · exact keepsLength_ok
  · split
    · exact keepsLength_ok
    · split
      · exact keepsLength_ok
      · dsimp only
        split
        · exact keepsLength_ok
        · split
          · exact keepsLength_ok
          · split
            · exact keepsLength_ok
            · split
              · exact keepsLength_ok
              · apply keepsLength_wrapIntoMessage
                intro msg'
                split
                · exact keepsLength_ok
                · exact keepsLength_ok

theorem fpcTaPnGetUnencryptedImage_keepsLength (size : Nat) :
    KeepsLength msg (fpcTaPnGetUnencryptedImage P env msg size) := by
  unfold fpcTaPnGetUnencryptedImage
  dsimp only
  split
  · exact keepsLength_ok
  · split
    · exact keepsLength_ok
    · intro response msg' h
      obtain ⟨msg1, hstore, h⟩ := bind_eq_ok.mp h
      rw [← length_of_storeSpan hstore]
      split at h
      · cases h
        rfl
      · cases h
        rfl

theorem fpcTaPnLoad_keepsLength (size : Nat) : KeepsLength msg (fpcTaPnLoad P env msg size) := by
  unfold fpcTaPnLoad
  split
  · exact keepsLength_ok
  · dsimp only
    split
    · exact keepsLength_ok
    · intro response msg' h
      obtain ⟨encrypted, _, h⟩ := bind_eq_ok.mp h
      obtain ⟨msg1, hstore, h⟩ := bind_eq_ok.mp h
      rw [← length_of_storeSpan hstore]
      split at h
      · cases h
        rfl
      · obtain ⟨pnMagic, _, h⟩ := bind_eq_ok.mp h
        split at h
        · cases h
          rfl
        · split at h
          · cases h
            rfl
          · cases h
            rfl

/-- A case of the switch that answers from the payload goes out of bounds in the function that
works on it. -/
theorem outOfBounds_withArray {f : Nat → Outcome (Int × List UInt8)}
    (hlen : sizeofPnCommand ≤ msg.length) (hkeeps : KeepsLength msg (f (payloadSize msg))) :
    (withArray ta msg f).OutOfBounds ↔ (f (payloadSize msg)).OutOfBounds := by
  unfold sizeofPnCommand at hlen
  rw [withArray, load32_eq (by unfold offSize; omega), ok_bind, outOfBounds_bind]
  apply or_iff_left
  rintro ⟨⟨response, msg'⟩, hok, hanswer⟩
  have hlen' := hkeeps response msg' hok
  exact not_outOfBounds_answer (by rw [hlen']; unfold offResponse; omega) hanswer

theorem outOfBounds_pnAuthorize (hlen : sizeofPnCommand ≤ msg.length) :
    (pnSwitch P env ta msg .authorize).OutOfBounds ↔
      ¬ (payloadSize msg < sizeofToken ∨ PayloadHolds msg sizeofToken) := by
  unfold sizeofPnCommand at hlen
  rw [pnSwitch, load32_eq (by unfold offSize; omega), ok_bind, outOfBounds_bind]
  refine (or_iff_left ?_).trans outOfBounds_takesToken
  rintro ⟨_, _, hanswer⟩
  exact not_outOfBounds_answer (by unfold offResponse; omega) hanswer

/-- A command during which the sensor and the crypto service write images of a size. -/
def Env.writing (size : Nat) : Env :=
  { Env.willing with
    wrapCrypto := fun _ => { status := 0, bytes := List.replicate size 0, size := 0 },
    pn := { Env.willing.pn with imageToPnImage := (0, List.replicate size 0) } }

theorem outOfBounds_wrapIntoMessage_writing (image : List UInt8) {encryptedSize : UInt32}
    (hout : ¬ PayloadHolds msg encryptedSize.toNat) (hlen : sizeofPnCommand ≤ msg.length) :
    (wrapIntoMessage (.writing encryptedSize.toNat) msg image encryptedSize).OutOfBounds := by
  have htake : (((Env.writing encryptedSize.toNat).wrapCrypto image).bytes.take
      encryptedSize.toNat).length = encryptedSize.toNat := by
    simp [Env.writing]
  rw [outOfBounds_wrapIntoMessage, htake]
  refine ⟨?_, hout⟩
  intro hzero
  apply hout
  unfold PayloadHolds offArray
  unfold sizeofPnCommand at hlen
  omega

/-- Every call of such a command succeeds. -/
theorem Env.writing_succeeds (size : Nat) :
    ¬ (Env.writing size).pn.communicationStart ≠ 0 ∧
      ¬ (!(Env.writing size).pn.malloc) = true ∧
      (Env.writing size).pn.pnCalibrate.1.toInt = fpcResultOk ∧
      ¬ (Env.writing size).pn.calibrateFingerEnd.toInt ≠ fpcResultOk ∧
      ¬ (Env.writing size).pn.imageToPnImage.1.toInt ≠ fpcResultOk :=
  ⟨not_not.mpr rfl, Bool.false_ne_true, rfl, not_not.mpr rfl, not_not.mpr rfl⟩

/-- A state in which the pixel noise module holds a valid token. -/
def pnAuthorisedTa (P : Platform) : Ta :=
  let token := { Token.zeroed with challenge := 1 }
  { enrolledTa with
    hwAuth := { fpcTaHwAuthInit with hmacKeyInitialized := true },
    pnSecurity :=
      { outgoingChallenge := 1, challengeTimestamp := 1000, incomingToken :=
          { token with hmac := P.hmacSha256 token.signedBytes fpcTaHwAuthInit.hmacKey } } }

theorem pnValidateIncomingToken_authorised (P : Platform) (size : Nat) :
    pnValidateIncomingToken P (.writing size) (pnAuthorisedTa P).hwAuth
      (pnAuthorisedTa P).pnSecurity = 0 := by
  have hage : ¬ (Env.writing size).uptime - (pnAuthorisedTa P).pnSecurity.challengeTimestamp
      > hwAuthChallengeLifetime := (by decide : ¬ (1000 : UInt64) - 1000 > 1000 * 60 * 10)
  have hne : (pnAuthorisedTa P).pnSecurity.outgoingChallenge ≠ 0 :=
    (by decide : (1 : UInt64) ≠ 0)
  have hanswers : ¬ (pnAuthorisedTa P).pnSecurity.incomingToken.challenge
      ≠ (pnAuthorisedTa P).pnSecurity.outgoingChallenge := not_not.mpr rfl
  unfold pnValidateIncomingToken
  rw [if_neg hne, if_neg hanswers]
  dsimp only
  rw [if_neg hage]
  exact fpcCheckTokenIntegrity_of_hmac rfl rfl rfl rfl

/-- A command whose payload is too short goes out of bounds in some state, for some outcome of
the calls it makes. -/
theorem exists_outOfBounds_pnSwitch {cmd : PnCmd} (hlen : sizeofPnCommand ≤ msg.length)
    (hout : ¬ cmd.Inside P msg) : ∃ env ta, (pnSwitch P env ta msg cmd).OutOfBounds := by
  have hhead : 32 ≤ msg.length := hlen
  cases cmd with
  | getSize => exact absurd trivial hout
  | calibrateFinger => exact absurd trivial hout
  | getChallenge => exact absurd trivial hout
  | getUnencryptedSize => exact absurd trivial hout
  | authorize => exact ⟨.willing, enrolledTa, (outOfBounds_pnAuthorize hlen).mpr hout⟩
  | load =>
    obtain ⟨hsize, hshort⟩ := not_or.mp hout
    refine ⟨.willing, enrolledTa, ?_⟩
    rw [pnSwitch, outOfBounds_withArray hlen (fpcTaPnLoad_keepsLength _)]
    have hne : payloadSize msg ≠ 0 := by
      intro hzero
      rw [hzero] at hshort
      exact hshort (by unfold PayloadHolds offArray; omega)
    unfold fpcTaPnLoad
    rw [if_neg hne]
    dsimp only
    rw [if_neg (not_not.mpr (fpcTaPnGetSize_ok hsize false)), outOfBounds_bind,
      outOfBounds_loadSpan]
    exact Or.inl ⟨hne, Nat.lt_of_not_le hshort⟩
  | calibrate =>
    obtain ⟨hsize, hout⟩ := not_or.mp hout
    obtain ⟨hfits, hshort⟩ := not_or.mp hout
    refine ⟨.writing (fpcTaPnGetSize P true).2.toNat, enrolledTa, ?_⟩
    rw [pnSwitch, outOfBounds_withArray hlen (fpcTaPnCalibrate_keepsLength _)]
    obtain ⟨hstart, hmalloc, hcalibrate, _⟩ :=
      Env.writing_succeeds (fpcTaPnGetSize P true).2.toNat
    unfold fpcTaPnCalibrate
    dsimp only
    rw [if_neg (not_not.mpr (fpcTaPnGetSize_ok hsize true)), if_neg hfits, if_neg hstart,
      if_neg hmalloc, if_pos hcalibrate, outOfBounds_bind]
    exact Or.inl (outOfBounds_wrapIntoMessage_writing _ hshort hlen)
  | calibrateFingerEnd =>
    obtain ⟨hsize, hout⟩ := not_or.mp hout
    obtain ⟨hfits, hshort⟩ := not_or.mp hout
    refine ⟨.writing (fpcTaPnGetSize P true).2.toNat, pnAuthorisedTa P, ?_⟩
    rw [pnSwitch, outOfBounds_withArray hlen (fpcTaPnCalibrateFingerEnd_keepsLength _)]
    have hne : payloadSize msg ≠ 0 := by
      intro hzero
      rw [hzero] at hfits
      -- an image of no bytes is inside
      have hempty : (fpcTaPnGetSize P true).2.toNat = 0 := by omega
      rw [hempty] at hshort
      exact hshort (by unfold PayloadHolds offArray; omega)
    have hsucceeds := Env.writing_succeeds (fpcTaPnGetSize P true).2.toNat
    have hmalloc := hsucceeds.2.1
    have hend := hsucceeds.2.2.2.1
    have himage := hsucceeds.2.2.2.2
    unfold fpcTaPnCalibrateFingerEnd
    rw [pnValidateIncomingToken_authorised, if_neg (not_not.mpr (rfl : (0 : Int) = 0)), if_neg hend,
      if_neg hne]
    dsimp only
    rw [if_neg (not_not.mpr (fpcTaPnGetSize_ok hsize true)), if_neg hfits, if_neg hmalloc,
      if_neg himage, outOfBounds_bind]
    exact Or.inl (outOfBounds_wrapIntoMessage_writing _ hshort hlen)
  | getUnencryptedImage =>
    obtain ⟨hsize, hout⟩ := not_or.mp hout
    obtain ⟨hfits, hshort⟩ := not_or.mp hout
    refine ⟨.writing (payloadSize msg), enrolledTa, ?_⟩
    rw [pnSwitch, outOfBounds_withArray hlen (fpcTaPnGetUnencryptedImage_keepsLength _)]
    have hsame : (fpcTaPnGetSize P false).2 = P.sensorPnGetSize := by
      rw [fpcTaPnGetSize, if_neg hsize]
      rfl
    have htake : ((Env.writing (payloadSize msg)).pn.imageToPnImage.2.take
        (payloadSize msg)).length = payloadSize msg := by
      simp [Env.writing]
    unfold fpcTaPnGetUnencryptedImage
    dsimp only
    rw [if_neg (not_not.mpr (fpcTaPnGetSize_ok hsize false)), hsame, if_neg hfits,
      outOfBounds_bind, outOfBounds_storeSpan, htake]
    refine Or.inl ⟨?_, Nat.lt_of_not_le hshort⟩
    intro hzero
    rw [hzero] at hshort
    exact hshort (by unfold PayloadHolds offArray; omega)

theorem not_outOfBounds_withSize {encrypted : Bool} (hlen : sizeofPnCommand ≤ msg.length) :
    ¬ (withSize P ta msg encrypted).OutOfBounds := by
  unfold sizeofPnCommand at hlen
  unfold withSize
  dsimp only
  rw [store32_eq (by unfold offSize; omega), ok_bind]
  apply not_outOfBounds_answer
  rw [length_put32 (by unfold offSize; omega)]
  unfold offResponse
  omega

/-- The fields of a calibration that came to its end are inside, and keep the length. -/
theorem exists_storeProgress (hlen : sizeofPnCommand ≤ msg.length)
    (rest : Option (UInt32 × UInt32)) :
    ∃ msg', storeProgress msg rest = .ok msg' ∧ msg'.length = msg.length := by
  unfold sizeofPnCommand at hlen
  cases rest with
  | none => exact ⟨msg, rfl, rfl⟩
  | some pair =>
    obtain ⟨pnQuality, progress⟩ := pair
    have hput := @length_put32 msg offPnQuality (by unfold offPnQuality; omega) pnQuality
    refine ⟨put32 (put32 msg offPnQuality pnQuality) offProgress progress, ?_, ?_⟩
    · unfold storeProgress
      dsimp only
      rw [store32_eq (by unfold offPnQuality; omega), ok_bind,
        store32_eq (by rw [hput]; unfold offProgress; omega)]
    · rw [length_put32 (by rw [hput]; unfold offProgress; omega), hput]

/-- A command whose payload holds what it moves stays inside. -/
theorem pnSwitch_inside {cmd : PnCmd} (hlen : sizeofPnCommand ≤ msg.length)
    (hinside : cmd.Inside P msg) : ¬ (pnSwitch P env ta msg cmd).OutOfBounds := by
  have hhead : 32 ≤ msg.length := hlen
  cases cmd with
  | getSize => exact not_outOfBounds_withSize hlen
  | getUnencryptedSize => exact not_outOfBounds_withSize hlen
  | calibrateFinger =>
    rw [pnSwitch]
    have hput1 := @length_put32 msg offImageDecision (by unfold offImageDecision; omega)
      (fpcTaPnCalibrateFinger env).imageDecision
    rw [store32_eq (by unfold offImageDecision; omega), ok_bind,
      store32_eq (by rw [hput1]; unfold offImageQuality; omega), ok_bind]
    have hput2 := @length_put32 (put32 msg offImageDecision
      (fpcTaPnCalibrateFinger env).imageDecision) offImageQuality
      (by rw [hput1]; unfold offImageQuality; omega) (fpcTaPnCalibrateFinger env).imageQuality
    obtain ⟨msg', hprogress, hlen'⟩ := @exists_storeProgress _
      (by rw [hput2, hput1]; exact hlen) (fpcTaPnCalibrateFinger env).rest
    rw [hprogress, ok_bind]
    apply not_outOfBounds_answer
    rw [hlen', hput2, hput1]
    unfold offResponse
    omega
  | getChallenge =>
    rw [pnSwitch]
    dsimp only
    have hput := @length_put32 msg offChallengeResponse (by unfold offChallengeResponse; omega)
      (ofInt32 (pnGetChallenge env ta.pnSecurity).1)
    rw [store32_eq (by unfold offChallengeResponse; omega), ok_bind,
      store64_eq (by rw [hput]; unfold offChallenge; omega), ok_bind]
    exact not_outOfBounds_ok _
  | authorize =>
    intro hout
    exact (outOfBounds_pnAuthorize hlen).mp hout hinside
  | load =>
    rw [pnSwitch, outOfBounds_withArray hlen (fpcTaPnLoad_keepsLength _)]
    exact fpcTaPnLoad_inside hlen hinside
  | calibrate =>
    rw [pnSwitch, outOfBounds_withArray hlen (fpcTaPnCalibrate_keepsLength _)]
    exact fpcTaPnCalibrate_inside hinside
  | calibrateFingerEnd =>
    rw [pnSwitch, outOfBounds_withArray hlen (fpcTaPnCalibrateFingerEnd_keepsLength _)]
    exact fpcTaPnCalibrateFingerEnd_inside hinside
  | getUnencryptedImage =>
    rw [pnSwitch, outOfBounds_withArray hlen (fpcTaPnGetUnencryptedImage_keepsLength _)]
    exact fpcTaPnGetUnencryptedImage_inside hinside

theorem fpcTaPnCommandHandler_inside_iff :
    (∀ env ta, ¬ (fpcTaPnCommandHandler P env ta msg).OutOfBounds) ↔ PnInside P msg := by
  constructor
  · intro hinside cmd hcmd
    by_contra hout
    obtain ⟨env, ta, hswitch⟩ := exists_outOfBounds_pnSwitch (le_length_of_commandIn hcmd) hout
    exact hinside env ta ((outOfBounds_handleCommand (by decide)).mpr ⟨cmd, hcmd, hswitch⟩)
  · intro hinside env ta hout
    obtain ⟨cmd, hcmd, hswitch⟩ := (outOfBounds_handleCommand (by decide)).mp hout
    exact pnSwitch_inside (le_length_of_commandIn hcmd) (hinside cmd hcmd) hswitch

/-- **The handlers trust the embedded size.** For every message, the handler of each module stays
inside it, in every state and whatever the calls it makes do, if and only if the payload of the
message holds what its command moves. -/
theorem handlers_inside_iff (P : Platform) (msg : List UInt8) :
    ((∀ env ta, ¬ (fpcTaHwAuthHandler P env ta msg).OutOfBounds) ↔ HwAuthInside msg) ∧
      ((∀ env ta, ¬ (fpcTaPnCommandHandler P env ta msg).OutOfBounds) ↔ PnInside P msg) :=
  ⟨fpcTaHwAuthHandler_inside_iff, fpcTaPnCommandHandler_inside_iff⟩

end

/-- The fixed part of an `AUTHORIZE_ENROL` whose size field announces a token. -/
def shortAuthorizeEnrol : List UInt8 :=
  le32 3 ++ (le32 3 ++ (le32 0 ++ (le32 69 ++ List.replicate 8 0)))

/-- In the state after `init` the handler reads a token of 69 bytes from a payload of 8. -/
theorem shortAuthorizeEnrol_outOfBounds :
    ∃ ta, fpcTaRouterInit .willing = .ok ta ∧
      (fpcTaHwAuthHandler (.signing []) .willing ta shortAuthorizeEnrol).OutOfBounds := by
  refine ⟨_, rfl, (outOfBounds_handleCommand (by decide)).mpr ?_⟩
  exact ⟨.authorizeEnrol, by decide, (outOfBounds_authorizeEnrol (by decide)).mpr (by decide)⟩

end Fpc
