import Fingerprints.Db.Ops
import Fingerprints.Wire.Message

/-!
# The state of the trusted application

The static data of the modules: the bio module's instance, the hardware authentication module
with its challenges and its key, the open blob transfer, the challenge of the pixel noise module
and the time of the last captured image. Then the authentication token with its packed layout,
and the shared message with its header.
-/

namespace Fpc

open Wire Wire.Outcome

/-! ## The bio module -/

/-- `fpc_ta_match_result_t` -/
structure MatchResult where
  timestamp : UInt64
  templateId : UInt32
  templateId256 : Id256
  deriving DecidableEq, Repr

/-- `fpc_match_result_reset` -/
def fpcMatchResultReset : MatchResult :=
  { timestamp := 0xFFFFFFFFFFFFFFFF, templateId := 0, templateId256 := Id256.filled 0 }

abbrev fpcAlgoMaxTemplateHandles : Nat := 5

def fpcAlgoIdentifyMatch : UInt32 := 1
def fpcAlgoUpdatedTemplate : UInt32 := 1

/-- `fpc_algo_identify_data_t` -/
structure IdentifyData where
  result : UInt32
  score : UInt32
  index : UInt32
  quality : UInt32
  coverage : UInt32
  coveredZones : UInt32
  updatedTemplateIndices : Vector UInt32 fpcAlgoMaxTemplateHandles
  updatedTemplateSizes : Vector UInt32 fpcAlgoMaxTemplateHandles
  numUpdatedTemplates : UInt32
  updateResult : UInt32
  deriving DecidableEq, Repr

def IdentifyData.zeroed : IdentifyData :=
  { result := 0, score := 0, index := 0, quality := 0, coverage := 0, coveredZones := 0,
    updatedTemplateIndices := Vector.replicate fpcAlgoMaxTemplateHandles 0,
    updatedTemplateSizes := Vector.replicate fpcAlgoMaxTemplateHandles 0,
    numUpdatedTemplates := 0, updateResult := 0 }

/-- `fpc_algo_enroll_data_t` -/
structure EnrollData where
  result : UInt32
  enrolledTemplateSize : UInt32
  remainingTouches : UInt32
  deriving DecidableEq, Repr

def EnrollData.zeroed : EnrollData :=
  { result := 0, enrolledTemplateSize := 0, remainingTouches := 0 }

def invalidFingerprintSetKey : UInt32 := 0xFFFFFFFF

/-- `struct fpc_bio` -/
structure Bio where
  userDb : Option FingerprintDatabase
  activeSetKey : UInt32
  identData : IdentifyData
  enrollData : EnrollData
  list : Vector TplRef fpcDbFingerprintsInSet
  sizeList : Nat
  matchResult : MatchResult
  deriving DecidableEq, Repr

/-! ## The token -/

/-- `fpc_hw_auth_token_t` -/
structure Token where
  version : UInt8
  challenge : UInt64
  userId : UInt64
  authenticatorId : UInt64
  authenticatorType : UInt32
  timestamp : UInt64
  hmac : Vector UInt8 32
  deriving DecidableEq, Repr

def sizeofToken : Nat := 69
def sizeofHmac : Nat := 32

/-- The bytes in front of the HMAC, which are the bytes it is computed over. -/
def Token.signedBytes (t : Token) : List UInt8 :=
  t.version :: (le64 t.challenge ++ (le64 t.userId ++ (le64 t.authenticatorId ++
    (le32 t.authenticatorType ++ le64 t.timestamp))))

/-- The packed token. -/
def Token.bytes (t : Token) : List UInt8 := t.signedBytes ++ t.hmac.toList

/-- The token that 69 bytes spell. -/
def Token.ofBytes (bytes : List UInt8) : Token :=
  { version := bytes.getD 0 0, challenge := field64 bytes 1, userId := field64 bytes 9,
    authenticatorId := field64 bytes 17, authenticatorType := field32 bytes 25,
    timestamp := field64 bytes 29, hmac := ofList 32 0 (slice bytes 37 32) }

/-- A token in memory that was set to zero. -/
def Token.zeroed : Token :=
  { version := 0, challenge := 0, userId := 0, authenticatorId := 0, authenticatorType := 0,
    timestamp := 0, hmac := Vector.replicate 32 0 }

@[simp] theorem Token.length_signedBytes (t : Token) : t.signedBytes.length = 37 := rfl

@[simp] theorem Token.length_bytes (t : Token) : t.bytes.length = 69 := by
  simp [Token.bytes]

/-- A token is read back from its packed bytes. -/
theorem Token.ofBytes_bytes (t : Token) : Token.ofBytes t.bytes = t := by
  have hhmac : slice t.bytes 37 32 = t.hmac.toList := by
    rw [slice, Token.bytes, List.drop_left' (Token.length_signedBytes t)]
    exact List.take_of_length_le (by simp)
  have hfields (bytes : List UInt8) :
      field64 (t.signedBytes ++ bytes) 1 = t.challenge ∧
        field64 (t.signedBytes ++ bytes) 9 = t.userId ∧
        field64 (t.signedBytes ++ bytes) 17 = t.authenticatorId ∧
        field32 (t.signedBytes ++ bytes) 25 = t.authenticatorType ∧
        field64 (t.signedBytes ++ bytes) 29 = t.timestamp :=
    ⟨ofLe64_le64 _, ofLe64_le64 _, ofLe64_le64 _, ofLe32_le32 _, ofLe64_le64 _⟩
  obtain ⟨hchallenge, huser, hdb, htype, htime⟩ := hfields t.hmac.toList
  unfold Token.ofBytes
  rw [hhmac, ofList_toList]
  unfold Token.bytes
  rw [hchallenge, huser, hdb, htype, htime]
  rfl

/-- The swapped bytes of a word, by `swap_bytes`. -/
def swapBytes32 (x : UInt32) : UInt32 := ofLe32 (le32 x).reverse

def swapBytes64 (x : UInt64) : UInt64 := ofLe64 (le64 x).reverse

/-! ## The other modules -/

/-- `struct fpc_hw_auth_ta` -/
structure HwAuthTa where
  incomingChallenge : UInt64
  outgoingChallenge : UInt64
  outgoingTimestamp : UInt64
  incomingToken : Token
  hmacKey : Vector UInt8 32
  hmacKeyInitialized : Bool
  deriving DecidableEq, Repr

def fpcTaBioDbRdonly : Nat := 0
def fpcTaBioDbWronly : Nat := 1

/-- `transfer` of the blob module. -/
structure Transfer where
  mode : Int
  size : Nat
  remaining : Nat
  dataOffset : Nat
  data : Option (List UInt8)
  deriving DecidableEq, Repr

/-- No transfer is open. -/
def Transfer.closed : Transfer :=
  { mode := -1, size := 0, remaining := 0, dataOffset := 0, data := none }

/-- `pn_security_t` -/
structure PnSecurity where
  outgoingChallenge : UInt64
  challengeTimestamp : UInt64
  incomingToken : Token
  deriving DecidableEq, Repr

/-- What the modules keep between commands. Of the common module it is the time of the last
captured image. -/
structure Ta where
  bio : Bio
  hwAuth : HwAuthTa
  transfer : Transfer
  pnSecurity : PnSecurity
  imageTimestamp : UInt64
  deriving DecidableEq, Repr

/-! ## Messages -/

/-- Where the fields of the header and of the common replies stand. -/
def offTarget : Nat := 0
def offCommand : Nat := 4
def offResponse : Nat := 8
def offAnswer : Nat := 12
def offSize : Nat := 12
def offArray : Nat := 16
def offChallenge : Nat := 8
def offChallengeResponse : Nat := 16

def sizeofHeader : Nat := 8
def sizeofByteArrayMsg : Nat := 16

/-- `sizeof(fpc_ta_bio_command_t)`, which the bio and the blob module share. -/
def sizeofBioCommand : Nat := 40

/-- What a handler leaves: the state, the shared message and the status it returns. -/
structure Handled where
  ta : Ta
  msg : List UInt8
  status : Int
  deriving DecidableEq, Repr

/-- A handler that returns an error and touches nothing. -/
def Handled.rejected (ta : Ta) (msg : List UInt8) (code : Int) : Handled :=
  { ta := ta, msg := msg, status := code }

/-- The shape of the handlers that cast the buffer to a command type: a buffer shorter than the
type, or a command the switch has no case for, is rejected. -/
def handleCommand {C : Type} (size : Nat) (ofWord : UInt32 → Option C)
    (handle : C → Outcome Handled) (ta : Ta) (msg : List UInt8) : Outcome Handled :=
  if msg.length < size then .ok (.rejected ta msg (-fpcErrorInput))
  else do
    let command ← load32 msg offCommand
    match ofWord command with
    | some cmd => handle cmd
    | none => .ok (.rejected ta msg (-fpcErrorInput))

/-- The command such a handler takes up. -/
def commandIn {C : Type} (size : Nat) (ofWord : UInt32 → Option C) (msg : List UInt8) :
    Option C :=
  if msg.length < size then none else ofWord (field32 msg offCommand)

section

variable {C : Type} {size : Nat} {ofWord : UInt32 → Option C} {msg : List UInt8}

theorem le_length_of_commandIn {cmd : C} (h : commandIn size ofWord msg = some cmd) :
    size ≤ msg.length := by
  unfold commandIn at h
  split at h
  · cases h
  · omega

theorem handleCommand_of_none {handle : C → Outcome Handled} (ta : Ta)
    (hsize : sizeofHeader ≤ size) (h : commandIn size ofWord msg = none) :
    handleCommand size ofWord handle ta msg = .ok (.rejected ta msg (-fpcErrorInput)) := by
  unfold handleCommand
  unfold commandIn at h
  split
  · rfl
  · next hlen =>
    rw [if_neg hlen] at h
    unfold sizeofHeader at hsize
    rw [load32_eq (by unfold offCommand; omega), ok_bind, h]

theorem handleCommand_of_some {handle : C → Outcome Handled} (ta : Ta) {cmd : C}
    (hsize : sizeofHeader ≤ size) (h : commandIn size ofWord msg = some cmd) :
    handleCommand size ofWord handle ta msg = handle cmd := by
  have hlen := le_length_of_commandIn h
  unfold commandIn at h
  rw [if_neg (by omega)] at h
  unfold sizeofHeader at hsize
  unfold handleCommand
  rw [if_neg (by omega), load32_eq (by unfold offCommand; omega), ok_bind, h]

end

/-- `byte_array_valid`: the payload lies inside the buffer, by sums of `uint32_t`. The size field
is read before the buffer is known to hold it. -/
def byteArrayValid (msg : List UInt8) : Outcome Bool := do
  let payloadSize ← load32 msg offSize
  let totalSize := wrap32 (sizeofByteArrayMsg + payloadSize.toNat)
  if sizeofByteArrayMsg > msg.length then .ok false
  else if sizeofByteArrayMsg > totalSize then .ok false
  else if totalSize > msg.length then .ok false
  else .ok true

/-- `byte_array_string_valid`: a byte of the payload ends the string. -/
def byteArrayStringValid (msg : List UInt8) : Outcome Bool := do
  let valid ← byteArrayValid msg
  if !valid then .ok false
  else
    let size ← load32 msg offSize
    let string ← loadSpan msg offArray size.toNat
    .ok (string.contains 0)

/-- A payload that was found valid lies inside the message, whatever the sum does. -/
theorem byteArrayValid_true {msg : List UInt8} (h : byteArrayValid msg = .ok true) :
    sizeofByteArrayMsg + (field32 msg offSize).toNat ≤ msg.length := by
  obtain ⟨size, hload, h⟩ := bind_eq_ok.mp h
  have hlt := size.toNat_lt
  rw [← load32_ok hload]
  dsimp only at h
  split at h
  · cases h
  · split at h
    · cases h
    · split at h
      · cases h
      · next hmsg hover htotal =>
        unfold wrap32 sizeofByteArrayMsg at hover htotal
        unfold sizeofByteArrayMsg
        omega

/-- The sum of its sizes did not wrap. -/
theorem byteArrayValid_noWrap {msg : List UInt8} (h : byteArrayValid msg = .ok true) :
    sizeofByteArrayMsg + (field32 msg offSize).toNat < 2 ^ 32 := by
  obtain ⟨size, hload, h⟩ := bind_eq_ok.mp h
  have hlt := size.toNat_lt
  rw [← load32_ok hload]
  by_contra hwraps
  have htotal : wrap32 (sizeofByteArrayMsg + size.toNat) < sizeofByteArrayMsg := by
    unfold wrap32 sizeofByteArrayMsg at *
    omega
  dsimp only at h
  rw [if_pos htotal] at h
  split at h
  · cases h
  · cases h

/-- A payload that lies inside a message is found valid. -/
theorem byteArrayValid_of_le {msg : List UInt8}
    (h : sizeofByteArrayMsg + (field32 msg offSize).toNat ≤ msg.length)
    (hlt : sizeofByteArrayMsg + (field32 msg offSize).toNat < 2 ^ 32) :
    byteArrayValid msg = .ok true := by
  have hwrap := wrap32_of_lt hlt
  unfold sizeofByteArrayMsg at h
  unfold byteArrayValid
  rw [load32_eq (by unfold offSize; omega), ok_bind, hwrap]
  unfold sizeofByteArrayMsg
  rw [if_neg (by omega), if_neg (by omega), if_neg (by omega)]

end Fpc
