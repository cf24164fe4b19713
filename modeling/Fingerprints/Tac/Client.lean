import Fingerprints.Ta.Enrolment

/-!
# The client of the trusted application

`fpc_ut_tac.c`. A message lies in a shared buffer with four more bytes behind it, in which the
trusted side leaves the result of the command. `fpc_tac_transfer` reads these as signed bytes and
adds them up, so that every byte but the last with its top bit set takes one away from the byte
above it: `fpcTacTransfer_iff`.
-/

namespace Fpc

open Wire Wire.Outcome

/-! ## Shared buffers -/

/-- `TK_MEMORY_ALLOCATE_LIMIT_BYTES` -/
def tkMemoryAllocateLimitBytes : Nat := 512 * 1024

/-- The bytes of the response, behind the message. -/
def sizeofResponse : Nat := 4

/-- `malloc` of some bytes, by what the memory holds where there is some. -/
def malloc (memory : Option (List UInt8)) (size : Nat) : Option (List UInt8) :=
  memory.map fun bytes => (ofList size 0 bytes).toList

/-- What the two allocations for a shared buffer give. -/
structure SharedAlloc where
  mapped : Bool
  addr : Option (List UInt8)

/-- `fpc_tac_alloc_shared`: the buffer, with the bytes of the response. -/
def fpcTacAllocShared (alloc : SharedAlloc) (size : Nat) : Option (List UInt8) :=
  let len := wrap32 (size + sizeofResponse)
  if tkMemoryAllocateLimitBytes < len then none
  else if !alloc.mapped then none
  else malloc alloc.addr len

/-! ## The result of a command -/

/-- The value of an `int8_t`. -/
def signedByte (b : UInt8) : Int := if b.toNat < 128 then b.toNat else b.toNat - 256

/-- The `int` that a sum comes out as. -/
def wrapInt (x : Int) : Int := if x % 2 ^ 32 < 2 ^ 31 then x % 2 ^ 32 else x % 2 ^ 32 - 2 ^ 32

/-- The response of `fpc_tac_transfer`: four signed bytes, shifted and added. -/
def tacResponse : List UInt8 → Int
  | [b0, b1, b2, b3] =>
      wrapInt (signedByte b0 + signedByte b1 * 2 ^ 8 + signedByte b2 * 2 ^ 16
        + signedByte b3 * 2 ^ 24)
  | _ => 0

/-- `fpc_tac_transfer`, by what an invocation of the trusted application left in the shared
buffer, or that it failed. -/
def fpcTacTransfer : Option (List UInt8) → Int
  | none => -fpcErrorComm
  | some shared =>
      let response := tacResponse (shared.drop (shared.length - sizeofResponse))
      if response < 0 then response else 0

/-- What the signed bytes of a code take away from it. -/
def borrow (c : Int32) : Nat :=
  let x := c.toUInt32.toNat
  x / 2 ^ 7 % 2 * 2 ^ 8 + x / 2 ^ 15 % 2 * 2 ^ 16 + x / 2 ^ 23 % 2 * 2 ^ 24

/-- A code that survives: of a negative one no byte but the last has its top bit set, and from
another one no more is taken away than it has. -/
def ReadsPlain (c : Int32) : Prop :=
  (c.toInt < 0 → borrow c = 0) ∧ (0 ≤ c.toInt → borrow c ≤ c.toInt)

instance (c : Int32) : Decidable (ReadsPlain c) := inferInstanceAs (Decidable (_ ∧ _))

theorem toInt_of_toUInt32 (c : Int32) :
    c.toInt = if c.toUInt32.toNat < 2 ^ 31 then (c.toUInt32.toNat : Int)
      else (c.toUInt32.toNat : Int) - 2 ^ 32 := by
  have hcond := BitVec.toInt_eq_toNat_cond c.toBitVec
  have hnat : c.toBitVec.toNat = c.toUInt32.toNat := rfl
  rw [hnat] at hcond
  rw [show c.toInt = c.toBitVec.toInt from rfl, hcond]
  split <;> split <;> omega

/-- The bytes of a word, by its value. -/
theorem le32_eq (x : UInt32) :
    ∃ b0 b1 b2 b3 : UInt8, le32 x = [b0, b1, b2, b3] ∧ b0.toNat = x.toNat % 256 ∧
      b1.toNat = x.toNat / 2 ^ 8 % 256 ∧ b2.toNat = x.toNat / 2 ^ 16 % 256 ∧
      b3.toNat = x.toNat / 2 ^ 24 := by
  have hlt := x.toNat_lt
  refine ⟨x.toUInt8, (x >>> 8).toUInt8, (x >>> 16).toUInt8, (x >>> 24).toUInt8, rfl, ?_, ?_, ?_, ?_⟩
  all_goals
    simp [UInt32.toNat_shiftRight, Nat.shiftRight_eq_div_pow]
  omega

theorem signedByte_eq (b : UInt8) :
    signedByte b = (b.toNat : Int) - (b.toNat / 128 : Nat) * 2 ^ 8 := by
  have hlt := b.toNat_lt
  unfold signedByte
  split <;> omega

/-- The signed bytes of a code add up to the code less what they take away. -/
theorem tacResponse_le32 (c : Int32) :
    tacResponse (le32 c.toUInt32) = wrapInt (c.toInt - borrow c) := by
  obtain ⟨b0, b1, b2, b3, hbytes, h0, h1, h2, h3⟩ := le32_eq c.toUInt32
  have hlt := c.toUInt32.toNat_lt
  have hvalue : c.toInt = (c.toUInt32.toNat : Int) - (b3.toNat / 128 : Nat) * 2 ^ 32 := by
    rw [toInt_of_toUInt32, h3]
    split <;> omega
  have hdigits : c.toUInt32.toNat
      = b0.toNat + b1.toNat * 2 ^ 8 + b2.toNat * 2 ^ 16 + b3.toNat * 2 ^ 24 := by
    omega
  have hborrow : borrow c
      = b0.toNat / 128 * 2 ^ 8 + b1.toNat / 128 * 2 ^ 16 + b2.toNat / 128 * 2 ^ 24 := by
    unfold borrow
    dsimp only
    rw [show c.toUInt32.toNat / 2 ^ 7 % 2 = b0.toNat / 128 by omega,
      show c.toUInt32.toNat / 2 ^ 15 % 2 = b1.toNat / 128 by omega,
      show c.toUInt32.toNat / 2 ^ 23 % 2 = b2.toNat / 128 by omega]
  have hsum : signedByte b0 + signedByte b1 * 2 ^ 8 + signedByte b2 * 2 ^ 16
      + signedByte b3 * 2 ^ 24 = c.toInt - borrow c := by
    rw [signedByte_eq, signedByte_eq, signedByte_eq, signedByte_eq, hvalue, hdigits, hborrow]
    push_cast
    ring
  rw [hbytes, tacResponse, hsum]

/-- The result depends on the last four bytes alone. -/
theorem fpcTacTransfer_append (msg : List UInt8) (x : UInt32) :
    fpcTacTransfer (some (msg ++ le32 x)) = fpcTacTransfer (some (le32 x)) := by
  have htail : (msg ++ le32 x).drop ((msg ++ le32 x).length - sizeofResponse) = le32 x := by
    apply List.drop_left'
    rw [List.length_append, length_le32, sizeofResponse, Nat.add_sub_cancel]
  unfold fpcTacTransfer
  dsimp only
  rw [htail]
  rfl

/-- **When the client sees the result of the application.** A code in the last four bytes comes
back as itself, or as 0 where it is not negative, exactly if its signed bytes take nothing away
from a negative code, and no more than it has from another. -/
theorem fpcTacTransfer_iff (msg : List UInt8) (c : Int32) :
    fpcTacTransfer (some (msg ++ le32 c.toUInt32)) = (if c.toInt < 0 then c.toInt else 0)
      ↔ ReadsPlain c := by
  have hle := c.le_toInt
  have hlt := c.toInt_lt
  have hborrow : borrow c ≤ 2 ^ 24 + 2 ^ 16 + 2 ^ 8 := by
    unfold borrow
    dsimp only
    omega
  rw [fpcTacTransfer_append]
  unfold fpcTacTransfer ReadsPlain
  dsimp only
  rw [length_le32, sizeofResponse, Nat.sub_self, List.drop_zero, tacResponse_le32, wrapInt]
  split <;> split <;> split <;> omega

/-- The code for a missing file comes back as another. -/
theorem fpcTacTransfer_noentity :
    fpcTacTransfer (some (le32 (ofInt32 (-fpcErrorNoentity)))) = -16843016 ∧
      fpcTacTransfer (some (le32 (ofInt32 (-fpcErrorNoentity)))) ≠ -fpcErrorNoentity := by
  decide

/-! ## Reaching the application -/

/-- The client of a platform, `fpc_tac.h`: the memory of a message, and the transfer of one, with
what it returns and the application and the message after it. -/
structure Tac where
  allocShared : Nat → Option (List UInt8)
  transfer : Env → Ta → List UInt8 → Outcome (Int × Ta × List UInt8)

/-- Messages are delivered: the router runs on them, and its result is seen as a status, success
as 0. -/
structure Tac.Delivers (P : Platform) (tac : Tac) (sees : Int → Int) : Prop where
  transfer : ∀ env ta msg, tac.transfer env ta msg = do
    let r ← fpcTaRouteCommand P env ta msg
    .ok (sees r.status, r.ta, r.msg)
  zero : sees 0 = 0

/-- The client of `fpc_ut_tac.c`, whose invocations leave the result of the router behind the
message. -/
def fpcUtTac (P : Platform) (alloc : SharedAlloc) : Tac where
  allocShared size := (fpcTacAllocShared alloc size).map (List.take size)
  transfer env ta msg := do
    let r ← fpcTaRouteCommand P env ta msg
    .ok (fpcTacTransfer (some (r.msg ++ le32 (ofInt32 r.status))), r.ta, r.msg)

theorem fpcUtTac_delivers (P : Platform) (alloc : SharedAlloc) :
    (fpcUtTac P alloc).Delivers P fun c => fpcTacTransfer (some (le32 (ofInt32 c))) := by
  constructor
  · intro env ta msg
    unfold fpcUtTac
    dsimp only
    congr 1
    funext r
    rw [fpcTacTransfer_append]
  · decide

/-- A client whose allocations succeed. -/
def sampleTac : Tac := fpcUtTac samplePlatform { mapped := true, addr := some [] }

/-- What the client knows of the application: its state, how many messages it was sent, and the
message buffer of `fpc_tee_init`. -/
structure Tee where
  ta : Ta
  messages : Nat
  sharedBuffer : List UInt8

/-- `fpc_tac_transfer`, with what the application gets from outside during its next command. -/
def transfer (tac : Tac) (envs : Nat → Env) (tee : Tee) (shared : List UInt8) :
    Outcome (Int × Tee × List UInt8) := do
  let (status, ta, shared) ← tac.transfer (envs tee.messages) tee.ta shared
  .ok (status, { tee with ta := ta, messages := tee.messages + 1 }, shared)

/-- `fpc_tac_transfer` of the message buffer. -/
def transferBuffer (tac : Tac) (envs : Nat → Env) (tee : Tee) (shared : List UInt8) :
    Outcome (Int × Tee) := do
  let (status, tee, shared) ← transfer tac envs tee shared
  .ok (status, { tee with sharedBuffer := shared })

/-! ## Commands to the bio module (`fpc_tee_bio.c`) -/

def targetFpcTaBio : UInt32 := 11
def fpcTaBioLoadEmptyDbCmd : UInt32 := 6

/-- `bio_command` -/
def bioCommand (tac : Tac) (envs : Nat → Env) (tee : Tee) (commandId : UInt32) :
    Outcome (Int × Tee) := do
  let shared ← store32 tee.sharedBuffer offCommand commandId
  let shared ← store32 shared offTarget targetFpcTaBio
  let (status, tee) ← transferBuffer tac envs tee shared
  if status ≠ 0 then .ok (status, tee)
  else
    let response ← load32 tee.sharedBuffer offResponse
    .ok (toInt32 response, tee)

/-- `fpc_tee_load_empty_db` -/
def fpcTeeLoadEmptyDb (tac : Tac) (envs : Nat → Env) (tee : Tee) : Outcome (Int × Tee) :=
  bioCommand tac envs tee fpcTaBioLoadEmptyDbCmd

end Fpc
