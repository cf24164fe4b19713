import Fingerprints.Db.Pack
import Fingerprints.Ta.Platform

/-!
# The blob transfer

`fpc_ta_db_blob.c` moves the wrapped database in pieces. One transfer can be open at a time: to
the outside (`rdonly`), with the wrapped database in its buffer from the start, or from the
outside (`wronly`), decoded when its last byte has come in. Messages of `DB_READ` and `DB_WRITE`
are checked by `byteArrayValid` before their size field is used.
-/

namespace Fpc

open Wire Wire.Outcome

/-- `fpc_db_get_data_size`, with its check of the pointer. -/
def getDataSize (pDb : Option FingerprintDatabase) : Outcome Nat :=
  match pDb with
  | none => .err (-fpcErrorInput)
  | some db => fpcDbGetDataSize db

/-- `fpc_db_get_data`, with its check of the pointer. -/
def getData (pDb : Option FingerprintDatabase) (pDbData : List UInt8) (dbDataSize : Nat) :
    Outcome (List UInt8) :=
  match pDb with
  | none => .err (-fpcErrorInput)
  | some db => fpcDbGetData db pDbData dbDataSize

/-- `fpc_ta_get_db_blob_size` -/
def fpcTaGetDbBlobSize (P : Platform) (bio : Bio) : Outcome (Int × Option UInt32) :=
  match getDataSize bio.userDb with
  | .fault f => .fault f
  | .err code => .ok (code, none)
  | .ok dataSize => .ok (0, some (P.getWrappedSize (UInt32.ofNat dataSize)))

/-- `fpc_ta_db_close` -/
def fpcTaDbClose : Int × Transfer := (0, Transfer.closed)

/-- `FPC_TA_MAX_TRANSFER` -/
def fpcTaMaxTransfer : Nat := 5 * 250 * 1024

/-- The exit of `fpc_ta_db_open`, which closes the transfer when there was an error. -/
def openExit (result : Int) (transfer : Transfer) : Int × Transfer :=
  if result < 0 then (result, fpcTaDbClose.2) else (result, transfer)

/-- The read branch of `fpc_ta_db_open`: the database is packed, wrapped and put into the buffer.
The mode is set first. -/
def openRdonly (P : Platform) (env : Env) (bio : Bio) (transfer : Transfer) :
    Outcome (Int × Transfer) :=
  let transfer := { transfer with mode := fpcTaBioDbRdonly }
  match getDataSize bio.userDb with
  | .fault f => .fault f
  | .err _ => .ok (openExit (-fpcErrorIo) transfer)
  | .ok unwrappedDataSize =>
      if unwrappedDataSize = 0 then .ok (openExit (-fpcErrorIo) transfer)
      else if !env.blob.mallocUnwrapped then .ok (openExit (-fpcErrorAlloc) transfer)
      else
        let wrappedSize := P.getWrappedSize (UInt32.ofNat unwrappedDataSize)
        let transfer := { transfer with size := wrappedSize.toNat, dataOffset := 0 }
        if !env.blob.mallocData then .ok (openExit (-fpcErrorAlloc) transfer)
        else
          let transfer := { transfer with data := some (List.replicate wrappedSize.toNat 0) }
          match getData bio.userDb (List.replicate unwrappedDataSize 0) unwrappedDataSize with
          | .fault f => .fault f
          | .err _ => .ok (openExit (-fpcErrorIo) transfer)
          | .ok unwrappedData =>
              let wrapped := env.wrapCrypto unwrappedData
              let transfer := { transfer with
                data := transfer.data.map fun data => overFront data wrapped.bytes }
              if wrapped.status < 0 then .ok (openExit wrapped.status.toInt transfer)
              else if wrapped.size ≠ wrappedSize then .ok (openExit (-fpcErrorIo) transfer)
              else
                .ok (openExit wrapped.status.toInt { transfer with remaining := transfer.size })

/-- `fpc_ta_db_open` -/
def fpcTaDbOpen (P : Platform) (env : Env) (bio : Bio) (transfer : Transfer) (mode : UInt32)
    (size : Nat) : Outcome (Int × Transfer) :=
  if transfer.mode ≠ -1 then .ok (-fpcErrorIo, transfer)
  else if size = 0 ∨ size > fpcTaMaxTransfer then .ok (-fpcErrorInput, transfer)
  else if mode.toNat = fpcTaBioDbWronly then
    if !env.blob.mallocData then .ok (-fpcErrorAlloc, { transfer with data := none })
    else
      -- a fresh block: every byte of it is written before it is read
      .ok (0, { mode := fpcTaBioDbWronly, size := size, remaining := size, dataOffset := 0,
                data := some (List.replicate size 0) })
  else if mode.toNat = fpcTaBioDbRdonly then openRdonly P env bio transfer
  else .ok (openExit (-fpcErrorInput) transfer)

/-- The bytes that a `memcpy` of READ or WRITE moves: at most the rest of the transfer. -/
def Transfer.clamp (transfer : Transfer) (size : Nat) : Nat := min transfer.remaining size

/-- The counters after `size` bytes were moved. -/
def Transfer.advance (transfer : Transfer) (size : Nat) : Transfer :=
  { transfer with
    remaining := transfer.remaining - size, dataOffset := transfer.dataOffset + size }

/-- `memcpy(dest, buffer, size)` of `fpc_ta_db_write`, from the message into the buffer. -/
def dbWriteCopy (transfer : Transfer) (msg : List UInt8) (size : Nat) : Outcome Transfer := do
  let bytes ← loadSpan msg offArray (transfer.clamp size)
  match transfer.data with
  | none => .fault .null
  | some data => do
      let data ← storeSpan data transfer.dataOffset bytes
      .ok ({ transfer with data := some data }.advance (transfer.clamp size))

/-- `memcpy(buffer, src, size)` of `fpc_ta_db_read`, from the buffer into the message. -/
def dbReadCopy (transfer : Transfer) (msg : List UInt8) (size : Nat) :
    Outcome (Transfer × List UInt8) :=
  match transfer.data with
  | none => .fault .null
  | some data => do
      let bytes ← loadSpan data transfer.dataOffset (transfer.clamp size)
      let msg ← storeSpan msg offArray bytes
      .ok (transfer.advance (transfer.clamp size), msg)

/-- `unwrap`: a database that decodes replaces the pointer to the one there was. -/
def unwrap (env : Env) (bio : Bio) (transfer : Transfer) : Outcome (Int × Bio × Transfer) :=
  let unwrapped := fpcUnwrapCrypto env (transfer.data.getD [])
  let transfer := { transfer with data := transfer.data.map fun _ => unwrapped.buffer }
  if unwrapped.status < 0 then .ok (unwrapped.status, bio, transfer)
  else
    match fpcDbCreate env.db (some unwrapped.data) unwrapped.data.length with
    | .fault f => .fault f
    | .err code => .ok (code, bio, transfer)
    | .ok db => .ok (0, { bio with userDb := some db }, transfer)

/-- What READ and WRITE return while bytes remain: the counter, as an `int`. -/
def remainingResult (transfer : Transfer) : Int := toInt32 (UInt32.ofNat transfer.remaining)

/-- `fpc_ta_db_write` -/
def fpcTaDbWrite (env : Env) (bio : Bio) (transfer : Transfer) (msg : List UInt8) (size : Nat) :
    Outcome (Int × Bio × Transfer) :=
  if transfer.mode ≠ fpcTaBioDbWronly then .ok (-fpcErrorInput, bio, transfer)
  else if size = 0 ∨ transfer.remaining = 0 then .ok (-fpcErrorInput, bio, transfer)
  else do
    let transfer ← dbWriteCopy transfer msg size
    if transfer.remaining = 0 then unwrap env bio transfer
    else .ok (remainingResult transfer, bio, transfer)

/-- `fpc_ta_db_read`: its status, the transfer and the message. -/
def fpcTaDbRead (transfer : Transfer) (msg : List UInt8) (size : Nat) :
    Outcome (Int × Transfer × List UInt8) :=
  if size = 0 ∨ transfer.mode ≠ fpcTaBioDbRdonly ∨ transfer.remaining = 0 then
    .ok (-fpcErrorInput, transfer, msg)
  else do
    let (transfer, msg) ← dbReadCopy transfer msg size
    .ok (remainingResult transfer, transfer, msg)

/-- The commands of the module. -/
inductive DbBlobCmd where
  | getDbSize
  | dbOpen
  | dbClose
  | dbRead
  | dbWrite
  deriving DecidableEq, Repr

def DbBlobCmd.ofWord (command : UInt32) : Option DbBlobCmd :=
  if command = 5 then some .getDbSize
  else if command = 13 then some .dbOpen
  else if command = 14 then some .dbClose
  else if command = 15 then some .dbRead
  else if command = 16 then some .dbWrite
  else none

def offDbOpenMode : Nat := 16
def offDbOpenSize : Nat := 20

/-- The size of the blob into the message, where there is one. -/
def storeBlobSize (msg : List UInt8) : Option UInt32 → Outcome (List UInt8)
  | some blobSize => store32 msg offSize blobSize
  | none => .ok msg

/-- The switch of `fpc_ta_db_blob_handler`. -/
def dbBlobSwitch (P : Platform) (env : Env) (ta : Ta) (msg : List UInt8) :
    DbBlobCmd → Outcome Handled
  | .getDbSize => do
      let (response, blobSize) ← fpcTaGetDbBlobSize P ta.bio
      let msg ← storeBlobSize msg blobSize
      let msg ← store32 msg offResponse (ofInt32 response)
      .ok { ta := ta, msg := msg, status := 0 }
  | .dbOpen => do
      let mode ← load32 msg offDbOpenMode
      let size ← load32 msg offDbOpenSize
      let (response, transfer) ← fpcTaDbOpen P env ta.bio ta.transfer mode size.toNat
      let msg ← store32 msg offResponse (ofInt32 response)
      .ok { ta := { ta with transfer := transfer }, msg := msg, status := 0 }
  | .dbClose => do
      let (response, transfer) := fpcTaDbClose
      let msg ← store32 msg offResponse (ofInt32 response)
      .ok { ta := { ta with transfer := transfer }, msg := msg, status := 0 }
  | .dbRead => do
      let valid ← byteArrayValid msg
      if !valid then .ok (.rejected ta msg (-fpcErrorInput))
      else
        let size ← load32 msg offSize
        let (response, transfer, msg) ← fpcTaDbRead ta.transfer msg size.toNat
        let msg ← store32 msg offResponse (ofInt32 response)
        .ok { ta := { ta with transfer := transfer }, msg := msg, status := 0 }
  | .dbWrite => do
      let valid ← byteArrayValid msg
      if !valid then .ok (.rejected ta msg (-fpcErrorInput))
      else
        let size ← load32 msg offSize
        let (response, bio, transfer) ← fpcTaDbWrite env ta.bio ta.transfer msg size.toNat
        let msg ← store32 msg offResponse (ofInt32 response)
        .ok { ta := { ta with bio := bio, transfer := transfer }, msg := msg, status := 0 }

/-- `fpc_ta_db_blob_handler` -/
def fpcTaDbBlobHandler (P : Platform) (env : Env) (ta : Ta) (msg : List UInt8) :
    Outcome Handled :=
  handleCommand sizeofBioCommand DbBlobCmd.ofWord (dbBlobSwitch P env ta msg) ta msg

/-- The command of a message that the handler takes up. -/
def dbBlobCmd : List UInt8 → Option DbBlobCmd := commandIn sizeofBioCommand DbBlobCmd.ofWord

end Fpc
