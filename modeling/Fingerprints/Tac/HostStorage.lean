import Fingerprints.Tac.Client
import Fingerprints.Wire.Loop

/-!
# Template databases in files of the client

`fpc_tee_host_storage.c`. The client takes the wrapped database out of the application and puts it
back in chunks: a loop sends one message again and again, whose size field is that of the first
chunk, and compares the bytes it still has to move with the number the application returns.
-/

namespace Fpc

open Wire Wire.Outcome

/-- `MAX_CHUNK` -/
def maxChunk : Nat := 1024 * 1024 - sizeofByteArrayMsg

/-! ## Messages to the blob module -/

def targetFpcTaDbBlob : UInt32 := 4
def fpcTaBioGetDbSizeCmd : UInt32 := 5
def fpcTaBioDbOpenCmd : UInt32 := 13
def fpcTaBioDbCloseCmd : UInt32 := 14
def fpcTaBioDbReadCmd : UInt32 := 15
def fpcTaBioDbWriteCmd : UInt32 := 16

/-- The header of a command to the blob module. -/
def dbHeader (shared : List UInt8) (command : UInt32) : Outcome (List UInt8) := do
  let shared ← store32 shared offTarget targetFpcTaDbBlob
  store32 shared offCommand command

/-- `get_db_blob_size`: its result and the size. -/
def getDbBlobSize (tac : Tac) (envs : Nat → Env) (tee : Tee) : Outcome (Int × Nat × Tee) := do
  let shared ← dbHeader tee.sharedBuffer fpcTaBioGetDbSizeCmd
  let shared ← store32 shared offSize 0
  let (status, tee) ← transferBuffer tac envs tee shared
  let blobSize ← load32 tee.sharedBuffer offSize
  let response ← load32 tee.sharedBuffer offResponse
  .ok (if status < 0 then status else toInt32 response, blobSize.toNat, tee)

/-- `db_open` -/
def dbOpen (tac : Tac) (envs : Nat → Env) (tee : Tee) (mode size : UInt32) :
    Outcome (Int × Tee) := do
  let shared ← dbHeader tee.sharedBuffer fpcTaBioDbOpenCmd
  let shared ← store32 shared offDbOpenMode mode
  let shared ← store32 shared offDbOpenSize size
  let (result, tee) ← transferBuffer tac envs tee shared
  let response ← load32 tee.sharedBuffer offResponse
  .ok (if result < 0 then result else toInt32 response, tee)

/-- `db_close` -/
def dbClose (tac : Tac) (envs : Nat → Env) (tee : Tee) : Outcome (Int × Tee) := do
  let shared ← dbHeader tee.sharedBuffer fpcTaBioDbCloseCmd
  let (result, tee) ← transferBuffer tac envs tee shared
  let response ← load32 tee.sharedBuffer offResponse
  .ok (if result < 0 then result else toInt32 response, tee)

/-! ## The chunk loops -/

/-- How a chunk loop is left early. -/
inductive ChunkExit where
  | failed
  | outOfSync
  deriving DecidableEq, Repr

/-- The variables of a chunk loop. -/
structure ChunkLoop where
  tee : Tee
  shared : List UInt8
  blob : List UInt8
  offset : Nat
  remainingSize : Nat
  result : Int

/-- A round of `send_db_read_commands`. -/
def sendDbReadRound (tac : Tac) (envs : Nat → Env) (s : ChunkLoop) :
    Outcome (ChunkLoop × Option ChunkExit) := do
  let payloadSize := min maxChunk s.remainingSize
  let (result, tee, shared) ← transfer tac envs s.tee s.shared
  let s := { s with tee := tee, shared := shared, result := result }
  if s.result < 0 then .ok (s, some .failed)
  else
    let response ← load32 s.shared offResponse
    let s := { s with result := toInt32 response }
    if s.result < 0 then .ok (s, some .failed)
    else
      let s := { s with remainingSize := s.remainingSize - payloadSize }
      if s.remainingSize ≠ response.toNat then
        .ok ({ s with result := -fpcErrorComm }, some .outOfSync)
      else
        let bytes ← loadSpan s.shared offArray payloadSize
        let blob ← storeSpan s.blob s.offset bytes
        .ok ({ s with blob := blob, offset := s.offset + payloadSize }, none)

/-- A round of `send_db_write_commands`. -/
def sendDbWriteRound (tac : Tac) (envs : Nat → Env) (s : ChunkLoop) :
    Outcome (ChunkLoop × Option ChunkExit) := do
  let payloadSize := min maxChunk s.remainingSize
  let bytes ← loadSpan s.blob s.offset payloadSize
  let shared ← storeSpan s.shared offArray bytes
  let (result, tee, shared) ← transfer tac envs s.tee shared
  let s := { s with tee := tee, shared := shared, result := result }
  if s.result < 0 then .ok (s, some .failed)
  else
    let response ← load32 s.shared offResponse
    let s := { s with result := toInt32 response }
    if s.result < 0 then .ok (s, some .failed)
    else
      let s := { s with remainingSize := s.remainingSize - payloadSize,
                        offset := s.offset + payloadSize }
      if s.remainingSize ≠ response.toNat then .ok ({ s with result := -1 }, some .outOfSync)
      else .ok (s, none)

section

variable {tac : Tac} {envs : Nat → Env} {s s' : ChunkLoop}

theorem sendDbReadRound_lowers (hleft : s.remainingSize ≠ 0)
    (h : sendDbReadRound tac envs s = .ok (s', none)) : s'.remainingSize < s.remainingSize := by
  obtain ⟨⟨result, tee, shared⟩, _, h⟩ := bind_eq_ok.mp h
  dsimp only at h
  split at h
  · cases h
  · obtain ⟨response, _, h⟩ := bind_eq_ok.mp h
    split at h
    · cases h
    · split at h
      · cases h
      · obtain ⟨bytes, _, h⟩ := bind_eq_ok.mp h
        obtain ⟨blob, _, h⟩ := bind_eq_ok.mp h
        cases h
        dsimp only
        unfold maxChunk sizeofByteArrayMsg
        omega

theorem sendDbWriteRound_lowers (hleft : s.remainingSize ≠ 0)
    (h : sendDbWriteRound tac envs s = .ok (s', none)) : s'.remainingSize < s.remainingSize := by
  obtain ⟨bytes, _, h⟩ := bind_eq_ok.mp h
  obtain ⟨shared, _, h⟩ := bind_eq_ok.mp h
  obtain ⟨⟨result, tee, shared⟩, _, h⟩ := bind_eq_ok.mp h
  dsimp only at h
  split at h
  · cases h
  · obtain ⟨response, _, h⟩ := bind_eq_ok.mp h
    split at h
    · cases h
    · split at h
      · cases h
      · cases h
        dsimp only
        unfold maxChunk sizeofByteArrayMsg
        omega

end

/-- The loop of `send_db_read_commands`. -/
def readLoop (tac : Tac) (envs : Nat → Env) : Loop ChunkLoop ChunkExit where
  left := ChunkLoop.remainingSize
  round := sendDbReadRound tac envs
  lowers := sendDbReadRound_lowers

/-- The loop of `send_db_write_commands`. -/
def writeLoop (tac : Tac) (envs : Nat → Env) : Loop ChunkLoop ChunkExit where
  left := ChunkLoop.remainingSize
  round := sendDbWriteRound tac envs
  lowers := sendDbWriteRound_lowers

/-- The loop variables at the first round, in the message that was allocated. -/
def chunkStart (tee : Tee) (shared blob : List UInt8) (command : UInt32) : Outcome ChunkLoop := do
  let shared ← dbHeader shared command
  let shared ← store32 shared offSize (UInt32.ofNat (min blob.length maxChunk))
  .ok { tee := tee, shared := shared, blob := blob, offset := 0,
        remainingSize := wrap32 blob.length, result := 0 }

/-- The size of the message of a chunk loop. -/
def chunkMessageSize (blobSize : Nat) : Nat := min blobSize maxChunk + sizeofBioCommand

/-- What `send_db_read_commands` and `send_db_write_commands` share: the message, and the loop. -/
def sendDbCommands (tac : Tac) (loop : Loop ChunkLoop ChunkExit) (command : UInt32) (tee : Tee)
    (blob : List UInt8) : Outcome (Int × Tee × List UInt8) :=
  match tac.allocShared (chunkMessageSize blob.length) with
  | none => .ok (-fpcErrorAlloc, tee, blob)
  | some shared => do
      let s ← chunkStart tee shared blob command
      let (s, _) ← loop.run s
      .ok (s.result, s.tee, s.blob)

/-- `send_db_read_commands` -/
def sendDbReadCommands (tac : Tac) (envs : Nat → Env) (tee : Tee) (blob : List UInt8) :
    Outcome (Int × Tee × List UInt8) :=
  sendDbCommands tac (readLoop tac envs) fpcTaBioDbReadCmd tee blob

/-- `send_db_write_commands` -/
def sendDbWriteCommands (tac : Tac) (envs : Nat → Env) (tee : Tee) (fileBuffer : List UInt8) :
    Outcome (Int × Tee × List UInt8) :=
  sendDbCommands tac (writeLoop tac envs) fpcTaBioDbWriteCmd tee fileBuffer

/-! ## Files -/

/-- The files of the client, by their paths. -/
abbrev Files := List UInt8 → Option (List UInt8)

/-- What the system calls of one call to this module give: whether `stat` works on a file there is,
what `malloc` gives, whether a file opens and all of it is read, and how many of the bytes for a
file are written, where any are. -/
structure HostCalls where
  stat : Bool
  malloc : Option (List UInt8)
  openFile : Bool
  readAll : Bool
  write : Option Nat
  rename : Bool

/-- The application and the files. -/
structure Host where
  tee : Tee
  files : Files

def pathMax : Nat := 4096

/-- `".bak"` -/
def bak : List UInt8 := [46, 98, 97, 107]

/-- `get_file_size` -/
def getFileSize (calls : HostCalls) (files : Files) (path : List UInt8) : Int × Nat :=
  if !calls.stat then (-fpcErrorIo, 0)
  else
    match files path with
    | none => (0, 0)
    | some content => (0, content.length)

/-- `fpc_read_db_blob_from_file`: its result and the buffer. -/
def fpcReadDbBlobFromFile (calls : HostCalls) (files : Files) (buf : List UInt8)
    (path : List UInt8) : Int × List UInt8 :=
  match files path with
  | none => (-fpcErrorIo, buf)
  | some content =>
      if !calls.openFile then (-fpcErrorIo, buf)
      else if !calls.readAll then (-fpcErrorIo, buf)
      else if content.length < buf.length then (-fpcErrorIo, overFront buf content)
      else (0, content.take buf.length)

/-- `fpc_write_db_blob_to_file`: the file is emptied when it is opened. -/
def fpcWriteDbBlobToFile (calls : HostCalls) (files : Files) (blob : List UInt8)
    (path : List UInt8) : Int × Files :=
  if !calls.openFile then (-fpcErrorIo, files)
  else
    match calls.write with
    | none => (-fpcErrorIo, Function.update files path (some []))
    | some written =>
        let files := Function.update files path (some (blob.take written))
        if written < blob.length then (-fpcErrorIo, files) else (0, files)

/-- `rename(temp_path, path)` -/
def renameFile (files : Files) (tempPath path : List UInt8) : Files :=
  Function.update (Function.update files path (files tempPath)) tempPath none

/-- The part of `fpc_tee_store_template_db` with the transfer open. -/
def storeBlob (tac : Tac) (envs : Nat → Env) (calls : HostCalls) (host : Host) (blobSize : Nat)
    (path : List UInt8) : Outcome (Int × Host) :=
  match malloc calls.malloc blobSize with
  | none => .ok (-fpcErrorAlloc, host)
  | some blob => do
      let (result, tee, blob) ← sendDbReadCommands tac envs host.tee blob
      if result < 0 then .ok (result, { host with tee := tee })
      else
        let (result, files) := fpcWriteDbBlobToFile calls host.files blob (path ++ bak)
        if result < 0 then .ok (result, { tee := tee, files := files })
        else if !calls.rename then
          .ok (-fpcErrorIo, { tee := tee, files := Function.update files (path ++ bak) none })
        else .ok (result, { tee := tee, files := renameFile files (path ++ bak) path })

/-- `fpc_tee_store_template_db` -/
def fpcTeeStoreTemplateDb (tac : Tac) (envs : Nat → Env) (calls : HostCalls) (host : Host)
    (path : List UInt8) : Outcome (Int × Host) :=
  if pathMax ≤ (path ++ bak).length then .ok (-fpcErrorInput, host)
  else do
    let (result, blobSize, tee) ← getDbBlobSize tac envs host.tee
    let host := { host with tee := tee }
    if result < 0 then .ok (result, host)
    else if blobSize = 0 then .ok (-fpcErrorIo, host)
    else
      let (result, tee) ←
        dbOpen tac envs host.tee (UInt32.ofNat fpcTaBioDbRdonly) (UInt32.ofNat blobSize)
      let host := { host with tee := tee }
      let (result, host) ←
        if result < 0 then .ok (result, host) else storeBlob tac envs calls host blobSize path
      let (_, tee) ← dbClose tac envs host.tee
      .ok (result, { host with tee := tee })

/-- The part of `fpc_tee_load_template_db` with the transfer and a buffer for the file. -/
def loadBlob (tac : Tac) (envs : Nat → Env) (calls : HostCalls) (host : Host)
    (fileBuffer : List UInt8) (path : List UInt8) : Outcome (Int × Tee) :=
  let (result, fileBuffer) := fpcReadDbBlobFromFile calls host.files fileBuffer path
  if result < 0 then .ok (result, host.tee)
  else do
    let (result, tee, _) ← sendDbWriteCommands tac envs host.tee fileBuffer
    .ok (result, tee)

/-- `fpc_tee_load_template_db`: without memory for the file it returns with the transfer open. -/
def fpcTeeLoadTemplateDb (tac : Tac) (envs : Nat → Env) (calls : HostCalls) (host : Host)
    (path : List UInt8) : Outcome (Int × Tee) :=
  let (result, fileSize) := getFileSize calls host.files path
  if result < 0 then .ok (result, host.tee)
  else if fileSize = 0 then fpcTeeLoadEmptyDb tac envs host.tee
  else do
    let (result, tee) ←
      dbOpen tac envs host.tee (UInt32.ofNat fpcTaBioDbWronly) (UInt32.ofNat fileSize)
    if result < 0 then do
      let (_, tee) ← dbClose tac envs tee
      .ok (result, tee)
    else
      match malloc calls.malloc fileSize with
      | none => .ok (-fpcErrorAlloc, tee)
      | some fileBuffer => do
          let (result, tee) ← loadBlob tac envs calls { host with tee := tee } fileBuffer path
          let (_, tee) ← dbClose tac envs tee
          .ok (result, tee)

end Fpc
