import Fingerprints.Ta.DbBlob

/-!
# The database in a file

`fpc_ta_fs.c` loads the database from a file and stores it there. The handler takes its message
unchecked but for the path: the size field is read before the buffer is known to hold it.
-/

namespace Fpc

open Wire Wire.Outcome

/-- `fpc_ta_load_db_from_file`: its status and the database. The old database is destroyed before
anything can fail. -/
def fpcTaLoadDbFromFile (env : Env) : Outcome (Int × Option FingerprintDatabase) :=
  let (filesizeStatus, fileSize) := env.fs.getFilesize
  let status := -filesizeStatus.toInt
  if status ≠ 0 then .ok (status, none)
  else if fileSize = 0 then .ok (-fpcErrorNoentity, none)
  else if !env.fs.malloc then .ok (-fpcErrorAlloc, none)
  else
    let (status, contents) := env.fs.read
    let data := (ofList fileSize.toNat 0 contents).toList
    if status < 0 then .ok (status.toInt, none)
    else if status.toUInt32 ≠ fileSize then .ok (-fpcErrorIo, none)
    else
      match fpcDbCreate env.db (some data) fileSize.toNat with
      | .fault f => .fault f
      | .err code => .ok (code, none)
      | .ok db => .ok (0, some db)

/-- `fpc_ta_store_db_to_file` -/
def fpcTaStoreDbToFile (env : Env) (bio : Bio) : Outcome Int :=
  match getDataSize bio.userDb with
  | .fault f => .fault f
  | .err code => .ok code
  | .ok sizeDb =>
      if sizeDb = 0 then .ok (-fpcErrorInput)
      else if !env.fs.malloc then .ok (-fpcErrorAlloc)
      else
        match getData bio.userDb (List.replicate sizeDb 0) sizeDb with
        | .fault f => .fault f
        | .err code => .ok code
        | .ok _ => if env.fs.write ≤ 0 then .ok env.fs.write.toInt else .ok 0

/-- The commands of the module. -/
inductive FsCmd where
  | loadDb
  | storeDb
  deriving DecidableEq, Repr

def FsCmd.ofWord (command : UInt32) : Option FsCmd :=
  if command = 11 then some .loadDb
  else if command = 12 then some .storeDb
  else none

/-- The switch of `fpc_ta_fs_handler`. -/
def fsSwitch (env : Env) (ta : Ta) (msg : List UInt8) : FsCmd → Outcome Handled
  | .loadDb => do
      let valid ← byteArrayStringValid msg
      if !valid then .ok (.rejected ta msg (-fpcErrorInput))
      else
        let (response, userDb) ← fpcTaLoadDbFromFile env
        let msg ← store32 msg offResponse (ofInt32 response)
        .ok { ta := { ta with bio := { ta.bio with userDb := userDb } }, msg := msg, status := 0 }
  | .storeDb => do
      let valid ← byteArrayStringValid msg
      if !valid then .ok (.rejected ta msg (-fpcErrorInput))
      else
        let response ← fpcTaStoreDbToFile env ta.bio
        let msg ← store32 msg offResponse (ofInt32 response)
        .ok { ta := ta, msg := msg, status := 0 }

/-- `fpc_ta_fs_handler` -/
def fpcTaFsHandler (env : Env) (ta : Ta) (msg : List UInt8) : Outcome Handled := do
  let command ← load32 msg offCommand
  match FsCmd.ofWord command with
  | some cmd => fsSwitch env ta msg cmd
  | none => .ok (.rejected ta msg (-fpcErrorInput))

/-- The command of a message that the handler takes up. -/
def fsCmd : List UInt8 → Option FsCmd := commandIn sizeofHeader FsCmd.ofWord

end Fpc
