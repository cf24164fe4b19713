import Fingerprints.Ta.FileWrite
import Fingerprints.Ta.MessageBounds
import Fingerprints.Wire.Access

/-!
# What the file handler reads

`fpc_ta_fs_handler` once more, with every read of the message and of `tran_path`, the buffer that
`transform_path` of `fpc_ta_fs_ut.c` fills and that `ut_pf_ts_open` reads as a string. The file
functions take their path from the message where it stands. Without the reads it is the handler of
the module, **`outcome_fpcTaFsHandler`**.

The handler stays inside the two buffers exactly when the message holds what is read of it before
its size is looked at, and its path does not fill `tran_path`: **`safe_iff`**.
-/

namespace Fpc.FsReads

open Wire Wire.Outcome Wire.Traced

/-- The buffers that a path is read from. -/
inductive FsBuffer where
  | message
  | tranPath
  deriving DecidableEq, Repr

/-- Their sizes, where `size_buffer` is the length of the message. -/
def FsBuffer.size (msg : List UInt8) : FsBuffer → Nat
  | .message => msg.length
  | .tranPath => maxPathLength

/-- A computation with the reads it makes. -/
abbrev Reading := Traced (Access FsBuffer)

/-- `byte_array_valid` -/
def byteArrayValid (msg : List UInt8) : Reading Bool := do
  let payloadSize ← read32 .message msg offSize
  let totalSize := wrap32 (sizeofByteArrayMsg + payloadSize.toNat)
  if sizeofByteArrayMsg > msg.length then pure false
  else if sizeofByteArrayMsg > totalSize then pure false
  else if totalSize > msg.length then pure false
  else pure true

/-- `byte_array_string_valid` -/
def byteArrayStringValid (msg : List UInt8) : Reading Bool := do
  let valid ← byteArrayValid msg
  if !valid then pure false
  else do
    let size ← read32 .message msg offSize
    findZero .message msg offArray size.toNat

/-- `transform_path` of the path in the message: what is written to `tran_path`, or nothing where the
path is found too long. -/
def transformPath (msg : List UInt8) : Reading (Option (List UInt8)) := do
  let length ← strlen .message msg offArray
  if dbPathPreFix.length + length > maxPathLength then pure none
  else do
    let pathOut ← quiet (storeSpan (List.replicate maxPathLength 0) 0 dbPathPreFix)
    let length ← strlen .message msg offArray
    let pathIn ← readSpan .message msg offArray length
    let pathOut ← quiet (storeSpan pathOut dbPathPreFix.length pathIn)
    pure (some pathOut)

/-- What `ut_pf_ts_open`, the one call on the open file and `ut_pf_ts_close` return, and the bytes
that a read puts into its buffer. -/
structure TsAnswers where
  fd : Int32
  retval : Int32
  bytes : List UInt8
  close : Int32
  deriving DecidableEq, Repr

/-- A function of the file layer: a path that is too long is an error of its own, any other is given
to `ut_pf_ts_open`, which reads it up to its end. -/
def onPath {α : Type} (msg : List UInt8) (rejected opened : α) : Reading α := do
  let tranPath ← transformPath msg
  match tranPath with
  | none => pure rejected
  | some tranPath => do
      let _ ← strlen .tranPath tranPath 0
      pure opened

/-- A status of the file layer. -/
def fsError (code : Int) : Int32 := Int32.ofInt (-code)

/-- What `fpc_fs_get_filesize` returns on an open path, and `*size`, which is zero before. -/
def filesizeResult (answers : TsAnswers) : Int32 × UInt32 :=
  if answers.fd < 0 then (fsError fpcErrorIo, 0)
  else if answers.retval < 0 then (fsError fpcErrorIo, 0)
  else if answers.close ≠ 0 then (fsError fpcErrorIo, answers.retval.toUInt32)
  else (answers.close, answers.retval.toUInt32)

/-- `fpc_fs_get_filesize` -/
def fpcFsGetFilesize (msg : List UInt8) (answers : TsAnswers) : Reading (Int32 × UInt32) :=
  onPath msg (fsError fpcErrorInput, 0) (filesizeResult answers)

/-- What `fpc_fs_read` and `fpc_fs_write` return on an open path: the number of bytes, where all of
them were moved. -/
def movedStatus (answers : TsAnswers) (size : UInt32) : Int32 :=
  if answers.fd < 0 then fsError fpcErrorIo
  else if answers.retval < 0 then fsError fpcErrorIo
  else if size.toInt32 ≠ answers.retval then fsError fpcErrorIo
  else if answers.close ≠ 0 then fsError fpcErrorIo
  else answers.retval

/-- `fpc_fs_read`: its status and what it puts into the buffer. -/
def fpcFsRead (msg : List UInt8) (size : UInt32) (answers : TsAnswers) :
    Reading (Int32 × List UInt8) :=
  onPath msg (fsError fpcErrorInput, []) (movedStatus answers size, answers.bytes)

/-- `fpc_fs_write` -/
def fpcFsWrite (msg : List UInt8) (size : UInt32) (answers : TsAnswers) : Reading Int32 :=
  onPath msg (fsError fpcErrorInput) (movedStatus answers size)

/-- What the calls of the file system return to each function of the file layer. -/
structure FsCalls where
  getFilesize : TsAnswers
  read : TsAnswers
  write : TsAnswers
  deriving DecidableEq, Repr

/-- A file system without files. -/
def FsCalls.missing : FsCalls :=
  let answers : TsAnswers := { fd := -1, retval := -1, bytes := [], close := 0 }
  { getFilesize := answers, read := answers, write := answers }

/-- `fpc_ta_load_db_from_file` -/
def fpcTaLoadDbFromFile (env : Env) (calls : FsCalls) (msg : List UInt8) :
    Reading (Int × Option FingerprintDatabase) := do
  let (filesizeStatus, fileSize) ← fpcFsGetFilesize msg calls.getFilesize
  let status := -filesizeStatus.toInt
  if status ≠ 0 then pure (status, none)
  else if fileSize = 0 then pure (-fpcErrorNoentity, none)
  else if !env.fs.malloc then pure (-fpcErrorAlloc, none)
  else do
    let (status, contents) ← fpcFsRead msg fileSize calls.read
    let data := (ofList fileSize.toNat 0 contents).toList
    if status < 0 then pure (status.toInt, none)
    else if status.toUInt32 ≠ fileSize then pure (-fpcErrorIo, none)
    else
      match fpcDbCreate env.db (some data) fileSize.toNat with
      | .fault f => quiet (.fault f)
      | .err code => pure (code, none)
      | .ok db => pure (0, some db)

/-- `fpc_ta_store_db_to_file` -/
def fpcTaStoreDbToFile (env : Env) (calls : FsCalls) (bio : Bio) (msg : List UInt8) :
    Reading Int :=
  match getDataSize bio.userDb with
  | .fault f => quiet (.fault f)
  | .err code => pure code
  | .ok sizeDb =>
      if sizeDb = 0 then pure (-fpcErrorInput)
      else if !env.fs.malloc then pure (-fpcErrorAlloc)
      else
        match getData bio.userDb (List.replicate sizeDb 0) sizeDb with
        | .fault f => quiet (.fault f)
        | .err code => pure code
        | .ok _ => do
            let status ← fpcFsWrite msg (UInt32.ofNat sizeDb) calls.write
            if status ≤ 0 then pure status.toInt else pure 0

/-- The switch of `fpc_ta_fs_handler`. -/
def fsSwitch (env : Env) (calls : FsCalls) (ta : Ta) (msg : List UInt8) : FsCmd → Reading Handled
  | .loadDb => do
      let valid ← byteArrayStringValid msg
      if !valid then pure (.rejected ta msg (-fpcErrorInput))
      else do
        let (response, userDb) ← fpcTaLoadDbFromFile env calls msg
        let msg ← quiet (store32 msg offResponse (ofInt32 response))
        pure { ta := { ta with bio := { ta.bio with userDb := userDb } }, msg := msg, status := 0 }
  | .storeDb => do
      let valid ← byteArrayStringValid msg
      if !valid then pure (.rejected ta msg (-fpcErrorInput))
      else do
        let response ← fpcTaStoreDbToFile env calls ta.bio msg
        let msg ← quiet (store32 msg offResponse (ofInt32 response))
        pure { ta := ta, msg := msg, status := 0 }

/-- `fpc_ta_fs_handler` -/
def fpcTaFsHandler (env : Env) (calls : FsCalls) (ta : Ta) (msg : List UInt8) : Reading Handled := do
  let command ← read32 .message msg offCommand
  match FsCmd.ofWord command with
  | some cmd => fsSwitch env calls ta msg cmd
  | none => pure (.rejected ta msg (-fpcErrorInput))

section

variable {env : Env} {calls : FsCalls} {ta : Ta} {bio : Bio} {msg : List UInt8} {α : Type}

/-! ## The validator -/

theorem outcome_byteArrayValid (msg : List UInt8) :
    (byteArrayValid msg).outcome = Fpc.byteArrayValid msg := by
  unfold byteArrayValid Fpc.byteArrayValid
  rw [outcome_bind, outcome_read32]
  congr 1
  funext payloadSize
  dsimp only
  split
  · rfl
  · split
    · rfl
    · split
      · rfl
      · rfl

/-- Without the reads it is the validator of the module: the loop comes to an end of the string
exactly when the payload holds one. -/
theorem outcome_byteArrayStringValid (msg : List UInt8) :
    (byteArrayStringValid msg).outcome = Fpc.byteArrayStringValid msg := by
  unfold byteArrayStringValid Fpc.byteArrayStringValid
  rw [outcome_bind, outcome_byteArrayValid]
  cases hvalid : Fpc.byteArrayValid msg with
  | fault f => rfl
  | err code => rfl
  | ok valid =>
    rw [ok_bind, ok_bind]
    cases valid with
    | false => rfl
    | true =>
      have hpayload := byteArrayValid_true hvalid
      unfold sizeofByteArrayMsg at hpayload
      have hin : offArray + (field32 msg offSize).toNat ≤ msg.length := hpayload
      rw [if_neg (by decide), if_neg (by decide), outcome_bind, outcome_read32,
        load32_eq (by unfold offSize; omega), ok_bind, ok_bind, loadSpan_eq hin, ok_bind,
        outcome_findZero hin]

/-- The size field is read before the buffer is known to hold it. -/
theorem only_byteArrayStringValid_iff :
    (byteArrayStringValid msg).Only (Access.Inside (FsBuffer.size msg)) ↔
      sizeofByteArrayMsg ≤ msg.length := by
  have hsize : Access.Inside (FsBuffer.size msg) ⟨.message, offSize, 4⟩ ↔
      sizeofByteArrayMsg ≤ msg.length := Iff.rfl
  unfold byteArrayStringValid
  rw [only_bind]
  constructor
  · intro h
    have hread := h.1
    unfold byteArrayValid at hread
    exact hsize.mp (only_read32.mp (only_bind.mp hread).1)
  · intro h
    constructor
    · unfold byteArrayValid
      rw [only_bind, only_read32]
      refine ⟨hsize.mpr h, fun payloadSize _ => ?_⟩
      dsimp only
      split
      · exact only_pure _
      · split
        · exact only_pure _
        · split
          · exact only_pure _
          · exact only_pure _
    · intro valid hvalid
      rw [outcome_byteArrayValid] at hvalid
      cases valid with
      | false => exact only_pure _
      | true =>
        rw [Bool.not_true, if_neg Bool.false_ne_true, only_bind, only_read32]
        refine ⟨hsize.mpr h, fun size hload => ?_⟩
        rw [outcome_read32] at hload
        rw [load32_ok hload]
        exact only_findZero (byteArrayValid_true hvalid)

/-- The string in a payload that was found valid ends in the payload. -/
theorem payload_of_valid (h : Fpc.byteArrayStringValid msg = .ok true) :
    PayloadHolds msg (payloadSize msg) ∧ 0 ∈ slice msg offArray (payloadSize msg) := by
  obtain ⟨valid, hvalid, h⟩ := bind_eq_ok.mp h
  cases valid with
  | false => cases h
  | true =>
    have hin : offArray + (field32 msg offSize).toNat ≤ msg.length := byteArrayValid_true hvalid
    refine ⟨hin, ?_⟩
    obtain ⟨size, hsize, h⟩ := bind_eq_ok.mp h
    rw [load32_ok hsize, loadSpan_eq hin, ok_bind, Outcome.ok.injEq] at h
    exact List.contains_iff_mem.mp h

theorem valid_of_payload (hwrap : sizeofByteArrayMsg + payloadSize msg < 2 ^ 32)
    (hin : PayloadHolds msg (payloadSize msg))
    (hend : 0 ∈ slice msg offArray (payloadSize msg)) :
    Fpc.byteArrayStringValid msg = .ok true := by
  have hfixed : offSize + 4 ≤ msg.length := Nat.le_trans (Nat.le_add_right offArray _) hin
  have hspan : loadSpan msg offArray (field32 msg offSize).toNat
      = .ok (slice msg offArray (payloadSize msg)) := loadSpan_eq hin
  unfold Fpc.byteArrayStringValid
  rw [byteArrayValid_of_le hin hwrap, ok_bind, Bool.not_true, if_neg Bool.false_ne_true,
    load32_eq hfixed, ok_bind, hspan, ok_bind, List.contains_iff_mem.mpr hend]

/-! ## The path -/

/-- The payload is in front of the bytes that a string in it is looked for in. -/
theorem mem_drop_of_payload {n : Nat} (hend : 0 ∈ slice msg offArray n) :
    0 ∈ msg.drop offArray := List.mem_of_mem_take hend

theorem overlay_zero {buf bytes : List UInt8} (h : bytes.length ≤ buf.length) :
    overlay buf 0 bytes = overFront buf bytes := by
  rw [overlay, overFront, List.take_of_length_le h, List.take_zero, List.nil_append, Nat.zero_add]

/-- Where the string stands in a message that holds its end. -/
theorem stringOf_inside (hend : 0 ∈ msg.drop offArray) :
    offArray + (stringOf msg).length ≤ msg.length ∧
      slice msg offArray (stringOf msg).length = stringOf msg := by
  have hprefix : stringOf msg <+: msg.drop offArray := List.takeWhile_prefix _
  have hle := hprefix.length_le
  have hne := List.length_pos_of_mem hend
  rw [List.length_drop] at hle hne
  exact ⟨by omega, (List.prefix_iff_eq_take.mp hprefix).symm⟩

/-- `transform_path` of a path that ends in the message is the function of the path. -/
theorem outcome_transformPath (hend : 0 ∈ msg.drop offArray) :
    (transformPath msg).outcome = .ok (Fpc.transformPath (stringOf msg)) := by
  have hlength : (strlen FsBuffer.message msg offArray).outcome = .ok (stringOf msg).length :=
    outcome_strlen hend
  obtain ⟨hin, hstring⟩ := stringOf_inside hend
  unfold transformPath Fpc.transformPath
  rw [outcome_bind, hlength, ok_bind]
  split
  · rfl
  · next hfits =>
    have hbuf : (List.replicate maxPathLength (0 : UInt8)).length = maxPathLength :=
      List.length_replicate
    generalize List.replicate maxPathLength (0 : UInt8) = buf at hbuf ⊢
    have hboth : overlay (overlay buf 0 dbPathPreFix) dbPathPreFix.length (stringOf msg)
        = overFront buf (dbPathPreFix ++ stringOf msg) := by
      have happend := @overlay_overlay buf 0 dbPathPreFix (stringOf msg) (by omega)
      rw [Nat.zero_add] at happend
      rw [happend, overlay_zero]
      rw [List.length_append]
      omega
    rw [outcome_bind, outcome_quiet, storeSpan_eq (by omega), ok_bind, outcome_bind, hlength,
      ok_bind, outcome_bind, outcome_readSpan, loadSpan_eq hin, ok_bind, hstring,
      outcome_bind, outcome_quiet, storeSpan_eq ?_, ok_bind, outcome_pure, hboth]
    rw [length_overlay (by omega)]
    omega

/-- It reads the path in the message alone. -/
theorem only_transformPath (hend : 0 ∈ msg.drop offArray) :
    (transformPath msg).Only (Access.Inside (FsBuffer.size msg)) := by
  obtain ⟨hin, hstring⟩ := stringOf_inside hend
  have hsize : FsBuffer.size msg .message = msg.length := rfl
  have hstrlen : (strlen FsBuffer.message msg offArray).Only (Access.Inside (FsBuffer.size msg)) :=
    (only_strlen_iff (by omega) hsize).mpr hend
  have hlength {n : Nat} (h : (strlen FsBuffer.message msg offArray).outcome = .ok n) :
      n = (stringOf msg).length := Outcome.ok.inj (h.symm.trans (outcome_strlen hend))
  unfold transformPath
  rw [only_bind]
  refine ⟨hstrlen, fun n _ => ?_⟩
  split
  · exact only_pure _
  · rw [only_bind]
    refine ⟨only_quiet _, fun pathOut _ => ?_⟩
    rw [only_bind]
    refine ⟨hstrlen, fun n hn => ?_⟩
    rw [hlength hn, only_bind, only_readSpan]
    refine ⟨hin, fun pathIn _ => ?_⟩
    rw [only_bind]
    exact ⟨only_quiet _, fun _ _ => only_pure _⟩

/-- A path that does not fill the buffer ends in it. -/
theorem transformPath_ends {tranPath : List UInt8} (h : Fpc.transformPath (stringOf msg) = some tranPath)
    (hfills : dbPathPreFix.length + (stringOf msg).length ≠ maxPathLength) :
    tranPath.length = maxPathLength ∧
      ∃ rest, tranPath = dbPathPreFix ++ stringOf msg ++ 0 :: rest := by
  unfold Fpc.transformPath at h
  split at h
  · cases h
  · next hfits =>
    rw [← Option.some.inj h]
    refine ⟨by rw [length_overFront, List.length_replicate], ?_⟩
    have hlen : (dbPathPreFix ++ stringOf msg).length < maxPathLength := by
      rw [List.length_append]
      omega
    generalize dbPathPreFix ++ stringOf msg = path at hlen ⊢
    obtain ⟨rest, hrest⟩ := Nat.exists_eq_add_of_lt hlen
    refine ⟨List.replicate rest 0, ?_⟩
    rw [overFront, List.length_replicate, List.take_of_length_le (by omega), List.drop_replicate,
      show maxPathLength - path.length = rest + 1 by omega, List.replicate_succ]

/-- So `ut_pf_ts_open` finds its end. -/
theorem zero_mem_tranPath {tranPath : List UInt8} (h : Fpc.transformPath (stringOf msg) = some tranPath)
    (hfills : dbPathPreFix.length + (stringOf msg).length ≠ maxPathLength) :
    0 ∈ tranPath.drop 0 := by
  obtain ⟨_, rest, hrest⟩ := transformPath_ends h hfills
  rw [List.drop_zero, hrest]
  exact List.mem_append_right _ List.mem_cons_self

/-- The string of a message has no zero in it. -/
theorem not_mem_stringOf : 0 ∉ stringOf msg := by
  intro h
  have hpos := List.mem_takeWhile_imp h
  simp at hpos

/-- A function of the file layer stays inside the message and the buffer for the path. -/
theorem only_onPath (rejected opened : α) (hend : 0 ∈ msg.drop offArray)
    (hfills : dbPathPreFix.length + (stringOf msg).length ≠ maxPathLength) :
    (onPath msg rejected opened).Only (Access.Inside (FsBuffer.size msg)) := by
  unfold onPath
  rw [only_bind]
  refine ⟨only_transformPath hend, fun tranPath htran => ?_⟩
  rw [outcome_transformPath hend, Outcome.ok.injEq] at htran
  cases tranPath with
  | none => exact only_pure _
  | some tranPath =>
    have hzero := zero_mem_tranPath htran hfills
    have hsize : FsBuffer.size msg .tranPath = tranPath.length :=
      (transformPath_ends htran hfills).1.symm
    dsimp only
    rw [only_bind]
    exact ⟨(only_strlen_iff (Nat.zero_le _) hsize).mpr hzero, fun _ _ => only_pure _⟩

/-- What it returns, where the path ends in its buffer. -/
theorem outcome_onPath (rejected opened : α) (hend : 0 ∈ msg.drop offArray)
    (hfills : dbPathPreFix.length + (stringOf msg).length ≠ maxPathLength) :
    (onPath msg rejected opened).outcome
      = .ok (if Fpc.transformPath (stringOf msg) = none then rejected else opened) := by
  unfold onPath
  rw [outcome_bind, outcome_transformPath hend, ok_bind]
  cases htran : Fpc.transformPath (stringOf msg) with
  | none => rfl
  | some tranPath =>
    have hzero := zero_mem_tranPath htran hfills
    dsimp only
    rw [outcome_bind, outcome_strlen hzero, ok_bind, if_neg (Option.some_ne_none _)]
    rfl

/-! ## The handler -/

/-- The file is loaded without a read outside. -/
theorem only_fpcTaLoadDbFromFile (hend : 0 ∈ msg.drop offArray)
    (hfills : dbPathPreFix.length + (stringOf msg).length ≠ maxPathLength) :
    (fpcTaLoadDbFromFile env calls msg).Only (Access.Inside (FsBuffer.size msg)) := by
  unfold fpcTaLoadDbFromFile
  rw [only_bind]
  refine ⟨only_onPath _ _ hend hfills, fun size _ => ?_⟩
  dsimp only
  split
  · exact only_pure _
  · split
    · exact only_pure _
    · split
      · exact only_pure _
      · rw [only_bind]
        refine ⟨only_onPath _ _ hend hfills, fun moved _ => ?_⟩
        split
        · exact only_pure _
        · split
          · exact only_pure _
          · split
            · exact only_quiet _
            · exact only_pure _
            · exact only_pure _

theorem only_fpcTaStoreDbToFile (hend : 0 ∈ msg.drop offArray)
    (hfills : dbPathPreFix.length + (stringOf msg).length ≠ maxPathLength) :
    (fpcTaStoreDbToFile env calls bio msg).Only (Access.Inside (FsBuffer.size msg)) := by
  unfold fpcTaStoreDbToFile
  split
  · exact only_quiet _
  · exact only_pure _
  · split
    · exact only_pure _
    · split
      · exact only_pure _
      · split
        · exact only_quiet _
        · exact only_pure _
        · rw [only_bind]
          refine ⟨only_onPath _ _ hend hfills, fun status _ => ?_⟩
          split
          · exact only_pure _
          · exact only_pure _

/-- Behind the validator only the handling of a valid message is left to look at. -/
theorem only_validated {rejected : Handled} {rest : Reading Handled}
    (hfixed : sizeofByteArrayMsg ≤ msg.length)
    (hrest : Fpc.byteArrayStringValid msg = .ok true →
      rest.Only (Access.Inside (FsBuffer.size msg))) :
    (byteArrayStringValid msg >>= fun valid => if !valid then pure rejected else rest).Only
      (Access.Inside (FsBuffer.size msg)) := by
  rw [only_bind]
  refine ⟨only_byteArrayStringValid_iff.mpr hfixed, fun valid hvalid => ?_⟩
  rw [outcome_byteArrayStringValid] at hvalid
  cases valid with
  | false => exact only_pure _
  | true =>
    rw [Bool.not_true, if_neg Bool.false_ne_true]
    exact hrest hvalid

/-- The two cases of the switch: the validator, and behind it a function of the file. -/
theorem only_fsSwitch {cmd : FsCmd} (hfixed : sizeofByteArrayMsg ≤ msg.length)
    (hfills : Fpc.byteArrayStringValid msg = .ok true →
      dbPathPreFix.length + (stringOf msg).length ≠ maxPathLength) :
    (fsSwitch env calls ta msg cmd).Only (Access.Inside (FsBuffer.size msg)) := by
  cases cmd with
  | loadDb =>
    refine only_validated hfixed fun hvalid => ?_
    have hend := mem_drop_of_payload (payload_of_valid hvalid).2
    rw [only_bind]
    refine ⟨only_fpcTaLoadDbFromFile hend (hfills hvalid), fun loaded _ => ?_⟩
    rw [only_bind]
    exact ⟨only_quiet _, fun _ _ => only_pure _⟩
  | storeDb =>
    refine only_validated hfixed fun hvalid => ?_
    have hend := mem_drop_of_payload (payload_of_valid hvalid).2
    rw [only_bind]
    refine ⟨only_fpcTaStoreDbToFile hend (hfills hvalid), fun stored _ => ?_⟩
    rw [only_bind]
    exact ⟨only_quiet _, fun _ _ => only_pure _⟩

/-! ## Forgetting the reads -/

/-- What a function of the file layer gives for the path of a message. -/
def pathResult {α : Type} (msg : List UInt8) (rejected opened : α) : α :=
  if Fpc.transformPath (stringOf msg) = none then rejected else opened

/-- What the file system answers to the module, where the path ends in its buffer. -/
def FsCalls.answers (calls : FsCalls) (env : Env) (ta : Ta) (msg : List UInt8) : FsEnv :=
  let getFilesize := pathResult msg (fsError fpcErrorInput, 0) (filesizeResult calls.getFilesize)
  { getFilesize := getFilesize
    read := pathResult msg (fsError fpcErrorInput, [])
      (movedStatus calls.read getFilesize.2, calls.read.bytes)
    write := match getDataSize ta.bio.userDb with
      | .ok sizeDb =>
          pathResult msg (fsError fpcErrorInput) (movedStatus calls.write (UInt32.ofNat sizeDb))
      | _ => 0
    malloc := env.fs.malloc }

variable (env calls) in
/-- What is answered to a function of the file layer is what it returns. -/
theorem outcome_fpcTaLoadDbFromFile (ta : Ta) (hend : 0 ∈ msg.drop offArray)
    (hfills : dbPathPreFix.length + (stringOf msg).length ≠ maxPathLength) :
    (fpcTaLoadDbFromFile env calls msg).outcome
      = Fpc.fpcTaLoadDbFromFile { env with fs := calls.answers env ta msg } := by
  have hsize : (fpcFsGetFilesize msg calls.getFilesize).outcome
      = .ok (calls.answers env ta msg).getFilesize := outcome_onPath _ _ hend hfills
  have hread : (fpcFsRead msg (calls.answers env ta msg).getFilesize.2 calls.read).outcome
      = .ok (calls.answers env ta msg).read := outcome_onPath _ _ hend hfills
  have hmalloc : (calls.answers env ta msg).malloc = env.fs.malloc := rfl
  unfold fpcTaLoadDbFromFile Fpc.fpcTaLoadDbFromFile
  rw [outcome_bind, hsize, ok_bind]
  dsimp only
  rw [hmalloc]
  split
  · rfl
  · split
    · rfl
    · split
      · rfl
      · rw [outcome_bind, hread, ok_bind]
        split
        · rfl
        · split
          · rfl
          · split
            · next hdb => rw [hdb]; rfl
            · next hdb => rw [hdb]; rfl
            · next hdb => rw [hdb]; rfl

variable (env calls) in
theorem outcome_fpcTaStoreDbToFile (ta : Ta) (hend : 0 ∈ msg.drop offArray)
    (hfills : dbPathPreFix.length + (stringOf msg).length ≠ maxPathLength) :
    (fpcTaStoreDbToFile env calls ta.bio msg).outcome
      = Fpc.fpcTaStoreDbToFile { env with fs := calls.answers env ta msg } ta.bio := by
  unfold fpcTaStoreDbToFile Fpc.fpcTaStoreDbToFile
  cases hsize : getDataSize ta.bio.userDb with
  | fault f => rfl
  | err code => rfl
  | ok sizeDb =>
    have hwrite : (fpcFsWrite msg (UInt32.ofNat sizeDb) calls.write).outcome
        = .ok (calls.answers env ta msg).write := by
      unfold FsCalls.answers
      rw [hsize]
      exact outcome_onPath _ _ hend hfills
    have hmalloc : (calls.answers env ta msg).malloc = env.fs.malloc := rfl
    dsimp only
    rw [hmalloc]
    split
    · rfl
    · split
      · rfl
      · cases getData ta.bio.userDb (List.replicate sizeDb 0) sizeDb with
        | fault f => rfl
        | err code => rfl
        | ok data =>
          dsimp only
          rw [outcome_bind, hwrite, ok_bind]
          split
          · rfl
          · rfl

/-- The same of the outcome: an invalid message is rejected here and in the module. -/
theorem outcome_validated {rejected : Handled} {rest : Reading Handled} {handled : Outcome Handled}
    (hrest : Fpc.byteArrayStringValid msg = .ok true → rest.outcome = handled) :
    (byteArrayStringValid msg >>= fun valid => if !valid then pure rejected else rest).outcome
      = Fpc.byteArrayStringValid msg >>= fun valid =>
          if !valid then .ok rejected else handled := by
  rw [outcome_bind, outcome_byteArrayStringValid]
  cases hvalid : Fpc.byteArrayStringValid msg with
  | fault f => rfl
  | err code => rfl
  | ok valid =>
    cases valid with
    | false => rfl
    | true =>
      rw [ok_bind, ok_bind, Bool.not_true, if_neg Bool.false_ne_true, if_neg Bool.false_ne_true]
      exact hrest hvalid

/-- Without the reads it is the handler of the module. -/
theorem outcome_fpcTaFsHandler (hfills : Fpc.byteArrayStringValid msg = .ok true →
      dbPathPreFix.length + (stringOf msg).length ≠ maxPathLength) :
    (fpcTaFsHandler env calls ta msg).outcome
      = Fpc.fpcTaFsHandler { env with fs := calls.answers env ta msg } ta msg := by
  unfold fpcTaFsHandler Fpc.fpcTaFsHandler
  rw [outcome_bind, outcome_read32]
  congr 1
  funext command
  cases FsCmd.ofWord command with
  | none => rfl
  | some cmd =>
    cases cmd with
    | loadDb =>
      refine outcome_validated fun hvalid => ?_
      have hend := mem_drop_of_payload (payload_of_valid hvalid).2
      rw [outcome_bind, outcome_fpcTaLoadDbFromFile env calls ta hend (hfills hvalid)]
      congr 1
      funext loaded
      simp
    | storeDb =>
      refine outcome_validated fun hvalid => ?_
      have hend := mem_drop_of_payload (payload_of_valid hvalid).2
      rw [outcome_bind, outcome_fpcTaStoreDbToFile env calls ta hend (hfills hvalid)]
      congr 1
      funext response
      simp

/-- The payload begins with a path that fills `tran_path` behind the prefix, and its end. -/
structure PathFills (msg : List UInt8) : Prop where
  noWrap : sizeofByteArrayMsg + payloadSize msg < 2 ^ 32
  holds : PayloadHolds msg (payloadSize msg)
  path : ∃ path rest, slice msg offArray (payloadSize msg) = path ++ 0 :: rest ∧ 0 ∉ path ∧
    dbPathPreFix.length + path.length = maxPathLength

theorem stringOf_of_payload {path rest : List UInt8} {n : Nat}
    (h : slice msg offArray n = path ++ 0 :: rest) (hpath : 0 ∉ path) : stringOf msg = path := by
  have hdrop : msg.drop offArray = path ++ 0 :: (rest ++ (msg.drop offArray).drop n) := by
    rw [← List.cons_append, ← List.append_assoc, ← h, slice, List.take_append_drop]
  have hall : ∀ c ∈ path, decide (c ≠ 0) = true := by
    intro c hc
    refine decide_eq_true fun hzero => ?_
    rw [hzero] at hc
    exact hpath hc
  rw [stringOf, hdrop, List.takeWhile_append_of_pos hall, List.takeWhile_cons_of_neg (by simp),
    List.append_nil]

/-- Of the paths that are found valid these are the ones that are as long as the buffer. -/
theorem pathFills_iff (h : Fpc.byteArrayStringValid msg = .ok true) :
    PathFills msg ↔ dbPathPreFix.length + (stringOf msg).length = maxPathLength := by
  constructor
  · intro hfills
    obtain ⟨path, rest, hpayload, hpath, hlength⟩ := hfills.path
    rw [stringOf_of_payload hpayload hpath, hlength]
  · intro hlength
    obtain ⟨hin, hend⟩ := payload_of_valid h
    obtain ⟨path, rest, hpayload, hpath⟩ := List.eq_append_cons_of_mem hend
    rw [stringOf_of_payload hpayload hpath] at hlength
    obtain ⟨valid, hvalid, h⟩ := bind_eq_ok.mp h
    cases valid with
    | false => cases h
    | true => exact ⟨byteArrayValid_noWrap hvalid, hin, path, rest, hpayload, hpath, hlength⟩

/-- Such a path is found valid. -/
theorem PathFills.valid (h : PathFills msg) : Fpc.byteArrayStringValid msg = .ok true := by
  obtain ⟨path, rest, hpayload, hpath, hlength⟩ := h.path
  apply valid_of_payload h.noWrap h.holds
  rw [hpayload]
  exact List.mem_append_right _ List.mem_cons_self

/-- What handling a message is safe for: in every state and whatever the calls return, no read is
outside the message or `tran_path`, and of a path that is accepted `transform_path` makes the string
that the file layer reads, or nothing. -/
structure Safe (msg : List UInt8) : Prop where
  inside : ∀ env calls ta,
    (fpcTaFsHandler env calls ta msg).Only (Access.Inside (FsBuffer.size msg))
  string : ∀ cmd, fsCmd msg = some cmd → (byteArrayStringValid msg).outcome = .ok true →
    ∃ result, (transformPath msg).outcome = .ok result ∧ ∀ tranPath, result = some tranPath →
      tranPath.length = maxPathLength ∧ ∃ rest, tranPath = dbPathPreFix ++ stringOf msg ++ 0 :: rest

/-- The header of the message is in it, and of a message with a command of the module the fixed part
too; and the path does not fill `tran_path`. -/
structure Fits (msg : List UInt8) : Prop where
  header : sizeofHeader ≤ msg.length
  fixed : ∀ cmd, fsCmd msg = some cmd → sizeofByteArrayMsg ≤ msg.length
  path : ∀ cmd, fsCmd msg = some cmd → ¬ PathFills msg

/-- The header is read whatever is in it. -/
theorem header_of_inside
    (h : (fpcTaFsHandler env calls ta msg).Only (Access.Inside (FsBuffer.size msg))) :
    sizeofHeader ≤ msg.length := by
  unfold fpcTaFsHandler at h
  have hcommand := only_read32.mp (only_bind.mp h).1
  exact hcommand

/-- Behind the header the handler is its switch. -/
theorem only_fpcTaFsHandler_iff (hheader : sizeofHeader ≤ msg.length) :
    (fpcTaFsHandler env calls ta msg).Only (Access.Inside (FsBuffer.size msg)) ↔
      ∀ cmd, fsCmd msg = some cmd →
        (fsSwitch env calls ta msg cmd).Only (Access.Inside (FsBuffer.size msg)) := by
  have hcommand : offCommand + 4 ≤ msg.length := hheader
  have hinside : Access.Inside (FsBuffer.size msg) ⟨.message, offCommand, 4⟩ := hheader
  have hcmd : fsCmd msg = FsCmd.ofWord (field32 msg offCommand) :=
    if_neg (Nat.not_lt.mpr hheader)
  unfold fpcTaFsHandler
  rw [only_bind, only_read32, and_iff_right hinside, hcmd]
  constructor
  · intro h cmd hword
    have hswitch := h _ (outcome_read32.trans (load32_eq hcommand))
    rw [hword] at hswitch
    exact hswitch
  · intro h command hload
    rw [outcome_read32, load32_eq hcommand, Outcome.ok.injEq] at hload
    subst hload
    split
    · next cmd hword => exact h cmd hword
    · exact only_pure _

/-- The switch begins with the validator. -/
theorem fixed_of_inside {cmd : FsCmd}
    (h : (fsSwitch env calls ta msg cmd).Only (Access.Inside (FsBuffer.size msg))) :
    sizeofByteArrayMsg ≤ msg.length := by
  cases cmd with
  | loadDb =>
    unfold fsSwitch at h
    exact only_byteArrayStringValid_iff.mp (only_bind.mp h).1
  | storeDb =>
    unfold fsSwitch at h
    exact only_byteArrayStringValid_iff.mp (only_bind.mp h).1

/-- A path that fills the buffer is accepted and has no end in it. -/
theorem PathFills.unterminated (h : PathFills msg) {tranPath : List UInt8}
    (htran : Fpc.transformPath (stringOf msg) = some tranPath) : 0 ∉ tranPath := by
  have hlength := (pathFills_iff h.valid).mp h
  intro hzero
  have hshort := transformPath_full not_mem_stringOf htran (List.contains_iff_mem.mpr hzero)
  omega

theorem Safe.header (h : Safe msg) : sizeofHeader ≤ msg.length :=
  header_of_inside (h.inside .willing .missing enrolledTa)

theorem Safe.fixed (h : Safe msg) {cmd : FsCmd} (hcmd : fsCmd msg = some cmd) :
    sizeofByteArrayMsg ≤ msg.length :=
  fixed_of_inside
    ((only_fpcTaFsHandler_iff h.header).mp (h.inside .willing .missing enrolledTa) cmd hcmd)

/-- Of a path that fills the buffer no string is made. -/
theorem Safe.not_pathFills (h : Safe msg) {cmd : FsCmd} (hcmd : fsCmd msg = some cmd) :
    ¬ PathFills msg := by
  intro hfills
  have hend := mem_drop_of_payload (payload_of_valid hfills.valid).2
  have hlength := (pathFills_iff hfills.valid).mp hfills
  obtain ⟨result, hresult, hstring⟩ :=
    h.string cmd hcmd ((outcome_byteArrayStringValid msg).trans hfills.valid)
  rw [outcome_transformPath hend, Outcome.ok.injEq] at hresult
  cases result with
  | none =>
    unfold Fpc.transformPath at hresult
    rw [if_neg (by omega)] at hresult
    cases hresult
  | some tranPath =>
    obtain ⟨_, rest, hrest⟩ := hstring tranPath rfl
    apply hfills.unterminated hresult
    rw [hrest]
    exact List.mem_append_right _ List.mem_cons_self

/-- **The handling of a message is safe exactly when the message holds what is read of it and its
path does not fill the buffer that it is put into.** -/
theorem safe_iff (msg : List UInt8) : Safe msg ↔ Fits msg := by
  constructor
  · intro h
    exact ⟨h.header, fun cmd hcmd => h.fixed hcmd, fun cmd hcmd => h.not_pathFills hcmd⟩
  · intro h
    have hshort {cmd : FsCmd} (hcmd : fsCmd msg = some cmd)
        (hvalid : Fpc.byteArrayStringValid msg = .ok true) :
        dbPathPreFix.length + (stringOf msg).length ≠ maxPathLength :=
      fun hlength => h.path cmd hcmd ((pathFills_iff hvalid).mpr hlength)
    constructor
    · intro env calls ta
      refine (only_fpcTaFsHandler_iff h.header).mpr fun cmd hcmd => ?_
      exact only_fsSwitch (h.fixed cmd hcmd) (hshort hcmd)
    · intro cmd hcmd hvalid
      rw [outcome_byteArrayStringValid] at hvalid
      refine ⟨_, outcome_transformPath (mem_drop_of_payload (payload_of_valid hvalid).2), ?_⟩
      exact fun tranPath htran => transformPath_ends htran (hshort hcmd hvalid)

end

/-- A message to load a database that ends in front of its size field. -/
def shortMessage : List UInt8 := [2, 0, 0, 0, 11, 0, 0, 0, 0, 0, 0, 0]

/-- A message to load a database from a path of 119 bytes. -/
def fillingMessage : List UInt8 :=
  [2, 0, 0, 0, 11, 0, 0, 0, 0, 0, 0, 0, 120, 0, 0, 0] ++ (List.replicate 119 0x61 ++ [0])

set_option maxRecDepth 2000 in
/-- **The size field of a message is read behind its end, and a path is handed on without its
end.** -/
theorem paths_broken : ¬ Safe shortMessage ∧ ¬ Safe fillingMessage := by
  constructor
  · intro h
    exact absurd (h.fixed (by decide : fsCmd shortMessage = some .loadDb)) (by decide)
  · intro h
    apply h.not_pathFills (by decide : fsCmd fillingMessage = some .loadDb)
    exact ⟨by decide, by decide, List.replicate 119 0x61, [], by decide, by decide, by decide⟩

end Fpc.FsReads
