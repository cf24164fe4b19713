import Fingerprints.Db.Unpack
import Fingerprints.Wire.Message

/-!
# The errors of the decoder

Whatever the decoder fails with is a negative `int`, as `fpcDbCreate_errors` says: the reads of
bytes have no errors of their own, and every check returns one of the codes.
-/

namespace Fpc

open Wire Wire.Outcome

/-! ## Reads -/

section

variable {p : Int → Prop} {buf : List UInt8} {size c : Nat}

theorem load_errors (i : Nat) : (load buf i).Errors p := by
  unfold load
  split
  · exact errors_ok _
  · exact errors_fault _

theorem store_errors (i : Nat) (b : UInt8) : (store buf i b).Errors p := by
  unfold store
  split
  · exact errors_ok _
  · exact errors_fault _

theorem loadN_errors (n : Nat) : (loadN buf n c).Errors p := by
  induction n generalizing c with
  | zero => exact errors_ok _
  | succ n ih =>
    apply Errors.bind (load_errors c)
    intro b
    apply Errors.bind ih
    intro rest
    exact errors_ok _

theorem copyN_errors {i : Nat} {dst : List UInt8} (n : Nat) : (copyN buf n i c dst).Errors p := by
  induction n generalizing i c dst with
  | zero => exact errors_ok _
  | succ n ih =>
    apply Errors.bind (load_errors c)
    intro b
    apply Errors.bind (store_errors i b)
    intro dst
    exact ih

theorem unpackField_errors {α : Type} {decode : List UInt8 → α} {n : Nat} {data : α} :
    (unpackField decode n data buf c size).Errors p := by
  apply Errors.bind
  · unfold readField
    split
    · exact errors_ok _
    · apply Errors.bind (loadN_errors n)
      intro bs
      exact errors_ok _
  · intro field
    exact errors_ok _

theorem unpackUint8_errors {data : UInt8} : (unpackUint8 data buf c size).Errors p := by
  unfold unpackUint8
  split
  · exact errors_ok _
  · apply Errors.bind (load_errors c)
    intro byte
    exact errors_ok _

theorem unpackUint8Array_errors {data : List UInt8} {n : Nat} :
    (unpackUint8Array data n buf c size).Errors p := by
  apply Errors.bind
  · unfold copyField
    split
    · exact errors_ok _
    · apply Errors.bind (copyN_errors n)
      intro dst
      exact errors_ok _
  · intro field
    exact errors_ok _

end

/-! ## Records -/

variable {env : DbEnv} {ver : UInt8} {b : List UInt8} {size c : Nat}

theorem memCalloc_errors (site : AllocSite) : (env.memCalloc site).Errors IsError := by
  unfold DbEnv.memCalloc
  split
  · exact errors_ok _
  · exact errors_err (by decide)

theorem unpackVerifyUint32_errors (x : UInt32) : (unpackVerifyUint32 x b c size).Errors IsError := by
  apply Errors.bind unpackField_errors
  intro actual
  split
  · exact errors_err (by decide)
  · split
    · exact errors_err (by decide)
    · exact errors_ok _

theorem unpackVerifyUint8_errors (x : UInt8) : (unpackVerifyUint8 x b c size).Errors IsError := by
  apply Errors.bind unpackUint8_errors
  intro actual
  split
  · exact errors_err (by decide)
  · split
    · exact errors_err (by decide)
    · exact errors_ok _

theorem unpackDatabaseId_errors (db : FingerprintDatabase) :
    (unpackDatabaseId env ver db b c size).Errors IsError := by
  unfold unpackDatabaseId
  split
  · apply Errors.bind unpackField_errors
    intro databaseId
    exact errors_ok _
  · unfold dbUpdateDatabaseId
    dsimp only
    split
    · split
      · exact errors_err (by decide : IsError (-fpcErrorIo))
      · exact errors_ok _
    · exact errors_ok _

theorem unpackStateId_errors (set : FingerprintSet) (db : FingerprintDatabase) :
    (unpackStateId env ver set db b c size).Errors IsError := by
  unfold unpackStateId
  split
  · apply Errors.bind unpackUint8Array_errors
    intro stateId
    exact errors_ok _
  · unfold dbUpdateFingerprintStateId
    dsimp only
    split
    · split
      · exact errors_err (by decide : IsError (-fpcErrorIo))
      · exact errors_ok _
    · exact errors_ok _

theorem unpackUserId_errors (userId : UInt64) : (unpackUserId ver userId b c size).Errors IsError := by
  unfold unpackUserId
  split
  · apply Errors.bind unpackField_errors
    intro data
    exact errors_ok _
  · exact errors_ok _

theorem unpackFinger_errors (j : Nat) : (unpackFinger env ver b size j c).Errors IsError := by
  apply Errors.bind unpackField_errors
  intro valid
  split
  · apply Errors.bind unpackUint8Array_errors
    intro fid
    apply Errors.bind (unpackUserId_errors _)
    intro user
    apply Errors.bind unpackField_errors
    intro fsize
    split
    · exact errors_err (by decide)
    · apply Errors.bind (memCalloc_errors _)
      intro fmem
      apply Errors.bind unpackUint8Array_errors
      intro tpl
      exact errors_ok _
  · split
    · exact errors_ok _
    · exact errors_err (by decide)

theorem unpackFingers_errors (n j : Nat) : (unpackFingers env ver b size n j c).Errors IsError := by
  induction n generalizing j c with
  | zero => exact errors_ok _
  | succ n ih =>
    apply Errors.bind (unpackFinger_errors j)
    intro finger
    apply Errors.bind (ih (j + 1))
    intro rest
    exact errors_ok _

theorem unpackSet_errors (db : FingerprintDatabase) :
    (unpackSet env ver db b c size).Errors IsError := by
  apply Errors.bind (memCalloc_errors _)
  intro addr
  apply Errors.bind unpackField_errors
  intro key
  apply Errors.bind (unpackVerifyUint32_errors _)
  intro c
  apply Errors.bind unpackUint8Array_errors
  intro setId
  apply Errors.bind (unpackStateId_errors _ _)
  intro state
  apply Errors.bind (unpackFingers_errors _ _)
  intro fingers
  apply Errors.bind (unpackVerifyUint32_errors _)
  intro c
  exact errors_ok _

theorem dbUnpackV2V3V4_errors : (dbUnpackV2V3V4 env b size ver).Errors IsError := by
  apply Errors.bind (memCalloc_errors _)
  intro addr
  apply Errors.bind (unpackVerifyUint32_errors _)
  intro c
  apply Errors.bind (unpackVerifyUint8_errors _)
  intro c
  apply Errors.bind (unpackDatabaseId_errors _)
  intro db
  apply Errors.bind unpackField_errors
  intro setCount
  apply Errors.bind (unpackVerifyUint32_errors _)
  intro c
  split
  · exact errors_err (by decide)
  · split
    · apply Errors.bind (unpackVerifyUint32_errors _)
      intro c
      exact errors_ok _
    · apply Errors.bind (unpackSet_errors _)
      intro set
      exact errors_ok _

/-- `fpc_db_create` returns 0 or an error. -/
theorem fpcDbCreate_errors (pDbData : Option (List UInt8)) :
    (fpcDbCreate env pDbData size).Errors IsError := by
  unfold fpcDbCreate
  split
  · split
    · exact errors_err (by decide)
    · apply Errors.bind (memCalloc_errors _)
      intro addr
      exact errors_ok _
  · apply Errors.bind (unpackVerifyUint32_errors _)
    intro c
    apply Errors.bind unpackUint8_errors
    intro dbVersion
    split
    · exact errors_err (by decide)
    · split
      · exact errors_err (by decide)
      · split
        · exact dbUnpackV2V3V4_errors
        · exact errors_err (by decide)

end Fpc
