import Fingerprints.Db.Basic
import Fingerprints.Wire.Cursor

/-!
# Decoding a database

The unpacker of `fpc_db.c` for the format versions 2, 3 and 4. A marker that is missing or wrong
ends it with an error; every other field may fail unnoticed, and then keeps the value it had and
leaves the read counter where it was. What the code gets from the platform, memory and random
numbers, is looked up in a `DbEnv` under the place of the code that asks for it.
-/

namespace Fpc

open Wire Wire.Outcome

/-! ## The platform -/

/-- The places of `fpc_db.c` that allocate. -/
inductive AllocSite where
  | database
  | fingerprintSet
  | template (slot : Nat)
  deriving DecidableEq, Repr

/-- The places of `fpc_db.c` that draw random numbers. -/
inductive RandomSite where
  | databaseId
  | stateId
  | setId
  | fingerprintId
  deriving DecidableEq, Repr

/-- What one call gets from `malloc` and `fpc_secure_random`: an address or null, and a status
with what the buffer holds afterwards. -/
structure DbEnv where
  malloc : AllocSite → Option Addr
  random64 : RandomSite → Int × UInt64
  random256 : RandomSite → Int × Id256

/-- Allocation succeeds. -/
def DbEnv.AllocOk (env : DbEnv) : Prop := ∀ site, (env.malloc site).isSome

/-- Random draws succeed. -/
def DbEnv.RandomOk (env : DbEnv) : Prop :=
  ∀ site, (env.random64 site).1 = 0 ∧ (env.random256 site).1 = 0

/-- A platform on which everything succeeds: one address for each place that allocates. -/
def DbEnv.willing : DbEnv where
  malloc
    | .database => some 0x1000
    | .fingerprintSet => some 0x2000
    | .template slot => some (0x10000 * (slot + 1))
  random64 _ := (0, 0x0123456789ABCDEF)
  random256 _ := (0, Id256.filled 0x5A)

theorem DbEnv.willing_allocOk : DbEnv.willing.AllocOk := by
  intro site
  cases site <;> rfl

theorem DbEnv.willing_randomOk : DbEnv.willing.RandomOk := fun _ => ⟨rfl, rfl⟩

/-- `fpc_mem_calloc`, with the error its callers return for a null pointer. -/
def DbEnv.memCalloc (env : DbEnv) (site : AllocSite) : Outcome Addr :=
  match env.malloc site with
  | some addr => .ok addr
  | none => .err (-fpcErrorAlloc)

/-- `db_update_database_id` -/
def dbUpdateDatabaseId (env : DbEnv) (db : FingerprintDatabase) : Int × FingerprintDatabase :=
  let (status, dbId) := env.random64 .databaseId
  if status < 0 then (-fpcErrorIo, db) else (0, { db with databaseId := dbId })

/-- `db_update_fingerprint_state_id` -/
def dbUpdateFingerprintStateId (env : DbEnv) (db : FingerprintDatabase) :
    Int × FingerprintDatabase :=
  match db.pFingerprintSet with
  | none => (-fpcErrorInput, db)
  | some set =>
      let (status, stateId) := env.random256 .stateId
      let db := { db with pFingerprintSet := some { set with fingerprintStateId := stateId } }
      if status ≠ 0 then (-fpcErrorIo, db) else (0, db)

/-! ## Fields -/

/-- What an `unpack_…` call leaves: its status, the variable it was to set, the counter. -/
structure Unpacked (α : Type) where
  status : Int
  data : α
  readcounter : Nat
  deriving DecidableEq, Repr

/-- A field that is there sets the variable; one that is not leaves it. -/
def Unpacked.ofField {α : Type} (decode : List UInt8 → α) (data : α)
    (field : Option (List UInt8) × Nat) : Unpacked α :=
  match field.1 with
  | some bytes => { status := 0, data := decode bytes, readcounter := field.2 }
  | none => { status := -fpcErrorDb, data := data, readcounter := field.2 }

@[simp] theorem Unpacked.ofField_some {α : Type} (decode : List UInt8 → α) (data : α)
    (bytes : List UInt8) (c : Nat) :
    Unpacked.ofField decode data (some bytes, c)
      = { status := 0, data := decode bytes, readcounter := c } := rfl

@[simp] theorem Unpacked.ofField_none {α : Type} (decode : List UInt8 → α) (data : α) (c : Nat) :
    Unpacked.ofField decode data (none, c)
      = { status := -fpcErrorDb, data := data, readcounter := c } := rfl

/-- The shape of the `unpack_…` functions that are guarded by a sum. -/
def unpackField {α : Type} (decode : List UInt8 → α) (n : Nat) (data : α)
    (packedDb : List UInt8) (readcounter size : Nat) : Outcome (Unpacked α) := do
  let field ← readField packedDb size n readcounter
  .ok (Unpacked.ofField decode data field)

/-- `unpack_uint8`, whose guard looks at the counter alone. -/
def unpackUint8 (data : UInt8) (packedDb : List UInt8) (readcounter size : Nat) :
    Outcome (Unpacked UInt8) :=
  if readcounter ≥ size then
    .ok { status := -fpcErrorDb, data := data, readcounter := readcounter }
  else do
    let byte ← load packedDb readcounter
    .ok { status := 0, data := byte, readcounter := wrap32 (readcounter + 1) }

/-- `unpack_uint8_array`, into a block of memory. -/
def unpackUint8Array (data : List UInt8) (datalength : Nat) (packedDb : List UInt8)
    (readcounter size : Nat) : Outcome (Unpacked (List UInt8)) := do
  let field ← copyField data packedDb size datalength readcounter
  .ok (Unpacked.ofField id data field)

def unpackUint32 : UInt32 → List UInt8 → Nat → Nat → Outcome (Unpacked UInt32) :=
  unpackField ofBe32 4

def unpackUint64 : UInt64 → List UInt8 → Nat → Nat → Outcome (Unpacked UInt64) :=
  unpackField ofBe64 8

/-- `unpack_verify_uint8`: the counter after the byte. -/
def unpackVerifyUint8 (expected : UInt8) (packedDb : List UInt8) (readcounter size : Nat) :
    Outcome Nat := do
  let actual ← unpackUint8 0 packedDb readcounter size
  if actual.status ≠ 0 then .err (-fpcErrorDb)
  else if expected ≠ actual.data then .err (-fpcErrorDb)
  else .ok actual.readcounter

/-- `unpack_verify_uint32`: the counter after the word. -/
def unpackVerifyUint32 (expected : UInt32) (packedDb : List UInt8) (readcounter size : Nat) :
    Outcome Nat := do
  let actual ← unpackUint32 0 packedDb readcounter size
  if actual.status ≠ 0 then .err (-fpcErrorDb)
  else if expected ≠ actual.data then .err (-fpcErrorDb)
  else .ok actual.readcounter

/-! ## Records -/

/-- The database id: read from version 3 on, drawn before. -/
def unpackDatabaseId (env : DbEnv) (dbVersion : UInt8) (db : FingerprintDatabase)
    (packedDb : List UInt8) (readcounter size : Nat) : Outcome (FingerprintDatabase × Nat) :=
  if dbVersion ≥ fpcDbVersion3 then do
    let databaseId ← unpackUint64 db.databaseId packedDb readcounter size
    .ok ({ db with databaseId := databaseId.data }, databaseId.readcounter)
  else
    let (status, db) := dbUpdateDatabaseId env db
    if status ≠ 0 then .err status else .ok (db, readcounter)

/-- The state id: read from version 4 on, drawn before. -/
def unpackStateId (env : DbEnv) (dbVersion : UInt8) (set : FingerprintSet)
    (db : FingerprintDatabase) (packedDb : List UInt8) (readcounter size : Nat) :
    Outcome (FingerprintSet × Nat) :=
  if dbVersion ≥ fpcDbVersion4 then do
    let stateId ← unpackUint8Array set.fingerprintStateId.toList 32 packedDb readcounter size
    .ok ({ set with fingerprintStateId := toId256 stateId.data }, stateId.readcounter)
  else
    let (status, db) := dbUpdateFingerprintStateId env { db with pFingerprintSet := some set }
    if status ≠ 0 then .err status else .ok (db.pFingerprintSet.getD set, readcounter)

/-- The user id of a finger: read from version 3 on, 0 before. -/
def unpackUserId (dbVersion : UInt8) (secureUserId : UInt64) (packedDb : List UInt8)
    (readcounter size : Nat) : Outcome (UInt64 × Nat) :=
  if dbVersion ≥ fpcDbVersion3 then do
    let userId ← unpackUint64 secureUserId packedDb readcounter size
    .ok (userId.data, userId.readcounter)
  else .ok (0, readcounter)

/-- One turn of the loop over the slots. -/
def unpackFinger (env : DbEnv) (dbVersion : UInt8) (packedDb : List UInt8) (size : Nat)
    (j readcounter : Nat) : Outcome (Fingerprint × Nat) := do
  let finger := Fingerprint.zeroed
  let valid ← unpackUint32 0 packedDb readcounter size
  if valid.data = fpcDbEntryValid then
    let fid ← unpackUint8Array finger.fingerprintId.toList 32 packedDb valid.readcounter size
    let (userId, readcounter) ←
      unpackUserId dbVersion finger.secureUserId packedDb fid.readcounter size
    let fsize ← unpackUint32 0 packedDb readcounter size
    if fsize.status ≠ 0 then .err (-fpcErrorDb)
    else
      let fmem ← env.memCalloc (.template j)
      let tpl ← unpackUint8Array (List.replicate fsize.data.toNat 0) fsize.data.toNat packedDb
        fsize.readcounter size
      .ok ({ valid := valid.data, fingerprintId := toId256 fid.data, secureUserId := userId,
             ftemplate := some (Template.ofList fmem fsize.data tpl.data) }, tpl.readcounter)
  else if valid.data = fpcDbEntryInvalid then
    .ok ({ finger with valid := valid.data }, valid.readcounter)
  else .err (-fpcErrorDb)

/-- `n` turns of the loop, from slot `j` on. -/
def unpackFingers (env : DbEnv) (dbVersion : UInt8) (packedDb : List UInt8) (size : Nat) :
    (n j readcounter : Nat) → Outcome (List Fingerprint × Nat)
  | 0, _, readcounter => .ok ([], readcounter)
  | n + 1, j, readcounter => do
      let (finger, readcounter) ← unpackFinger env dbVersion packedDb size j readcounter
      let (rest, readcounter) ← unpackFingers env dbVersion packedDb size n (j + 1) readcounter
      .ok (finger :: rest, readcounter)

/-- A set that was just allocated. -/
def FingerprintSet.zeroed (addr : Addr) : FingerprintSet :=
  { addr := addr, fingerprintSetKey := 0, fingerprintSetId := Id256.filled 0,
    fingerprintStateId := Id256.filled 0,
    aFingerprintList := Vector.replicate fpcDbFingerprintsInSet Fingerprint.zeroed }

/-- The set, from its key to the end marker. -/
def unpackSet (env : DbEnv) (dbVersion : UInt8) (db : FingerprintDatabase)
    (packedDb : List UInt8) (readcounter size : Nat) : Outcome FingerprintSet := do
  let addr ← env.memCalloc .fingerprintSet
  let set := FingerprintSet.zeroed addr
  let key ← unpackUint32 set.fingerprintSetKey packedDb readcounter size
  let readcounter ← unpackVerifyUint32 fpcDbMarkerStartOfSIds packedDb key.readcounter size
  let setId ← unpackUint8Array set.fingerprintSetId.toList 32 packedDb readcounter size
  let set := { set with fingerprintSetKey := key.data, fingerprintSetId := toId256 setId.data }
  let (set, readcounter) ← unpackStateId env dbVersion set db packedDb setId.readcounter size
  let (fingers, readcounter) ←
    unpackFingers env dbVersion packedDb size fpcDbFingerprintsInSet 0 readcounter
  let _ ← unpackVerifyUint32 fpcDbMarkerEndOfFile packedDb readcounter size
  .ok { set with
    aFingerprintList := ofList fpcDbFingerprintsInSet Fingerprint.zeroed fingers }

/-- `db_unpack_v2_v3_v4` -/
def dbUnpackV2V3V4 (env : DbEnv) (packedDb : List UInt8) (size : Nat) (dbVersion : UInt8) :
    Outcome FingerprintDatabase := do
  let addr ← env.memCalloc .database
  let db : FingerprintDatabase := { addr := addr, databaseId := 0, pFingerprintSet := none }
  let readcounter ← unpackVerifyUint32 fpcDbMarkerStartOfDb packedDb 0 size
  let readcounter ← unpackVerifyUint8 dbVersion packedDb readcounter size
  let (db, readcounter) ← unpackDatabaseId env dbVersion db packedDb readcounter size
  let setCount ← unpackUint32 (if db.pFingerprintSet.isSome then 1 else 0) packedDb readcounter size
  let readcounter ←
    unpackVerifyUint32 fpcDbMarkerStartOfSets packedDb setCount.readcounter size
  if setCount.data > 1 then .err (-fpcErrorDb)
  else if setCount.data ≠ 1 then
    let _ ← unpackVerifyUint32 fpcDbMarkerEndOfFile packedDb readcounter size
    .ok db
  else
    let set ← unpackSet env dbVersion db packedDb readcounter size
    .ok { db with pFingerprintSet := some set }

/-- `db_unpack` -/
def dbUnpack (env : DbEnv) (packedDb : List UInt8) (size : Nat) :
    Outcome FingerprintDatabase := do
  let readcounter ← unpackVerifyUint32 fpcDbMarkerStartOfDb packedDb 0 size
  let dbVersion ← unpackUint8 0 packedDb readcounter size
  if dbVersion.status < 0 then .err (-fpcErrorDb)
  else if dbVersion.data = fpcDbVersion1 then .err (-fpcErrorDb)
  else if dbVersion.data = fpcDbVersion2 ∨ dbVersion.data = fpcDbVersion3
      ∨ dbVersion.data = fpcDbVersion4 then
    dbUnpackV2V3V4 env packedDb size dbVersion.data
  else .err (-fpcErrorDb)

/-- `fpc_db_create`: an empty database without data, the decoded one with data. -/
def fpcDbCreate (env : DbEnv) (pDbData : Option (List UInt8)) (dbDataSize : Nat) :
    Outcome FingerprintDatabase :=
  match pDbData with
  | none =>
      if dbDataSize ≠ 0 then .err (-fpcErrorInput)
      else do
        let addr ← env.memCalloc .database
        .ok (dbUpdateDatabaseId env { addr := addr, databaseId := 0, pFingerprintSet := none }).2
  | some packedDb => dbUnpack env packedDb dbDataSize

end Fpc
