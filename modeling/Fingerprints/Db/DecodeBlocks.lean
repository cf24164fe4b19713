import Fingerprints.Db.Blocks

/-!
# The blocks of a database that is created

`db_unpack` hangs every block at `*newdb` as soon as it is allocated, so that the error exit finds
them all. The definitions here follow the unpacking to where it ends, well or not: what it has
allocated then, and what hangs at the pointer.

* **`dbUnpackV2V3V4Heap_owns`**: what hangs at `*newdb` is what was allocated, wherever it ends.
* **`fpcDbCreate_owns`** and **`fpcDbCreate_owns_err`**: a database that was created owns all that
  was allocated; a creation that fails leaves nothing.
* **`fpcDbCreate_held`**: in a new database only valid slots hold a template.
-/

namespace Fpc

open Wire Wire.Outcome Ledger

/-! ## What is allocated -/

/-- `fpc_mem_calloc`, where it gives a block: it is set to zero. -/
def memCallocOps (a : Addr) : List HeapOp := [.malloc a, .use a]

theorem memCallocOps_owns (a : Addr) (A : Multiset Addr) : Owns A (memCallocOps a) (a ::ₘ A) :=
  (Owns.malloc a A).trans (.use (Multiset.mem_cons_self a A))

/-- The loop of `db_unpack_v2_v3_v4` over the slots: what it allocates until it ends or fails, and
the slots it leaves. A turn that fails has allocated nothing. -/
def unpackFingersHeap (env : DbEnv) (dbVersion : UInt8) (packedDb : List UInt8) (size : Nat) :
    (n j readcounter : Nat) → List HeapOp × List Fingerprint
  | 0, _, _ => ([], [])
  | n + 1, j, readcounter =>
      match unpackFinger env dbVersion packedDb size j readcounter with
      | .ok (finger, readcounter) =>
          let rest := unpackFingersHeap env dbVersion packedDb size n (j + 1) readcounter
          (finger.blocks.flatMap memCallocOps ++ rest.1, finger :: rest.2)
      | _ => ([], List.replicate (n + 1) Fingerprint.zeroed)

/-- The fields of the set that come before its slots. -/
def unpackSetHead (env : DbEnv) (dbVersion : UInt8) (db : FingerprintDatabase)
    (packedDb : List UInt8) (readcounter size : Nat) (set : FingerprintSet) :
    Outcome (FingerprintSet × Nat) := do
  let key ← unpackUint32 set.fingerprintSetKey packedDb readcounter size
  let readcounter ← unpackVerifyUint32 fpcDbMarkerStartOfSIds packedDb key.readcounter size
  let setId ← unpackUint8Array set.fingerprintSetId.toList 32 packedDb readcounter size
  let set := { set with fingerprintSetKey := key.data, fingerprintSetId := toId256 setId.data }
  unpackStateId env dbVersion set db packedDb setId.readcounter size

/-- The part of `db_unpack_v2_v3_v4` that makes the set: what it allocates until it ends or fails,
and the set that hangs at the database then. -/
def unpackSetHeap (env : DbEnv) (dbVersion : UInt8) (db : FingerprintDatabase)
    (packedDb : List UInt8) (readcounter size : Nat) : List HeapOp × Option FingerprintSet :=
  match env.malloc .fingerprintSet with
  | none => ([], none)
  | some addr =>
      let set := FingerprintSet.zeroed addr
      match unpackSetHead env dbVersion db packedDb readcounter size set with
      | .ok (set, readcounter) =>
          let fingers :=
            unpackFingersHeap env dbVersion packedDb size fpcDbFingerprintsInSet 0 readcounter
          (memCallocOps addr ++ fingers.1,
            some (set.withSlots (ofList fpcDbFingerprintsInSet Fingerprint.zeroed fingers.2)))
      | _ => (memCallocOps addr, some set)

/-- The fields of the database that come before its set, with the number of sets. -/
def unpackDbHead (env : DbEnv) (packedDb : List UInt8) (size : Nat) (dbVersion : UInt8)
    (db : FingerprintDatabase) : Outcome (FingerprintDatabase × UInt32 × Nat) := do
  let readcounter ← unpackVerifyUint32 fpcDbMarkerStartOfDb packedDb 0 size
  let readcounter ← unpackVerifyUint8 dbVersion packedDb readcounter size
  let (db, readcounter) ← unpackDatabaseId env dbVersion db packedDb readcounter size
  let setCount ← unpackUint32 (if db.pFingerprintSet.isSome then 1 else 0) packedDb readcounter size
  let readcounter ←
    unpackVerifyUint32 fpcDbMarkerStartOfSets packedDb setCount.readcounter size
  .ok (db, setCount.data, readcounter)

/-- `db_unpack_v2_v3_v4`: what it allocates until it ends or fails, and what `*newdb` is then. -/
def dbUnpackV2V3V4Heap (env : DbEnv) (packedDb : List UInt8) (size : Nat) (dbVersion : UInt8) :
    List HeapOp × Option FingerprintDatabase :=
  match env.malloc .database with
  | none => ([], none)
  | some addr =>
      let db : FingerprintDatabase := { addr := addr, databaseId := 0, pFingerprintSet := none }
      match unpackDbHead env packedDb size dbVersion db with
      | .ok (db, setCount, readcounter) =>
          if setCount = 1 then
            let set := unpackSetHeap env dbVersion db packedDb readcounter size
            (memCallocOps addr ++ set.1, some { db with pFingerprintSet := set.2 })
          else (memCallocOps addr, some db)
      | _ => (memCallocOps addr, some db)

/-- `db_unpack`. What a failed unpacking has made is freed. -/
def dbUnpackOps (env : DbEnv) (packedDb : List UInt8) (size : Nat) : List HeapOp :=
  match unpackVerifyUint32 fpcDbMarkerStartOfDb packedDb 0 size >>= fun readcounter =>
      unpackUint8 0 packedDb readcounter size with
  | .ok dbVersion =>
      if dbVersion.status < 0 then []
      else if dbVersion.data = fpcDbVersion2 ∨ dbVersion.data = fpcDbVersion3
          ∨ dbVersion.data = fpcDbVersion4 then
        let made := dbUnpackV2V3V4Heap env packedDb size dbVersion.data
        match dbUnpackV2V3V4 env packedDb size dbVersion.data with
        | .err _ => made.1 ++ fpcDbDestroyOps made.2
        | _ => made.1
      else []
  | _ => []

/-- `fpc_db_create` -/
def fpcDbCreateOps (env : DbEnv) (pDbData : Option (List UInt8)) (dbDataSize : Nat) :
    List HeapOp :=
  match pDbData with
  | none => if dbDataSize ≠ 0 then [] else (env.malloc .database).toList.flatMap memCallocOps
  | some packedDb => dbUnpackOps env packedDb dbDataSize

/-! ## Who owns it -/

/-- Blocks are allocated, one after the other. Induction on the blocks. -/
theorem memCallocs_owns (l : List Addr) (A : Multiset Addr) :
    Owns A (l.flatMap memCallocOps) (↑l + A) := by
  induction l generalizing A with
  | nil => simpa using Owns.nil A
  | cons a l ih =>
    rw [List.flatMap_cons]
    apply ((memCallocOps_owns a A).trans (ih _)).congr rfl
    rw [← Multiset.cons_coe, Multiset.cons_add, Multiset.add_cons]

/-- Every block that the loop allocated hangs at one of the slots it leaves. Induction on the turns
that are left. -/
theorem unpackFingersHeap_owns (env : DbEnv) (dbVersion : UInt8) (packedDb : List UInt8)
    (size n j readcounter : Nat) (A : Multiset Addr) :
    Owns A (unpackFingersHeap env dbVersion packedDb size n j readcounter).1
      (↑(templateBlocks (unpackFingersHeap env dbVersion packedDb size n j readcounter).2) + A) := by
  induction n generalizing j readcounter A with
  | zero => simpa [unpackFingersHeap] using Owns.nil A
  | succ n ih =>
    rw [unpackFingersHeap]
    split
    · next finger readcounter' _ =>
      apply ((memCallocs_owns finger.blocks A).trans (ih _ _ _)).congr rfl
      rw [templateBlocks_cons, ← Multiset.coe_add, add_left_comm, add_assoc]
    · simpa [templateBlocks_replicate_zeroed] using Owns.nil A

theorem length_unpackFingersHeap (env : DbEnv) (dbVersion : UInt8) (packedDb : List UInt8)
    (size n j readcounter : Nat) :
    (unpackFingersHeap env dbVersion packedDb size n j readcounter).2.length = n := by
  induction n generalizing j readcounter with
  | zero => rfl
  | succ n ih =>
    rw [unpackFingersHeap]
    split
    · rw [List.length_cons, ih]
    · exact List.length_replicate

/-- A loop that ends leaves the slots it returns. Induction on the turns that are left. -/
theorem unpackFingersHeap_of_ok {env : DbEnv} {dbVersion : UInt8} {packedDb : List UInt8}
    {size n j readcounter c : Nat} {fingers : List Fingerprint}
    (h : unpackFingers env dbVersion packedDb size n j readcounter = .ok (fingers, c)) :
    (unpackFingersHeap env dbVersion packedDb size n j readcounter).2 = fingers := by
  induction n generalizing j readcounter fingers c with
  | zero =>
    cases h
    rfl
  | succ n ih =>
    obtain ⟨⟨finger, c1⟩, hfinger, h⟩ := bind_eq_ok.mp h
    obtain ⟨⟨rest, c2⟩, hrest, h⟩ := bind_eq_ok.mp h
    cases h
    rw [unpackFingersHeap, hfinger]
    dsimp only
    rw [ih hrest]

/-- The fields before the slots are written into the block of the set. -/
theorem unpackSetHead_ok {env : DbEnv} {dbVersion : UInt8} {db : FingerprintDatabase}
    {packedDb : List UInt8} {readcounter size c : Nat} {set set' : FingerprintSet}
    (h : unpackSetHead env dbVersion db packedDb readcounter size set = .ok (set', c)) :
    set'.addr = set.addr ∧ set'.aFingerprintList = set.aFingerprintList := by
  obtain ⟨key, _, h⟩ := bind_eq_ok.mp h
  obtain ⟨c1, _, h⟩ := bind_eq_ok.mp h
  obtain ⟨setId, _, h⟩ := bind_eq_ok.mp h
  dsimp only at h
  unfold unpackStateId at h
  split at h
  · obtain ⟨stateId, _, h⟩ := bind_eq_ok.mp h
    cases h
    exact ⟨rfl, rfl⟩
  · simp only [dbUpdateFingerprintStateId] at h
    split at h
    · cases h
    · cases h
      exact ⟨rfl, rfl⟩

/-- Every block allocated for the set hangs at the set it leaves. -/
theorem unpackSetHeap_owns (env : DbEnv) (dbVersion : UInt8) (db : FingerprintDatabase)
    (packedDb : List UInt8) (readcounter size : Nat) (A : Multiset Addr) :
    Owns A (unpackSetHeap env dbVersion db packedDb readcounter size).1
      (↑(setBlocks (unpackSetHeap env dbVersion db packedDb readcounter size).2) + A) := by
  unfold unpackSetHeap
  split
  · simpa [setBlocks] using Owns.nil A
  · next addr _ =>
    dsimp only
    split
    · next set c hhead =>
      have haddr : set.addr = addr := (unpackSetHead_ok hhead).1
      have hslots : (ofList fpcDbFingerprintsInSet Fingerprint.zeroed (unpackFingersHeap env
          dbVersion packedDb size fpcDbFingerprintsInSet 0 c).2).toList = _ :=
        toList_ofList _ (length_unpackFingersHeap env dbVersion packedDb size _ 0 c)
      apply ((memCallocOps_owns addr A).trans (unpackFingersHeap_owns _ _ _ _ _ _ _ _)).congr rfl
      rw [setBlocks, FingerprintSet.withSlots, hslots, haddr, ← Multiset.coe_add, add_assoc]
      rfl
    · apply (memCallocOps_owns addr A).congr rfl
      rw [setBlocks, FingerprintSet.zeroed, Vector.toList_replicate,
        templateBlocks_replicate_zeroed]
      rfl

theorem DbEnv.memCalloc_ok {env : DbEnv} {site : AllocSite} {addr : Addr}
    (h : env.memCalloc site = .ok addr) : env.malloc site = some addr := by
  unfold DbEnv.memCalloc at h
  split at h
  · next hsome =>
    cases h
    exact hsome
  · cases h

/-- The parts of a set that was decoded. -/
theorem unpackSet_parts {env : DbEnv} {dbVersion : UInt8} {db : FingerprintDatabase}
    {packedDb : List UInt8} {readcounter size : Nat} {set : FingerprintSet}
    (h : unpackSet env dbVersion db packedDb readcounter size = .ok set) :
    ∃ addr head c fingers c', env.malloc .fingerprintSet = some addr ∧
      unpackSetHead env dbVersion db packedDb readcounter size (FingerprintSet.zeroed addr)
        = .ok (head, c) ∧
      unpackFingers env dbVersion packedDb size fpcDbFingerprintsInSet 0 c = .ok (fingers, c') ∧
      set = head.withSlots (ofList fpcDbFingerprintsInSet Fingerprint.zeroed fingers) := by
  obtain ⟨addr, halloc, h⟩ := bind_eq_ok.mp h
  obtain ⟨key, hkey, h⟩ := bind_eq_ok.mp h
  obtain ⟨c1, hmarker, h⟩ := bind_eq_ok.mp h
  obtain ⟨setId, hsetId, h⟩ := bind_eq_ok.mp h
  obtain ⟨⟨head, c2⟩, hstate, h⟩ := bind_eq_ok.mp h
  obtain ⟨⟨fingers, c3⟩, hfingers, h⟩ := bind_eq_ok.mp h
  obtain ⟨c4, _, h⟩ := bind_eq_ok.mp h
  cases h
  refine ⟨addr, head, c2, fingers, c3, DbEnv.memCalloc_ok halloc, ?_, hfingers, rfl⟩
  exact bind_eq_ok.mpr
    ⟨key, hkey, bind_eq_ok.mpr ⟨c1, hmarker, bind_eq_ok.mpr ⟨setId, hsetId, hstate⟩⟩⟩

/-- A set that was decoded is the one that hangs at the database. -/
theorem unpackSetHeap_of_ok {env : DbEnv} {dbVersion : UInt8} {db : FingerprintDatabase}
    {packedDb : List UInt8} {readcounter size : Nat} {set : FingerprintSet}
    (h : unpackSet env dbVersion db packedDb readcounter size = .ok set) :
    (unpackSetHeap env dbVersion db packedDb readcounter size).2 = some set := by
  obtain ⟨addr, head, c, fingers, c', hmalloc, hhead, hfingers, rfl⟩ := unpackSet_parts h
  rw [unpackSetHeap, hmalloc]
  dsimp only
  rw [hhead]
  dsimp only
  rw [unpackFingersHeap_of_ok hfingers]

/-- The fields before the set are written into the block of the database, which has no set yet. -/
theorem unpackDbHead_ok {env : DbEnv} {packedDb : List UInt8} {size : Nat} {dbVersion : UInt8}
    {db db' : FingerprintDatabase} {setCount : UInt32} {c : Nat}
    (h : unpackDbHead env packedDb size dbVersion db = .ok (db', setCount, c)) :
    db'.addr = db.addr ∧ db'.pFingerprintSet = db.pFingerprintSet := by
  obtain ⟨c1, _, h⟩ := bind_eq_ok.mp h
  obtain ⟨c2, _, h⟩ := bind_eq_ok.mp h
  obtain ⟨⟨db'', c3⟩, hid, h⟩ := bind_eq_ok.mp h
  obtain ⟨count, _, h⟩ := bind_eq_ok.mp h
  obtain ⟨c4, _, h⟩ := bind_eq_ok.mp h
  cases h
  unfold unpackDatabaseId at hid
  split at hid
  · obtain ⟨databaseId, _, hid⟩ := bind_eq_ok.mp hid
    cases hid
    exact ⟨rfl, rfl⟩
  · unfold dbUpdateDatabaseId at hid
    dsimp only at hid
    split at hid
    · cases hid
    · cases hid
      exact ⟨rfl, rfl⟩

/-- Every block that an unpacking allocated hangs at `*newdb`, wherever it ends. -/
theorem dbUnpackV2V3V4Heap_owns (env : DbEnv) (packedDb : List UInt8) (size : Nat)
    (dbVersion : UInt8) (A : Multiset Addr) :
    Owns A (dbUnpackV2V3V4Heap env packedDb size dbVersion).1
      (↑(blocks (dbUnpackV2V3V4Heap env packedDb size dbVersion).2) + A) := by
  unfold dbUnpackV2V3V4Heap
  split
  · simpa using Owns.nil A
  · next addr _ =>
    dsimp only
    split
    · next db setCount c hhead =>
      obtain ⟨haddr, hset⟩ := unpackDbHead_ok hhead
      split
      · apply ((memCallocOps_owns addr A).trans (unpackSetHeap_owns _ _ _ _ _ _ _)).congr rfl
        rw [blocks, haddr, ← Multiset.coe_add, add_assoc]
        rfl
      · apply (memCallocOps_owns addr A).congr rfl
        rw [blocks, haddr, hset]
        rfl
    · exact memCallocOps_owns addr A

/-- The parts of a database that was decoded. -/
theorem dbUnpackV2V3V4_parts {env : DbEnv} {packedDb : List UInt8} {size : Nat}
    {dbVersion : UInt8} {db : FingerprintDatabase}
    (h : dbUnpackV2V3V4 env packedDb size dbVersion = .ok db) :
    ∃ addr head setCount c, env.malloc .database = some addr ∧
      unpackDbHead env packedDb size dbVersion
        { addr := addr, databaseId := 0, pFingerprintSet := none } = .ok (head, setCount, c) ∧
      ((setCount ≠ 1 ∧ db = head) ∨
        (setCount = 1 ∧ ∃ set, unpackSet env dbVersion head packedDb c size = .ok set ∧
          db = { head with pFingerprintSet := some set })) := by
  obtain ⟨addr, halloc, h⟩ := bind_eq_ok.mp h
  obtain ⟨c1, hmarker, h⟩ := bind_eq_ok.mp h
  obtain ⟨c2, hversion, h⟩ := bind_eq_ok.mp h
  obtain ⟨⟨head, c3⟩, hid, h⟩ := bind_eq_ok.mp h
  obtain ⟨count, hcount, h⟩ := bind_eq_ok.mp h
  obtain ⟨c4, hsets, h⟩ := bind_eq_ok.mp h
  refine ⟨addr, head, count.data, c4, DbEnv.memCalloc_ok halloc, ?_, ?_⟩
  · exact bind_eq_ok.mpr ⟨c1, hmarker, bind_eq_ok.mpr ⟨c2, hversion, bind_eq_ok.mpr
      ⟨(head, c3), hid, bind_eq_ok.mpr ⟨count, hcount, bind_eq_ok.mpr ⟨c4, hsets, rfl⟩⟩⟩⟩⟩
  · split at h
    · cases h
    · split at h
      · next hne =>
        obtain ⟨_, _, h⟩ := bind_eq_ok.mp h
        cases h
        exact Or.inl ⟨hne, rfl⟩
      · next hone =>
        obtain ⟨set, hset, h⟩ := bind_eq_ok.mp h
        cases h
        exact Or.inr ⟨not_not.mp hone, set, hset, rfl⟩

/-- A database that was decoded is what `*newdb` is. -/
theorem dbUnpackV2V3V4Heap_of_ok {env : DbEnv} {packedDb : List UInt8} {size : Nat}
    {dbVersion : UInt8} {db : FingerprintDatabase}
    (h : dbUnpackV2V3V4 env packedDb size dbVersion = .ok db) :
    (dbUnpackV2V3V4Heap env packedDb size dbVersion).2 = some db := by
  obtain ⟨addr, head, setCount, c, hmalloc, hhead, hrest⟩ := dbUnpackV2V3V4_parts h
  rw [dbUnpackV2V3V4Heap, hmalloc]
  dsimp only
  rw [hhead]
  dsimp only
  rcases hrest with ⟨hne, rfl⟩ | ⟨rfl, set, hset, rfl⟩
  · rw [if_neg hne]
  · rw [if_pos rfl, unpackSetHeap_of_ok hset]

/-- A database that was created owns what its creation allocated. -/
theorem fpcDbCreate_owns {env : DbEnv} {pDbData : Option (List UInt8)} {dbDataSize : Nat}
    {db : FingerprintDatabase} (h : fpcDbCreate env pDbData dbDataSize = .ok db)
    (A : Multiset Addr) :
    Owns A (fpcDbCreateOps env pDbData dbDataSize) (↑(blocks (some db)) + A) := by
  rcases pDbData with _ | packedDb
  · unfold fpcDbCreate at h
    dsimp only at h
    split at h
    · cases h
    · next hsize =>
      obtain ⟨addr, halloc, h⟩ := bind_eq_ok.mp h
      cases h
      rw [fpcDbCreateOps, if_neg hsize, DbEnv.memCalloc_ok halloc]
      apply (memCallocOps_owns addr A).congr rfl
      unfold dbUpdateDatabaseId
      dsimp only
      split <;> rfl
  · obtain ⟨c, hmarker, h⟩ := bind_eq_ok.mp h
    obtain ⟨dbVersion, hversion, h⟩ := bind_eq_ok.mp h
    have hread : (unpackVerifyUint32 fpcDbMarkerStartOfDb packedDb 0 dbDataSize >>= fun c =>
        unpackUint8 0 packedDb c dbDataSize) = .ok dbVersion :=
      bind_eq_ok.mpr ⟨c, hmarker, hversion⟩
    rw [fpcDbCreateOps, dbUnpackOps, hread]
    dsimp only
    split at h
    · cases h
    · next hstatus =>
      split at h
      · cases h
      · split at h
        · next hknown =>
          rw [if_neg hstatus, if_pos hknown, h]
          dsimp only
          rw [← dbUnpackV2V3V4Heap_of_ok h]
          exact dbUnpackV2V3V4Heap_owns env packedDb dbDataSize dbVersion.data A
        · cases h

/-- A creation that fails leaves nothing behind. -/
theorem fpcDbCreate_owns_err {env : DbEnv} {pDbData : Option (List UInt8)} {dbDataSize : Nat}
    {code : Int} (h : fpcDbCreate env pDbData dbDataSize = .err code) (A : Multiset Addr) :
    Owns A (fpcDbCreateOps env pDbData dbDataSize) A := by
  rcases pDbData with _ | packedDb
  · unfold fpcDbCreate at h
    dsimp only at h
    rw [fpcDbCreateOps]
    split at h
    · next hsize =>
      rw [if_pos hsize]
      exact .nil A
    · next hsize =>
      rw [if_neg hsize]
      rcases halloc : env.malloc .database with _ | addr
      · exact .nil A
      · rw [DbEnv.memCalloc, halloc] at h
        cases h
  · have hassoc := bind_assoc (unpackVerifyUint32 fpcDbMarkerStartOfDb packedDb 0 dbDataSize)
      (fun c => unpackUint8 0 packedDb c dbDataSize)
      (fun dbVersion => if dbVersion.status < 0 then .err (-fpcErrorDb)
        else if dbVersion.data = fpcDbVersion1 then .err (-fpcErrorDb)
        else if dbVersion.data = fpcDbVersion2 ∨ dbVersion.data = fpcDbVersion3
            ∨ dbVersion.data = fpcDbVersion4 then
          dbUnpackV2V3V4 env packedDb dbDataSize dbVersion.data
        else .err (-fpcErrorDb))
    rw [fpcDbCreate, dbUnpack, ← hassoc] at h
    rw [fpcDbCreateOps, dbUnpackOps]
    rcases hread : (unpackVerifyUint32 fpcDbMarkerStartOfDb packedDb 0 dbDataSize >>= fun c =>
        unpackUint8 0 packedDb c dbDataSize) with dbVersion | _ | _
    · rw [hread, ok_bind] at h
      dsimp only
      split
      · exact .nil A
      · next hstatus =>
        split
        · next hknown =>
          have hfirst : dbVersion.data ≠ fpcDbVersion1 := by
            intro heq
            rw [heq] at hknown
            exact absurd hknown (by decide)
          rw [if_neg hstatus, if_neg hfirst, if_pos hknown] at h
          rw [h]
          dsimp only
          apply (dbUnpackV2V3V4Heap_owns env packedDb dbDataSize dbVersion.data A).trans
          have hfreed := (fpcDbDestroy_owns
            (dbUnpackV2V3V4Heap env packedDb dbDataSize dbVersion.data).2).frame A
          rwa [zero_add] at hfreed
        · exact .nil A
    · exact .nil A
    · exact .nil A

/-- A slot that was read holds a template only if it is valid. -/
theorem unpackFinger_held {env : DbEnv} {dbVersion : UInt8} {packedDb : List UInt8}
    {size j readcounter c : Nat} {finger : Fingerprint}
    (h : unpackFinger env dbVersion packedDb size j readcounter = .ok (finger, c))
    (hheld : finger.ftemplate.isSome) : finger.valid = fpcDbEntryValid := by
  obtain ⟨valid, _, h⟩ := bind_eq_ok.mp h
  dsimp only at h
  split at h
  · next hvalid =>
    obtain ⟨fid, _, h⟩ := bind_eq_ok.mp h
    obtain ⟨⟨userId, c1⟩, _, h⟩ := bind_eq_ok.mp h
    obtain ⟨fsize, _, h⟩ := bind_eq_ok.mp h
    dsimp only at h
    split at h
    · cases h
    · obtain ⟨fmem, _, h⟩ := bind_eq_ok.mp h
      obtain ⟨tpl, _, h⟩ := bind_eq_ok.mp h
      cases h
      exact hvalid
  · split at h
    · cases h
      cases hheld
    · cases h

/-- Induction on the turns that are left. -/
theorem unpackFingers_held {env : DbEnv} {dbVersion : UInt8} {packedDb : List UInt8}
    {size n j readcounter c : Nat} {fingers : List Fingerprint}
    (h : unpackFingers env dbVersion packedDb size n j readcounter = .ok (fingers, c)) :
    ∀ f ∈ fingers, f.ftemplate.isSome → f.valid = fpcDbEntryValid := by
  induction n generalizing j readcounter fingers c with
  | zero =>
    cases h
    intro f hf
    cases hf
  | succ n ih =>
    obtain ⟨⟨finger, c1⟩, hfinger, h⟩ := bind_eq_ok.mp h
    obtain ⟨⟨rest, c2⟩, hrest, h⟩ := bind_eq_ok.mp h
    cases h
    rw [List.forall_mem_cons]
    exact ⟨unpackFinger_held hfinger, ih hrest⟩

/-- The slots of a set that was decoded are those that the loop left. -/
theorem unpackSet_slots {env : DbEnv} {dbVersion : UInt8} {db : FingerprintDatabase}
    {packedDb : List UInt8} {readcounter size : Nat} {set : FingerprintSet}
    (h : unpackSet env dbVersion db packedDb readcounter size = .ok set) :
    ∃ c c', unpackFingers env dbVersion packedDb size fpcDbFingerprintsInSet 0 c
      = .ok (set.aFingerprintList.toList, c') := by
  obtain ⟨addr, head, c, fingers, c', _, _, hfingers, rfl⟩ := unpackSet_parts h
  have hlen : fingers.length = fpcDbFingerprintsInSet := by
    rw [← unpackFingersHeap_of_ok hfingers]
    exact length_unpackFingersHeap env dbVersion packedDb size _ 0 c
  refine ⟨c, c', ?_⟩
  rw [FingerprintSet.withSlots, toList_ofList _ hlen]
  exact hfingers

theorem slots_withoutSet_of {db : FingerprintDatabase} (h : db.pFingerprintSet = none) :
    slots (some db) = [] := by
  rw [slots, Option.bind_some, h]

/-- The slots that a decoder leaves: none, or those of its loop. -/
def DecodedSlots (env : DbEnv) (fingers : List Fingerprint) : Prop :=
  fingers = [] ∨ ∃ dbVersion packedDb size c c',
    unpackFingers env dbVersion packedDb size fpcDbFingerprintsInSet 0 c = .ok (fingers, c')

theorem dbUnpackV2V3V4_slots {env : DbEnv} {packedDb : List UInt8} {size : Nat}
    {dbVersion : UInt8} {db : FingerprintDatabase}
    (h : dbUnpackV2V3V4 env packedDb size dbVersion = .ok db) :
    DecodedSlots env (slots (some db)) := by
  obtain ⟨addr, head, setCount, c, _, hhead, hrest⟩ := dbUnpackV2V3V4_parts h
  rcases hrest with ⟨_, rfl⟩ | ⟨_, set, hset, rfl⟩
  · exact Or.inl (slots_withoutSet_of (unpackDbHead_ok hhead).2)
  · obtain ⟨c, c', hfingers⟩ := unpackSet_slots hset
    exact Or.inr ⟨dbVersion, packedDb, size, c, c', hfingers⟩

/-- A database that was created has no slots, or those that were decoded. -/
theorem fpcDbCreate_slots {env : DbEnv} {pDbData : Option (List UInt8)} {dbDataSize : Nat}
    {db : FingerprintDatabase} (h : fpcDbCreate env pDbData dbDataSize = .ok db) :
    DecodedSlots env (slots (some db)) := by
  rcases pDbData with _ | packedDb
  · unfold fpcDbCreate at h
    dsimp only at h
    split at h
    · cases h
    · obtain ⟨addr, _, h⟩ := bind_eq_ok.mp h
      cases h
      rw [slots_dbUpdateDatabaseId]
      exact Or.inl rfl
  · obtain ⟨c, _, h⟩ := bind_eq_ok.mp h
    obtain ⟨dbVersion, _, h⟩ := bind_eq_ok.mp h
    split at h
    · cases h
    · split at h
      · cases h
      · split at h
        · exact dbUnpackV2V3V4_slots h
        · cases h

/-- A database that was created holds templates in valid slots only. -/
theorem fpcDbCreate_held {env : DbEnv} {pDbData : Option (List UInt8)} {dbDataSize : Nat}
    {db : FingerprintDatabase} (h : fpcDbCreate env pDbData dbDataSize = .ok db) :
    OnlyValidHold (some db) := by
  obtain hempty | ⟨_, _, _, _, _, hfingers⟩ := fpcDbCreate_slots h
  · intro f hf
    rw [hempty] at hf
    cases hf
  · exact unpackFingers_held hfingers

end Fpc
