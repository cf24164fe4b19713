import Fingerprints.Db.Ops
import Fingerprints.Heap.Ledger

/-!
# The blocks of a database

A database owns its own block, that of its set, and the template blocks its slots point to. Beside
each function of `fpc_db.c` that allocates or frees stands the list of what it does to the heap,
branch by branch; a use is listed where the code may follow the pointer.

* **`blocks_set`** counts the template blocks after one slot was written.
* **`fpcDbCreate_owns`**, **`dbFree_owns`**, **`fpcDbAddFingerprint_owns`**,
  **`fpcDbDeleteFingerprint_owns`**: each function takes the blocks of the database it was given to
  those of the database it leaves. `fpc_db_add_fingerprint` takes over the template it is given
  exactly when it succeeds.
* **`OnlyValidHold`** is the invariant that makes the new slot's pointer a null pointer before it is
  set.
-/

namespace Fpc

open Wire Wire.Outcome Ledger

abbrev HeapOp := Ledger.Op Addr

/-! ## What a database owns -/

/-- The block a slot points to, where it points to one. -/
def Fingerprint.blocks (f : Fingerprint) : List Addr := (f.ftemplate.map Template.tpl).toList

def templateBlocks (fingers : List Fingerprint) : List Addr := fingers.flatMap Fingerprint.blocks

def setBlocks : Option FingerprintSet → List Addr
  | none => []
  | some set => templateBlocks set.aFingerprintList.toList ++ [set.addr]

/-- The blocks of a database, in the order in which `db_free` frees them. -/
def blocks : Option FingerprintDatabase → List Addr
  | none => []
  | some db => setBlocks db.pFingerprintSet ++ [db.addr]

/-- The blocks of the two structures. -/
def structBlocks : Option FingerprintDatabase → List Addr
  | none => []
  | some db => db.addr :: (db.pFingerprintSet.map FingerprintSet.addr).toList

/-- A template is held by a valid slot only. -/
def OnlyValidHold (pDb : Option FingerprintDatabase) : Prop :=
  ∀ f ∈ slots pDb, f.ftemplate.isSome → f.valid = fpcDbEntryValid

instance (pDb : Option FingerprintDatabase) : Decidable (OnlyValidHold pDb) :=
  inferInstanceAs (Decidable (∀ f ∈ slots pDb, _))

@[simp] theorem blocks_none : blocks none = [] := rfl

/-- A database owns its own block at least. -/
theorem blocks_eq_nil_iff {pDb : Option FingerprintDatabase} : blocks pDb = [] ↔ pDb = none := by
  cases pDb with
  | none => exact iff_of_true rfl rfl
  | some db => simp [blocks]

theorem onlyValidHold_none : OnlyValidHold none := by
  intro f hf
  cases hf

/-- Only the slots count. -/
theorem OnlyValidHold.congr {pDb pDb' : Option FingerprintDatabase} (h : OnlyValidHold pDb)
    (hslots : slots pDb' = slots pDb) : OnlyValidHold pDb' := by
  unfold OnlyValidHold
  rw [hslots]
  exact h

/-- An invalid slot has no block. -/
theorem OnlyValidHold.blocks_eq_nil {pDb : Option FingerprintDatabase} {f : Fingerprint}
    (h : OnlyValidHold pDb) (hmem : f ∈ slots pDb) (hvalid : f.valid = fpcDbEntryInvalid) :
    f.blocks = [] := by
  rcases htpl : f.ftemplate with _ | tpl
  · rw [Fingerprint.blocks, htpl]
    rfl
  · have hheld := h f hmem (by rw [htpl]; rfl)
    rw [hvalid] at hheld
    cases hheld

@[simp] theorem templateBlocks_nil : templateBlocks [] = [] := rfl

@[simp] theorem templateBlocks_cons (f : Fingerprint) (fingers : List Fingerprint) :
    templateBlocks (f :: fingers) = f.blocks ++ templateBlocks fingers := List.flatMap_cons

/-- The blocks of a slot are among those of all slots. -/
theorem mem_templateBlocks {f : Fingerprint} {fingers : List Fingerprint} {a : Addr}
    (hf : f ∈ fingers) (ha : a ∈ f.blocks) : a ∈ templateBlocks fingers :=
  List.mem_flatMap.mpr ⟨f, hf, ha⟩

/-- Slots without a template own nothing. -/
theorem templateBlocks_replicate_zeroed (n : Nat) :
    templateBlocks (List.replicate n Fingerprint.zeroed) = [] := by
  unfold templateBlocks
  rw [List.flatMap_eq_nil_iff]
  intro f hf
  rw [List.eq_of_mem_replicate hf]
  rfl

theorem mem_blocks_of_structBlocks {pDb : Option FingerprintDatabase} {a : Addr}
    (h : a ∈ structBlocks pDb) : a ∈ blocks pDb := by
  rcases pDb with _ | db
  · cases h
  · rcases List.mem_cons.mp h with rfl | hset
    · exact List.mem_append_right _ (List.mem_singleton.mpr rfl)
    · obtain ⟨set, hsome, rfl⟩ := Option.map_eq_some_iff.mp (Option.mem_toList.mp hset)
      apply List.mem_append_left
      rw [hsome]
      exact List.mem_append_right _ (List.mem_singleton.mpr rfl)

/-- A template block of a slot is a block of the database. -/
theorem mem_blocks_of_template {pDb : Option FingerprintDatabase} {a : Addr}
    (h : a ∈ templateBlocks (slots pDb)) : a ∈ blocks pDb := by
  rcases pDb with _ | db
  · cases h
  · rcases hset : db.pFingerprintSet with _ | set
    · rw [slots, Option.bind_some, hset] at h
      cases h
    · rw [slots_of_set hset] at h
      apply List.mem_append_left
      rw [hset]
      exact List.mem_append_left _ h

/-- A slot that is written gives up its block for the new one. Induction on the slots. -/
theorem templateBlocks_set {fingers : List Fingerprint} {i : Nat} {old : Fingerprint}
    (h : fingers[i]? = some old) (new : Fingerprint) :
    (templateBlocks (fingers.set i new) : Multiset Addr) + old.blocks
      = (templateBlocks fingers : Multiset Addr) + new.blocks := by
  induction fingers generalizing i with
  | nil => cases h
  | cons f fingers ih =>
    cases i with
    | zero =>
      cases h
      rw [List.set_cons_zero, templateBlocks_cons, templateBlocks_cons, ← Multiset.coe_add,
        ← Multiset.coe_add, add_right_comm, add_comm (new.blocks : Multiset Addr), add_right_comm]
    | succ i =>
      have hrest := ih h
      rw [List.set_cons_succ, templateBlocks_cons, templateBlocks_cons, ← Multiset.coe_add,
        ← Multiset.coe_add, add_assoc, hrest, add_assoc]

/-- The blocks of a database after a slot of its set was written. -/
theorem blocks_set {db : FingerprintDatabase} {set : FingerprintSet} {i : Nat}
    {old new : Fingerprint} {fingers : Vector Fingerprint fpcDbFingerprintsInSet}
    (hset : db.pFingerprintSet = some set) (h : set.aFingerprintList.toList[i]? = some old)
    (hfingers : fingers.toList = set.aFingerprintList.toList.set i new) :
    (blocks (some { db with pFingerprintSet := some (set.withSlots fingers) }) : Multiset Addr)
        + old.blocks
      = (blocks (some db) : Multiset Addr) + new.blocks := by
  have hslots := templateBlocks_set h new
  have hblocks : blocks (some db)
      = templateBlocks set.aFingerprintList.toList ++ [set.addr] ++ [db.addr] := by
    rw [blocks, hset, setBlocks]
  rw [hblocks, blocks, setBlocks, FingerprintSet.withSlots, hfingers]
  simp only [← Multiset.coe_add]
  rw [add_right_comm, add_right_comm (templateBlocks _ : Multiset Addr), hslots,
    add_right_comm _ (new.blocks : Multiset Addr), add_right_comm _ (new.blocks : Multiset Addr)]

/-! ## Looking and freeing -/

/-- A function looks into the structures of a database. -/
def lookOps (pDb : Option FingerprintDatabase) : List HeapOp := (structBlocks pDb).map .use

/-- A function looks into the structures and the templates. -/
def packOps (pDb : Option FingerprintDatabase) : List HeapOp := (blocks pDb).map .use

/-- `db_free` -/
def dbFreeOps (db : FingerprintDatabase) : List HeapOp :=
  lookOps (some db) ++ (blocks (some db)).map .free

/-- `fpc_db_destroy` -/
def fpcDbDestroyOps : Option FingerprintDatabase → List HeapOp
  | none => []
  | some db => dbFreeOps db

theorem lookOps_owns (pDb : Option FingerprintDatabase) :
    Owns ↑(blocks pDb) (lookOps pDb) ↑(blocks pDb) := by
  apply Owns.uses
  intro a ha
  exact Multiset.mem_coe.mpr (mem_blocks_of_structBlocks ha)

theorem packOps_owns (pDb : Option FingerprintDatabase) :
    Owns ↑(blocks pDb) (packOps pDb) ↑(blocks pDb) :=
  .uses fun _ ha => Multiset.mem_coe.mpr ha

/-- Everything a database owns is freed, each block once. -/
theorem dbFree_owns (db : FingerprintDatabase) : Owns ↑(blocks (some db)) (dbFreeOps db) 0 := by
  apply (lookOps_owns (some db)).trans
  have hfrees := Owns.frees (blocks (some db)) 0
  rwa [add_zero] at hfrees

theorem fpcDbDestroy_owns (pDb : Option FingerprintDatabase) :
    Owns ↑(blocks pDb) (fpcDbDestroyOps pDb) 0 := by
  rcases pDb with _ | db
  · exact .nil 0
  · exact dbFree_owns db

/-! ## Writing a slot -/

/-- A slot that is written holds a template only if it is valid. -/
theorem OnlyValidHold.set {db : FingerprintDatabase} {set : FingerprintSet} {i : Nat}
    {new : Fingerprint} {fingers : Vector Fingerprint fpcDbFingerprintsInSet}
    (h : OnlyValidHold (some db)) (hset : db.pFingerprintSet = some set)
    (hnew : new.ftemplate.isSome → new.valid = fpcDbEntryValid)
    (hfingers : fingers.toList = set.aFingerprintList.toList.set i new) :
    OnlyValidHold (some { db with pFingerprintSet := some (set.withSlots fingers) }) := by
  intro f hf hheld
  rw [slots_withSet, FingerprintSet.withSlots, hfingers] at hf
  rcases List.mem_or_eq_of_mem_set hf with hold | rfl
  · exact h f (by rwa [slots_of_set hset]) hheld
  · exact hnew hheld

@[simp] theorem blocks_dbUpdateDatabaseId (env : DbEnv) (db : FingerprintDatabase) :
    blocks (some (dbUpdateDatabaseId env db).2) = blocks (some db) := by
  unfold dbUpdateDatabaseId
  dsimp only
  split <;> rfl

@[simp] theorem blocks_dbUpdateFingerprintStateId (env : DbEnv) (db : FingerprintDatabase) :
    blocks (some (dbUpdateFingerprintStateId env db).2) = blocks (some db) := by
  unfold dbUpdateFingerprintStateId
  split
  · rfl
  · next set hset =>
    dsimp only
    split <;> simp [blocks, setBlocks, hset]

/-- The loop of `fpc_db_set_template_first`, with the first slot written after it: the blocks are
those of the slots with slot `i` written. Induction on the slots to shift. -/
theorem templateBlocks_shiftSlots {i : Nat} {fingers : Vector Fingerprint fpcDbFingerprintsInSet}
    {old : Fingerprint} (h : fingers.toList[i]? = some old) (x : Fingerprint) :
    (templateBlocks ((shiftSlots i fingers).setIfInBounds 0 x).toList : Multiset Addr) + old.blocks
      = (templateBlocks fingers.toList : Multiset Addr) + x.blocks := by
  induction i generalizing fingers old with
  | zero =>
    rw [shiftSlots, Vector.toList_setIfInBounds]
    exact templateBlocks_set h x
  | succ i ih =>
    obtain ⟨hlt, _⟩ := List.getElem?_eq_some_iff.mp h
    have hprev := List.getElem?_eq_getElem (show i < fingers.toList.length by omega)
    have hshift : (fingers.setIfInBounds (i + 1)
        (fingers.toList.getD i Fingerprint.zeroed)).toList
          = fingers.toList.set (i + 1) fingers.toList[i] := by
      rw [Vector.toList_setIfInBounds, List.getD_eq_getElem _ _ (by omega)]
    have hkept : (fingers.setIfInBounds (i + 1)
        (fingers.toList.getD i Fingerprint.zeroed)).toList[i]? = some fingers.toList[i] := by
      rw [hshift, List.getElem?_set_ne (by omega), hprev]
    -- one slot up, the one before it takes its place
    have hone := templateBlocks_set h fingers.toList[i]
    rw [← hshift] at hone
    have hrest := ih hkept
    rw [shiftSlots]
    apply add_right_cancel (b := (fingers.toList[i].blocks : Multiset Addr))
    rw [add_right_comm, hrest, add_right_comm, hone, add_right_comm]

/-- Reordering leaves the same blocks. -/
theorem blocks_fpcDbSetTemplateFirst {pDb : Option FingerprintDatabase} {i : Nat}
    {db' : FingerprintDatabase} (h : fpcDbSetTemplateFirst pDb i = .ok db') :
    (blocks (some db') : Multiset Addr) = blocks pDb := by
  obtain ⟨db, set, hlt, rfl, hset, rfl⟩ := fpcDbSetTemplateFirst_ok h
  have hold : set.aFingerprintList.toList[i]? = some set.aFingerprintList[i] := by simp [hlt]
  have hslots := add_right_cancel (templateBlocks_shiftSlots hold set.aFingerprintList[i])
  rw [blocks, blocks, hset, setBlocks, setBlocks, FingerprintSet.withSlots]
  simp only [← Multiset.coe_add, hslots]

/-- And brings in no slot. -/
theorem fpcDbSetTemplateFirst_held {pDb : Option FingerprintDatabase} {i : Nat}
    {db' : FingerprintDatabase} (hheld : OnlyValidHold pDb)
    (h : fpcDbSetTemplateFirst pDb i = .ok db') : OnlyValidHold (some db') := by
  intro f hf
  exact hheld f (mem_slots_fpcDbSetTemplateFirst h hf)

/-! ## Enrolling -/

/-- The part of `fpc_db_add_fingerprint` that finds the set or makes one. A set for which no id can
be drawn is freed. -/
def setForKeyOps (env : DbEnv) (db : FingerprintDatabase) : List HeapOp :=
  lookOps (some db) ++
    match db.pFingerprintSet with
    | some _ => []
    | none =>
        match env.malloc .fingerprintSet with
        | none => []
        | some addr =>
            [.malloc addr, .use addr] ++ if (env.random256 .setId).1 ≠ 0 then [.free addr] else []

/-- `fpc_db_add_fingerprint` -/
def fpcDbAddFingerprintOps (env : DbEnv) (pDb : Option FingerprintDatabase)
    (fingerprintSetKey : UInt32) : List HeapOp :=
  match pDb with
  | none => []
  | some db =>
      setForKeyOps env db ++
        match setForKey env db fingerprintSetKey with
        | .error _ => []
        | .ok set => lookOps (some { db with pFingerprintSet := some set })

/-- The set that the finger is added to hangs at the database. -/
theorem setForKey_owns {env : DbEnv} {db : FingerprintDatabase} {key : UInt32}
    {set : FingerprintSet} (h : setForKey env db key = .ok set) :
    Owns ↑(blocks (some db)) (setForKeyOps env db)
      ↑(blocks (some { db with pFingerprintSet := some set })) := by
  apply (lookOps_owns (some db)).trans
  unfold setForKey at h
  rcases hset : db.pFingerprintSet with _ | set'
  · simp only [hset] at h
    cases halloc : env.malloc .fingerprintSet with
    | none =>
      rw [halloc] at h
      cases h
    | some addr =>
      rw [halloc] at h
      dsimp only at h
      split at h
      · cases h
      · next hstatus =>
        cases h
        dsimp only
        rw [if_neg hstatus, List.append_nil, blocks, hset]
        exact (Owns.malloc addr _).trans (.use (Multiset.mem_cons_self addr _))
  · simp only [hset] at h
    split at h
    · cases h
    · cases h
      rw [blocks, blocks, hset]
      exact .nil _

/-- No set, nothing made. -/
theorem setForKey_owns_error {env : DbEnv} {db : FingerprintDatabase} {key : UInt32} {code : Int}
    (h : setForKey env db key = .error code) :
    Owns ↑(blocks (some db)) (setForKeyOps env db) ↑(blocks (some db)) := by
  apply (lookOps_owns (some db)).trans
  unfold setForKey at h
  rcases hset : db.pFingerprintSet with _ | set'
  · simp only [hset] at h
    cases halloc : env.malloc .fingerprintSet with
    | none => exact .nil _
    | some addr =>
      rw [halloc] at h
      dsimp only at h ⊢
      split at h
      · next hstatus =>
        rw [if_pos hstatus]
        exact ((Owns.malloc addr _).trans (.use (Multiset.mem_cons_self addr _))).trans
          (.free addr _)
      · cases h
  · exact .nil _

theorem setForKey_held {env : DbEnv} {db : FingerprintDatabase} {key : UInt32}
    {set : FingerprintSet} (hheld : OnlyValidHold (some db))
    (h : setForKey env db key = .ok set) :
    OnlyValidHold (some { db with pFingerprintSet := some set }) := by
  unfold setForKey at h
  rcases hset : db.pFingerprintSet with _ | set'
  · simp only [hset] at h
    split at h
    · cases h
    · split at h
      · cases h
      · cases h
        intro f hf hsome
        rw [slots_withSet, FingerprintSet.zeroed, Vector.toList_replicate] at hf
        rw [List.eq_of_mem_replicate hf] at hsome
        cases hsome
  · simp only [hset] at h
    split at h
    · cases h
    · cases h
      exact hheld.congr (slots_of_set hset).symm

/-- The template a database takes over from the caller. -/
def AddedFingerprint.takenOver (added : AddedFingerprint) (pTemplate : Template) : List Addr :=
  if added.status = 0 then [pTemplate.tpl] else []

theorem AddedFingerprint.takenOver_of_ne {added : AddedFingerprint} (h : added.status ≠ 0)
    (tpl : Template) : added.takenOver tpl = [] := if_neg h

theorem AddedFingerprint.takenOver_of_zero {added : AddedFingerprint} (h : added.status = 0)
    (tpl : Template) : added.takenOver tpl = [tpl.tpl] := if_pos h

/-- The template that is given is the database's afterwards when the call succeeds, and stays the
caller's when it does not. -/
theorem fpcDbAddFingerprint_owns {pDb : Option FingerprintDatabase} (env : DbEnv) (key : UInt32)
    (user : UInt64) (tpl : Template) (hheld : OnlyValidHold pDb) :
    Owns (↑(blocks pDb) + ↑((fpcDbAddFingerprint env pDb key user tpl).takenOver tpl))
      (fpcDbAddFingerprintOps env pDb key)
      ↑(blocks (fpcDbAddFingerprint env pDb key user tpl).pDb) := by
  rcases pDb with _ | db
  · exact .nil 0
  · unfold fpcDbAddFingerprint fpcDbAddFingerprintOps
    dsimp only
    rcases hset : setForKey env db key with code | set
    · dsimp only
      rw [AddedFingerprint.takenOver_of_ne (setForKey_error hset), List.append_nil,
        Multiset.coe_nil, add_zero]
      exact setForKey_owns_error hset
    · dsimp only
      have hmade := (setForKey_owns hset).trans
        (lookOps_owns (some { db with pFingerprintSet := some set }))
      have hheld' := setForKey_held hheld hset
      split
      · -- no slot is free
        exact (hmade.frame 0).congr rfl (add_zero _)
      · next i hi =>
        obtain ⟨hlt, hfree, _⟩ := List.findIdx?_eq_some_iff_getElem.mp hi
        have hold := List.getElem?_eq_getElem hlt
        have hempty := hheld'.blocks_eq_nil (List.getElem_mem hlt) (beq_iff_eq.mp hfree)
        have hwritten (new : Fingerprint) := @blocks_set { db with pFingerprintSet := some set } set
          i _ new (set.aFingerprintList.setIfInBounds i new) rfl hold Vector.toList_setIfInBounds
        simp only [hempty, Multiset.coe_nil, add_zero] at hwritten
        split
        · -- the id of the finger was drawn into a slot that stays free
          apply (hmade.frame 0).congr rfl
          rw [hwritten, List.getD_eq_getElem _ _ hlt]
          exact congrArg _ (congrArg _ hempty.symm)
        · apply (hmade.frame ↑[tpl.tpl]).congr rfl
          rw [blocks_dbUpdateFingerprintStateId, blocks_dbUpdateDatabaseId, hwritten]
          rfl

theorem fpcDbAddFingerprint_held {pDb : Option FingerprintDatabase} (env : DbEnv) (key : UInt32)
    (user : UInt64) (tpl : Template) (hheld : OnlyValidHold pDb) :
    OnlyValidHold (fpcDbAddFingerprint env pDb key user tpl).pDb := by
  rcases pDb with _ | db
  · exact hheld
  · unfold fpcDbAddFingerprint
    dsimp only
    rcases hset : setForKey env db key with code | set
    · exact hheld
    · dsimp only
      have hheld' := setForKey_held hheld hset
      split
      · exact hheld'
      · next i hi =>
        obtain ⟨hlt, hfree, _⟩ := List.findIdx?_eq_some_iff_getElem.mp hi
        split
        · apply hheld'.set rfl _ Vector.toList_setIfInBounds
          rw [List.getD_eq_getElem _ _ hlt]
          exact hheld' set.aFingerprintList.toList[i] (List.getElem_mem hlt)
        · have hadded : OnlyValidHold (some { db with pFingerprintSet := some (set.withSlots
              (set.aFingerprintList.setIfInBounds i (Fingerprint.enrolledWith
                (env.random256 .fingerprintId).2 user tpl))) }) :=
            hheld'.set rfl (fun _ => rfl) Vector.toList_setIfInBounds
          apply hadded.congr
          rw [slots_dbUpdateFingerprintStateId, slots_dbUpdateDatabaseId]

/-! ## Deleting -/

/-- A block is overwritten and freed. -/
def wipeOps (a : Addr) : List HeapOp := [.use a, .free a]

/-- `fpc_db_delete_set` -/
def fpcDbDeleteSetOps (pDb : Option FingerprintDatabase) (fingerprintSetKey : UInt32) :
    List HeapOp :=
  lookOps pDb ++
    match fpcDbGetSet pDb fingerprintSetKey with
    | .ok set => (setBlocks (some set)).flatMap wipeOps
    | .error _ => []

/-- `fpc_db_delete_fingerprint` -/
def fpcDbDeleteFingerprintOps (pDb : Option FingerprintDatabase) (fingerprintSetKey : UInt32)
    (index : Nat) : List HeapOp :=
  if h : index < fpcDbFingerprintsInSet then
    lookOps pDb ++
      match fpcDbGetSet pDb fingerprintSetKey with
      | .ok set =>
          let finger := set.aFingerprintList[index]
          let set := set.withSlots (set.aFingerprintList.set index finger.wiped)
          let pDb := pDb.map fun db => { db with pFingerprintSet := some set }
          finger.blocks.flatMap wipeOps ++
            if dbCountFingersInSet set = 0 then fpcDbDeleteSetOps pDb fingerprintSetKey else []
      | .error _ => []
  else []

/-- Blocks are wiped, one after the other. Induction on the blocks. -/
theorem wipes_owns (l : List Addr) (A : Multiset Addr) :
    Owns ((l : Multiset Addr) + A) (l.flatMap wipeOps) A := by
  induction l with
  | nil => simpa using Owns.nil A
  | cons a l ih =>
    rw [List.flatMap_cons, ← Multiset.cons_coe, Multiset.cons_add]
    exact ((Owns.use (Multiset.mem_cons_self a _)).trans (.free a _)).trans ih

theorem fpcDbDeleteSet_owns (pDb : Option FingerprintDatabase) (key : UInt32) :
    Owns ↑(blocks pDb) (fpcDbDeleteSetOps pDb key) ↑(blocks (fpcDbDeleteSet pDb key).2) := by
  apply (lookOps_owns pDb).trans
  unfold fpcDbDeleteSet
  rcases hget : fpcDbGetSet pDb key with code | set
  · exact .nil _
  · obtain ⟨db, rfl, hset, _⟩ := fpcDbGetSet_ok hget
    apply (wipes_owns (setBlocks (some set)) ↑[db.addr]).congr _ rfl
    rw [Multiset.coe_add, blocks, hset]

/-- The finger's template is freed, and with the last finger the set. -/
theorem fpcDbDeleteFingerprint_owns (pDb : Option FingerprintDatabase) (key : UInt32)
    (index : Nat) :
    Owns ↑(blocks pDb) (fpcDbDeleteFingerprintOps pDb key index)
      ↑(blocks (fpcDbDeleteFingerprint pDb key index).2) := by
  unfold fpcDbDeleteFingerprint fpcDbDeleteFingerprintOps
  split
  · next hlt =>
    apply (lookOps_owns pDb).trans
    rcases hget : fpcDbGetSet pDb key with code | set
    · exact .nil _
    · obtain ⟨db, rfl, hset, _⟩ := fpcDbGetSet_ok hget
      dsimp only [Option.map_some]
      have hold : set.aFingerprintList.toList[index]? = some set.aFingerprintList[index] := by
        simp [hlt]
      have hwritten := blocks_set hset hold
        (Vector.toList_set hlt (x := set.aFingerprintList[index].wiped))
      have hwiped : Owns ↑(blocks (some db)) (set.aFingerprintList[index].blocks.flatMap wipeOps)
          ↑(blocks (some { db with pFingerprintSet := some (set.withSlots
            (set.aFingerprintList.set index set.aFingerprintList[index].wiped)) })) := by
        apply (wipes_owns set.aFingerprintList[index].blocks _).congr _ rfl
        rw [add_comm, hwritten]
        exact add_zero _
      apply hwiped.trans
      split
      · exact fpcDbDeleteSet_owns _ key
      · exact .nil _
  · exact .nil _

theorem fpcDbDeleteSet_held {pDb : Option FingerprintDatabase} (key : UInt32)
    (hheld : OnlyValidHold pDb) : OnlyValidHold (fpcDbDeleteSet pDb key).2 := by
  unfold fpcDbDeleteSet
  rcases hget : fpcDbGetSet pDb key with code | set
  · exact hheld
  · obtain ⟨db, rfl, _, _⟩ := fpcDbGetSet_ok hget
    intro f hf
    cases hf

theorem fpcDbDeleteFingerprint_held {pDb : Option FingerprintDatabase} (key : UInt32)
    (index : Nat) (hheld : OnlyValidHold pDb) :
    OnlyValidHold (fpcDbDeleteFingerprint pDb key index).2 := by
  unfold fpcDbDeleteFingerprint
  split
  · next hlt =>
    rcases hget : fpcDbGetSet pDb key with code | set
    · exact hheld
    · obtain ⟨db, rfl, hset, _⟩ := fpcDbGetSet_ok hget
      dsimp only [Option.map_some]
      have hwiped : OnlyValidHold (some { db with pFingerprintSet := some (set.withSlots
          (set.aFingerprintList.set index set.aFingerprintList[index].wiped)) }) := by
        apply hheld.set hset _ (Vector.toList_set hlt)
        intro hnone
        cases hnone
      split
      · exact fpcDbDeleteSet_held key hwiped
      · exact hwiped
  · exact hheld

end Fpc
