import Fingerprints.Ta.HeapOps

/-!
# The buffers of the file and the blob module

The file module has a buffer for the packed database while a command runs. The blob module has one
for the packed database while it opens a transfer to the outside, and the buffer of the transfer,
which stays while the transfer is open: beside the list of what they do to the heap, its functions
have the pointer `transfer.data` that they leave.

* **`fpcTaLoadDbFromFile_takes`**: the old database is destroyed before a new one is made.
* **`fpcTaDbOpen_takes`**: every exit of OPEN frees the packed database, and the buffer of the
  transfer when there was an error.
* **`unwrap_takes`**: a database that decodes takes the place of the old one, whose blocks are then
  nobody's.
-/

namespace Fpc

open Wire Wire.Outcome Ledger

/-- The addresses that a command gets for its buffers, where it gets them: for the packed database
of the file module, and for `unwrapped_data` and `transfer.data` of the blob module. -/
structure Buffers where
  dbData : Addr
  unwrappedData : Addr
  transferData : Addr
  deriving DecidableEq, Repr

/-! ## The file module -/

/-- `fpc_ta_load_db_from_file` -/
def fpcTaLoadDbFromFileOps (env : Env) (bio : Bio) (buffers : Buffers) : List HeapOp :=
  let (filesizeStatus, fileSize) := env.fs.getFilesize
  fpcDbDestroyOps bio.userDb ++
    if -filesizeStatus.toInt ≠ 0 then []
    else if fileSize = 0 then []
    else if !env.fs.malloc then []
    else
      let (status, contents) := env.fs.read
      let data := (ofList fileSize.toNat 0 contents).toList
      [.malloc buffers.dbData, .use buffers.dbData] ++
        (if status < 0 then []
        else if status.toUInt32 ≠ fileSize then []
        else [.use buffers.dbData] ++ fpcDbCreateOps env.db (some data) fileSize.toNat) ++
        [.free buffers.dbData]

/-- `fpc_ta_store_db_to_file` -/
def fpcTaStoreDbToFileOps (env : Env) (bio : Bio) (buffers : Buffers) : List HeapOp :=
  lookOps bio.userDb ++
    match getDataSize bio.userDb with
    | .ok sizeDb =>
        if sizeDb = 0 then []
        else if !env.fs.malloc then []
        else
          [.malloc buffers.dbData] ++ packOps bio.userDb ++ [.use buffers.dbData] ++
            [.free buffers.dbData]
    | _ => []

/-- The switch of `fpc_ta_fs_handler`. -/
def fsOps (env : Env) (ta : Ta) (msg : List UInt8) (buffers : Buffers) (cmd : FsCmd) :
    List HeapOp :=
  if byteArrayStringValid msg = .ok true then
    match cmd with
    | .loadDb => fpcTaLoadDbFromFileOps env ta.bio buffers
    | .storeDb => fpcTaStoreDbToFileOps env ta.bio buffers
  else []

section

variable {env : Env} {bio : Bio} {buffers : Buffers} {pDb pDb' : Option FingerprintDatabase}
  {ops : List HeapOp}

/-- Another block stays where it is. -/
theorem TakesDb.beside (a : Addr) (h : TakesDb pDb ops pDb') :
    Owns (a ::ₘ ↑(blocks pDb)) ops (a ::ₘ ↑(blocks pDb')) := by
  have hframe := h.owns.frame {a}
  rwa [add_comm, Multiset.singleton_add, add_comm, Multiset.singleton_add] at hframe

/-- A buffer that is there while a function runs. -/
theorem owns_withBuffer {a : Addr} {A B : Multiset Addr} (h : Owns (a ::ₘ A) ops (a ::ₘ B)) :
    Owns A ([.malloc a, .use a] ++ ops ++ [.free a]) B := by
  have hmade : Owns A [.malloc a, .use a] (a ::ₘ A) :=
    (Owns.malloc a A).trans (.use (Multiset.mem_cons_self a A))
  exact (hmade.trans h).trans (.free a B)

theorem destroy_takes (pDb : Option FingerprintDatabase) :
    TakesDb pDb (fpcDbDestroyOps pDb) none := ⟨fpcDbDestroy_owns pDb, onlyValidHold_none⟩

/-- The old database is destroyed; what is made then is the new one. -/
theorem fpcTaLoadDbFromFile_takes {status : Int}
    (h : fpcTaLoadDbFromFile env = .ok (status, pDb')) :
    TakesDb bio.userDb (fpcTaLoadDbFromFileOps env bio buffers) pDb' := by
  have hnone : TakesDb none [] none := .refl onlyValidHold_none
  unfold fpcTaLoadDbFromFileOps
  apply (destroy_takes bio.userDb).trans
  unfold fpcTaLoadDbFromFile at h
  dsimp only at h ⊢
  by_cases hstatus : -env.fs.getFilesize.1.toInt ≠ 0
  · rw [if_pos hstatus] at h ⊢
    cases h
    exact hnone
  · rw [if_neg hstatus] at h ⊢
    by_cases hsize : env.fs.getFilesize.2 = 0
    · rw [if_pos hsize] at h ⊢
      cases h
      exact hnone
    · rw [if_neg hsize] at h ⊢
      by_cases hmalloc : (!env.fs.malloc) = true
      · rw [if_pos hmalloc] at h ⊢
        cases h
        exact hnone
      · rw [if_neg hmalloc] at h ⊢
        by_cases hread : env.fs.read.1 < 0
        · rw [if_pos hread] at h ⊢
          cases h
          exact ⟨owns_withBuffer (hnone.beside _), onlyValidHold_none⟩
        · rw [if_neg hread] at h ⊢
          by_cases hshort : env.fs.read.1.toUInt32 ≠ env.fs.getFilesize.2
          · rw [if_pos hshort] at h ⊢
            cases h
            exact ⟨owns_withBuffer (hnone.beside _), onlyValidHold_none⟩
          · rw [if_neg hshort] at h ⊢
            have hcreated : TakesDb none (fpcDbCreateOps env.db
                (some (ofList env.fs.getFilesize.2.toNat 0 env.fs.read.2).toList)
                env.fs.getFilesize.2.toNat) pDb' := by
              apply create_takes
              cases hcreate : fpcDbCreate env.db
                  (some (ofList env.fs.getFilesize.2.toNat 0 env.fs.read.2).toList)
                  env.fs.getFilesize.2.toNat with
              | fault f =>
                rw [hcreate] at h
                cases h
              | err code =>
                rw [hcreate] at h
                cases h
                exact Or.inr ⟨_, rfl, rfl⟩
              | ok db =>
                rw [hcreate] at h
                cases h
                exact Or.inl ⟨db, rfl, rfl⟩
            refine ⟨owns_withBuffer ?_, hcreated.held⟩
            exact (Owns.use (Multiset.mem_cons_self _ _)).trans (hcreated.beside _)

theorem fpcTaStoreDbToFile_takes (hheld : OnlyValidHold bio.userDb) :
    TakesDb bio.userDb (fpcTaStoreDbToFileOps env bio buffers) bio.userDb := by
  unfold fpcTaStoreDbToFileOps
  apply (TakesDb.look hheld).trans
  split
  · split
    · exact .refl hheld
    · split
      · exact .refl hheld
      · have hmade : Owns (↑(blocks bio.userDb)) [.malloc buffers.dbData]
            (buffers.dbData ::ₘ ↑(blocks bio.userDb)) := .malloc _ _
        have hpacked : TakesDb bio.userDb (packOps bio.userDb) bio.userDb :=
          ⟨packOps_owns bio.userDb, hheld⟩
        have hwritten := (hmade.trans (hpacked.beside _)).trans (.use (Multiset.mem_cons_self _ _))
        exact ⟨hwritten.trans (.free _ _), hheld⟩
  · exact .refl hheld

/-- The commands of the file module take the blocks of the database to those of the one they
leave. -/
theorem fsSwitch_takes {ta : Ta} {msg : List UInt8} {cmd : FsCmd} {r : Handled}
    (hheld : OnlyValidHold ta.bio.userDb) (h : fsSwitch env ta msg cmd = .ok r) :
    TakesDb ta.bio.userDb (fsOps env ta msg buffers cmd) r.ta.bio.userDb := by
  unfold fsOps
  cases cmd with
  | loadDb =>
    obtain ⟨valid, hvalid, h⟩ := bind_eq_ok.mp h
    cases valid with
    | false =>
      cases h
      rw [hvalid]
      exact .refl hheld
    | true =>
      obtain ⟨⟨response, userDb⟩, hload, h⟩ := bind_eq_ok.mp h
      obtain ⟨_, _, h⟩ := bind_eq_ok.mp h
      cases h
      rw [if_pos hvalid]
      exact fpcTaLoadDbFromFile_takes hload
  | storeDb =>
    obtain ⟨valid, hvalid, h⟩ := bind_eq_ok.mp h
    cases valid with
    | false =>
      cases h
      rw [hvalid]
      exact .refl hheld
    | true =>
      obtain ⟨response, _, h⟩ := bind_eq_ok.mp h
      obtain ⟨_, _, h⟩ := bind_eq_ok.mp h
      cases h
      rw [if_pos hvalid]
      exact fpcTaStoreDbToFile_takes hheld

end

/-! ## The blob module -/

/-- What a function of the blob module does to the heap, and the pointer `transfer.data` that it
leaves. -/
abbrev BufferHeap := List HeapOp × Option Addr

/-- `fpc_ta_db_close` -/
def fpcTaDbCloseOps (data : Option Addr) : List HeapOp := data.toList.map .free

/-- The exit of `fpc_ta_db_open`, after what it did before. -/
def openExitHeap (ops : List HeapOp) (result : Int) (unwrappedData data : Option Addr) :
    BufferHeap :=
  let ops := ops ++ unwrappedData.toList.map .free
  if result < 0 then (ops ++ fpcTaDbCloseOps data, none) else (ops, data)

/-- The read branch of `fpc_ta_db_open`. -/
def openRdonlyHeap (P : Platform) (env : Env) (bio : Bio) (buffers : Buffers)
    (data : Option Addr) : BufferHeap :=
  let looked := lookOps bio.userDb
  match getDataSize bio.userDb with
  | .fault _ => (looked, data)
  | .err _ => openExitHeap looked (-fpcErrorIo) none data
  | .ok unwrappedDataSize =>
      if unwrappedDataSize = 0 then openExitHeap looked (-fpcErrorIo) none data
      else if !env.blob.mallocUnwrapped then openExitHeap looked (-fpcErrorAlloc) none data
      else
        let unwrappedData := some buffers.unwrappedData
        let allocated := looked ++ [.malloc buffers.unwrappedData]
        let wrappedSize := P.getWrappedSize (UInt32.ofNat unwrappedDataSize)
        if !env.blob.mallocData then openExitHeap allocated (-fpcErrorAlloc) unwrappedData none
        else
          let data := some buffers.transferData
          let packed := allocated ++ [.malloc buffers.transferData] ++ packOps bio.userDb ++
            [.use buffers.unwrappedData]
          match getData bio.userDb (List.replicate unwrappedDataSize 0) unwrappedDataSize with
          | .fault _ => (packed, data)
          | .err _ => openExitHeap packed (-fpcErrorIo) unwrappedData data
          | .ok bytes =>
              let wrapped := env.wrapCrypto bytes
              let ops := packed ++ [.use buffers.unwrappedData, .use buffers.transferData]
              if wrapped.status < 0 then openExitHeap ops wrapped.status.toInt unwrappedData data
              else if wrapped.size ≠ wrappedSize then
                openExitHeap ops (-fpcErrorIo) unwrappedData data
              else openExitHeap ops wrapped.status.toInt unwrappedData data

/-- `fpc_ta_db_open` -/
def fpcTaDbOpenHeap (P : Platform) (env : Env) (bio : Bio) (transfer : Transfer)
    (buffers : Buffers) (data : Option Addr) (mode : UInt32) (size : Nat) : BufferHeap :=
  if transfer.mode ≠ -1 then ([], data)
  else if size = 0 ∨ size > fpcTaMaxTransfer then ([], data)
  else if mode.toNat = fpcTaBioDbWronly then
    if !env.blob.mallocData then ([], none)
    else ([.malloc buffers.transferData], some buffers.transferData)
  else if mode.toNat = fpcTaBioDbRdonly then openRdonlyHeap P env bio buffers data
  else openExitHeap [] (-fpcErrorInput) none data

/-- `unwrap`: the buffer is decrypted in place, and decoded. -/
def unwrapOps (env : Env) (transfer : Transfer) (data : Option Addr) : List HeapOp :=
  let unwrapped := fpcUnwrapCrypto env (transfer.data.getD [])
  data.toList.map .use ++
    if unwrapped.status < 0 then []
    else
      data.toList.map .use ++
        fpcDbCreateOps env.db (some unwrapped.data) unwrapped.data.length

/-- `fpc_ta_db_write` -/
def fpcTaDbWriteOps (env : Env) (transfer : Transfer) (data : Option Addr) (msg : List UInt8)
    (size : Nat) : List HeapOp :=
  if transfer.mode ≠ fpcTaBioDbWronly then []
  else if size = 0 ∨ transfer.remaining = 0 then []
  else
    data.toList.map .use ++
      match dbWriteCopy transfer msg size with
      | .ok transfer => if transfer.remaining = 0 then unwrapOps env transfer data else []
      | _ => []

/-- `fpc_ta_db_read` -/
def fpcTaDbReadOps (transfer : Transfer) (data : Option Addr) (size : Nat) : List HeapOp :=
  if size = 0 ∨ transfer.mode ≠ fpcTaBioDbRdonly ∨ transfer.remaining = 0 then []
  else data.toList.map .use

/-- The switch of `fpc_ta_db_blob_handler`. -/
def dbBlobHeap (P : Platform) (env : Env) (ta : Ta) (msg : List UInt8) (buffers : Buffers)
    (data : Option Addr) : DbBlobCmd → BufferHeap
  | .getDbSize => (lookOps ta.bio.userDb, data)
  | .dbOpen =>
      fpcTaDbOpenHeap P env ta.bio ta.transfer buffers data (field32 msg offDbOpenMode)
        (field32 msg offDbOpenSize).toNat
  | .dbClose => (fpcTaDbCloseOps data, none)
  | .dbRead =>
      (if byteArrayValid msg = .ok true then
        fpcTaDbReadOps ta.transfer data (field32 msg offSize).toNat
      else [], data)
  | .dbWrite =>
      (if byteArrayValid msg = .ok true then
        fpcTaDbWriteOps env ta.transfer data msg (field32 msg offSize).toNat
      else [], data)

/-! ## Opening a transfer -/

/-- The operations take the database and the buffer of a transfer to the same database and the
buffer they leave, which is there when the transfer says so. -/
structure TakesBuffer (pDb : Option FingerprintDatabase) (data : Option Addr) (made : BufferHeap)
    (transfer : Transfer) : Prop where
  owns : Owns (↑(blocks pDb) + ↑data.toList) made.1 (↑(blocks pDb) + ↑made.2.toList)
  points : made.2.isSome = transfer.data.isSome

section

variable {P : Platform} {env : Env} {bio : Bio} {buffers : Buffers}
  {pDb : Option FingerprintDatabase} {transfer transfer' : Transfer} {ops : List HeapOp}
  {unwrappedData data : Option Addr}

/-- The exit of OPEN frees the packed database, and the buffer of the transfer when there was an
error. -/
theorem openExit_takes {start : Option Addr} {result status : Int}
    (h : Owns (↑(blocks pDb) + ↑start.toList) ops
      (↑unwrappedData.toList + (↑data.toList + ↑(blocks pDb))))
    (hpoints : data.isSome = transfer.data.isSome)
    (hexit : Outcome.ok (openExit result transfer) = .ok (status, transfer')) :
    TakesBuffer pDb start (openExitHeap ops result unwrappedData data) transfer' := by
  have hfreed := h.trans (Owns.frees unwrappedData.toList (↑data.toList + ↑(blocks pDb)))
  injection hexit with hexit
  unfold openExitHeap
  unfold openExit at hexit
  by_cases herror : result < 0
  · rw [if_pos herror] at hexit ⊢
    cases hexit
    refine ⟨?_, rfl⟩
    have hclosed := hfreed.trans (Owns.frees data.toList (↑(blocks pDb)))
    exact hclosed.congr rfl (add_zero _).symm
  · rw [if_neg herror] at hexit ⊢
    cases hexit
    exact ⟨hfreed.congr rfl (add_comm _ _), hpoints⟩

/-- The read branch, from a transfer that is not open. -/
theorem openRdonly_takes {result : Int} (hdata : transfer.data = none)
    (h : openRdonly P env bio transfer = .ok (result, transfer')) :
    TakesBuffer bio.userDb none (openRdonlyHeap P env bio buffers none) transfer' := by
  have hpoints : (none : Option Addr).isSome = transfer.data.isSome := by
    rw [hdata]
    rfl
  have hlooked : Owns (↑(blocks bio.userDb) + ↑(none : Option Addr).toList) (lookOps bio.userDb)
      (↑(none : Option Addr).toList +
        (↑(none : Option Addr).toList + ↑(blocks bio.userDb))) := by
    simpa using lookOps_owns bio.userDb
  unfold openRdonlyHeap
  unfold openRdonly at h
  dsimp only at h ⊢
  cases hsize : getDataSize bio.userDb with
  | fault f =>
    rw [hsize] at h
    cases h
  | err code =>
    rw [hsize] at h
    exact openExit_takes hlooked hpoints h
  | ok n =>
    rw [hsize] at h
    dsimp only at h ⊢
    by_cases hzero : n = 0
    · rw [if_pos hzero] at h ⊢
      exact openExit_takes hlooked hpoints h
    · rw [if_neg hzero] at h ⊢
      by_cases hunwrapped : (!env.blob.mallocUnwrapped) = true
      · rw [if_pos hunwrapped] at h ⊢
        exact openExit_takes hlooked hpoints h
      · rw [if_neg hunwrapped] at h ⊢
        have hallocated : Owns (↑(blocks bio.userDb) + ↑(none : Option Addr).toList)
            (lookOps bio.userDb ++ [.malloc buffers.unwrappedData])
            (buffers.unwrappedData ::ₘ ↑(blocks bio.userDb)) := by
          simpa using (lookOps_owns bio.userDb).trans (.malloc buffers.unwrappedData _)
        by_cases hmalloc : (!env.blob.mallocData) = true
        · rw [if_pos hmalloc] at h ⊢
          exact openExit_takes (hallocated.congr rfl (by simp)) hpoints h
        · rw [if_neg hmalloc] at h ⊢
          have hboth := hallocated.trans (.malloc buffers.transferData _)
          have hpacks : Owns (buffers.transferData ::ₘ buffers.unwrappedData ::ₘ
              ↑(blocks bio.userDb)) (packOps bio.userDb)
              (buffers.transferData ::ₘ buffers.unwrappedData ::ₘ ↑(blocks bio.userDb)) := by
            have hframe := (packOps_owns bio.userDb).frame
              {buffers.transferData, buffers.unwrappedData}
            exact hframe.congr (add_comm _ _) (add_comm _ _)
          have hpacked := (hboth.trans hpacks).trans (.use (a := buffers.unwrappedData) (by simp))
          have hwrapped := hpacked.trans ((Owns.use (a := buffers.unwrappedData) (by simp)).trans
            (Owns.use (a := buffers.transferData) (by simp)))
          have hshape : buffers.transferData ::ₘ buffers.unwrappedData ::ₘ ↑(blocks bio.userDb)
              = (↑(some buffers.unwrappedData).toList +
                (↑(some buffers.transferData).toList + ↑(blocks bio.userDb)) :
                  Multiset Addr) := by
            rw [Multiset.cons_swap]
            rfl
          cases hgot : getData bio.userDb (List.replicate n 0) n with
          | fault f =>
            rw [hgot] at h
            cases h
          | err code =>
            rw [hgot] at h
            exact openExit_takes (hpacked.congr rfl hshape) rfl h
          | ok bytes =>
            rw [hgot] at h
            dsimp only at h ⊢
            split at h
            · next hstatus =>
              rw [if_pos hstatus]
              exact openExit_takes (hwrapped.congr rfl hshape) rfl h
            · next hstatus =>
              rw [if_neg hstatus]
              split at h
              · next hwrong =>
                rw [if_pos hwrong]
                exact openExit_takes (hwrapped.congr rfl hshape) rfl h
              · next hright =>
                rw [if_neg hright]
                exact openExit_takes (hwrapped.congr rfl hshape) rfl h

/-- Nothing is done, and nothing changes. -/
theorem TakesBuffer.refl (h : data.isSome = transfer.data.isSome) :
    TakesBuffer pDb data ([], data) transfer := ⟨.nil _, h⟩

/-- The buffer of a transfer is allocated where there is none. -/
theorem fpcTaDbOpen_takes {mode : UInt32} {size : Nat} {result : Int} (hinv : transfer.Inv)
    (hpoints : data.isSome = transfer.data.isSome)
    (h : fpcTaDbOpen P env bio transfer mode size = .ok (result, transfer')) :
    TakesBuffer bio.userDb data (fpcTaDbOpenHeap P env bio transfer buffers data mode size)
      transfer' := by
  unfold fpcTaDbOpenHeap
  unfold fpcTaDbOpen at h
  by_cases hmode : transfer.mode ≠ -1
  · rw [if_pos hmode] at h ⊢
    cases h
    exact .refl hpoints
  · rw [if_neg hmode] at h ⊢
    -- the transfer is closed, so that there is no buffer
    have hclosed := hinv.eq_closed (not_not.mp hmode)
    have hnone : data = none := by
      rw [hclosed] at hpoints
      exact Option.not_isSome_iff_eq_none.mp (Bool.eq_false_iff.mp hpoints)
    subst hnone
    by_cases hsize : size = 0 ∨ size > fpcTaMaxTransfer
    · rw [if_pos hsize] at h ⊢
      cases h
      exact .refl hpoints
    · rw [if_neg hsize] at h ⊢
      by_cases hwronly : mode.toNat = fpcTaBioDbWronly
      · rw [if_pos hwronly] at h ⊢
        by_cases hmalloc : (!env.blob.mallocData) = true
        · rw [if_pos hmalloc] at h ⊢
          cases h
          exact ⟨.nil _, rfl⟩
        · rw [if_neg hmalloc] at h ⊢
          cases h
          refine ⟨?_, rfl⟩
          have hmade : Owns (↑(blocks bio.userDb)) [.malloc buffers.transferData]
              (buffers.transferData ::ₘ ↑(blocks bio.userDb)) := .malloc _ _
          exact hmade.congr (add_zero _).symm (by rw [add_comm]; rfl)
      · rw [if_neg hwronly] at h ⊢
        by_cases hrdonly : mode.toNat = fpcTaBioDbRdonly
        · rw [if_pos hrdonly] at h ⊢
          exact openRdonly_takes (by rw [hclosed]; rfl) h
        · rw [if_neg hrdonly] at h ⊢
          exact openExit_takes ((Owns.nil _).congr rfl (by simp)) hpoints h

/-! ## Reading and writing -/

/-- The buffer is looked into. -/
theorem buffer_uses (pDb : Option FingerprintDatabase) (data : Option Addr) :
    Owns (↑(blocks pDb) + ↑data.toList) (data.toList.map .use) (↑(blocks pDb) + ↑data.toList) := by
  apply Owns.uses
  intro a ha
  exact Multiset.mem_add.mpr (Or.inr (Multiset.mem_coe.mpr ha))

theorem fpcTaDbRead_takes {msg msg' : List UInt8} {size : Nat} {result : Int}
    (hpoints : data.isSome = transfer.data.isSome)
    (h : ReadEffect transfer msg size result transfer' msg') :
    TakesBuffer pDb data (fpcTaDbReadOps transfer data size, data) transfer' := by
  unfold fpcTaDbReadOps
  cases h with
  | refused hrefused =>
    rw [if_pos hrefused]
    exact .refl hpoints
  | copied hsize hmode hremaining hdata =>
    rw [if_neg (by simp [hsize, hmode, hremaining])]
    exact ⟨buffer_uses pDb data, hpoints⟩

/-- A transfer from the outside, complete, holds a database: its bytes unwrap, and what they unwrap
to is decoded. -/
structure DecodesTransfer (env : Env) (transfer : Transfer) : Prop where
  unwraps : ¬ (fpcUnwrapCrypto env (transfer.data.getD [])).status < 0
  decodes : ∃ db, fpcDbCreate env.db (some (fpcUnwrapCrypto env (transfer.data.getD [])).data)
    (fpcUnwrapCrypto env (transfer.data.getD [])).data.length = .ok db

/-- The operations take the database to another one, beside the buffer of a transfer, and leave the
blocks `dropped` to nobody. -/
structure TakesDropping (pDb : Option FingerprintDatabase) (data : Option Addr)
    (ops : List HeapOp) (pDb' : Option FingerprintDatabase) (dropped : List Addr) : Prop where
  owns : Owns (↑(blocks pDb) + ↑data.toList) ops (↑(blocks pDb') + ↑data.toList + ↑dropped)
  held : OnlyValidHold pDb'

/-- Nothing is dropped where the database stays. -/
theorem TakesDropping.kept (hheld : OnlyValidHold pDb)
    (h : Owns (↑(blocks pDb) + ↑data.toList) ops (↑(blocks pDb) + ↑data.toList)) :
    TakesDropping pDb data ops pDb [] :=
  ⟨h.congr rfl (add_zero _).symm, hheld⟩

/-- The database that was there is nobody's once another one has been made. -/
theorem unwrap_takes {bio' : Bio} {result : Int} (data : Option Addr)
    (hheld : OnlyValidHold bio.userDb)
    (h : unwrap env bio transfer = .ok (result, bio', transfer')) :
    ∃ dropped, TakesDropping bio.userDb data (unwrapOps env transfer data) bio'.userDb dropped ∧
      (dropped = [] ↔ ¬ (DecodesTransfer env transfer ∧ bio.userDb ≠ none)) := by
  have huses := buffer_uses bio.userDb data
  unfold unwrapOps
  unfold unwrap at h
  dsimp only at h ⊢
  by_cases hstatus : (fpcUnwrapCrypto env (transfer.data.getD [])).status < 0
  · rw [if_pos hstatus] at h ⊢
    cases h
    refine ⟨[], .kept hheld (huses.trans (.nil _)), iff_of_true rfl ?_⟩
    rintro ⟨hdecodes, _⟩
    exact hdecodes.unwraps hstatus
  · rw [if_neg hstatus] at h ⊢
    cases hcreate : fpcDbCreate env.db (some (fpcUnwrapCrypto env (transfer.data.getD [])).data)
        (fpcUnwrapCrypto env (transfer.data.getD [])).data.length with
    | fault f =>
      rw [hcreate] at h
      cases h
    | err code =>
      rw [hcreate] at h
      cases h
      refine ⟨[], .kept hheld (huses.trans (huses.trans (fpcDbCreate_owns_err hcreate _))),
        iff_of_true rfl ?_⟩
      rintro ⟨hdecodes, _⟩
      obtain ⟨db, hdb⟩ := hdecodes.decodes
      rw [hcreate] at hdb
      cases hdb
    | ok db =>
      rw [hcreate] at h
      cases h
      refine ⟨blocks bio.userDb, ⟨?_, fpcDbCreate_held hcreate⟩, ?_⟩
      · have hmade := huses.trans (huses.trans (fpcDbCreate_owns hcreate _))
        apply hmade.congr rfl
        rw [add_comm (↑(blocks bio.userDb) : Multiset Addr), add_assoc]
      · have hdecodes : DecodesTransfer env transfer := ⟨hstatus, db, hcreate⟩
        rw [blocks_eq_nil_iff]
        simp [hdecodes]

/-- The WRITE that brings the last bytes unwraps them. -/
structure CompletesTransfer (transfer : Transfer) (size : Nat) : Prop where
  mode : transfer.mode = fpcTaBioDbWronly
  nonempty : size ≠ 0
  remaining : transfer.remaining ≠ 0
  last : transfer.remaining ≤ size

theorem fpcTaDbWrite_takes {bio' : Bio} {msg : List UInt8} {size : Nat} {result : Int}
    (hheld : OnlyValidHold bio.userDb) (hpoints : data.isSome = transfer.data.isSome)
    (h : fpcTaDbWrite env bio transfer msg size = .ok (result, bio', transfer')) :
    ∃ dropped, TakesDropping bio.userDb data (fpcTaDbWriteOps env transfer data msg size)
        bio'.userDb dropped ∧
      (dropped = [] ↔ ¬ (CompletesTransfer transfer size ∧
        DecodesTransfer env (transfer.take (transfer.data.getD []) msg size) ∧
        bio.userDb ≠ none)) ∧
      data.isSome = transfer'.data.isSome := by
  unfold fpcTaDbWriteOps
  unfold fpcTaDbWrite at h
  by_cases hmode : transfer.mode ≠ fpcTaBioDbWronly
  · rw [if_pos hmode] at h ⊢
    cases h
    refine ⟨[], .kept hheld (.nil _), iff_of_true rfl ?_, hpoints⟩
    rintro ⟨hcompletes, _⟩
    exact hmode hcompletes.mode
  · rw [if_neg hmode] at h ⊢
    by_cases hrefused : size = 0 ∨ transfer.remaining = 0
    · rw [if_pos hrefused] at h ⊢
      cases h
      refine ⟨[], .kept hheld (.nil _), iff_of_true rfl ?_, hpoints⟩
      rintro ⟨hcompletes, _⟩
      exact hrefused.elim hcompletes.nonempty hcompletes.remaining
    · rw [if_neg hrefused] at h ⊢
      obtain ⟨moved, hcopy, h⟩ := bind_eq_ok.mp h
      obtain ⟨bytes, hdata, rfl⟩ := dbWriteCopy_ok hcopy
      have huses := buffer_uses bio.userDb data
      have hmoved : (transfer.take bytes msg size).remaining
          = transfer.remaining - min transfer.remaining size := rfl
      rw [hcopy]
      dsimp only at h ⊢
      by_cases hlast : (transfer.take bytes msg size).remaining = 0
      · rw [if_pos hlast] at h ⊢
        obtain ⟨dropped, htakes, hdropped⟩ := unwrap_takes data hheld h
        rw [not_or] at hrefused
        have hcompletes : CompletesTransfer transfer size :=
          ⟨not_not.mp hmode, hrefused.1, hrefused.2, by omega⟩
        refine ⟨dropped, ⟨huses.trans htakes.owns, htakes.held⟩, ?_, ?_⟩
        · rw [hdropped, hdata, Option.getD_some]
          simp [hcompletes]
        · rw [unwrap_transfer h, hpoints, hdata]
          rfl
      · rw [if_neg hlast] at h ⊢
        cases h
        refine ⟨[], .kept hheld (huses.trans (.nil _)), iff_of_true rfl ?_, ?_⟩
        · rintro ⟨hcompletes, _⟩
          have hle := hcompletes.last
          omega
        · rw [hpoints, hdata]
          rfl

end

end Fpc
