import Fingerprints.Tac.Chunks

/-!
# The size of a template database

Three limits meet when a template database is stored or loaded. The application takes transfers of
up to `fpcTaMaxTransfer` bytes, the client cuts them into chunks of `maxChunk` bytes, and
`fpc_tac_alloc_shared` of `fpc_ut_tac.c` hands out half a megabyte. The last one is the smallest: a
database of more than `largestBlob` bytes is opened and then never moved.
-/

namespace Fpc

open Wire Wire.Outcome

/-- The largest blob whose message `fpc_tac_alloc_shared` hands out. -/
def largestBlob : Nat := tkMemoryAllocateLimitBytes - sizeofResponse - sizeofBioCommand

@[simp] theorem length_malloc (bytes : List UInt8) (size : Nat) :
    (ofList size 0 bytes).toList.length = size :=
  Vector.length_toList

/-- A shared buffer is allocated whole. -/
theorem length_of_allocShared {alloc : SharedAlloc} {size : Nat} {shared : List UInt8}
    (hsize : size < 2 ^ 31)
    (h : (fpcTacAllocShared alloc size).map (List.take size) = some shared) :
    shared.length = size := by
  have hresponse : sizeofResponse = 4 := rfl
  have hwrap : wrap32 (size + sizeofResponse) = size + 4 := wrap32_of_lt (by omega)
  obtain ⟨whole, hwhole, rfl⟩ := Option.map_eq_some_iff.mp h
  unfold fpcTacAllocShared at hwhole
  dsimp only at hwhole
  rw [hwrap] at hwhole
  split at hwhole
  · cases hwhole
  · split at hwhole
    · cases hwhole
    · obtain ⟨memory, _, rfl⟩ := Option.map_eq_some_iff.mp hwhole
      rw [List.length_take, length_malloc]
      omega

section

variable {P : Platform} {alloc : SharedAlloc}

/-- The message of a chunk loop, where it fits. -/
theorem allocShared_fits {memory : List UInt8} {n : Nat} (hmapped : alloc.mapped = true)
    (haddr : alloc.addr = some memory) (hfits : n ≤ largestBlob) :
    ∃ shared, (fpcUtTac P alloc).allocShared (chunkMessageSize n) = some shared ∧
      shared.length = chunkMessageSize n := by
  have hlen : chunkMessageSize n + sizeofResponse ≤ tkMemoryAllocateLimitBytes := by
    unfold chunkMessageSize
    unfold largestBlob tkMemoryAllocateLimitBytes sizeofResponse sizeofBioCommand at hfits
    unfold tkMemoryAllocateLimitBytes sizeofResponse sizeofBioCommand
    omega
  have hwrap : wrap32 (chunkMessageSize n + sizeofResponse) = chunkMessageSize n + sizeofResponse :=
    wrap32_of_lt (lt_of_le_of_lt hlen (by decide))
  unfold fpcUtTac fpcTacAllocShared
  dsimp only
  rw [hwrap, if_neg (by omega), hmapped, Bool.not_true, if_neg Bool.false_ne_true, haddr]
  refine ⟨_, rfl, ?_⟩
  rw [List.length_take, length_malloc]
  omega

theorem allocShared_exceeds {n : Nat} (hexceeds : largestBlob < n) :
    (fpcUtTac P alloc).allocShared (chunkMessageSize n) = none := by
  have hlen : tkMemoryAllocateLimitBytes < chunkMessageSize n + sizeofResponse := by
    unfold chunkMessageSize maxChunk sizeofByteArrayMsg
    unfold largestBlob tkMemoryAllocateLimitBytes sizeofResponse sizeofBioCommand at hexceeds
    unfold tkMemoryAllocateLimitBytes sizeofResponse sizeofBioCommand
    omega
  have hwrap : wrap32 (chunkMessageSize n + sizeofResponse) = chunkMessageSize n + sizeofResponse := by
    apply wrap32_of_lt
    unfold chunkMessageSize maxChunk sizeofByteArrayMsg sizeofResponse sizeofBioCommand
    omega
  unfold fpcUtTac fpcTacAllocShared
  dsimp only
  rw [hwrap, if_pos hlen]
  rfl

end

/-! ## The calls of the client -/

section

variable {P : Platform} {tac : Tac} {sees : Int → Int} (envs : Nat → Env) {tee : Tee}

/-- `db_close` works at any time. -/
theorem dbClose_ok (hdelivers : tac.Delivers P sees)
    (hbuffer : sizeofBioCommand ≤ tee.sharedBuffer.length) :
    ∃ closed, dbClose tac envs tee = .ok (0, closed) ∧
      closed.ta = { tee.ta with transfer := .closed } := by
  obtain ⟨msg, hheader, hlen, htarget, hcommand⟩ := dbHeader_ok fpcTaBioDbCloseCmd hbuffer
  have hlong : sizeofBioCommand ≤ msg.length := by omega
  have hcmd : commandOf msg = some (.dbBlob .dbClose) :=
    commandOf_dbBlob hlong htarget hcommand (by decide)
  have hresponse : offResponse + 4 ≤ msg.length := by
    unfold sizeofBioCommand at hlong
    unfold offResponse
    omega
  have hload (x : UInt32) : load32 (put32 msg offResponse x) offResponse = .ok x := by
    rw [load32_eq (by rw [length_put32 hresponse]; exact hresponse), field32_put32 (by omega)]
  unfold dbClose
  rw [hheader, ok_bind, transferBuffer_dbBlob envs hdelivers hcmd, dbBlobSwitch]
  dsimp only [fpcTaDbClose]
  rw [store32_eq hresponse]
  simp only [ok_bind, hdelivers.zero, hload]
  exact ⟨_, rfl, rfl⟩

/-- So is that of `get_db_blob_size`, with a size of zero. -/
theorem getDbBlobSize_message (hbuffer : sizeofBioCommand ≤ tee.sharedBuffer.length) :
    ∃ sent, sent.length = tee.sharedBuffer.length ∧
      commandOf sent = some (.dbBlob .getDbSize) ∧ field32 sent offSize = 0 ∧
      ∀ tac envs, getDbBlobSize tac envs tee = (do
        let (status, tee) ← transferBuffer tac envs tee sent
        let blobSize ← load32 tee.sharedBuffer offSize
        let response ← load32 tee.sharedBuffer offResponse
        .ok (if status < 0 then status else toInt32 response, blobSize.toNat, tee)) := by
  obtain ⟨msg, hheader, hlen, htarget, hcommand⟩ := dbHeader_ok fpcTaBioGetDbSizeCmd hbuffer
  unfold sizeofBioCommand at hbuffer
  have hsize : offSize + 4 ≤ msg.length := by
    unfold offSize
    omega
  have h1 := length_put32 hsize 0
  refine ⟨put32 msg offSize 0, by rw [h1, hlen], ?_, field32_put32 (by omega) _, ?_⟩
  · apply @commandOf_dbBlob _ .getDbSize fpcTaBioGetDbSizeCmd
    · rw [h1, hlen]
      exact hbuffer
    · rw [field32_put32_of_disjoint hsize (Or.inl (by decide)), htarget]
    · rw [field32_put32_of_disjoint hsize (Or.inl (by decide)), hcommand]
    · decide
  · intro tac envs
    unfold getDbBlobSize
    rw [hheader, ok_bind, store32_eq hsize, ok_bind]

/-- `get_db_blob_size` returns what the application answers. -/
theorem getDbBlobSize_ok {blobSize : UInt32} (hdelivers : tac.Delivers P sees)
    (hbuffer : sizeofBioCommand ≤ tee.sharedBuffer.length)
    (hsize : fpcTaGetDbBlobSize P tee.ta.bio = .ok (0, some blobSize)) :
    ∃ shared, shared.length = tee.sharedBuffer.length ∧ getDbBlobSize tac envs tee = .ok
      (0, blobSize.toNat,
        { ta := tee.ta, messages := tee.messages + 1, sharedBuffer := shared }) := by
  obtain ⟨sent, hlen, hcmd, _, hget⟩ := getDbBlobSize_message hbuffer
  unfold sizeofBioCommand at hbuffer
  have hsizeIn : offSize + 4 ≤ sent.length := by
    unfold offSize
    omega
  have hput := length_put32 hsizeIn blobSize
  have hresponseIn : offResponse + 4 ≤ (put32 sent offSize blobSize).length := by
    rw [hput]
    unfold offResponse
    omega
  have hanswered := length_put32 hresponseIn (ofInt32 0)
  have hresponse : field32 (put32 (put32 sent offSize blobSize) offResponse (ofInt32 0)) offResponse
      = ofInt32 0 := field32_put32 (by omega) _
  have hanswer : field32 (put32 (put32 sent offSize blobSize) offResponse (ofInt32 0)) offSize
      = blobSize := by
    rw [field32_put32_of_disjoint hresponseIn (Or.inr (by decide)), field32_put32 (by omega)]
  refine ⟨put32 (put32 sent offSize blobSize) offResponse (ofInt32 0), ?_, ?_⟩
  · rw [hanswered, hput, hlen]
  · rw [hget, transferBuffer_dbBlob envs hdelivers hcmd, dbBlobSwitch, hsize, ok_bind]
    dsimp only [storeBlobSize]
    rw [store32_eq hsizeIn, ok_bind, store32_eq hresponseIn]
    simp only [ok_bind, hdelivers.zero]
    rw [load32_eq (by rw [hanswered, hput]; exact hsizeIn), ok_bind,
      load32_eq (by rw [hanswered]; exact hresponseIn), ok_bind, hresponse, hanswer]
    rfl

/-- The client takes the blob of a transfer out. -/
theorem sendDbReadCommands_ok {shared blob data : List UInt8} (hdelivers : tac.Delivers P sees)
    (hopened : tee.ta.transfer = .reading data) (hlength : blob.length = data.length)
    (hn : 1 ≤ data.length ∧ data.length ≤ fpcTaMaxTransfer)
    (halloc : tac.allocShared (chunkMessageSize blob.length) = some shared)
    (hshared : shared.length = chunkMessageSize blob.length) :
    ∃ moved, sendDbReadCommands tac envs tee blob = .ok (0, moved, data) ∧
      moved.sharedBuffer = tee.sharedBuffer := by
  rcases reads_agree envs hdelivers hopened hlength hn hshared with ⟨start, stop, hagree⟩
  refine ⟨stop.tee, ?_, hagree.buffer⟩
  unfold sendDbReadCommands sendDbCommands
  rw [halloc]
  dsimp only
  rw [hagree.started, ok_bind, hagree.ends, ok_bind]
  dsimp only
  rw [hagree.moved, hagree.finished.2]

/-- The client puts a blob in that the application takes. -/
theorem sendDbWriteCommands_ok {shared blob : List UInt8} (hdelivers : tac.Delivers P sees)
    (hopened : tee.ta.transfer = .writing blob.length)
    (hn : 1 ≤ blob.length ∧ blob.length ≤ fpcTaMaxTransfer)
    (halloc : tac.allocShared (chunkMessageSize blob.length) = some shared)
    (hshared : shared.length = chunkMessageSize blob.length)
    (hunwraps : ∀ i, ∃ bio t,
      unwrap (envs i) tee.ta.bio (.writingAt blob blob.length) = .ok (0, bio, t)) :
    ∃ moved rest, sendDbWriteCommands tac envs tee blob = .ok (0, moved, rest) ∧
      moved.sharedBuffer = tee.sharedBuffer := by
  rcases writes_agree envs hdelivers hopened hn hshared with ⟨start, hagree⟩
  rcases hagree.ends with ⟨i, hverdict⟩
  rcases hunwraps i with ⟨bio, t, hunwrap⟩
  unfold sendDbWriteCommands sendDbCommands
  rw [halloc]
  dsimp only
  rw [hagree.started, ok_bind]
  generalize (writeLoop tac envs).run start = ended at hverdict
  cases hverdict with
  | taken _ _ _ hbuffer hresult =>
    rw [ok_bind]
    dsimp only
    rw [hresult]
    exact ⟨_, _, rfl, hbuffer⟩
  | refused herror hrefused _ _ _ =>
    rw [hunwrap] at hrefused
    cases hrefused
    exact absurd herror (by decide)
  | faulted hfault =>
    rw [hunwrap] at hfault
    cases hfault

end

/-! ## Storing and loading -/

/-- Everything but the size of a message works when a database that wraps to `data` is stored. -/
structure Storable (P : Platform) (envs : Nat → Env) (calls : HostCalls) (host : Host)
    (path data : List UInt8) : Prop where
  path : (path ++ bak).length < pathMax
  buffer : sizeofBioCommand ≤ host.tee.sharedBuffer.length
  closed : host.tee.ta.transfer = .closed
  opens : ∃ result t, fpcTaDbOpen P (envs (host.tee.messages + 1)) host.tee.ta.bio .closed
    (UInt32.ofNat fpcTaBioDbRdonly) data.length = .ok (result, t) ∧ 0 ≤ result ∧ t = .reading data
  malloc : ∃ memory, calls.malloc = some memory
  file : calls.openFile = true ∧ calls.rename = true
  write : ∃ written, calls.write = some written ∧ data.length ≤ written

/-- Everything but the size of a message works when a file is loaded. -/
structure Loadable (envs : Nat → Env) (calls : HostCalls) (host : Host) (path file : List UInt8) :
    Prop where
  stored : host.files path = some file
  buffer : sizeofBioCommand ≤ host.tee.sharedBuffer.length
  closed : host.tee.ta.transfer = .closed
  opens : (envs host.tee.messages).blob.mallocData = true
  malloc : ∃ memory, calls.malloc = some memory
  calls : calls.stat = true ∧ calls.openFile = true ∧ calls.readAll = true
  unwraps : ∀ i, ∃ bio t,
    unwrap (envs i) host.tee.ta.bio (.writingAt file file.length) = .ok (0, bio, t)

section

variable {P : Platform} {tac : Tac} {sees : Int → Int} {envs : Nat → Env} {calls : HostCalls}
  {host : Host} {path data file : List UInt8}

/-- The size that the application reports is that of the transfer it opens. -/
theorem Storable.reported (h : Storable P envs calls host path data) :
    ∃ blobSize, fpcTaGetDbBlobSize P host.tee.ta.bio = .ok (0, some blobSize) ∧
      blobSize.toNat = data.length := by
  rcases h.opens with ⟨result, t, hopen, hresult, ht⟩
  have heffect := fpcTaDbOpen_effect .closed hopen
  cases heffect with
  | busy hmode => exact absurd rfl hmode
  | failed _ herror => exact absurd hresult (Int.not_le.mpr herror.2)
  | writing _ _ hwronly => exact absurd hwronly (by decide)
  | @reading n packed _ _ _ hpacked _ _ =>
    refine ⟨P.getWrappedSize (UInt32.ofNat n), ?_, ?_⟩
    · rw [fpcTaGetDbBlobSize, hpacked.1]
    · rw [← length_wrappedBuffer P (envs (host.tee.messages + 1)) n packed]
      exact congrArg Transfer.size ht

/-- The client comes to the chunk loop of a store. -/
theorem Storable.started (h : Storable P envs calls host path data)
    (hdelivers : tac.Delivers P sees) (hn : 1 ≤ data.length ∧ data.length ≤ fpcTaMaxTransfer) :
    ∃ opened, opened.files = host.files ∧ opened.tee.ta.transfer = .reading data ∧
      opened.tee.sharedBuffer.length = host.tee.sharedBuffer.length ∧
      fpcTeeStoreTemplateDb tac envs calls host path = (do
        let (result, host) ← storeBlob tac envs calls opened data.length path
        let (_, tee) ← dbClose tac envs host.tee
        .ok (result, { host with tee := tee })) := by
  rcases h.reported with ⟨blobSize, hreported, hsize⟩
  rcases getDbBlobSize_ok envs hdelivers h.buffer hreported with ⟨shared, hshared, hget⟩
  rcases h.opens with ⟨result, t, hopen, hresult, ht⟩
  have hblob : (UInt32.ofNat data.length).toNat = data.length := by
    have hmax := hn.2
    unfold fpcTaMaxTransfer at hmax
    rw [UInt32.toNat_ofNat']
    omega
  let tee : Tee :=
    { ta := host.tee.ta, messages := host.tee.messages + 1, sharedBuffer := shared }
  rcases @dbOpen_eq P tac sees envs tee (UInt32.ofNat fpcTaBioDbRdonly) (UInt32.ofNat data.length)
    hdelivers (by dsimp only [tee]; rw [hshared]; exact h.buffer) with ⟨answered, hanswered, heq⟩
  have hfits := (fpcTaDbOpen_effect .closed hopen).fits
  rw [hblob, show tee.ta.transfer = .closed from h.closed, hopen, ok_bind,
    toInt32_ofInt32 hfits, ht] at heq
  refine ⟨{ host with
    tee := { ta := { host.tee.ta with transfer := .reading data },
             messages := host.tee.messages + 2, sharedBuffer := answered result } }, rfl, rfl, ?_, ?_⟩
  · rw [← hshared]
    exact hanswered result
  · unfold fpcTeeStoreTemplateDb
    rw [if_neg (by have hpath := h.path; omega), hget, ok_bind]
    dsimp only
    rw [if_neg (by decide), hsize, if_neg (by omega), heq, ok_bind]
    dsimp only
    rw [if_neg (by omega)]

/-- A database whose messages fit is stored. -/
theorem Storable.stores {shared : List UInt8} (h : Storable P envs calls host path data)
    (hdelivers : tac.Delivers P sees) (hn : 1 ≤ data.length ∧ data.length ≤ fpcTaMaxTransfer)
    (halloc : tac.allocShared (chunkMessageSize data.length) = some shared)
    (hshared : shared.length = chunkMessageSize data.length) :
    ∃ stored, fpcTeeStoreTemplateDb tac envs calls host path = .ok (0, stored) ∧
      stored.files path = some data := by
  rcases h.started hdelivers hn with ⟨opened, hfiles, hopened, hbuffer, hstore⟩
  rcases h.malloc with ⟨memory, hmemory⟩
  rcases h.write with ⟨written, hwritten, hall⟩
  have hblob := length_malloc memory data.length
  rcases sendDbReadCommands_ok envs hdelivers hopened hblob hn (by rw [hblob]; exact halloc)
    (by rw [hblob]; exact hshared) with ⟨moved, hread, hmoved⟩
  rcases @dbClose_ok P tac sees envs moved hdelivers (by rw [hmoved, hbuffer]; exact h.buffer)
    with ⟨closed, hclose, _⟩
  have hwrite : fpcWriteDbBlobToFile calls opened.files data (path ++ bak)
      = (0, Function.update opened.files (path ++ bak) (some data)) := by
    unfold fpcWriteDbBlobToFile
    rw [h.file.1, Bool.not_true, if_neg Bool.false_ne_true, hwritten]
    dsimp only
    rw [if_neg (by omega), List.take_of_length_le hall]
  have hblobStored : storeBlob tac envs calls opened data.length path = .ok
      (0, { tee := moved,
            files := renameFile (Function.update opened.files (path ++ bak) (some data))
              (path ++ bak) path }) := by
    unfold storeBlob Fpc.malloc
    rw [hmemory, Option.map_some]
    dsimp only
    rw [hread, ok_bind]
    dsimp only
    rw [if_neg (by decide), hwrite]
    dsimp only
    rw [if_neg (by decide), h.file.2, Bool.not_true, if_neg Bool.false_ne_true]
  refine ⟨{ tee := closed,
            files := renameFile (Function.update opened.files (path ++ bak) (some data))
              (path ++ bak) path }, ?_, ?_⟩
  · rw [hstore, hblobStored, ok_bind]
    dsimp only
    rw [hclose, ok_bind]
  · have hne : path ≠ path ++ bak := by
      intro heq
      exact absurd (List.self_eq_append_right.mp heq) (by decide)
    dsimp only [renameFile]
    rw [Function.update_of_ne hne, Function.update_self, Function.update_self]

/-- A database whose messages do not fit is not stored. -/
theorem Storable.fails (h : Storable P envs calls host path data)
    (hdelivers : tac.Delivers P sees) (hn : 1 ≤ data.length ∧ data.length ≤ fpcTaMaxTransfer)
    (halloc : tac.allocShared (chunkMessageSize data.length) = none) :
    ∃ left, fpcTeeStoreTemplateDb tac envs calls host path = .ok (-fpcErrorAlloc, left) := by
  rcases h.started hdelivers hn with ⟨opened, hfiles, hopened, hbuffer, hstore⟩
  rcases h.malloc with ⟨memory, hmemory⟩
  rcases @dbClose_ok P tac sees envs opened.tee hdelivers (by rw [hbuffer]; exact h.buffer)
    with ⟨closed, hclose, _⟩
  have hread : sendDbReadCommands tac envs opened.tee (ofList data.length 0 memory).toList
      = .ok (-fpcErrorAlloc, opened.tee, (ofList data.length 0 memory).toList) := by
    unfold sendDbReadCommands sendDbCommands
    rw [length_malloc, halloc]
  have hblobLeft : storeBlob tac envs calls opened data.length path
      = .ok (-fpcErrorAlloc, opened) := by
    unfold storeBlob Fpc.malloc
    rw [hmemory, Option.map_some]
    dsimp only
    rw [hread, ok_bind]
    dsimp only
    rw [if_pos (by decide)]
  refine ⟨{ opened with tee := closed }, ?_⟩
  rw [hstore, hblobLeft, ok_bind]
  dsimp only
  rw [hclose, ok_bind]

/-- The client comes to the chunk loop of a load. -/
theorem Loadable.started (h : Loadable envs calls host path file)
    (hdelivers : tac.Delivers P sees) (hn : 1 ≤ file.length ∧ file.length ≤ fpcTaMaxTransfer) :
    ∃ opened, opened.ta = { host.tee.ta with transfer := .writing file.length } ∧
      opened.sharedBuffer.length = host.tee.sharedBuffer.length ∧
      fpcTeeLoadTemplateDb tac envs calls host path = (do
        let (result, tee, _) ← sendDbWriteCommands tac envs opened file
        let (_, tee) ← dbClose tac envs tee
        .ok (result, tee)) := by
  rcases h.malloc with ⟨memory, hmemory⟩
  have hsize : (UInt32.ofNat file.length).toNat = file.length := by
    have hmax := hn.2
    unfold fpcTaMaxTransfer at hmax
    rw [UInt32.toNat_ofNat']
    omega
  rcases @dbOpen_eq P tac sees envs host.tee (UInt32.ofNat fpcTaBioDbWronly)
    (UInt32.ofNat file.length) hdelivers h.buffer with ⟨answered, hanswered, heq⟩
  have hopen : fpcTaDbOpen P (envs host.tee.messages) host.tee.ta.bio .closed
      (UInt32.ofNat fpcTaBioDbWronly) file.length = .ok (0, .writing file.length) := by
    unfold fpcTaDbOpen
    rw [if_neg (by decide), if_neg (by omega), if_pos (by decide), h.opens, Bool.not_true,
      if_neg Bool.false_ne_true]
    rfl
  rw [hsize, h.closed, hopen, ok_bind] at heq
  have hread : fpcReadDbBlobFromFile calls host.files (ofList file.length 0 memory).toList path
      = (0, file) := by
    unfold fpcReadDbBlobFromFile
    rw [h.stored]
    dsimp only
    rw [h.calls.2.1, Bool.not_true, if_neg Bool.false_ne_true, h.calls.2.2, Bool.not_true,
      if_neg Bool.false_ne_true, length_malloc, if_neg (Nat.lt_irrefl _), List.take_length]
  have hstat : getFileSize calls host.files path = (0, file.length) := by
    unfold getFileSize
    rw [h.calls.1, Bool.not_true, if_neg Bool.false_ne_true, h.stored]
  refine ⟨
    { ta := { host.tee.ta with transfer := .writing file.length }
      messages := host.tee.messages + 1
      sharedBuffer := answered 0 }, rfl, hanswered 0, ?_⟩
  · unfold fpcTeeLoadTemplateDb
    rw [hstat]
    dsimp only
    rw [if_neg (by decide), if_neg (by omega), heq, ok_bind]
    dsimp only
    rw [if_neg (by decide)]
    unfold Fpc.malloc loadBlob
    rw [hmemory, Option.map_some]
    dsimp only
    rw [hread]
    dsimp only
    rw [if_neg (by decide)]
    simp only [bind_assoc, ok_bind]

/-- A file whose messages fit is loaded. -/
theorem Loadable.loads {shared : List UInt8} (h : Loadable envs calls host path file)
    (hdelivers : tac.Delivers P sees) (hn : 1 ≤ file.length ∧ file.length ≤ fpcTaMaxTransfer)
    (halloc : tac.allocShared (chunkMessageSize file.length) = some shared)
    (hshared : shared.length = chunkMessageSize file.length) :
    ∃ loaded, fpcTeeLoadTemplateDb tac envs calls host path = .ok (0, loaded) := by
  rcases h.started hdelivers hn with ⟨opened, hta, hbuffer, hload⟩
  rcases @sendDbWriteCommands_ok P tac sees envs opened shared file hdelivers (by rw [hta]) hn halloc
    hshared (by rw [hta]; exact h.unwraps) with ⟨moved, rest, hwrite, hmoved⟩
  rcases @dbClose_ok P tac sees envs moved hdelivers (by rw [hmoved, hbuffer]; exact h.buffer)
    with ⟨closed, hclose, _⟩
  refine ⟨closed, ?_⟩
  rw [hload, hwrite, ok_bind]
  dsimp only
  rw [hclose, ok_bind]

/-- A file whose messages do not fit is not loaded. -/
theorem Loadable.fails (h : Loadable envs calls host path file)
    (hdelivers : tac.Delivers P sees) (hn : 1 ≤ file.length ∧ file.length ≤ fpcTaMaxTransfer)
    (halloc : tac.allocShared (chunkMessageSize file.length) = none) :
    ∃ left, fpcTeeLoadTemplateDb tac envs calls host path = .ok (-fpcErrorAlloc, left) := by
  rcases h.started hdelivers hn with ⟨opened, hta, hbuffer, hload⟩
  rcases @dbClose_ok P tac sees envs opened hdelivers (by rw [hbuffer]; exact h.buffer)
    with ⟨closed, hclose, _⟩
  have hwrite : sendDbWriteCommands tac envs opened file = .ok (-fpcErrorAlloc, opened, file) := by
    unfold sendDbWriteCommands sendDbCommands
    rw [halloc]
  refine ⟨closed, ?_⟩
  rw [hload, hwrite, ok_bind]
  dsimp only
  rw [hclose, ok_bind]

end

/-- The messages for a blob of `n` bytes fit, and a store of one and a load of one complete. -/
structure TemplateDbCompletes (tac : Tac) (n : Nat) (storing loading : Nat → Env)
    (storeCalls loadCalls : HostCalls) (host host' : Host) (path path' : List UInt8) : Prop where
  fits : chunkMessageSize n + sizeofResponse ≤ tkMemoryAllocateLimitBytes
  stores : ∃ stored, fpcTeeStoreTemplateDb tac storing storeCalls host path = .ok (0, stored)
  loads : ∃ loaded, fpcTeeLoadTemplateDb tac loading loadCalls host' path' = .ok (0, loaded)

/-- **When a template database can be stored and loaded.** With memory, files and cryptography that
work, a blob of a size that the application opens is stored and loaded exactly if it has at most
`largestBlob` bytes; with more, both calls fail with an allocation error. -/
theorem templateDb_completes_iff {P : Platform} {alloc : SharedAlloc}
    {memory path path' data file : List UInt8} {storing loading : Nat → Env}
    {storeCalls loadCalls : HostCalls} {host host' : Host} {n : Nat} (hmapped : alloc.mapped = true)
    (haddr : alloc.addr = some memory) (hstore : Storable P storing storeCalls host path data)
    (hload : Loadable loading loadCalls host' path' file)
    (hn : 1 ≤ n ∧ n ≤ fpcTaMaxTransfer) (hdata : data.length = n) (hfile : file.length = n) :
    (TemplateDbCompletes (fpcUtTac P alloc) n storing loading storeCalls loadCalls host host' path
        path' ↔ n ≤ largestBlob) ∧
      (largestBlob < n →
        (∃ left, fpcTeeStoreTemplateDb (fpcUtTac P alloc) storing storeCalls host path
          = .ok (-fpcErrorAlloc, left)) ∧
        ∃ left, fpcTeeLoadTemplateDb (fpcUtTac P alloc) loading loadCalls host' path'
          = .ok (-fpcErrorAlloc, left)) := by
  have hdelivers := fpcUtTac_delivers P alloc
  have hfails (hexceeds : largestBlob < n) :
      (∃ left, fpcTeeStoreTemplateDb (fpcUtTac P alloc) storing storeCalls host path
        = .ok (-fpcErrorAlloc, left)) ∧
      ∃ left, fpcTeeLoadTemplateDb (fpcUtTac P alloc) loading loadCalls host' path'
        = .ok (-fpcErrorAlloc, left) := by
    have halloc := @allocShared_exceeds P alloc n hexceeds
    constructor
    · exact hstore.fails hdelivers (by rw [hdata]; exact hn) (by rw [hdata]; exact halloc)
    · exact hload.fails hdelivers (by rw [hfile]; exact hn) (by rw [hfile]; exact halloc)
  refine ⟨⟨?_, ?_⟩, hfails⟩
  · intro hcompletes
    cases Nat.lt_or_ge largestBlob n with
    | inr hle => exact hle
    | inl hexceeds =>
      rcases hcompletes.stores with ⟨stored, hstored⟩
      rcases (hfails hexceeds).1 with ⟨left, hleft⟩
      rw [hstored] at hleft
      cases hleft
  · intro hle
    rcases @allocShared_fits P alloc memory n hmapped haddr hle with ⟨shared, halloc, hshared⟩
    constructor
    · unfold chunkMessageSize
      unfold largestBlob tkMemoryAllocateLimitBytes sizeofResponse sizeofBioCommand at hle
      unfold tkMemoryAllocateLimitBytes sizeofResponse sizeofBioCommand
      omega
    · rcases hstore.stores hdelivers (by rw [hdata]; exact hn) (by rw [hdata]; exact halloc)
        (by rw [hdata]; exact hshared) with ⟨stored, hstored, _⟩
      exact ⟨stored, hstored⟩
    · exact hload.loads hdelivers (by rw [hfile]; exact hn) (by rw [hfile]; exact halloc)
        (by rw [hfile]; exact hshared)

/-- The packed database of the state after `init`. -/
def emptyImage : List UInt8 :=
  [0xAB, 0xAD, 0x1D, 0xEA, 4, 0x01, 0x23, 0x45, 0x67, 0x89, 0xAB, 0xCD, 0xEF, 0, 0, 0, 0,
    0xBE, 0xEF, 0xF0, 0x0D, 0xB1, 0x05, 0xF0, 0x0D]

/-- What it is wrapped to. -/
def sampleBlob : List UInt8 := emptyImage ++ List.replicate 48 0x5E

/-- System calls that all work. -/
def sampleCalls : HostCalls where
  stat := true
  malloc := some []
  openFile := true
  readAll := true
  write := some 4096
  rename := true

/-- An application with one file at the client. -/
def sampleHost (ta : Ta) (file : List UInt8) : Host where
  tee := { ta := ta, messages := 0, sharedBuffer := List.replicate 40 0 }
  files := fun _ => some file

theorem sampleHost_buffer (ta : Ta) (file : List UInt8) :
    sizeofBioCommand ≤ (sampleHost ta file).tee.sharedBuffer.length := by
  show 40 ≤ (List.replicate 40 (0 : UInt8)).length
  decide

theorem sampleHost_storable {ta : Ta} (hclosed : ta.transfer = .closed)
    (hopen : fpcTaDbOpen samplePlatform .sealing ta.bio .closed 0 73 = .ok (0, .reading sampleBlob)) :
    Storable samplePlatform (fun _ => .sealing) sampleCalls (sampleHost ta []) [] sampleBlob :=
  { path := by decide
    buffer := sampleHost_buffer _ _
    closed := hclosed
    opens := ⟨0, _, hopen, by decide, rfl⟩
    malloc := ⟨_, rfl⟩
    file := ⟨rfl, rfl⟩
    write := ⟨_, rfl, by decide⟩ }

theorem sampleTemplateDb_completes :
    ∃ ta, TemplateDbCompletes sampleTac 73 (fun _ => .sealing) (fun _ => .sealing) sampleCalls
      sampleCalls (sampleHost ta []) (sampleHost ta sampleBlob) [] [] := by
  have hready : (fpcTaRouterInit .willing >>= fun ta => .ok (decide (ta.transfer = .closed ∧
      fpcTaDbOpen samplePlatform .sealing ta.bio .closed 0 73 = .ok (0, .reading sampleBlob) ∧
      (unwrap .sealing ta.bio (.writingAt sampleBlob 73) >>= fun r =>
        .ok (decide (r.1 = 0))) = .ok true))) = .ok true := by
    decide +kernel
  rcases exists_of_decided _ hready with ⟨ta, _, hclosed, hopen, hunwrap⟩
  rcases exists_of_decided _ hunwrap with ⟨⟨result, bio, t⟩, hunwrap, hresult⟩
  rw [show result = 0 from hresult] at hunwrap
  have hstore := sampleHost_storable hclosed hopen
  have hload : Loadable (fun _ => .sealing) sampleCalls (sampleHost ta sampleBlob) []
      sampleBlob :=
    { stored := rfl
      buffer := sampleHost_buffer _ _
      closed := hclosed
      opens := rfl
      malloc := ⟨_, rfl⟩
      calls := ⟨rfl, rfl, rfl⟩
      unwraps := fun _ => ⟨_, _, hunwrap⟩ }
  exact ⟨ta, (templateDb_completes_iff rfl rfl hstore hload (by decide) (by decide)
    (by decide)).1.mpr (by decide)⟩

/-- A command during which everything unwraps to one image. -/
def Env.unsealing (image : List UInt8) : Env :=
  { Env.willing with
    unwrapCrypto := fun _ => { status := 0, buffer := image, start := 0, size := image.length } }

theorem unwrap_unsealing {image buffer : List UInt8} {db : FingerprintDatabase} (bio : Bio)
    {t : Transfer} (hbuffer : t.data = some buffer) (hlength : image.length ≤ buffer.length)
    (hcreate : fpcDbCreate .willing (some image) image.length = .ok db) :
    ∃ t', unwrap (.unsealing image) bio t = .ok (0, { bio with userDb := some db }, t') := by
  have hdata : (fpcUnwrapCrypto (.unsealing image) buffer).data = image := by
    unfold fpcUnwrapCrypto Env.unsealing
    dsimp only
    rw [Nat.zero_min, slice, List.drop_zero, overFront, List.take_of_length_le hlength,
      List.take_left' rfl]
  have hstatus : ¬ (fpcUnwrapCrypto (.unsealing image) buffer).status < 0 := by
    show ¬ (0 : Int32).toInt < 0
    decide
  refine ⟨{ t with data := some (fpcUnwrapCrypto (.unsealing image) buffer).buffer }, ?_⟩
  unfold unwrap
  dsimp only
  rw [hbuffer, Option.getD_some, if_neg hstatus, hdata,
    show (Env.unsealing image).db = .willing from rfl, hcreate]
  rfl

/-- A file that the application opens is not loaded. -/
theorem largeFile_not_loaded :
    ∃ host file left, file.length = 524245 ∧ file.length ≤ fpcTaMaxTransfer ∧
      Loadable (fun _ => .unsealing emptyImage) sampleCalls host [] file ∧
      fpcTeeLoadTemplateDb sampleTac (fun _ => .unsealing emptyImage) sampleCalls host []
        = .ok (-fpcErrorAlloc, left) := by
  rcases exists_of_decided (x := fpcTaRouterInit .willing) (fun ta => ta.transfer = .closed)
    (by decide +kernel) with ⟨ta, _, hclosed⟩
  rcases exists_of_decided (x := fpcDbCreate .willing (some emptyImage) emptyImage.length)
    (fun _ => True) (by decide +kernel) with ⟨db, hcreate, _⟩
  have hlength : (List.replicate 524245 (0 : UInt8)).length = 524245 := List.length_replicate
  have hload : Loadable (fun _ => .unsealing emptyImage) sampleCalls
      (sampleHost ta (List.replicate 524245 0)) [] (List.replicate 524245 0) := by
    constructor
    · rfl
    · exact sampleHost_buffer _ _
    · exact hclosed
    · rfl
    · exact ⟨_, rfl⟩
    · exact ⟨rfl, rfl, rfl⟩
    · intro i
      rcases unwrap_unsealing ta.bio (t := .writingAt (List.replicate 524245 0)
        (List.replicate 524245 (0 : UInt8)).length) rfl (by
          rw [List.length_append, List.length_take, hlength]
          have hshort : emptyImage.length = 25 := rfl
          omega) hcreate with ⟨t, hunwrap⟩
      exact ⟨_, t, hunwrap⟩
  have halloc : sampleTac.allocShared (chunkMessageSize (List.replicate 524245 (0 : UInt8)).length)
      = none := by
    rw [hlength]
    exact allocShared_exceeds (by decide)
  rcases hload.fails (fpcUtTac_delivers samplePlatform _) (by rw [hlength]; decide) halloc
    with ⟨left, hleft⟩
  exact ⟨_, _, left, hlength, by rw [hlength]; decide, hload, hleft⟩

end Fpc
