import Fingerprints.Tac.StorageSteps

/-!
# A store is atomic on the file

`fpc_tee_store_template_db` of `fpc_tee_host_storage.c` writes to a file beside the one it stores to
and renames it last. So in every state of the files the path holds what it held before or the whole
database, as it was wrapped when the transfer was opened, and a store that returns without an error
has put it there: **`storeTemplateDb_atomic`**. This needs of the transport only that a message
that is reported as handled was delivered.
-/

namespace Fpc

open Wire Wire.Outcome

/-- What a database is wrapped to when a transfer of it is opened. -/
def WrapsTo (P : Platform) (env : Env) (bio : Bio) (data : List UInt8) : Prop :=
  ∃ n packed, getDataSize bio.userDb = .ok n ∧
    getData bio.userDb (List.replicate n 0) n = .ok packed ∧
    ¬ (env.wrapCrypto packed).status < 0 ∧
    (env.wrapCrypto packed).size = P.getWrappedSize (UInt32.ofNat n) ∧
    data = wrappedBuffer P env n packed

/-- A message of a chunk loop that is allocated has the size that was asked for. -/
def Tac.AllocatesWhole (tac : Tac) : Prop :=
  ∀ n shared, tac.allocShared (chunkMessageSize n) = some shared →
    shared.length = chunkMessageSize n

section

variable {P : Platform} {tac : Tac} {envs : Nat → Env} {calls : HostCalls} {host : Host}
  {tee tee' : Tee} {path data : List UInt8}

/-! ## Up to the open transfer -/

/-- The size that a database is wrapped to is what the application reports. -/
theorem WrapsTo.length {env : Env} {bio : Bio} {blobSize : UInt32}
    (h : WrapsTo P env bio data) (hsize : fpcTaGetDbBlobSize P bio = .ok (0, some blobSize)) :
    data.length = blobSize.toNat := by
  obtain ⟨n, packed, hn, _, _, _, rfl⟩ := h
  unfold fpcTaGetDbBlobSize at hsize
  rw [hn] at hsize
  cases hsize
  exact length_wrappedBuffer P env n packed

/-- A size other than 0 that comes without an error is the one the application reported. -/
theorem getDbBlobSize_sized {result : Int} {blobSize : Nat} (hcarries : tac.Carries P)
    (hbuffer : sizeofBioCommand ≤ tee.sharedBuffer.length)
    (h : getDbBlobSize tac envs tee = .ok (result, blobSize, tee')) (hresult : ¬ result < 0)
    (hne : blobSize ≠ 0) :
    ∃ reported, fpcTaGetDbBlobSize P tee.ta.bio = .ok (0, some reported) ∧
      blobSize = reported.toNat ∧ tee'.ta = tee.ta ∧ tee'.messages = tee.messages + 1 := by
  obtain ⟨sent, hlen, hcmd, hzero, heq⟩ := getDbBlobSize_message hbuffer
  rw [heq] at h
  obtain ⟨⟨status, answered⟩, htransfer, h⟩ := bind_eq_ok.mp h
  obtain ⟨size, hload, h⟩ := bind_eq_ok.mp h
  obtain ⟨response, _, h⟩ := bind_eq_ok.mp h
  cases h
  cases transferBuffer_carried _ (hcarries _ _ _) hcmd with
  | inr hfailed =>
    have hstatus := (hfailed status tee' htransfer).1
    rw [if_pos hstatus] at hresult
    exact absurd hstatus hresult
  | inl hdelivered =>
    obtain ⟨sees, hsees, hsame⟩ := hdelivered
    rw [hsame, transferBuffer_dbBlob envs (tac.delivering_delivers P hsees) hcmd] at htransfer
    obtain ⟨r, hswitch, htransfer⟩ := bind_eq_ok.mp htransfer
    cases htransfer
    obtain ⟨⟨code, reported⟩, hreport, hswitch⟩ := bind_eq_ok.mp hswitch
    obtain ⟨put, hput, hswitch⟩ := bind_eq_ok.mp hswitch
    obtain ⟨done, hdone, hswitch⟩ := bind_eq_ok.mp hswitch
    cases hswitch
    obtain ⟨hin, rfl⟩ := store32_ok hdone
    have hsize : size = field32 put offSize := by
      rw [load32_ok hload]
      exact field32_put32_of_disjoint hin (Or.inr (by decide))
    unfold fpcTaGetDbBlobSize at hreport
    split at hreport
    · cases hreport
    · -- without a size the field keeps the 0 that the client put there
      cases hreport
      cases hput
      rw [hsize, hzero] at hne
      exact absurd rfl hne
    · next n hn =>
      cases hreport
      obtain ⟨hput32, rfl⟩ := store32_ok hput
      refine ⟨P.getWrappedSize (UInt32.ofNat n), ?_, ?_, rfl, rfl⟩
      · unfold fpcTaGetDbBlobSize
        rw [hn]
      · rw [hsize, field32_put32 (by omega)]

/-- A transfer to the outside that `db_open` opens without an error has the wrapped database in its
buffer. -/
theorem dbOpen_rdonly {result : Int} {size : UInt32} (hcarries : tac.Carries P)
    (hbuffer : sizeofBioCommand ≤ tee.sharedBuffer.length)
    (h : dbOpen tac envs tee (UInt32.ofNat fpcTaBioDbRdonly) size = .ok (result, tee'))
    (hresult : ¬ result < 0) :
    ∃ data, WrapsTo P (envs tee.messages) tee.ta.bio data ∧
      tee'.ta.transfer = .reading data ∧ size.toNat ≤ fpcTaMaxTransfer := by
  obtain ⟨sent, hlen, hcmd, _, _, heq⟩ := dbOpen_message (UInt32.ofNat fpcTaBioDbRdonly) size hbuffer
  cases transferBuffer_carried envs (hcarries (envs tee.messages) tee.ta sent) hcmd with
  | inr hfailed =>
    rw [heq] at h
    obtain ⟨⟨status, answered⟩, htransfer, h⟩ := bind_eq_ok.mp h
    obtain ⟨response, _, h⟩ := bind_eq_ok.mp h
    cases h
    have hstatus := (hfailed status answered htransfer).1
    rw [if_pos hstatus] at hresult
    exact absurd hstatus hresult
  | inl hdelivered =>
    obtain ⟨sees, hsees, hsame⟩ := hdelivered
    rw [heq, hsame, ← heq] at h
    obtain ⟨answered, _, hopen⟩ := dbOpen_eq envs (UInt32.ofNat fpcTaBioDbRdonly) size
      (tac.delivering_delivers P hsees) hbuffer
    rw [hopen] at h
    obtain ⟨⟨code, transfer⟩, hopened, h⟩ := bind_eq_ok.mp h
    cases h
    unfold fpcTaDbOpen at hopened
    split at hopened
    · cases hopened
      exact absurd (show toInt32 (ofInt32 (-fpcErrorIo)) < 0 by decide) hresult
    · split at hopened
      · cases hopened
        exact absurd (show toInt32 (ofInt32 (-fpcErrorInput)) < 0 by decide) hresult
      · next hrange =>
        rw [if_neg (by decide), if_pos (by decide)] at hopened
        cases openRdonly_cases hopened with
        | inl hfailed =>
          rw [toInt32_ofInt32 hfailed.1.fitsInt] at hresult
          exact absurd hfailed.1.2 hresult
        | inr hreading =>
          obtain ⟨n, packed, ⟨hn, _, hpacked⟩, hstatus, hwrapped, _, htransfer⟩ := hreading
          exact ⟨_, ⟨n, packed, hn, hpacked, hstatus, hwrapped, rfl⟩, htransfer, by omega⟩

/-! ## The chunk loop -/

/-- A round over a transport that delivers this message. -/
theorem sendDbReadRound_congr {tac : Tac} (tac' : Tac) {s : ChunkLoop}
    (h : tac.transfer (envs s.tee.messages) s.tee.ta s.shared
      = tac'.transfer (envs s.tee.messages) s.tee.ta s.shared) :
    sendDbReadRound tac envs s = sendDbReadRound tac' envs s := by
  unfold sendDbReadRound transfer
  rw [h]

/-- A round whose message is reported as failed ends the loop with an error. -/
theorem sendDbReadRound_failed {s s' : ChunkLoop} {e : Option ChunkExit}
    (hfailed : ∀ status ta shared,
      tac.transfer (envs s.tee.messages) s.tee.ta s.shared = .ok (status, ta, shared) → status < 0)
    (h : sendDbReadRound tac envs s = .ok (s', e)) : e = some .failed ∧ s'.result < 0 := by
  obtain ⟨⟨result, tee, shared⟩, htransfer, h⟩ := bind_eq_ok.mp h
  obtain ⟨⟨status, ta, shared'⟩, hsent, htransfer⟩ := bind_eq_ok.mp htransfer
  cases htransfer
  have hstatus := hfailed _ _ _ hsent
  dsimp only at h
  rw [if_pos hstatus] at h
  cases h
  exact ⟨rfl, hstatus⟩

/-- A round goes on in step, or it ends the loop with an error. -/
theorem sendDbReadRound_carried {s : ChunkLoop} (hcarries : tac.Carries P)
    (hsync : ReadSync tee data s) (hmax : data.length ≤ fpcTaMaxTransfer)
    (hleft : s.remainingSize ≠ 0) :
    (∃ s', sendDbReadRound tac envs s = .ok (s', none) ∧ ReadSync tee data s') ∨
      ∀ s' e, sendDbReadRound tac envs s = .ok (s', e) → e = some .failed ∧ s'.result < 0 := by
  cases hcarries (envs s.tee.messages) s.tee.ta s.shared with
  | delivered sees hzero htransfer =>
    left
    rw [sendDbReadRound_congr (tac.delivering P sees) htransfer]
    exact sendDbReadRound_next envs (tac.delivering_delivers P hzero) hsync hmax hleft
  | unreported status hstatus htransfer =>
    right
    intro s' e
    apply sendDbReadRound_failed
    intro status' ta shared hsent
    rw [htransfer] at hsent
    obtain ⟨r, _, hsent⟩ := bind_eq_ok.mp hsent
    cases hsent
    exact hstatus
  | lost status hstatus htransfer =>
    right
    intro s' e
    apply sendDbReadRound_failed
    intro status' ta shared hsent
    rw [htransfer] at hsent
    cases hsent
    exact hstatus

/-- A loop that ends without an error has taken all of the blob out. -/
theorem readLoop_carried (tee : Tee) {s t : ChunkLoop} {e : Option ChunkExit} (hcarries : tac.Carries P)
    (hsync : ReadSync tee data s) (hmax : data.length ≤ fpcTaMaxTransfer)
    (h : (readLoop tac envs).run s = .ok (t, e)) (hresult : ¬ t.result < 0) : t.blob = data := by
  apply Loop.run_rule (L := readLoop tac envs) (I := ReadSync tee data)
    (Q := fun r => ∀ t e, r = .ok (t, e) → ¬ t.result < 0 → t.blob = data) _ _ hsync t e h hresult
  · intro t ht hleft t' e' heq _
    cases heq
    have hsum := ht.left
    have hnone : t.remainingSize = 0 := hleft
    have hmoved := ht.moved
    rwa [List.take_of_length_le (by rw [ht.length]; omega),
      List.take_of_length_le (by omega)] at hmoved
  · intro t ht hleft
    cases sendDbReadRound_carried hcarries ht hmax hleft with
    | inl hnext => exact Or.inl hnext
    | inr hfailed =>
      right
      constructor
      · intro t' hround
        cases (hfailed t' none hround).1
      · intro t' e' hround hnonneg
        exact absurd (hfailed t' e' hround).2 hnonneg

theorem sendDbReadCommands_carried {blob blob' : List UInt8} {result : Int}
    (hcarries : tac.Carries P)
    (halloc : tac.AllocatesWhole)
    (hopened : tee.ta.transfer = .reading data) (hlength : blob.length = data.length)
    (hmax : data.length ≤ fpcTaMaxTransfer)
    (h : sendDbReadCommands tac envs tee blob = .ok (result, tee', blob'))
    (hresult : ¬ result < 0) : blob' = data := by
  unfold sendDbReadCommands sendDbCommands at h
  split at h
  · cases h
    exact absurd (by decide) hresult
  · next shared hshared =>
    have hsmall : blob.length < 2 ^ 32 := by
      unfold fpcTaMaxTransfer at hmax
      omega
    obtain ⟨msg, hmessage, hstart⟩ := chunkStart_eq tee fpcTaBioDbReadCmd
      (halloc _ _ hshared) hsmall
    rw [hstart, ok_bind] at h
    obtain ⟨⟨stop, e⟩, hrun, h⟩ := bind_eq_ok.mp h
    cases h
    refine readLoop_carried tee hcarries ?_ hmax hrun hresult
    constructor
    · rw [← hlength]
      exact hmessage
    · rw [← hlength]
      exact Nat.zero_add _
    · dsimp only
      rw [Transfer.readingAt_zero, ← hopened]
    · rfl
    · exact hlength
    · rfl
    · intro hpos
      exact absurd hpos (Nat.lt_irrefl 0)

/-! ## The files -/

/-- The file that is written first is another. -/
theorem ne_append_bak (path : List UInt8) : path ≠ path ++ bak := by
  intro h
  have hlength := congrArg List.length h
  rw [List.length_append] at hlength
  have hbak : bak.length = 4 := rfl
  omega

theorem tracedWriteDbBlobToFile_elsewhere {files f : Files} {blob target : List UInt8}
    (hne : path ≠ target)
    (h : .files f ∈ (tracedWriteDbBlobToFile calls files blob target).calls) :
    f path = files path := by
  unfold tracedWriteDbBlobToFile at h
  split at h
  · simp at h
  · obtain heq | h := Traced.mem_calls_perform_bind.mp h
    · cases heq
      exact Function.update_of_ne hne _ _
    split at h
    · simp at h
    · obtain heq | h := Traced.mem_calls_perform_bind.mp h
      · cases heq
        exact Function.update_of_ne hne _ _
      split at h
      · simp at h
      · simp at h

/-- A file that is written without an error holds the blob. The other files are as before. -/
theorem fpcWriteDbBlobToFile_written {files files' : Files} {blob target : List UInt8}
    {result : Int} (hne : path ≠ target)
    (h : fpcWriteDbBlobToFile calls files blob target = (result, files')) :
    files' path = files path ∧ (¬ result < 0 → files' target = some blob) := by
  have herror : -fpcErrorIo < 0 := by decide
  unfold fpcWriteDbBlobToFile at h
  split at h
  · cases h
    exact ⟨rfl, fun hresult => absurd herror hresult⟩
  · split at h
    · cases h
      exact ⟨Function.update_of_ne hne _ _, fun hresult => absurd herror hresult⟩
    · dsimp only at h
      split at h
      · cases h
        exact ⟨Function.update_of_ne hne _ _, fun hresult => absurd herror hresult⟩
      · next hwhole =>
        cases h
        refine ⟨Function.update_of_ne hne _ _, fun _ => ?_⟩
        rw [Function.update_self, List.take_of_length_le (by omega)]

/-- The file that was written replaces the one at the path. -/
theorem renameFile_path (files : Files) (path : List UInt8) :
    renameFile files (path ++ bak) path path = files (path ++ bak) := by
  unfold renameFile
  rw [Function.update_of_ne (ne_append_bak path), Function.update_self]

section

variable {blobSize : Nat}

/-- The part of a store with the transfer open puts nothing but `data` at the path, and does so when
it returns without an error. -/
theorem storeBlob_atomic {host' : Host} {result : Int} (hcarries : tac.Carries P)
    (halloc : tac.AllocatesWhole) (hopened : host.tee.ta.transfer = .reading data)
    (hlength : blobSize = data.length) (hmax : data.length ≤ fpcTaMaxTransfer)
    (h : storeBlob tac envs calls host blobSize path = .ok (result, host')) :
    (host'.files path = host.files path ∨ host'.files path = some data) ∧
      (¬ result < 0 → host'.files path = some data) := by
  unfold storeBlob at h
  split at h
  · cases h
    exact ⟨Or.inl rfl, fun hresult => absurd (by decide) hresult⟩
  · next blob hblob =>
    have hsize : blob.length = data.length := by
      obtain ⟨memory, _, rfl⟩ := Option.map_eq_some_iff.mp hblob
      rw [length_malloc, hlength]
    obtain ⟨⟨reading, read, moved⟩, hread, h⟩ := bind_eq_ok.mp h
    dsimp only at h
    split at h
    · next herror =>
      cases h
      exact ⟨Or.inl rfl, fun hresult => absurd herror hresult⟩
    · next hreading =>
      have hmoved := sendDbReadCommands_carried hcarries halloc hopened hsize hmax hread hreading
      generalize hwrite : fpcWriteDbBlobToFile calls host.files moved (path ++ bak) = wrote at h
      obtain ⟨writing, files⟩ := wrote
      obtain ⟨helsewhere, hwritten⟩ := fpcWriteDbBlobToFile_written (ne_append_bak path) hwrite
      dsimp only at h
      split at h
      · next herror =>
        cases h
        exact ⟨Or.inl helsewhere, fun hresult => absurd herror hresult⟩
      · next hwriting =>
        split at h
        · cases h
          refine ⟨Or.inl ?_, fun hresult => absurd (by decide) hresult⟩
          exact (Function.update_of_ne (ne_append_bak path) _ _).trans helsewhere
        · cases h
          have hrenamed : renameFile files (path ++ bak) path path = some data := by
            rw [renameFile_path, hwritten hwriting, hmoved]
          exact ⟨Or.inr hrenamed, fun _ => hrenamed⟩

/-- And so do its steps. -/
theorem tracedStoreBlob_atomic {f : Files} (hcarries : tac.Carries P)
    (halloc : tac.AllocatesWhole) (hopened : host.tee.ta.transfer = .reading data)
    (hlength : blobSize = data.length) (hmax : data.length ≤ fpcTaMaxTransfer)
    (h : .files f ∈ (tracedStoreBlob tac envs calls host blobSize path).calls) :
    f path = host.files path ∨ f path = some data := by
  unfold tracedStoreBlob at h
  split at h
  · simp at h
  · next blob hblob =>
    have hsize : blob.length = data.length := by
      obtain ⟨memory, _, rfl⟩ := Option.map_eq_some_iff.mp hblob
      rw [length_malloc, hlength]
    obtain h | ⟨⟨reading, read, moved⟩, hread, h⟩ := Traced.mem_calls_bind.mp h
    · simp at h
    dsimp only at h
    split at h
    · simp at h
    · next hreading =>
      have hmoved := sendDbReadCommands_carried hcarries halloc hopened hsize hmax hread hreading
      obtain h | ⟨⟨writing, files⟩, hwrite, h⟩ := Traced.mem_calls_bind.mp h
      · exact Or.inl (tracedWriteDbBlobToFile_elsewhere (ne_append_bak path) h)
      rw [tracedWriteDbBlobToFile_outcome] at hwrite
      injection hwrite with hwrite
      obtain ⟨helsewhere, hwritten⟩ := fpcWriteDbBlobToFile_written (ne_append_bak path) hwrite
      dsimp only at h
      split at h
      · simp at h
      · next hwriting =>
        split at h
        · obtain heq | h := Traced.mem_calls_perform_bind.mp h
          · cases heq
            exact Or.inl ((Function.update_of_ne (ne_append_bak path) _ _).trans helsewhere)
          simp at h
        · obtain heq | h := Traced.mem_calls_perform_bind.mp h
          · cases heq
            right
            rw [renameFile_path, hwritten hwriting, hmoved]
          simp at h

end

/-! ## The store -/

/-- The path holds a database, as it was wrapped when the transfer of the call was opened: with the
second command of the call, from the database that the application has before it. -/
def HoldsWrapped (P : Platform) (envs : Nat → Env) (host : Host) (content : Option (List UInt8)) :
    Prop :=
  ∃ data, WrapsTo P (envs (host.tee.messages + 1)) host.tee.ta.bio data ∧ content = some data

/-- The transfer that a store comes to open. -/
theorem opened_of_store {blobSize : Nat} {result opening : Int} {sized opened : Tee}
    (hcarries : tac.Carries P) (hbuffer : sizeofBioCommand ≤ host.tee.sharedBuffer.length)
    (hsize : getDbBlobSize tac envs host.tee = .ok (result, blobSize, sized))
    (hresult : ¬ result < 0) (hne : blobSize ≠ 0)
    (hopen : dbOpen tac envs sized (UInt32.ofNat fpcTaBioDbRdonly) (UInt32.ofNat blobSize)
      = .ok (opening, opened)) (hopening : ¬ opening < 0) :
    ∃ data, WrapsTo P (envs (host.tee.messages + 1)) host.tee.ta.bio data ∧
      opened.ta.transfer = .reading data ∧ blobSize = data.length ∧
      data.length ≤ fpcTaMaxTransfer := by
  obtain ⟨reported, hreported, hblob, hta, hmessages⟩ :=
    getDbBlobSize_sized hcarries hbuffer hsize hresult hne
  have hlength := getDbBlobSize_buffer hcarries hbuffer hsize
  obtain ⟨data, hwraps, htransfer, hmax⟩ :=
    dbOpen_rdonly hcarries (by rw [hlength]; exact hbuffer) hopen hopening
  rw [hta, hmessages] at hwraps
  have hsame := hwraps.length hreported
  refine ⟨data, hwraps, htransfer, by rw [hblob, hsame], ?_⟩
  rw [hblob, UInt32.ofNat_toNat] at hmax
  rw [hsame]
  exact hmax

/-- Every state of the files in a store. -/
theorem tracedStoreTemplateDb_atomic {f : Files} (hcarries : tac.Carries P)
    (halloc : tac.AllocatesWhole) (hbuffer : sizeofBioCommand ≤ host.tee.sharedBuffer.length)
    (h : .files f ∈ (tracedStoreTemplateDb tac envs calls host path).calls) :
    f path = host.files path ∨ HoldsWrapped P envs host (f path) := by
  unfold tracedStoreTemplateDb at h
  split at h
  · simp at h
  · obtain heq | h := Traced.mem_calls_perform_bind.mp h
    · cases heq
    obtain h | ⟨⟨result, blobSize, sized⟩, hsize, h⟩ := Traced.mem_calls_bind.mp h
    · simp at h
    dsimp only at h
    split at h
    · simp at h
    · next hresult =>
      split at h
      · simp at h
      · next hne =>
        obtain heq | h := Traced.mem_calls_perform_bind.mp h
        · cases heq
        obtain h | ⟨⟨opening, opened⟩, hopen, h⟩ := Traced.mem_calls_bind.mp h
        · simp at h
        dsimp only at h
        -- only the part with the transfer open touches the files
        split at h
        · simp [Traced.mem_calls_bind] at h
        · next hopening =>
          obtain ⟨data, hwraps, htransfer, hlength, hmax⟩ :=
            opened_of_store hcarries hbuffer hsize hresult hne hopen hopening
          obtain h | ⟨⟨storing, stored⟩, hstore, h⟩ := Traced.mem_calls_bind.mp h
          · obtain hkept | hheld :=
              tracedStoreBlob_atomic hcarries halloc htransfer hlength hmax h
            · exact Or.inl hkept
            · exact Or.inr ⟨data, hwraps, hheld⟩
          · simp [Traced.mem_calls_bind] at h

end

/-- `fpc_tac_alloc_shared` of `fpc_ut_tac.c` allocates all of a message that is not too large. -/
theorem fpcUtTac_allocatesWhole (P : Platform) (alloc : SharedAlloc) :
    (fpcUtTac P alloc).AllocatesWhole := by
  intro n shared h
  refine length_of_allocShared ?_ h
  unfold chunkMessageSize maxChunk sizeofBioCommand
  omega

end Fpc
