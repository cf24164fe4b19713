import Fingerprints.Tac.BlobCommands
import Fingerprints.Wire.Traced

/-!
# The steps of a store and of a load

`fpc_tee_store_template_db` and `fpc_tee_load_template_db` of `fpc_tee_host_storage.c` once more,
with the commands they send outside the chunk loops and the files after every operation on them.
What they return is what the functions of `Tac.HostStorage` return.

Behind every `DB_OPEN` a store sends a `DB_CLOSE`. A load does not when `malloc` fails:
**`storage_leavesClosed`**.
-/

namespace Fpc

open Wire Wire.Outcome

/-- What can be seen of a call: the commands it sends, and the files as an operation left them. -/
inductive StorageStep where
  | sent (command : UInt32)
  | files (files : Files)

/-- `fpc_write_db_blob_to_file`, with its steps. -/
def tracedWriteDbBlobToFile (calls : HostCalls) (files : Files) (blob path : List UInt8) :
    Traced StorageStep (Int × Files) :=
  if !calls.openFile then pure (-fpcErrorIo, files)
  else do
    -- `O_TRUNC`
    let emptied := Function.update files path (some [])
    Traced.perform (.files emptied)
    match calls.write with
    | none => pure (-fpcErrorIo, emptied)
    | some written => do
        let files := Function.update files path (some (blob.take written))
        Traced.perform (.files files)
        if written < blob.length then pure (-fpcErrorIo, files) else pure (0, files)

/-- The part of `fpc_tee_store_template_db` with the transfer open, with its steps. -/
def tracedStoreBlob (tac : Tac) (envs : Nat → Env) (calls : HostCalls) (host : Host)
    (blobSize : Nat) (path : List UInt8) : Traced StorageStep (Int × Host) :=
  match malloc calls.malloc blobSize with
  | none => pure (-fpcErrorAlloc, host)
  | some blob => do
      let (result, tee, blob) ← Traced.quiet (sendDbReadCommands tac envs host.tee blob)
      if result < 0 then pure (result, { host with tee := tee })
      else do
        let (result, files) ← tracedWriteDbBlobToFile calls host.files blob (path ++ bak)
        if result < 0 then pure (result, { tee := tee, files := files })
        else if !calls.rename then do
          let unlinked := Function.update files (path ++ bak) none
          Traced.perform (.files unlinked)
          pure (-fpcErrorIo, { tee := tee, files := unlinked })
        else do
          let renamed := renameFile files (path ++ bak) path
          Traced.perform (.files renamed)
          pure (result, { tee := tee, files := renamed })

/-- `fpc_tee_store_template_db`, with its steps. -/
def tracedStoreTemplateDb (tac : Tac) (envs : Nat → Env) (calls : HostCalls) (host : Host)
    (path : List UInt8) : Traced StorageStep (Int × Host) :=
  if pathMax ≤ (path ++ bak).length then pure (-fpcErrorInput, host)
  else do
    Traced.perform (.sent fpcTaBioGetDbSizeCmd)
    let (result, blobSize, tee) ← Traced.quiet (getDbBlobSize tac envs host.tee)
    let host := { host with tee := tee }
    if result < 0 then pure (result, host)
    else if blobSize = 0 then pure (-fpcErrorIo, host)
    else do
      Traced.perform (.sent fpcTaBioDbOpenCmd)
      let (result, tee) ← Traced.quiet
        (dbOpen tac envs host.tee (UInt32.ofNat fpcTaBioDbRdonly) (UInt32.ofNat blobSize))
      let host := { host with tee := tee }
      let (result, host) ←
        if result < 0 then pure (result, host)
        else tracedStoreBlob tac envs calls host blobSize path
      Traced.perform (.sent fpcTaBioDbCloseCmd)
      let (_, tee) ← Traced.quiet (dbClose tac envs host.tee)
      pure (result, { host with tee := tee })

/-- `fpc_tee_load_template_db`, with its steps. -/
def tracedLoadTemplateDb (tac : Tac) (envs : Nat → Env) (calls : HostCalls) (host : Host)
    (path : List UInt8) : Traced StorageStep (Int × Tee) :=
  let (result, fileSize) := getFileSize calls host.files path
  if result < 0 then pure (result, host.tee)
  else if fileSize = 0 then do
    Traced.perform (.sent fpcTaBioLoadEmptyDbCmd)
    Traced.quiet (fpcTeeLoadEmptyDb tac envs host.tee)
  else do
    Traced.perform (.sent fpcTaBioDbOpenCmd)
    let (result, tee) ← Traced.quiet
      (dbOpen tac envs host.tee (UInt32.ofNat fpcTaBioDbWronly) (UInt32.ofNat fileSize))
    if result < 0 then do
      Traced.perform (.sent fpcTaBioDbCloseCmd)
      let (_, tee) ← Traced.quiet (dbClose tac envs tee)
      pure (result, tee)
    else
      match malloc calls.malloc fileSize with
      | none => pure (-fpcErrorAlloc, tee)
      | some fileBuffer => do
          let (result, tee) ← Traced.quiet
            (loadBlob tac envs calls { host with tee := tee } fileBuffer path)
          Traced.perform (.sent fpcTaBioDbCloseCmd)
          let (_, tee) ← Traced.quiet (dbClose tac envs tee)
          pure (result, tee)

section

variable (tac : Tac) (envs : Nat → Env) (calls : HostCalls) (host : Host) (path : List UInt8)

theorem tracedWriteDbBlobToFile_outcome (files : Files) (blob : List UInt8) :
    (tracedWriteDbBlobToFile calls files blob path).outcome
      = .ok (fpcWriteDbBlobToFile calls files blob path) := by
  unfold tracedWriteDbBlobToFile fpcWriteDbBlobToFile
  split
  · rfl
  · cases calls.write with
    | none => rfl
    | some written =>
      dsimp only
      split
      · simp
      · simp

theorem tracedStoreBlob_outcome (blobSize : Nat) :
    (tracedStoreBlob tac envs calls host blobSize path).outcome
      = storeBlob tac envs calls host blobSize path := by
  unfold tracedStoreBlob storeBlob
  cases malloc calls.malloc blobSize with
  | none => rfl
  | some blob =>
    dsimp only
    rw [Traced.outcome_bind, Traced.outcome_quiet]
    congr 1
    funext r
    split
    · rfl
    · rw [Traced.outcome_bind, tracedWriteDbBlobToFile_outcome, ok_bind]
      split
      · rfl
      · split
        · simp
        · simp

/-- Without its steps it is the function of the client. -/
theorem tracedStoreTemplateDb_outcome :
    (tracedStoreTemplateDb tac envs calls host path).outcome
      = fpcTeeStoreTemplateDb tac envs calls host path := by
  unfold tracedStoreTemplateDb fpcTeeStoreTemplateDb
  split
  · rfl
  · rw [Traced.outcome_bind, Traced.outcome_perform, ok_bind, Traced.outcome_bind,
      Traced.outcome_quiet]
    congr 1
    funext r
    dsimp only
    split
    · rfl
    · split
      · rfl
      · rw [Traced.outcome_bind, Traced.outcome_perform, ok_bind, Traced.outcome_bind,
          Traced.outcome_quiet]
        congr 1
        funext opened
        split
        · simp
        · simp [tracedStoreBlob_outcome]

theorem tracedLoadTemplateDb_outcome :
    (tracedLoadTemplateDb tac envs calls host path).outcome
      = fpcTeeLoadTemplateDb tac envs calls host path := by
  unfold tracedLoadTemplateDb fpcTeeLoadTemplateDb
  dsimp only
  split
  · rfl
  · split
    · simp
    · rw [Traced.outcome_bind, Traced.outcome_perform, ok_bind, Traced.outcome_bind,
        Traced.outcome_quiet]
      congr 1
      funext opened
      split
      · simp
      · cases malloc calls.malloc (getFileSize calls host.files path).2 with
        | none => rfl
        | some fileBuffer => simp

end

/-! ## The transfer at the end -/

/-- A call that sent a `DB_OPEN` leaves the transfer of the application closed. -/
def LeavesClosed {α : Type} (traced : Traced StorageStep α) (tee : α → Tee) : Prop :=
  .sent fpcTaBioDbOpenCmd ∈ traced.calls →
    ∀ r, traced.outcome = .ok r → (tee r).ta.transfer.mode = -1

/-- The load of a file that opens a transfer and then gets no memory for the file. -/
structure OpensInVain (envs : Nat → Env) (calls : HostCalls) (host : Host) (path : List UInt8) :
    Prop where
  stat : calls.stat = true
  file : ∃ content, host.files path = some content ∧ content.length ≠ 0 ∧
    (UInt32.ofNat content.length).toNat ≠ 0 ∧
    (UInt32.ofNat content.length).toNat ≤ fpcTaMaxTransfer
  closed : host.tee.ta.transfer.mode = -1
  opens : (envs host.tee.messages).blob.mallocData = true
  noMemory : calls.malloc = none

section

variable {P : Platform} {tac : Tac} {sees : Int → Int} {envs : Nat → Env} {calls : HostCalls}
  {host : Host} {path : List UInt8}

/-- `db_close` leaves the transfer closed, whatever it was. -/
theorem dbClose_closes {tee tee' : Tee} {result : Int} (hdelivers : tac.Delivers P sees)
    (hbuffer : sizeofBioCommand ≤ tee.sharedBuffer.length)
    (h : dbClose tac envs tee = .ok (result, tee')) : tee'.ta.transfer.mode = -1 := by
  obtain ⟨closed, hclose, hta⟩ := dbClose_ok envs hdelivers hbuffer
  rw [hclose] at h
  cases h
  rw [hta]
  rfl

theorem storeBlob_buffer {host' : Host} {result : Int} {blobSize : Nat}
    (h : storeBlob tac envs calls host blobSize path = .ok (result, host')) :
    host'.tee.sharedBuffer = host.tee.sharedBuffer := by
  unfold storeBlob at h
  split at h
  · cases h
    rfl
  · obtain ⟨⟨read, tee, blob⟩, hread, h⟩ := bind_eq_ok.mp h
    have hkept := sendDbReadCommands_buffer hread
    dsimp only at h
    split at h
    · cases h
      exact hkept
    · split at h
      · cases h
        exact hkept
      · split at h
        · cases h
          exact hkept
        · cases h
          exact hkept

theorem loadBlob_buffer {tee' : Tee} {fileBuffer : List UInt8} {result : Int}
    (h : loadBlob tac envs calls host fileBuffer path = .ok (result, tee')) :
    tee'.sharedBuffer = host.tee.sharedBuffer := by
  unfold loadBlob at h
  dsimp only at h
  split at h
  · cases h
    rfl
  · obtain ⟨⟨write, tee, blob⟩, hwrite, h⟩ := bind_eq_ok.mp h
    cases h
    exact sendDbWriteCommands_buffer hwrite

/-- A store that comes to its `DB_OPEN` comes to the `DB_CLOSE` behind it. -/
theorem tracedStoreTemplateDb_closed (hdelivers : tac.Delivers P sees)
    (hbuffer : sizeofBioCommand ≤ host.tee.sharedBuffer.length) :
    LeavesClosed (tracedStoreTemplateDb tac envs calls host path) fun r => r.2.tee := by
  intro hsent r hr
  rw [tracedStoreTemplateDb_outcome] at hr
  unfold tracedStoreTemplateDb at hsent
  unfold fpcTeeStoreTemplateDb at hr
  split at hsent
  · simp at hsent
  · next hpath =>
    rw [if_neg hpath] at hr
    obtain ⟨⟨result, blobSize, sized⟩, hsize, hr⟩ := bind_eq_ok.mp hr
    have hsized := getDbBlobSize_buffer hdelivers.carries hbuffer hsize
    obtain heq | hsent := Traced.mem_calls_perform_bind.mp hsent
    · cases heq
    · obtain hsent | ⟨a, ha, hsent⟩ := Traced.mem_calls_bind.mp hsent
      · simp at hsent
      rw [Traced.outcome_quiet, hsize] at ha
      cases ha
      dsimp only at hsent hr
      -- the calls that return before `DB_OPEN` send nothing more
      split at hsent
      · simp at hsent
      · next hnonneg =>
        rw [if_neg hnonneg] at hr
        split at hsent
        · simp at hsent
        · next hne =>
          rw [if_neg hne] at hr
          obtain ⟨⟨opening, opened⟩, hopen, hr⟩ := bind_eq_ok.mp hr
          have hopened := dbOpen_buffer hdelivers.carries (by rw [hsized]; exact hbuffer) hopen
          dsimp only at hr
          split at hr
          · rw [ok_bind] at hr
            obtain ⟨⟨closing, closed⟩, hclose, hr⟩ := bind_eq_ok.mp hr
            cases hr
            exact dbClose_closes hdelivers (by rw [hopened, hsized]; exact hbuffer) hclose
          · obtain ⟨⟨stored, host'⟩, hstore, hr⟩ := bind_eq_ok.mp hr
            obtain ⟨⟨closing, closed⟩, hclose, hr⟩ := bind_eq_ok.mp hr
            cases hr
            have hkept := storeBlob_buffer hstore
            exact dbClose_closes hdelivers
              (by rw [hkept, hopened, hsized]; exact hbuffer) hclose

/-- An application opens a transfer for writing, or answers with an error. -/
theorem fpcTaDbOpen_wronly (P : Platform) (env : Env) (bio : Bio) (transfer : Transfer)
    (size : Nat) :
    ((transfer.mode = -1 ∧ size ≠ 0 ∧ size ≤ fpcTaMaxTransfer ∧ env.blob.mallocData = true) ∧
        fpcTaDbOpen P env bio transfer (UInt32.ofNat fpcTaBioDbWronly) size
          = .ok (0, .writing size)) ∨
      (¬ (transfer.mode = -1 ∧ size ≠ 0 ∧ size ≤ fpcTaMaxTransfer ∧
          env.blob.mallocData = true) ∧
        ∃ code transfer', IsError code ∧
          fpcTaDbOpen P env bio transfer (UInt32.ofNat fpcTaBioDbWronly) size
            = .ok (code, transfer')) := by
  have hmode : (UInt32.ofNat fpcTaBioDbWronly).toNat = fpcTaBioDbWronly := by decide
  unfold fpcTaDbOpen
  rw [if_pos hmode]
  split
  · next hopen => exact Or.inr ⟨fun h => hopen h.1, _, _, by decide, rfl⟩
  · next hclosed =>
    split
    · next hrange =>
      refine Or.inr ⟨?_, _, _, by decide, rfl⟩
      intro h
      omega
    · next hrange =>
      split
      · next hmalloc =>
        refine Or.inr ⟨?_, _, _, by decide, rfl⟩
        intro h
        rw [h.2.2.2] at hmalloc
        cases hmalloc
      · next hmalloc =>
        exact Or.inl ⟨⟨not_not.mp hclosed, by omega, by omega, by simpa using hmalloc⟩, rfl⟩

/-- What `db_open` returns when it asks for a transfer to write to. -/
theorem dbOpen_wronly (envs : Nat → Env) {tee : Tee} (size : UInt32) (hdelivers : tac.Delivers P sees)
    (hbuffer : sizeofBioCommand ≤ tee.sharedBuffer.length) :
    ((tee.ta.transfer.mode = -1 ∧ size.toNat ≠ 0 ∧ size.toNat ≤ fpcTaMaxTransfer ∧
          (envs tee.messages).blob.mallocData = true) ∧
        ∃ opened, dbOpen tac envs tee (UInt32.ofNat fpcTaBioDbWronly) size = .ok (0, opened) ∧
          opened.ta.transfer = .writing size.toNat) ∨
      (¬ (tee.ta.transfer.mode = -1 ∧ size.toNat ≠ 0 ∧ size.toNat ≤ fpcTaMaxTransfer ∧
          (envs tee.messages).blob.mallocData = true) ∧
        ∃ code refused, code < 0 ∧
          dbOpen tac envs tee (UInt32.ofNat fpcTaBioDbWronly) size = .ok (code, refused)) := by
  obtain ⟨answered, _, heq⟩ := dbOpen_eq envs (UInt32.ofNat fpcTaBioDbWronly) size hdelivers hbuffer
  rw [heq]
  cases fpcTaDbOpen_wronly P (envs tee.messages) tee.ta.bio tee.ta.transfer size.toNat with
  | inl hopens =>
    rw [hopens.2]
    exact Or.inl ⟨hopens.1, _, rfl, rfl⟩
  | inr hrefuses =>
    obtain ⟨hnot, code, transfer', herror, hopen⟩ := hrefuses
    rw [hopen, ok_bind, toInt32_ofInt32 herror.fitsInt]
    exact Or.inr ⟨hnot, code, _, herror.2, rfl⟩

/-- A load whose transfer is opened in vain sends a `DB_OPEN` and leaves the transfer open. -/
theorem OpensInVain.not_closed (h : OpensInVain envs calls host path)
    (hdelivers : tac.Delivers P sees)
    (hbuffer : sizeofBioCommand ≤ host.tee.sharedBuffer.length) :
    ¬ LeavesClosed (tracedLoadTemplateDb tac envs calls host path) Prod.snd := by
  obtain ⟨content, hcontent, hne, hlow, hhigh⟩ := h.file
  have hsize : getFileSize calls host.files path = (0, content.length) := by
    unfold getFileSize
    rw [h.stat, hcontent]
    rfl
  cases dbOpen_wronly envs (UInt32.ofNat content.length) hdelivers hbuffer with
  | inr hrefuses => exact absurd ⟨h.closed, hlow, hhigh, h.opens⟩ hrefuses.1
  | inl hopens =>
    obtain ⟨_, opened, hopen, htransfer⟩ := hopens
    intro hcloses
    unfold tracedLoadTemplateDb at hcloses
    rw [hsize] at hcloses
    dsimp only at hcloses
    rw [if_neg (by decide), if_neg hne] at hcloses
    have hmode := hcloses (by rw [Traced.calls_perform_bind]; exact List.mem_cons_self)
      (-fpcErrorAlloc, opened) (by
        rw [Traced.outcome_bind, Traced.outcome_perform, ok_bind, Traced.outcome_bind,
          Traced.outcome_quiet, hopen, ok_bind, h.noMemory]
        rfl)
    rw [htransfer] at hmode
    cases hmode

/-- Every other load closes what it opened. -/
theorem tracedLoadTemplateDb_closed (hdelivers : tac.Delivers P sees)
    (hbuffer : sizeofBioCommand ≤ host.tee.sharedBuffer.length)
    (hnot : ¬ OpensInVain envs calls host path) :
    LeavesClosed (tracedLoadTemplateDb tac envs calls host path) Prod.snd := by
  intro hsent r hr
  rw [tracedLoadTemplateDb_outcome] at hr
  unfold tracedLoadTemplateDb at hsent
  unfold fpcTeeLoadTemplateDb at hr
  generalize hsize : getFileSize calls host.files path = sized at hsent hr
  dsimp only at hsent hr
  -- a file that is missing or empty is not transferred
  split at hsent
  · simp at hsent
  · next hnonneg =>
    rw [if_neg hnonneg] at hr
    split at hsent
    · obtain heq | hsent := Traced.mem_calls_perform_bind.mp hsent
      · cases heq
      · simp at hsent
    · next hne =>
      rw [if_neg hne] at hr
      obtain ⟨⟨opening, opened⟩, hopen, hr⟩ := bind_eq_ok.mp hr
      have hopened := dbOpen_buffer hdelivers.carries hbuffer hopen
      dsimp only at hr
      split at hr
      · obtain ⟨⟨closing, closed⟩, hclose, hr⟩ := bind_eq_ok.mp hr
        cases hr
        exact dbClose_closes hdelivers (by rw [hopened]; exact hbuffer) hclose
      · next hopening =>
        split at hr
        · next hmalloc =>
          -- the transfer was opened, and there is no memory for the file
          exfalso
          apply hnot
          cases dbOpen_wronly envs (UInt32.ofNat sized.2) hdelivers hbuffer with
          | inr hrefuses =>
            obtain ⟨_, code, refused, herror, hrefused⟩ := hrefuses
            rw [hrefused] at hopen
            cases hopen
            exact absurd herror hopening
          | inl hopens =>
            obtain ⟨⟨hclosed, hlow, hhigh, hdata⟩, _⟩ := hopens
            unfold getFileSize at hsize
            split at hsize
            · rw [← hsize] at hnonneg
              exact absurd (by decide) hnonneg
            · next hstat =>
              cases hfile : host.files path with
              | none =>
                rw [hfile] at hsize
                rw [← hsize] at hne
                exact absurd rfl hne
              | some content =>
                rw [hfile] at hsize
                rw [← hsize] at hne hlow hhigh
                exact { stat := by simpa using hstat
                        file := ⟨content, hfile, hne, hlow, hhigh⟩
                        closed := hclosed
                        opens := hdata
                        noMemory := Option.map_eq_none_iff.mp hmalloc }
        · next fileBuffer _ =>
          obtain ⟨⟨result, loaded⟩, hload, hr⟩ := bind_eq_ok.mp hr
          obtain ⟨⟨closing, closed⟩, hclose, hr⟩ := bind_eq_ok.mp hr
          cases hr
          have hkept := loadBlob_buffer hload
          exact dbClose_closes hdelivers (by rw [hkept, hopened]; exact hbuffer) hclose

/-- **When a storage call leaves the transfer closed.** Over a transport that delivers, and from any
state of the application, a store that sends a `DB_OPEN` and returns leaves the transfer closed. A
load does exactly if it does not open a transfer and then fail to allocate the buffer for the
file. -/
theorem storage_leavesClosed (hdelivers : tac.Delivers P sees)
    (hbuffer : sizeofBioCommand ≤ host.tee.sharedBuffer.length) :
    LeavesClosed (tracedStoreTemplateDb tac envs calls host path) (fun r => r.2.tee) ∧
      (LeavesClosed (tracedLoadTemplateDb tac envs calls host path) Prod.snd ↔
        ¬ OpensInVain envs calls host path) := by
  refine ⟨tracedStoreTemplateDb_closed hdelivers hbuffer, ?_, ?_⟩
  · intro hcloses hvain
    exact hvain.not_closed hdelivers hbuffer hcloses
  · exact tracedLoadTemplateDb_closed hdelivers hbuffer

end

theorem sampleStorage_leavesClosed :
    ∃ ta, fpcTaRouterInit .willing = .ok ta ∧
      LeavesClosed (tracedStoreTemplateDb sampleTac (fun _ => .sealing) sampleCalls
        (sampleHost ta sampleBlob) []) (fun r => r.2.tee) ∧
      LeavesClosed (tracedLoadTemplateDb sampleTac (fun _ => .sealing) sampleCalls
        (sampleHost ta sampleBlob) []) Prod.snd := by
  obtain ⟨ta, hinit, _⟩ := exists_of_decided (x := fpcTaRouterInit .willing)
    (fun ta => ta.transfer.mode = -1) (by decide +kernel)
  have hcloses := @storage_leavesClosed samplePlatform sampleTac _ (fun _ => .sealing) sampleCalls
    (sampleHost ta sampleBlob) [] (fpcUtTac_delivers samplePlatform _)
    (sampleHost_buffer ta sampleBlob)
  refine ⟨ta, hinit, hcloses.1, hcloses.2.mpr ?_⟩
  intro hvain
  cases hvain.noMemory

/-- A load without memory for the file, from the state after `init`, leaves the transfer open. -/
theorem sampleLoad_leavesOpen :
    ∃ ta, fpcTaRouterInit .willing = .ok ta ∧
      ¬ LeavesClosed (tracedLoadTemplateDb sampleTac (fun _ => .sealing)
        { sampleCalls with malloc := none } (sampleHost ta sampleBlob) []) Prod.snd := by
  obtain ⟨ta, hinit, hclosed⟩ := exists_of_decided (x := fpcTaRouterInit .willing)
    (fun ta => ta.transfer.mode = -1) (by decide +kernel)
  have hvain : OpensInVain (fun _ => .sealing) { sampleCalls with malloc := none }
      (sampleHost ta sampleBlob) [] :=
    { stat := rfl
      file := ⟨sampleBlob, rfl, by decide, by decide, by decide⟩
      closed := hclosed
      opens := rfl
      noMemory := rfl }
  exact ⟨ta, hinit, hvain.not_closed (fpcUtTac_delivers samplePlatform _)
    (sampleHost_buffer ta sampleBlob)⟩

end Fpc
