import Fingerprints.Ta.Fs
import Fingerprints.Ta.Transfer
import Fingerprints.Wire.Traced

/-!
# The file while a database is written

`fpc_fs_write` of `fpc_ta_fs_ut.c` and `fpc_ta_store_db_to_file` once more, with what the file holds
after every operation on it. The file that is opened is the one that the database is stored in, and
opening it truncates it: **`tracedStoreDbToFile_calls`** says what the file goes through.
-/

namespace Fpc

open Wire Wire.Outcome

/-- `DB_PATH_PRE_FIX`, `"../../../"` -/
def dbPathPreFix : List UInt8 := [0x2E, 0x2E, 0x2F, 0x2E, 0x2E, 0x2F, 0x2E, 0x2E, 0x2F]

def maxPathLength : Nat := 128

/-- `transform_path`: what the buffer for the path holds, where the path fits. -/
def transformPath (pathIn : List UInt8) : Option (List UInt8) :=
  if dbPathPreFix.length + pathIn.length > maxPathLength then none
  else some (overFront (List.replicate maxPathLength 0) (dbPathPreFix ++ pathIn))

/-- What the calls of the file system do in one `fpc_fs_write`. -/
structure TsCalls where
  /-- `ut_pf_ts_open` opens the file. -/
  openFile : Bool
  /-- The bytes that reach the file, and whether `ut_pf_ts_write` returns their number or an
  error. -/
  written : Nat
  counts : Bool
  /-- `ut_pf_ts_close` returns 0. -/
  close : Bool
  deriving DecidableEq, Repr

/-- What `ut_pf_ts_write` returns for so many bytes. -/
def TsCalls.retval (calls : TsCalls) (size : Nat) : Int :=
  if calls.counts then ((min calls.written size : Nat) : Int) else -1

/-- `fpc_fs_write`, with what the file holds after opening it, writing to it and closing it. -/
def tracedFsWrite (calls : TsCalls) (path buf : List UInt8) :
    Traced (Option (List UInt8)) Int :=
  match transformPath path with
  | none => pure (-fpcErrorInput)
  | some tranPath =>
      -- a path that fills its buffer has no end
      if !tranPath.contains 0 then Traced.quiet (.fault (.load maxPathLength))
      else if !calls.openFile then pure (-fpcErrorIo)
      else do
        -- `UT_PF_TS_O_TRUNC`
        Traced.perform (some [])
        let content := buf.take calls.written
        Traced.perform (some content)
        let retval := calls.retval buf.length
        Traced.perform (some content)
        if retval < 0 then pure (-fpcErrorIo)
        else if toInt32 (UInt32.ofNat buf.length) ≠ retval then pure (-fpcErrorIo)
        else if !calls.close then pure (-fpcErrorIo)
        else pure retval

/-- `fpc_ta_store_db_to_file`, with what the file holds after every operation on it. -/
def tracedStoreDbToFile (env : Env) (calls : TsCalls) (bio : Bio) (path : List UInt8) :
    Traced (Option (List UInt8)) Int :=
  match getDataSize bio.userDb with
  | .fault f => Traced.quiet (.fault f)
  | .err code => pure code
  | .ok sizeDb =>
      if sizeDb = 0 then pure (-fpcErrorInput)
      else if !env.fs.malloc then pure (-fpcErrorAlloc)
      else
        match getData bio.userDb (List.replicate sizeDb 0) sizeDb with
        | .fault f => Traced.quiet (.fault f)
        | .err code => pure code
        | .ok dbData => do
            let status ← tracedFsWrite calls path dbData
            if status ≤ 0 then pure status else pure 0

/-- The string in the payload of a message. -/
def stringOf (msg : List UInt8) : List UInt8 := (msg.drop offArray).takeWhile (· ≠ 0)

/-- The case of `fpc_ta_fs_handler` that stores, with what the file holds after every operation on
it. -/
def tracedStoreDb (env : Env) (calls : TsCalls) (ta : Ta) (msg : List UInt8) :
    Traced (Option (List UInt8)) Handled := do
  let valid ← Traced.quiet (byteArrayStringValid msg)
  if !valid then pure (.rejected ta msg (-fpcErrorInput))
  else do
    let response ← tracedStoreDbToFile env calls ta.bio (stringOf msg)
    let msg ← Traced.quiet (store32 msg offResponse (ofInt32 response))
    pure { ta := ta, msg := msg, status := 0 }

/-- The file system that writes with this status. -/
def Env.fsWriting (env : Env) (write : Int32) : Env := { env with fs := { env.fs with write := write } }

/-! ## Forgetting the file -/

section

variable {env : Env} {calls : TsCalls} {bio : Bio} {ta : Ta} {path buf msg packed : List UInt8}

/-- A path that is shorter than its buffer ends in it. -/
theorem transformPath_terminated (h : dbPathPreFix.length + path.length < maxPathLength) :
    ∃ tranPath, transformPath path = some tranPath ∧ tranPath.contains 0 = true := by
  unfold transformPath
  rw [if_neg (by omega)]
  refine ⟨_, rfl, ?_⟩
  rw [List.contains_iff_mem]
  unfold overFront
  refine List.mem_append_right _ (List.mem_of_getElem? (i := 0) ?_)
  rw [List.getElem?_drop, List.getElem?_replicate, if_pos ?_]
  rw [List.length_append]
  omega

/-- A path that ends in its buffer is shorter than it. -/
theorem transformPath_full {tranPath : List UInt8} (hstring : 0 ∉ path)
    (h : transformPath path = some tranPath) (hend : tranPath.contains 0 = true) :
    dbPathPreFix.length + path.length < maxPathLength := by
  unfold transformPath at h
  split at h
  · cases h
  · next hfits =>
    by_contra hlong
    have hlength : (dbPathPreFix ++ path).length = maxPathLength := by
      rw [List.length_append]
      omega
    rw [← Option.some.inj h, overFront_eq (by rw [hlength, List.length_replicate]), List.contains_iff_mem] at hend
    cases List.mem_append.mp hend with
    | inl hprefix => exact absurd hprefix (by decide)
    | inr hpath => exact hstring hpath

/-- What the file goes through in a write of `buf`. -/
def TsCalls.contents (calls : TsCalls) (buf : List UInt8) : List (Option (List UInt8)) :=
  [some [], some (buf.take calls.written), some (buf.take calls.written)]

/-- A write that opens the file goes through its three contents. -/
theorem tracedFsWrite_opened (hshort : dbPathPreFix.length + path.length < maxPathLength)
    (hopen : calls.openFile = true) :
    (tracedFsWrite calls path buf).calls = calls.contents buf := by
  obtain ⟨tranPath, htran, hend⟩ := transformPath_terminated hshort
  unfold tracedFsWrite
  rw [htran]
  dsimp only
  rw [hend, hopen, if_neg (by decide), if_neg (by decide), Traced.calls_perform_bind,
    Traced.calls_perform_bind, Traced.calls_perform_bind, TsCalls.contents]
  -- no status changes the file
  simp only [List.cons.injEq, true_and]
  split
  · exact Traced.calls_pure _
  · split
    · exact Traced.calls_pure _
    · split
      · exact Traced.calls_pure _
      · exact Traced.calls_pure _

/-- A write that does not open it leaves it alone. -/
theorem tracedFsWrite_unopened (hstring : 0 ∉ path)
    (hnot : ¬ (dbPathPreFix.length + path.length < maxPathLength ∧ calls.openFile = true)) :
    (tracedFsWrite calls path buf).calls = [] := by
  unfold tracedFsWrite
  split
  · rfl
  · next tranPath htran =>
    split
    · rfl
    · next hend =>
      split
      · rfl
      · next hopen =>
        have hfull := transformPath_full hstring htran (by simpa using hend)
        exact absurd ⟨hfull, by simpa using hopen⟩ hnot

/-- The status of `fpc_fs_write` is that of some file system. -/
theorem tracedFsWrite_status {status : Int} (h : (tracedFsWrite calls path buf).outcome = .ok status) :
    ∃ write : Int32, write.toInt = status := by
  have hint : ∀ n : Int, FitsInt n → ∃ write : Int32, write.toInt = n :=
    fun n hn => ⟨Int32.ofInt n, Int32.toInt_ofInt_of_le hn.1 hn.2⟩
  unfold tracedFsWrite at h
  split at h
  · cases h
    exact hint _ (by decide)
  · split at h
    · cases h
    · split at h
      · cases h
        exact hint _ (by decide)
      · simp only [Traced.outcome_bind, Traced.outcome_perform, ok_bind] at h
        split at h
        · cases h
          exact hint _ (by decide)
        · split at h
          · cases h
            exact hint _ (by decide)
          · next heq =>
            split at h
            · cases h
              exact hint _ (by decide)
            · cases h
              exact ⟨_, not_not.mp heq⟩

variable (calls buf) in
/-- A path that does not fill its buffer is no fault. -/
theorem tracedFsWrite_returns (hfills : dbPathPreFix.length + path.length ≠ maxPathLength) :
    ∃ status, (tracedFsWrite calls path buf).outcome = .ok status := by
  unfold tracedFsWrite
  split
  · exact ⟨_, rfl⟩
  · next tranPath htran =>
    have hshort : dbPathPreFix.length + path.length < maxPathLength := by
      unfold transformPath at htran
      split at htran
      · cases htran
      · omega
    obtain ⟨_, hsame, hend⟩ := transformPath_terminated hshort
    rw [Option.some.inj (htran.symm.trans hsame), hend, if_neg (by decide)]
    split
    · exact ⟨_, rfl⟩
    · simp only [Traced.outcome_bind, Traced.outcome_perform, ok_bind]
      split
      · exact ⟨_, rfl⟩
      · split
        · exact ⟨_, rfl⟩
        · split
          · exact ⟨_, rfl⟩
          · exact ⟨_, rfl⟩

variable (calls) in
/-- Without the file it is the function of the module, with some status from the file system. -/
theorem tracedStoreDbToFile_outcome (env : Env) (bio : Bio)
    (hfills : dbPathPreFix.length + path.length ≠ maxPathLength) :
    ∃ write, (tracedStoreDbToFile env calls bio path).outcome
      = fpcTaStoreDbToFile (env.fsWriting write) bio := by
  unfold tracedStoreDbToFile fpcTaStoreDbToFile Env.fsWriting
  cases getDataSize bio.userDb with
  | fault f => exact ⟨0, rfl⟩
  | err code => exact ⟨0, rfl⟩
  | ok sizeDb =>
    dsimp only
    split
    · exact ⟨0, rfl⟩
    · split
      · exact ⟨0, rfl⟩
      · cases getData bio.userDb (List.replicate sizeDb 0) sizeDb with
        | fault f => exact ⟨0, rfl⟩
        | err code => exact ⟨0, rfl⟩
        | ok dbData =>
          obtain ⟨status, hstatus⟩ := tracedFsWrite_returns calls dbData hfills
          obtain ⟨write, rfl⟩ := tracedFsWrite_status hstatus
          refine ⟨write, ?_⟩
          dsimp only
          rw [Traced.outcome_bind, hstatus, ok_bind]
          have hsign : write ≤ 0 ↔ write.toInt ≤ 0 := by
            rw [Int32.le_iff_toInt_le, Int32.toInt_zero]
          by_cases hle : write ≤ 0
          · rw [if_pos hle, if_pos (hsign.mp hle)]
            rfl
          · rw [if_neg hle, if_neg fun h => hle (hsign.mpr h)]
            rfl

/-! ## The file in a store -/

/-- A database packs to one image. -/
theorem PacksTo.unique {pDb : Option FingerprintDatabase} {packed packed' : List UInt8}
    (h : PacksTo pDb packed) (h' : PacksTo pDb packed') : packed = packed' := by
  obtain ⟨n, hn, _, hpacked⟩ := h
  obtain ⟨n', hn', _, hpacked'⟩ := h'
  rw [hn] at hn'
  cases hn'
  rw [hpacked] at hpacked'
  cases hpacked'
  rfl

/-- An image is shorter than any counter. -/
theorem PacksTo.length_lt {pDb : Option FingerprintDatabase} (h : PacksTo pDb packed) :
    packed.length < 2 ^ 32 := by
  obtain ⟨n, hn, _, hpacked⟩ := h
  cases pDb with
  | none => cases hn
  | some db =>
    rw [length_of_fpcDbGetData List.length_replicate hpacked]
    unfold getDataSize fpcDbGetDataSize dbPack at hn
    dsimp only at hn
    rw [dbPackV4_count, ok_bind] at hn
    dsimp only at hn
    split at hn
    · cases hn
    · cases hn
      exact wrap32_lt _

/-- A store of a database that packs writes the image. -/
theorem tracedStoreDbToFile_packs (hpacks : PacksTo bio.userDb packed)
    (hmalloc : env.fs.malloc = true) :
    tracedStoreDbToFile env calls bio path
      = (tracedFsWrite calls path packed >>= fun status =>
          if status ≤ 0 then pure status else pure 0) := by
  obtain ⟨n, hn, hne, hpacked⟩ := hpacks
  unfold tracedStoreDbToFile
  rw [hn]
  dsimp only
  rw [if_neg hne, hmalloc, if_neg (by decide), hpacked]

/-- A store that does not come to write leaves the file alone. -/
theorem tracedStoreDbToFile_unwritten
    (hnot : ¬ ∃ packed, PacksTo bio.userDb packed ∧ env.fs.malloc = true) :
    (tracedStoreDbToFile env calls bio path).calls = [] := by
  unfold tracedStoreDbToFile
  cases hn : getDataSize bio.userDb with
  | fault f => rfl
  | err code => rfl
  | ok sizeDb =>
    dsimp only
    split
    · rfl
    · next hne =>
      split
      · rfl
      · next hmalloc =>
        cases hpacked : getData bio.userDb (List.replicate sizeDb 0) sizeDb with
        | fault f => rfl
        | err code => rfl
        | ok dbData =>
          exact absurd ⟨dbData, ⟨sizeDb, hn, hne, hpacked⟩, by simpa using hmalloc⟩ hnot

/-- **What the file goes through in a store**, for the image of the database that is stored. -/
theorem tracedStoreDbToFile_calls (hpacks : PacksTo bio.userDb packed)
    (hmalloc : env.fs.malloc = true) :
    (tracedStoreDbToFile env calls bio path).calls = (tracedFsWrite calls path packed).calls := by
  rw [tracedStoreDbToFile_packs hpacks hmalloc]
  refine Traced.calls_bind_of_quiet fun status => ?_
  split
  · rfl
  · rfl

end

end Fpc
