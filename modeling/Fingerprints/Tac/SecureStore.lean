import Fingerprints.Db.RoundTrip
import Fingerprints.Ta.FileWrite
import Fingerprints.Tac.Bio
import Fingerprints.Tac.Chunks
import Fingerprints.Tac.SecureStorage
import Fingerprints.Tac.Storage

/-!
# A store overwrites the file in place

`fpc_tee_store_template_db` of `fpc_tee_secure_storage.c` once more, with what the file holds after
every operation that the application performs on it. The name of the file is the path itself: what
would write to another file and rename it is commented out. So what the file held is gone once it
is opened, and a store that fails, or is stopped, behind that keeps a database only where the whole
image was written: **`store_keepsDatabase_iff`**.
-/

namespace Fpc.SecureStorage

open Wire Wire.Outcome

/-- What becomes of one invocation of the trusted application. -/
inductive Invocation where
  | delivered
  | unreported
  | lost
  deriving DecidableEq, Repr

/-- The client of `fpc_ut_tac.c`, over such an invocation. -/
def invokingTac (P : Platform) (alloc : SharedAlloc) : Invocation → Tac
  | .delivered => fpcUtTac P alloc
  | .unreported =>
      { allocShared := (fpcUtTac P alloc).allocShared
        transfer := fun env ta msg => do
          let r ← fpcTaRouteCommand P env ta msg
          .ok (fpcTacTransfer none, r.ta, r.msg) }
  | .lost => fpcUtTacFailing alloc

/-- `fpc_tac_transfer` of a message that stores, with what the file holds after every operation. -/
def tracedTransfer (invocation : Invocation) (env : Env) (calls : TsCalls) (tee : Tee)
    (shared : List UInt8) : Traced (Option (List UInt8)) (Int × Tee × List UInt8) :=
  match invocation with
  | .delivered => do
      let r ← tracedStoreDb env calls tee.ta shared
      pure (fpcTacTransfer (some (r.msg ++ le32 (ofInt32 r.status))),
        { tee with ta := r.ta, messages := tee.messages + 1 }, r.msg)
  | .unreported => do
      let r ← tracedStoreDb env calls tee.ta shared
      pure (fpcTacTransfer none, { tee with ta := r.ta, messages := tee.messages + 1 }, r.msg)
  | .lost => pure (fpcTacTransfer none, { tee with messages := tee.messages + 1 }, shared)

/-- `fpc_tee_store_template_db`, with what the file holds after every operation on it. -/
def tracedStoreTemplateDb (alloc : SharedAlloc) (invocation : Invocation) (envs : Nat → Env)
    (calls : TsCalls) (tee : Tee) (path : List UInt8) :
    Traced (Option (List UInt8)) (Int × Tee) :=
  if pathMax ≤ path.length then pure (-fpcErrorInput, tee)
  else
    match (fpcTacAllocShared alloc (pathMessageSize path)).map
        (List.take (pathMessageSize path)) with
    | none => pure (-fpcErrorAlloc, tee)
    | some shared => do
        let shared ← Traced.quiet (pathMessage shared fpcTaBioStoreDbCmd path)
        let (status, tee, shared) ← tracedTransfer invocation (envs tee.messages) calls tee shared
        if status ≠ 0 then pure (status, tee)
        else do
          let response ← Traced.quiet (load32 shared offResponse)
          pure (toInt32 response, tee)

/-- A path, up to its end. -/
def stringAt (path : List UInt8) : List UInt8 := path.takeWhile (· ≠ 0)

/-! ## The message -/

section

variable {P : Platform} {alloc : SharedAlloc} {invocation : Invocation} {envs : Nat → Env}
  {env : Env} {calls : TsCalls} {ta : Ta} {tee : Tee} {path shared msg packed : List UInt8}

theorem zero_notMem_stringAt (path : List UInt8) : 0 ∉ stringAt path := by
  intro h
  have hne := List.mem_takeWhile_imp h
  simp at hne

/-- A message with a path, in a buffer of its size. -/
theorem pathMessage_ok (command : UInt32) (hlength : shared.length = pathMessageSize path) :
    ∃ msg, pathMessage shared command path = .ok msg ∧ msg.length = pathMessageSize path ∧
      field32 msg offSize = UInt32.ofNat (path.length + 1) ∧
      slice msg offArray (path.length + 1) = path ++ [0] := by
  have hsize : pathMessageSize path = 16 + (path.length + 1) := rfl
  have h1 : (put32 shared offTarget targetFpcTaFs).length = shared.length :=
    length_put32 (by unfold offTarget; omega) _
  have h2 : (put32 (put32 shared offTarget targetFpcTaFs) offCommand command).length
      = shared.length := by
    rw [length_put32 (by rw [h1]; unfold offCommand; omega), h1]
  have h3 : (put32 (put32 (put32 shared offTarget targetFpcTaFs) offCommand command) offSize
      (UInt32.ofNat (path.length + 1))).length = shared.length := by
    rw [length_put32 (by rw [h2]; unfold offSize; omega), h2]
  have hstring : (path ++ [0]).length = path.length + 1 := List.length_append
  have hin : offArray + (path ++ [0]).length ≤ shared.length := by
    rw [hstring]
    unfold offArray
    omega
  refine ⟨overlay (put32 (put32 (put32 shared offTarget targetFpcTaFs) offCommand command) offSize
    (UInt32.ofNat (path.length + 1))) offArray (path ++ [0]), ?_, ?_, ?_, ?_⟩
  · unfold pathMessage
    rw [store32_eq (by unfold offTarget; omega), ok_bind,
      store32_eq (by rw [h1]; unfold offCommand; omega), ok_bind,
      store32_eq (by rw [h2]; unfold offSize; omega), ok_bind,
      storeSpan_eq (by rw [h3]; exact hin)]
  · rw [length_overlay (by rw [h3]; exact hin), h3, hlength]
  · rw [field32_overlay (by rw [h3]; exact hin) (Or.inl (by decide)),
      field32_put32 (by rw [h2]; unfold offSize; omega)]
  · have hslice {buf : List UInt8} (hbuf : offArray ≤ buf.length) :
        slice (overlay buf offArray (path ++ [0])) offArray (path ++ [0]).length = path ++ [0] :=
      slice_overlay hbuf
    rw [hstring] at hslice
    exact hslice (by rw [h3]; omega)

/-- The application finds the string of such a message valid, and it is the path up to its end. -/
theorem pathMessage_string (hlength : msg.length = pathMessageSize path)
    (hfits : path.length < pathMax) (hsize : field32 msg offSize = UInt32.ofNat (path.length + 1))
    (harray : slice msg offArray (path.length + 1) = path ++ [0]) :
    byteArrayStringValid msg = .ok true ∧ stringOf msg = stringAt path := by
  unfold pathMax at hfits
  have hnat : (UInt32.ofNat (path.length + 1)).toNat = path.length + 1 := by
    rw [UInt32.toNat_ofNat']
    omega
  have hpayload : sizeofByteArrayMsg + (field32 msg offSize).toNat = msg.length := by
    rw [hsize, hnat, hlength, pathMessageSize]
  have hmsg : sizeofByteArrayMsg + (path.length + 1) = msg.length := by
    rw [← hpayload, hsize, hnat]
  constructor
  · unfold byteArrayStringValid
    rw [byteArrayValid_of_le (by omega)
      (by unfold sizeofByteArrayMsg at hmsg ⊢; omega), ok_bind]
    rw [if_neg (by decide), load32_eq (by unfold sizeofByteArrayMsg at hmsg; unfold offSize; omega),
      ok_bind, hsize, hnat,
      loadSpan_eq (by unfold sizeofByteArrayMsg at hmsg; unfold offArray; omega), ok_bind, harray]
    simp
  · have hdrop : msg.drop offArray = path ++ [0] := by
      rw [← harray, slice, List.take_of_length_le]
      rw [List.length_drop]
      unfold offArray
      unfold sizeofByteArrayMsg at hmsg
      omega
    unfold stringOf stringAt
    rw [hdrop, List.takeWhile_append]
    split
    · next hall =>
      rw [List.takeWhile_cons_of_neg (by simp), List.append_nil]
      exact ((List.takeWhile_prefix _).eq_of_length hall).symm
    · rfl

/-- A message that stores goes to its case in the handler. -/
theorem route_storeDb (hmsg : pathMessage shared fpcTaBioStoreDbCmd path = .ok msg) :
    fpcTaRouteCommand P env ta msg = fsSwitch env ta msg .storeDb := by
  obtain ⟨hlen, htarget, hcommand⟩ := pathMessage_header hmsg
  have hword : Target.ofWord (field32 msg offTarget) = some .fs := by
    rw [htarget]
    decide
  rw [fpcTaRouteCommand_of_target hlen hword, handleMessage, fpcTaFsHandler,
    load32_eq (by unfold sizeofHeader at hlen; unfold offCommand; omega), ok_bind, hcommand]
  rfl

variable (env calls ta msg) in
/-- Without the file it is the case of the handler. -/
theorem tracedStoreDb_outcome
    (hfills : dbPathPreFix.length + (stringOf msg).length ≠ maxPathLength) :
    ∃ write, (tracedStoreDb env calls ta msg).outcome = fsSwitch (env.fsWriting write) ta msg .storeDb := by
  obtain ⟨write, hwrite⟩ := tracedStoreDbToFile_outcome calls env ta.bio hfills
  refine ⟨write, ?_⟩
  unfold tracedStoreDb fsSwitch
  rw [Traced.outcome_bind, Traced.outcome_quiet]
  congr 1
  funext valid
  split
  · rfl
  · rw [Traced.outcome_bind, hwrite]
    congr 1
    funext response
    simp

/-- What the file goes through while a valid message that stores is handled. -/
theorem tracedStoreDb_calls (hvalid : byteArrayStringValid msg = .ok true) :
    (tracedStoreDb env calls ta msg).calls
      = (tracedStoreDbToFile env calls ta.bio (stringOf msg)).calls := by
  unfold tracedStoreDb
  rw [hvalid, Traced.quiet_ok_bind, Bool.not_true, if_neg Bool.false_ne_true]
  refine Traced.calls_bind_of_quiet fun response => ?_
  refine (Traced.calls_bind_of_quiet fun msg => ?_).trans ?_
  · rfl
  · rfl

/-- The message of a store, and what the application finds in it. -/
theorem storeMessage_ok (hfits : path.length < pathMax)
    (h : (fpcTacAllocShared alloc (pathMessageSize path)).map
      (List.take (pathMessageSize path)) = some shared) :
    ∃ msg, pathMessage shared fpcTaBioStoreDbCmd path = .ok msg ∧
      msg.length = pathMessageSize path ∧ byteArrayStringValid msg = .ok true ∧
      stringOf msg = stringAt path := by
  have hsize : pathMessageSize path < 2 ^ 31 := by
    unfold pathMax at hfits
    unfold pathMessageSize sizeofByteArrayMsg
    omega
  obtain ⟨msg, hmsg, hlength, hfield, harray⟩ :=
    pathMessage_ok fpcTaBioStoreDbCmd (length_of_allocShared hsize h)
  obtain ⟨hvalid, hstring⟩ := pathMessage_string hlength hfits hfield harray
  exact ⟨msg, hmsg, hlength, hvalid, hstring⟩

/-! ## The call -/

/-- Without the file it is the function of the client, with some status from the file system. -/
theorem tracedStoreTemplateDb_outcome
    (hfills : dbPathPreFix.length + (stringAt path).length ≠ maxPathLength) :
    ∃ write, (tracedStoreTemplateDb alloc invocation envs calls tee path).outcome
      = fpcTeeStoreTemplateDb (invokingTac P alloc invocation)
          (fun n => (envs n).fsWriting write) tee path := by
  have halloc : (invokingTac P alloc invocation).allocShared (pathMessageSize path)
      = (fpcTacAllocShared alloc (pathMessageSize path)).map
          (List.take (pathMessageSize path)) := by
    cases invocation with
    | delivered => rfl
    | unreported => rfl
    | lost => rfl
  unfold tracedStoreTemplateDb fpcTeeStoreTemplateDb dbCommand
  rw [halloc]
  split
  · exact ⟨0, rfl⟩
  · next hfits =>
    cases hshared : (fpcTacAllocShared alloc (pathMessageSize path)).map
        (List.take (pathMessageSize path)) with
    | none => exact ⟨0, rfl⟩
    | some shared =>
      obtain ⟨msg, hmsg, _, _, hstring⟩ := storeMessage_ok (by omega) hshared
      obtain ⟨write, hwrite⟩ := tracedStoreDb_outcome (envs tee.messages) calls tee.ta msg
        (by rw [hstring]; exact hfills)
      refine ⟨write, ?_⟩
      dsimp only
      rw [Traced.outcome_bind, Traced.outcome_quiet, hmsg, ok_bind, ok_bind, Traced.outcome_bind]
      have htransfer : (tracedTransfer invocation (envs tee.messages) calls tee msg).outcome
          = transfer (invokingTac P alloc invocation) (fun n => (envs n).fsWriting write) tee
              msg := by
        unfold tracedTransfer transfer invokingTac
        cases invocation with
        | delivered =>
          dsimp only [fpcUtTac]
          rw [Traced.outcome_bind, hwrite, route_storeDb hmsg, bind_assoc]
          rfl
        | unreported =>
          dsimp only
          rw [Traced.outcome_bind, hwrite, route_storeDb hmsg, bind_assoc]
          rfl
        | lost => rfl
      rw [htransfer]
      congr 1
      funext r
      split
      · rfl
      · rw [Traced.outcome_bind, Traced.outcome_quiet]
        rfl

/-- A store that comes to open the file, to write an image to it. -/
structure Overwrites (alloc : SharedAlloc) (invocation : Invocation) (env : Env)
    (calls : TsCalls) (bio : Bio) (path packed : List UInt8) : Prop where
  fits : path.length < pathMax
  memory : fpcTacAllocShared alloc (pathMessageSize path) ≠ none
  reaches : invocation ≠ .lost
  packs : PacksTo bio.userDb packed
  malloc : env.fs.malloc = true
  short : dbPathPreFix.length + (stringAt path).length < maxPathLength
  opens : calls.openFile = true

/-- The call goes through what handling its message goes through. -/
theorem tracedTransfer_calls (hreaches : invocation ≠ .lost) :
    (tracedTransfer invocation env calls tee msg).calls
      = (tracedStoreDb env calls tee.ta msg).calls := by
  unfold tracedTransfer
  cases invocation with
  | delivered => exact Traced.calls_bind_of_quiet fun _ => rfl
  | unreported => exact Traced.calls_bind_of_quiet fun _ => rfl
  | lost => exact absurd rfl hreaches

/-- The file goes through what the transfer of the message takes it through. -/
theorem tracedStoreTemplateDb_calls (hfits : path.length < pathMax)
    (hshared : (fpcTacAllocShared alloc (pathMessageSize path)).map
      (List.take (pathMessageSize path)) = some shared) (hreaches : invocation ≠ .lost) :
    (tracedStoreTemplateDb alloc invocation envs calls tee path).calls
      = (tracedStoreDbToFile (envs tee.messages) calls tee.ta.bio (stringAt path)).calls := by
  obtain ⟨msg, hmsg, _, hvalid, hstring⟩ := storeMessage_ok hfits hshared
  unfold tracedStoreTemplateDb
  rw [if_neg (by omega), hshared]
  dsimp only
  rw [hmsg, Traced.quiet_ok_bind, ← hstring, ← tracedStoreDb_calls hvalid,
    ← tracedTransfer_calls hreaches]
  refine Traced.calls_bind_of_quiet fun r => ?_
  split
  · rfl
  · exact Traced.calls_bind_of_quiet fun _ => rfl

/-- A store that does not come to open the file leaves it alone. -/
theorem tracedStoreTemplateDb_unopened
    (hnot : ¬ ∃ packed, Overwrites alloc invocation (envs tee.messages) calls tee.ta.bio path
      packed) :
    (tracedStoreTemplateDb alloc invocation envs calls tee path).calls = [] := by
  by_cases hfits : path.length < pathMax
  · cases hshared : (fpcTacAllocShared alloc (pathMessageSize path)).map
        (List.take (pathMessageSize path)) with
    | none =>
      unfold tracedStoreTemplateDb
      rw [if_neg (by omega), hshared]
      rfl
    | some shared =>
      by_cases hreaches : invocation = .lost
      · obtain ⟨msg, hmsg, _⟩ := storeMessage_ok hfits hshared
        unfold tracedStoreTemplateDb
        rw [if_neg (by omega), hshared]
        dsimp only
        rw [hmsg, hreaches]
        rfl
      · rw [tracedStoreTemplateDb_calls hfits hshared hreaches]
        by_cases hpacks : ∃ packed, PacksTo tee.ta.bio.userDb packed ∧
            (envs tee.messages).fs.malloc = true
        · obtain ⟨packed, hpacks, hmalloc⟩ := hpacks
          rw [tracedStoreDbToFile_calls hpacks hmalloc]
          refine tracedFsWrite_unopened (zero_notMem_stringAt path) fun h => hnot ⟨packed, ?_⟩
          exact
            { fits := hfits
              memory := fun hnone => by simp [hnone] at hshared
              reaches := hreaches
              packs := hpacks
              malloc := hmalloc
              short := h.1
              opens := h.2 }
        · exact tracedStoreDbToFile_unwritten hpacks
  · unfold tracedStoreTemplateDb
    rw [if_pos (by omega)]
    rfl

/-- The buffer of the message, where it is written. -/
theorem Overwrites.buffer (h : Overwrites alloc invocation env calls ta.bio path packed) :
    ∃ shared, (fpcTacAllocShared alloc (pathMessageSize path)).map
      (List.take (pathMessageSize path)) = some shared := by
  obtain ⟨whole, hwhole⟩ := Option.ne_none_iff_exists'.mp h.memory
  exact ⟨_, by rw [hwhole, Option.map_some]⟩

theorem Overwrites.contents
    (h : Overwrites alloc invocation (envs tee.messages) calls tee.ta.bio path packed) :
    (tracedStoreTemplateDb alloc invocation envs calls tee path).calls
      = calls.contents packed := by
  obtain ⟨shared, hshared⟩ := h.buffer
  rw [tracedStoreTemplateDb_calls h.fits hshared h.reaches,
    tracedStoreDbToFile_calls h.packs h.malloc, tracedFsWrite_opened h.short h.opens]

/-- A count that is too small is not taken for the size. -/
theorem retval_short {size : Nat} (hsize : size < 2 ^ 32) (hshort : calls.written < size) :
    calls.retval size < 0 ∨ toInt32 (UInt32.ofNat size) ≠ calls.retval size := by
  unfold TsCalls.retval
  split
  · right
    rw [Nat.min_eq_left (by omega), toInt32, toInt_of_toUInt32, UInt32.toUInt32_toInt32,
      UInt32.toNat_ofNat', Nat.mod_eq_of_lt hsize]
    split
    · omega
    · omega
  · left
    decide

/-- A short write is an error. -/
theorem tracedFsWrite_short (hshort : dbPathPreFix.length + path.length < maxPathLength)
    (hopen : calls.openFile = true) (hlength : packed.length < 2 ^ 32)
    (hwritten : calls.written < packed.length) :
    (tracedFsWrite calls path packed).outcome = .ok (-fpcErrorIo) := by
  obtain ⟨tranPath, htran, hend⟩ := transformPath_terminated hshort
  unfold tracedFsWrite
  rw [htran]
  dsimp only
  rw [hend, hopen, if_neg (by decide), if_neg (by decide)]
  simp only [Traced.outcome_bind, Traced.outcome_perform, ok_bind]
  split
  · rfl
  · next hnonneg =>
    rw [if_pos ((retval_short hlength hwritten).resolve_left hnonneg)]
    rfl

/-- A store that writes less than the image does not return 0. -/
theorem Overwrites.fails (envs : Nat → Env)
    (h : Overwrites alloc invocation (envs tee.messages) calls tee.ta.bio path packed)
    (hwritten : calls.written < packed.length) (tee' : Tee) :
    (tracedStoreTemplateDb alloc invocation envs calls tee path).outcome ≠ .ok (0, tee') := by
  obtain ⟨shared, hshared⟩ := h.buffer
  obtain ⟨msg, hmsg, hlength, hvalid, hstring⟩ := storeMessage_ok h.fits hshared
  have hresponse : offResponse + 4 ≤ msg.length := by
    rw [hlength, pathMessageSize, sizeofByteArrayMsg]
    unfold offResponse
    omega
  have hstored : (tracedStoreDb (envs tee.messages) calls tee.ta msg).outcome
      = .ok { ta := tee.ta, msg := put32 msg offResponse (ofInt32 (-fpcErrorIo)), status := 0 } := by
    unfold tracedStoreDb
    rw [hvalid, Traced.quiet_ok_bind, Bool.not_true, if_neg Bool.false_ne_true,
      Traced.outcome_bind, hstring, tracedStoreDbToFile_packs h.packs h.malloc,
      Traced.outcome_bind,
      tracedFsWrite_short h.short h.opens h.packs.length_lt hwritten, ok_bind, if_pos (by decide)]
    simp [store32_eq hresponse]
  unfold tracedStoreTemplateDb
  rw [if_neg (by have := h.fits; omega), hshared]
  dsimp only
  rw [hmsg, Traced.quiet_ok_bind, Traced.outcome_bind]
  cases hinvocation : invocation with
  | delivered =>
    have hsees : fpcTacTransfer (some (put32 msg offResponse (ofInt32 (-fpcErrorIo))
        ++ le32 (ofInt32 0))) = 0 := by
      rw [fpcTacTransfer_append]
      decide
    have hload : load32 (put32 msg offResponse (ofInt32 (-fpcErrorIo))) offResponse
        = .ok (ofInt32 (-fpcErrorIo)) := by
      rw [load32_eq (by rw [length_put32 hresponse]; exact hresponse),
        field32_put32 (by omega)]
    unfold tracedTransfer
    dsimp only
    rw [Traced.outcome_bind, hstored, ok_bind, hsees, Traced.outcome_pure, ok_bind]
    dsimp only
    rw [if_neg (by decide), hload, Traced.quiet_ok_bind, Traced.outcome_pure]
    intro heq
    injection heq with heq
    exact absurd (congrArg Prod.fst heq) (show ¬ toInt32 (ofInt32 (-fpcErrorIo)) = 0 by decide)
  | unreported =>
    unfold tracedTransfer
    dsimp only
    rw [Traced.outcome_bind, hstored, ok_bind, Traced.outcome_pure, ok_bind]
    dsimp only
    rw [if_pos (by decide), Traced.outcome_pure]
    intro heq
    injection heq with heq
    exact absurd (congrArg Prod.fst heq) (show ¬ fpcTacTransfer none = 0 by decide)
  | lost => exact absurd hinvocation h.reaches

end

/-! ## The file behind it -/

/-- What a file holds behind so many operations. -/
def contentAfter (previous : Option (List UInt8)) (contents : List (Option (List UInt8)))
    (operations : Nat) : Option (List UInt8) :=
  (contents.take operations).getLast?.getD previous

/-- What the file holds once a call has returned, or was stopped behind some operation. -/
def contentAt (traced : Traced (Option (List UInt8)) (Int × Tee))
    (previous : Option (List UInt8)) (stop : Option Nat) : Option (List UInt8) :=
  contentAfter previous traced.calls (stop.getD traced.calls.length)

/-- If a store does not return 0, or is stopped, the file holds what it held before or the database
that is stored. -/
def KeepsDatabase (bio : Bio) (traced : Traced (Option (List UInt8)) (Int × Tee))
    (previous : Option (List UInt8)) (stop : Option Nat) : Prop :=
  ¬ (stop = none ∧ ∃ tee', traced.outcome = .ok (0, tee')) →
    contentAt traced previous stop = previous ∨
      ∃ packed, PacksTo bio.userDb packed ∧ contentAt traced previous stop = some packed

/-- The bytes that are in the file, once it is opened, where the call returns or is stopped. -/
def bytesAt (calls : TsCalls) : Option Nat → Option Nat
  | some 0 => none
  | some 1 => some 0
  | _ => some calls.written

/-- A store that is over with the file torn: it is opened, fewer bytes are in it than the image has,
and they are not what it held before. -/
def Tears (alloc : SharedAlloc) (invocation : Invocation) (env : Env) (calls : TsCalls)
    (bio : Bio) (path : List UInt8) (previous : Option (List UInt8)) (stop : Option Nat) : Prop :=
  ∃ packed, Overwrites alloc invocation env calls bio path packed ∧
    ∃ count, bytesAt calls stop = some count ∧ count < packed.length ∧
      previous ≠ some (packed.take count)

section

variable {alloc : SharedAlloc} {invocation : Invocation} {envs : Nat → Env} {calls : TsCalls}
  {tee : Tee} {path packed : List UInt8} {previous : Option (List UInt8)} {stop : Option Nat}

variable (envs previous stop) in
/-- What the file holds where an image is written to it. -/
theorem Overwrites.contentAt
    (h : Overwrites alloc invocation (envs tee.messages) calls tee.ta.bio path packed) :
    contentAt (tracedStoreTemplateDb alloc invocation envs calls tee path) previous stop
      = (bytesAt calls stop).elim previous fun count => some (packed.take count) := by
  unfold SecureStorage.contentAt
  rw [h.contents]
  match stop with
  | none => rfl
  | some 0 => rfl
  | some 1 => rfl
  | some 2 => rfl
  | some (n + 3) =>
    unfold contentAfter
    rw [Option.getD_some, List.take_of_length_le (by rw [TsCalls.contents]; simp)]
    rfl

/-- A torn file is not the database, and the store says that it failed. -/
theorem Tears.not_keepsDatabase (envs : Nat → Env)
    (h : Tears alloc invocation (envs tee.messages) calls tee.ta.bio path previous stop) :
    ¬ KeepsDatabase tee.ta.bio (tracedStoreTemplateDb alloc invocation envs calls tee path)
      previous stop := by
  obtain ⟨packed, hover, count, hcount, hshort, hother⟩ := h
  have hcontent := hover.contentAt envs previous stop
  rw [hcount, Option.elim_some] at hcontent
  intro hkeeps
  have hfails : ¬ (stop = none ∧ ∃ tee',
      (tracedStoreTemplateDb alloc invocation envs calls tee path).outcome = .ok (0, tee')) := by
    intro hreturns
    obtain ⟨hstop, tee', hzero⟩ := hreturns
    rw [hstop] at hcount
    cases hcount
    exact hover.fails envs hshort tee' hzero
  cases hkeeps hfails with
  | inl hprevious =>
    rw [hcontent] at hprevious
    exact hother hprevious.symm
  | inr hnew =>
    obtain ⟨image, himage, hnew⟩ := hnew
    rw [hcontent, himage.unique hover.packs] at hnew
    have hlength := congrArg List.length (Option.some.inj hnew)
    rw [List.length_take] at hlength
    omega

end

/-- **When a failed store keeps the previous database.** Exactly where the file is not torn: it is
not opened for an image, or all of the image is in it when the call returns or is stopped, or what
is in it is what it held before. -/
theorem store_keepsDatabase_iff (alloc : SharedAlloc) (invocation : Invocation)
    (envs : Nat → Env) (calls : TsCalls) (tee : Tee) (path : List UInt8)
    (previous : Option (List UInt8)) (stop : Option Nat) :
    KeepsDatabase tee.ta.bio (tracedStoreTemplateDb alloc invocation envs calls tee path)
        previous stop ↔
      ¬ Tears alloc invocation (envs tee.messages) calls tee.ta.bio path previous stop := by
  constructor
  · exact fun hkeeps htears => htears.not_keepsDatabase envs hkeeps
  · intro hwhole _
    by_cases hover : ∃ packed, Overwrites alloc invocation (envs tee.messages) calls tee.ta.bio
        path packed
    · obtain ⟨packed, hover⟩ := hover
      have hcontent := hover.contentAt envs previous stop
      cases hcount : bytesAt calls stop with
      | none =>
        left
        rw [hcontent, hcount]
        rfl
      | some count =>
        rw [hcount, Option.elim_some] at hcontent
        by_cases hshort : count < packed.length
        · left
          by_contra hother
          rw [hcontent] at hother
          exact hwhole ⟨packed, hover, count, hcount, hshort, fun h => hother h.symm⟩
        · right
          refine ⟨packed, hover.packs, ?_⟩
          rw [hcontent, List.take_of_length_le (by omega)]
    · left
      unfold contentAt contentAfter
      rw [tracedStoreTemplateDb_unopened hover]
      simp

/-- A write of which four bytes reach the file, and which says so. -/
def shortWrite : TsCalls := { openFile := true, written := 4, counts := true, close := true }

/-- The empty database is stored over one with a finger, and four bytes of it come to be in the
file. They are no database. -/
theorem sampleStore_tears :
    ∃ tee previous d, fpcDbCreate .willing (some previous) previous.length = .ok d ∧
      d.view = sampleDatabase.view ∧
      (∀ tee', (tracedStoreTemplateDb { mapped := true, addr := some [] } .delivered
        (fun _ => .willing) shortWrite tee [0x2F, 0x61]).outcome ≠ .ok (0, tee')) ∧
      (∃ torn, contentAt (tracedStoreTemplateDb { mapped := true, addr := some [] } .delivered
          (fun _ => .willing) shortWrite tee [0x2F, 0x61]) (some previous) none = some torn ∧
        fpcDbCreate .willing (some torn) torn.length = .err (-fpcErrorDb)) ∧
      ¬ KeepsDatabase tee.ta.bio (tracedStoreTemplateDb { mapped := true, addr := some [] }
        .delivered (fun _ => .willing) shortWrite tee [0x2F, 0x61]) (some previous) none := by
  have hready : (fpcTaRouterInit .willing >>= fun ta =>
      getData ta.bio.userDb (List.replicate 25 0) 25 >>= fun packed =>
      getData (some sampleDatabase) (List.replicate 164 0) 164 >>= fun previous =>
      fpcDbCreate .willing (some previous) 164 >>= fun d =>
      .ok (decide (getDataSize ta.bio.userDb = .ok 25 ∧ previous.length = 164 ∧
        packed.length = 25 ∧ d.view = sampleDatabase.view ∧
        fpcDbCreate .willing (some (packed.take 4)) 4 = .err (-fpcErrorDb)))) = .ok true := by
    decide +kernel
  obtain ⟨ta, _, hready⟩ := bind_eq_ok.mp hready
  obtain ⟨packed, hpacked, hready⟩ := bind_eq_ok.mp hready
  obtain ⟨previous, _, hready⟩ := bind_eq_ok.mp hready
  obtain ⟨d, hcreate, hsize, hprevious, hlength, hview, htorn⟩ := exists_of_decided _ hready
  have hover : Overwrites { mapped := true, addr := some [] } .delivered .willing shortWrite
      ta.bio [0x2F, 0x61] packed :=
    { fits := by decide
      memory := by decide
      reaches := by decide
      packs := ⟨25, hsize, by decide, hpacked⟩
      malloc := rfl
      short := by decide
      opens := rfl }
  refine ⟨{ ta := ta, messages := 0, sharedBuffer := [] }, previous, d, ?_, hview, ?_, ?_, ?_⟩
  · rw [hprevious]
    exact hcreate
  · exact hover.fails (fun _ => .willing) (by rw [hlength]; decide)
  · refine ⟨packed.take 4, hover.contentAt (fun _ => .willing) _ _, ?_⟩
    rw [List.length_take, hlength]
    exact htorn
  · refine Tears.not_keepsDatabase (fun _ => .willing) ⟨packed, hover, 4, rfl, ?_, ?_⟩
    · rw [hlength]
      decide
    · intro hsame
      have hlengths := congrArg List.length (Option.some.inj hsame)
      rw [List.length_take, hprevious, hlength] at hlengths
      exact absurd hlengths (by decide)

end Fpc.SecureStorage
