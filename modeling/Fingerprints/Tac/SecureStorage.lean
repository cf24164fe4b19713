import Fingerprints.Tac.Client

/-!
# Template databases in files of the application

`fpc_tee_secure_storage.c`. Here the application reads and writes the file, and the client names
it. A store is one message, `STORE_DB`. A load asks for the size of the file first, and the message
it sends for that is of the blob module (`GET_DB_SIZE`) but addressed to the file module, whose
handler has no case for it:

* **`fsHandler_rejects`** — the file module turns the message away and changes nothing;
* **`fpcTeeLoadTemplateDb_fails`** — so no load gets beyond its first message, whatever was stored;
* **`secureStorage_roundTrips_iff`** — so what was stored is loaded again only where nothing was.
-/

namespace Fpc.SecureStorage

open Wire Wire.Outcome

def targetFpcTaFs : UInt32 := 2
def fpcTaBioGetDbSizeCmd : UInt32 := 5
def fpcTaBioLoadDbCmd : UInt32 := 11
def fpcTaBioStoreDbCmd : UInt32 := 12

def pathMax : Nat := 4096

/-- A message to the file module with a path, in a buffer that was allocated for it. -/
def pathMessage (shared : List UInt8) (command : UInt32) (path : List UInt8) :
    Outcome (List UInt8) := do
  let shared ← store32 shared offTarget targetFpcTaFs
  let shared ← store32 shared offCommand command
  let shared ← store32 shared offSize (UInt32.ofNat (path.length + 1))
  storeSpan shared offArray (path ++ [0])

/-- The size of such a message. -/
def pathMessageSize (path : List UInt8) : Nat := sizeofByteArrayMsg + (path.length + 1)

/-- `get_db_file_size`: its result and the size. -/
def getDbFileSize (tac : Tac) (envs : Nat → Env) (tee : Tee) (path : List UInt8) :
    Outcome (Int × UInt32 × Tee) :=
  if pathMax ≤ path.length then .ok (-fpcErrorInput, 0, tee)
  else
    match tac.allocShared (pathMessageSize path) with
    | none => .ok (-fpcErrorAlloc, 0, tee)
    | some shared => do
        let shared ← pathMessage shared fpcTaBioGetDbSizeCmd path
        let (status, tee, shared) ← transfer tac envs tee shared
        if status = -fpcErrorNoentity then .ok (0, 0, tee)
        else if status ≠ 0 then .ok (status, 0, tee)
        else
          let size ← load32 shared offSize
          .ok (status, size, tee)

/-- `db_command` -/
def dbCommand (tac : Tac) (envs : Nat → Env) (tee : Tee) (op : UInt32) (path : List UInt8) :
    Outcome (Int × Tee) :=
  match tac.allocShared (pathMessageSize path) with
  | none => .ok (-fpcErrorAlloc, tee)
  | some shared => do
      let shared ← pathMessage shared op path
      let (status, tee, shared) ← transfer tac envs tee shared
      if status ≠ 0 then .ok (status, tee)
      else
        let response ← load32 shared offResponse
        .ok (toInt32 response, tee)

/-- `fpc_tee_store_template_db` -/
def fpcTeeStoreTemplateDb (tac : Tac) (envs : Nat → Env) (tee : Tee) (path : List UInt8) :
    Outcome (Int × Tee) :=
  if pathMax ≤ path.length then .ok (-fpcErrorInput, tee)
  else dbCommand tac envs tee fpcTaBioStoreDbCmd path

/-- `fpc_tee_load_template_db` -/
def fpcTeeLoadTemplateDb (tac : Tac) (envs : Nat → Env) (tee : Tee) (path : List UInt8) :
    Outcome (Int × Tee) := do
  let (status, size, tee) ← getDbFileSize tac envs tee path
  if status ≠ 0 then .ok (status, tee)
  else if size = 0 then fpcTeeLoadEmptyDb tac envs tee
  else
    let (status, tee) ← dbCommand tac envs tee fpcTaBioLoadDbCmd path
    if status = -fpcErrorIo then fpcTeeLoadEmptyDb tac envs tee else .ok (status, tee)

/-! ## The size of a file -/

/-- A message with a path names the file module and its command. -/
theorem pathMessage_header {shared msg path : List UInt8} {command : UInt32}
    (h : pathMessage shared command path = .ok msg) :
    sizeofHeader ≤ msg.length ∧ field32 msg offTarget = targetFpcTaFs ∧
      field32 msg offCommand = command := by
  rcases bind_eq_ok.mp h with ⟨s1, h1, h⟩
  rcases bind_eq_ok.mp h with ⟨s2, h2, h⟩
  rcases bind_eq_ok.mp h with ⟨s3, h3, h⟩
  rcases storeSpan_ok h1 (by decide) with ⟨hin1, rfl⟩
  rcases storeSpan_ok h2 (by rw [length_le32]; decide) with ⟨hin2, rfl⟩
  rcases storeSpan_ok h3 (by rw [length_le32]; decide) with ⟨hin3, rfl⟩
  rcases storeSpan_ok h (by rw [List.length_append, List.length_singleton]; omega) with ⟨hin, rfl⟩
  refine ⟨?_, ?_, ?_⟩
  · rw [length_overlay hin]
    unfold offArray at hin
    unfold sizeofHeader
    omega
  · rw [field32_overlay hin (Or.inl (by decide)), field32_overlay hin3 (Or.inl (by decide)),
      field32_overlay hin2 (Or.inl (by decide))]
    exact field32_put32 (by omega) _
  · rw [field32_overlay hin (Or.inl (by decide)), field32_overlay hin3 (Or.inl (by decide))]
    exact field32_put32 (by omega) _

/-- The file module has no case for a message that asks for the size of a file. -/
theorem fsHandler_rejects (P : Platform) (env : Env) (ta : Ta) {shared msg path : List UInt8}
    (h : pathMessage shared fpcTaBioGetDbSizeCmd path = .ok msg) :
    fpcTaRouteCommand P env ta msg = .ok (.rejected ta msg (-fpcErrorInput)) := by
  rcases pathMessage_header h with ⟨hlen, htarget, hcommand⟩
  have hword : Target.ofWord (field32 msg offTarget) = some .fs := by
    rw [htarget]
    decide
  unfold sizeofHeader at hlen
  rw [fpcTaRouteCommand_of_target (by unfold sizeofHeader; omega) hword, handleMessage,
    fpcTaFsHandler, load32_eq (by unfold offCommand; omega), ok_bind, hcommand]
  rfl

/-- What the client makes of a message that the file module turned away. -/
theorem getDbFileSize_fails {P : Platform} {alloc : SharedAlloc} {envs : Nat → Env}
    {tee left : Tee} {path : List UInt8} {status : Int} {size : UInt32}
    (h : getDbFileSize (fpcUtTac P alloc) envs tee path = .ok (status, size, left)) :
    status ≠ 0 ∧ left.ta = tee.ta := by
  unfold getDbFileSize at h
  split at h
  · cases h
    exact ⟨by decide, rfl⟩
  · split at h
    · cases h
      exact ⟨by decide, rfl⟩
    · rcases bind_eq_ok.mp h with ⟨msg, hmsg, h⟩
      have hsees : fpcTacTransfer (some (msg ++ le32 (ofInt32 (-fpcErrorInput)))) = -16843009 := by
        rw [fpcTacTransfer_append]
        decide
      have htransfer : transfer (fpcUtTac P alloc) envs tee msg
          = .ok (-16843009, { tee with messages := tee.messages + 1 }, msg) := by
        unfold transfer fpcUtTac
        dsimp only
        rw [fsHandler_rejects P _ _ hmsg, ok_bind]
        dsimp only [Handled.rejected]
        rw [hsees, ok_bind]
      rw [htransfer, ok_bind] at h
      dsimp only at h
      -- the code of the rejection, as the client reads it, is none that it knows
      rw [if_neg (by decide), if_pos (by decide)] at h
      cases h
      exact ⟨by decide, rfl⟩

/-- No load gets beyond the size of the file. -/
theorem fpcTeeLoadTemplateDb_fails {P : Platform} {alloc : SharedAlloc} {envs : Nat → Env}
    {tee left : Tee} {path : List UInt8} {status : Int}
    (h : fpcTeeLoadTemplateDb (fpcUtTac P alloc) envs tee path = .ok (status, left)) :
    status ≠ 0 ∧ left.ta = tee.ta := by
  rcases bind_eq_ok.mp h with ⟨⟨sizeStatus, size, sized⟩, hsize, h⟩
  rcases getDbFileSize_fails hsize with ⟨hne, hta⟩
  dsimp only at h
  rw [if_pos hne] at h
  cases h
  exact ⟨hne, hta⟩

/-! ## Storing and loading -/

/-- If a store of the database returns 0, a load gives it back, after any commands in between. -/
def RoundTrips (tac : Tac) (storing loading : Nat → Env) (tee between : Tee) (path : List UInt8) :
    Prop :=
  ∀ stored, fpcTeeStoreTemplateDb tac storing tee path = .ok (0, stored) →
    ∃ loaded, fpcTeeLoadTemplateDb tac loading between path = .ok (0, loaded) ∧
      loaded.ta.bio.userDb.map FingerprintDatabase.view
        = stored.ta.bio.userDb.map FingerprintDatabase.view

/-- **What is stored is never loaded again.** Whatever the application and the files do, a store and
a load of `fpc_tee_secure_storage.c` are a round trip only where the store does not return 0. -/
theorem secureStorage_roundTrips_iff (P : Platform) (alloc : SharedAlloc)
    (storing loading : Nat → Env) (tee between : Tee) (path : List UInt8) :
    RoundTrips (fpcUtTac P alloc) storing loading tee between path ↔
      ∀ stored, fpcTeeStoreTemplateDb (fpcUtTac P alloc) storing tee path ≠ .ok (0, stored) := by
  constructor
  · intro htrips stored hstored
    rcases htrips stored hstored with ⟨loaded, hload, _⟩
    exact (fpcTeeLoadTemplateDb_fails hload).1 rfl
  · intro hfails stored hstored
    exact absurd hstored (hfails stored)

/-- The empty database is stored, and the load after it fails. -/
theorem sampleStore_not_loaded :
    ∃ tee stored, fpcTeeStoreTemplateDb sampleTac (fun _ => .willing) tee [0x2F, 0x61]
        = .ok (0, stored) ∧
      (∃ left, fpcTeeLoadTemplateDb sampleTac (fun _ => .willing) stored [0x2F, 0x61]
        = .ok (-16843009, left)) ∧
      ¬ RoundTrips sampleTac (fun _ => .willing) (fun _ => .willing) tee stored [0x2F, 0x61] := by
  have hstore : (fpcTaRouterInit .willing >>= fun ta => fpcTeeStoreTemplateDb sampleTac
      (fun _ => .willing) { ta := ta, messages := 0, sharedBuffer := [] } [0x2F, 0x61] >>= fun r =>
      fpcTeeLoadTemplateDb sampleTac (fun _ => .willing) r.2 [0x2F, 0x61] >>= fun l =>
      .ok (decide (r.1 = 0 ∧ l.1 = -16843009))) = .ok true := by
    decide +kernel
  rcases bind_eq_ok.mp hstore with ⟨ta, _, hstore⟩
  rcases bind_eq_ok.mp hstore with ⟨⟨status, stored⟩, hstored, hload⟩
  rcases exists_of_decided _ hload with ⟨⟨code, left⟩, hleft, hstatus, hcode⟩
  rw [show status = 0 from hstatus] at hstored
  rw [show code = -16843009 from hcode] at hleft
  refine ⟨_, stored, hstored, ⟨left, hleft⟩, ?_⟩
  intro htrips
  rcases htrips stored hstored with ⟨loaded, hloaded, _⟩
  rw [hleft] at hloaded
  cases hloaded

end Fpc.SecureStorage
