import Fingerprints.Tac.Storage

/-!
# The commands to the blob module over a failing transport

`Tac.Carried` says what can become of one message: it is delivered, it is executed but reported as
failed, or it is lost. For each of `get_db_blob_size`, `db_open` and `db_close` the message that
goes out is determined before it is sent, so that a command whose message is delivered is the
command over a transport that delivers: **`transferBuffer_carried`**.
-/

namespace Fpc

open Wire Wire.Outcome

/-- What can become of a message. -/
inductive Tac.Carried (P : Platform) (tac : Tac) (env : Env) (ta : Ta) (msg : List UInt8) : Prop
  | delivered (sees : Int → Int) (hzero : sees 0 = 0)
      (htransfer : tac.transfer env ta msg = do
        let r ← fpcTaRouteCommand P env ta msg
        .ok (sees r.status, r.ta, r.msg)) : Tac.Carried P tac env ta msg
  | unreported (status : Int) (hstatus : status < 0)
      (htransfer : tac.transfer env ta msg = do
        let r ← fpcTaRouteCommand P env ta msg
        .ok (status, r.ta, r.msg)) : Tac.Carried P tac env ta msg
  | lost (status : Int) (hstatus : status < 0)
      (htransfer : tac.transfer env ta msg = .ok (status, ta, msg)) : Tac.Carried P tac env ta msg

/-- Every message is delivered, executed but reported as failed, or lost. -/
def Tac.Carries (P : Platform) (tac : Tac) : Prop :=
  ∀ env ta msg, tac.Carried P env ta msg

/-- The platform's client, with a transport that delivers. -/
def Tac.delivering (P : Platform) (tac : Tac) (sees : Int → Int) : Tac where
  allocShared := tac.allocShared
  transfer env ta msg := do
    let r ← fpcTaRouteCommand P env ta msg
    .ok (sees r.status, r.ta, r.msg)

theorem Tac.delivering_delivers (P : Platform) (tac : Tac) {sees : Int → Int}
    (hzero : sees 0 = 0) : (tac.delivering P sees).Delivers P sees :=
  ⟨fun _ _ _ => rfl, hzero⟩

theorem Tac.Delivers.carries {P : Platform} {tac : Tac} {sees : Int → Int}
    (h : tac.Delivers P sees) : tac.Carries P :=
  fun env ta msg => .delivered sees h.zero (h.transfer env ta msg)

section

variable {P : Platform} {tac : Tac} {envs : Nat → Env} {env : Env} {ta : Ta} {tee tee' : Tee}
  {msg : List UInt8} {r : Handled}

/-! ## The message keeps its length -/

theorem length_of_storeBlobSize {msg' : List UInt8} {blobSize : Option UInt32}
    (h : storeBlobSize msg blobSize = .ok msg') : msg'.length = msg.length := by
  cases blobSize with
  | none =>
    cases h
    rfl
  | some blobSize => exact length_of_store32 h

theorem length_of_fpcTaDbRead {transfer : Transfer} {size : Nat}
    {read : Int × Transfer × List UInt8} (h : fpcTaDbRead transfer msg size = .ok read) :
    read.2.2.length = msg.length := by
  unfold fpcTaDbRead at h
  split at h
  · cases h
    rfl
  · obtain ⟨⟨transfer', msg'⟩, hcopy, h⟩ := bind_eq_ok.mp h
    cases h
    unfold dbReadCopy at hcopy
    split at hcopy
    · cases hcopy
    · obtain ⟨bytes, _, hcopy⟩ := bind_eq_ok.mp hcopy
      obtain ⟨stored, hstored, hcopy⟩ := bind_eq_ok.mp hcopy
      cases hcopy
      exact length_of_storeSpan hstored

/-- The blob module answers in the message. -/
theorem length_of_dbBlobSwitch {cmd : DbBlobCmd} (h : dbBlobSwitch P env ta msg cmd = .ok r) :
    r.msg.length = msg.length := by
  cases cmd with
  | getDbSize =>
    obtain ⟨sized, _, h⟩ := bind_eq_ok.mp h
    obtain ⟨put, hput, h⟩ := bind_eq_ok.mp h
    obtain ⟨answered, hanswered, h⟩ := bind_eq_ok.mp h
    cases h
    rw [length_of_store32 hanswered, length_of_storeBlobSize hput]
  | dbOpen =>
    obtain ⟨_, _, h⟩ := bind_eq_ok.mp h
    obtain ⟨_, _, h⟩ := bind_eq_ok.mp h
    obtain ⟨_, _, h⟩ := bind_eq_ok.mp h
    obtain ⟨answered, hanswered, h⟩ := bind_eq_ok.mp h
    cases h
    exact length_of_store32 hanswered
  | dbClose =>
    obtain ⟨answered, hanswered, h⟩ := bind_eq_ok.mp h
    cases h
    exact length_of_store32 hanswered
  | dbRead =>
    obtain ⟨valid, _, h⟩ := bind_eq_ok.mp h
    split at h
    · cases h
      rfl
    · obtain ⟨_, _, h⟩ := bind_eq_ok.mp h
      obtain ⟨read, hread, h⟩ := bind_eq_ok.mp h
      obtain ⟨answered, hanswered, h⟩ := bind_eq_ok.mp h
      cases h
      rw [length_of_store32 hanswered]
      exact length_of_fpcTaDbRead hread
  | dbWrite =>
    obtain ⟨valid, _, h⟩ := bind_eq_ok.mp h
    split at h
    · cases h
      rfl
    · obtain ⟨_, _, h⟩ := bind_eq_ok.mp h
      obtain ⟨_, _, h⟩ := bind_eq_ok.mp h
      obtain ⟨answered, hanswered, h⟩ := bind_eq_ok.mp h
      cases h
      exact length_of_store32 hanswered

/-! ## One message -/

/-- A message of the blob module goes out as over a transport that delivers, or its transfer is
reported as failed. -/
theorem transferBuffer_carried (envs : Nat → Env) {cmd : DbBlobCmd}
    (hcarried : tac.Carried P (envs tee.messages) tee.ta msg)
    (hcmd : commandOf msg = some (.dbBlob cmd)) :
    (∃ sees : Int → Int, sees 0 = 0 ∧
        transferBuffer tac envs tee msg = transferBuffer (tac.delivering P sees) envs tee msg) ∨
      ∀ status tee', transferBuffer tac envs tee msg = .ok (status, tee') →
        status < 0 ∧ tee'.sharedBuffer.length = msg.length := by
  cases hcarried with
  | delivered sees hzero htransfer =>
    left
    refine ⟨sees, hzero, ?_⟩
    unfold transferBuffer transfer
    rw [htransfer]
    rfl
  | unreported status hstatus htransfer =>
    right
    intro status' tee' h
    unfold transferBuffer transfer at h
    rw [htransfer, (fpcTaRouteCommand_of_dbBlob P _ tee.ta hcmd).2] at h
    simp only [bind_assoc, ok_bind] at h
    obtain ⟨r, hswitch, h⟩ := bind_eq_ok.mp h
    cases h
    exact ⟨hstatus, length_of_dbBlobSwitch hswitch⟩
  | lost status hstatus htransfer =>
    right
    intro status' tee' h
    unfold transferBuffer transfer at h
    rw [htransfer] at h
    cases h
    exact ⟨hstatus, rfl⟩

/-- The message that comes back is as long as the one that went out. -/
theorem length_of_transferBuffer {cmd : DbBlobCmd} {status : Int}
    (hcarried : tac.Carried P (envs tee.messages) tee.ta msg)
    (hcmd : commandOf msg = some (.dbBlob cmd))
    (h : transferBuffer tac envs tee msg = .ok (status, tee')) :
    tee'.sharedBuffer.length = msg.length := by
  cases transferBuffer_carried _ hcarried hcmd with
  | inl hdelivered =>
    obtain ⟨sees, hzero, heq⟩ := hdelivered
    rw [heq, transferBuffer_dbBlob envs (tac.delivering_delivers P hzero) hcmd] at h
    obtain ⟨r, hswitch, h⟩ := bind_eq_ok.mp h
    cases h
    exact length_of_dbBlobSwitch hswitch
  | inr hfailed => exact (hfailed status tee' h).2

/-! ## The message buffer is kept -/

theorem dbOpen_buffer {mode size : UInt32} {result : Int} (hcarries : tac.Carries P)
    (hbuffer : sizeofBioCommand ≤ tee.sharedBuffer.length)
    (h : dbOpen tac envs tee mode size = .ok (result, tee')) :
    tee'.sharedBuffer.length = tee.sharedBuffer.length := by
  obtain ⟨sent, hlen, hcmd, _, _, heq⟩ := dbOpen_message mode size hbuffer
  rw [heq] at h
  obtain ⟨⟨status, answered⟩, htransfer, h⟩ := bind_eq_ok.mp h
  obtain ⟨response, _, h⟩ := bind_eq_ok.mp h
  cases h
  rw [length_of_transferBuffer (hcarries _ _ _) hcmd htransfer, hlen]

theorem getDbBlobSize_buffer {result : Int} {blobSize : Nat} (hcarries : tac.Carries P)
    (hbuffer : sizeofBioCommand ≤ tee.sharedBuffer.length)
    (h : getDbBlobSize tac envs tee = .ok (result, blobSize, tee')) :
    tee'.sharedBuffer.length = tee.sharedBuffer.length := by
  obtain ⟨sent, hlen, hcmd, _, heq⟩ := getDbBlobSize_message hbuffer
  rw [heq] at h
  obtain ⟨⟨status, answered⟩, htransfer, h⟩ := bind_eq_ok.mp h
  obtain ⟨size, _, h⟩ := bind_eq_ok.mp h
  obtain ⟨response, _, h⟩ := bind_eq_ok.mp h
  cases h
  rw [length_of_transferBuffer (hcarries _ _ _) hcmd htransfer, hlen]

/-- The rounds of a chunk loop have a message of their own. -/
theorem transfer_buffer {shared shared' : List UInt8} {status : Int}
    (h : transfer tac envs tee shared = .ok (status, tee', shared')) :
    tee'.sharedBuffer = tee.sharedBuffer := by
  obtain ⟨⟨status', ta, msg⟩, _, h⟩ := bind_eq_ok.mp h
  cases h
  rfl

theorem sendDbReadRound_buffer {s s' : ChunkLoop} {e : Option ChunkExit}
    (h : sendDbReadRound tac envs s = .ok (s', e)) :
    s'.tee.sharedBuffer = s.tee.sharedBuffer := by
  obtain ⟨⟨result, tee, shared⟩, htransfer, h⟩ := bind_eq_ok.mp h
  have hkept := transfer_buffer htransfer
  dsimp only at h
  split at h
  · cases h
    exact hkept
  · obtain ⟨response, _, h⟩ := bind_eq_ok.mp h
    split at h
    · cases h
      exact hkept
    · split at h
      · cases h
        exact hkept
      · obtain ⟨bytes, _, h⟩ := bind_eq_ok.mp h
        obtain ⟨blob, _, h⟩ := bind_eq_ok.mp h
        cases h
        exact hkept

theorem sendDbWriteRound_buffer {s s' : ChunkLoop} {e : Option ChunkExit}
    (h : sendDbWriteRound tac envs s = .ok (s', e)) :
    s'.tee.sharedBuffer = s.tee.sharedBuffer := by
  obtain ⟨bytes, _, h⟩ := bind_eq_ok.mp h
  obtain ⟨shared, _, h⟩ := bind_eq_ok.mp h
  obtain ⟨⟨result, tee, shared⟩, htransfer, h⟩ := bind_eq_ok.mp h
  have hkept := transfer_buffer htransfer
  dsimp only at h
  split at h
  · cases h
    exact hkept
  · obtain ⟨response, _, h⟩ := bind_eq_ok.mp h
    split at h
    · cases h
      exact hkept
    · split at h
      · cases h
        exact hkept
      · cases h
        exact hkept

/-- What both chunk loops leave of the message buffer: all of it. -/
theorem sendDbCommands_buffer {loop : Loop ChunkLoop ChunkExit} {command : UInt32}
    {blob blob' : List UInt8} {result : Int}
    (hround : ∀ s s' e, loop.round s = .ok (s', e) → s'.tee.sharedBuffer = s.tee.sharedBuffer)
    (h : sendDbCommands tac loop command tee blob = .ok (result, tee', blob')) :
    tee'.sharedBuffer = tee.sharedBuffer := by
  unfold sendDbCommands at h
  split at h
  · cases h
    rfl
  · obtain ⟨start, hstart, h⟩ := bind_eq_ok.mp h
    obtain ⟨⟨stop, e⟩, hrun, h⟩ := bind_eq_ok.mp h
    cases h
    have hstarted : start.tee = tee := by
      obtain ⟨_, _, hstart⟩ := bind_eq_ok.mp hstart
      obtain ⟨_, _, hstart⟩ := bind_eq_ok.mp hstart
      cases hstart
      rfl
    have hkept := Loop.run_keeps (I := fun s => s.tee.sharedBuffer = tee.sharedBuffer)
      (fun s s' e hs hnext => (hround s s' e hnext).trans hs) (by rw [hstarted]) hrun
    exact hkept

theorem sendDbReadCommands_buffer {blob blob' : List UInt8} {result : Int}
    (h : sendDbReadCommands tac envs tee blob = .ok (result, tee', blob')) :
    tee'.sharedBuffer = tee.sharedBuffer :=
  sendDbCommands_buffer (fun _ _ _ => sendDbReadRound_buffer) h

theorem sendDbWriteCommands_buffer {blob blob' : List UInt8} {result : Int}
    (h : sendDbWriteCommands tac envs tee blob = .ok (result, tee', blob')) :
    tee'.sharedBuffer = tee.sharedBuffer :=
  sendDbCommands_buffer (fun _ _ _ => sendDbWriteRound_buffer) h

end

end Fpc
