import Fingerprints.Ta.EndEnrol
import Fingerprints.Tac.Chunks

/-!
# Commands of the client

The rest of `fpc_tee_bio.c`, and `fpc_tee_hw_auth.c`: a command goes into the message buffer, the
message is transferred, and the response is read back together with what the command answers. A
transfer that fails has not reached the application.

* **`bioCommand_commanded`**: what a bio command leaves is what its case of the application's
  switch left, or the transfer failed and the application is as it was.
* **`fpcTeeAuthorizeEnrol_frame`**, **`fpcTeeSetAuthChallenge_frame`**,
  **`fpcTeeGetAuthResult_frame`**: what the commands of the hardware authentication module leave of
  the bio module.
-/

namespace Fpc

open Wire Wire.Outcome

/-! ## Bio commands (`fpc_tee_bio.c`) -/

def fpcTaBioBeginEnrolCmd : UInt32 := 0
def fpcTaBioEnrolCmd : UInt32 := 1
def fpcTaBioEndEnrolCmd : UInt32 := 2
def fpcTaBioIdentifyCmd : UInt32 := 3
def fpcTaBioUpdateTemplateCmd : UInt32 := 4
def fpcTaBioGetFingerIdsCmd : UInt32 := 7
def fpcTaBioDeleteTemplateCmd : UInt32 := 8
def fpcTaBioSetActiveFingerprintSetCmd : UInt32 := 9
def fpcTaBioGetTemplateDbIdCmd : UInt32 := 10

/-- `MAX_NR_TEMPLATES` -/
def maxNrTemplates : Nat := 5

section

variable (tac : Tac) (envs : Nat → Env) (tee : Tee)

/-- `bio_command`, with an answer in the message. -/
def bioCommandWith (answer : UInt32) (commandId : UInt32) : Outcome (Int × Tee) := do
  let shared ← store32 tee.sharedBuffer offAnswer answer
  bioCommand tac envs { tee with sharedBuffer := shared } commandId

/-- The response once more, where the command succeeded. -/
def responseOf (status : Int) (tee : Tee) : Outcome Int :=
  if status ≠ 0 then .ok status
  else do
    let response ← load32 tee.sharedBuffer offResponse
    .ok (toInt32 response)

/-- `bio_command`, and the answer where it succeeds. -/
def bioAnswer (commandId : UInt32) : Outcome (Int × Option UInt32 × Tee) := do
  let (status, tee) ← bioCommand tac envs tee commandId
  if status ≠ 0 then .ok (status, none, tee)
  else
    let answer ← load32 tee.sharedBuffer offAnswer
    let response ← responseOf status tee
    .ok (response, some answer, tee)

/-- `fpc_tee_set_gid` -/
def fpcTeeSetGid (gid : UInt32) : Outcome (Int × Tee) := do
  let (status, tee) ← bioCommandWith tac envs tee gid fpcTaBioSetActiveFingerprintSetCmd
  let response ← responseOf status tee
  .ok (response, tee)

/-- `fpc_tee_begin_enrol` -/
def fpcTeeBeginEnrol : Outcome (Int × Tee) := bioCommand tac envs tee fpcTaBioBeginEnrolCmd

/-- `fpc_tee_enrol`: its status, the touches that remain where it sets them. -/
def fpcTeeEnrol : Outcome (Int × Option UInt32 × Tee) := do
  let (status, tee) ← bioCommand tac envs tee fpcTaBioEnrolCmd
  if status < 0 then .ok (status, none, tee)
  else
    let answer ← load32 tee.sharedBuffer offAnswer
    let response ← load32 tee.sharedBuffer offResponse
    .ok (toInt32 response, some answer, tee)

/-- `fpc_tee_end_enrol`: its status, and the id where it sets it. -/
def fpcTeeEndEnrol : Outcome (Int × Option UInt32 × Tee) :=
  bioAnswer tac envs tee fpcTaBioEndEnrolCmd

/-- `fpc_tee_identify` -/
def fpcTeeIdentify : Outcome (Int × Option UInt32 × Tee) :=
  bioAnswer tac envs tee fpcTaBioIdentifyCmd

/-- `fpc_tee_update_template` -/
def fpcTeeUpdateTemplate : Outcome (Int × Option UInt32 × Tee) :=
  bioAnswer tac envs tee fpcTaBioUpdateTemplateCmd

/-- The ids that the reply to `GET_FINGER_IDS` carries. -/
def replyIds (msg : List UInt8) (size : Nat) : List UInt32 :=
  (List.range size).map fun i => field32 msg (offArray + 4 * i)

/-- `fpc_tee_get_finger_ids`: its status, and the ids where it sets them. -/
def fpcTeeGetFingerIds (size : UInt32) : Outcome (Int × Option (List UInt32) × Tee) := do
  let shared ← store32 tee.sharedBuffer offAnswer size
  let tee := { tee with sharedBuffer := shared }
  if size.toNat > maxNrTemplates then .ok (-fpcErrorInput, none, tee)
  else
    let (status, tee) ← bioCommand tac envs tee fpcTaBioGetFingerIdsCmd
    if status ≠ 0 then .ok (status, none, tee)
    else
      let size ← load32 tee.sharedBuffer offAnswer
      let _ ← loadSpan tee.sharedBuffer offArray (4 * size.toNat)
      let response ← responseOf status tee
      .ok (response, some (replyIds tee.sharedBuffer size.toNat), tee)

/-- `fpc_tee_delete_template` -/
def fpcTeeDeleteTemplate (id : UInt32) : Outcome (Int × Tee) := do
  let (status, tee) ← bioCommandWith tac envs tee id fpcTaBioDeleteTemplateCmd
  let response ← responseOf status tee
  .ok (response, tee)

/-- `fpc_tee_get_template_db_id`: its status, and the id where it sets it. -/
def fpcTeeGetTemplateDbId : Outcome (Int × Option UInt64 × Tee) := do
  let (status, tee) ← bioCommand tac envs tee fpcTaBioGetTemplateDbIdCmd
  if status ≠ 0 then .ok (status, none, tee)
  else
    let id ← load64 tee.sharedBuffer offArray
    let response ← responseOf status tee
    .ok (response, some id, tee)

/-! ## Commands of the hardware authentication module (`fpc_tee_hw_auth.c`) -/

def targetFpcTaHwAuth : UInt32 := 3
def fpcTaHwAuthSetAuthChallenge : UInt32 := 1
def fpcTaHwAuthGetEnrolChallenge : UInt32 := 2
def fpcTaHwAuthAuthorizeEnrol : UInt32 := 3
def fpcTaHwAuthGetAuthResult : UInt32 := 4

/-- The header of a command to the module. -/
def hwAuthHeader (shared : List UInt8) (command : UInt32) : Outcome (List UInt8) := do
  let shared ← store32 shared offCommand command
  store32 shared offTarget targetFpcTaHwAuth

/-- `fpc_tee_set_auth_challenge` -/
def fpcTeeSetAuthChallenge (challenge : UInt64) : Outcome (Int × Tee) := do
  let shared ← hwAuthHeader tee.sharedBuffer fpcTaHwAuthSetAuthChallenge
  let shared ← store64 shared offChallenge challenge
  let (status, tee) ← transferBuffer tac envs tee shared
  if status ≠ 0 then .ok (status, tee)
  else
    let response ← load32 tee.sharedBuffer offChallengeResponse
    .ok (toInt32 response, tee)

/-- `fpc_tee_get_enrol_challenge`: its status, and the challenge where it sets it. -/
def fpcTeeGetEnrolChallenge : Outcome (Int × Option UInt64 × Tee) := do
  let shared ← hwAuthHeader tee.sharedBuffer fpcTaHwAuthGetEnrolChallenge
  let (status, tee) ← transferBuffer tac envs tee shared
  if status ≠ 0 then .ok (status, none, tee)
  else
    let challenge ← load64 tee.sharedBuffer offChallenge
    let response ← load32 tee.sharedBuffer offChallengeResponse
    .ok (toInt32 response, some challenge, tee)

/-- `fpc_tee_authorize_enrol` -/
def fpcTeeAuthorizeEnrol (token : List UInt8) : Outcome (Int × Tee) :=
  match tac.allocShared (sizeofByteArrayMsg + token.length) with
  | none => .ok (-fpcErrorAlloc, tee)
  | some shared => do
      let shared ← hwAuthHeader shared fpcTaHwAuthAuthorizeEnrol
      let shared ← store32 shared offSize (UInt32.ofNat token.length)
      let shared ← storeSpan shared offArray token
      let (status, tee, shared) ← transfer tac envs tee shared
      if status ≠ 0 then .ok (status, tee)
      else
        let response ← load32 shared offResponse
        .ok (toInt32 response, tee)

/-- `fpc_tee_get_auth_result`: its status, and the token where it sets it. -/
def fpcTeeGetAuthResult (sizeToken : Nat) : Outcome (Int × Option (List UInt8) × Tee) :=
  match tac.allocShared (sizeofByteArrayMsg + sizeToken) with
  | none => .ok (-fpcErrorAlloc, none, tee)
  | some shared => do
      let shared ← hwAuthHeader shared fpcTaHwAuthGetAuthResult
      let shared ← store32 shared offSize (UInt32.ofNat sizeToken)
      let (status, tee, shared) ← transfer tac envs tee shared
      if status ≠ 0 then .ok (status, none, tee)
      else
        let token ← loadSpan shared offArray sizeToken
        let response ← load32 shared offResponse
        .ok (toInt32 response, some token, tee)

end

/-! ## Transfers that may fail -/

/-- No transfer reaches the application. -/
structure Tac.Fails (tac : Tac) : Prop where
  transfer : ∀ env ta msg, tac.transfer env ta msg = .ok (-fpcErrorComm, ta, msg)

/-- The client of `fpc_ut_tac.c`, where no invocation works. -/
def fpcUtTacFailing (alloc : SharedAlloc) : Tac where
  allocShared size := (fpcTacAllocShared alloc size).map (List.take size)
  transfer _ ta msg := .ok (fpcTacTransfer none, ta, msg)

theorem fpcUtTacFailing_fails (alloc : SharedAlloc) : (fpcUtTacFailing alloc).Fails :=
  ⟨fun _ _ _ => rfl⟩

/-- Transfers are delivered, or fail. -/
def Tac.DeliversOrFails (P : Platform) (tac : Tac) : Prop :=
  (∃ sees, tac.Delivers P sees) ∨ tac.Fails

theorem sampleTac_delivers : sampleTac.DeliversOrFails samplePlatform :=
  Or.inl ⟨_, fpcUtTac_delivers samplePlatform _⟩

/-- So does a client whose every message finds this one. -/
theorem sampleTac_delivers_each : ∀ _ : Nat, sampleTac.DeliversOrFails samplePlatform :=
  fun _ => sampleTac_delivers

section

variable {P : Platform} {tac : Tac} {envs : Nat → Env} {tee tee' : Tee} {env : Env} {ta ta' : Ta}
  {msg : List UInt8}

/-- The ids are written inside the message. Induction on the entries. -/
theorem length_of_storeIds {bio : Bio} {indices : List Nat} {i : Nat} {msg' : List UInt8}
    {status : Int} (h : storeIds bio indices i msg = .ok (status, msg')) :
    msg'.length = msg.length := by
  induction indices generalizing i msg with
  | nil =>
    cases h
    rfl
  | cons index rest ih =>
    unfold storeIds at h
    split at h
    · cases h
      rfl
    · rcases bind_eq_ok.mp h with ⟨stored, hstore, h⟩
      rw [ih h, length_of_store32 hstore]

/-- A case of the switch leaves the message as long as it is. -/
theorem length_of_bioSwitch {cmd : BioCmd} {answer : UInt32} {reply : BioReply}
    (h : bioSwitch P env ta msg answer cmd = .ok reply) : reply.msg.length = msg.length := by
  cases cmd with
  | identify =>
    rcases bind_eq_ok.mp h with ⟨identified, _, h⟩
    split at h
    · cases h
      rfl
    · rcases bind_eq_ok.mp h with ⟨stored, hstore, h⟩
      cases h
      exact length_of_storeSpan hstore
  | getFingerIds =>
    rcases bind_eq_ok.mp h with ⟨⟨response, stored, size⟩, hids, h⟩
    cases h
    unfold fpcTaBioGetTemplateIds at hids
    split at hids
    · cases hids
      rfl
    · split at hids
      · cases hids
        rfl
      · rcases bind_eq_ok.mp hids with ⟨⟨status, stored⟩, hstore, hids⟩
        have hlen := length_of_storeIds hstore
        dsimp only at hids
        split at hids
        · cases hids
          exact hlen
        · cases hids
          exact hlen
  | getTemplateDbId =>
    rw [bioSwitch] at h
    split at h
    · cases h
      rfl
    · rcases bind_eq_ok.mp h with ⟨stored, hstore, h⟩
      cases h
      exact length_of_storeSpan hstore
  | getIdentifyStatistics =>
    rcases bind_eq_ok.mp h with ⟨stored, hstore, h⟩
    cases h
    exact length_of_storeSpan hstore
  | beginEnrol =>
    rcases bind_eq_ok.mp h with ⟨_, _, h⟩
    cases h
    rfl
  | enrol =>
    cases h
    rfl
  | endEnrol =>
    cases h
    rfl
  | updateTemplate =>
    rcases bind_eq_ok.mp h with ⟨_, _, h⟩
    cases h
    rfl
  | loadEmptyDb =>
    rcases bind_eq_ok.mp h with ⟨_, _, h⟩
    cases h
    rfl
  | deleteTemplate =>
    rcases bind_eq_ok.mp h with ⟨_, _, h⟩
    cases h
    rfl
  | setActiveFingerprintSet =>
    cases h
    rfl

/-- A bio command that was answered, in the message that it leaves. -/
theorem bioRespond_answered {cmd : BioCmd} {r : Handled} (h : bioRespond P env ta msg cmd = .ok r) :
    ∃ reply, bioSwitch P env ta msg (field32 msg offAnswer) cmd = .ok reply ∧ r.ta = reply.ta ∧
      r.status = 0 ∧ r.msg.length = msg.length ∧
      field32 r.msg offResponse = ofInt32 reply.response ∧
      field32 r.msg offAnswer = reply.answer ∧
      (∀ o, offAnswer + 4 ≤ o → field64 r.msg o = field64 reply.msg o ∧
        field32 r.msg o = field32 reply.msg o) := by
  rcases bind_eq_ok.mp h with ⟨answer, hload, h⟩
  rcases bind_eq_ok.mp h with ⟨reply, hreply, h⟩
  rcases bind_eq_ok.mp h with ⟨responded, hresponse, h⟩
  rcases bind_eq_ok.mp h with ⟨answered, hanswer, h⟩
  cases h
  rw [load32_ok hload] at hreply
  rcases store32_ok hresponse with ⟨hresponseIn, rfl⟩
  rcases store32_ok hanswer with ⟨hanswerIn, rfl⟩
  refine ⟨reply, hreply, rfl, rfl, ?_, ?_, ?_, ?_⟩
  · rw [length_put32 hanswerIn, length_put32 hresponseIn, length_of_bioSwitch hreply]
  · rw [field32_put32_of_disjoint hanswerIn (Or.inl (by decide)), field32_put32 (by omega)]
  · rw [field32_put32 (by omega)]
  · intro o ho
    unfold offAnswer at ho
    constructor
    · rw [put32, field64_overlay hanswerIn (Or.inr ho), put32,
        field64_overlay hresponseIn (Or.inr (by rw [length_le32]; unfold offResponse; omega))]
    · rw [field32_put32_of_disjoint hanswerIn (Or.inr ho),
        field32_put32_of_disjoint hresponseIn (Or.inr (by unfold offResponse; omega))]

/-- What a bio command of the client leaves, asked with an answer in the message: the transfer failed
and the application is as it was, or its case of the application's switch ran. -/
inductive BioCommanded (P : Platform) (tac : Tac) (env : Env) (cmd : BioCmd) (ta : Ta)
    (answer : UInt32) (status : Int) (tee' : Tee) : Prop
  | lost (hfails : tac.Fails) (hstatus : status = -fpcErrorComm) (hta : tee'.ta = ta) :
      BioCommanded P tac env cmd ta answer status tee'
  | answered (hreached : ¬ tac.Fails) (msg : List UInt8) (reply : BioReply)
      (hswitch : bioSwitch P env ta msg answer cmd = .ok reply)
      (hstatus : status = toInt32 (ofInt32 reply.response)) (hta : tee'.ta = reply.ta)
      (hresponse : field32 tee'.sharedBuffer offResponse = ofInt32 reply.response)
      (hanswer : field32 tee'.sharedBuffer offAnswer = reply.answer)
      (harray : ∀ o, offAnswer + 4 ≤ o → field64 tee'.sharedBuffer o = field64 reply.msg o ∧
        field32 tee'.sharedBuffer o = field32 reply.msg o) :
      BioCommanded P tac env cmd ta answer status tee'

theorem commandOf_bio {cmd : BioCmd} {command : UInt32} (hlen : sizeofBioCommand ≤ msg.length)
    (htarget : field32 msg offTarget = targetFpcTaBio) (hcommand : field32 msg offCommand = command)
    (hcmd : BioCmd.ofWord command = some cmd) : commandOf msg = some (.bio cmd) := by
  have hword : Target.ofWord (field32 msg offTarget) = some .bio := by
    rw [htarget]
    decide
  have hbio : bioCmd msg = some cmd := by
    rw [bioCmd, commandIn, if_neg (by omega), hcommand, hcmd]
  unfold sizeofBioCommand at hlen
  rw [commandOf_of_target (by unfold sizeofHeader; omega) hword, moduleCommand, hbio]
  rfl

/-- What a bio command returns, by the status of its transfer. -/
def bioAnswerOf (sent : Int × Tee) : Outcome (Int × Tee) :=
  if sent.1 ≠ 0 then .ok sent
  else do
    let response ← load32 sent.2.sharedBuffer offResponse
    .ok (toInt32 response, sent.2)

/-- The message of a bio command is made before it is sent. -/
theorem bioCommand_message {cmd : BioCmd} {commandId : UInt32}
    (hbuffer : sizeofBioCommand ≤ tee.sharedBuffer.length)
    (hcmd : BioCmd.ofWord commandId = some cmd) :
    ∃ sent, sent.length = tee.sharedBuffer.length ∧ commandOf sent = some (.bio cmd) ∧
      field32 sent offAnswer = field32 tee.sharedBuffer offAnswer ∧
      ∀ tac envs, bioCommand tac envs tee commandId
        = transferBuffer tac envs tee sent >>= bioAnswerOf := by
  have hsize : sizeofBioCommand = 40 := rfl
  have hcommandIn : offCommand + 4 ≤ tee.sharedBuffer.length := by
    unfold offCommand
    omega
  have h1 := length_put32 hcommandIn commandId
  have htargetIn : offTarget + 4 ≤ (put32 tee.sharedBuffer offCommand commandId).length := by
    unfold offTarget
    omega
  have h2 := length_put32 htargetIn targetFpcTaBio
  refine ⟨put32 (put32 tee.sharedBuffer offCommand commandId) offTarget targetFpcTaBio,
    by rw [h2, h1], ?_, ?_, ?_⟩
  · apply commandOf_bio (by omega) _ _ hcmd
    · rw [field32_put32 (by omega)]
    · rw [field32_put32_of_disjoint htargetIn (Or.inr (by decide)), field32_put32 (by omega)]
  -- the header stands in front of the answer
  · rw [field32_put32_of_disjoint htargetIn (Or.inr (by decide)),
      field32_put32_of_disjoint hcommandIn (Or.inr (by decide))]
  · intro tac envs
    unfold bioCommand
    rw [store32_eq hcommandIn, ok_bind, store32_eq htargetIn, ok_bind]
    rfl

/-- **What a bio command leaves.** -/
theorem bioCommand_commanded {cmd : BioCmd} {commandId : UInt32} {status : Int}
    (htac : tac.DeliversOrFails P) (hbuffer : sizeofBioCommand ≤ tee.sharedBuffer.length)
    (hcmd : BioCmd.ofWord commandId = some cmd)
    (h : bioCommand tac envs tee commandId = .ok (status, tee')) :
    BioCommanded P tac (envs tee.messages) cmd tee.ta (field32 tee.sharedBuffer offAnswer) status tee' ∧
      tee'.sharedBuffer.length = tee.sharedBuffer.length := by
  obtain ⟨sent, hlen, hcommandOf, hanswer, hcommand⟩ := bioCommand_message hbuffer hcmd
  rw [hcommand] at h
  rcases bind_eq_ok.mp h with ⟨⟨returned, transferred⟩, htransfer, h⟩
  unfold transferBuffer transfer at htransfer
  cases htac with
  | inr hfails =>
    rw [hfails.transfer] at htransfer
    cases htransfer
    cases h
    exact ⟨.lost hfails rfl rfl, hlen⟩
  | inl hdelivers =>
    rcases hdelivers with ⟨sees, hdelivers⟩
    have hdelivered := hdelivers.transfer (envs tee.messages) tee.ta sent
    rw [(fpcTaRouteCommand_of_bio P _ tee.ta hcommandOf).2] at hdelivered
    rw [hdelivered] at htransfer
    simp only [bind_assoc, ok_bind] at htransfer
    rcases bind_eq_ok.mp htransfer with ⟨r, hrespond, htransfer⟩
    rcases bioRespond_answered hrespond with
      ⟨reply, hreply, hta, hzero, hmsg, hresponse, hreplied, harray⟩
    rw [hzero, hdelivers.zero] at htransfer
    have hreached : ¬ tac.Fails := by
      intro hfails
      rw [hfails.transfer, hrespond, ok_bind, hzero, hdelivers.zero] at hdelivered
      cases hdelivered
    cases htransfer
    rcases bind_eq_ok.mp h with ⟨response, hload, h⟩
    cases h
    rw [hanswer] at hreply
    refine ⟨.answered hreached sent reply hreply ?_ hta hresponse hreplied harray, hmsg.trans hlen⟩
    rw [load32_ok hload, hresponse]

section

variable {cmd : BioCmd} {answer : UInt32} {status : Int}

/-- The response of a command that succeeded reads 0 again. -/
theorem BioCommanded.response_zero (h : BioCommanded P tac env cmd ta answer status tee')
    (hzero : status = 0) : toInt32 (field32 tee'.sharedBuffer offResponse) = 0 := by
  cases h with
  | lost _ hstatus _ =>
    rw [hstatus] at hzero
    cases hzero
  | answered _ _ reply _ hstatus _ hresponse _ _ => rw [hresponse, ← hstatus, hzero]

theorem BioCommanded.responseOf (h : BioCommanded P tac env cmd ta answer status tee') {response : Int}
    (hresponse : Fpc.responseOf status tee' = .ok response) : response = status := by
  unfold Fpc.responseOf at hresponse
  split at hresponse
  · cases hresponse
    rfl
  · next hzero =>
    rcases bind_eq_ok.mp hresponse with ⟨word, hload, hresponse⟩
    cases hresponse
    rw [load32_ok hload, h.response_zero (not_not.mp hzero), not_not.mp hzero]

/-- A command that leaves the database and the active set also does where its transfer fails. -/
theorem BioCommanded.sameDb (h : BioCommanded P tac env cmd ta answer status tee')
    (hcmd : cmd.keepsDb = true) : SameDb ta tee'.ta := by
  cases h with
  | lost _ _ hta =>
    rw [hta]
    exact SameDb.refl ta
  | answered _ _ _ hswitch _ hta _ _ _ =>
    rw [hta]
    exact bioSwitch_sameDb hswitch hcmd

theorem BioCommanded.keepsIds (h : BioCommanded P tac env cmd ta answer status tee')
    (hadd : cmd ≠ .endEnrol) (hempty : cmd ≠ .loadEmptyDb) :
    KeepsIds ta.bio.userDb tee'.ta.bio.userDb ∧
      (cmd ≠ .setActiveFingerprintSet → tee'.ta.bio.activeSetKey = ta.bio.activeSetKey) := by
  cases h with
  | lost _ _ hta =>
    rw [hta]
    exact ⟨KeepsIds.refl _, fun _ => rfl⟩
  | answered _ _ _ hswitch _ hta _ _ _ =>
    rw [hta]
    exact bioSwitch_keepsIds hswitch hadd hempty

/-- `bio_command`, with an answer in the message. -/
theorem bioCommandWith_commanded {commandId : UInt32} (htac : tac.DeliversOrFails P)
    (hbuffer : sizeofBioCommand ≤ tee.sharedBuffer.length)
    (hcmd : BioCmd.ofWord commandId = some cmd)
    (h : bioCommandWith tac envs tee answer commandId = .ok (status, tee')) :
    BioCommanded P tac (envs tee.messages) cmd tee.ta answer status tee' ∧
      tee'.sharedBuffer.length = tee.sharedBuffer.length := by
  rcases bind_eq_ok.mp h with ⟨shared, hstore, h⟩
  rcases store32_ok hstore with ⟨hin, rfl⟩
  have hlen := length_put32 hin answer
  have hcommanded := bioCommand_commanded htac (by rw [hlen]; exact hbuffer) hcmd h
  rw [field32_put32 (by omega), hlen] at hcommanded
  exact hcommanded

/-- `bio_command`, and the answer. -/
theorem bioAnswer_commanded {commandId : UInt32} {id : Option UInt32}
    (htac : tac.DeliversOrFails P) (hbuffer : sizeofBioCommand ≤ tee.sharedBuffer.length)
    (hcmd : BioCmd.ofWord commandId = some cmd)
    (h : bioAnswer tac envs tee commandId = .ok (status, id, tee')) :
    BioCommanded P tac (envs tee.messages) cmd tee.ta (field32 tee.sharedBuffer offAnswer) status tee' ∧
      (status = 0 → id = some (field32 tee'.sharedBuffer offAnswer)) ∧ (status ≠ 0 → id = none) ∧
      tee'.sharedBuffer.length = tee.sharedBuffer.length := by
  rcases bind_eq_ok.mp h with ⟨⟨returned, commandTee⟩, hcommand, h⟩
  rcases bioCommand_commanded htac hbuffer hcmd hcommand with ⟨hcommanded, hlen⟩
  dsimp only at h
  split at h
  · next hne =>
    cases h
    exact ⟨hcommanded, fun hzero => absurd hzero hne, fun _ => rfl, hlen⟩
  · next hzero =>
    rcases bind_eq_ok.mp h with ⟨word, hload, h⟩
    rcases bind_eq_ok.mp h with ⟨response, hresponse, h⟩
    cases h
    rw [hcommanded.responseOf hresponse, load32_ok hload]
    exact ⟨hcommanded, fun _ => rfl, fun hne => absurd (not_not.mp hzero) hne, hlen⟩

theorem fpcTeeSetGid_commanded {gid : UInt32} (htac : tac.DeliversOrFails P)
    (hbuffer : sizeofBioCommand ≤ tee.sharedBuffer.length)
    (h : fpcTeeSetGid tac envs tee gid = .ok (status, tee')) :
    BioCommanded P tac (envs tee.messages) .setActiveFingerprintSet tee.ta gid status tee' ∧
      tee'.sharedBuffer.length = tee.sharedBuffer.length := by
  rcases bind_eq_ok.mp h with ⟨⟨returned, commandTee⟩, hcommand, h⟩
  rcases bind_eq_ok.mp h with ⟨response, hresponse, h⟩
  cases h
  have hcmd : BioCmd.ofWord fpcTaBioSetActiveFingerprintSetCmd = some .setActiveFingerprintSet := by
    decide
  have hcommanded := bioCommandWith_commanded htac hbuffer hcmd hcommand
  rwa [hcommanded.1.responseOf hresponse]

theorem fpcTeeDeleteTemplate_commanded {id : UInt32} (htac : tac.DeliversOrFails P)
    (hbuffer : sizeofBioCommand ≤ tee.sharedBuffer.length)
    (h : fpcTeeDeleteTemplate tac envs tee id = .ok (status, tee')) :
    BioCommanded P tac (envs tee.messages) .deleteTemplate tee.ta id status tee' ∧
      tee'.sharedBuffer.length = tee.sharedBuffer.length := by
  rcases bind_eq_ok.mp h with ⟨⟨returned, commandTee⟩, hcommand, h⟩
  rcases bind_eq_ok.mp h with ⟨response, hresponse, h⟩
  cases h
  have hcmd : BioCmd.ofWord fpcTaBioDeleteTemplateCmd = some .deleteTemplate := by decide
  have hcommanded := bioCommandWith_commanded htac hbuffer hcmd hcommand
  rwa [hcommanded.1.responseOf hresponse]

theorem fpcTeeEnrol_commanded {remaining : Option UInt32} (htac : tac.DeliversOrFails P)
    (hbuffer : sizeofBioCommand ≤ tee.sharedBuffer.length)
    (h : fpcTeeEnrol tac envs tee = .ok (status, remaining, tee')) :
    SameDb tee.ta tee'.ta ∧ tee'.sharedBuffer.length = tee.sharedBuffer.length := by
  rcases bind_eq_ok.mp h with ⟨⟨returned, commandTee⟩, hcommand, h⟩
  have hcmd : BioCmd.ofWord fpcTaBioEnrolCmd = some .enrol := by decide
  rcases bioCommand_commanded htac hbuffer hcmd hcommand with ⟨hcommanded, hlen⟩
  have hsame := hcommanded.sameDb rfl
  dsimp only at h
  split at h
  · cases h
    exact ⟨hsame, hlen⟩
  · rcases bind_eq_ok.mp h with ⟨_, _, h⟩
    rcases bind_eq_ok.mp h with ⟨_, _, h⟩
    cases h
    exact ⟨hsame, hlen⟩

theorem fpcTeeBeginEnrol_commanded (htac : tac.DeliversOrFails P)
    (hbuffer : sizeofBioCommand ≤ tee.sharedBuffer.length)
    (h : fpcTeeBeginEnrol tac envs tee = .ok (status, tee')) :
    SameDb tee.ta tee'.ta ∧ tee'.sharedBuffer.length = tee.sharedBuffer.length := by
  have hcmd : BioCmd.ofWord fpcTaBioBeginEnrolCmd = some .beginEnrol := by decide
  rcases bioCommand_commanded htac hbuffer hcmd h with ⟨hcommanded, hlen⟩
  exact ⟨hcommanded.sameDb rfl, hlen⟩

theorem fpcTeeGetFingerIds_commanded {size : UInt32} {ids : Option (List UInt32)}
    (htac : tac.DeliversOrFails P) (hbuffer : sizeofBioCommand ≤ tee.sharedBuffer.length)
    (h : fpcTeeGetFingerIds tac envs tee size = .ok (status, ids, tee')) :
    SameDb tee.ta tee'.ta ∧ tee'.sharedBuffer.length = tee.sharedBuffer.length := by
  rcases bind_eq_ok.mp h with ⟨shared, hstore, h⟩
  have hlen := length_of_store32 hstore
  dsimp only at h
  split at h
  · cases h
    exact ⟨SameDb.refl _, hlen⟩
  · rcases bind_eq_ok.mp h with ⟨⟨returned, commandTee⟩, hcommand, h⟩
    have hcmd : BioCmd.ofWord fpcTaBioGetFingerIdsCmd = some .getFingerIds := by decide
    rcases bioCommand_commanded htac (by rw [hlen]; exact hbuffer) hcmd hcommand with
      ⟨hcommanded, hcommandLen⟩
    have hsame := hcommanded.sameDb rfl
    have hkept := hcommandLen.trans hlen
    dsimp only at h
    split at h
    · cases h
      exact ⟨hsame, hkept⟩
    · rcases bind_eq_ok.mp h with ⟨_, _, h⟩
      rcases bind_eq_ok.mp h with ⟨_, _, h⟩
      rcases bind_eq_ok.mp h with ⟨_, _, h⟩
      cases h
      exact ⟨hsame, hkept⟩

/-- The id that the application answers is that of its database. -/
theorem fpcTeeGetTemplateDbId_commanded {id : Option UInt64} (htac : tac.DeliversOrFails P)
    (hbuffer : sizeofBioCommand ≤ tee.sharedBuffer.length)
    (h : fpcTeeGetTemplateDbId tac envs tee = .ok (status, id, tee')) :
    SameDb tee.ta tee'.ta ∧ (status = 0 → id = databaseIdOf tee.ta.bio.userDb) ∧
      tee'.sharedBuffer.length = tee.sharedBuffer.length := by
  rcases bind_eq_ok.mp h with ⟨⟨returned, commandTee⟩, hcommand, h⟩
  have hcmd : BioCmd.ofWord fpcTaBioGetTemplateDbIdCmd = some .getTemplateDbId := by decide
  rcases bioCommand_commanded htac hbuffer hcmd hcommand with ⟨hcommanded, hlen⟩
  have hsame := hcommanded.sameDb rfl
  dsimp only at h
  split at h
  · next hne =>
    cases h
    exact ⟨hsame, fun hzero => absurd hzero hne, hlen⟩
  · next hzero =>
    rcases bind_eq_ok.mp h with ⟨word, hload, h⟩
    rcases bind_eq_ok.mp h with ⟨response, hresponse, h⟩
    cases h
    refine ⟨hsame, ?_, hlen⟩
    intro _
    cases hcommanded with
    | lost _ hstatus _ => exact absurd hstatus (by rw [not_not.mp hzero]; decide)
    | answered _ msg reply hswitch hstatus _ _ _ harray =>
      rw [bioSwitch] at hswitch
      cases hdb : tee.ta.bio.userDb with
      | none =>
        rw [hdb] at hswitch
        cases hswitch
        dsimp only at hstatus
        exact absurd hstatus (by rw [not_not.mp hzero]; decide)
      | some db =>
        rw [hdb] at hswitch
        rcases bind_eq_ok.mp hswitch with ⟨stored, hstore, hswitch⟩
        cases hswitch
        rcases store64_ok hstore with ⟨hin, rfl⟩
        rw [load64_ok hload, (harray offArray (by decide)).1, field64_put64 (by omega)]
        rfl

/-! ## What the commands of the hardware authentication module leave -/

/-- The module does not touch the database. -/
theorem HwAuthEffect.sameDb (h : HwAuthEffect P env ta msg ta') : SameDb ta ta' := by
  cases h with
  | none => exact SameDb.refl ta
  | setAuthChallenge _ => exact ⟨rfl, rfl⟩
  | getEnrolChallenge _ => exact ⟨rfl, rfl⟩
  | authorizeEnrol _ _ => exact ⟨rfl, rfl⟩
  | setSharedKey _ => exact ⟨rfl, rfl⟩

theorem hwAuthHeader_ok {shared shared' : List UInt8} {command : UInt32}
    (h : hwAuthHeader shared command = .ok shared') :
    sizeofHeader ≤ shared.length ∧ shared'.length = shared.length ∧
      field32 shared' offTarget = targetFpcTaHwAuth ∧ field32 shared' offCommand = command := by
  rcases bind_eq_ok.mp h with ⟨commanded, hcommand, htarget⟩
  rcases store32_ok hcommand with ⟨hcommandIn, rfl⟩
  rcases store32_ok htarget with ⟨htargetIn, rfl⟩
  have hlen := length_put32 hcommandIn command
  refine ⟨hcommandIn, ?_, ?_, ?_⟩
  · rw [length_put32 htargetIn, hlen]
  · rw [field32_put32 (by omega)]
  · rw [field32_put32_of_disjoint htargetIn (Or.inr (by decide)), field32_put32 (by omega)]

/-- A message to the module leaves the database, whatever it says. -/
theorem transfer_hwAuth {shared shared' : List UInt8} (htac : tac.DeliversOrFails P)
    (hlen : sizeofHeader ≤ shared.length) (htarget : field32 shared offTarget = targetFpcTaHwAuth)
    (h : transfer tac envs tee shared = .ok (status, tee', shared')) :
    SameDb tee.ta tee'.ta ∧ tee'.sharedBuffer = tee.sharedBuffer := by
  rcases bind_eq_ok.mp h with ⟨⟨returned, ta', left⟩, htransfer, h⟩
  cases h
  cases htac with
  | inr hfails =>
    rw [hfails.transfer] at htransfer
    cases htransfer
    exact ⟨SameDb.refl _, rfl⟩
  | inl hdelivers =>
    rcases hdelivers with ⟨sees, hdelivers⟩
    have hword : Target.ofWord (field32 shared offTarget) = some .hwAuth := by
      rw [htarget]
      decide
    rw [hdelivers.transfer, fpcTaRouteCommand_of_target hlen hword] at htransfer
    rcases bind_eq_ok.mp htransfer with ⟨r, hhandle, htransfer⟩
    cases htransfer
    exact ⟨(fpcTaHwAuthHandler_effect hhandle).sameDb, rfl⟩

theorem fpcTeeAuthorizeEnrol_frame {token : List UInt8} (htac : tac.DeliversOrFails P)
    (h : fpcTeeAuthorizeEnrol tac envs tee token = .ok (status, tee')) :
    SameDb tee.ta tee'.ta ∧ tee'.sharedBuffer = tee.sharedBuffer := by
  unfold fpcTeeAuthorizeEnrol at h
  split at h
  · cases h
    exact ⟨SameDb.refl _, rfl⟩
  · rcases bind_eq_ok.mp h with ⟨headed, hheader, h⟩
    rcases bind_eq_ok.mp h with ⟨sized, hsize, h⟩
    rcases bind_eq_ok.mp h with ⟨filled, htoken, h⟩
    rcases bind_eq_ok.mp h with ⟨⟨returned, sent, left⟩, htransfer, h⟩
    rcases hwAuthHeader_ok hheader with ⟨hlong, hheaded, htarget, _⟩
    -- the size and the token stand behind the header
    have hfilledLen := (length_of_storeSpan htoken).trans (length_of_store32 hsize)
    have hfilled : field32 filled offTarget = targetFpcTaHwAuth := by
      rw [field32_of_storeSpan htoken (by decide), field32_of_storeSpan hsize (by decide), htarget]
    have hframe := transfer_hwAuth htac (by omega) hfilled htransfer
    dsimp only at h
    split at h
    · cases h
      exact hframe
    · rcases bind_eq_ok.mp h with ⟨_, _, h⟩
      cases h
      exact hframe

theorem fpcTeeGetAuthResult_frame {sizeToken : Nat} {token : Option (List UInt8)}
    (htac : tac.DeliversOrFails P)
    (h : fpcTeeGetAuthResult tac envs tee sizeToken = .ok (status, token, tee')) :
    SameDb tee.ta tee'.ta ∧ tee'.sharedBuffer = tee.sharedBuffer := by
  unfold fpcTeeGetAuthResult at h
  split at h
  · cases h
    exact ⟨SameDb.refl _, rfl⟩
  · rcases bind_eq_ok.mp h with ⟨headed, hheader, h⟩
    rcases bind_eq_ok.mp h with ⟨sized, hsize, h⟩
    rcases bind_eq_ok.mp h with ⟨⟨returned, sent, left⟩, htransfer, h⟩
    rcases hwAuthHeader_ok hheader with ⟨hlong, hheaded, htarget, _⟩
    have hsizedLen := length_of_store32 hsize
    have hsized : field32 sized offTarget = targetFpcTaHwAuth := by
      rw [field32_of_storeSpan hsize (by decide), htarget]
    have hframe := transfer_hwAuth htac (by omega) hsized htransfer
    dsimp only at h
    split at h
    · cases h
      exact hframe
    · rcases bind_eq_ok.mp h with ⟨_, _, h⟩
      rcases bind_eq_ok.mp h with ⟨_, _, h⟩
      cases h
      exact hframe

/-- A challenge goes through the message buffer, in a message of the same length. -/
theorem transferBuffer_challenge {cmd : HwAuthCmd} {command : UInt32} {asked : List UInt8}
    (htac : tac.DeliversOrFails P) (hlen : sizeofHwAuthCommand ≤ asked.length)
    (htarget : field32 asked offTarget = targetFpcTaHwAuth)
    (hcommand : field32 asked offCommand = command) (hword : HwAuthCmd.ofWord command = some cmd)
    (hcmd : cmd = .setAuthChallenge ∨ cmd = .getEnrolChallenge)
    (h : transferBuffer tac envs tee asked = .ok (status, tee')) :
    SameDb tee.ta tee'.ta ∧ tee'.sharedBuffer.length = asked.length := by
  unfold transferBuffer transfer at h
  cases htac with
  | inr hfails =>
    rw [hfails.transfer] at h
    cases h
    exact ⟨SameDb.refl _, rfl⟩
  | inl hdelivers =>
    rcases hdelivers with ⟨sees, hdelivers⟩
    have hcommandOf : commandOf asked = some (.hwAuth cmd) := by
      have hhwAuth : hwAuthCmd asked = some cmd := by
        rw [hwAuthCmd, commandIn, if_neg (by omega), hcommand, hword]
      unfold sizeofHwAuthCommand at hlen
      rw [commandOf_of_target (by unfold sizeofHeader; omega)
        (show Target.ofWord (field32 asked offTarget) = some .hwAuth by rw [htarget]; decide),
        moduleCommand, hhwAuth]
      rfl
    have hroute := (fpcTaRouteCommand_of_hwAuth P (envs tee.messages) tee.ta hcommandOf).2
    have hchallenge : 8 ≤ asked.length - offChallenge ∧ 4 ≤ asked.length - offChallengeResponse := by
      unfold sizeofHwAuthCommand at hlen
      unfold offChallenge offChallengeResponse
      omega
    rw [hdelivers.transfer, hroute] at h
    rcases hcmd with rfl | rfl
    · rw [hwAuthSwitch_setAuthChallenge hlen] at h
      simp only [ok_bind] at h
      cases h
      exact ⟨⟨rfl, rfl⟩, length_put32 (by omega) _⟩
    · rw [hwAuthSwitch_getEnrolChallenge hlen] at h
      simp only [ok_bind] at h
      cases h
      refine ⟨⟨rfl, rfl⟩, ?_⟩
      dsimp only
      have hput := length_put64 (show offChallenge + 8 ≤ asked.length by omega)
        (getEnrolChallenge (envs tee.messages) tee.ta.hwAuth).2.1
      rw [length_put32 (by rw [hput]; omega), hput]

theorem fpcTeeSetAuthChallenge_frame {challenge : UInt64} (htac : tac.DeliversOrFails P)
    (hbuffer : sizeofBioCommand ≤ tee.sharedBuffer.length)
    (h : fpcTeeSetAuthChallenge tac envs tee challenge = .ok (status, tee')) :
    SameDb tee.ta tee'.ta ∧ tee'.sharedBuffer.length = tee.sharedBuffer.length := by
  rcases bind_eq_ok.mp h with ⟨headed, hheader, h⟩
  rcases bind_eq_ok.mp h with ⟨asked, hstore, h⟩
  rcases bind_eq_ok.mp h with ⟨⟨returned, sent⟩, htransfer, h⟩
  rcases hwAuthHeader_ok hheader with ⟨_, hheadedLen, htarget, hcommand⟩
  have hlen := (length_of_storeSpan hstore).trans hheadedLen
  have hask := transferBuffer_challenge htac
    (show sizeofHwAuthCommand ≤ asked.length by
      unfold sizeofBioCommand at hbuffer
      unfold sizeofHwAuthCommand
      omega)
    (by rw [field32_of_storeSpan hstore (by decide), htarget])
    (show field32 asked offCommand = fpcTaHwAuthSetAuthChallenge by
      rw [field32_of_storeSpan hstore (by decide), hcommand])
    (by decide) (Or.inl rfl) htransfer
  rw [hlen] at hask
  dsimp only at h
  split at h
  · cases h
    exact hask
  · rcases bind_eq_ok.mp h with ⟨_, _, h⟩
    cases h
    exact hask

theorem fpcTeeGetEnrolChallenge_frame {challenge : Option UInt64} (htac : tac.DeliversOrFails P)
    (hbuffer : sizeofBioCommand ≤ tee.sharedBuffer.length)
    (h : fpcTeeGetEnrolChallenge tac envs tee = .ok (status, challenge, tee')) :
    SameDb tee.ta tee'.ta ∧ tee'.sharedBuffer.length = tee.sharedBuffer.length := by
  rcases bind_eq_ok.mp h with ⟨asked, hheader, h⟩
  rcases bind_eq_ok.mp h with ⟨⟨returned, sent⟩, htransfer, h⟩
  rcases hwAuthHeader_ok hheader with ⟨_, hlen, htarget, hcommand⟩
  have hask := transferBuffer_challenge htac
    (show sizeofHwAuthCommand ≤ asked.length by
      unfold sizeofBioCommand at hbuffer
      unfold sizeofHwAuthCommand
      omega)
    htarget hcommand (by decide) (Or.inr rfl) htransfer
  rw [hlen] at hask
  dsimp only at h
  split at h
  · cases h
    exact hask
  · rcases bind_eq_ok.mp h with ⟨_, _, h⟩
    rcases bind_eq_ok.mp h with ⟨_, _, h⟩
    cases h
    exact hask

/-! ## What the commands that change the database leave -/

/-- The id of an empty database, where there is a block for one. -/
def emptyDatabaseId (env : DbEnv) : Option UInt64 :=
  if (env.malloc .database).isSome then some (drawnDatabaseId env 0) else none

/-- A database without a set holds no finger. -/
theorem slots_of_setKeyOf {pDb : Option FingerprintDatabase} (h : setKeyOf pDb = none) :
    slots pDb = [] := by
  unfold setKeyOf at h
  rw [Option.map_eq_none_iff] at h
  unfold slots
  rw [h]

theorem fpcTaBioLoadEmptyDb_emptied {bio bio' : Bio} {response : Int}
    (h : fpcTaBioLoadEmptyDb env bio = .ok (response, bio')) :
    setKeyOf bio'.userDb = none ∧ databaseIdOf bio'.userDb = emptyDatabaseId env.db ∧
      bio'.activeSetKey = bio.activeSetKey ∧ FitsInt response ∧
      (response = 0 ↔ bio'.userDb ≠ none) := by
  unfold fpcTaBioLoadEmptyDb fpcDbCreate DbEnv.memCalloc at h
  unfold emptyDatabaseId
  dsimp only at h
  rw [if_neg (not_not.mpr rfl)] at h
  cases hmalloc : env.db.malloc .database with
  | none =>
    rw [hmalloc] at h
    cases h
    exact ⟨rfl, rfl, rfl, (by decide : FitsInt (-fpcErrorAlloc)),
      iff_of_false (by decide) (not_not.mpr rfl)⟩
  | some addr =>
    rw [hmalloc] at h
    simp only [ok_bind] at h
    cases h
    refine ⟨?_, ?_, rfl, (by decide : FitsInt 0), iff_of_true rfl (Option.some_ne_none _)⟩
    · unfold dbUpdateDatabaseId
      dsimp only
      split <;> rfl
    · rw [databaseIdOf_some, databaseId_dbUpdateDatabaseId]
      rfl

/-- What a request for an empty database leaves: the transfer failed, or the application has a
database without a set, or none where there was no block for it. -/
inductive EmptyLoaded (tac : Tac) (env : Env) (ta : Ta) (status : Int) (tee' : Tee) : Prop
  | lost (hfails : tac.Fails) (hstatus : status = -fpcErrorComm) (hta : tee'.ta = ta) :
      EmptyLoaded tac env ta status tee'
  | emptied (hreached : ¬ tac.Fails) (hset : setKeyOf tee'.ta.bio.userDb = none)
      (hid : databaseIdOf tee'.ta.bio.userDb = emptyDatabaseId env.db)
      (hactive : tee'.ta.bio.activeSetKey = ta.bio.activeSetKey)
      (hpresent : status = 0 ↔ tee'.ta.bio.userDb ≠ none) : EmptyLoaded tac env ta status tee'

theorem fpcTeeLoadEmptyDb_commanded (htac : tac.DeliversOrFails P)
    (hbuffer : sizeofBioCommand ≤ tee.sharedBuffer.length)
    (h : fpcTeeLoadEmptyDb tac envs tee = .ok (status, tee')) :
    EmptyLoaded tac (envs tee.messages) tee.ta status tee' ∧
      tee'.sharedBuffer.length = tee.sharedBuffer.length := by
  have hcmd : BioCmd.ofWord fpcTaBioLoadEmptyDbCmd = some .loadEmptyDb := by decide
  rcases bioCommand_commanded htac hbuffer hcmd h with ⟨hcommanded, hlen⟩
  refine ⟨?_, hlen⟩
  cases hcommanded with
  | lost hfails hstatus hta => exact .lost hfails hstatus hta
  | answered hreached _ _ hswitch hstatus hta _ _ _ =>
    rcases bind_eq_ok.mp hswitch with ⟨⟨response, bio⟩, hload, hswitch⟩
    cases hswitch
    rcases fpcTaBioLoadEmptyDb_emptied hload with ⟨hset, hid, hactive, hfits, hpresent⟩
    dsimp only at hstatus
    rw [toInt32_ofInt32 hfits] at hstatus
    refine .emptied hreached ?_ ?_ ?_ ?_
    · rw [hta]
      exact hset
    · rw [hta]
      exact hid
    · rw [hta]
      exact hactive
    · rw [hta, hstatus]
      exact hpresent

/-- **What `fpc_tee_end_enrol` leaves**: with 0, one finger more and the id that is answered. -/
theorem fpcTeeEndEnrol_commanded {id : Option UInt32} (htac : tac.DeliversOrFails P)
    (hbuffer : sizeofBioCommand ≤ tee.sharedBuffer.length)
    (h : fpcTeeEndEnrol tac envs tee = .ok (status, id, tee')) :
    (status = 0 → ∃ x base index f, id = some x ∧
      EnrolmentEnded (envs tee.messages) tee.ta.bio tee'.ta.bio x base index f) ∧
    (status ≠ 0 → id = none ∧ (∀ f, Enrolled tee'.ta.bio.userDb f → Enrolled tee.ta.bio.userDb f) ∧
      databaseIdOf tee'.ta.bio.userDb = databaseIdOf tee.ta.bio.userDb) ∧
    tee'.sharedBuffer.length = tee.sharedBuffer.length := by
  have hcmd : BioCmd.ofWord fpcTaBioEndEnrolCmd = some .endEnrol := by decide
  rcases bioAnswer_commanded htac hbuffer hcmd h with ⟨hcommanded, hid, hnone, hlen⟩
  refine ⟨?_, ?_, hlen⟩
  · intro hzero
    cases hcommanded with
    | lost _ hstatus _ => exact absurd hstatus (by rw [hzero]; decide)
    | answered _ msg reply hswitch hstatus hta _ hanswer _ =>
      cases hswitch
      dsimp only at hstatus hta hanswer
      rw [toInt32_ofInt32 fpcTaBioEndEnrol_fits] at hstatus
      rcases fpcTaBioEndEnrol_zero (hstatus.symm.trans hzero) with ⟨x, base, index, f, hx, hended⟩
      rw [hid hzero, hanswer, hx, hta]
      exact ⟨x, base, index, f, rfl, hended⟩
  · intro hne
    refine ⟨hnone hne, ?_⟩
    cases hcommanded with
    | lost _ _ hta =>
      rw [hta]
      exact ⟨fun f hf => hf, rfl⟩
    | answered _ msg reply hswitch hstatus hta _ _ _ =>
      cases hswitch
      dsimp only at hstatus hta
      rw [toInt32_ofInt32 fpcTaBioEndEnrol_fits] at hstatus
      rw [hta]
      exact fpcTaBioEndEnrol_ne_zero (by rw [← hstatus]; exact hne)

/-- A set that an `END_ENROL` brings in is under the active key. -/
theorem fpcTeeEndEnrol_setKey {id : Option UInt32} (htac : tac.DeliversOrFails P)
    (hbuffer : sizeofBioCommand ≤ tee.sharedBuffer.length)
    (h : fpcTeeEndEnrol tac envs tee = .ok (status, id, tee')) :
    tee'.ta.bio.activeSetKey = tee.ta.bio.activeSetKey ∧
      ∀ k, setKeyOf tee'.ta.bio.userDb = some k →
        setKeyOf tee.ta.bio.userDb = some k ∨ k = tee.ta.bio.activeSetKey := by
  have hcmd : BioCmd.ofWord fpcTaBioEndEnrolCmd = some .endEnrol := by decide
  cases (bioAnswer_commanded htac hbuffer hcmd h).1 with
  | lost _ _ hta =>
    rw [hta]
    exact ⟨rfl, fun k hk => Or.inl hk⟩
  | answered _ msg reply hswitch _ hta _ _ _ =>
    cases hswitch
    rw [hta]
    exact ⟨fpcTaBioEndEnrol_activeSetKey, fun k hk => setKeyOf_fpcTaBioEndEnrol hk⟩

/-- The id of the database is the same, its set is under no other key, and the active set and the
message buffer are as they were. -/
structure Tee.Kept (tee tee' : Tee) : Prop where
  ids : KeepsIds tee.ta.bio.userDb tee'.ta.bio.userDb
  activeSetKey : tee'.ta.bio.activeSetKey = tee.ta.bio.activeSetKey
  buffer : tee'.sharedBuffer.length = tee.sharedBuffer.length

theorem Tee.kept_of_sameDb (h : SameDb tee.ta tee'.ta)
    (hbuffer : tee'.sharedBuffer.length = tee.sharedBuffer.length) : tee.Kept tee' :=
  { ids := by rw [h.userDb]; exact KeepsIds.refl _
    activeSetKey := h.activeSetKey
    buffer := hbuffer }

theorem fpcTeeIdentify_kept {id : Option UInt32} (htac : tac.DeliversOrFails P)
    (hbuffer : sizeofBioCommand ≤ tee.sharedBuffer.length)
    (h : fpcTeeIdentify tac envs tee = .ok (status, id, tee')) : tee.Kept tee' := by
  have hcmd : BioCmd.ofWord fpcTaBioIdentifyCmd = some .identify := by decide
  rcases bioAnswer_commanded htac hbuffer hcmd h with ⟨hcommanded, _, _, hlen⟩
  rcases hcommanded.keepsIds (by decide) (by decide) with ⟨hids, hactive⟩
  exact ⟨hids, hactive (by decide), hlen⟩

theorem fpcTeeUpdateTemplate_kept {update : Option UInt32} (htac : tac.DeliversOrFails P)
    (hbuffer : sizeofBioCommand ≤ tee.sharedBuffer.length)
    (h : fpcTeeUpdateTemplate tac envs tee = .ok (status, update, tee')) : tee.Kept tee' := by
  have hcmd : BioCmd.ofWord fpcTaBioUpdateTemplateCmd = some .updateTemplate := by decide
  rcases bioAnswer_commanded htac hbuffer hcmd h with ⟨hcommanded, _, _, hlen⟩
  rcases hcommanded.keepsIds (by decide) (by decide) with ⟨hids, hactive⟩
  exact ⟨hids, hactive (by decide), hlen⟩

theorem fpcTeeDeleteTemplate_kept {id : UInt32} (htac : tac.DeliversOrFails P)
    (hbuffer : sizeofBioCommand ≤ tee.sharedBuffer.length)
    (h : fpcTeeDeleteTemplate tac envs tee id = .ok (status, tee')) : tee.Kept tee' := by
  rcases fpcTeeDeleteTemplate_commanded htac hbuffer h with ⟨hcommanded, hlen⟩
  rcases hcommanded.keepsIds (by decide) (by decide) with ⟨hids, hactive⟩
  exact ⟨hids, hactive (by decide), hlen⟩

/-- The active set is the one asked for exactly when the command returns 0. -/
theorem fpcTeeSetGid_active {gid : UInt32} (htac : tac.DeliversOrFails P)
    (hbuffer : sizeofBioCommand ≤ tee.sharedBuffer.length)
    (h : fpcTeeSetGid tac envs tee gid = .ok (status, tee')) :
    tee'.ta.bio.userDb = tee.ta.bio.userDb ∧ (status = 0 → tee'.ta.bio.activeSetKey = gid) ∧
      (status ≠ 0 → tee'.ta.bio.activeSetKey = tee.ta.bio.activeSetKey) ∧
      tee'.sharedBuffer.length = tee.sharedBuffer.length := by
  rcases fpcTeeSetGid_commanded htac hbuffer h with ⟨hcommanded, hlen⟩
  cases hcommanded with
  | lost _ hstatus hta =>
    rw [hta]
    exact ⟨rfl, fun hzero => absurd hstatus (by rw [hzero]; decide), fun _ => rfl, hlen⟩
  | answered _ _ _ hswitch hstatus hta _ _ _ =>
    cases hswitch
    rw [hta]
    exact ⟨rfl, fun _ => rfl, fun hne => absurd hstatus hne, hlen⟩

end

end

end Fpc
