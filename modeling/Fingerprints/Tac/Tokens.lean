import Fingerprints.Tac.Bio

/-!
# Tokens through the client

What the functions of `fpc_tee_hw_auth.c` say of the application where they return 0: the challenge is
set, the token that is asked for is the one that the application signed, and the token that is handed in is
the one that it found valid.

* **`transfer_commanded`**: what a message of the hardware authentication module leaves;
* **`fpcTeeGetAuthResult_signed`**: the bytes of a token go through the message as they are;
* **`fpcTeeAuthorizeEnrol_valid`**, **`fpcTeeEndEnrol_authorised`**: an enrolment ends with the token that
  is there still valid, and keeps its user.
-/

namespace Fpc

open Wire Wire.Outcome

section

variable {P : Platform} {tac : Tac} {envs : Nat → Env} {tee tee' : Tee} {env : Env} {ta ta' : Ta}
  {msg msg' : List UInt8} {cmd : HwAuthCmd} {status : Int}

/-! ## A message of the module -/

/-- The transfer failed, the message is too short for the handler, or its case of the switch ran. -/
inductive HwAuthCommanded (P : Platform) (env : Env) (cmd : HwAuthCmd) (ta : Ta) (msg : List UInt8)
    (status : Int) (ta' : Ta) (msg' : List UInt8) : Prop
  | lost (hstatus : status = -fpcErrorComm) (hta : ta' = ta) :
      HwAuthCommanded P env cmd ta msg status ta' msg'
  | rejected (hlen : msg.length < sizeofHwAuthCommand) (hta : ta' = ta) (hmsg : msg' = msg) :
      HwAuthCommanded P env cmd ta msg status ta' msg'
  | answered (r : Handled) (hlen : sizeofHwAuthCommand ≤ msg.length)
      (hswitch : hwAuthSwitch P env ta msg cmd = .ok r) (hstatus : status = 0) (hta : ta' = r.ta)
      (hmsg : msg' = r.msg) : HwAuthCommanded P env cmd ta msg status ta' msg'

/-- The handler answers in the message, and returns 0. -/
theorem hwAuthSwitch_status {r : Handled} (h : hwAuthSwitch P env ta msg cmd = .ok r) :
    r.status = 0 := by
  cases cmd with
  | setAuthChallenge =>
    obtain ⟨_, _, h⟩ := bind_eq_ok.mp h
    obtain ⟨_, _, h⟩ := bind_eq_ok.mp h
    cases h
    rfl
  | getEnrolChallenge =>
    obtain ⟨_, _, h⟩ := bind_eq_ok.mp h
    obtain ⟨_, _, h⟩ := bind_eq_ok.mp h
    cases h
    rfl
  | authorizeEnrol =>
    obtain ⟨_, _, h⟩ := bind_eq_ok.mp h
    obtain ⟨_, _, h⟩ := bind_eq_ok.mp h
    obtain ⟨_, _, h⟩ := bind_eq_ok.mp h
    cases h
    rfl
  | getAuthResult =>
    obtain ⟨_, _, h⟩ := bind_eq_ok.mp h
    obtain ⟨_, _, h⟩ := bind_eq_ok.mp h
    obtain ⟨_, _, h⟩ := bind_eq_ok.mp h
    cases h
    rfl
  | setSharedKey =>
    obtain ⟨_, _, h⟩ := bind_eq_ok.mp h
    obtain ⟨_, _, h⟩ := bind_eq_ok.mp h
    cases h
    rfl

theorem transfer_commanded {command : UInt32} (htac : tac.DeliversOrFails P)
    (hlen : sizeofHeader ≤ msg.length) (htarget : field32 msg offTarget = targetFpcTaHwAuth)
    (hcommand : field32 msg offCommand = command) (hword : HwAuthCmd.ofWord command = some cmd)
    (h : transfer tac envs tee msg = .ok (status, tee', msg')) :
    HwAuthCommanded P (envs tee.messages) cmd tee.ta msg status tee'.ta msg' ∧
      tee'.sharedBuffer = tee.sharedBuffer := by
  obtain ⟨⟨returned, ta', left⟩, htransfer, h⟩ := bind_eq_ok.mp h
  cases h
  cases htac with
  | inr hfails =>
    rw [hfails.transfer] at htransfer
    cases htransfer
    exact ⟨.lost rfl rfl, rfl⟩
  | inl hdelivers =>
    obtain ⟨sees, hdelivers⟩ := hdelivers
    have htargetWord : Target.ofWord (field32 msg offTarget) = some .hwAuth := by
      rw [htarget]
      decide
    rw [hdelivers.transfer, fpcTaRouteCommand_of_target hlen htargetWord] at htransfer
    obtain ⟨r, hhandle, htransfer⟩ := bind_eq_ok.mp htransfer
    cases htransfer
    refine ⟨?_, rfl⟩
    by_cases hlong : sizeofHwAuthCommand ≤ msg.length
    · have hcmd : hwAuthCmd msg = some cmd := by
        rw [hwAuthCmd, commandIn, if_neg (by omega), hcommand, hword]
      rw [handleMessage, fpcTaHwAuthHandler, handleCommand_of_some tee.ta (by decide) hcmd] at hhandle
      exact .answered r hlong hhandle (by rw [hwAuthSwitch_status hhandle, hdelivers.zero]) rfl rfl
    · have hnone : hwAuthCmd msg = none := by
        rw [hwAuthCmd, commandIn, if_pos (by omega)]
      rw [handleMessage, fpcTaHwAuthHandler, handleCommand_of_none tee.ta (by decide) hnone] at hhandle
      cases hhandle
      exact .rejected (by omega) rfl rfl

/-! ## Authentication -/

/-- **A challenge that was set is the one of the application**, and no match is recorded for it yet. -/
theorem fpcTeeSetAuthChallenge_set {challenge : UInt64} (htac : tac.DeliversOrFails P)
    (hbuffer : sizeofBioCommand ≤ tee.sharedBuffer.length)
    (h : fpcTeeSetAuthChallenge tac envs tee challenge = .ok (0, tee')) :
    tee'.ta = (setAuthChallenge tee.ta challenge).2 := by
  obtain ⟨headed, hheader, h⟩ := bind_eq_ok.mp h
  obtain ⟨asked, hstore, h⟩ := bind_eq_ok.mp h
  obtain ⟨⟨returned, sent⟩, hbuffered, h⟩ := bind_eq_ok.mp h
  obtain ⟨hlong, hheadedLen, htarget, hcommand⟩ := hwAuthHeader_ok hheader
  obtain ⟨hin, rfl⟩ := store64_ok hstore
  have hlen : (put64 headed offChallenge challenge).length = tee.sharedBuffer.length :=
    (length_of_storeSpan hstore).trans hheadedLen
  obtain ⟨⟨status, tee₁, shared⟩, htransfer, hsent⟩ := bind_eq_ok.mp hbuffered
  cases hsent
  have hword : HwAuthCmd.ofWord fpcTaHwAuthSetAuthChallenge = some .setAuthChallenge := by decide
  have hcommanded := (transfer_commanded htac
    (by rw [hlen]; exact le_trans (by decide) hbuffer)
    (by rw [field32_of_storeSpan hstore (by decide), htarget])
    (by rw [field32_of_storeSpan hstore (by decide), hcommand]) hword htransfer).1
  dsimp only at h
  cases hcommanded with
  | lost hstatus hta =>
    rw [hstatus, if_pos (by decide)] at h
    cases h
  | rejected hshort =>
    rw [hlen] at hshort
    unfold sizeofBioCommand at hbuffer
    unfold sizeofHwAuthCommand at hshort
    omega
  | answered r hlong hswitch hstatus hta hmsg =>
    rw [hwAuthSwitch_setAuthChallenge hlong, field64_put64 (by omega)] at hswitch
    cases hswitch
    rw [hstatus, if_neg (by decide)] at h
    obtain ⟨_, _, h⟩ := bind_eq_ok.mp h
    injection h with h
    rw [← (Prod.mk.inj h).2]
    exact hta

/-- **A token comes through as it was signed.** -/
theorem fpcTeeGetAuthResult_signed {token : Option (List UInt8)} (htac : tac.DeliversOrFails P)
    (h : fpcTeeGetAuthResult tac envs tee sizeofToken = .ok (0, token, tee')) :
    tee'.ta = tee.ta ∧ ∃ bytes templateIndex dbId, token = some bytes ∧ bytes.length = sizeofToken ∧
      fpcDbGetIndexOfId32 tee.ta.bio.userDb tee.ta.bio.matchResult.templateId = .ok templateIndex ∧
      fpcDbGetDatabaseId tee.ta.bio.userDb = .ok dbId ∧
      Token.ofBytes bytes = authToken tee.ta (tokenUserId tee.ta templateIndex) dbId
        (P.hmacSha256 (Token.ofBytes bytes).signedBytes tee.ta.hwAuth.hmacKey) := by
  unfold fpcTeeGetAuthResult at h
  split at h
  · cases h
  · next shared _ =>
    obtain ⟨headed, hheader, h⟩ := bind_eq_ok.mp h
    obtain ⟨sized, hsize, h⟩ := bind_eq_ok.mp h
    obtain ⟨⟨returned, sent, left⟩, htransfer, h⟩ := bind_eq_ok.mp h
    obtain ⟨hlong, hheadedLen, htarget, hcommand⟩ := hwAuthHeader_ok hheader
    have hword : HwAuthCmd.ofWord fpcTaHwAuthGetAuthResult = some .getAuthResult := by decide
    have hcommanded := (transfer_commanded htac
      (by rw [length_of_store32 hsize, hheadedLen]; exact hlong)
      (by rw [field32_of_storeSpan hsize (by decide), htarget])
      (by rw [field32_of_storeSpan hsize (by decide), hcommand]) hword htransfer).1
    dsimp only at h
    cases hcommanded with
    | lost hstatus hta =>
      rw [hstatus, if_pos (by decide)] at h
      cases h
    | rejected hshort hta hmsg =>
      split at h
      · next hne =>
        cases h
        exact absurd rfl hne
      -- a message that is too short for the handler has no place for a token
      · obtain ⟨bytes, hload, h⟩ := bind_eq_ok.mp h
        unfold loadSpan at hload
        unfold sizeofHwAuthCommand at hshort
        rw [hmsg, if_neg (by unfold sizeofToken offArray; omega)] at hload
        cases hload
    | answered r hlen hswitch hstatus hta hmsg =>
      rw [hstatus, if_neg (by decide)] at h
      obtain ⟨bytes, hload, h⟩ := bind_eq_ok.mp h
      obtain ⟨response, hresponse, h⟩ := bind_eq_ok.mp h
      rw [hmsg] at hload hresponse
      cases load32_ok hresponse
      injection h with h
      obtain ⟨hzero, htoken, rfl⟩ := (by simpa using h : _ ∧ _ ∧ _)
      obtain ⟨templateIndex, dbId, hindex, hdb, hsigned⟩ := hwAuthSwitch_signed hswitch hzero
      have hspan : loadSpan r.msg offArray sizeofToken = .ok (slice r.msg offArray sizeofToken) := by
        rw [hload, ← loadSpan_ok hload]
      have hin : offArray + sizeofToken ≤ r.msg.length := by
        unfold loadSpan at hspan
        split at hspan
        · next hin => exact hin.resolve_left (by decide)
        · cases hspan
      rw [loadSpan_ok hload] at htoken
      refine ⟨?_, _, templateIndex, dbId, htoken.symm, length_slice hin, hindex, hdb, hsigned⟩
      rw [hta, hwAuthSwitch_getAuthResult hswitch]

/-! ## Enrolment -/

/-- A check answers 0 or an error. -/
theorem validateIncomingToken_fits (P : Platform) (env : Env) (hwAuth : HwAuthTa) :
    FitsInt (validateIncomingToken P env hwAuth).1 := by
  unfold validateIncomingToken fpcCheckTokenIntegrity
  dsimp only
  split_ifs
  all_goals
    dsimp only
    decide

/-- A check that answers 0 leaves the state. -/
theorem validateIncomingToken_kept {hwAuth : HwAuthTa}
    (h : (validateIncomingToken P env hwAuth).1 = 0) :
    (validateIncomingToken P env hwAuth).2 = hwAuth := by
  unfold validateIncomingToken at h ⊢
  dsimp only at h ⊢
  split_ifs at h ⊢
  · rfl
  · rfl
  · rfl
  · cases h
  · rfl

/-- The token that `authorize_enrol` answers 0 to is the one in the message, and valid. -/
theorem hwAuthSwitch_authorized {r : Handled} (hlen : sizeofHwAuthCommand ≤ msg.length)
    (hsize : ¬ (field32 msg offSize).toNat < sizeofToken)
    (h : hwAuthSwitch P env ta msg .authorizeEnrol = .ok r)
    (hzero : toInt32 (field32 r.msg offResponse) = 0) :
    TokenValid P env { ta.hwAuth with incomingToken := messageToken msg } ∧
      r.ta = { ta with hwAuth := { ta.hwAuth with incomingToken := messageToken msg } } := by
  have hta := hwAuthSwitch_authorizeEnrol hlen h
  rw [if_neg hsize] at hta
  unfold sizeofHwAuthCommand at hlen
  rw [hwAuthSwitch, load32_eq (by unfold offSize; omega), ok_bind, authorizeEnrol, if_neg hsize] at h
  obtain ⟨checked, hchecked, h⟩ := bind_eq_ok.mp h
  obtain ⟨bytes, hspan, hvalidate⟩ := bind_eq_ok.mp hchecked
  obtain ⟨responded, hstore, h⟩ := bind_eq_ok.mp h
  obtain ⟨hin, rfl⟩ := store32_ok hstore
  cases h
  rw [loadSpan_ok hspan] at hvalidate
  cases hvalidate
  dsimp only at hzero hta ⊢
  rw [field32_put32 (by omega), toInt32_ofInt32 (validateIncomingToken_fits ..)] at hzero
  have hvalid := validateIncomingToken_zero hzero
  rw [show Token.ofBytes (slice msg offArray sizeofToken) = messageToken msg from rfl] at hzero hvalid
  refine ⟨hvalid, ?_⟩
  rw [hta, validateIncomingToken_kept hzero]

/-- **An enrolment is authorised by the token that is handed in, while it is valid.** -/
theorem fpcTeeAuthorizeEnrol_valid {token : List UInt8} (htac : tac.DeliversOrFails P)
    (hsize : token.length = sizeofToken)
    (h : fpcTeeAuthorizeEnrol tac envs tee token = .ok (0, tee')) :
    TokenValid P (envs tee.messages)
        { tee.ta.hwAuth with incomingToken := Token.ofBytes token } ∧
      tee'.ta = { tee.ta with
        hwAuth := { tee.ta.hwAuth with incomingToken := Token.ofBytes token } } := by
  unfold fpcTeeAuthorizeEnrol at h
  split at h
  · cases h
  · next shared _ =>
    obtain ⟨headed, hheader, h⟩ := bind_eq_ok.mp h
    obtain ⟨hlong, hheadedLen, htarget, hcommand⟩ := hwAuthHeader_ok hheader
    obtain ⟨sized, hsized, h⟩ := bind_eq_ok.mp h
    obtain ⟨hsizeIn, rfl⟩ := store32_ok hsized
    obtain ⟨filled, htoken, h⟩ := bind_eq_ok.mp h
    obtain ⟨hin, rfl⟩ := storeSpan_ok htoken (by rw [hsize]; decide)
    obtain ⟨⟨returned, sent, left⟩, htransfer, h⟩ := bind_eq_ok.mp h
    have hlen : (overlay (put32 headed offSize (UInt32.ofNat token.length)) offArray token).length
        = headed.length := (length_of_storeSpan htoken).trans (length_of_store32 hsized)
    have hword : HwAuthCmd.ofWord fpcTaHwAuthAuthorizeEnrol = some .authorizeEnrol := by decide
    have hcommanded := (transfer_commanded htac
      (by rw [hlen, hheadedLen]; exact hlong)
      (by rw [field32_of_storeSpan htoken (by decide), field32_of_storeSpan hsized (by decide), htarget])
      (by rw [field32_of_storeSpan htoken (by decide), field32_of_storeSpan hsized (by decide), hcommand])
      hword htransfer).1
    dsimp only at h
    cases hcommanded with
    | lost hstatus hta =>
      rw [hstatus, if_pos (by decide)] at h
      cases h
    | rejected hshort =>
      rw [hlen] at hshort
      rw [length_put32 hsizeIn, hsize] at hin
      unfold offArray sizeofToken at hin
      unfold sizeofHwAuthCommand at hshort
      omega
    | answered r hlong' hswitch hstatus hta hmsg =>
      rw [hstatus, if_neg (by decide)] at h
      obtain ⟨response, hresponse, h⟩ := bind_eq_ok.mp h
      rw [hmsg] at hresponse
      cases load32_ok hresponse
      injection h with h
      obtain ⟨hzero, rfl⟩ := Prod.mk.inj h
      have hfield : field32 (overlay (put32 headed offSize (UInt32.ofNat token.length)) offArray token)
          offSize = UInt32.ofNat token.length := by
        rw [field32_of_storeSpan htoken (by decide), field32_put32 (by omega)]
      have hmessage : messageToken
          (overlay (put32 headed offSize (UInt32.ofNat token.length)) offArray token)
          = Token.ofBytes token := by
        rw [messageToken, ← hsize, slice_overlay (by omega)]
      have hauthorized := hwAuthSwitch_authorized hlong' (by rw [hfield, hsize]; decide) hswitch hzero
      rw [hmessage] at hauthorized
      exact ⟨hauthorized.1, hta.trans hauthorized.2⟩

/-- **An enrolment ends while the token that is there is valid**, and keeps the user of it. -/
theorem fpcTeeEndEnrol_authorised {id : Option UInt32} (htac : tac.DeliversOrFails P)
    (hbuffer : sizeofBioCommand ≤ tee.sharedBuffer.length)
    (h : fpcTeeEndEnrol tac envs tee = .ok (0, id, tee')) :
    TokenValid P (envs tee.messages) tee.ta.hwAuth ∧
      ∃ x base index f, id = some x ∧
        EnrolmentEnded (envs tee.messages) tee.ta.bio tee'.ta.bio x base index f ∧
        f.secureUserId = tee.ta.hwAuth.incomingToken.userId := by
  have hcmd : BioCmd.ofWord fpcTaBioEndEnrolCmd = some .endEnrol := by decide
  obtain ⟨hcommanded, hid, _, _⟩ := bioAnswer_commanded htac hbuffer hcmd h
  cases hcommanded with
  | lost _ hstatus _ => exact absurd hstatus (by decide)
  | answered _ msg reply hswitch hstatus hta _ hanswer _ =>
    cases hswitch
    dsimp only at hstatus hta hanswer
    rw [toInt32_ofInt32 fpcTaBioEndEnrol_fits] at hstatus
    obtain ⟨x, base, index, f, hx, hended, hallowed⟩ := fpcTaBioEndEnrol_allowed hstatus.symm
    obtain ⟨hvalid, huser⟩ := fpcEnrollmentAllowed_some hallowed
    refine ⟨hvalid, x, base, index, f, ?_, ?_, huser⟩
    · rw [hid rfl, hanswer, hx]
      rfl
    · rw [hta]
      exact hended

end

end Fpc
