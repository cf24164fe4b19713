import Fingerprints.Ta.Enrolment
import Fingerprints.Wire.Traced

/-!
# Calibration data leaves under a fresh token

The pixel noise module has a challenge and a token of its own, and the key of the hardware
authentication module. Only `GET_CHALLENGE` and `AUTHORIZE` of this module write them, so what
`CALIBRATE_FINGER_END` finds valid goes back to the latest command of each kind:
**`calibrateFingerEnd_authorised`**, which also says that the library's
`fpc_algo_pn_calibrate_finger_end` is called once on every path.
-/

namespace Fpc

open Wire Wire.Outcome Runs

/-! ## The calls of `fpc_ta_pn_calibrate_finger_end` -/

/-- The calls out of the module; the first is given an image or `NULL`. -/
inductive PnCall where
  | calibrateFingerEnd (image : Bool)
  | imageToPnImage
  | wrapCrypto
  deriving DecidableEq, Repr

def PnCall.isCalibrateFingerEnd : PnCall → Bool
  | .calibrateFingerEnd _ => true
  | .imageToPnImage => false
  | .wrapCrypto => false

/-- `fpc_ta_pn_calibrate_finger_end`, with the calls it makes. -/
def tracedCalibrateFingerEnd (P : Platform) (env : Env) (hwAuth : HwAuthTa) (pn : PnSecurity)
    (msg : List UInt8) (size : Nat) : Traced PnCall (Int × List UInt8) :=
  if pnValidateIncomingToken P env hwAuth pn ≠ 0 then do
    -- the library cleans up also when there will be no image
    Traced.perform (.calibrateFingerEnd false)
    pure (-fpcErrorTimedout, msg)
  else do
    Traced.perform (.calibrateFingerEnd (decide (size ≠ 0)))
    if env.pn.calibrateFingerEnd.toInt ≠ fpcResultOk then pure (-fpcPnFailed, msg)
    else if size = 0 then pure (fpcPnOk, msg)
    else
      let (ret, encryptedSize) := fpcTaPnGetSize P true
      if ret ≠ fpcResultOk then pure (ret, msg)
      else if encryptedSize.toNat > size then pure (-fpcPnFailed, msg)
      else if !env.pn.malloc then pure (-fpcPnMemory, msg)
      else do
        Traced.perform .imageToPnImage
        if env.pn.imageToPnImage.1.toInt ≠ fpcResultOk then pure (-fpcPnFailed, msg)
        else do
          let image := pnImageBuffer P env.pn.imageToPnImage.2
          Traced.perform .wrapCrypto
          let msg ← Traced.quiet (wrapIntoMessage env msg image encryptedSize)
          if (env.wrapCrypto image).status ≠ 0 ∨ (env.wrapCrypto image).size ≠ encryptedSize then
            pure (-fpcPnFailed, msg)
          else pure (fpcPnOk, msg)

section

variable (P : Platform) (env : Env) (hwAuth : HwAuthTa) (pn : PnSecurity) (msg : List UInt8)
  (size : Nat)

/-- Without its calls it is the function of the handler. -/
theorem tracedCalibrateFingerEnd_outcome :
    (tracedCalibrateFingerEnd P env hwAuth pn msg size).outcome
      = fpcTaPnCalibrateFingerEnd P env hwAuth pn msg size := by
  unfold tracedCalibrateFingerEnd fpcTaPnCalibrateFingerEnd
  -- the two have the same branches, and a call that is made adds nothing to the outcome
  simp only [apply_ite Traced.outcome, Traced.outcome_bind, Traced.outcome_perform,
    Traced.outcome_pure, Traced.outcome_quiet, ok_bind]

/-- The library is told the end of the calibration once, whichever way the call takes. -/
theorem tracedCalibrateFingerEnd_once :
    (tracedCalibrateFingerEnd P env hwAuth pn msg size).calls.countP PnCall.isCalibrateFingerEnd
      = 1 := by
  unfold tracedCalibrateFingerEnd
  split
  · rfl
  · rw [Traced.calls_perform_bind, List.countP_cons_of_pos rfl]
    dsimp only
    -- behind the call there are only calls of the other two kinds
    split
    · rfl
    · split
      · rfl
      · split
        · rfl
        · split
          · rfl
          · split
            · rfl
            · rw [Traced.calls_perform_bind, List.countP_cons_of_neg Bool.false_ne_true]
              split
              · rfl
              · rw [Traced.calls_perform_bind, List.countP_cons_of_neg Bool.false_ne_true,
                  Traced.calls_bind_of_quiet]
                · rfl
                · intro msg
                  split
                  · rfl
                  · rfl

end

/-! ## What the module finds valid -/

/-- What holds when the stored token of the module is found valid. -/
structure PnTokenValid (P : Platform) (env : Env) (hwAuth : HwAuthTa) (pn : PnSecurity) :
    Prop where
  key : hwAuth.hmacKeyInitialized = true
  challenge_ne_zero : pn.outgoingChallenge ≠ 0
  challenge : pn.incomingToken.challenge = pn.outgoingChallenge
  age : env.uptime - pn.challengeTimestamp ≤ hwAuthChallengeLifetime
  version : pn.incomingToken.version = 0
  hmac : pn.incomingToken.hmac = P.hmacSha256 pn.incomingToken.signedBytes hwAuth.hmacKey

theorem pnValidateIncomingToken_zero {P : Platform} {env : Env} {hwAuth : HwAuthTa}
    {pn : PnSecurity} (h : pnValidateIncomingToken P env hwAuth pn = 0) :
    PnTokenValid P env hwAuth pn := by
  unfold pnValidateIncomingToken at h
  split at h
  · cases h
  · next hzero =>
    split at h
    · cases h
    · next hchallenge =>
      dsimp only at h
      split at h
      · cases h
      · next hage =>
        have hkey := fpcCheckTokenIntegrity_keyed h
        obtain ⟨hversion, hhmac⟩ := fpcCheckTokenIntegrity_zero h
        exact { key := hkey
                challenge_ne_zero := hzero
                challenge := not_not.mp hchallenge
                age := UInt64.not_lt.mp hage
                version := hversion
                hmac := hhmac }

/-- A calibration that ends with success has found its token valid. -/
theorem fpcTaPnCalibrateFingerEnd_zero {P : Platform} {env : Env} {hwAuth : HwAuthTa}
    {pn : PnSecurity} {msg msg' : List UInt8} {size : Nat}
    (h : fpcTaPnCalibrateFingerEnd P env hwAuth pn msg size = .ok (0, msg')) :
    PnTokenValid P env hwAuth pn := by
  unfold fpcTaPnCalibrateFingerEnd at h
  split at h
  · cases h
  · next hvalid => exact pnValidateIncomingToken_zero (not_not.mp hvalid)

theorem fpcTaPnGetSize_fits (P : Platform) (encrypted : Bool) :
    FitsInt (fpcTaPnGetSize P encrypted).1 := by
  unfold fpcTaPnGetSize
  split
  · show FitsInt (-fpcPnFailed)
    decide
  · split
    · show FitsInt fpcPnOk
      decide
    · show FitsInt fpcPnOk
      decide

/-- The status of the end of a calibration is an `int`. -/
theorem fpcTaPnCalibrateFingerEnd_fits {P : Platform} {env : Env} {hwAuth : HwAuthTa}
    {pn : PnSecurity} {msg : List UInt8} {size : Nat} {r : Int × List UInt8}
    (h : fpcTaPnCalibrateFingerEnd P env hwAuth pn msg size = .ok r) : FitsInt r.1 := by
  have hfailed : FitsInt (-fpcPnFailed) := by decide
  have hok : FitsInt fpcPnOk := by decide
  unfold fpcTaPnCalibrateFingerEnd at h
  split at h
  · cases h
    show FitsInt (-fpcErrorTimedout)
    decide
  · split at h
    · cases h
      exact hfailed
    · split at h
      · cases h
        exact hok
      · dsimp only at h
        split at h
        · cases h
          exact fpcTaPnGetSize_fits P true
        · split at h
          · cases h
            exact hfailed
          · split at h
            · cases h
              show FitsInt (-fpcPnMemory)
              decide
            · split at h
              · cases h
                exact hfailed
              · obtain ⟨_, _, h⟩ := bind_eq_ok.mp h
                split at h
                · cases h
                  exact hfailed
                · cases h
                  exact hok

theorem fitsInt_pnGetChallenge (env : Env) (pn : PnSecurity) :
    FitsInt (pnGetChallenge env pn).1 := by
  unfold pnGetChallenge
  dsimp only
  split
  · exact fitsInt_toInt _
  · split
    · show FitsInt (-fpcErrorNotInitialized)
      decide
    · show FitsInt 0
      decide

/-- A request for a challenge fails and leaves none, or it succeeds and leaves one. -/
theorem pnGetChallenge_cases (env : Env) (pn : PnSecurity) :
    (pnGetChallenge env pn).2.2 = { pn with outgoingChallenge := 0 } ∨
      ((pnGetChallenge env pn).1 = 0 ∧
        (pnGetChallenge env pn).2.2 = { pn with
          challengeTimestamp := env.uptime,
          outgoingChallenge := (pnGetChallenge env pn).2.1 }) := by
  unfold pnGetChallenge
  dsimp only
  split
  · exact Or.inl rfl
  · split
    · exact Or.inl rfl
    · exact Or.inr ⟨rfl, rfl⟩

/-! ## What the events show -/

def isPnGetChallenge : Event → Bool := Event.is (.pn .getChallenge)

/-- The event takes a token into the module: `AUTHORIZE` does when its size field is large
enough. -/
def takesPnToken (e : Event) : Bool :=
  e.is (.pn .authorize) && decide (sizeofToken ≤ (field32 e.msg offSize).toNat)

def isCalibrateFingerEnd : Event → Bool := Event.is (.pn .calibrateFingerEnd)

section

variable {P : Platform} {ta ta' : Ta} {e : Event}

theorem pnSwitch_getChallenge {env : Env} {msg : List UInt8} (hlen : sizeofPnCommand ≤ msg.length) :
    pnSwitch P env ta msg .getChallenge
      = .ok { ta := { ta with pnSecurity := (pnGetChallenge env ta.pnSecurity).2.2 },
              msg := put64 (put32 msg offChallengeResponse
                (ofInt32 (pnGetChallenge env ta.pnSecurity).1)) offChallenge
                (pnGetChallenge env ta.pnSecurity).2.1,
              status := 0 } := by
  unfold sizeofPnCommand at hlen
  rw [pnSwitch]
  dsimp only
  rw [store32_eq (by unfold offChallengeResponse; omega), ok_bind,
    store64_eq (by
      rw [length_put32 (by unfold offChallengeResponse; omega)]; unfold offChallenge; omega),
    ok_bind]

theorem step_pnGetChallenge (h : (taSystem P).step ta e ta') (hcmd : isPnGetChallenge e = true) :
    ta' = { ta with pnSecurity := (pnGetChallenge e.env ta.pnSecurity).2.2 } ∧
      e.challengeResponse = (pnGetChallenge e.env ta.pnSecurity).1 ∧
      e.issuedChallenge = (pnGetChallenge e.env ta.pnSecurity).2.1 := by
  obtain ⟨_, hroute, rfl⟩ := h
  obtain ⟨hlen, hswitch⟩ := fpcTaRouteCommand_of_pn P e.env ta (is_iff.mp hcmd)
  rw [hswitch, pnSwitch_getChallenge hlen] at hroute
  injection hroute with hresult
  unfold sizeofPnCommand at hlen
  -- the response stands at offset 16 and the challenge, stored behind it, at 8
  have hput : (put32 e.msg offChallengeResponse
      (ofInt32 (pnGetChallenge e.env ta.pnSecurity).1)).length = e.msg.length :=
    length_put32 (by unfold offChallengeResponse; omega) _
  unfold Event.challengeResponse Event.issuedChallenge Event.resultAt
  rw [← hresult]
  refine ⟨rfl, ?_, ?_⟩
  · rw [put64, field32_overlay (by rw [hput, length_le64]; unfold offChallenge; omega)
      (Or.inr (by rw [length_le64]; decide)),
      field32_put32 (by unfold offChallengeResponse; omega),
      toInt32_ofInt32 (fitsInt_pnGetChallenge _ _)]
  · exact field64_put64 (by rw [hput]; unfold offChallenge; omega) _

/-- The end of a calibration that is answered with 0 found its token valid. -/
theorem step_calibrateFingerEnd (h : (taSystem P).step ta e ta')
    (hcmd : isCalibrateFingerEnd e = true) (hzero : e.response = 0) :
    PnTokenValid P e.env ta.hwAuth ta.pnSecurity := by
  obtain ⟨_, hroute, rfl⟩ := h
  obtain ⟨_, hswitch⟩ := fpcTaRouteCommand_of_pn P e.env ta (is_iff.mp hcmd)
  rw [hswitch] at hroute
  obtain ⟨size, _, hroute⟩ := bind_eq_ok.mp hroute
  obtain ⟨⟨response, msg⟩, hend, hroute⟩ := bind_eq_ok.mp hroute
  obtain ⟨put, hput, hroute⟩ := bind_eq_ok.mp hroute
  obtain ⟨hlen, rfl⟩ := store32_ok hput
  injection hroute with hresult
  unfold Event.response Event.resultAt at hzero
  rw [← hresult] at hzero
  have hresponse : toInt32 (field32 (put32 msg offResponse (ofInt32 response)) offResponse) = 0 :=
    hzero
  rw [field32_put32 (by omega), toInt32_ofInt32 (fpcTaPnCalibrateFingerEnd_fits hend)]
    at hresponse
  subst hresponse
  exact fpcTaPnCalibrateFingerEnd_zero hend

/-! ## The latest command of each kind -/

/-- A challenge that is out in the module is the one its latest `GET_CHALLENGE` issued. -/
def PnChallengeFrom : Option Event → Ta → Prop
  | none, ta => ta.pnSecurity.outgoingChallenge = 0
  | some e, ta => ta.pnSecurity.outgoingChallenge ≠ 0 →
      e.challengeResponse = 0 ∧ e.issuedChallenge = ta.pnSecurity.outgoingChallenge ∧
        e.env.uptime = ta.pnSecurity.challengeTimestamp

/-- The token of the module is the one its latest `AUTHORIZE` that took a token in took in. -/
def PnTokenFrom : Option Event → Ta → Prop
  | none, ta => ta.pnSecurity.incomingToken = Token.zeroed
  | some e, ta => ta.pnSecurity.incomingToken = e.token

theorem PnChallengeFrom.congr {o : Option Event} (h : PnChallengeFrom o ta)
    (hchallenge : ta'.pnSecurity.outgoingChallenge = ta.pnSecurity.outgoingChallenge)
    (htime : ta'.pnSecurity.challengeTimestamp = ta.pnSecurity.challengeTimestamp) :
    PnChallengeFrom o ta' := by
  cases o with
  | none => exact hchallenge.trans h
  | some e =>
    show ta'.pnSecurity.outgoingChallenge ≠ 0 → _
    rw [hchallenge, htime]
    exact h

theorem PnTokenFrom.congr {o : Option Event} (h : PnTokenFrom o ta)
    (htoken : ta'.pnSecurity.incomingToken = ta.pnSecurity.incomingToken) : PnTokenFrom o ta' := by
  cases o with
  | none => exact htoken.trans h
  | some e => exact htoken.trans h

/-- A command keeps the module's challenge and token, or is one of the module. -/
theorem fpcTaRouteCommand_pnSecurity {env : Env} {msg : List UInt8} {r : Handled}
    (h : fpcTaRouteCommand P env ta msg = .ok r) :
    r.ta.pnSecurity = ta.pnSecurity ∨
      ∃ cmd, commandOf msg = some (.pn cmd) ∧ PnEffect env ta msg cmd r.ta := by
  cases fpcTaRouteCommand_routed h with
  | none _ timestamp hta =>
    left
    rw [hta]
  | fs cmd _ hswitch =>
    obtain ⟨userDb, hta⟩ := fsSwitch_frame hswitch
    left
    rw [hta]
  | hwAuth cmd hcmd hswitch =>
    left
    obtain ⟨matchResult, hwAuth, hta⟩ := hwAuthSwitch_frame hcmd hswitch
    rw [hta]
  | dbBlob cmd _ hswitch =>
    obtain ⟨userDb, transfer, hta⟩ := dbBlobSwitch_frame hswitch
    left
    rw [hta]
  | bio cmd _ hswitch =>
    obtain ⟨answer, reply, hreply, hta⟩ := bioRespond_ok hswitch
    left
    rw [hta]
    obtain ⟨bio, hframe | ⟨_, hframe⟩⟩ := bioSwitch_frame hreply
    · rw [hframe]
    · rw [hframe]
  | pn cmd hcmd hswitch => exact Or.inr ⟨cmd, hcmd, pnSwitch_effect hswitch⟩

/-- A command other than the module's `GET_CHALLENGE` leaves its challenge. -/
theorem PnChallengeFrom.frame (o : Option Event) (h : (taSystem P).step ta e ta')
    (hother : isPnGetChallenge e = false) (hfrom : PnChallengeFrom o ta) :
    PnChallengeFrom o ta' := by
  obtain ⟨_, hroute, rfl⟩ := h
  cases fpcTaRouteCommand_pnSecurity hroute with
  | inl hkept => exact hfrom.congr (by rw [hkept]) (by rw [hkept])
  | inr heffect =>
    obtain ⟨cmd, hcommand, heffect⟩ := heffect
    generalize e.result.ta = ta' at heffect ⊢
    cases heffect with
    | kept _ _ => exact hfrom
    | getChallenge hcmd =>
      rw [hcmd] at hcommand
      rw [isPnGetChallenge, is_iff.mpr hcommand] at hother
      cases hother
    | authorize _ _ => exact hfrom.congr rfl rfl

/-- A command that takes no token into the module leaves its token. -/
theorem PnTokenFrom.frame (o : Option Event) (h : (taSystem P).step ta e ta')
    (htakes : takesPnToken e = false) (hfrom : PnTokenFrom o ta) : PnTokenFrom o ta' := by
  obtain ⟨_, hroute, rfl⟩ := h
  cases fpcTaRouteCommand_pnSecurity hroute with
  | inl hkept => exact hfrom.congr (by rw [hkept])
  | inr heffect =>
    obtain ⟨cmd, hcommand, heffect⟩ := heffect
    generalize e.result.ta = ta' at heffect ⊢
    cases heffect with
    | kept _ _ => exact hfrom
    | getChallenge _ =>
      apply hfrom.congr
      cases pnGetChallenge_cases e.env ta.pnSecurity with
      | inl hnone => rw [hnone]
      | inr hissued => rw [hissued.2]
    | authorize hcmd hsize =>
      rw [hcmd] at hcommand
      rw [takesPnToken, is_iff.mpr hcommand, decide_eq_true hsize] at htakes
      cases htakes

/-- An event that takes a token into the module leaves it there. -/
theorem step_takesPnToken (h : (taSystem P).step ta e ta') (htakes : takesPnToken e = true) :
    ta'.pnSecurity.incomingToken = e.token := by
  obtain ⟨_, hroute, rfl⟩ := h
  obtain ⟨hcmd, hsize⟩ := (Bool.and_eq_true _ _).mp htakes
  obtain ⟨_, hswitch⟩ := fpcTaRouteCommand_of_pn P e.env ta (is_iff.mp hcmd)
  rw [hswitch] at hroute
  generalize hta : e.result.ta = ta'
  have heffect := pnSwitch_effect hroute
  rw [hta] at heffect
  cases heffect with
  | kept _ hsmall => exact absurd (of_decide_eq_true hsize) (Nat.not_le.mpr (hsmall rfl))
  | getChallenge hcmd => cases hcmd
  | authorize _ _ => rfl

/-! ## Runs -/

/-- Where runs start the module has no challenge and no token. -/
theorem pnSecurity_of_init (h : (taSystem P).init ta) :
    ta.pnSecurity.outgoingChallenge = 0 ∧ ta.pnSecurity.incomingToken = Token.zeroed := by
  obtain ⟨env, hinit⟩ := h
  obtain ⟨bio, _, hta⟩ := bind_eq_ok.mp hinit
  cases hta
  exact ⟨rfl, rfl⟩

variable {history : List Event}

theorem run_pnChallengeFrom (hrun : (taSystem P).Run history ta) :
    PnChallengeFrom (latest isPnGetChallenge history) ta := by
  apply System.Run.latest (W := PnChallengeFrom) _ _ _ hrun
  · intro s hinit
    exact (pnSecurity_of_init hinit).1
  · intro s e s' hstep hcmd
    show s'.pnSecurity.outgoingChallenge ≠ 0 → _
    intro hne
    obtain ⟨hs', hresponse, hissued⟩ := step_pnGetChallenge hstep hcmd
    rw [hresponse, hissued]
    cases pnGetChallenge_cases e.env s.pnSecurity with
    | inl hnone =>
      -- a request that fails leaves no challenge out
      rw [hs', hnone] at hne
      exact absurd rfl hne
    | inr hdrawn =>
      rw [hs', hdrawn.2]
      exact ⟨hdrawn.1, rfl, rfl⟩
  · intro s e s' o hstep hother hfrom
    exact PnChallengeFrom.frame o hstep hother hfrom

theorem run_pnTokenFrom (hrun : (taSystem P).Run history ta) :
    PnTokenFrom (latest takesPnToken history) ta := by
  apply System.Run.latest (W := PnTokenFrom) _ _ _ hrun
  · intro s hinit
    exact (pnSecurity_of_init hinit).2
  · intro s e s' hstep htakes
    exact step_takesPnToken hstep htakes
  · intro s e s' o hstep htakes hfrom
    exact PnTokenFrom.frame o hstep htakes hfrom

/-- A challenge that is out was issued by the latest `GET_CHALLENGE` of the module. -/
theorem run_pnChallenged (hrun : (taSystem P).Run history ta)
    (hne : ta.pnSecurity.outgoingChallenge ≠ 0) :
    ∃ challenged, latest isPnGetChallenge history = some challenged ∧
      challenged.challengeResponse = 0 ∧
      challenged.issuedChallenge = ta.pnSecurity.outgoingChallenge ∧
      challenged.env.uptime = ta.pnSecurity.challengeTimestamp := by
  have hchallenge := run_pnChallengeFrom hrun
  cases hchallenged : latest isPnGetChallenge history with
  | none =>
    rw [hchallenged] at hchallenge
    exact absurd hchallenge hne
  | some challenged =>
    rw [hchallenged] at hchallenge
    exact ⟨challenged, rfl, hchallenge hne⟩

/-- A token with a challenge was taken in: the one that never was has challenge 0. -/
theorem run_pnAuthorised (hrun : (taSystem P).Run history ta)
    (hne : ta.pnSecurity.incomingToken.challenge ≠ 0) :
    ∃ authorised, latest takesPnToken history = some authorised ∧
      ta.pnSecurity.incomingToken = authorised.token := by
  have htoken := run_pnTokenFrom hrun
  cases hauthorised : latest takesPnToken history with
  | none =>
    rw [hauthorised] at htoken
    rw [show ta.pnSecurity.incomingToken = Token.zeroed from htoken] at hne
    exact absurd rfl hne
  | some authorised =>
    rw [hauthorised] at htoken
    exact ⟨authorised, rfl, htoken⟩

/-! ## The end of a calibration -/

/-- What the calibration data rests on: the latest `SET_SHARED_KEY`, the latest `GET_CHALLENGE` of
the module and the latest `AUTHORIZE` that took a token in. -/
structure PnAuthorisation (P : Platform) (history : List Event) (e : Event)
    (keyed challenged authorised : Event) : Prop where
  key : latest isSetSharedKey history = some keyed
  key_succeeded : keyed.response = 0
  challenge : latest isPnGetChallenge history = some challenged
  challenge_succeeded : challenged.challengeResponse = 0
  challenge_ne_zero : challenged.issuedChallenge ≠ 0
  token : latest takesPnToken history = some authorised
  version : authorised.token.version = 0
  hmac : authorised.token.hmac = P.hmacSha256 authorised.token.signedBytes keyed.keyLeft
  answers : authorised.token.challenge = challenged.issuedChallenge
  age : e.env.uptime - challenged.env.uptime ≤ hwAuthChallengeLifetime

/-- A token that is valid at the end of a run goes back to the latest command of each kind. -/
theorem PnTokenValid.authorisation (hrun : (taSystem P).Run history ta)
    (hvalid : PnTokenValid P e.env ta.hwAuth ta.pnSecurity) :
    ∃ keyed challenged authorised, PnAuthorisation P history e keyed challenged authorised := by
  obtain ⟨keyed, hkeyed, hsucceeded, hkeyLeft⟩ := run_keyed hrun hvalid.key
  obtain ⟨challenged, hchallenged, hok, hissued, htime⟩ :=
    run_pnChallenged hrun hvalid.challenge_ne_zero
  obtain ⟨authorised, hauthorised, htaken⟩ := run_pnAuthorised hrun
    (by rw [hvalid.challenge]; exact hvalid.challenge_ne_zero)
  refine ⟨keyed, challenged, authorised, ?_⟩
  exact { key := hkeyed
          key_succeeded := hsucceeded
          challenge := hchallenged
          challenge_succeeded := hok
          challenge_ne_zero := by rw [hissued]; exact hvalid.challenge_ne_zero
          token := hauthorised
          version := by rw [← htaken]; exact hvalid.version
          hmac := by rw [← htaken, ← hkeyLeft]; exact hvalid.hmac
          answers := by rw [← htaken, hissued]; exact hvalid.challenge
          age := by rw [htime]; exact hvalid.age }

/-- **Calibration data leaves under a fresh token.** Whenever a `CALIBRATE_FINGER_END` of a run is
answered with `FPC_PN_OK`, the latest token that the module took in is signed under the key of the
latest `SET_SHARED_KEY`, which succeeded, and answers the latest `GET_CHALLENGE` of the module,
which issued a challenge no longer ago than the lifetime. And whatever the inputs, the end of a
calibration tells the library so exactly once. -/
theorem calibrateFingerEnd_authorised (P : Platform) :
    (∀ history ta e ta', (taSystem P).Run history ta → (taSystem P).step ta e ta' →
      isCalibrateFingerEnd e = true → e.response = fpcPnOk →
      ∃ keyed challenged authorised,
        PnAuthorisation P history e keyed challenged authorised) ∧
    ∀ env hwAuth pn msg size,
      (tracedCalibrateFingerEnd P env hwAuth pn msg size).outcome
          = fpcTaPnCalibrateFingerEnd P env hwAuth pn msg size ∧
        (tracedCalibrateFingerEnd P env hwAuth pn msg size).calls.countP
            PnCall.isCalibrateFingerEnd = 1 := by
  constructor
  · intro history ta e ta' hrun hstep hcmd hzero
    exact (step_calibrateFingerEnd hstep hcmd hzero).authorisation hrun
  · intro env hwAuth pn msg size
    exact ⟨tracedCalibrateFingerEnd_outcome P env hwAuth pn msg size,
      tracedCalibrateFingerEnd_once P env hwAuth pn msg size⟩

end

/-- The commands that lead up to a `CALIBRATE_FINGER_END`: a key, a challenge of the module, and
the token for it. -/
def sampleCalibration : List (Env × List UInt8) :=
  [(.willing, commandMessage 3 5 (List.replicate 16 0)),
   (.willing, commandMessage 13 5 (List.replicate 24 0)),
   (.willing, commandMessage 13 6 (le32 0 ++ (le32 69 ++ sampleToken.bytes)))]

/-- A `CALIBRATE_FINGER_END` with room for the wrapped image, of 56 bytes. -/
def sampleCalibrateFingerEnd : Env × List UInt8 :=
  ({ Env.willing with
      wrapCrypto := fun _ => { status := 0, bytes := List.replicate 56 0x77, size := 56 } },
   commandMessage 13 4 (le32 0 ++ (le32 56 ++ List.replicate 56 0)))

/-- The sample platform, with an image of four bytes. -/
def sampleSensor : Platform := { samplePlatform with sensorPnGetSize := 4 }

theorem sampleCalibration_authorised :
    ∃ history e keyed challenged authorised,
      PnAuthorisation sampleSensor history e keyed challenged authorised ∧
        slice e.result.msg offArray 56 = List.replicate 56 0x77 := by
  obtain ⟨history, ta, result, hrun, hstep, hzero, himage⟩ :=
    executeThen_decided sampleSensor sampleCalibration sampleCalibrateFingerEnd
      (fun _ _ result => toInt32 (field32 result.msg offResponse) = fpcPnOk ∧
        slice result.msg offArray 56 = List.replicate 56 0x77) (by decide +kernel)
  have hcmd : commandOf sampleCalibrateFingerEnd.2 = some (.pn .calibrateFingerEnd) := by
    decide +kernel
  obtain ⟨keyed, challenged, authorised, hauthorisation⟩ :=
    (calibrateFingerEnd_authorised sampleSensor).1 history ta _ _ hrun hstep (is_iff.mpr hcmd) hzero
  exact ⟨history, _, keyed, challenged, authorised, hauthorisation, himage⟩

end Fpc
