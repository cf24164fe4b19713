import Fingerprints.Ta.Effects

/-!
# Enrolment is gated by a fresh token

Three parts of the hardware authentication state are each written by one kind of command: the key
by `SET_SHARED_KEY`, the challenge that is out by `GET_ENROL_CHALLENGE`, the incoming token by
`AUTHORIZE_ENROL`. Every other command leaves them, or at most forgets the challenge. So what a
finger is enrolled with goes back to the latest command of each kind: `endEnrol_authorised`.
-/

namespace Fpc

open Wire Wire.Outcome Runs

/-! ## What the events show -/

def isSetSharedKey : Event → Bool := Event.is (.hwAuth .setSharedKey)

def isGetEnrolChallenge : Event → Bool := Event.is (.hwAuth .getEnrolChallenge)

/-- The event takes a token in: `AUTHORIZE_ENROL` does when its size field is large enough. -/
def takesToken (e : Event) : Bool :=
  e.is (.hwAuth .authorizeEnrol) && decide (sizeofToken ≤ (field32 e.msg offSize).toNat)

/-- The token in the message of an event. -/
def Event.token (e : Event) : Token := messageToken e.msg

/-- The challenge that the reply to an event carries. -/
def Event.issuedChallenge (e : Event) : UInt64 := field64 e.result.msg offChallenge

/-- The key that an event left. -/
def Event.keyLeft (e : Event) : Vector UInt8 32 := e.result.ta.hwAuth.hmacKey

theorem is_iff {cmd : Command} {e : Event} : e.is cmd = true ↔ commandOf e.msg = some cmd := by
  rw [Event.is, beq_iff_eq]

theorem is_unique {cmd cmd' : Command} {e : Event} (h : e.is cmd = true)
    (hne : cmd ≠ cmd') : e.is cmd' = false := by
  rw [Bool.eq_false_iff]
  intro h'
  rw [is_iff] at h h'
  rw [h] at h'
  injection h' with h'
  exact hne h'

theorem fitsInt_setSharedKey (env : Env) (hwAuth : HwAuthTa) :
    FitsInt (setSharedKey env hwAuth).1 := by
  unfold setSharedKey
  dsimp only
  split
  · exact fitsInt_toInt _
  · exact (by decide : FitsInt 0)

theorem fitsInt_getEnrolChallenge (env : Env) (hwAuth : HwAuthTa) :
    FitsInt (getEnrolChallenge env hwAuth).1 := by
  unfold getEnrolChallenge
  dsimp only
  split
  · exact fitsInt_toInt _
  · split
    · exact (by decide : FitsInt (-fpcErrorNotInitialized))
    · exact (by decide : FitsInt 0)

section

variable {P : Platform} {ta ta' : Ta} {e : Event}

/-! ## One step -/

theorem step_setSharedKey (h : (taSystem P).step ta e ta') (hcmd : isSetSharedKey e = true) :
    ta' = { ta with hwAuth := (setSharedKey e.env ta.hwAuth).2 } ∧
      e.response = (setSharedKey e.env ta.hwAuth).1 := by
  obtain ⟨_, hroute, rfl⟩ := h
  obtain ⟨hlen, hswitch⟩ := fpcTaRouteCommand_of_hwAuth P e.env ta (is_iff.mp hcmd)
  rw [hswitch, hwAuthSwitch_setSharedKey hlen] at hroute
  injection hroute with hresult
  unfold Event.response Event.resultAt
  rw [← hresult]
  refine ⟨rfl, ?_⟩
  unfold sizeofHwAuthCommand at hlen
  rw [field32_put32 (by unfold offResponse; omega), toInt32_ofInt32 (fitsInt_setSharedKey _ _)]

theorem step_getEnrolChallenge (h : (taSystem P).step ta e ta')
    (hcmd : isGetEnrolChallenge e = true) :
    ta' = { ta with hwAuth := (getEnrolChallenge e.env ta.hwAuth).2.2 } ∧
      e.challengeResponse = (getEnrolChallenge e.env ta.hwAuth).1 ∧
      e.issuedChallenge = (getEnrolChallenge e.env ta.hwAuth).2.1 := by
  obtain ⟨_, hroute, rfl⟩ := h
  obtain ⟨hlen, hswitch⟩ := fpcTaRouteCommand_of_hwAuth P e.env ta (is_iff.mp hcmd)
  rw [hswitch, hwAuthSwitch_getEnrolChallenge hlen] at hroute
  injection hroute with hresult
  unfold sizeofHwAuthCommand at hlen
  -- the challenge stands at offset 8 and the response behind it, at 16
  have hput : (put64 e.msg offChallenge (getEnrolChallenge e.env ta.hwAuth).2.1).length
      = e.msg.length := length_put64 (by unfold offChallenge; omega) _
  unfold Event.challengeResponse Event.issuedChallenge Event.resultAt
  rw [← hresult]
  refine ⟨rfl, ?_, ?_⟩
  · rw [field32_put32 (by rw [hput]; unfold offChallengeResponse; omega),
      toInt32_ofInt32 (fitsInt_getEnrolChallenge _ _)]
  · rw [put32, field64_overlay (by rw [hput, length_le32]; unfold offChallengeResponse; omega)
      (Or.inl (by decide)), field64_put64 (by unfold offChallenge; omega)]

theorem step_takesToken (h : (taSystem P).step ta e ta') (htakes : takesToken e = true) :
    ta'.hwAuth.incomingToken = e.token := by
  obtain ⟨_, hroute, rfl⟩ := h
  obtain ⟨hcmd, hsize⟩ := (Bool.and_eq_true _ _).mp htakes
  obtain ⟨hlen, hswitch⟩ := fpcTaRouteCommand_of_hwAuth P e.env ta (is_iff.mp hcmd)
  rw [hswitch] at hroute
  have htaken := hwAuthSwitch_authorizeEnrol hlen hroute
  rw [if_neg (Nat.not_lt.mpr (of_decide_eq_true hsize))] at htaken
  rw [htaken]
  -- the check that follows may forget the challenge, not the token
  cases validateIncomingToken_state P e.env
      { ta.hwAuth with incomingToken := messageToken e.msg } with
  | inl hkept => rw [hkept]; rfl
  | inr hexpired => rw [hexpired]; rfl

/-! ## The latest command of each kind -/

/-- The key is the one the latest `SET_SHARED_KEY` left, and is marked usable when that command
succeeded. -/
def KeyFrom : Option Event → Ta → Prop
  | none, ta => ta.hwAuth.hmacKeyInitialized = false
  | some e, ta =>
      ta.hwAuth.hmacKey = e.keyLeft ∧ (ta.hwAuth.hmacKeyInitialized = true ↔ e.response = 0)

/-- A challenge that is out is the one the latest `GET_ENROL_CHALLENGE` issued. -/
def ChallengeFrom : Option Event → Ta → Prop
  | none, ta => ta.hwAuth.outgoingChallenge = 0
  | some e, ta => ta.hwAuth.outgoingChallenge ≠ 0 →
      e.challengeResponse = 0 ∧ e.issuedChallenge = ta.hwAuth.outgoingChallenge ∧
        e.env.uptime = ta.hwAuth.outgoingTimestamp

/-- The incoming token is the one the latest event that took a token in took in. -/
def TokenFrom : Option Event → Ta → Prop
  | none, ta => ta.hwAuth.incomingToken = Token.zeroed
  | some e, ta => ta.hwAuth.incomingToken = e.token

/-- A state that agrees on the key and its flag. -/
theorem KeyFrom.congr {o : Option Event} (h : KeyFrom o ta)
    (hkey : ta'.hwAuth.hmacKey = ta.hwAuth.hmacKey)
    (hflag : ta'.hwAuth.hmacKeyInitialized = ta.hwAuth.hmacKeyInitialized) : KeyFrom o ta' := by
  cases o with
  | none => exact hflag.trans h
  | some e =>
    refine ⟨hkey.trans h.1, ?_⟩
    rw [hflag]
    exact h.2

/-- A state whose challenge is the same, or forgotten. -/
theorem ChallengeFrom.congr {o : Option Event} (h : ChallengeFrom o ta)
    (hchallenge : ta'.hwAuth.outgoingChallenge = ta.hwAuth.outgoingChallenge ∨
      ta'.hwAuth.outgoingChallenge = 0)
    (htime : ta'.hwAuth.outgoingTimestamp = ta.hwAuth.outgoingTimestamp) :
    ChallengeFrom o ta' := by
  cases o with
  | none =>
    cases hchallenge with
    | inl heq => exact heq.trans h
    | inr hzero => exact hzero
  | some e =>
    intro hne
    cases hchallenge with
    | inl heq =>
      rw [heq, htime]
      exact h (by rwa [← heq])
    | inr hzero => exact absurd hzero hne

theorem TokenFrom.congr {o : Option Event} (h : TokenFrom o ta)
    (htoken : ta'.hwAuth.incomingToken = ta.hwAuth.incomingToken) : TokenFrom o ta' := by
  cases o with
  | none => exact htoken.trans h
  | some e => exact htoken.trans h

theorem is_of_hwAuthCmd {cmd cmd' : HwAuthCmd} {msg : List UInt8}
    (h : commandOf msg = some (.hwAuth cmd)) (h' : hwAuthCmd msg = some cmd') :
    commandOf msg = some (.hwAuth cmd') := by
  obtain ⟨target, _, _, hmodule⟩ := commandOf_some h
  obtain ⟨_, hcmd⟩ := moduleCommand_some hmodule
  rw [h'] at hcmd
  cases hcmd
  exact h

/-- A command other than `SET_SHARED_KEY` leaves the key. -/
theorem KeyFrom.frame (o : Option Event) (h : (taSystem P).step ta e ta')
    (hcmd : isSetSharedKey e = false) (hfrom : KeyFrom o ta) : KeyFrom o ta' := by
  obtain ⟨_, hroute, rfl⟩ := h
  cases fpcTaRouteCommand_hwAuth hroute with
  | inl hkept =>
    cases hkept with
    | inl heq => exact hfrom.congr (by rw [heq]) (by rw [heq])
    | inr heq => exact hfrom.congr (by rw [heq]) (by rw [heq])
  | inr heffect =>
    obtain ⟨cmd, hcommand, heffect⟩ := heffect
    generalize e.result.ta = ta' at heffect ⊢
    cases heffect with
    | none => exact hfrom
    | setAuthChallenge _ => exact hfrom.congr rfl rfl
    | getEnrolChallenge _ =>
      unfold getEnrolChallenge
      dsimp only
      split
      · exact hfrom.congr rfl rfl
      · split
        · exact hfrom.congr rfl rfl
        · exact hfrom.congr rfl rfl
    | authorizeEnrol _ _ =>
      cases validateIncomingToken_state P e.env
          { ta.hwAuth with incomingToken := messageToken e.msg } with
      | inl heq => exact hfrom.congr (by rw [heq]) (by rw [heq])
      | inr heq => exact hfrom.congr (by rw [heq]) (by rw [heq])
    | setSharedKey hset =>
      have his := is_iff.mpr (is_of_hwAuthCmd hcommand hset)
      rw [isSetSharedKey, his] at hcmd
      cases hcmd

/-- A command other than `GET_ENROL_CHALLENGE` leaves the challenge or forgets it. -/
theorem ChallengeFrom.frame (o : Option Event) (h : (taSystem P).step ta e ta')
    (hcmd : isGetEnrolChallenge e = false) (hfrom : ChallengeFrom o ta) :
    ChallengeFrom o ta' := by
  obtain ⟨_, hroute, rfl⟩ := h
  cases fpcTaRouteCommand_hwAuth hroute with
  | inl hkept =>
    cases hkept with
    | inl heq => exact hfrom.congr (Or.inl (by rw [heq])) (by rw [heq])
    | inr heq => exact hfrom.congr (Or.inr (by rw [heq])) (by rw [heq])
  | inr heffect =>
    obtain ⟨cmd, hcommand, heffect⟩ := heffect
    generalize e.result.ta = ta' at heffect ⊢
    cases heffect with
    | none => exact hfrom
    | setAuthChallenge _ => exact hfrom.congr (Or.inl rfl) rfl
    | getEnrolChallenge hget =>
      have his := is_iff.mpr (is_of_hwAuthCmd hcommand hget)
      rw [isGetEnrolChallenge, his] at hcmd
      cases hcmd
    | authorizeEnrol _ _ =>
      cases validateIncomingToken_state P e.env
          { ta.hwAuth with incomingToken := messageToken e.msg } with
      | inl heq => exact hfrom.congr (Or.inl (by rw [heq])) (by rw [heq])
      | inr heq => exact hfrom.congr (Or.inr (by rw [heq])) (by rw [heq])
    | setSharedKey _ =>
      unfold setSharedKey
      dsimp only
      split
      · exact hfrom.congr (Or.inl rfl) rfl
      · exact hfrom.congr (Or.inl rfl) rfl

/-- A command that takes no token in leaves the token. -/
theorem TokenFrom.frame (o : Option Event) (h : (taSystem P).step ta e ta')
    (htakes : takesToken e = false) (hfrom : TokenFrom o ta) : TokenFrom o ta' := by
  obtain ⟨_, hroute, rfl⟩ := h
  cases fpcTaRouteCommand_hwAuth hroute with
  | inl hkept =>
    cases hkept with
    | inl heq => exact hfrom.congr (by rw [heq])
    | inr heq => exact hfrom.congr (by rw [heq])
  | inr heffect =>
    obtain ⟨cmd, hcommand, heffect⟩ := heffect
    generalize e.result.ta = ta' at heffect ⊢
    cases heffect with
    | none => exact hfrom
    | setAuthChallenge _ => exact hfrom.congr rfl
    | getEnrolChallenge _ =>
      unfold getEnrolChallenge
      dsimp only
      split
      · exact hfrom.congr rfl
      · split
        · exact hfrom.congr rfl
        · exact hfrom.congr rfl
    | authorizeEnrol hauthorize hsize =>
      have his := is_iff.mpr (is_of_hwAuthCmd hcommand hauthorize)
      rw [takesToken, his, decide_eq_true hsize] at htakes
      cases htakes
    | setSharedKey _ =>
      unfold setSharedKey
      dsimp only
      split
      · exact hfrom.congr rfl
      · exact hfrom.congr rfl

/-! ## Runs -/

/-- Where runs start there is no key, no challenge and no token. -/
theorem hwAuth_of_init (h : (taSystem P).init ta) : ta.hwAuth = fpcTaHwAuthInit := by
  obtain ⟨env, hinit⟩ := h
  obtain ⟨bio, _, hta⟩ := bind_eq_ok.mp hinit
  cases hta
  rfl

variable {history : List Event}

theorem run_keyFrom (hrun : (taSystem P).Run history ta) :
    KeyFrom (latest isSetSharedKey history) ta := by
  apply System.Run.latest (W := KeyFrom) _ _ _ hrun
  · intro s hinit
    show s.hwAuth.hmacKeyInitialized = false
    rw [hwAuth_of_init hinit]
    rfl
  · intro s e s' hstep hcmd
    obtain ⟨hs', hresponse⟩ := step_setSharedKey hstep hcmd
    obtain ⟨_, _, hresult⟩ := hstep
    refine ⟨by rw [Event.keyLeft, hresult], ?_⟩
    rw [hresponse, hs']
    unfold setSharedKey
    dsimp only
    split
    · next hstatus =>
      apply iff_of_false Bool.false_ne_true
      intro hzero
      exact hstatus (Int32.toInt_inj.mp hzero)
    · exact iff_of_true rfl rfl
  · intro s e s' o hstep hcmd hfrom
    exact KeyFrom.frame o hstep hcmd hfrom

theorem run_challengeFrom (hrun : (taSystem P).Run history ta) :
    ChallengeFrom (latest isGetEnrolChallenge history) ta := by
  apply System.Run.latest (W := ChallengeFrom) _ _ _ hrun
  · intro s hinit
    show s.hwAuth.outgoingChallenge = 0
    rw [hwAuth_of_init hinit]
    rfl
  · intro s e s' hstep hcmd hne
    obtain ⟨hs', hresponse, hissued⟩ := step_getEnrolChallenge hstep hcmd
    rw [hresponse, hissued]
    cases Int.decEq (getEnrolChallenge e.env s.hwAuth).1 0 with
    | isTrue hzero =>
      obtain ⟨_, hta⟩ := getEnrolChallenge_zero hzero
      rw [hs', hta]
      exact ⟨hzero, rfl, rfl⟩
    | isFalse hfailed =>
      -- a request that fails leaves no challenge out
      rw [hs', getEnrolChallenge_ne_zero hfailed] at hne
      exact absurd rfl hne
  · intro s e s' o hstep hcmd hfrom
    exact ChallengeFrom.frame o hstep hcmd hfrom

theorem run_tokenFrom (hrun : (taSystem P).Run history ta) :
    TokenFrom (latest takesToken history) ta := by
  apply System.Run.latest (W := TokenFrom) _ _ _ hrun
  · intro s hinit
    show s.hwAuth.incomingToken = Token.zeroed
    rw [hwAuth_of_init hinit]
    rfl
  · intro s e s' hstep htakes
    exact step_takesToken hstep htakes
  · intro s e s' o hstep htakes hfrom
    exact TokenFrom.frame o hstep htakes hfrom

/-! ## The end of an enrolment -/

/-- `fpc_ta_bio_end_enrol` leaves the database, or calls `fpc_db_add_fingerprint` for the user it
was allowed to enrol. -/
theorem fpcTaBioEndEnrol_userDb (env : Env) (bio : Bio) (hwAuth : HwAuthTa) :
    (fpcTaBioEndEnrol P env bio hwAuth).bio.userDb = bio.userDb ∨
      ∃ user tpl, (fpcEnrollmentAllowed P env hwAuth).1 = some user ∧
        (fpcTaBioEndEnrol P env bio hwAuth).bio.userDb
          = (fpcDbAddFingerprint env.db bio.userDb bio.activeSetKey user tpl).pDb := by
  unfold fpcTaBioEndEnrol
  split
  · exact Or.inl rfl
  · next addr _ =>
    dsimp only
    split
    · exact Or.inl rfl
    · split
      · exact Or.inl rfl
      · next user hwAuth' hallowed =>
        right
        refine ⟨user, Template.ofList addr bio.enrollData.enrolledTemplateSize
          env.algo.endEnroll.2, by rw [hallowed], ?_⟩
        split
        · rfl
        · split
          · rfl
          · rfl

theorem step_endEnrol (h : (taSystem P).step ta e ta')
    (hcmd : e.is (.bio .endEnrol) = true) :
    ta'.bio = (fpcTaBioEndEnrol P e.env ta.bio ta.hwAuth).bio := by
  obtain ⟨_, hroute, rfl⟩ := h
  obtain ⟨_, hrespond⟩ := fpcTaRouteCommand_of_bio P e.env ta (is_iff.mp hcmd)
  rw [hrespond] at hroute
  obtain ⟨answer, reply, hswitch, hta⟩ := bioRespond_ok hroute
  cases hswitch
  rw [hta]

/-- A finger that the end of an enrolment adds is enrolled for the user of a valid token. -/
theorem endEnrol_adds {env : Env} {bio : Bio} {hwAuth : HwAuthTa} {f : Fingerprint}
    (h : Adds bio.userDb (fpcTaBioEndEnrol P env bio hwAuth).bio.userDb f) :
    TokenValid P env hwAuth ∧ f.secureUserId = hwAuth.incomingToken.userId := by
  obtain ⟨i, hi, hvalid, hnew⟩ := h
  cases fpcTaBioEndEnrol_userDb (P := P) env bio hwAuth with
  | inl hkept =>
    rw [hkept] at hi
    exact absurd hvalid (hnew f hi)
  | inr hadded =>
    obtain ⟨user, tpl, hallowed, hadded⟩ := hadded
    rw [hadded] at hi
    obtain ⟨htoken, huser⟩ := fpcEnrollmentAllowed_some hallowed
    cases getElem?_fpcDbAddFingerprint hi hvalid with
    | inl hold => exact absurd hvalid (hnew f hold)
    | inr henrolled =>
      refine ⟨htoken, ?_⟩
      rw [henrolled.2]
      exact huser

/-- A key that is set was delivered by the latest `SET_SHARED_KEY`. -/
theorem run_keyed (hrun : (taSystem P).Run history ta)
    (hset : ta.hwAuth.hmacKeyInitialized = true) :
    ∃ keyed, latest isSetSharedKey history = some keyed ∧ keyed.response = 0 ∧
      ta.hwAuth.hmacKey = keyed.keyLeft := by
  have hkey := run_keyFrom hrun
  cases hkeyed : latest isSetSharedKey history with
  | none =>
    rw [hkeyed] at hkey
    rw [show ta.hwAuth.hmacKeyInitialized = false from hkey] at hset
    cases hset
  | some keyed =>
    rw [hkeyed] at hkey
    exact ⟨keyed, rfl, hkey.2.mp hset, hkey.1⟩

/-- A challenge that is out was issued by the latest `GET_ENROL_CHALLENGE`. -/
theorem run_challenged (hrun : (taSystem P).Run history ta)
    (hne : ta.hwAuth.outgoingChallenge ≠ 0) :
    ∃ challenged, latest isGetEnrolChallenge history = some challenged ∧
      challenged.challengeResponse = 0 ∧
      challenged.issuedChallenge = ta.hwAuth.outgoingChallenge ∧
      challenged.env.uptime = ta.hwAuth.outgoingTimestamp := by
  have hchallenge := run_challengeFrom hrun
  cases hchallenged : latest isGetEnrolChallenge history with
  | none =>
    rw [hchallenged] at hchallenge
    exact absurd hchallenge hne
  | some challenged =>
    rw [hchallenged] at hchallenge
    exact ⟨challenged, rfl, hchallenge hne⟩

/-- A token with a challenge was taken in: the one that never was has challenge 0. -/
theorem run_authorised (hrun : (taSystem P).Run history ta)
    (hne : ta.hwAuth.incomingToken.challenge ≠ 0) :
    ∃ authorised, latest takesToken history = some authorised ∧
      ta.hwAuth.incomingToken = authorised.token := by
  have htoken := run_tokenFrom hrun
  cases hauthorised : latest takesToken history with
  | none =>
    rw [hauthorised] at htoken
    rw [show ta.hwAuth.incomingToken = Token.zeroed from htoken] at hne
    exact absurd rfl hne
  | some authorised =>
    rw [hauthorised] at htoken
    exact ⟨authorised, rfl, htoken⟩

/-- What the enrolment of a finger rests on: the latest `SET_SHARED_KEY`, the latest
`GET_ENROL_CHALLENGE` and the latest `AUTHORIZE_ENROL` that took a token in. -/
structure Authorisation (P : Platform) (history : List Event) (e : Event) (f : Fingerprint)
    (keyed challenged authorised : Event) : Prop where
  key : latest isSetSharedKey history = some keyed
  key_succeeded : keyed.response = 0
  key_current : e.pre.hwAuth.hmacKey = keyed.keyLeft
  challenge : latest isGetEnrolChallenge history = some challenged
  challenge_succeeded : challenged.challengeResponse = 0
  challenge_ne_zero : challenged.issuedChallenge ≠ 0
  token : latest takesToken history = some authorised
  version : authorised.token.version = 0
  hmac : authorised.token.hmac = P.hmacSha256 authorised.token.signedBytes keyed.keyLeft
  answers : authorised.token.challenge = challenged.issuedChallenge
  age : e.env.uptime - challenged.env.uptime ≤ hwAuthChallengeLifetime
  user : f.secureUserId = authorised.token.userId

/-- **Enrolment is gated by a fresh token.** Whenever an `END_ENROL` of a run adds a finger, the
key in use is the one the latest `SET_SHARED_KEY` delivered with success, the latest
`GET_ENROL_CHALLENGE` issued a challenge no longer ago than the lifetime, and the latest token
that was taken in answers that challenge, is signed under that key, and names the user the finger
is stored with. -/
theorem endEnrol_authorised {f : Fingerprint} (hrun : (taSystem P).Run history ta)
    (hstep : (taSystem P).step ta e ta') (hcmd : e.is (.bio .endEnrol) = true)
    (hadds : Adds ta.bio.userDb ta'.bio.userDb f) :
    ∃ keyed challenged authorised,
      Authorisation P history e f keyed challenged authorised := by
  rw [step_endEnrol hstep hcmd] at hadds
  obtain ⟨hvalid, huser⟩ := endEnrol_adds hadds
  -- each part of the valid token goes back to the latest command that wrote it
  obtain ⟨keyed, hkeyed, hsucceeded, hkeyLeft⟩ := run_keyed hrun hvalid.key
  obtain ⟨challenged, hchallenged, hok, hissued, htime⟩ :=
    run_challenged hrun hvalid.challenge_ne_zero
  obtain ⟨authorised, hauthorised, htaken⟩ := run_authorised hrun
    (by rw [hvalid.challenge]; exact hvalid.challenge_ne_zero)
  refine ⟨keyed, challenged, authorised, ?_⟩
  exact { key := hkeyed
          key_succeeded := hsucceeded
          key_current := by rw [hstep.1, hkeyLeft]
          challenge := hchallenged
          challenge_succeeded := hok
          challenge_ne_zero := by rw [hissued]; exact hvalid.challenge_ne_zero
          token := hauthorised
          version := by rw [← htaken]; exact hvalid.version
          hmac := by rw [← htaken, ← hkeyLeft]; exact hvalid.hmac
          answers := by rw [← htaken, hissued]; exact hvalid.challenge
          age := by rw [htime]; exact hvalid.age
          user := by rw [← htaken]; exact huser }

end

/-- A message to a module, with the fields of its command. -/
def commandMessage (target command : UInt32) (fields : List UInt8) : List UInt8 :=
  le32 target ++ (le32 command ++ fields)

/-- A token for a user, signed under the key that the willing key service delivers. -/
def sampleToken : Token :=
  { version := 0, challenge := 0x1122334455667788, userId := 0xA1B2C3D4, authenticatorId := 0,
    authenticatorType := 0x01000000, timestamp := 0,
    hmac := #v[0xD3, 0x65, 0xE2, 0x0C, 0x21, 0x31, 0x78, 0xE2, 0x21, 0x14, 0x67, 0x7E, 0x26, 0x52,
      0x1C, 0x06, 0x37, 0xE8, 0x3A, 0x58, 0xD8, 0x69, 0xB6, 0x50, 0xAB, 0x9D, 0x7D, 0x6B, 0x09,
      0x93, 0xDE, 0x6C] }

/-- The commands that lead up to an `END_ENROL`: a key, a challenge, the token for it, and a
touch. -/
def sampleTouches : List (Env × List UInt8) :=
  [(.willing, commandMessage 3 5 (List.replicate 16 0)),
   (.willing, commandMessage 3 2 (List.replicate 16 0)),
   (.willing, commandMessage 3 3 (le32 0 ++ (le32 69 ++ sampleToken.bytes))),
   ({ Env.willing with algo := { Env.willing.algo with
        enroll := (0, { result := 0, enrolledTemplateSize := 4, remainingTouches := 0 }) } },
     commandMessage 11 1 (List.replicate 32 0))]

/-- The `END_ENROL` behind them, which draws the id of the finger. -/
def sampleEndEnrol (id : Id256) : Env × List UInt8 :=
  ({ Env.willing with
      db := { DbEnv.willing with random256 := fun _ => (0, id) },
      algo := { Env.willing.algo with endEnroll := (0, [1, 2, 3, 4]) } },
   commandMessage 11 2 (List.replicate 32 0))

/-- Commands executed from the state after `init`, and one more. -/
def executeThen (P : Platform) (commands : List (Env × List UInt8)) (last : Env × List UInt8) :
    Outcome (List Event × Ta × Handled) := do
  let ta ← fpcTaRouterInit .willing
  let reached ← execute P [] ta commands
  let result ← fpcTaRouteCommand P last.1 reached.2 last.2
  .ok (reached.1, reached.2, result)

/-- What is decided at the end of executed commands holds at the end of a run. -/
theorem executeThen_decided (P : Platform) (commands : List (Env × List UInt8))
    (last : Env × List UInt8) (p : List Event → Ta → Handled → Prop)
    [∀ history ta result, Decidable (p history ta result)]
    (h : (executeThen P commands last >>= fun r => .ok (decide (p r.1 r.2.1 r.2.2))) = .ok true) :
    ∃ history ta result, (taSystem P).Run history ta ∧
      (taSystem P).step ta { env := last.1, msg := last.2, pre := ta, result := result }
        result.ta ∧
      p history ta result := by
  obtain ⟨⟨history, ta, result⟩, hexecuted, hp⟩ := bind_eq_ok.mp h
  obtain ⟨start, hinit, hexecuted⟩ := bind_eq_ok.mp hexecuted
  obtain ⟨reached, hexecute, hexecuted⟩ := bind_eq_ok.mp hexecuted
  obtain ⟨_, hroute, hexecuted⟩ := bind_eq_ok.mp hexecuted
  cases hexecuted
  injection hp with hp
  exact ⟨_, _, _, execute_run (.init ⟨_, hinit⟩) hexecute, ⟨rfl, hroute, rfl⟩,
    of_decide_eq_true hp⟩

/-- The token that the sample authentication signs. -/
def sampleAuthToken : Token :=
  { version := 0, challenge := 0xCAFE, userId := 0xA1B2C3D4, authenticatorId := 0x0123456789ABCDEF,
    authenticatorType := 0x02000000, timestamp := 0xE803000000000000,
    hmac := #v[0xD1, 0x36, 0x33, 0xA7, 0x2E, 0x0B, 0xC4, 0xFC, 0x3F, 0x1A, 0x4D, 0x7D, 0x37, 0x10,
      0x38, 0x06, 0x4E, 0x9E, 0x09, 0xDE, 0x79, 0x94, 0xF3, 0x7A, 0xF0, 0xAE, 0x61, 0x82, 0xBF,
      0xD5, 0x9D, 0x22] }

/-- A platform that knows the HMAC of the sample tokens. -/
def samplePlatform : Platform :=
  .signing [((sampleToken.signedBytes, List.replicate 32 0x0B), sampleToken.hmac),
    ((sampleAuthToken.signedBytes, List.replicate 32 0x0B), sampleAuthToken.hmac)]

/-- The finger that the sample commands enrol. -/
def sampleFinger : Fingerprint :=
  .enrolledWith (Id256.filled 0x5A) sampleToken.userId (Template.ofList 0x70000 4 [1, 2, 3, 4])

theorem sampleEnrolment_authorised :
    ∃ history e keyed challenged authorised,
      Authorisation samplePlatform history e sampleFinger keyed challenged authorised := by
  obtain ⟨history, ta, result, hrun, hstep, hempty, hfinger⟩ :=
    executeThen_decided samplePlatform sampleTouches (sampleEndEnrol (Id256.filled 0x5A))
      (fun _ ta result => slots ta.bio.userDb = [] ∧
        (slots result.ta.bio.userDb)[0]? = some sampleFinger) (by decide +kernel)
  have hcmd : commandOf (sampleEndEnrol (Id256.filled 0x5A)).2 = some (.bio .endEnrol) := by
    decide +kernel
  have hadds : Adds ta.bio.userDb result.ta.bio.userDb sampleFinger := by
    refine ⟨0, hfinger, rfl, ?_⟩
    intro g hg
    rw [hempty] at hg
    cases hg
  exact ⟨history, _, endEnrol_authorised hrun hstep (is_iff.mpr hcmd) hadds⟩

end Fpc
