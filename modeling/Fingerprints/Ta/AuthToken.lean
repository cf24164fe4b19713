import Fingerprints.Ta.Identify

/-!
# What an authentication token rests on

`get_auth_result` signs a token for the match result, the challenge and the key there are, and
looks at none of the three: not whether a challenge was set, not whether a match was recorded
since, not whether the key is marked usable. Where they are, the token goes back to the latest
`SET_AUTH_CHALLENGE`, the latest match reported since (`getAuthResult_afterMatch`) and the latest
`SET_SHARED_KEY` (`getAuthResult_keyed_iff`).
-/

namespace Fpc

open Wire Wire.Outcome Runs

def isSetAuthChallenge : Event → Bool := Event.is (.hwAuth .setAuthChallenge)

def isGetAuthResult : Event → Bool := Event.is (.hwAuth .getAuthResult)

/-- The challenge in the message of an event. -/
def Event.authChallenge (e : Event) : UInt64 := field64 e.msg offChallenge

/-- The token that the reply to an event carries. -/
def Event.signedToken (e : Event) : Token := messageToken e.result.msg

section

variable {P : Platform} {ta ta' : Ta} {e : Event}

/-! ## One step -/

theorem getAuthResult_status {env : Env} {msg msg' : List UInt8} {size : Nat} {response : Int}
    (h : getAuthResult P env ta msg size = .ok (response, msg')) :
    response = 0 ∨ IsError response := by
  unfold getAuthResult at h
  split at h
  · cases h
    exact Or.inr (by decide)
  · split at h
    · cases h
    · cases h
      exact Or.inr (by decide)
    · dsimp only at h
      split at h
      · cases h
        exact Or.inr (by decide)
      · obtain ⟨_, _, h⟩ := bind_eq_ok.mp h
        obtain ⟨_, _, h⟩ := bind_eq_ok.mp h
        obtain ⟨_, _, h⟩ := bind_eq_ok.mp h
        split at h
        · cases h
          exact Or.inr (by decide)
        · cases h
          exact Or.inl rfl

/-- What is signed when `get_auth_result` answers 0. -/
theorem hwAuthSwitch_signed {env : Env} {msg : List UInt8} {r : Handled}
    (h : hwAuthSwitch P env ta msg .getAuthResult = .ok r)
    (hzero : toInt32 (field32 r.msg offResponse) = 0) :
    ∃ templateIndex dbId,
      fpcDbGetIndexOfId32 ta.bio.userDb ta.bio.matchResult.templateId = .ok templateIndex ∧
      fpcDbGetDatabaseId ta.bio.userDb = .ok dbId ∧
      messageToken r.msg = authToken ta (tokenUserId ta templateIndex) dbId
        (P.hmacSha256 (messageToken r.msg).signedBytes ta.hwAuth.hmacKey) := by
  obtain ⟨size, _, h⟩ := bind_eq_ok.mp h
  obtain ⟨⟨response, msg'⟩, hget, h⟩ := bind_eq_ok.mp h
  obtain ⟨msg'', hstore, h⟩ := bind_eq_ok.mp h
  obtain ⟨hin, rfl⟩ := storeSpan_ok hstore (by simp)
  rw [length_le32] at hin
  cases h
  have hresponse : field32 (overlay msg' offResponse (le32 (ofInt32 response))) offResponse
      = ofInt32 response := field32_put32 (by omega) _
  dsimp only at hzero
  rw [hresponse] at hzero
  have hok : response = 0 := by
    cases getAuthResult_status hget with
    | inl heq => exact heq
    | inr herror => rwa [toInt32_ofInt32 herror.fitsInt] at hzero
  rw [hok] at hget
  obtain ⟨templateIndex, dbId, hindex, hdb, _, htoken⟩ := getAuthResult_zero hget
  -- the response goes in front of the token
  have hbehind : messageToken (overlay msg' offResponse (le32 (ofInt32 response)))
      = messageToken msg' := by
    rw [messageToken, slice_overlay_of_disjoint (by rw [length_le32]; exact hin)
      (Or.inr (by rw [length_le32]; decide)), messageToken]
  refine ⟨templateIndex, dbId, hindex, hdb, ?_⟩
  dsimp only
  rw [hbehind]
  exact htoken

/-- What is signed when `GET_AUTH_RESULT` returns 0. -/
theorem step_getAuthResult (h : (taSystem P).step ta e ta') (hcmd : isGetAuthResult e = true)
    (hzero : e.response = 0) :
    ∃ templateIndex dbId,
      fpcDbGetIndexOfId32 ta.bio.userDb ta.bio.matchResult.templateId = .ok templateIndex ∧
      fpcDbGetDatabaseId ta.bio.userDb = .ok dbId ∧
      e.signedToken = authToken ta (tokenUserId ta templateIndex) dbId
        (P.hmacSha256 e.signedToken.signedBytes ta.hwAuth.hmacKey) := by
  obtain ⟨_, hroute, _⟩ := h
  obtain ⟨_, hswitch⟩ := fpcTaRouteCommand_of_hwAuth P e.env ta (is_iff.mp hcmd)
  rw [hswitch] at hroute
  exact hwAuthSwitch_signed hroute hzero

theorem step_setAuthChallenge (h : (taSystem P).step ta e ta')
    (hcmd : isSetAuthChallenge e = true) : ta' = (setAuthChallenge ta e.authChallenge).2 := by
  obtain ⟨_, hroute, rfl⟩ := h
  obtain ⟨hlen, hswitch⟩ := fpcTaRouteCommand_of_hwAuth P e.env ta (is_iff.mp hcmd)
  rw [hswitch, hwAuthSwitch_setAuthChallenge hlen] at hroute
  injection hroute with hresult
  rw [← hresult]
  rfl

/-! ## The latest challenge and the latest match -/

/-- The challenge is the one of the latest `SET_AUTH_CHALLENGE`. -/
def AuthChallengeFrom : Option Event → Ta → Prop
  | none, ta => ta.hwAuth.incomingChallenge = 0
  | some e, ta => ta.hwAuth.incomingChallenge = e.authChallenge

/-- The event set the match result: a challenge was set, or a match was reported. -/
def writesMatch (e : Event) : Bool := isSetAuthChallenge e || reportedMatch e

/-- The match result that an event set. -/
def MatchLeft (e : Event) (matchResult : MatchResult) : Prop :=
  if isSetAuthChallenge e then matchResult = fpcMatchResultReset
  else ∃ f, MatchedFinger e f ∧ matchResult = matchOf e.pre.imageTimestamp f

/-- The match result is the one of the latest event that set it. -/
def MatchFrom : Option Event → Ta → Prop
  | none, ta => ta.bio.matchResult.templateId256 = Id256.filled 0
  | some e, ta => MatchLeft e ta.bio.matchResult

theorem AuthChallengeFrom.congr {o : Option Event} (h : AuthChallengeFrom o ta)
    (hchallenge : ta'.hwAuth.incomingChallenge = ta.hwAuth.incomingChallenge) :
    AuthChallengeFrom o ta' := by
  cases o with
  | none => exact hchallenge.trans h
  | some e => exact hchallenge.trans h

theorem MatchFrom.congr {o : Option Event} (h : MatchFrom o ta)
    (hmatch : ta'.bio.matchResult = ta.bio.matchResult) : MatchFrom o ta' := by
  cases o with
  | none =>
    show ta'.bio.matchResult.templateId256 = Id256.filled 0
    rw [hmatch]
    exact h
  | some e =>
    show MatchLeft e ta'.bio.matchResult
    rw [hmatch]
    exact h

/-- A command other than `SET_AUTH_CHALLENGE` leaves the challenge of an authentication. -/
theorem AuthChallengeFrom.frame (o : Option Event) (h : (taSystem P).step ta e ta')
    (hcmd : isSetAuthChallenge e = false) (hfrom : AuthChallengeFrom o ta) :
    AuthChallengeFrom o ta' := by
  obtain ⟨_, hroute, rfl⟩ := h
  cases fpcTaRouteCommand_hwAuth hroute with
  | inl hkept =>
    cases hkept with
    | inl heq => exact hfrom.congr (by rw [heq])
    | inr heq => exact hfrom.congr (by rw [heq])
  | inr heffect =>
    obtain ⟨cmd, hcommand, heffect⟩ := heffect
    generalize e.result.ta = ta' at heffect ⊢
    cases heffect with
    | none => exact hfrom
    | setAuthChallenge hset =>
      have his := is_iff.mpr (is_of_hwAuthCmd hcommand hset)
      rw [isSetAuthChallenge, his] at hcmd
      cases hcmd
    | getEnrolChallenge _ =>
      unfold getEnrolChallenge
      dsimp only
      split
      · exact hfrom.congr rfl
      · split
        · exact hfrom.congr rfl
        · exact hfrom.congr rfl
    | authorizeEnrol _ _ =>
      cases validateIncomingToken_state P e.env
          { ta.hwAuth with incomingToken := messageToken e.msg } with
      | inl heq => exact hfrom.congr (by rw [heq])
      | inr heq => exact hfrom.congr (by rw [heq])
    | setSharedKey _ =>
      unfold setSharedKey
      dsimp only
      split
      · exact hfrom.congr rfl
      · exact hfrom.congr rfl

/-- An event that sets no challenge and reports no match leaves the match result. -/
theorem MatchFrom.frame (o : Option Event) (h : (taSystem P).step ta e ta')
    (hwrites : writesMatch e = false) (hfrom : MatchFrom o ta) : MatchFrom o ta' := by
  obtain ⟨hset, hreported⟩ := Bool.or_eq_false_iff.mp hwrites
  cases hidentify : isIdentify e with
  | true =>
    cases step_identify h hidentify with
    | inl hmatched =>
      rw [hmatched.1] at hreported
      cases hreported
    | inr hkept => exact hfrom.congr hkept.2
  | false =>
    obtain ⟨_, hroute, rfl⟩ := h
    apply hfrom.congr
    apply fpcTaRouteCommand_matchResult hroute
    · intro hcommand
      rw [isSetAuthChallenge, is_iff.mpr hcommand] at hset
      cases hset
    · intro hcommand
      rw [isIdentify, is_iff.mpr hcommand] at hidentify
      cases hidentify

variable {history : List Event}

theorem run_authChallengeFrom (hrun : (taSystem P).Run history ta) :
    AuthChallengeFrom (latest isSetAuthChallenge history) ta := by
  apply System.Run.latest (W := AuthChallengeFrom) _ _ _ hrun
  · intro s hinit
    show s.hwAuth.incomingChallenge = 0
    rw [hwAuth_of_init hinit]
    rfl
  · intro s e s' hstep hcmd
    rw [step_setAuthChallenge hstep hcmd]
    rfl
  · intro s e s' o hstep hcmd hfrom
    exact AuthChallengeFrom.frame o hstep hcmd hfrom

theorem matchResult_of_init (h : (taSystem P).init ta) :
    ta.bio.matchResult.templateId256 = Id256.filled 0 := by
  obtain ⟨env, hinit⟩ := h
  obtain ⟨_, _, _, hmatch⟩ := fpcTaRouterInit_ok hinit
  exact hmatch

theorem run_matchFrom (hrun : (taSystem P).Run history ta) :
    MatchFrom (latest writesMatch history) ta := by
  apply System.Run.latest (W := MatchFrom) _ _ _ hrun
  · intro s hinit
    exact matchResult_of_init hinit
  · intro s e s' hstep hwrites
    show MatchLeft e s'.bio.matchResult
    unfold MatchLeft
    split
    · next hset =>
      rw [step_setAuthChallenge hstep hset]
      rfl
    · next hset =>
      -- what sets the match result and is no challenge is a reported match
      have hreported : reportedMatch e = true := by
        unfold writesMatch at hwrites
        rwa [Bool.not_eq_true _ |>.mp hset, Bool.false_or] at hwrites
      have hidentify : isIdentify e = true :=
        ((Bool.and_eq_true _ _).mp ((Bool.and_eq_true _ _).mp hreported).1).1
      cases step_identify hstep hidentify with
      | inl hmatched => exact hmatched.2
      | inr hkept =>
        rw [hkept.1] at hreported
        cases hreported
  · intro s e s' o hstep hwrites hfrom
    exact MatchFrom.frame o hstep hwrites hfrom

/-! ## After a match -/

/-- What a token says about the past: its challenge is the latest one set, a match was reported
since, its time is that of the image of the latest such match, and the finger that was matched is
still enrolled. -/
structure SignedAfterMatch (history : List Event) (e challenged matched : Event)
    (f : Fingerprint) : Prop where
  challenge : latest isSetAuthChallenge history = some challenged
  answers : e.signedToken.challenge = challenged.authChallenge
  reported : latest reportedMatch (since isSetAuthChallenge history) = some matched
  finger : MatchedFinger matched f
  timestamp : e.signedToken.timestamp = swapBytes64 matched.pre.imageTimestamp
  enrolled : ∃ g, Enrolled e.pre.bio.userDb g ∧ g.fingerprintId = f.fingerprintId

/-- The match result has an id, and a finger with this id is enrolled. -/
structure NamesFinger (bio : Bio) : Prop where
  ne_zero : bio.matchResult.templateId256 ≠ Id256.filled 0
  enrolled : ∃ g, Enrolled bio.userDb g ∧ g.fingerprintId = bio.matchResult.templateId256

/-- A match result with an id comes from a match that was reported since the latest challenge. -/
theorem matched_of_ne_zero (hrun : (taSystem P).Run history ta)
    (hne : ta.bio.matchResult.templateId256 ≠ Id256.filled 0) :
    ∃ matched f, latest reportedMatch (since isSetAuthChallenge history) = some matched ∧
      MatchedFinger matched f ∧
      ta.bio.matchResult = matchOf matched.pre.imageTimestamp f := by
  have hfrom := run_matchFrom hrun
  cases hlatest : latest writesMatch history with
  | none =>
    rw [hlatest] at hfrom
    exact absurd hfrom hne
  | some matched =>
    rw [hlatest] at hfrom
    have hleft : MatchLeft matched ta.bio.matchResult := hfrom
    unfold MatchLeft at hleft
    split at hleft
    · -- a challenge resets the id
      rw [hleft] at hne
      exact absurd rfl hne
    · next hset =>
      obtain ⟨f, hfinger, hresult⟩ := hleft
      exact ⟨matched, f, latest_since hlatest (Bool.not_eq_true _ |>.mp hset), hfinger, hresult⟩

/-- **A token is signed after a match.** Whenever `GET_AUTH_RESULT` returns 0 in a run, a
challenge having been set and the match result naming an enrolled finger, the token answers the
latest challenge with a match reported since. -/
theorem getAuthResult_afterMatch (hrun : (taSystem P).Run history ta)
    (hstep : (taSystem P).step ta e ta') (hcmd : isGetAuthResult e = true)
    (hzero : e.response = 0) (hchallenged : (latest isSetAuthChallenge history).isSome = true)
    (hnames : NamesFinger ta.bio) :
    ∃ challenged matched f, SignedAfterMatch history e challenged matched f := by
  obtain ⟨challenged, hlatest⟩ := Option.isSome_iff_exists.mp hchallenged
  obtain ⟨matched, f, hmatched, hfinger, hresult⟩ := matched_of_ne_zero hrun hnames.ne_zero
  obtain ⟨templateIndex, dbId, _, _, htoken⟩ := step_getAuthResult hstep hcmd hzero
  have hfrom := run_authChallengeFrom hrun
  rw [hlatest] at hfrom
  refine ⟨challenged, matched, f, ?_⟩
  exact { challenge := hlatest
          answers := by rw [htoken]; exact hfrom
          reported := hmatched
          finger := hfinger
          timestamp := by
            rw [htoken, authToken, hresult]
            rfl
          enrolled := by
            obtain ⟨g, henrolled, hid⟩ := hnames.enrolled
            rw [hstep.1]
            exact ⟨g, henrolled, by rw [hid, hresult, matchOf]⟩ }

end

/-- The commands of an authentication: a challenge, an image, and its identification. -/
def sampleSetAuthChallenge : Env × List UInt8 :=
  (.willing, commandMessage 3 1 (le64 0xCAFE ++ List.replicate 8 0))

def sampleCapture : Env × List UInt8 := (.willing, commandMessage 10 3 (List.replicate 24 0))

def sampleIdentify : Env × List UInt8 := (.willing, commandMessage 11 3 (List.replicate 32 0))

def sampleGetAuthResult : Env × List UInt8 :=
  (.willing, commandMessage 3 4 (le32 0 ++ (le32 69 ++ List.replicate 69 0)))

/-- A finger is enrolled, a challenge set, and the finger matched. -/
def sampleAuthentication : List (Env × List UInt8) :=
  sampleTouches ++ [sampleEndEnrol (Id256.filled 0x5A), sampleSetAuthChallenge, sampleCapture,
    sampleIdentify]

/-- The run of these commands, and the token that is asked for at its end. -/
theorem sampleAuthentication_run :
    ∃ history ta e ta', (taSystem samplePlatform).Run history ta ∧
      (taSystem samplePlatform).step ta e ta' ∧ isGetAuthResult e = true ∧ e.response = 0 ∧
      (latest isSetAuthChallenge history).isSome = true ∧ NamesFinger ta.bio ∧
      ta.hwAuth.hmacKeyInitialized = true ∧ e.signedToken = sampleAuthToken := by
  obtain ⟨history, ta, result, hrun, hstep, hchallenged, hslot, hid, hkey, hzero, htoken⟩ :=
    executeThen_decided samplePlatform sampleAuthentication sampleGetAuthResult
      (fun history ta result => (latest isSetAuthChallenge history).isSome = true ∧
        (slots ta.bio.userDb)[0]? = some sampleFinger ∧
        ta.bio.matchResult.templateId256 = Id256.filled 0x5A ∧
        ta.hwAuth.hmacKeyInitialized = true ∧
        toInt32 (field32 result.msg offResponse) = 0 ∧
        messageToken result.msg = sampleAuthToken) (by decide +kernel)
  have hcmd : commandOf sampleGetAuthResult.2 = some (.hwAuth .getAuthResult) := by decide +kernel
  have hnames : NamesFinger ta.bio :=
    { ne_zero := by rw [hid]; decide
      enrolled := ⟨sampleFinger, ⟨List.mem_of_getElem? hslot, rfl⟩, hid.symm⟩ }
  exact ⟨history, ta, _, _, hrun, hstep, is_iff.mpr hcmd, hzero, hchallenged, hnames, hkey, htoken⟩

theorem sampleAuthentication_afterMatch :
    ∃ history e challenged matched f, SignedAfterMatch history e challenged matched f := by
  obtain ⟨history, ta, e, ta', hrun, hstep, hcmd, hzero, hchallenged, hnames, _⟩ :=
    sampleAuthentication_run
  exact ⟨history, e, getAuthResult_afterMatch hrun hstep hcmd hzero hchallenged hnames⟩

/-- A finger whose id begins with four zero bytes is enrolled and a challenge set. -/
def sampleUnmatched : List (Env × List UInt8) :=
  sampleTouches ++ [sampleEndEnrol (ofList 32 0x5A [0, 0, 0, 0]), sampleSetAuthChallenge]

/-- A token is signed without any identification. -/
theorem sampleUnmatched_signed :
    ∃ history ta e ta', (taSystem samplePlatform).Run history ta ∧
      (taSystem samplePlatform).step ta e ta' ∧ isGetAuthResult e = true ∧ e.response = 0 ∧
      history.all (fun e => !isIdentify e) = true ∧
      ¬ ∃ challenged matched f, SignedAfterMatch history e challenged matched f := by
  obtain ⟨history, ta, result, hrun, hstep, hall, hnone, hzero⟩ :=
    executeThen_decided samplePlatform sampleUnmatched sampleGetAuthResult
      (fun history _ result => history.all (fun e => !isIdentify e) = true ∧
        (latest reportedMatch (since isSetAuthChallenge history)).isNone = true ∧
        toInt32 (field32 result.msg offResponse) = 0) (by decide +kernel)
  have hcmd : commandOf sampleGetAuthResult.2 = some (.hwAuth .getAuthResult) := by decide +kernel
  refine ⟨history, ta, _, _, hrun, hstep, is_iff.mpr hcmd, hzero, hall, ?_⟩
  rintro ⟨challenged, matched, f, hsigned⟩
  have hmatched : latest reportedMatch (since isSetAuthChallenge history) = some matched :=
    hsigned.reported
  rw [hmatched] at hnone
  cases hnone

/-! ## Under a delivered key -/

/-- The token is signed under the key that the latest `SET_SHARED_KEY` delivered, with success. -/
structure SignedUnderDelivered (P : Platform) (history : List Event) (e keyed : Event) :
    Prop where
  key : latest isSetSharedKey history = some keyed
  succeeded : keyed.response = 0
  hmac : e.signedToken.hmac = P.hmacSha256 e.signedToken.signedBytes keyed.keyLeft
  delivered : keyed.env.unwrapKey.2.length = 32 → keyed.keyLeft.toList = keyed.env.unwrapKey.2

section

variable {P : Platform} {ta ta' : Ta} {e : Event} {history : List Event}

/-- A key service that writes a whole key delivers this key. -/
theorem keyLeft_of_step (h : (taSystem P).step ta e ta') (hcmd : isSetSharedKey e = true)
    (hwhole : e.env.unwrapKey.2.length = 32) : e.keyLeft.toList = e.env.unwrapKey.2 := by
  obtain ⟨hs', _⟩ := step_setSharedKey h hcmd
  obtain ⟨_, _, hresult⟩ := h
  have hlen : ta.hwAuth.hmacKey.toList.length = 32 := Vector.length_toList
  have hover : overFront ta.hwAuth.hmacKey.toList e.env.unwrapKey.2 = e.env.unwrapKey.2 := by
    rw [overFront, List.take_of_length_le (by omega), List.drop_of_length_le (by omega),
      List.append_nil]
  have hkey : (setSharedKey e.env ta.hwAuth).2.hmacKey = ofList 32 0 e.env.unwrapKey.2 := by
    unfold setSharedKey
    dsimp only
    split
    · rw [hover]
    · rw [hover]
  rw [Event.keyLeft, hresult, hs']
  dsimp only
  rw [hkey]
  exact toList_ofList 0 hwhole

/-- **A token is signed under a delivered key exactly when the key is marked usable.** For every
`GET_AUTH_RESULT` of a run that returns 0: `SET_SHARED_KEY` was executed, its latest execution
succeeded, and the HMAC is computed under the key it delivered, if and only if
`hmac_key_initialized` is set. -/
theorem getAuthResult_keyed_iff (hrun : (taSystem P).Run history ta)
    (hstep : (taSystem P).step ta e ta') (hcmd : isGetAuthResult e = true)
    (hzero : e.response = 0) :
    (∃ keyed, SignedUnderDelivered P history e keyed) ↔ ta.hwAuth.hmacKeyInitialized = true := by
  constructor
  · rintro ⟨keyed, hsigned⟩
    have hfrom := run_keyFrom hrun
    rw [hsigned.key] at hfrom
    exact hfrom.2.mpr hsigned.succeeded
  · intro hflag
    obtain ⟨keyed, hkeyed, hsucceeded, hkey⟩ := run_keyed hrun hflag
    obtain ⟨templateIndex, dbId, _, _, htoken⟩ := step_getAuthResult hstep hcmd hzero
    obtain ⟨past, t, t', _, hstep', _⟩ := hrun.before_of_mem (latest_mem hkeyed)
    have hhmac := congrArg Token.hmac htoken
    refine ⟨keyed, ?_⟩
    exact { key := hkeyed
            succeeded := hsucceeded
            hmac := by rw [← hkey]; exact hhmac
            delivered := keyLeft_of_step hstep' (latest_pos hkeyed) }

end

theorem sampleAuthentication_keyed :
    ∃ history e keyed, SignedUnderDelivered samplePlatform history e keyed ∧
      e.signedToken = sampleAuthToken := by
  obtain ⟨history, ta, e, ta', hrun, hstep, hcmd, hzero, _, _, hkey, htoken⟩ :=
    sampleAuthentication_run
  obtain ⟨keyed, hsigned⟩ := (getAuthResult_keyed_iff hrun hstep hcmd hzero).mpr hkey
  exact ⟨history, e, keyed, hsigned, htoken⟩

/-- A key service that fails after it wrote four bytes of the key. -/
def sampleFailingKey : Env × List UInt8 :=
  ({ Env.willing with unwrapKey := (-16, [1, 2, 3, 4]) }, commandMessage 3 5 (List.replicate 16 0))

/-- A token is signed under a key that was half overwritten. -/
theorem sampleFailingKey_signed :
    ∃ history ta e ta', (taSystem samplePlatform).Run history ta ∧
      (taSystem samplePlatform).step ta e ta' ∧ isGetAuthResult e = true ∧ e.response = 0 ∧
      ¬ ∃ keyed, SignedUnderDelivered samplePlatform history e keyed := by
  obtain ⟨history, ta, result, hrun, hstep, hkeyed, hzero⟩ :=
    executeThen_decided samplePlatform (sampleAuthentication ++ [sampleFailingKey])
      sampleGetAuthResult
      (fun history _ result =>
        (latest isSetSharedKey history).map Event.response = some (-fpcErrorCrypto) ∧
        toInt32 (field32 result.msg offResponse) = 0) (by decide +kernel)
  have hcmd : commandOf sampleGetAuthResult.2 = some (.hwAuth .getAuthResult) := by decide +kernel
  refine ⟨history, ta, _, _, hrun, hstep, is_iff.mpr hcmd, hzero, ?_⟩
  rintro ⟨keyed, hsigned⟩
  have hkey : latest isSetSharedKey history = some keyed := hsigned.key
  rw [hkey, Option.map_some, hsigned.succeeded] at hkeyed
  cases hkeyed

end Fpc
