import Fingerprints.Ta.Platform

/-!
# Hardware authentication

`fpc_ta_hw_auth.c`: the challenge for an enrolment and the token that answers it, the challenge
of an authentication and the token that is signed for it, and the key of both. A handler checks
the length of its command once and then reads and writes the message at the fixed places of its
fields; an embedded size it takes as it stands.
-/

namespace Fpc

open Wire Wire.Outcome

/-- `HW_AUTH_CHALLENGE_LIFETIME`, ten minutes. -/
def hwAuthChallengeLifetime : UInt64 := 1000 * 60 * 10

/-- `fpc_crypto_memcmp` -/
def fpcCryptoMemcmp (mem1 mem2 : List UInt8) : UInt8 :=
  (mem1.zip mem2).foldl (fun mtch b => mtch ||| (b.1 ^^^ b.2)) 0

/-- `fpc_check_token_integrity` -/
def fpcCheckTokenIntegrity (P : Platform) (env : Env) (ta : HwAuthTa) (token : Token) : Int :=
  if token.version ≠ 0 then -fpcErrorInput
  else if !ta.hmacKeyInitialized then -fpcErrorInput
  else
    let (status, hmac) := fpcHmacSha256 P env token.signedBytes ta.hmacKey
    if status ≠ 0 then -fpcErrorIo
    else if fpcCryptoMemcmp hmac.toList token.hmac.toList ≠ 0 then -fpcErrorInput
    else 0

/-- `validate_incoming_token`. A challenge that has expired is forgotten. -/
def validateIncomingToken (P : Platform) (env : Env) (ta : HwAuthTa) : Int × HwAuthTa :=
  if !ta.hmacKeyInitialized then (-fpcErrorInput, ta)
  else if ta.outgoingChallenge = 0 then (-fpcErrorInput, ta)
  else if ta.incomingToken.challenge ≠ ta.outgoingChallenge then (-fpcErrorInput, ta)
  else
    let challengeAge := env.uptime - ta.outgoingTimestamp
    if challengeAge > hwAuthChallengeLifetime then
      (-fpcErrorTimedout, { ta with outgoingChallenge := 0 })
    else (fpcCheckTokenIntegrity P env ta ta.incomingToken, ta)

/-- `fpc_enrollment_allowed`: the user to enrol for. -/
def fpcEnrollmentAllowed (P : Platform) (env : Env) (ta : HwAuthTa) :
    Option UInt64 × HwAuthTa :=
  let (status, ta) := validateIncomingToken P env ta
  if status ≠ 0 then (none, ta) else (some ta.incomingToken.userId, ta)

/-- The loop that draws a challenge other than 0, with the retries left: the status of the last
draw and the challenge. -/
def drawChallenge (env : Env) : (retries draw : Nat) → Int32 × UInt64
  | 0, draw => env.secureRandom draw
  | retries + 1, draw =>
      if (env.secureRandom draw).2 = 0 then drawChallenge env retries (draw + 1)
      else env.secureRandom draw

/-- `get_enrol_challenge`: its status, the challenge and the state. -/
def getEnrolChallenge (env : Env) (ta : HwAuthTa) : Int × UInt64 × HwAuthTa :=
  let ta := { ta with outgoingChallenge := 0 }
  let (status, challenge) := drawChallenge env 5 0
  if status ≠ 0 then (status.toInt, challenge, ta)
  else if challenge = 0 then (-fpcErrorNotInitialized, challenge, ta)
  else
    (0, challenge,
      { ta with outgoingTimestamp := env.uptime, outgoingChallenge := challenge })

/-- `authorize_enrol`, with the token in the message. -/
def authorizeEnrol (P : Platform) (env : Env) (ta : HwAuthTa) (msg : List UInt8)
    (sizeToken : Nat) : Outcome (Int × HwAuthTa) :=
  if sizeToken < sizeofToken then .ok (-fpcErrorInput, ta)
  else do
    let bytes ← loadSpan msg offArray sizeofToken
    .ok (validateIncomingToken P env { ta with incomingToken := Token.ofBytes bytes })

/-- `set_auth_challenge` -/
def setAuthChallenge (ta : Ta) (challenge : UInt64) : Int × Ta :=
  (0, { ta with
    bio := { ta.bio with matchResult := fpcMatchResultReset },
    hwAuth := { ta.hwAuth with incomingChallenge := challenge } })

/-- The token that `get_auth_result` fills in, with an HMAC. -/
def authToken (ta : Ta) (secureUserId dbId : UInt64) (hmac : Vector UInt8 32) : Token :=
  { version := 0, challenge := ta.hwAuth.incomingChallenge, userId := secureUserId,
    authenticatorId := dbId, authenticatorType := swapBytes32 ((1 : UInt32) <<< 1),
    timestamp := swapBytes64 ta.bio.matchResult.timestamp, hmac := hmac }

/-- The user id that goes into a token. It stays 0 when the lookup fails. -/
def tokenUserId (ta : Ta) (templateIndex : Nat) : UInt64 :=
  match fpcDbGetSecureUserId ta.bio.userDb ta.bio.activeSetKey templateIndex with
  | .ok userId => userId
  | .error _ => 0

/-- `get_auth_result`, with the token in the message: its status and the message. -/
def getAuthResult (P : Platform) (env : Env) (ta : Ta) (msg : List UInt8) (sizeToken : Nat) :
    Outcome (Int × List UInt8) :=
  if sizeToken < sizeofToken then .ok (-fpcErrorInput, msg)
  else
    match fpcDbGetIndexOfId32 ta.bio.userDb ta.bio.matchResult.templateId with
    | .fault f => .fault f
    | .err _ => .ok (-fpcErrorInput, msg)
    | .ok templateIndex =>
        let secureUserId := tokenUserId ta templateIndex
        match fpcDbGetDatabaseId ta.bio.userDb with
        | .error _ => .ok (-fpcErrorInput, msg)
        | .ok dbId => do
            let token := authToken ta secureUserId dbId (Vector.replicate 32 0)
            let msg ← storeSpan msg offArray token.signedBytes
            let data ← loadSpan msg offArray (sizeofToken - sizeofHmac)
            let (status, hmac) := fpcHmacSha256 P env data ta.hwAuth.hmacKey
            let msg ← storeSpan msg (offArray + (sizeofToken - sizeofHmac)) hmac.toList
            if status ≠ 0 then .ok (-fpcErrorIo, msg) else .ok (0, msg)

/-- `set_shared_key`. The key service writes the key in place, also when it fails. -/
def setSharedKey (env : Env) (ta : HwAuthTa) : Int × HwAuthTa :=
  let (status, key) := env.unwrapKey
  let ta := { ta with
    hmacKeyInitialized := false,
    hmacKey := ofList 32 0 (overFront ta.hmacKey.toList key) }
  if status ≠ 0 then (status.toInt, ta) else (0, { ta with hmacKeyInitialized := true })

/-- `fpc_ta_hw_has_challenge` -/
def fpcTaHwHasChallenge (ta : HwAuthTa) : Bool := ta.incomingChallenge != 0

/-- The commands of the module. -/
inductive HwAuthCmd where
  | setAuthChallenge
  | getEnrolChallenge
  | authorizeEnrol
  | getAuthResult
  | setSharedKey
  deriving DecidableEq, Repr

def HwAuthCmd.ofWord (command : UInt32) : Option HwAuthCmd :=
  if command = 1 then some .setAuthChallenge
  else if command = 2 then some .getEnrolChallenge
  else if command = 3 then some .authorizeEnrol
  else if command = 4 then some .getAuthResult
  else if command = 5 then some .setSharedKey
  else none

/-- `sizeof(fpc_ta_hw_auth_command_t)` -/
def sizeofHwAuthCommand : Nat := 24

/-- The switch of `fpc_ta_hw_auth_handler`. -/
def hwAuthSwitch (P : Platform) (env : Env) (ta : Ta) (msg : List UInt8) :
    HwAuthCmd → Outcome Handled
  | .setAuthChallenge => do
      let challenge ← load64 msg offChallenge
      let (response, ta) := setAuthChallenge ta challenge
      let msg ← store32 msg offChallengeResponse (ofInt32 response)
      .ok { ta := ta, msg := msg, status := 0 }
  | .getEnrolChallenge => do
      let (response, challenge, hwAuth) := getEnrolChallenge env ta.hwAuth
      let msg ← store64 msg offChallenge challenge
      let msg ← store32 msg offChallengeResponse (ofInt32 response)
      .ok { ta := { ta with hwAuth := hwAuth }, msg := msg, status := 0 }
  | .authorizeEnrol => do
      let size ← load32 msg offSize
      let (response, hwAuth) ← authorizeEnrol P env ta.hwAuth msg size.toNat
      let msg ← store32 msg offResponse (ofInt32 response)
      .ok { ta := { ta with hwAuth := hwAuth }, msg := msg, status := 0 }
  | .getAuthResult => do
      let size ← load32 msg offSize
      let (response, msg) ← getAuthResult P env ta msg size.toNat
      let msg ← store32 msg offResponse (ofInt32 response)
      .ok { ta := ta, msg := msg, status := 0 }
  | .setSharedKey => do
      -- the size goes to the key service, which on this platform looks at neither argument
      let _ ← load32 msg offSize
      let (response, hwAuth) := setSharedKey env ta.hwAuth
      let msg ← store32 msg offResponse (ofInt32 response)
      .ok { ta := { ta with hwAuth := hwAuth }, msg := msg, status := 0 }

/-- `fpc_ta_hw_auth_handler` -/
def fpcTaHwAuthHandler (P : Platform) (env : Env) (ta : Ta) (msg : List UInt8) :
    Outcome Handled :=
  handleCommand sizeofHwAuthCommand HwAuthCmd.ofWord (hwAuthSwitch P env ta msg) ta msg

/-- The command of a message that the handler takes up. -/
def hwAuthCmd : List UInt8 → Option HwAuthCmd := commandIn sizeofHwAuthCommand HwAuthCmd.ofWord

/-! ## What a token check establishes -/

/-- Or-ing differences into an accumulator. Induction on the strings. -/
theorem foldl_differences {mem1 mem2 : List UInt8} (h : mem1.length = mem2.length) (acc : UInt8) :
    (mem1.zip mem2).foldl (fun mtch b => mtch ||| (b.1 ^^^ b.2)) acc = 0
      ↔ acc = 0 ∧ mem1 = mem2 := by
  induction mem1 generalizing mem2 acc with
  | nil =>
    cases mem2 with
    | nil => simp
    | cons b mem2 => cases h
  | cons a mem1 ih =>
    cases mem2 with
    | nil => cases h
    | cons b mem2 =>
      rw [List.zip_cons_cons, List.foldl_cons, ih (Nat.succ.inj h), UInt8.or_eq_zero_iff,
        UInt8.xor_eq_zero_iff, List.cons.injEq, and_assoc]

/-- The comparison finds no difference exactly between equal strings. -/
theorem fpcCryptoMemcmp_eq_zero {mem1 mem2 : List UInt8} (h : mem1.length = mem2.length) :
    fpcCryptoMemcmp mem1 mem2 = 0 ↔ mem1 = mem2 := by
  rw [fpcCryptoMemcmp, foldl_differences h]
  exact and_iff_right rfl

/-- A token that passes has version 0 and the HMAC of its bytes under the key. -/
theorem fpcCheckTokenIntegrity_zero {P : Platform} {env : Env} {ta : HwAuthTa} {token : Token}
    (h : fpcCheckTokenIntegrity P env ta token = 0) :
    token.version = 0 ∧ token.hmac = P.hmacSha256 token.signedBytes ta.hmacKey := by
  unfold fpcCheckTokenIntegrity at h
  split at h
  · cases h
  · next hversion =>
    split at h
    · cases h
    · dsimp only at h
      split at h
      · cases h
      · next hstatus =>
        rw [fpcHmacSha256_ok (not_not.mp hstatus)] at h
        split at h
        · cases h
        · next hmemcmp =>
          have heq := (fpcCryptoMemcmp_eq_zero (by simp)).mp (not_not.mp hmemcmp)
          exact ⟨not_not.mp hversion, (Vector.toList_inj.mp heq).symm⟩

/-- Without a key no token passes. -/
theorem fpcCheckTokenIntegrity_keyed {P : Platform} {env : Env} {ta : HwAuthTa} {token : Token}
    (h : fpcCheckTokenIntegrity P env ta token = 0) : ta.hmacKeyInitialized = true := by
  unfold fpcCheckTokenIntegrity at h
  split at h
  · cases h
  · split at h
    · cases h
    · next hkey => simpa using hkey

/-- And such a token passes, when the key is there and the HMAC can be computed. -/
theorem fpcCheckTokenIntegrity_of_hmac {P : Platform} {env : Env} {ta : HwAuthTa} {token : Token}
    (hversion : token.version = 0) (hkey : ta.hmacKeyInitialized = true)
    (hstatus : env.hmacStatus = 0)
    (hhmac : token.hmac = P.hmacSha256 token.signedBytes ta.hmacKey) :
    fpcCheckTokenIntegrity P env ta token = 0 := by
  have hcomputed : fpcHmacSha256 P env token.signedBytes ta.hmacKey = (0, token.hmac) := by
    rw [fpcHmacSha256, if_pos hstatus, hhmac]
  have hequal : fpcCryptoMemcmp token.hmac.toList token.hmac.toList = 0 :=
    (fpcCryptoMemcmp_eq_zero rfl).mpr rfl
  unfold fpcCheckTokenIntegrity
  rw [if_neg (not_not.mpr hversion), hkey, if_neg (by decide), hcomputed]
  dsimp only
  rw [if_neg (not_not.mpr rfl), hequal, if_neg (not_not.mpr rfl)]

/-- What holds when a stored token is found valid: the key is there, the token answers the
challenge that is out and in time, and it is signed under the key. -/
structure TokenValid (P : Platform) (env : Env) (ta : HwAuthTa) : Prop where
  key : ta.hmacKeyInitialized = true
  challenge_ne_zero : ta.outgoingChallenge ≠ 0
  challenge : ta.incomingToken.challenge = ta.outgoingChallenge
  age : env.uptime - ta.outgoingTimestamp ≤ hwAuthChallengeLifetime
  version : ta.incomingToken.version = 0
  hmac : ta.incomingToken.hmac = P.hmacSha256 ta.incomingToken.signedBytes ta.hmacKey

theorem validateIncomingToken_zero {P : Platform} {env : Env} {ta : HwAuthTa}
    (h : (validateIncomingToken P env ta).1 = 0) : TokenValid P env ta := by
  unfold validateIncomingToken at h
  split at h
  · cases h
  · next hkey =>
    split at h
    · cases h
    · next hzero =>
      split at h
      · cases h
      · next hchallenge =>
        dsimp only at h
        split at h
        · cases h
        · next hage =>
          obtain ⟨hversion, hhmac⟩ := fpcCheckTokenIntegrity_zero h
          exact { key := by simpa using hkey
                  challenge_ne_zero := hzero
                  challenge := not_not.mp hchallenge
                  age := UInt64.not_lt.mp hage
                  version := hversion
                  hmac := hhmac }

/-- A check changes nothing, or it forgets a challenge that has expired. -/
theorem validateIncomingToken_state (P : Platform) (env : Env) (ta : HwAuthTa) :
    (validateIncomingToken P env ta).2 = ta ∨
      (validateIncomingToken P env ta).2 = { ta with outgoingChallenge := 0 } := by
  unfold validateIncomingToken
  dsimp only
  split
  · exact Or.inl rfl
  · split
    · exact Or.inl rfl
    · split
      · exact Or.inl rfl
      · split
        · exact Or.inr rfl
        · exact Or.inl rfl

/-- Enrolment is allowed for the user of a token that is valid. -/
theorem fpcEnrollmentAllowed_some {P : Platform} {env : Env} {ta : HwAuthTa} {user : UInt64}
    (h : (fpcEnrollmentAllowed P env ta).1 = some user) :
    TokenValid P env ta ∧ user = ta.incomingToken.userId := by
  unfold fpcEnrollmentAllowed at h
  dsimp only at h
  split at h
  · cases h
  · next hstatus =>
    have hvalid := validateIncomingToken_zero (not_not.mp hstatus)
    refine ⟨hvalid, ?_⟩
    injection h with h
    rw [← h]
    cases validateIncomingToken_state P env ta with
    | inl heq => rw [heq]
    | inr heq => rw [heq]

/-! ## Challenges -/

theorem getEnrolChallenge_zero {env : Env} {ta : HwAuthTa}
    (h : (getEnrolChallenge env ta).1 = 0) :
    (getEnrolChallenge env ta).2.1 ≠ 0 ∧
      (getEnrolChallenge env ta).2.2 = { ta with
        outgoingTimestamp := env.uptime,
        outgoingChallenge := (getEnrolChallenge env ta).2.1 } := by
  unfold getEnrolChallenge at h ⊢
  dsimp only at h ⊢
  split at h
  · next hstatus => exact absurd (Int32.toInt_inj.mp h) hstatus
  · split at h
    · cases h
    · next hstatus hzero =>
      rw [if_neg hstatus, if_neg hzero]
      exact ⟨hzero, rfl⟩

/-- A request for a challenge that fails leaves none. -/
theorem getEnrolChallenge_ne_zero {env : Env} {ta : HwAuthTa}
    (h : (getEnrolChallenge env ta).1 ≠ 0) :
    (getEnrolChallenge env ta).2.2 = { ta with outgoingChallenge := 0 } := by
  unfold getEnrolChallenge at h ⊢
  dsimp only at h ⊢
  split
  · rfl
  · split
    · rfl
    · next hstatus hzero =>
      rw [if_neg hstatus, if_neg hzero] at h
      exact absurd rfl h

/-! ## What the handler does -/

section

variable {P : Platform} {env : Env} {ta : Ta} {msg : List UInt8}

theorem hwAuthSwitch_setAuthChallenge (hlen : sizeofHwAuthCommand ≤ msg.length) :
    hwAuthSwitch P env ta msg .setAuthChallenge
      = .ok { ta := (setAuthChallenge ta (field64 msg offChallenge)).2,
              msg := put32 msg offChallengeResponse (ofInt32 0), status := 0 } := by
  unfold sizeofHwAuthCommand at hlen
  rw [hwAuthSwitch, load64_eq (by unfold offChallenge; omega), ok_bind]
  dsimp only [setAuthChallenge]
  rw [store32_eq (by unfold offChallengeResponse; omega), ok_bind]

theorem hwAuthSwitch_getEnrolChallenge (hlen : sizeofHwAuthCommand ≤ msg.length) :
    hwAuthSwitch P env ta msg .getEnrolChallenge
      = .ok { ta := { ta with hwAuth := (getEnrolChallenge env ta.hwAuth).2.2 },
              msg := put32 (put64 msg offChallenge (getEnrolChallenge env ta.hwAuth).2.1)
                offChallengeResponse (ofInt32 (getEnrolChallenge env ta.hwAuth).1),
              status := 0 } := by
  unfold sizeofHwAuthCommand at hlen
  rw [hwAuthSwitch]
  dsimp only
  rw [store64_eq (by unfold offChallenge; omega), ok_bind,
    store32_eq (by rw [length_put64 (by unfold offChallenge; omega)]; unfold offChallengeResponse; omega),
    ok_bind]

theorem hwAuthSwitch_setSharedKey (hlen : sizeofHwAuthCommand ≤ msg.length) :
    hwAuthSwitch P env ta msg .setSharedKey
      = .ok { ta := { ta with hwAuth := (setSharedKey env ta.hwAuth).2 },
              msg := put32 msg offResponse (ofInt32 (setSharedKey env ta.hwAuth).1),
              status := 0 } := by
  unfold sizeofHwAuthCommand at hlen
  rw [hwAuthSwitch, load32_eq (by unfold offSize; omega), ok_bind]
  dsimp only
  rw [store32_eq (by unfold offResponse; omega), ok_bind]

/-- The token in a message. -/
def messageToken (msg : List UInt8) : Token := Token.ofBytes (slice msg offArray sizeofToken)

/-- A token that is large enough by its size field is taken in before it is looked at. -/
theorem hwAuthSwitch_authorizeEnrol {r : Handled} (hlen : sizeofHwAuthCommand ≤ msg.length)
    (h : hwAuthSwitch P env ta msg .authorizeEnrol = .ok r) :
    if (field32 msg offSize).toNat < sizeofToken then r.ta = ta
    else r.ta = { ta with hwAuth :=
      (validateIncomingToken P env { ta.hwAuth with incomingToken := messageToken msg }).2 } := by
  unfold sizeofHwAuthCommand at hlen
  rw [hwAuthSwitch, load32_eq (by unfold offSize; omega), ok_bind, authorizeEnrol] at h
  split
  · next hsize =>
    rw [if_pos hsize, ok_bind] at h
    obtain ⟨_, _, h⟩ := bind_eq_ok.mp h
    cases h
    rfl
  · next hsize =>
    rw [if_neg hsize] at h
    obtain ⟨pair, hpair, h⟩ := bind_eq_ok.mp h
    obtain ⟨bytes, hspan, hvalidate⟩ := bind_eq_ok.mp hpair
    obtain ⟨_, _, h⟩ := bind_eq_ok.mp h
    rw [loadSpan_ok hspan] at hvalidate
    cases hvalidate
    cases h
    rfl

theorem hwAuthSwitch_getAuthResult {r : Handled}
    (h : hwAuthSwitch P env ta msg .getAuthResult = .ok r) : r.ta = ta := by
  rw [hwAuthSwitch] at h
  obtain ⟨_, _, h⟩ := bind_eq_ok.mp h
  obtain ⟨_, _, h⟩ := bind_eq_ok.mp h
  obtain ⟨_, _, h⟩ := bind_eq_ok.mp h
  cases h
  rfl

/-- A token is signed when the finger of the match result and the database id are found. It carries
the challenge and the time of the match, and its HMAC is computed under the key there is. -/
theorem getAuthResult_zero {msg' : List UInt8} {size : Nat}
    (h : getAuthResult P env ta msg size = .ok (0, msg')) :
    ∃ templateIndex dbId,
      fpcDbGetIndexOfId32 ta.bio.userDb ta.bio.matchResult.templateId = .ok templateIndex ∧
      fpcDbGetDatabaseId ta.bio.userDb = .ok dbId ∧
      msg'.length = msg.length ∧
      messageToken msg' = authToken ta (tokenUserId ta templateIndex) dbId
        (P.hmacSha256 (messageToken msg').signedBytes ta.hwAuth.hmacKey) := by
  unfold getAuthResult at h
  split at h
  · cases h
  · split at h
    · cases h
    · cases h
    · next templateIndex hindex =>
      dsimp only at h
      split at h
      · cases h
      · next dbId hdb =>
        obtain ⟨msg1, hstore1, h⟩ := bind_eq_ok.mp h
        obtain ⟨data, hload, h⟩ := bind_eq_ok.mp h
        obtain ⟨msg2, hstore2, h⟩ := bind_eq_ok.mp h
        refine ⟨templateIndex, dbId, hindex, hdb, ?_⟩
        have hstatus : (fpcHmacSha256 P env data ta.hwAuth.hmacKey).1 = 0 ∧ msg2 = msg' := by
          split at h
          · cases h
          · next hne =>
            cases h
            exact ⟨not_not.mp hne, rfl⟩
        obtain ⟨hhmac, rfl⟩ := hstatus
        -- the two stores lay the packed token over the message
        let token := authToken ta (tokenUserId ta templateIndex) dbId (Vector.replicate 32 0)
        obtain ⟨hin1, rfl⟩ := storeSpan_ok hstore1 (by simp)
        rw [fpcHmacSha256_ok hhmac] at hstore2
        obtain ⟨hin2, rfl⟩ := storeSpan_ok hstore2 (by simp)
        have hdata : data = token.signedBytes := by
          rw [loadSpan_ok hload]
          exact slice_overlay (by omega)
        let signed := authToken ta (tokenUserId ta templateIndex) dbId
          (P.hmacSha256 token.signedBytes ta.hwAuth.hmacKey)
        have hbytes : overlay (overlay msg offArray token.signedBytes)
            (offArray + (sizeofToken - sizeofHmac))
            (P.hmacSha256 data ta.hwAuth.hmacKey).toList = overlay msg offArray signed.bytes := by
          rw [hdata]
          exact overlay_overlay hin1
        have hlen : offArray + signed.bytes.length ≤ msg.length := by
          rw [length_overlay hin1] at hin2
          simpa [offArray, sizeofToken, sizeofHmac] using hin2
        have htoken : messageToken (overlay msg offArray signed.bytes) = signed := by
          have hslice : slice (overlay msg offArray signed.bytes) offArray sizeofToken
              = signed.bytes := by
            have hover := @slice_overlay msg offArray signed.bytes (by omega)
            rwa [Token.length_bytes] at hover
          rw [messageToken, hslice, Token.ofBytes_bytes]
        rw [hbytes, htoken]
        exact ⟨length_overlay hlen, rfl⟩

/-- What a command of the module can do to the state. -/
inductive HwAuthEffect (P : Platform) (env : Env) (ta : Ta) (msg : List UInt8) : Ta → Prop
  | none : HwAuthEffect P env ta msg ta
  | setAuthChallenge (hcmd : hwAuthCmd msg = some .setAuthChallenge) :
      HwAuthEffect P env ta msg (setAuthChallenge ta (field64 msg offChallenge)).2
  | getEnrolChallenge (hcmd : hwAuthCmd msg = some .getEnrolChallenge) :
      HwAuthEffect P env ta msg { ta with hwAuth := (getEnrolChallenge env ta.hwAuth).2.2 }
  | authorizeEnrol (hcmd : hwAuthCmd msg = some .authorizeEnrol)
      (hsize : sizeofToken ≤ (field32 msg offSize).toNat) :
      HwAuthEffect P env ta msg { ta with hwAuth :=
        (validateIncomingToken P env { ta.hwAuth with incomingToken := messageToken msg }).2 }
  | setSharedKey (hcmd : hwAuthCmd msg = some .setSharedKey) :
      HwAuthEffect P env ta msg { ta with hwAuth := (setSharedKey env ta.hwAuth).2 }

/-- Every run of the handler has one of these effects. -/
theorem fpcTaHwAuthHandler_effect {r : Handled} (h : fpcTaHwAuthHandler P env ta msg = .ok r) :
    HwAuthEffect P env ta msg r.ta := by
  cases hcmd : hwAuthCmd msg with
  | none =>
    rw [fpcTaHwAuthHandler, handleCommand_of_none ta (by decide) hcmd] at h
    cases h
    exact .none
  | some cmd =>
    rw [fpcTaHwAuthHandler, handleCommand_of_some ta (by decide) hcmd] at h
    have hlen := le_length_of_commandIn hcmd
    cases cmd with
    | setAuthChallenge =>
      rw [hwAuthSwitch_setAuthChallenge hlen] at h
      cases h
      exact .setAuthChallenge hcmd
    | getEnrolChallenge =>
      rw [hwAuthSwitch_getEnrolChallenge hlen] at h
      cases h
      exact .getEnrolChallenge hcmd
    | authorizeEnrol =>
      have htaken := hwAuthSwitch_authorizeEnrol hlen h
      split at htaken
      · rw [htaken]
        exact .none
      · next hsize =>
        rw [htaken]
        exact .authorizeEnrol hcmd (Nat.le_of_not_lt hsize)
    | getAuthResult =>
      rw [hwAuthSwitch_getAuthResult h]
      exact .none
    | setSharedKey =>
      rw [hwAuthSwitch_setSharedKey hlen] at h
      cases h
      exact .setSharedKey hcmd

end

end Fpc
