import Fingerprints.Hal.Groups
import Fingerprints.Tac.DbViews
import Fingerprints.Tac.Tokens

/-!
# What an authentication tells the framework

`fpc_authenticate` from the framework to the matcher and back. The task sets the challenge of the operation,
lets the application identify images until one matches, asks for the token and hands it to the framework
with the id of the finger.

* **`fpcTeeIdentify_matched`**: an id other than 0 is that of a finger that the matcher reported, and the
  match is recorded in the application;
* **`Attempting`**: what holds between the images of a session;
* **`authenticate_reports`**: so in every run of the device each report of a match carries a token that was
  signed for it: for the challenge of the operation, under the key of the application, with the user that
  was enrolled with the finger and the id of the database that holds it.
-/

namespace Fpc

open Wire Wire.Outcome Runs

section

variable {P : Platform} {m : Meets P} {hal hal' pre : Hal} {operationId : UInt64} {status : Int}

/-! ## The application -/

/-- What a bio command other than the end of an enrolment and the loading of a database leaves. -/
structure Tee.Asked (tee tee' : Tee) : Prop where
  kept : tee.Kept tee'
  hwAuth : tee'.ta.hwAuth = tee.ta.hwAuth
  records : ∀ record, Records tee'.ta.bio.userDb record → Records tee.ta.bio.userDb record

theorem BioCommanded.asked {tac : Tac} {env : Env} {cmd : BioCmd} {tee tee' : Tee} {answer : UInt32}
    (h : BioCommanded P tac env cmd tee.ta answer status tee') (hkept : tee.Kept tee')
    (hcmd : cmd ≠ .endEnrol) : tee.Asked tee' := by
  cases h with
  | lost _ _ hta => exact ⟨hkept, by rw [hta], fun record hrecord => by rwa [hta] at hrecord⟩
  | answered _ _ reply hswitch _ hta _ _ _ =>
    refine ⟨hkept, ?_, fun record hrecord => ?_⟩
    · obtain ⟨bio, hbio | ⟨hend, _⟩⟩ := bioSwitch_frame hswitch
      · rw [hta, hbio]
      · exact absurd hend hcmd
    · rw [hta] at hrecord
      exact records_bioSwitch hswitch hcmd hrecord

/-- The application has a set of fingers under the active key, and the match of a finger of it is
recorded. -/
structure Matched (env : Env) (ta ta' : Ta) (id : UInt32) : Prop where
  matcher : ∃ liveness, (env.algo.identify liveness).2.result = fpcAlgoIdentifyMatch
  finger : ∃ f, Enrolled ta.bio.userDb f ∧ fpcDbTrimId32 f.fingerprintId = id
  set : ∃ set, fpcDbGetSet ta'.bio.userDb ta'.bio.activeSetKey = .ok set
  recorded : ta'.bio.matchResult.templateId = id

/-- The finger that is put in front stays in the set that it was found in. -/
theorem fpcDbSetTemplateFirst_set {pDb : Option FingerprintDatabase} {key : UInt32} {i : Nat}
    {db : FingerprintDatabase} {set : FingerprintSet} (hset : fpcDbGetSet pDb key = .ok set)
    (h : fpcDbSetTemplateFirst pDb i = .ok db) : ∃ set', fpcDbGetSet (some db) key = .ok set' := by
  obtain ⟨db, rfl, hdb, hkey⟩ := fpcDbGetSet_ok hset
  obtain ⟨_, set', _, hsame, hset', rfl⟩ := fpcDbSetTemplateFirst_ok h
  cases hsame
  rw [hdb] at hset'
  cases hset'
  exact ⟨_, if_neg (not_not.mpr hkey)⟩

theorem fpcTaBioIdentify_matched {env : Env} {ta : Ta} {identified : Identified}
    (h : fpcTaBioIdentify P env ta = .ok identified) (hstatus : identified.status = 0)
    (hid : identified.id ≠ 0) : Matched env ta { ta with bio := identified.bio } identified.id := by
  cases fpcTaBioIdentify_cases h with
  | failed _ _ _ hne _ _ => exact absurd hstatus hne
  | missed _ => exact absurd rfl hid
  | matched _ hdata hresult hrecorded =>
    cases hrecorded with
    | failed _ herror _ => exact absurd hstatus herror.ne_zero
    | found _ hindex hfinger hfront =>
      obtain ⟨f, hslot, hvalid, _⟩ := firstIndex_ok hindex
      have hsame := (getFinger_ok hfinger).1
      rw [hslot] at hsame
      cases hsame
      obtain ⟨set, hset⟩ := getFinger_set hfinger
      exact { matcher := ⟨_, by rw [hdata]; exact hresult⟩
              finger := ⟨_, ⟨List.mem_of_getElem? hslot, hvalid⟩, rfl⟩
              set := fpcDbSetTemplateFirst_set hset hfront
              recorded := rfl }

/-- A status of an identification is a word, and one that is 0 comes with statistics. -/
theorem fpcTaBioIdentify_status {env : Env} {ta : Ta} {identified : Identified}
    (h : fpcTaBioIdentify P env ta = .ok identified) :
    FitsInt identified.status ∧ (identified.status = 0 → identified.statistics ≠ none) := by
  cases fpcTaBioIdentify_cases h with
  | failed _ _ _ hne hfits _ => exact ⟨hfits, fun hzero => absurd hzero hne⟩
  | missed _ => exact ⟨(by decide : FitsInt 0), fun _ => Option.some_ne_none _⟩
  | matched _ _ _ hrecorded =>
    cases hrecorded with
    | failed _ herror _ => exact ⟨herror.fitsInt, fun hzero => absurd hzero herror.ne_zero⟩
    | found _ _ _ _ => exact ⟨(by decide : FitsInt 0), fun _ => Option.some_ne_none _⟩

/-- **An id other than 0 is that of a finger that was matched.** -/
theorem fpcTeeIdentify_matched {tee tee' : Tee} {id : Option UInt32}
    (hbuffer : sizeofBioCommand ≤ tee.sharedBuffer.length)
    (h : fpcTeeIdentify (m.tacOf tee) m.envs tee = .ok (status, id, tee')) (hid : id.getD 0 ≠ 0) :
    Matched (m.envs tee.messages) tee.ta tee'.ta (id.getD 0) := by
  have hcmd : BioCmd.ofWord fpcTaBioIdentifyCmd = some .identify := by decide
  obtain ⟨hcommanded, hzero, hne, _⟩ := bioAnswer_commanded (m.reaches _) hbuffer hcmd h
  have hstatus : status = 0 := by
    by_contra hfailed
    rw [hne hfailed] at hid
    exact hid rfl
  rw [hzero hstatus, Option.getD_some] at hid ⊢
  cases hcommanded with
  | lost _ hlost _ => exact absurd hlost (by rw [hstatus]; decide)
  | answered _ msg reply hswitch hresponse hta _ hanswer _ =>
    rw [hanswer] at hid ⊢
    rw [hta]
    obtain ⟨identified, hidentify, hswitch⟩ := bind_eq_ok.mp hswitch
    obtain ⟨hfits, hsome⟩ := fpcTaBioIdentify_status hidentify
    cases hstatistics : identified.statistics with
    | none =>
      rw [hstatistics] at hswitch
      cases hswitch
      rw [toInt32_ofInt32 hfits, hstatus] at hresponse
      exact absurd hstatistics (hsome hresponse.symm)
    | some statistics =>
      rw [hstatistics] at hswitch
      obtain ⟨stored, _, hswitch⟩ := bind_eq_ok.mp hswitch
      cases hswitch
      rw [toInt32_ofInt32 hfits, hstatus] at hresponse
      exact fpcTaBioIdentify_matched hidentify hresponse.symm hid

/-! ## A session -/

/-- A report of a match that the framework may rely on. -/
structure Authenticated (m : Meets P) (pre : Hal) (operationId : UInt64) (fid : UInt32)
    (token : List UInt8) : Prop where
  matcher : ∃ n liveness, ((m.envs n).algo.identify liveness).2.result = fpcAlgoIdentifyMatch
  length : token.length = sizeofHat
  version : (Token.ofBytes token).version = 0
  challenge : (Token.ofBytes token).challenge = operationId
  user : ∃ id, Records pre.userDb (id, (Token.ofBytes token).userId) ∧ fpcDbTrimId32 id = fid
  authenticator : databaseIdOf pre.userDb = some (Token.ofBytes token).authenticatorId
  hmac : (Token.ofBytes token).hmac =
    P.hmacSha256 (Token.ofBytes token).signedBytes pre.tee.ta.hwAuth.hmacKey

/-- What was reported since the call is of this kind. -/
def Told (m : Meets P) (pre : Hal) (operationId : UInt64) (hal : Hal) : Prop :=
  ∃ told, hal.callbacks = told ++ pre.callbacks ∧ ∀ fid gid token,
    .onAuthenticated fid gid token ∈ told → fid ≠ 0 →
      gid = pre.currentGid ∧ Authenticated m pre operationId fid token

/-- What holds between the images of a session. -/
structure Attempting (m : Meets P) (pre : Hal) (operationId : UInt64) (hal : Hal) : Prop where
  buffer : sizeofBioCommand ≤ hal.tee.sharedBuffer.length
  currentGid : hal.currentGid = pre.currentGid
  challenge : hal.tee.ta.hwAuth.incomingChallenge = operationId
  key : hal.tee.ta.hwAuth.hmacKey = pre.tee.ta.hwAuth.hmacKey
  records : ∀ record, Records hal.userDb record → Records pre.userDb record
  databaseId : databaseIdOf hal.userDb = databaseIdOf pre.userDb
  told : Told m pre operationId hal

theorem Told.callback (h : Told m pre operationId hal) {c : Callback}
    (hc : ∀ fid gid token, c = .onAuthenticated fid gid token → fid ≠ 0 →
      gid = pre.currentGid ∧ Authenticated m pre operationId fid token) :
    Told m pre operationId (hal.callback c) := by
  obtain ⟨told, hcallbacks, htold⟩ := h
  refine ⟨c :: told, congrArg (c :: ·) hcallbacks, fun fid gid token hmem hne => ?_⟩
  obtain hlatest | hearlier := List.mem_cons.mp hmem
  · exact hc fid gid token hlatest.symm hne
  · exact htold fid gid token hearlier hne

/-- A callback that reports no match. -/
theorem Attempting.callback (h : Attempting m pre operationId hal) {c : Callback}
    (hc : ∀ fid gid token, c = .onAuthenticated fid gid token → fid = 0) :
    Attempting m pre operationId (hal.callback c) :=
  { h with told := h.told.callback fun fid gid token heq hne => absurd (hc fid gid token heq) hne }

theorem Attempting.asked {tee : Tee} (h : Attempting m pre operationId hal) (hasked : hal.tee.Asked tee) :
    Attempting m pre operationId (hal.withTee tee) :=
  { h with
    buffer := hasked.kept.buffer.symm ▸ h.buffer
    challenge := (congrArg HwAuthTa.incomingChallenge hasked.hwAuth).trans h.challenge
    key := (congrArg HwAuthTa.hmacKey hasked.hwAuth).trans h.key
    records := fun record hrecord => h.records record (hasked.records record hrecord)
    databaseId := hasked.kept.ids.databaseId.trans h.databaseId }

theorem Attempting.stored (h : Attempting m pre operationId hal) (n : Nat) :
    Attempting m pre operationId (storeTemplateDb m hal n).2 := by
  unfold storeTemplateDb
  split
  · exact { h with }
  · exact h

/-- The lookup of a finger by the front of its id. -/
theorem fpcDbGetIndexOfId32_ok {pDb : Option FingerprintDatabase} {id : UInt32} {i : Nat}
    (h : fpcDbGetIndexOfId32 pDb id = .ok i) :
    ∃ f, (slots pDb)[i]? = some f ∧ f.valid = fpcDbEntryValid ∧ fpcDbTrimId32 f.fingerprintId = id := by
  obtain ⟨f, hslot, hvalid, hid⟩ := firstIndex_ok h
  exact ⟨f, hslot, hvalid, beq_iff_eq.mp hid⟩

theorem fpcDbGetDatabaseId_ok {pDb : Option FingerprintDatabase} {id : UInt64}
    (h : fpcDbGetDatabaseId pDb = .ok id) : databaseIdOf pDb = some id := by
  cases pDb with
  | none => cases h
  | some db =>
    cases h
    rfl

theorem Attempting.update {stores stores' : Nat} (h : Attempting m pre operationId hal)
    (hupdate : updateTemplate m hal stores = .ok (status, stores', hal')) :
    Attempting m pre operationId hal' := by
  obtain ⟨⟨updated, update, tee⟩, hcommand, hupdate⟩ := bind_eq_ok.mp hupdate
  have hcmd : BioCmd.ofWord fpcTaBioUpdateTemplateCmd = some .updateTemplate := by decide
  have hcommanded := (bioAnswer_commanded (m.tacOf_reaches _) h.buffer hcmd hcommand).1
  have hasked := h.asked (hcommanded.asked
    (fpcTeeUpdateTemplate_kept (m.tacOf_reaches _) h.buffer hcommand) (by decide))
  dsimp only at hupdate
  split at hupdate
  · cases hupdate
    exact hasked
  · split at hupdate
    · cases hupdate
      exact hasked.stored stores
    · cases hupdate
      exact hasked

/-- **The token that is got for a match is one for it.** -/
theorem Attempting.authenticated {before : Tee} {env : Env} {id : UInt32} {tee : Tee}
    {token : Option (List UInt8)} (h : Attempting m pre operationId hal)
    (hmatched : Matched env before.ta hal.tee.ta id) (henv : ∃ n, env = m.envs n)
    (hget : fpcTeeGetAuthResult (m.tacOf hal.tee) m.envs hal.tee sizeofHat = .ok (0, token, tee)) :
    tee.ta = hal.tee.ta ∧ Authenticated m pre operationId id (token.getD []) := by
  obtain ⟨hta, bytes, index, dbId, rfl, hlength, hindex, hdbId, htoken⟩ :=
    fpcTeeGetAuthResult_signed (m.tacOf_reaches _) hget
  rw [hmatched.recorded] at hindex
  obtain ⟨f, hslot, hvalid, hid⟩ := fpcDbGetIndexOfId32_ok hindex
  obtain ⟨set, hset⟩ := hmatched.set
  have huser : tokenUserId hal.tee.ta index = f.secureUserId := by
    rw [tokenUserId, fpcDbGetSecureUserId_of_slot hset hslot hvalid]
  obtain ⟨n, rfl⟩ := henv
  obtain ⟨liveness, hresult⟩ := hmatched.matcher
  have henrolled : Enrolled hal.userDb f := ⟨List.mem_of_getElem? hslot, hvalid⟩
  refine ⟨hta, ?_⟩
  exact { matcher := ⟨n, liveness, hresult⟩
          length := hlength
          version := by rw [Option.getD_some, htoken]; rfl
          challenge := by rw [Option.getD_some, htoken]; exact h.challenge
          user := by
            refine ⟨f.fingerprintId, ?_, hid⟩
            rw [Option.getD_some, htoken, authToken, huser]
            exact h.records _ henrolled.records
          authenticator := by
            rw [Option.getD_some, htoken, ← h.databaseId]
            exact fpcDbGetDatabaseId_ok hdbId
          hmac := by
            rw [Option.getD_some, ← h.key]
            exact congrArg Token.hmac htoken }

theorem authMatched_told {before : Tee} {env : Env} {id : UInt32} {stores : Nat}
    (h : Attempting m pre operationId hal) (hmatched : Matched env before.ta hal.tee.ta id)
    (henv : ∃ n, env = m.envs n) (hrun : authMatched m hal id stores = .ok (status, hal')) :
    Told m pre operationId hal' := by
  obtain ⟨⟨asked, token, tee⟩, hget, hrun⟩ := bind_eq_ok.mp hrun
  obtain ⟨hsame, hbuffer⟩ := fpcTeeGetAuthResult_frame (m.tacOf_reaches _) hget
  dsimp only at hrun
  split at hrun
  · cases hrun
    exact h.told
  · next hzero =>
    rw [not_not] at hzero
    subst hzero
    obtain ⟨hta, hauthenticated⟩ := h.authenticated hmatched henv hget
    obtain ⟨⟨updated, stores', reported⟩, hupdate, hrun⟩ := bind_eq_ok.mp hrun
    cases hrun
    have hgot : Attempting m pre operationId (hal.withTee tee) :=
      h.asked ⟨Tee.kept_of_sameDb hsame (by rw [hbuffer]), by rw [hta], fun record hrecord => by
        rwa [hta] at hrecord⟩
    have htold : Attempting m pre operationId
        ((hal.withTee tee).callback (.onAuthenticated id hal.currentGid (token.getD []))) :=
      { hgot with
        told := hgot.told.callback fun fid gid bytes heq _ => by
          cases heq
          exact ⟨h.currentGid, hauthenticated⟩ }
    exact (htold.update hupdate).told

/-- The loop over the images. Induction on the answers of the sensor. -/
theorem authImages_told {captures : List Int32} {failedAttempts stores : Nat}
    (h : Attempting m pre operationId hal)
    (hrun : authImages m captures failedAttempts stores hal = .ok (some (status, hal'))) :
    Told m pre operationId hal' := by
  induction captures generalizing hal failedAttempts stores with
  | nil => cases hrun
  | cons captured rest ih =>
    have hmissed : ∀ {hal : Hal}, Attempting m pre operationId hal →
        Attempting m pre operationId (hal.callback (.onAuthenticated 0 hal.currentGid [])) :=
      fun h => h.callback fun fid gid token heq => by
        cases heq
        rfl
    unfold authImages at hrun
    dsimp only at hrun
    split at hrun
    · exact ih (h.callback (by simp)) hrun
    · split at hrun
      · split at hrun
        · cases hrun
          exact (hmissed h).told
        · exact ih (hmissed h) hrun
      · split at hrun
        · cases hrun
          exact h.told
        · obtain ⟨⟨identified, id, tee⟩, hidentify, hrun⟩ := bind_eq_ok.mp hrun
          have hcmd : BioCmd.ofWord fpcTaBioIdentifyCmd = some .identify := by decide
          have hcommanded := (bioAnswer_commanded (m.tacOf_reaches _) h.buffer hcmd hidentify).1
          have hasked := h.asked (hcommanded.asked
            (fpcTeeIdentify_kept (m.tacOf_reaches _) h.buffer hidentify) (by decide))
          dsimp only at hrun
          split at hrun
          · cases hrun
            exact hasked.told
          · split at hrun
            · exact ih (hasked.callback (by simp)) hrun
            · have hgood := hasked.callback (c := .onAcquired halCompatAcquiredGood) (by simp)
              split at hrun
              · next hid =>
                obtain ⟨⟨ended, hal''⟩, hmatched, hrun⟩ := bind_eq_ok.mp hrun
                cases hrun
                exact authMatched_told hgood (fpcTeeIdentify_matched h.buffer hidentify hid)
                  ⟨_, rfl⟩ hmatched
              · obtain ⟨⟨updated, stores', hal''⟩, hupdate, hrun⟩ := bind_eq_ok.mp hrun
                have hupdated := (hmissed hgood).update hupdate
                dsimp only at hrun
                split at hrun
                · cases hrun
                  exact hupdated.told
                · split at hrun
                  · cases hrun
                    exact hupdated.told
                  · exact ih hupdated hrun

theorem authEnded_told {ended : Option (Int × Hal)} (htold : ∀ e, ended = some e → Told m pre operationId e.2)
    (h : ended.map (fun e => if e.1 = 0 ∨ e.1 = -fpcErrorCancelled then e.2
      else e.2.callback (.onError halCompatErrorHwUnavailable)) = some hal') :
    Told m pre operationId hal' := by
  obtain ⟨e, he, rfl⟩ := Option.map_eq_some_iff.mp h
  split
  · exact htold e he
  · exact (htold e he).callback (by simp)

theorem doAuthenticate_told (hbuffer : sizeofBioCommand ≤ hal.tee.sharedBuffer.length)
    (h : doAuthenticate m hal = .ok (some hal')) : Told m hal hal.challenge hal' := by
  obtain ⟨⟨set, tee⟩, hset, h⟩ := bind_eq_ok.mp h
  obtain ⟨hsame, hbuffered⟩ := fpcTeeSetAuthChallenge_frame (m.tacOf_reaches _) hbuffer hset
  have hstart : Told m hal hal.challenge (hal.withTee tee) := ⟨[], rfl, by simp⟩
  dsimp only at h
  split at h
  · obtain ⟨ended, hended, h⟩ := bind_eq_ok.mp h
    cases hended
    injection h with h
    refine authEnded_told ?_ h
    rintro e he
    cases he
    exact hstart
  · next hzero =>
    rw [not_not] at hzero
    subst hzero
    have hta := fpcTeeSetAuthChallenge_set (m.tacOf_reaches _) hbuffer hset
    have hattempting : Attempting m hal hal.challenge (hal.withTee tee) :=
      { buffer := hbuffered.symm ▸ hbuffer
        currentGid := rfl
        challenge := congrArg (fun ta => ta.hwAuth.incomingChallenge) hta
        key := congrArg (fun ta => ta.hwAuth.hmacKey) hta
        records := fun record hrecord => by
          rw [Hal.userDb, ← hsame.userDb]
          exact hrecord
        databaseId := congrArg databaseIdOf hsame.userDb
        told := hstart }
    obtain ⟨ended, himages, h⟩ := bind_eq_ok.mp h
    injection h with h
    refine authEnded_told ?_ h
    rintro e rfl
    exact authImages_told hattempting himages

/-- **A report of a match may be relied on.** In every run of the device, whatever the calls before it were
and whatever this one meets: each time that `fpc_authenticate` reports a finger, the matcher has reported a
match in this call, and the token is one of 69 bytes for the challenge of this operation, under the key of
the application, with the user that is enrolled with a finger of this id and the id of the database. -/
theorem authenticate_reports {files : String → Option FingerprintDatabase}
    {history : List (HalEvent P)} (hrun : (halSystem P files).Run history hal) {e : HalEvent P}
    (he : e ∈ history) {gid : UInt32} (hcall : e.call = .authenticate operationId gid) :
    Told e.meets e.pre operationId e.result := by
  obtain ⟨past, s, s', hpast, ⟨hpre, hreturned, _⟩, _⟩ := hrun.before_of_mem he
  have hbuffer := halSystem_buffer hpast
  rw [hcall] at hreturned
  subst hpre
  have hcalled : fpcAuthenticate e.meets e.pre operationId gid = .ok (some (e.status, e.result)) :=
    hreturned
  unfold fpcAuthenticate at hcalled
  split at hcalled
  · injection hcalled with hcalled
    injection hcalled with hcalled
    rw [← (Prod.mk.inj hcalled).2]
    exact ⟨[], rfl, by simp⟩
  · obtain ⟨ended, hended, hcalled⟩ := bind_eq_ok.mp hcalled
    injection hcalled with hcalled
    obtain ⟨hal', rfl, hreturned⟩ := Option.map_eq_some_iff.mp hcalled
    rw [← (Prod.mk.inj hreturned).2]
    obtain ⟨told, hcallbacks, htold⟩ : Told e.meets { e.pre with challenge := operationId } operationId hal' :=
      doAuthenticate_told hbuffer hended
    refine ⟨told, hcallbacks, fun fid gid token hmem hne => ?_⟩
    obtain ⟨hgid, hauthenticated⟩ := htold fid gid token hmem hne
    exact ⟨hgid, { hauthenticated with }⟩

end

/-- A finger is enrolled, and authenticates operation 42. -/
def sampleAuthenticated : List HalCall :=
  [.setActiveGroup 10 "/p", .preEnroll, .enroll sampleToken.bytes 10, .authenticate 42 10]

/-- The finger of an id was reported. -/
def reportsFinger (id : UInt32) : Callback → Bool
  | .onAuthenticated fid _ _ => fid == id
  | _ => false

theorem authenticate_reports_finger :
    ∃ history hal, ∃ e ∈ history, (halSystem samplePlatform fun _ => none).Run history hal ∧
      e.call = .authenticate 42 10 ∧ e.pre.callbacks.any (reportsFinger 0x5A5A5A5A) = false ∧
      e.result.callbacks.any (reportsFinger 0x5A5A5A5A) = true ∧ Told e.meets e.pre 42 e.result := by
  obtain ⟨history, hal, hrun, hcall, hbefore, hreports⟩ := sampleCalls_run sampleAuthenticated
    (fun history _ => history.head?.map HalEvent.call = some (.authenticate 42 10) ∧
      history.head?.map (fun e => e.pre.callbacks.any (reportsFinger 0x5A5A5A5A)) = some false ∧
      history.head?.map (fun e => e.result.callbacks.any (reportsFinger 0x5A5A5A5A)) = some true)
    (by decide +kernel)
  obtain ⟨e, hhead, hcall⟩ := Option.map_eq_some_iff.mp hcall
  rw [hhead] at hbefore hreports
  have he : e ∈ history := List.mem_of_mem_head? hhead
  exact ⟨history, hal, e, he, hrun, hcall, Option.some.inj hbefore, Option.some.inj hreports,
    authenticate_reports hrun he hcall⟩

end Fpc
