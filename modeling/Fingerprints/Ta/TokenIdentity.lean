import Fingerprints.Ta.AuthToken

/-!
# Whom an authentication token names

The database keeps a user id with every finger. It comes in with an enrolment or with a decoded
image, and no other command changes it (`run_records`). `get_auth_result` looks the finger of the
match result up by the first four bytes of its id, and its user id by the active set; where these
lookups lead to the finger that was matched, the token names its user and the database that holds
it (`getAuthResult_identity`).
-/

namespace Fpc

open Wire Wire.Outcome Runs

/-! ## Records of the database -/

/-- An enrolled finger has the id and the user id. -/
def Records (pDb : Option FingerprintDatabase) (record : Id256 × UInt64) : Prop :=
  ∃ f, Enrolled pDb f ∧ f.fingerprintId = record.1 ∧ f.secureUserId = record.2

theorem Enrolled.records {pDb : Option FingerprintDatabase} {f : Fingerprint}
    (h : Enrolled pDb f) : Records pDb (f.fingerprintId, f.secureUserId) := ⟨f, h, rfl, rfl⟩

theorem records_of_enrolled {pDb pDb' : Option FingerprintDatabase} {record : Id256 × UInt64}
    (hkept : ∀ f, Enrolled pDb' f → Enrolled pDb f) (h : Records pDb' record) :
    Records pDb record := by
  obtain ⟨f, hf, hrecord⟩ := h
  exact ⟨f, hkept f hf, hrecord⟩

theorem not_records_of_slots {pDb : Option FingerprintDatabase} (h : slots pDb = [])
    (record : Id256 × UInt64) : ¬ Records pDb record := by
  rintro ⟨f, hf, _⟩
  have hmem := hf.1
  rw [h] at hmem
  cases hmem

/-- A new database has no slots. -/
theorem slots_fpcDbCreate {env : DbEnv} {db : FingerprintDatabase}
    (h : fpcDbCreate env none 0 = .ok db) : slots (some db) = [] := by
  obtain ⟨addr, _, h⟩ := bind_eq_ok.mp h
  cases h
  rw [slots_dbUpdateDatabaseId]
  rfl

/-- A replaced template leaves the records. -/
theorem records_replaceTemplate {pDb : Option FingerprintDatabase} {index : Nat} {tpl : Template}
    {record : Id256 × UInt64} (h : Records (replaceTemplate pDb index tpl) record) :
    Records pDb record := by
  obtain ⟨f, hf, hrecord⟩ := h
  cases pDb with
  | none => exact absurd hf.1 (by simp [replaceTemplate])
  | some db =>
    cases hset : db.pFingerprintSet with
    | none =>
      rw [replaceTemplate, Option.map_some, hset, Option.map_none, Enrolled, slots_withoutSet] at hf
      cases hf.1
    | some set =>
      obtain ⟨hmem, hvalid⟩ := hf
      rw [replaceTemplate, Option.map_some, hset, Option.map_some, slots_withSet,
        FingerprintSet.replaceTemplate, FingerprintSet.withSlots, Vector.toList_setIfInBounds]
        at hmem
      have hslots := slots_of_set hset
      cases List.mem_or_eq_of_mem_set hmem with
      | inl hold => exact ⟨f, ⟨by rwa [hslots], hvalid⟩, hrecord⟩
      | inr hnew =>
        -- the slot keeps all but its template
        rw [hnew] at hvalid hrecord
        cases Nat.lt_or_ge index set.aFingerprintList.toList.length with
        | inl hlt =>
          rw [List.getD_eq_getElem _ _ hlt] at hvalid hrecord
          refine ⟨set.aFingerprintList.toList[index], ⟨?_, hvalid⟩, hrecord⟩
          rw [hslots]
          exact List.getElem_mem hlt
        | inr hge =>
          rw [List.getD_eq_default _ _ hge] at hvalid
          cases hvalid

/-- Updated templates leave the records. Induction on the turns of the loop. -/
theorem records_updateTemplates {env : Env} {bio : Bio} {n i : Nat}
    {pDb pDb' : Option FingerprintDatabase} {status : Int} {record : Id256 × UInt64}
    (h : updateTemplates env bio n i pDb = .ok (status, pDb')) (hrecords : Records pDb' record) :
    Records pDb record := by
  induction n generalizing i pDb with
  | zero =>
    cases h
    exact hrecords
  | succ n ih =>
    unfold updateTemplates at h
    split at h
    · dsimp only at h
      split at h
      · split at h
        · cases h
        · cases h
          exact hrecords
        · split at h
          · cases h
            exact hrecords
          · split at h
            · cases h
              exact hrecords
            · exact records_replaceTemplate (ih h)
      · cases h
    · cases h

/-! ## What a command does to the records -/

section

variable {P : Platform} {env : Env} {ta ta' : Ta} {msg : List UInt8} {r : Handled} {e : Event}
  {record : Id256 × UInt64}

theorem records_fpcTaBioIdentify {identified : Identified}
    (h : fpcTaBioIdentify P env ta = .ok identified)
    (hrecords : Records identified.bio.userDb record) : Records ta.bio.userDb record := by
  cases fpcTaBioIdentify_cases h with
  | failed _ _ _ _ _ hbio => rwa [hbio] at hrecords
  | missed _ => exact hrecords
  | matched _ _ _ hrecorded =>
    cases hrecorded with
    | failed _ _ hbio => rwa [hbio] at hrecords
    | found _ _ _ hfront =>
      apply records_of_enrolled _ hrecords
      intro f
      exact enrolled_fpcDbSetTemplateFirst hfront

theorem records_fpcTaBioUpdateTemplate {bio bio' : Bio} {status : Int}
    {didUpdate : Option UInt32}
    (h : fpcTaBioUpdateTemplate env bio = .ok (status, bio', didUpdate))
    (hrecords : Records bio'.userDb record) : Records bio.userDb record := by
  cases fpcTaBioUpdateTemplate_cases h with
  | skipped _ => exact hrecords
  | looped _ _ hloop => exact records_updateTemplates hloop hrecords

theorem slots_fpcTaBioLoadEmptyDb {bio bio' : Bio} {status : Int}
    (h : fpcTaBioLoadEmptyDb env bio = .ok (status, bio')) : slots bio'.userDb = [] := by
  cases fpcTaBioLoadEmptyDb_cases h with
  | dropped _ => rfl
  | created hcreate => exact slots_fpcDbCreate hcreate

/-- A finger that is there after a deletion was there. -/
theorem fpcTaBioDeleteTemplate_enrolled {bio bio' : Bio} {id : UInt32} {status : Int}
    {f : Fingerprint} (h : fpcTaBioDeleteTemplate bio id = .ok (status, bio'))
    (hf : Enrolled bio'.userDb f) : Enrolled bio.userDb f := by
  cases fpcTaBioDeleteTemplate_cases h with
  | noId _ => exact hf
  | missed _ _ => exact hf
  | found _ _ => exact enrolled_fpcDbDeleteFingerprint hf

/-- Of the bio commands only the end of an enrolment brings in a record. -/
theorem records_bioSwitch {cmd : BioCmd} {answer : UInt32} {reply : BioReply}
    (h : bioSwitch P env ta msg answer cmd = .ok reply) (hcmd : cmd ≠ .endEnrol)
    (hrecords : Records reply.ta.bio.userDb record) : Records ta.bio.userDb record := by
  cases bioSwitch_ran h with
  | setActiveFingerprintSet hbio => rwa [hbio] at hrecords
  | beginEnrol hbegin => rwa [(fpcTaBioBeginEnrol_frame hbegin).1] at hrecords
  | enrol hbio => rwa [hbio, (fpcTaBioEnrol_frame ta.bio).1] at hrecords
  | endEnrol _ => exact absurd rfl hcmd
  | identify hidentify hbio =>
    rw [hbio] at hrecords
    exact records_fpcTaBioIdentify hidentify hrecords
  | updateTemplate hupdate => exact records_fpcTaBioUpdateTemplate hupdate hrecords
  | loadEmptyDb hload =>
    exact absurd hrecords (not_records_of_slots (slots_fpcTaBioLoadEmptyDb hload) record)
  | getFingerIds hbio => rwa [hbio] at hrecords
  | deleteTemplate hdelete =>
    apply records_of_enrolled _ hrecords
    intro f
    exact fpcTaBioDeleteTemplate_enrolled hdelete
  | getTemplateDbId hbio => rwa [hbio] at hrecords
  | getIdentifyStatistics hbio => rwa [hbio] at hrecords

/-- The event is an `END_ENROL` that enrols a finger with this record. -/
def Enrols (e : Event) (record : Id256 × UInt64) : Prop :=
  e.is (.bio .endEnrol) = true ∧ ¬ Records e.pre.bio.userDb record ∧
    Records e.result.ta.bio.userDb record

/-- The event decodes an image that has the record. -/
def Decodes (e : Event) (record : Id256 × UInt64) : Prop :=
  (e.is (.fs .loadDb) = true ∨ e.is (.dbBlob .dbWrite) = true) ∧
    ∃ image db, fpcDbCreate e.env.db (some image) image.length = .ok db ∧
      e.result.ta.bio.userDb = some db ∧ Records (some db) record

/-- The event brings a record in. -/
def Brings (e : Event) (record : Id256 × UInt64) : Prop := Enrols e record ∨ Decodes e record

theorem fpcTaLoadDbFromFile_ok {status : Int} {userDb : Option FingerprintDatabase}
    (h : fpcTaLoadDbFromFile env = .ok (status, userDb)) :
    userDb = none ∨ ∃ image db, fpcDbCreate env.db (some image) image.length = .ok db ∧
      userDb = some db := by
  unfold fpcTaLoadDbFromFile at h
  dsimp only at h
  split at h
  · cases h
    exact Or.inl rfl
  · split at h
    · cases h
      exact Or.inl rfl
    · split at h
      · cases h
        exact Or.inl rfl
      · split at h
        · cases h
          exact Or.inl rfl
        · split at h
          · cases h
            exact Or.inl rfl
          · split at h
            · cases h
            · cases h
              exact Or.inl rfl
            · next db hcreate =>
              cases h
              refine Or.inr ⟨(ofList env.fs.getFilesize.2.toNat 0 env.fs.read.2).toList, db, ?_, rfl⟩
              rw [Vector.length_toList]
              exact hcreate

theorem unwrap_ok {bio bio' : Bio} {transfer transfer' : Transfer} {result : Int}
    (h : unwrap env bio transfer = .ok (result, bio', transfer')) :
    bio'.userDb = bio.userDb ∨
      ∃ image db, fpcDbCreate env.db (some image) image.length = .ok db ∧
        bio'.userDb = some db := by
  unfold unwrap at h
  dsimp only at h
  split at h
  · cases h
    exact Or.inl rfl
  · split at h
    · cases h
    · cases h
      exact Or.inl rfl
    · next db hcreate =>
      cases h
      exact Or.inr ⟨_, db, hcreate, rfl⟩

theorem fpcTaDbWrite_ok {bio bio' : Bio} {transfer transfer' : Transfer} {size : Nat}
    {result : Int} (h : fpcTaDbWrite env bio transfer msg size = .ok (result, bio', transfer')) :
    bio'.userDb = bio.userDb ∨
      ∃ image db, fpcDbCreate env.db (some image) image.length = .ok db ∧
        bio'.userDb = some db := by
  unfold fpcTaDbWrite at h
  split at h
  · cases h
    exact Or.inl rfl
  · split at h
    · cases h
      exact Or.inl rfl
    · obtain ⟨copied, _, h⟩ := bind_eq_ok.mp h
      split at h
      · exact unwrap_ok h
      · cases h
        exact Or.inl rfl

/-- A record after a file command was there before, or was decoded from the file. -/
theorem fsSwitch_records {cmd : FsCmd} (h : fsSwitch env ta msg cmd = .ok r)
    (hrecords : Records r.ta.bio.userDb record) :
    Records ta.bio.userDb record ∨
      (cmd = .loadDb ∧ ∃ image db, fpcDbCreate env.db (some image) image.length = .ok db ∧
        r.ta.bio.userDb = some db) := by
  cases fsSwitch_ran h with
  | kept _ hta =>
    rw [hta] at hrecords
    exact Or.inl hrecords
  | loaded _ hfile hta =>
    rw [hta] at hrecords ⊢
    cases fpcTaLoadDbFromFile_ok hfile with
    | inl hnone =>
      refine absurd hrecords (not_records_of_slots ?_ record)
      dsimp only
      rw [hnone, slots_none]
    | inr hdecoded => exact Or.inr ⟨rfl, hdecoded⟩

/-- A record after a blob command was there before, or was decoded at the end of a transfer. -/
theorem dbBlobSwitch_records {cmd : DbBlobCmd} (h : dbBlobSwitch P env ta msg cmd = .ok r)
    (hrecords : Records r.ta.bio.userDb record) :
    Records ta.bio.userDb record ∨
      (cmd = .dbWrite ∧ ∃ image db, fpcDbCreate env.db (some image) image.length = .ok db ∧
        r.ta.bio.userDb = some db) := by
  cases dbBlobSwitch_ran h with
  | kept hta =>
    rw [hta] at hrecords
    exact Or.inl hrecords
  | written hwrite _ _ hta =>
    rw [hta] at hrecords ⊢
    cases fpcTaDbWrite_ok hwrite with
    | inl hkept =>
      left
      rwa [← hkept]
    | inr hdecoded => exact Or.inr ⟨rfl, hdecoded⟩

/-- A record after a command was there before, or the command brings it in. -/
theorem step_records (h : (taSystem P).step ta e ta')
    (hrecords : Records ta'.bio.userDb record) :
    Records ta.bio.userDb record ∨ Brings e record := by
  obtain ⟨rfl, hroute, rfl⟩ := h
  cases fpcTaRouteCommand_routed hroute with
  | none _ timestamp hta =>
    rw [hta] at hrecords
    exact Or.inl hrecords
  | fs cmd hcmd hswitch =>
    cases fsSwitch_records hswitch hrecords with
    | inl hold => exact Or.inl hold
    | inr hdecoded =>
      obtain ⟨rfl, image, db, hcreate, hdb⟩ := hdecoded
      right
      right
      exact ⟨Or.inl (is_iff.mpr hcmd), image, db, hcreate, hdb, by rwa [← hdb]⟩
  | hwAuth cmd hcmd hswitch =>
    obtain ⟨matchResult, hwAuth, hta⟩ := hwAuthSwitch_frame hcmd hswitch
    left
    rwa [hta] at hrecords
  | dbBlob cmd hcmd hswitch =>
    cases dbBlobSwitch_records hswitch hrecords with
    | inl hold => exact Or.inl hold
    | inr hdecoded =>
      obtain ⟨rfl, image, db, hcreate, hdb⟩ := hdecoded
      right
      right
      exact ⟨Or.inr (is_iff.mpr hcmd), image, db, hcreate, hdb, by rwa [← hdb]⟩
  | bio cmd hcmd hswitch =>
    obtain ⟨answer, reply, hreply, hta⟩ := bioRespond_ok hswitch
    cases Classical.em (Records e.pre.bio.userDb record) with
    | inl hold => exact Or.inl hold
    | inr hnew =>
      right
      left
      -- a new record comes with the end of an enrolment
      have hend : cmd = .endEnrol := by
        by_contra hother
        rw [hta] at hrecords
        exact hnew (records_bioSwitch hreply hother hrecords)
      rw [hend] at hcmd
      exact ⟨is_iff.mpr hcmd, hnew, hrecords⟩
  | pn cmd _ hswitch =>
    obtain ⟨pn, hta⟩ := pnSwitch_frame hswitch
    rw [hta] at hrecords
    exact Or.inl hrecords

variable {history : List Event}

/-- Every record was brought in by an enrolment or by a decoded image. -/
theorem run_records (hrun : (taSystem P).Run history ta)
    (hrecords : Records ta.bio.userDb record) : ∃ e ∈ history, Brings e record := by
  apply hrun.origin (H := fun record ta => Records ta.bio.userDb record) (B := Brings) _ _
    hrecords
  · intro s hinit record
    obtain ⟨env, hinit⟩ := hinit
    obtain ⟨db, hcreate, hdb, _⟩ := fpcTaRouterInit_ok hinit
    rw [hdb]
    exact not_records_of_slots (slots_fpcDbCreate hcreate) record
  · intro s e s' record hstep
    exact step_records hstep

/-! ## The identity in a token -/

/-- The lookup of a user id, by the key of the set, at a slot with a valid finger. -/
theorem fpcDbGetSecureUserId_of_slot {pDb : Option FingerprintDatabase} {key : UInt32} {i : Nat}
    {set : FingerprintSet} {f : Fingerprint} (hset : fpcDbGetSet pDb key = .ok set)
    (hslot : (slots pDb)[i]? = some f) (hvalid : f.valid = fpcDbEntryValid) :
    fpcDbGetSecureUserId pDb key i = .ok f.secureUserId := by
  obtain ⟨db, rfl, hdb, _⟩ := fpcDbGetSet_ok hset
  rw [slots_of_set hdb] at hslot
  obtain ⟨hlt, hf⟩ := List.getElem?_eq_some_iff.mp hslot
  rw [Vector.length_toList] at hlt
  rw [Vector.getElem_toList] at hf
  have hfinger : getFinger (some db) key i = .ok f := by
    unfold getFinger
    rw [dif_pos hlt, hset]
    dsimp only [bind, Except.bind]
    rw [hf, if_neg (by rw [hvalid]; decide)]
  rw [fpcDbGetSecureUserId, hfinger]
  rfl

/-- The events bring in one user id for a finger id. -/
def OneUser (history : List Event) (id : Id256) : Prop :=
  ∀ e ∈ history, ∀ e' ∈ history, ∀ user user', Brings e (id, user) → Brings e' (id, user') →
    user = user'

/-- Whom a token names: the user that was stored with the finger whose match is reported, as the
database that holds the finger has it, and as it was at the match unless an event brought in
another user for the id. And the database by its id. -/
structure SignedForFinger (history : List Event) (e matched : Event) (f g : Fingerprint) :
    Prop where
  reported : latest reportedMatch (since isSetAuthChallenge history) = some matched
  finger : MatchedFinger matched f
  enrolled : Enrolled e.pre.bio.userDb g
  same : g.fingerprintId = f.fingerprintId
  user : e.signedToken.userId = g.secureUserId
  stored : ∃ e' ∈ history, Brings e' (g.fingerprintId, g.secureUserId)
  unchanged : OneUser history f.fingerprintId → e.signedToken.userId = f.secureUserId
  authenticator : ∃ db, e.pre.bio.userDb = some db ∧ e.signedToken.authenticatorId = db.databaseId

/-- The lookups for the match result lead to its finger: the set of the database has the active
key, and the first valid finger whose id begins as the match result's has its whole id. -/
structure FindsFinger (bio : Bio) : Prop where
  ne_zero : bio.matchResult.templateId256 ≠ Id256.filled 0
  set : (fpcDbGetSet bio.userDb bio.activeSetKey).isOk = true
  found : ∃ i g, fpcDbGetIndexOfId32 bio.userDb bio.matchResult.templateId = .ok i ∧
    (slots bio.userDb)[i]? = some g ∧ g.fingerprintId = bio.matchResult.templateId256

/-- **A token names the user of the finger that was matched.** Whenever `GET_AUTH_RESULT` returns
0 in a run and the lookups lead to the finger of the match result, whatever commands ran since the
match. -/
theorem getAuthResult_identity (hrun : (taSystem P).Run history ta)
    (hstep : (taSystem P).step ta e ta') (hcmd : isGetAuthResult e = true)
    (hzero : e.response = 0) (hfinds : FindsFinger ta.bio) :
    ∃ matched f g, SignedForFinger history e matched f g := by
  obtain ⟨matched, f, hmatched, hfinger, hresult⟩ := matched_of_ne_zero hrun hfinds.ne_zero
  obtain ⟨templateIndex, dbId, hindex, hdbId, htoken⟩ := step_getAuthResult hstep hcmd hzero
  have hset := hfinds.set
  obtain ⟨i, g, hi, hslot, hid⟩ := hfinds.found
  rw [hi] at hindex
  cases hindex
  -- the slot that the search ends at is valid
  obtain ⟨g', hslot', hvalid, _⟩ := firstIndex_ok hi
  rw [hslot] at hslot'
  cases hslot'
  have henrolled : Enrolled ta.bio.userDb g := ⟨List.mem_of_getElem? hslot, hvalid⟩
  have hsame : g.fingerprintId = f.fingerprintId := by rw [hid, hresult, matchOf]
  have huser : e.signedToken.userId = g.secureUserId := by
    cases hget : fpcDbGetSet ta.bio.userDb ta.bio.activeSetKey with
    | error code =>
      rw [hget] at hset
      cases hset
    | ok set =>
      rw [htoken, authToken, tokenUserId, fpcDbGetSecureUserId_of_slot hget hslot hvalid]
  obtain ⟨brought, hbrought, hbrings⟩ := run_records hrun henrolled.records
  refine ⟨matched, f, g, ?_⟩
  exact { reported := hmatched
          finger := hfinger
          enrolled := by rwa [hstep.1]
          same := hsame
          user := huser
          stored := ⟨brought, hbrought, hbrings⟩
          unchanged := by
            intro hone
            -- the finger that was matched was enrolled then, with a record that was brought in
            obtain ⟨past, t, t', hpast, hstep', hsub⟩ :=
              hrun.before_of_mem (mem_of_mem_since (latest_mem hmatched))
            have hmatchedFinger : Enrolled t.bio.userDb f := by
              rw [← hstep'.1]
              exact ⟨List.mem_of_getElem? hfinger.slot, hfinger.valid⟩
            obtain ⟨earlier, hearlier, hbrings'⟩ := run_records hpast hmatchedFinger.records
            rw [hsame] at hbrings
            rw [huser]
            exact hone brought hbrought earlier (hsub _ hearlier) _ _ hbrings hbrings'
          authenticator := by
            rw [hstep.1, htoken]
            cases hdb : ta.bio.userDb with
            | none =>
              rw [hdb] at hdbId
              cases hdbId
            | some db =>
              rw [hdb] at hdbId
              cases hdbId
              exact ⟨db, rfl, rfl⟩ }

end

theorem sampleAuthentication_identity :
    ∃ history e matched f g, SignedForFinger history e matched f g := by
  obtain ⟨history, ta, result, hrun, hstep, hid, hset, hindex, hslot, hzero⟩ :=
    executeThen_decided samplePlatform sampleAuthentication sampleGetAuthResult
      (fun _ ta result => ta.bio.matchResult.templateId256 = Id256.filled 0x5A ∧
        (fpcDbGetSet ta.bio.userDb ta.bio.activeSetKey).isOk = true ∧
        fpcDbGetIndexOfId32 ta.bio.userDb ta.bio.matchResult.templateId = .ok 0 ∧
        (slots ta.bio.userDb)[0]? = some sampleFinger ∧
        toInt32 (field32 result.msg offResponse) = 0) (by decide +kernel)
  have hcmd : commandOf sampleGetAuthResult.2 = some (.hwAuth .getAuthResult) := by decide +kernel
  have hfinds : FindsFinger ta.bio :=
    { ne_zero := by rw [hid]; decide
      set := hset
      found := ⟨0, sampleFinger, hindex, hslot, hid.symm⟩ }
  exact ⟨history, _, getAuthResult_identity hrun hstep (is_iff.mpr hcmd) hzero hfinds⟩

/-- Another set is made active after the match. -/
def sampleSetActive : Env × List UInt8 :=
  (.willing, commandMessage 11 9 (le32 0 ++ (le32 7 ++ List.replicate 24 0)))

/-- A token names user 0 although the only finger there is belongs to another user. -/
theorem sampleSetActive_anonymous :
    ∃ history ta e ta', (taSystem samplePlatform).Run history ta ∧
      (taSystem samplePlatform).step ta e ta' ∧ isGetAuthResult e = true ∧ e.response = 0 ∧
      e.signedToken.userId = 0 ∧ ¬ ∃ matched f g, SignedForFinger history e matched f g := by
  obtain ⟨history, ta, result, hrun, hstep, hall, hzero, huser⟩ :=
    executeThen_decided samplePlatform (sampleAuthentication ++ [sampleSetActive])
      sampleGetAuthResult
      (fun _ ta result =>
        (∀ g ∈ slots ta.bio.userDb, g.valid = fpcDbEntryValid → g.secureUserId ≠ 0) ∧
        toInt32 (field32 result.msg offResponse) = 0 ∧
        (messageToken result.msg).userId = 0) (by decide +kernel)
  have hcmd : commandOf sampleGetAuthResult.2 = some (.hwAuth .getAuthResult) := by decide +kernel
  refine ⟨history, ta, _, _, hrun, hstep, is_iff.mpr hcmd, hzero, huser, ?_⟩
  rintro ⟨matched, f, g, hsigned⟩
  have hg : g.secureUserId = 0 := hsigned.user.symm.trans huser
  exact hall g hsigned.enrolled.1 hsigned.enrolled.2 hg

end Fpc
