import Fingerprints.Ta.Enrolment

/-!
# What an identification leaves

A reply of `IDENTIFY` reports a match when its response is 0 and the result in its statistics is
`MATCH`. Exactly then the match result is set, to the time of the last captured image and the id
of the finger that the reply names by its slot: `step_identify`. No other command but
`SET_AUTH_CHALLENGE` touches it.
-/

namespace Fpc

open Wire Wire.Outcome Runs

/-! ## Errors of the lookups -/

theorem fpcDbGetSet_error {pDb : Option FingerprintDatabase} {key : UInt32} {code : Int}
    (h : fpcDbGetSet pDb key = .error code) : IsError code := by
  unfold fpcDbGetSet at h
  split at h
  · cases h
    decide
  · split at h
    · cases h
      decide
    · split at h
      · cases h
        decide
      · cases h

theorem getFinger_error {pDb : Option FingerprintDatabase} {key : UInt32} {index : Nat}
    {code : Int} (h : getFinger pDb key index = .error code) : IsError code := by
  unfold getFinger at h
  split at h
  · cases hset : fpcDbGetSet pDb key with
    | error code' =>
      rw [hset] at h
      cases h
      exact fpcDbGetSet_error hset
    | ok set =>
      rw [hset] at h
      dsimp only [bind, Except.bind] at h
      split at h
      · cases h
        decide
      · cases h
  · cases h
    decide

theorem fpcDbGetFingerprintId_error {pDb : Option FingerprintDatabase} {key : UInt32}
    {index : Nat} {code : Int} (h : fpcDbGetFingerprintId pDb key index = .error code) :
    IsError code := by
  unfold fpcDbGetFingerprintId at h
  cases hfinger : getFinger pDb key index with
  | error code' =>
    rw [hfinger] at h
    cases h
    exact getFinger_error hfinger
  | ok f =>
    rw [hfinger] at h
    cases h

theorem fpcDbGetFingerprintId_ok {pDb : Option FingerprintDatabase} {key : UInt32} {index : Nat}
    {id : Id256} (h : fpcDbGetFingerprintId pDb key index = .ok id) :
    ∃ f, getFinger pDb key index = .ok f ∧ f.fingerprintId = id := by
  unfold fpcDbGetFingerprintId at h
  cases hfinger : getFinger pDb key index with
  | error code =>
    rw [hfinger] at h
    cases h
  | ok f =>
    rw [hfinger] at h
    cases h
    exact ⟨f, rfl, rfl⟩

theorem firstIndex_err {pDb : Option FingerprintDatabase} {p : Fingerprint → Bool} {code : Int}
    (h : firstIndex pDb p = .err code) : IsError code := by
  unfold firstIndex at h
  split at h
  · cases h
  · split at h
    · cases h
    · cases h
      decide

theorem fpcResultToError_isError (result : Int) : IsError (fpcResultToError result) := by
  unfold fpcResultToError
  repeat' split
  all_goals decide

theorem fpcTaBioQualifyImage_fits (env : Env) : FitsInt (fpcTaBioQualifyImage env) := by
  unfold fpcTaBioQualifyImage
  dsimp only
  split
  · decide
  · split
    · decide
    · decide

theorem length_slots_le (pDb : Option FingerprintDatabase) :
    (slots pDb).length ≤ fpcDbFingerprintsInSet := by
  unfold slots
  split
  · exact le_of_eq Vector.length_toList
  · exact Nat.zero_le _

/-- The index of a slot is a word. -/
theorem slotIndex_lt {pDb : Option FingerprintDatabase} {i : Nat} {f : Fingerprint}
    (h : (slots pDb)[i]? = some f) : i < 2 ^ 32 := by
  have hlt := (List.getElem?_eq_some_iff.mp h).1
  have hfive := length_slots_le pDb
  unfold fpcDbFingerprintsInSet at hfive
  omega

/-! ## The function -/

/-- The match result for a finger that was matched in an image. -/
def matchOf (imageTimestamp : UInt64) (f : Fingerprint) : MatchResult :=
  { timestamp := imageTimestamp, templateId := fpcDbTrimId32 f.fingerprintId,
    templateId256 := f.fingerprintId }

/-- The finger stands, valid, in the slot, and holds the template at an index of the list that
was handed to the matcher. -/
structure Matches (pDb : Option FingerprintDatabase) (bio : Bio) (slot : Nat)
    (f : Fingerprint) : Prop where
  slot : (slots pDb)[slot]? = some f
  valid : f.valid = fpcDbEntryValid
  template : ∃ tpl, bio.list.toList[bio.identData.index.toNat]? = some tpl ∧
    f.tplRef.tpl = tpl.tpl

/-- What `fpc_ta_bio_identify` leaves: the match of a finger, or no match. -/
inductive IdentifyEffect (ta : Ta) (r : Identified) : Prop
  | matched (statistics : IdentifyStatistics) (f : Fingerprint) (hstatus : r.status = 0)
      (hstatistics : r.statistics = some statistics)
      (hresult : statistics.result = fpcAlgoIdentifyMatch)
      (hmatches : Matches ta.bio.userDb r.bio statistics.index.toNat f)
      (hrecorded : r.bio.matchResult = matchOf ta.imageTimestamp f)
  | failed (hstatus : r.status ≠ 0) (hfits : FitsInt r.status)
      (hkept : r.bio.matchResult = ta.bio.matchResult)
  | missed (statistics : IdentifyStatistics) (hstatistics : r.statistics = some statistics)
      (hresult : statistics.result ≠ fpcAlgoIdentifyMatch)
      (hkept : r.bio.matchResult = ta.bio.matchResult)

/-- How the recording of a match ends: the lookups of the finger fail, or its match is recorded and
it is put in front. -/
inductive MatchRecorded (imageTimestamp : UInt64) (bio : Bio) (statistics : IdentifyStatistics) :
    Identified → Prop
  | failed {r : Identified} (identData : IdentifyData) (hstatus : IsError r.status)
      (hbio : r.bio = { bio with identData := identData }) :
      MatchRecorded imageTimestamp bio statistics r
  | found {dbIndex : Nat} {f : Fingerprint} {db : FingerprintDatabase}
      (hlt : bio.identData.index.toNat < fpcDbFingerprintsInSet)
      (hindex : fpcDbGetIndexOfTemplate bio.userDb bio.list[bio.identData.index.toNat]
        = .ok dbIndex)
      (hfinger : getFinger bio.userDb bio.activeSetKey dbIndex = .ok f)
      (hfront : fpcDbSetTemplateFirst bio.userDb bio.identData.index.toNat = .ok db) :
      MatchRecorded imageTimestamp bio statistics
        { status := 0,
          bio := { bio with matchResult := matchOf imageTimestamp f, userDb := some db },
          id := fpcDbTrimId32 f.fingerprintId,
          statistics := some { statistics with index := UInt32.ofNat dbIndex } }

theorem recordMatch_cases {env : Env} {imageTimestamp : UInt64} {bio : Bio}
    {statistics : IdentifyStatistics} {r : Identified}
    (h : recordMatch env imageTimestamp bio statistics = .ok r) :
    MatchRecorded imageTimestamp bio statistics r := by
  unfold recordMatch at h
  dsimp only at h
  split at h
  · next hlt =>
    split at h
    · cases h
    · next code hcode =>
      cases h
      exact .failed _ (firstIndex_err hcode) rfl
    · next dbIndex hindex =>
      split at h
      · next code hcode =>
        cases h
        exact .failed _ (fpcDbGetFingerprintId_error hcode) rfl
      · next id256 hid =>
        obtain ⟨db, hfront, h⟩ := bind_eq_ok.mp h
        obtain ⟨f, hfinger, rfl⟩ := fpcDbGetFingerprintId_ok hid
        cases h
        exact .found hlt hindex hfinger hfront
  · cases h

/-- How an identification ends: before the matcher has an answer, without a match, or with one that
is recorded. -/
inductive IdentifyCase (P : Platform) (env : Env) (ta : Ta) : Identified → Prop
  | failed {r : Identified} (list : Vector TplRef fpcDbFingerprintsInSet) (sizeList : Nat)
      (identData : IdentifyData) (hstatus : r.status ≠ 0) (hfits : FitsInt r.status)
      (hbio : r.bio = { ta.bio with list := list, sizeList := sizeList, identData := identData }) :
      IdentifyCase P env ta r
  | missed {list : Vector TplRef fpcDbFingerprintsInSet} {sizeList : Nat}
      {identData : IdentifyData} (hresult : identData.result ≠ fpcAlgoIdentifyMatch) :
      IdentifyCase P env ta
        { status := 0,
          bio := { ta.bio with list := list, sizeList := sizeList, identData := identData },
          id := 0, statistics := some (IdentifyStatistics.ofData identData) }
  | matched {list : Vector TplRef fpcDbFingerprintsInSet} {sizeList : Nat}
      {identData : IdentifyData} {r : Identified}
      (hcopied : fpcDbGetAllTemplates ta.bio.userDb ta.bio.list fpcDbFingerprintsInSet
        = .ok (list, sizeList))
      (hdata : (env.algo.identify (fpcTaLivenessEnabled P ta.hwAuth)).2 = identData)
      (hresult : identData.result = fpcAlgoIdentifyMatch)
      (hrecorded : MatchRecorded ta.imageTimestamp
        { ta.bio with list := list, sizeList := sizeList, identData := identData }
        (IdentifyStatistics.ofData identData) r) :
      IdentifyCase P env ta r

theorem fpcTaBioIdentify_cases {P : Platform} {env : Env} {ta : Ta} {r : Identified}
    (h : fpcTaBioIdentify P env ta = .ok r) : IdentifyCase P env ta r := by
  unfold fpcTaBioIdentify at h
  dsimp only at h
  split at h
  · cases h
    have herror : IsError (-fpcErrorInput) := by decide
    exact .failed _ _ _ herror.ne_zero herror.fitsInt rfl
  · split at h
    · next hquality =>
      cases h
      exact .failed _ _ _ hquality (fpcTaBioQualifyImage_fits env) rfl
    · obtain ⟨copied, hcopied, h⟩ := bind_eq_ok.mp h
      have hfailed (result : Int) := fpcResultToError_isError result
      split at h
      · cases h
        have herror : IsError (-fpcErrorNoentity) := by decide
        exact .failed _ _ _ herror.ne_zero herror.fitsInt rfl
      · split at h
        · cases h
          exact .failed _ _ _ (hfailed _).ne_zero (hfailed _).fitsInt rfl
        · split at h
          · cases h
            exact .failed _ _ _ (hfailed _).ne_zero (hfailed _).fitsInt rfl
          · split at h
            · next hmatch => exact .matched hcopied rfl hmatch (recordMatch_cases h)
            · next hmatch =>
              cases h
              exact .missed hmatch

/-- The finger found by its template is the one whose id is recorded. -/
theorem fpcTaBioIdentify_effect {P : Platform} {env : Env} {ta : Ta} {r : Identified}
    (h : fpcTaBioIdentify P env ta = .ok r) : IdentifyEffect ta r := by
  cases fpcTaBioIdentify_cases h with
  | failed _ _ _ hstatus hfits hbio => exact .failed hstatus hfits (by rw [hbio])
  | missed hresult => exact .missed _ rfl hresult rfl
  | matched _ _ hresult hrecorded =>
    cases hrecorded with
    | failed _ hstatus hbio => exact .failed hstatus.ne_zero hstatus.fitsInt (by rw [hbio])
    | found hlt hindex hfinger _ =>
      obtain ⟨f, hslot, hvalid, htpl⟩ := firstIndex_ok hindex
      have hsame := (getFinger_ok hfinger).1
      rw [hslot] at hsame
      cases hsame
      have hfits := slotIndex_lt hslot
      refine .matched _ _ rfl rfl hresult ?_ rfl
      refine { slot := ?_, valid := hvalid, template := ⟨_, ?_, beq_iff_eq.mp htpl⟩ }
      · show (slots ta.bio.userDb)[(UInt32.ofNat _).toNat]? = some _
        rw [UInt32.toNat_ofNat_of_lt' hfits]
        exact hslot
      · rw [List.getElem?_eq_getElem (by rw [Vector.length_toList]; exact hlt)]
        simp

section

variable {P : Platform} {env : Env} {ta ta' : Ta} {msg : List UInt8} {r : Handled} {e : Event}

/-! ## The reply -/

/-- Where the statistics of an identification have the result and the slot. -/
def offIdentifyResult : Nat := offArray + 12
def offIdentifyIndex : Nat := offArray + 20

/-- A bio command is asked with the id in the message, and what it answers stands in the message behind the
header; the rest of the message is what its case of the switch left. -/
theorem bioRespond_asked {cmd : BioCmd} (h : bioRespond P env ta msg cmd = .ok r) :
    ∃ reply, bioSwitch P env ta msg (field32 msg offAnswer) cmd = .ok reply ∧ r.ta = reply.ta ∧
      field32 r.msg offResponse = ofInt32 reply.response ∧
      ∀ off, offArray ≤ off → field32 r.msg off = field32 reply.msg off := by
  obtain ⟨answer, hanswer, h⟩ := bind_eq_ok.mp h
  obtain ⟨reply, hreply, h⟩ := bind_eq_ok.mp h
  obtain ⟨msg1, hstore1, h⟩ := bind_eq_ok.mp h
  obtain ⟨msg2, hstore2, h⟩ := bind_eq_ok.mp h
  cases h
  rw [load32_ok hanswer] at hreply
  obtain ⟨hin1, rfl⟩ := storeSpan_ok hstore1 (by simp)
  obtain ⟨hin2, rfl⟩ := storeSpan_ok hstore2 (by simp)
  have hlen := length_overlay hin1
  rw [length_le32] at hin1
  refine ⟨reply, hreply, rfl, ?_, ?_⟩
  · rw [field32_overlay hin2 (Or.inl (by decide))]
    exact field32_put32 (by omega) _
  · intro off hoff
    unfold offArray at hoff
    rw [field32_overlay hin2 (Or.inr (by rw [length_le32]; unfold offAnswer; omega)),
      field32_overlay (by rw [length_le32]; exact hin1)
        (Or.inr (by rw [length_le32]; unfold offResponse; omega))]

theorem bioRespond_reply {cmd : BioCmd} (h : bioRespond P env ta msg cmd = .ok r) :
    ∃ answer reply, bioSwitch P env ta msg answer cmd = .ok reply ∧ r.ta = reply.ta ∧
      field32 r.msg offResponse = ofInt32 reply.response ∧
      ∀ off, offArray ≤ off → field32 r.msg off = field32 reply.msg off := ⟨_, bioRespond_asked h⟩

/-- The statistics are read back from the message they were stored in. -/
theorem field32_statistics {buf buf' : List UInt8} {statistics : IdentifyStatistics}
    (h : storeSpan buf offArray statistics.bytes = .ok buf') :
    field32 buf' offIdentifyResult = statistics.result ∧
      field32 buf' offIdentifyIndex = statistics.index := by
  have hbytes : statistics.bytes.length = 24 := rfl
  obtain ⟨hin, rfl⟩ := storeSpan_ok h (by rw [hbytes]; decide)
  constructor
  · rw [field32, offIdentifyResult, slice_overlay_inside (by omega) (by rw [hbytes]; decide)]
    exact ofLe32_le32 _
  · rw [field32, offIdentifyIndex, slice_overlay_inside (by omega) (le_of_eq hbytes.symm)]
    exact ofLe32_le32 _

def isIdentify : Event → Bool := Event.is (.bio .identify)

/-- The event is an identification whose reply reports a match. -/
def reportedMatch (e : Event) : Bool :=
  isIdentify e && decide (e.response = 0) &&
    field32 e.result.msg offIdentifyResult == fpcAlgoIdentifyMatch

/-- The slot that the reply of an identification names. -/
def Event.matchedSlot (e : Event) : Nat := (field32 e.result.msg offIdentifyIndex).toNat

/-- The finger that a reported match is about. -/
def MatchedFinger (e : Event) (f : Fingerprint) : Prop :=
  Matches e.pre.bio.userDb e.result.ta.bio e.matchedSlot f

/-- An identification reports a match and records it, or does neither. -/
theorem step_identify (h : (taSystem P).step ta e ta') (hcmd : isIdentify e = true) :
    (reportedMatch e = true ∧
        ∃ f, MatchedFinger e f ∧ ta'.bio.matchResult = matchOf e.pre.imageTimestamp f) ∨
      (reportedMatch e = false ∧ ta'.bio.matchResult = ta.bio.matchResult) := by
  obtain ⟨rfl, hroute, rfl⟩ := h
  obtain ⟨hlen, hrespond⟩ := fpcTaRouteCommand_of_bio P e.env e.pre (is_iff.mp hcmd)
  rw [hrespond] at hroute
  obtain ⟨answer, reply, hswitch, hta, hresponse, hfields⟩ := bioRespond_reply hroute
  obtain ⟨identified, hidentify, hswitch⟩ := bind_eq_ok.mp hswitch
  unfold sizeofBioCommand at hlen
  unfold reportedMatch MatchedFinger Event.matchedSlot Event.response Event.resultAt
  rw [hcmd, hta, hresponse, hfields _ (by decide), hfields _ (by decide)]
  cases fpcTaBioIdentify_effect hidentify with
  | matched statistics f hstatus hstatistics hresult hmatches hrecorded =>
    left
    rw [hstatistics] at hswitch
    obtain ⟨msg', hstore, hswitch⟩ := bind_eq_ok.mp hswitch
    obtain ⟨hfield, hindex⟩ := field32_statistics hstore
    cases hswitch
    rw [hfield, hindex, hresult, hstatus]
    exact ⟨rfl, f, hmatches, hrecorded⟩
  | failed hstatus hfits hkept =>
    right
    have hreply : reply.response = identified.status ∧ reply.ta.bio = identified.bio := by
      split at hswitch
      · cases hswitch
        exact ⟨rfl, rfl⟩
      · obtain ⟨_, _, hswitch⟩ := bind_eq_ok.mp hswitch
        cases hswitch
        exact ⟨rfl, rfl⟩
    rw [hreply.1, hreply.2, toInt32_ofInt32 hfits, decide_eq_false hstatus]
    exact ⟨rfl, hkept⟩
  | missed statistics hstatistics hresult hkept =>
    right
    rw [hstatistics] at hswitch
    obtain ⟨msg', hstore, hswitch⟩ := bind_eq_ok.mp hswitch
    obtain ⟨hfield, _⟩ := field32_statistics hstore
    cases hswitch
    rw [hfield, beq_eq_false_iff_ne.mpr hresult, Bool.and_false]
    exact ⟨rfl, hkept⟩

/-! ## The other commands -/

/-- Beginning an enrolment keeps the database and the match result. -/
theorem fpcTaBioBeginEnrol_frame {bio bio' : Bio} {status : Int}
    (h : fpcTaBioBeginEnrol env bio = .ok (status, bio')) :
    bio'.userDb = bio.userDb ∧ bio'.matchResult = bio.matchResult := by
  unfold fpcTaBioBeginEnrol at h
  dsimp only at h
  obtain ⟨copied, _, h⟩ := bind_eq_ok.mp h
  split at h
  · cases h
    exact ⟨rfl, rfl⟩
  · split at h
    · cases h
      exact ⟨rfl, rfl⟩
    · cases h
      exact ⟨rfl, rfl⟩

/-- A touch keeps the database and the match result. -/
theorem fpcTaBioEnrol_frame (bio : Bio) :
    (fpcTaBioEnrol env bio).2.1.userDb = bio.userDb ∧
      (fpcTaBioEnrol env bio).2.1.matchResult = bio.matchResult := by
  unfold fpcTaBioEnrol
  dsimp only
  split
  · exact ⟨rfl, rfl⟩
  · exact ⟨rfl, rfl⟩

theorem fpcTaBioEndEnrol_matchResult (bio : Bio) (hwAuth : HwAuthTa) :
    (fpcTaBioEndEnrol P env bio hwAuth).bio.matchResult = bio.matchResult := by
  unfold fpcTaBioEndEnrol
  split
  · rfl
  · dsimp only
    split
    · rfl
    · split
      · rfl
      · split
        · rfl
        · split
          · rfl
          · rfl

theorem fpcTaBioUpdateTemplate_matchResult {bio bio' : Bio} {status : Int}
    {didUpdate : Option UInt32}
    (h : fpcTaBioUpdateTemplate env bio = .ok (status, bio', didUpdate)) :
    bio'.matchResult = bio.matchResult := by
  cases fpcTaBioUpdateTemplate_cases h with
  | skipped _ => rfl
  | looped _ _ _ => rfl

theorem fpcTaBioLoadEmptyDb_matchResult {bio bio' : Bio} {status : Int}
    (h : fpcTaBioLoadEmptyDb env bio = .ok (status, bio')) :
    bio'.matchResult = bio.matchResult := by
  cases fpcTaBioLoadEmptyDb_cases h with
  | dropped _ => rfl
  | created _ => rfl

theorem fpcTaBioDeleteTemplate_matchResult {bio bio' : Bio} {id : UInt32} {status : Int}
    (h : fpcTaBioDeleteTemplate bio id = .ok (status, bio')) :
    bio'.matchResult = bio.matchResult := by
  cases fpcTaBioDeleteTemplate_cases h with
  | noId _ => rfl
  | missed _ _ => rfl
  | found _ _ => rfl

/-- No bio command but an identification touches the match result. -/
theorem bioSwitch_matchResult {cmd : BioCmd} {answer : UInt32} {reply : BioReply}
    (h : bioSwitch P env ta msg answer cmd = .ok reply) (hcmd : cmd ≠ .identify) :
    reply.ta.bio.matchResult = ta.bio.matchResult := by
  cases bioSwitch_ran h with
  | setActiveFingerprintSet hbio =>
    rw [hbio]
    rfl
  | beginEnrol hbegin => exact (fpcTaBioBeginEnrol_frame hbegin).2
  | enrol hbio =>
    rw [hbio]
    exact (fpcTaBioEnrol_frame ta.bio).2
  | endEnrol hbio =>
    rw [hbio]
    exact fpcTaBioEndEnrol_matchResult ta.bio ta.hwAuth
  | identify _ _ => exact absurd rfl hcmd
  | updateTemplate hupdate => exact fpcTaBioUpdateTemplate_matchResult hupdate
  | loadEmptyDb hload => exact fpcTaBioLoadEmptyDb_matchResult hload
  | getFingerIds hbio => rw [hbio]
  | deleteTemplate hdelete => exact fpcTaBioDeleteTemplate_matchResult hdelete
  | getTemplateDbId hbio => rw [hbio]
  | getIdentifyStatistics hbio => rw [hbio]

/-- Only an identification and a new challenge touch the match result. -/
theorem fpcTaRouteCommand_matchResult (h : fpcTaRouteCommand P env ta msg = .ok r)
    (hchallenge : commandOf msg ≠ some (.hwAuth .setAuthChallenge))
    (hidentify : commandOf msg ≠ some (.bio .identify)) :
    r.ta.bio.matchResult = ta.bio.matchResult := by
  cases fpcTaRouteCommand_routed h with
  | none _ timestamp hta => rw [hta]
  | fs cmd _ hswitch =>
    obtain ⟨userDb, hta⟩ := fsSwitch_frame hswitch
    rw [hta]
  | hwAuth cmd hcmd hswitch =>
    have heffect := hwAuthSwitch_effect hcmd hswitch
    generalize r.ta = ta' at heffect ⊢
    cases heffect with
    | none => rfl
    | setAuthChallenge hset =>
      obtain ⟨target, _, _, hmodule⟩ := commandOf_some hcmd
      obtain ⟨_, hhwAuth⟩ := moduleCommand_some hmodule
      rw [hset] at hhwAuth
      cases hhwAuth
      exact absurd hcmd hchallenge
    | getEnrolChallenge _ => rfl
    | authorizeEnrol _ _ => rfl
    | setSharedKey _ => rfl
  | dbBlob cmd _ hswitch =>
    obtain ⟨userDb, transfer, hta⟩ := dbBlobSwitch_frame hswitch
    rw [hta]
  | bio cmd hcmd hswitch =>
    obtain ⟨answer, reply, hreply, hta⟩ := bioRespond_ok hswitch
    rw [hta]
    apply bioSwitch_matchResult hreply
    rintro rfl
    exact hidentify hcmd
  | pn cmd _ hswitch =>
    obtain ⟨pn, hta⟩ := pnSwitch_frame hswitch
    rw [hta]

end

end Fpc
