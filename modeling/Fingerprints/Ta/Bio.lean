import Fingerprints.Ta.HwAuth

/-!
# Enrolling and identifying

`fpc_ta_bio.c`. The matcher works on a list of template pointers copied from the database, and
answers with indices into that list; a finger is found again by its template pointer. An index
the matcher chooses is not checked by the code: outside the list it is a fault.
-/

namespace Fpc

open Wire Wire.Outcome

def fpcCaptureOk : Int := 0
def fpcCaptureBadQuality : Int := 2

def fpcEnrolCompleted : Int := 0
def fpcEnrolProgress : Int := 1
def fpcEnrolFailedCouldNotComplete : Int := 2
def fpcEnrolFailedAlreadyEnroled : Int := 3
def fpcEnrolImageLowCoverage : Int := 4
def fpcEnrolImageTooSimilar : Int := 5
def fpcEnrolImageLowQuality : Int := 6

def fpcAlgoEnrollSuccess : UInt32 := 0
def fpcAlgoEnrollImageTooSimilar : UInt32 := 1
def fpcAlgoEnrollTooManyFailedAttempts : UInt32 := 3
def fpcAlgoEnrollFailLowCoverage : UInt32 := 5
def fpcAlgoEnrollFailAlreadyEnrolled : UInt32 := 7

/-! ## Enrolment -/

/-- `fpc_ta_bio_set_active_fingerprint_set` -/
def fpcTaBioSetActiveFingerprintSet (bio : Bio) (fingerprintSetKey : UInt32) : Int × Bio :=
  (0, { bio with activeSetKey := fingerprintSetKey })

/-- `fpc_ta_bio_qualify_image` -/
def fpcTaBioQualifyImage (env : Env) : Int :=
  let status := env.algo.qualifyImage.toInt
  if status = fpcResultBadQuality then fpcCaptureBadQuality
  else if failed status then -fpcErrorIo
  else fpcCaptureOk

/-- `fpc_ta_bio_begin_enrol`, which also begins an identification. -/
def fpcTaBioBeginEnrol (env : Env) (bio : Bio) : Outcome (Int × Bio) := do
  let bio := { bio with sizeList := fpcDbFingerprintsInSet }
  let (list, sizeList) ← fpcDbGetAllTemplates bio.userDb bio.list bio.sizeList
  let bio := { bio with list := list, sizeList := sizeList }
  if env.algo.beginIdentify ≠ 0 then
    .ok (fpcResultToError env.algo.beginIdentify.toInt, bio)
  else if env.algo.beginEnroll ≠ 0 then .ok (fpcResultToError env.algo.beginEnroll.toInt, bio)
  else .ok (0, bio)

/-- The answer of `fpc_ta_bio_enrol` to what the matcher made of the image. -/
def enrolAnswer (data : EnrollData) : Int :=
  if data.result = fpcAlgoEnrollSuccess then
    if data.remainingTouches = 0 then fpcEnrolCompleted else fpcEnrolProgress
  else if data.result = fpcAlgoEnrollImageTooSimilar then
    if data.remainingTouches = 0 then fpcEnrolCompleted else fpcEnrolImageTooSimilar
  else if data.result = fpcAlgoEnrollFailAlreadyEnrolled then fpcEnrolFailedAlreadyEnroled
  else if data.result = fpcAlgoEnrollTooManyFailedAttempts then fpcEnrolFailedCouldNotComplete
  else if data.result = fpcAlgoEnrollFailLowCoverage then fpcEnrolImageLowCoverage
  else fpcEnrolImageLowQuality

/-- `fpc_ta_bio_enrol`: its status, the instance, and the touches that remain where it sets
them. -/
def fpcTaBioEnrol (env : Env) (bio : Bio) : Int × Bio × Option UInt32 :=
  let (status, enrollData) := env.algo.enroll
  let bio := { bio with enrollData := enrollData }
  if failed status.toInt then (fpcResultToError status.toInt, bio, none)
  else (enrolAnswer enrollData, bio, some enrollData.remainingTouches)

/-- What `fpc_ta_bio_end_enrol` leaves. -/
structure EndedEnrol where
  status : Int
  bio : Bio
  hwAuth : HwAuthTa
  id : Option UInt32
  deriving DecidableEq, Repr

/-- `fpc_ta_bio_end_enrol`. The token is validated again before the finger is added. -/
def fpcTaBioEndEnrol (P : Platform) (env : Env) (bio : Bio) (hwAuth : HwAuthTa) : EndedEnrol :=
  match env.algo.enrolMalloc with
  | none => { status := -fpcErrorAlloc, bio := bio, hwAuth := hwAuth, id := none }
  | some addr =>
      let (status, bytes) := env.algo.endEnroll
      let tpl := Template.ofList addr bio.enrollData.enrolledTemplateSize bytes
      if failed status.toInt then
        { status := fpcResultToError status.toInt, bio := bio, hwAuth := hwAuth, id := none }
      else
        match fpcEnrollmentAllowed P env hwAuth with
        | (none, hwAuth) =>
            { status := -fpcErrorInput, bio := bio, hwAuth := hwAuth, id := none }
        | (some userId, hwAuth) =>
            let added := fpcDbAddFingerprint env.db bio.userDb bio.activeSetKey userId tpl
            let bio := { bio with userDb := added.pDb }
            if added.status ≠ 0 then
              { status := -fpcErrorInput, bio := bio, hwAuth := hwAuth, id := none }
            else
              match fpcDbGetFingerprintId bio.userDb bio.activeSetKey added.index with
              | .error _ => { status := -fpcErrorInput, bio := bio, hwAuth := hwAuth, id := none }
              | .ok id256 =>
                  { status := 0, bio := bio, hwAuth := hwAuth, id := some (fpcDbTrimId32 id256) }

/-! ## Identification -/

/-- `fpc_ta_bio_identify_statistics_t` -/
structure IdentifyStatistics where
  coverage : UInt32
  quality : UInt32
  coveredZones : UInt32
  result : UInt32
  score : UInt32
  index : UInt32
  deriving DecidableEq, Repr

def IdentifyStatistics.zeroed : IdentifyStatistics :=
  { coverage := 0, quality := 0, coveredZones := 0, result := 0, score := 0, index := 0 }

/-- The statistics of an identification, before the index of the finger is known. -/
def IdentifyStatistics.ofData (data : IdentifyData) : IdentifyStatistics :=
  { coverage := data.coverage, quality := data.quality, coveredZones := data.coveredZones,
    result := data.result, score := data.score, index := 0 }

def IdentifyStatistics.bytes (s : IdentifyStatistics) : List UInt8 :=
  le32 s.coverage ++ (le32 s.quality ++ (le32 s.coveredZones ++ (le32 s.result ++
    (le32 s.score ++ le32 s.index))))

/-- What `fpc_ta_bio_identify` leaves: the statistics are those written to the message, and are
not written when there is no database. -/
structure Identified where
  status : Int
  bio : Bio
  id : UInt32
  statistics : Option IdentifyStatistics
  deriving DecidableEq, Repr

/-- `fpc_ta_liveness_enabled` -/
def fpcTaLivenessEnabled (P : Platform) (hwAuth : HwAuthTa) : UInt8 :=
  match P.liveness with
  | .enabled => 1
  | .appOnly => if fpcTaHwHasChallenge hwAuth then 1 else 0
  | .disabled => 0

/-- The error exit of `fpc_ta_bio_identify` once an identification has begun. -/
def identifyFailed (env : Env) (bio : Bio) (statistics : IdentifyStatistics) (status : Int) :
    Identified :=
  { status := status, bio := { bio with identData := env.algo.identifyUpdate.2 }, id := 0,
    statistics := some statistics }

/-- The part of `fpc_ta_bio_identify` that records a match: the index of the matcher is first one
of the list, and last one of a slot. -/
def recordMatch (env : Env) (imageTimestamp : UInt64) (bio : Bio)
    (statistics : IdentifyStatistics) : Outcome Identified :=
  let index := bio.identData.index.toNat
  if h : index < fpcDbFingerprintsInSet then
    match fpcDbGetIndexOfTemplate bio.userDb bio.list[index] with
    | .fault f => .fault f
    | .err code => .ok (identifyFailed env bio statistics code)
    | .ok dbIndex =>
        let statistics := { statistics with index := UInt32.ofNat dbIndex }
        match fpcDbGetFingerprintId bio.userDb bio.activeSetKey dbIndex with
        | .error code => .ok (identifyFailed env bio statistics code)
        | .ok id256 => do
            let templateId := fpcDbTrimId32 id256
            let matchResult : MatchResult :=
              { timestamp := imageTimestamp, templateId := templateId, templateId256 := id256 }
            let db ← fpcDbSetTemplateFirst bio.userDb index
            .ok { status := 0, bio := { bio with matchResult := matchResult, userDb := some db },
                  id := templateId, statistics := some statistics }
  else .fault (.load index)

/-- `fpc_ta_bio_identify` -/
def fpcTaBioIdentify (P : Platform) (env : Env) (ta : Ta) : Outcome Identified :=
  let bio := { ta.bio with sizeList := fpcDbFingerprintsInSet }
  if bio.userDb = none then
    .ok { status := -fpcErrorInput, bio := bio, id := 0, statistics := none }
  else
    let status := fpcTaBioQualifyImage env
    if status ≠ fpcCaptureOk then
      .ok { status := status, bio := bio, id := 0, statistics := some .zeroed }
    else do
      let bio := { bio with identData := IdentifyData.zeroed }
      let (list, sizeList) ← fpcDbGetAllTemplates bio.userDb bio.list bio.sizeList
      let bio := { bio with list := list, sizeList := sizeList }
      if sizeList = 0 then
        .ok { status := -fpcErrorNoentity, bio := bio, id := 0, statistics := some .zeroed }
      else if failed env.algo.beginIdentify.toInt then
        .ok { status := fpcResultToError env.algo.beginIdentify.toInt, bio := bio, id := 0,
              statistics := some .zeroed }
      else
        let (status, identData) := env.algo.identify (fpcTaLivenessEnabled P ta.hwAuth)
        let bio := { bio with identData := identData }
        if failed status.toInt then
          .ok (identifyFailed env bio .zeroed (fpcResultToError status.toInt))
        else
          let statistics := IdentifyStatistics.ofData identData
          if identData.result = fpcAlgoIdentifyMatch then
            recordMatch env ta.imageTimestamp bio statistics
          else .ok { status := 0, bio := bio, id := 0, statistics := some statistics }

/-! ## Updating, deleting, loading -/

/-- A slot's template replaced by a new block. -/
def FingerprintSet.replaceTemplate (set : FingerprintSet) (index : Nat) (tpl : Template) :
    FingerprintSet :=
  let old := set.aFingerprintList.toList.getD index Fingerprint.zeroed
  set.withSlots (set.aFingerprintList.setIfInBounds index { old with ftemplate := some tpl })

def replaceTemplate (pDb : Option FingerprintDatabase) (index : Nat) (tpl : Template) :
    Option FingerprintDatabase :=
  pDb.map fun db =>
    { db with pFingerprintSet := db.pFingerprintSet.map (·.replaceTemplate index tpl) }

/-- The loop of `fpc_ta_bio_update_template`, `n` turns of it from turn `i`. The matcher fills the
new blocks after the loop; they are shown with what it fills in. -/
def updateTemplates (env : Env) (bio : Bio) :
    (n i : Nat) → Option FingerprintDatabase → Outcome (Int × Option FingerprintDatabase)
  | 0, _, pDb => .ok (0, pDb)
  | n + 1, i, pDb =>
      if h : i < fpcAlgoMaxTemplateHandles then
        let listIndex := bio.identData.updatedTemplateIndices[i].toNat
        if hlist : listIndex < fpcDbFingerprintsInSet then
          match fpcDbGetIndexOfTemplate pDb bio.list[listIndex] with
          | .fault f => .fault f
          | .err code => .ok (code, pDb)
          | .ok dbIndex =>
              match fpcDbGetTemplate pDb bio.activeSetKey dbIndex with
              | .error code => .ok (code, pDb)
              | .ok _ =>
                  match env.algo.updateMalloc i with
                  | none => .ok (-fpcErrorAlloc, pDb)
                  | some addr =>
                      let tpl := Template.ofList addr bio.identData.updatedTemplateSizes[i]
                        (env.algo.updatedTemplate i)
                      updateTemplates env bio n (i + 1) (replaceTemplate pDb dbIndex tpl)
        else .fault (.load listIndex)
      else .fault (.load i)

/-- `fpc_ta_bio_update_template`: its status, the instance, and whether it updated where it says
so. -/
def fpcTaBioUpdateTemplate (env : Env) (bio : Bio) : Outcome (Int × Bio × Option UInt32) :=
  let (status, identData) := env.algo.identifyUpdate
  let bio := { bio with identData := identData }
  if status ≠ 0 then .ok (fpcResultToError status.toInt, bio, none)
  else if identData.updateResult = fpcAlgoUpdatedTemplate then do
    let (status, pDb) ← updateTemplates env bio identData.numUpdatedTemplates.toNat 0 bio.userDb
    let bio := { bio with userDb := pDb }
    if status ≠ 0 then .ok (status, bio, none)
    else if env.algo.updateTemplates ≠ 0 then
      .ok (fpcResultToError env.algo.updateTemplates.toInt, bio, none)
    else if env.algo.endIdentify ≠ 0 then
      .ok (fpcResultToError env.algo.endIdentify.toInt, bio, some 1)
    else .ok (0, bio, some 1)
  else if env.algo.endIdentify ≠ 0 then
    .ok (fpcResultToError env.algo.endIdentify.toInt, bio, some 0)
  else .ok (0, bio, some 0)

/-- `fpc_ta_bio_delete_template` -/
def fpcTaBioDeleteTemplate (bio : Bio) (id : UInt32) : Outcome (Int × Bio) :=
  if id = 0 then .ok (-fpcErrorConfig, bio)
  else
    match fpcDbGetIndexOfId32 bio.userDb id with
    | .fault f => .fault f
    | .err status => .ok (status, bio)
    | .ok index =>
        let (status, pDb) := fpcDbDeleteFingerprint bio.userDb bio.activeSetKey index
        .ok (status, { bio with userDb := pDb })

/-- `fpc_ta_bio_load_empty_db`. The old database is gone also when a new one cannot be made. -/
def fpcTaBioLoadEmptyDb (env : Env) (bio : Bio) : Outcome (Int × Bio) :=
  match fpcDbCreate env.db none 0 with
  | .fault f => .fault f
  | .err code => .ok (code, { bio with userDb := none })
  | .ok db => .ok (0, { bio with userDb := some db })

/-- The loop of `fpc_ta_bio_get_template_ids`, from entry `i` of the reply on. -/
def storeIds (bio : Bio) : List Nat → Nat → List UInt8 → Outcome (Int × List UInt8)
  | [], _, msg => .ok (0, msg)
  | index :: rest, i, msg =>
      match fpcDbGetFingerprintId bio.userDb bio.activeSetKey index with
      | .error code => .ok (code, msg)
      | .ok largeTid => do
          let msg ← store32 msg (offArray + 4 * i) (fpcDbTrimId32 largeTid)
          storeIds bio rest (i + 1) msg

/-- `fpc_ta_bio_get_template_ids`, into the message: its status, the message, and the number of
ids where it sets it. -/
def fpcTaBioGetTemplateIds (bio : Bio) (size : UInt32) (msg : List UInt8) :
    Outcome (Int × List UInt8 × Option UInt32) :=
  match fpcDbGetIndices bio.userDb bio.activeSetKey with
  | .error code => .ok (code, msg, none)
  | .ok indices =>
      if indices.length > size.toNat then .ok (-fpcErrorInput, msg, none)
      else do
        let (status, msg) ← storeIds bio indices 0 msg
        if status ≠ 0 then .ok (status, msg, none)
        else .ok (0, msg, some (UInt32.ofNat indices.length))

/-! ## The handler -/

/-- The commands of the module. -/
inductive BioCmd where
  | beginEnrol
  | enrol
  | endEnrol
  | identify
  | updateTemplate
  | loadEmptyDb
  | getFingerIds
  | deleteTemplate
  | setActiveFingerprintSet
  | getTemplateDbId
  | getIdentifyStatistics
  deriving DecidableEq, Repr

def BioCmd.ofWord (command : UInt32) : Option BioCmd :=
  if command = 0 then some .beginEnrol
  else if command = 1 then some .enrol
  else if command = 2 then some .endEnrol
  else if command = 3 then some .identify
  else if command = 4 then some .updateTemplate
  else if command = 6 then some .loadEmptyDb
  else if command = 7 then some .getFingerIds
  else if command = 8 then some .deleteTemplate
  else if command = 9 then some .setActiveFingerprintSet
  else if command = 10 then some .getTemplateDbId
  else if command = 17 then some .getIdentifyStatistics
  else none

/-- What a case of the switch leaves: the state, the message, the response and the answer. -/
structure BioReply where
  ta : Ta
  msg : List UInt8
  response : Int
  answer : UInt32
  deriving DecidableEq, Repr

/-- The switch of `fpc_ta_bio_command_handler`. -/
def bioSwitch (P : Platform) (env : Env) (ta : Ta) (msg : List UInt8) (answer : UInt32) :
    BioCmd → Outcome BioReply
  | .setActiveFingerprintSet =>
      let (response, bio) := fpcTaBioSetActiveFingerprintSet ta.bio answer
      .ok { ta := { ta with bio := bio }, msg := msg, response := response, answer := answer }
  | .beginEnrol => do
      let (response, bio) ← fpcTaBioBeginEnrol env ta.bio
      .ok { ta := { ta with bio := bio }, msg := msg, response := response, answer := answer }
  | .enrol =>
      let (response, bio, remaining) := fpcTaBioEnrol env ta.bio
      .ok { ta := { ta with bio := bio }, msg := msg, response := response,
            answer := remaining.getD answer }
  | .endEnrol =>
      let ended := fpcTaBioEndEnrol P env ta.bio ta.hwAuth
      .ok { ta := { ta with bio := ended.bio, hwAuth := ended.hwAuth }, msg := msg,
            response := ended.status, answer := ended.id.getD answer }
  | .identify => do
      let identified ← fpcTaBioIdentify P env ta
      match identified.statistics with
      | none =>
          .ok { ta := { ta with bio := identified.bio }, msg := msg,
                response := identified.status, answer := answer }
      | some statistics => do
          let msg ← storeSpan msg offArray statistics.bytes
          .ok { ta := { ta with bio := identified.bio }, msg := msg,
                response := identified.status, answer := identified.id }
  | .updateTemplate => do
      let (response, bio, didUpdate) ← fpcTaBioUpdateTemplate env ta.bio
      .ok { ta := { ta with bio := bio }, msg := msg, response := response,
            answer := didUpdate.getD answer }
  | .loadEmptyDb => do
      let (response, bio) ← fpcTaBioLoadEmptyDb env ta.bio
      .ok { ta := { ta with bio := bio }, msg := msg, response := response, answer := answer }
  | .getFingerIds => do
      let (response, msg, size) ← fpcTaBioGetTemplateIds ta.bio answer msg
      .ok { ta := ta, msg := msg, response := response, answer := size.getD answer }
  | .deleteTemplate => do
      let (response, bio) ← fpcTaBioDeleteTemplate ta.bio answer
      .ok { ta := { ta with bio := bio }, msg := msg, response := response, answer := answer }
  | .getTemplateDbId =>
      match fpcDbGetDatabaseId ta.bio.userDb with
      | .error code => .ok { ta := ta, msg := msg, response := code, answer := answer }
      | .ok id => do
          let msg ← store64 msg offArray id
          .ok { ta := ta, msg := msg, response := 0, answer := answer }
  | .getIdentifyStatistics => do
      let msg ← storeSpan msg offArray (IdentifyStatistics.ofData ta.bio.identData).bytes
      .ok { ta := ta, msg := msg, response := 0, answer := answer }

/-- A case of the switch, and then the response and the answer into the message. -/
def bioRespond (P : Platform) (env : Env) (ta : Ta) (msg : List UInt8) (cmd : BioCmd) :
    Outcome Handled := do
  let answer ← load32 msg offAnswer
  let reply ← bioSwitch P env ta msg answer cmd
  let msg ← store32 reply.msg offResponse (ofInt32 reply.response)
  let msg ← store32 msg offAnswer reply.answer
  .ok { ta := reply.ta, msg := msg, status := 0 }

/-- `fpc_ta_bio_command_handler` -/
def fpcTaBioCommandHandler (P : Platform) (env : Env) (ta : Ta) (msg : List UInt8) :
    Outcome Handled :=
  handleCommand sizeofBioCommand BioCmd.ofWord (bioRespond P env ta msg) ta msg

/-- The command of a message that the handler takes up. -/
def bioCmd : List UInt8 → Option BioCmd := commandIn sizeofBioCommand BioCmd.ofWord

end Fpc
