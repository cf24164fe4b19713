import Fingerprints.Ta.FailedUpdate
import Fingerprints.Ta.TemplateUpdates
import Fingerprints.Ta.Transfer

/-!
# What a command does to the database

Each command leaves the database as it is, or does one thing to it: it loads one, adds a finger,
deletes one, puts one in front, or replaces templates.

* **`step_dbChange`** says which, with the arguments that the command passes;
* **`Event.image`** is what a load decodes, and **`Event.GetsToAdd`** when the end of an enrolment
  adds its finger.
-/

namespace Fpc

open Wire Wire.Outcome Runs

/-! ## What a command is given -/

/-- The bytes that a load decodes: those of the file for `LOAD_DB`, those of the transfer for the
`DB_WRITE` that completes it, none for `LOAD_EMPTY_DB`. -/
def Event.image (e : Event) : Option (List UInt8) :=
  if e.is (.fs .loadDb) then some (ofList e.env.fs.getFilesize.2.toNat 0 e.env.fs.read.2).toList
  else if e.is (.dbBlob .dbWrite) then
    let taken := e.pre.transfer.take (e.pre.transfer.data.getD []) e.msg
      (field32 e.msg offSize).toNat
    some (fpcUnwrapCrypto e.env (taken.data.getD [])).data
  else none

/-- The size that a load passes with them. -/
def Event.imageSize (e : Event) : Nat := (e.image.getD []).length

/-- The template that the end of an enrolment makes, in the block it got. -/
def Event.madeTemplate (e : Event) (addr : Addr) : Template :=
  .ofList addr e.pre.bio.enrollData.enrolledTemplateSize e.env.algo.endEnroll.2

/-- The command is an `END_ENROL` that gets as far as adding the finger: it has a block for the
template, the matcher fills it, and the token allows it to enrol the user. -/
structure Event.GetsToAdd (P : Platform) (e : Event) (addr : Addr) (user : UInt64) : Prop where
  command : e.is (.bio .endEnrol) = true
  malloc : e.env.algo.enrolMalloc = some addr
  ended : ¬ failed e.env.algo.endEnroll.1.toInt
  allowed : (fpcEnrollmentAllowed P e.env e.pre.hwAuth).1 = some user

/-- What the call of `fpc_db_add_fingerprint` leaves. -/
def Event.added (e : Event) (addr : Addr) (user : UInt64) : AddedFingerprint :=
  fpcDbAddFingerprint e.env.db e.pre.bio.userDb e.pre.bio.activeSetKey user (e.madeTemplate addr)

/-- The turns of the loop of an update: the templates that the matcher says it updated. -/
def Event.turns (e : Event) : Nat := e.env.algo.identifyUpdate.2.numUpdatedTemplates.toNat

/-- What a command makes of the database. -/
inductive DbChange (P : Platform) (e : Event) : Option FingerprintDatabase → Prop
  | kept : DbChange P e e.pre.bio.userDb
  | dropped (hload : e.loads = true) : DbChange P e none
  | created {db : FingerprintDatabase} (hload : e.loads = true)
      (hcreate : fpcDbCreate e.env.db e.image e.imageSize = .ok db) : DbChange P e (some db)
  | added {addr : Addr} {user : UInt64} (hadd : e.GetsToAdd P addr user) :
      DbChange P e (e.added addr user).pDb
  | deleted {index : Nat} (hcmd : e.is (.bio .deleteTemplate) = true) :
      DbChange P e
        (fpcDbDeleteFingerprint e.pre.bio.userDb e.pre.bio.activeSetKey index).2
  | fronted {i : Nat} {db : FingerprintDatabase} (hcmd : isIdentify e = true)
      (hfront : fpcDbSetTemplateFirst e.pre.bio.userDb i = .ok db) : DbChange P e (some db)
  | updated {status : Int} {pDb : Option FingerprintDatabase} (hcmd : isUpdateTemplate e = true)
      (hanswer : e.env.algo.identifyUpdate.1 = 0 ∧
        e.env.algo.identifyUpdate.2.updateResult = fpcAlgoUpdatedTemplate)
      (hloop : updateTemplates e.env (e.pre.bio.toUpdate e.env) e.turns 0 e.pre.bio.userDb
        = .ok (status, pDb)) : DbChange P e pDb

section

variable {P : Platform} {ta ta' : Ta} {e : Event}

theorem DbChange.of_eq {pDb : Option FingerprintDatabase} (h : pDb = e.pre.bio.userDb) :
    DbChange P e pDb := by
  rw [h]
  exact .kept

/-! ## Loads -/

theorem Event.image_loadDb (h : e.is (.fs .loadDb) = true) :
    e.image = some (ofList e.env.fs.getFilesize.2.toNat 0 e.env.fs.read.2).toList := by
  rw [Event.image, if_pos h]

theorem Event.image_loadEmptyDb (h : e.is (.bio .loadEmptyDb) = true) : e.image = none := by
  rw [Event.image, is_unique h (by decide), is_unique h (by decide)]
  rfl

theorem Event.image_dbWrite (h : e.is (.dbBlob .dbWrite) = true) {data : List UInt8}
    (hdata : e.pre.transfer.data = some data) :
    e.image = some (fpcUnwrapCrypto e.env ((e.pre.transfer.take data e.msg
      (field32 e.msg offSize).toNat).data.getD [])).data := by
  rw [Event.image, is_unique h (by decide), if_neg Bool.false_ne_true, if_pos h, hdata]
  rfl

theorem Event.loads_loadEmptyDb (h : e.is (.bio .loadEmptyDb) = true) : e.loads = true := by
  rw [Event.loads, h, Bool.or_true, Bool.true_or]

/-- A file that is loaded is decoded, or there is no database. -/
theorem fpcTaLoadDbFromFile_decoded {status : Int} {userDb : Option FingerprintDatabase}
    (hcmd : e.is (.fs .loadDb) = true) (h : fpcTaLoadDbFromFile e.env = .ok (status, userDb)) :
    userDb = none ∨ ∃ db, fpcDbCreate e.env.db e.image e.imageSize = .ok db ∧ userDb = some db := by
  unfold fpcTaLoadDbFromFile at h
  dsimp only at h
  split at h
  · cases h
    exact Or.inl rfl
  · split at h
    · cases h
      exact Or.inl rfl
    · split at h
      · cases h
        exact Or.inl rfl
      · split at h
        · cases h
          exact Or.inl rfl
        · split at h
          · cases h
            exact Or.inl rfl
          · split at h
            · cases h
            · cases h
              exact Or.inl rfl
            · next db hcreate =>
              cases h
              refine Or.inr ⟨db, ?_, rfl⟩
              rw [Event.imageSize, Event.image_loadDb hcmd, Option.getD_some,
                Vector.length_toList]
              exact hcreate

theorem dbChange_loadDb {status : Int} {userDb : Option FingerprintDatabase}
    (hcmd : e.is (.fs .loadDb) = true) (hload : e.loads = true)
    (h : fpcTaLoadDbFromFile e.env = .ok (status, userDb)) : DbChange P e userDb := by
  obtain rfl | ⟨db, hcreate, rfl⟩ := fpcTaLoadDbFromFile_decoded hcmd h
  · exact .dropped hload
  · exact .created hload hcreate

theorem dbChange_fs {cmd : FsCmd} (hcmd : e.is (.fs cmd) = true)
    (h : fsSwitch e.env e.pre e.msg cmd = .ok e.result) :
    DbChange P e e.result.ta.bio.userDb := by
  cases fsSwitch_ran h with
  | kept _ hta => exact .of_eq (by rw [hta])
  | loaded hvalid hfile hta =>
    have hloads : e.loads = true := by
      rw [Event.loads, hcmd, hvalid]
      rfl
    rw [hta]
    exact dbChange_loadDb hcmd hloads hfile

theorem dbChange_loadEmptyDb {bio : Bio} {status : Int}
    (hcmd : e.is (.bio .loadEmptyDb) = true)
    (h : fpcTaBioLoadEmptyDb e.env e.pre.bio = .ok (status, bio)) : DbChange P e bio.userDb := by
  have hload := Event.loads_loadEmptyDb hcmd
  cases fpcTaBioLoadEmptyDb_cases h with
  | dropped _ => exact .dropped hload
  | created hcreate =>
    apply DbChange.created hload
    rw [Event.imageSize, Event.image_loadEmptyDb hcmd]
    exact hcreate

/-- A transfer from the outside that is completed is decoded, or the database stays. -/
theorem step_dbBlob_decoded {cmd : DbBlobCmd} (h : (taSystem P).step ta e ta')
    (hcmd : e.is (.dbBlob cmd) = true)
    (hswitch : dbBlobSwitch P e.env e.pre e.msg cmd = .ok e.result) :
    e.result.ta.bio.userDb = e.pre.bio.userDb ∨ e.loads = true ∧
      ∃ db, fpcDbCreate e.env.db e.image e.imageSize = .ok db ∧
        e.result.ta.bio.userDb = some db := by
  obtain hkept | ⟨rfl, hstatus, hresponse⟩ := dbBlobSwitch_userDb hswitch
  · exact Or.inl hkept
  · have hload : e.loads = true := by
      rw [Event.loads, hcmd, hstatus, Event.response, Event.resultAt, hresponse]
      simp
    obtain ⟨rfl, _, rfl⟩ := id h
    obtain ⟨_, hta⟩ | ⟨_, result, bio, transfer, heffect, hta⟩ := step_dbWrite h hcmd
    · exact Or.inl (by rw [hta])
    · rw [hta]
      cases heffect with
      | refused _ => exact Or.inl rfl
      | copied _ _ _ _ => exact Or.inl rfl
      | completed _ _ _ hdata _ hunwrap =>
        unfold unwrap at hunwrap
        dsimp only at hunwrap
        split at hunwrap
        · cases hunwrap
          exact Or.inl rfl
        · split at hunwrap
          · cases hunwrap
          · cases hunwrap
            exact Or.inl rfl
          · next db hcreate =>
            cases hunwrap
            refine Or.inr ⟨hload, db, ?_, rfl⟩
            rw [Event.imageSize, Event.image_dbWrite hcmd hdata]
            exact hcreate

theorem dbChange_dbBlob {cmd : DbBlobCmd} (h : (taSystem P).step ta e ta')
    (hcmd : e.is (.dbBlob cmd) = true)
    (hswitch : dbBlobSwitch P e.env e.pre e.msg cmd = .ok e.result) :
    DbChange P e e.result.ta.bio.userDb := by
  obtain hkept | ⟨hload, db, hcreate, hdb⟩ := step_dbBlob_decoded h hcmd hswitch
  · exact .of_eq hkept
  · rw [hdb]
    exact .created hload hcreate

/-! ## Enrolling -/

/-- An `END_ENROL` adds a finger where it gets as far as that. -/
theorem Event.GetsToAdd.userDb {addr : Addr} {user : UInt64} (h : e.GetsToAdd P addr user) :
    (fpcTaBioEndEnrol P e.env e.pre.bio e.pre.hwAuth).bio.userDb = (e.added addr user).pDb := by
  obtain ⟨_, hmalloc, hended, hallowed⟩ := h
  unfold fpcTaBioEndEnrol
  rw [hmalloc]
  dsimp only
  rw [if_neg hended]
  split
  · next hnone =>
    rw [hnone] at hallowed
    cases hallowed
  · next user' hwAuth hsome =>
    rw [hsome] at hallowed
    cases hallowed
    split
    · rfl
    · split
      · rfl
      · rfl

/-- And leaves the database where it does not. -/
theorem fpcTaBioEndEnrol_kept_of (hcmd : e.is (.bio .endEnrol) = true)
    (h : ∀ addr user, ¬ e.GetsToAdd P addr user) :
    (fpcTaBioEndEnrol P e.env e.pre.bio e.pre.hwAuth).bio.userDb = e.pre.bio.userDb := by
  unfold fpcTaBioEndEnrol
  split
  · rfl
  · next addr hmalloc =>
    dsimp only
    split
    · rfl
    · next hended =>
      split
      · rfl
      · next user hwAuth hallowed =>
        refine absurd ?_ (h addr user)
        exact { command := hcmd, malloc := hmalloc, ended := hended, allowed := by rw [hallowed] }

theorem dbChange_endEnrol (hcmd : e.is (.bio .endEnrol) = true) :
    DbChange P e (fpcTaBioEndEnrol P e.env e.pre.bio e.pre.hwAuth).bio.userDb := by
  by_cases hadd : ∃ addr user, e.GetsToAdd P addr user
  · obtain ⟨addr, user, hadd⟩ := hadd
    rw [hadd.userDb]
    exact .added hadd
  · apply DbChange.of_eq
    apply fpcTaBioEndEnrol_kept_of hcmd
    intro addr user hadds
    exact hadd ⟨addr, user, hadds⟩

/-! ## The commands -/

theorem dbChange_bio {cmd : BioCmd} {answer : UInt32} {reply : BioReply}
    (hcmd : e.is (.bio cmd) = true)
    (h : bioSwitch P e.env e.pre e.msg answer cmd = .ok reply) :
    DbChange P e reply.ta.bio.userDb := by
  cases hkeeps : cmd.keepsDb with
  | true => exact .of_eq (bioSwitch_sameDb h hkeeps).userDb
  | false =>
    cases bioSwitch_ran h with
    | beginEnrol _ => cases hkeeps
    | enrol _ => cases hkeeps
    | getFingerIds _ => cases hkeeps
    | getTemplateDbId _ => cases hkeeps
    | getIdentifyStatistics _ => cases hkeeps
    | setActiveFingerprintSet hbio =>
      rw [hbio]
      exact .kept
    | endEnrol hbio =>
      rw [hbio]
      exact dbChange_endEnrol hcmd
    | loadEmptyDb hempty => exact dbChange_loadEmptyDb hcmd hempty
    | identify hidentify hbio =>
      rw [hbio]
      obtain ⟨_, db, hfront, hdb⟩ | ⟨_, hkept⟩ := fpcTaBioIdentify_userDb hidentify
      · rw [hdb]
        exact .fronted hcmd hfront
      · exact .of_eq hkept
    | updateTemplate hupdate =>
      generalize reply.ta.bio = bio at hupdate ⊢
      cases fpcTaBioUpdateTemplate_cases hupdate with
      | skipped _ => exact .kept
      | looped hstatus hresult hloop => exact .updated hcmd ⟨hstatus, hresult⟩ hloop
    | deleteTemplate hdelete =>
      generalize reply.ta.bio = bio at hdelete ⊢
      cases fpcTaBioDeleteTemplate_cases hdelete with
      | noId _ => exact .kept
      | missed _ _ => exact .kept
      | found _ _ => exact .deleted hcmd

/-- **What a command does to the database.** -/
theorem step_dbChange (h : (taSystem P).step ta e ta') : DbChange P e ta'.bio.userDb := by
  obtain ⟨rfl, hroute, rfl⟩ := id h
  cases fpcTaRouteCommand_routed hroute with
  | none _ timestamp hta => exact .of_eq (by rw [hta])
  | fs cmd hcmd hswitch => exact dbChange_fs (is_iff.mpr hcmd) hswitch
  | hwAuth cmd hcmd hswitch =>
    apply DbChange.of_eq
    obtain ⟨matchResult, hwAuth, hta⟩ := hwAuthSwitch_frame hcmd hswitch
    rw [hta]
  | dbBlob cmd hcmd hswitch => exact dbChange_dbBlob h (is_iff.mpr hcmd) hswitch
  | bio cmd hcmd hswitch =>
    obtain ⟨answer, reply, hreply, hta⟩ := bioRespond_ok hswitch
    rw [hta]
    exact dbChange_bio (is_iff.mpr hcmd) hreply
  | pn cmd _ hswitch =>
    obtain ⟨pn, hta⟩ := pnSwitch_frame hswitch
    exact .of_eq (by rw [hta])

end

end Fpc
