import Fingerprints.Ta.Router

/-!
# What a command can change

Each module changes its own part of the state: the file module the database, the blob module the
database and the transfer, the pixel noise module its challenge and token, the sensor module the
time of the last image, the bio module its instance and, through the check of the token, the
challenge that is out. `fpcTaRouteCommand_hwAuth` sums this up for the challenges and the key.

What a command ran is stated once for each module: `fsSwitch_ran`, `dbBlobSwitch_ran`,
`pnSwitch_effect`, `bioSwitch_ran`, and for the functions behind a bio command
`fpcTaBioUpdateTemplate_cases`, `fpcTaBioLoadEmptyDb_cases`, `fpcTaBioDeleteTemplate_cases`.
-/

namespace Fpc

open Wire Wire.Outcome

section

variable {P : Platform} {env : Env} {ta : Ta} {msg : List UInt8} {r : Handled}

/-! ## Module by module -/

/-- What a file command does to the state: a load reads the file. -/
inductive FsRan (env : Env) (ta : Ta) (msg : List UInt8) (r : Handled) : FsCmd → Prop
  | kept {cmd : FsCmd} (hload : cmd = .loadDb → byteArrayStringValid msg = .ok false)
      (hta : r.ta = ta) : FsRan env ta msg r cmd
  | loaded {status : Int} {userDb : Option FingerprintDatabase}
      (hvalid : byteArrayStringValid msg = .ok true)
      (hfile : fpcTaLoadDbFromFile env = .ok (status, userDb))
      (hta : r.ta = { ta with bio := { ta.bio with userDb := userDb } }) :
      FsRan env ta msg r .loadDb

theorem fsSwitch_ran {cmd : FsCmd} (h : fsSwitch env ta msg cmd = .ok r) :
    FsRan env ta msg r cmd := by
  cases cmd with
  | loadDb =>
    obtain ⟨valid, hvalid, h⟩ := bind_eq_ok.mp h
    cases valid with
    | false =>
      cases h
      exact .kept (fun _ => hvalid) rfl
    | true =>
      obtain ⟨loaded, hfile, h⟩ := bind_eq_ok.mp h
      obtain ⟨_, _, h⟩ := bind_eq_ok.mp h
      cases h
      exact .loaded hvalid hfile rfl
  | storeDb =>
    obtain ⟨valid, _, h⟩ := bind_eq_ok.mp h
    split at h
    · cases h
      exact .kept nofun rfl
    · obtain ⟨_, _, h⟩ := bind_eq_ok.mp h
      obtain ⟨_, _, h⟩ := bind_eq_ok.mp h
      cases h
      exact .kept nofun rfl

theorem fsSwitch_frame {cmd : FsCmd} (h : fsSwitch env ta msg cmd = .ok r) :
    ∃ userDb, r.ta = { ta with bio := { ta.bio with userDb := userDb } } := by
  cases fsSwitch_ran h with
  | kept _ hta => exact ⟨ta.bio.userDb, hta⟩
  | loaded _ _ hta => exact ⟨_, hta⟩

theorem unwrap_frame {bio bio' : Bio} {transfer transfer' : Transfer} {result : Int}
    (h : unwrap env bio transfer = .ok (result, bio', transfer')) :
    ∃ userDb, bio' = { bio with userDb := userDb } := by
  unfold unwrap at h
  dsimp only at h
  split at h
  · cases h
    exact ⟨bio.userDb, rfl⟩
  · split at h
    · cases h
    · cases h
      exact ⟨bio.userDb, rfl⟩
    · cases h
      exact ⟨_, rfl⟩

theorem fpcTaDbWrite_frame {bio bio' : Bio} {transfer transfer' : Transfer} {size : Nat}
    {result : Int} (h : fpcTaDbWrite env bio transfer msg size = .ok (result, bio', transfer')) :
    ∃ userDb, bio' = { bio with userDb := userDb } := by
  unfold fpcTaDbWrite at h
  split at h
  · cases h
    exact ⟨bio.userDb, rfl⟩
  · split at h
    · cases h
      exact ⟨bio.userDb, rfl⟩
    · obtain ⟨copied, _, h⟩ := bind_eq_ok.mp h
      split at h
      · exact unwrap_frame h
      · cases h
        exact ⟨bio.userDb, rfl⟩

/-- What a blob command does to the state: a write may decode the transfer, the other commands
change the transfer at most. -/
inductive DbBlobRan (env : Env) (ta : Ta) (msg : List UInt8) (r : Handled) : DbBlobCmd → Prop
  | kept {cmd : DbBlobCmd} {transfer : Transfer} (hta : r.ta = { ta with transfer := transfer }) :
      DbBlobRan env ta msg r cmd
  | written {size : UInt32} {response : Int} {bio : Bio} {transfer : Transfer}
      (hwrite : fpcTaDbWrite env ta.bio ta.transfer msg size.toNat = .ok (response, bio, transfer))
      (hstore : store32 msg offResponse (ofInt32 response) = .ok r.msg) (hstatus : r.status = 0)
      (hta : r.ta = { ta with bio := bio, transfer := transfer }) :
      DbBlobRan env ta msg r .dbWrite

theorem dbBlobSwitch_ran {cmd : DbBlobCmd} (h : dbBlobSwitch P env ta msg cmd = .ok r) :
    DbBlobRan env ta msg r cmd := by
  cases cmd with
  | getDbSize =>
    obtain ⟨sized, _, h⟩ := bind_eq_ok.mp h
    obtain ⟨_, _, h⟩ := bind_eq_ok.mp h
    obtain ⟨_, _, h⟩ := bind_eq_ok.mp h
    cases h
    exact .kept rfl
  | dbOpen =>
    obtain ⟨_, _, h⟩ := bind_eq_ok.mp h
    obtain ⟨_, _, h⟩ := bind_eq_ok.mp h
    obtain ⟨opened, _, h⟩ := bind_eq_ok.mp h
    obtain ⟨_, _, h⟩ := bind_eq_ok.mp h
    cases h
    exact .kept rfl
  | dbClose =>
    obtain ⟨_, _, h⟩ := bind_eq_ok.mp h
    cases h
    exact .kept rfl
  | dbRead =>
    obtain ⟨valid, _, h⟩ := bind_eq_ok.mp h
    split at h
    · cases h
      exact .kept rfl
    · obtain ⟨_, _, h⟩ := bind_eq_ok.mp h
      obtain ⟨copied, _, h⟩ := bind_eq_ok.mp h
      obtain ⟨_, _, h⟩ := bind_eq_ok.mp h
      cases h
      exact .kept rfl
  | dbWrite =>
    obtain ⟨valid, _, h⟩ := bind_eq_ok.mp h
    split at h
    · cases h
      exact .kept rfl
    · obtain ⟨_, _, h⟩ := bind_eq_ok.mp h
      obtain ⟨_, hwrite, h⟩ := bind_eq_ok.mp h
      obtain ⟨_, hstore, h⟩ := bind_eq_ok.mp h
      cases h
      exact .written hwrite hstore rfl rfl

theorem dbBlobSwitch_frame {cmd : DbBlobCmd} (h : dbBlobSwitch P env ta msg cmd = .ok r) :
    ∃ userDb transfer,
      r.ta = { ta with bio := { ta.bio with userDb := userDb }, transfer := transfer } := by
  cases dbBlobSwitch_ran h with
  | kept hta => exact ⟨ta.bio.userDb, _, hta⟩
  | written hwrite _ _ hta =>
    obtain ⟨userDb, hbio⟩ := fpcTaDbWrite_frame hwrite
    rw [hbio] at hta
    exact ⟨userDb, _, hta⟩

/-- A handler of the common shape changes nothing, or does what its case of the switch does. -/
theorem handleCommand_cases {C : Type} {size : Nat} {ofWord : UInt32 → Option C}
    {handle : C → Outcome Handled} (hsize : sizeofHeader ≤ size)
    (h : handleCommand size ofWord handle ta msg = .ok r) :
    (commandIn size ofWord msg = none ∧ r.ta = ta) ∨
      ∃ cmd, commandIn size ofWord msg = some cmd ∧ handle cmd = .ok r := by
  cases hcmd : commandIn size ofWord msg with
  | none =>
    rw [handleCommand_of_none ta hsize hcmd] at h
    cases h
    exact Or.inl ⟨rfl, rfl⟩
  | some cmd =>
    rw [handleCommand_of_some ta hsize hcmd] at h
    exact Or.inr ⟨cmd, rfl, h⟩

theorem withArray_frame {f : Nat → Outcome (Int × List UInt8)} (h : withArray ta msg f = .ok r) :
    r.ta = ta := by
  obtain ⟨_, _, h⟩ := bind_eq_ok.mp h
  obtain ⟨_, _, h⟩ := bind_eq_ok.mp h
  obtain ⟨_, _, h⟩ := bind_eq_ok.mp h
  cases h
  rfl

theorem withSize_frame {encrypted : Bool} (h : withSize P ta msg encrypted = .ok r) :
    r.ta = ta := by
  obtain ⟨_, _, h⟩ := bind_eq_ok.mp h
  obtain ⟨_, _, h⟩ := bind_eq_ok.mp h
  cases h
  rfl

/-- What a command of the pixel noise module can do to the state. -/
inductive PnEffect (env : Env) (ta : Ta) (msg : List UInt8) (cmd : PnCmd) : Ta → Prop
  | kept (hchallenge : cmd ≠ .getChallenge)
      (hauthorize : cmd = .authorize → (field32 msg offSize).toNat < sizeofToken) :
      PnEffect env ta msg cmd ta
  | getChallenge (hcmd : cmd = .getChallenge) :
      PnEffect env ta msg cmd { ta with pnSecurity := (pnGetChallenge env ta.pnSecurity).2.2 }
  | authorize (hcmd : cmd = .authorize) (hsize : sizeofToken ≤ (field32 msg offSize).toNat) :
      PnEffect env ta msg cmd
        { ta with pnSecurity := { ta.pnSecurity with incomingToken := messageToken msg } }

/-- A token that is large enough is taken in, whatever the check of it says. -/
theorem pnAuthorize_ok {hwAuth : HwAuthTa} {pn : PnSecurity} {sizeToken : Nat}
    {authorized : Int × PnSecurity}
    (h : pnAuthorize P env hwAuth pn msg sizeToken = .ok authorized) :
    (sizeToken < sizeofToken ∧ authorized.2 = pn) ∨
      (sizeofToken ≤ sizeToken ∧
        authorized.2 = { pn with incomingToken := messageToken msg }) := by
  unfold pnAuthorize at h
  split at h
  · next hsize =>
    cases h
    exact Or.inl ⟨hsize, rfl⟩
  · next hsize =>
    obtain ⟨bytes, hbytes, h⟩ := bind_eq_ok.mp h
    cases loadSpan_ok hbytes
    cases h
    exact Or.inr ⟨Nat.le_of_not_lt hsize, rfl⟩

theorem pnSwitch_effect {cmd : PnCmd} (h : pnSwitch P env ta msg cmd = .ok r) :
    PnEffect env ta msg cmd r.ta := by
  -- the commands that answer with an image or a size leave the state
  have hkept : cmd ≠ .getChallenge → cmd ≠ .authorize → r.ta = ta → PnEffect env ta msg cmd r.ta := by
    intro hchallenge hauthorize hta
    rw [hta]
    exact .kept hchallenge fun hcmd => absurd hcmd hauthorize
  cases cmd with
  | calibrate => exact hkept (by decide) (by decide) (withArray_frame h)
  | getSize => exact hkept (by decide) (by decide) (withSize_frame h)
  | load => exact hkept (by decide) (by decide) (withArray_frame h)
  | calibrateFinger =>
    obtain ⟨_, _, h⟩ := bind_eq_ok.mp h
    obtain ⟨_, _, h⟩ := bind_eq_ok.mp h
    obtain ⟨_, _, h⟩ := bind_eq_ok.mp h
    obtain ⟨_, _, h⟩ := bind_eq_ok.mp h
    cases h
    exact hkept (by decide) (by decide) rfl
  | calibrateFingerEnd => exact hkept (by decide) (by decide) (withArray_frame h)
  | getChallenge =>
    obtain ⟨_, _, h⟩ := bind_eq_ok.mp h
    obtain ⟨_, _, h⟩ := bind_eq_ok.mp h
    cases h
    exact .getChallenge rfl
  | authorize =>
    obtain ⟨size, hload, h⟩ := bind_eq_ok.mp h
    obtain ⟨authorized, hauthorize, h⟩ := bind_eq_ok.mp h
    obtain ⟨_, _, h⟩ := bind_eq_ok.mp h
    rw [load32_ok hload] at hauthorize
    cases h
    show PnEffect env ta msg .authorize { ta with pnSecurity := authorized.2 }
    cases pnAuthorize_ok hauthorize with
    | inl hsmall =>
      rw [hsmall.2]
      exact .kept (by decide) fun _ => hsmall.1
    | inr htaken =>
      rw [htaken.2]
      exact .authorize rfl htaken.1
  | getUnencryptedSize => exact hkept (by decide) (by decide) (withSize_frame h)
  | getUnencryptedImage => exact hkept (by decide) (by decide) (withArray_frame h)

theorem pnSwitch_frame {cmd : PnCmd} (h : pnSwitch P env ta msg cmd = .ok r) :
    ∃ pn, r.ta = { ta with pnSecurity := pn } := by
  generalize hta : r.ta = ta'
  have heffect := pnSwitch_effect h
  rw [hta] at heffect
  cases heffect with
  | kept _ _ => exact ⟨ta.pnSecurity, rfl⟩
  | getChallenge _ => exact ⟨_, rfl⟩
  | authorize _ _ => exact ⟨_, rfl⟩

theorem fpcTaSensorCommandHandler_frame (h : fpcTaSensorCommandHandler env ta msg = .ok r) :
    ∃ timestamp, r.ta = { ta with imageTimestamp := timestamp } := by
  obtain ⟨_, _, h⟩ := bind_eq_ok.mp h
  split at h
  · cases h
    exact ⟨env.uptime, rfl⟩
  · cases h
    exact ⟨ta.imageTimestamp, rfl⟩

/-- The case of the switch that ran, in a bio command that was answered. -/
theorem bioRespond_ok {cmd : BioCmd} (h : bioRespond P env ta msg cmd = .ok r) :
    ∃ answer reply, bioSwitch P env ta msg answer cmd = .ok reply ∧ r.ta = reply.ta := by
  obtain ⟨answer, _, h⟩ := bind_eq_ok.mp h
  obtain ⟨reply, hreply, h⟩ := bind_eq_ok.mp h
  obtain ⟨_, _, h⟩ := bind_eq_ok.mp h
  obtain ⟨_, _, h⟩ := bind_eq_ok.mp h
  cases h
  exact ⟨answer, reply, hreply, rfl⟩

/-- Of the bio commands only the end of an enrolment looks at the token, and so may forget a
challenge. -/
theorem bioSwitch_frame {cmd : BioCmd} {answer : UInt32} {reply : BioReply}
    (h : bioSwitch P env ta msg answer cmd = .ok reply) :
    ∃ bio, reply.ta = { ta with bio := bio } ∨
      (cmd = .endEnrol ∧
        reply.ta = { ta with
          bio := bio, hwAuth := (fpcTaBioEndEnrol P env ta.bio ta.hwAuth).hwAuth }) := by
  cases cmd with
  | beginEnrol =>
    obtain ⟨begun, _, h⟩ := bind_eq_ok.mp h
    cases h
    exact ⟨begun.2, Or.inl rfl⟩
  | enrol =>
    cases h
    exact ⟨_, Or.inl rfl⟩
  | endEnrol =>
    cases h
    exact ⟨_, Or.inr ⟨rfl, rfl⟩⟩
  | identify =>
    obtain ⟨identified, _, h⟩ := bind_eq_ok.mp h
    refine ⟨identified.bio, Or.inl ?_⟩
    split at h
    · cases h
      rfl
    · obtain ⟨_, _, h⟩ := bind_eq_ok.mp h
      cases h
      rfl
  | updateTemplate =>
    obtain ⟨updated, _, h⟩ := bind_eq_ok.mp h
    cases h
    exact ⟨updated.2.1, Or.inl rfl⟩
  | loadEmptyDb =>
    obtain ⟨loaded, _, h⟩ := bind_eq_ok.mp h
    cases h
    exact ⟨loaded.2, Or.inl rfl⟩
  | getFingerIds =>
    obtain ⟨ids, _, h⟩ := bind_eq_ok.mp h
    cases h
    exact ⟨ta.bio, Or.inl rfl⟩
  | deleteTemplate =>
    obtain ⟨deleted, _, h⟩ := bind_eq_ok.mp h
    cases h
    exact ⟨deleted.2, Or.inl rfl⟩
  | setActiveFingerprintSet =>
    cases h
    exact ⟨_, Or.inl rfl⟩
  | getTemplateDbId =>
    refine ⟨ta.bio, Or.inl ?_⟩
    rw [bioSwitch] at h
    split at h
    · cases h
      rfl
    · obtain ⟨_, _, h⟩ := bind_eq_ok.mp h
      cases h
      rfl
  | getIdentifyStatistics =>
    obtain ⟨_, _, h⟩ := bind_eq_ok.mp h
    cases h
    exact ⟨ta.bio, Or.inl rfl⟩

/-- What a bio command makes of the instance, `bio'`. -/
inductive BioRan (P : Platform) (env : Env) (ta : Ta) (answer : UInt32) (bio' : Bio) :
    BioCmd → Prop
  | setActiveFingerprintSet (hbio : bio' = (fpcTaBioSetActiveFingerprintSet ta.bio answer).2) :
      BioRan P env ta answer bio' .setActiveFingerprintSet
  | beginEnrol {status : Int} (hbegin : fpcTaBioBeginEnrol env ta.bio = .ok (status, bio')) :
      BioRan P env ta answer bio' .beginEnrol
  | enrol (hbio : bio' = (fpcTaBioEnrol env ta.bio).2.1) : BioRan P env ta answer bio' .enrol
  | endEnrol (hbio : bio' = (fpcTaBioEndEnrol P env ta.bio ta.hwAuth).bio) :
      BioRan P env ta answer bio' .endEnrol
  | identify {identified : Identified} (hidentify : fpcTaBioIdentify P env ta = .ok identified)
      (hbio : bio' = identified.bio) : BioRan P env ta answer bio' .identify
  | updateTemplate {status : Int} {didUpdate : Option UInt32}
      (hupdate : fpcTaBioUpdateTemplate env ta.bio = .ok (status, bio', didUpdate)) :
      BioRan P env ta answer bio' .updateTemplate
  | loadEmptyDb {status : Int} (hload : fpcTaBioLoadEmptyDb env ta.bio = .ok (status, bio')) :
      BioRan P env ta answer bio' .loadEmptyDb
  | getFingerIds (hbio : bio' = ta.bio) : BioRan P env ta answer bio' .getFingerIds
  | deleteTemplate {status : Int}
      (hdelete : fpcTaBioDeleteTemplate ta.bio answer = .ok (status, bio')) :
      BioRan P env ta answer bio' .deleteTemplate
  | getTemplateDbId (hbio : bio' = ta.bio) : BioRan P env ta answer bio' .getTemplateDbId
  | getIdentifyStatistics (hbio : bio' = ta.bio) :
      BioRan P env ta answer bio' .getIdentifyStatistics

theorem bioSwitch_ran {cmd : BioCmd} {answer : UInt32} {reply : BioReply}
    (h : bioSwitch P env ta msg answer cmd = .ok reply) :
    BioRan P env ta answer reply.ta.bio cmd := by
  cases cmd with
  | setActiveFingerprintSet =>
    cases h
    exact .setActiveFingerprintSet rfl
  | beginEnrol =>
    obtain ⟨begun, hbegin, h⟩ := bind_eq_ok.mp h
    cases h
    exact .beginEnrol hbegin
  | enrol =>
    cases h
    exact .enrol rfl
  | endEnrol =>
    cases h
    exact .endEnrol rfl
  | identify =>
    obtain ⟨identified, hidentify, h⟩ := bind_eq_ok.mp h
    apply BioRan.identify hidentify
    split at h
    · cases h
      rfl
    · obtain ⟨_, _, h⟩ := bind_eq_ok.mp h
      cases h
      rfl
  | updateTemplate =>
    obtain ⟨updated, hupdate, h⟩ := bind_eq_ok.mp h
    cases h
    exact .updateTemplate hupdate
  | loadEmptyDb =>
    obtain ⟨loaded, hload, h⟩ := bind_eq_ok.mp h
    cases h
    exact .loadEmptyDb hload
  | getFingerIds =>
    obtain ⟨ids, _, h⟩ := bind_eq_ok.mp h
    cases h
    exact .getFingerIds rfl
  | deleteTemplate =>
    obtain ⟨deleted, hdelete, h⟩ := bind_eq_ok.mp h
    cases h
    exact .deleteTemplate hdelete
  | getTemplateDbId =>
    apply BioRan.getTemplateDbId
    rw [bioSwitch] at h
    split at h
    · cases h
      rfl
    · obtain ⟨_, _, h⟩ := bind_eq_ok.mp h
      cases h
      rfl
  | getIdentifyStatistics =>
    obtain ⟨_, _, h⟩ := bind_eq_ok.mp h
    cases h
    exact .getIdentifyStatistics rfl

/-! ## Updating, loading and deleting -/

section

variable {bio bio' : Bio} {status : Int}

/-- What an update leaves of an instance: with the database as its loop made it, or as it was. -/
inductive UpdateCase (env : Env) (bio : Bio) : Bio → Prop
  | skipped (hskip : env.algo.identifyUpdate.1 = 0 →
        env.algo.identifyUpdate.2.updateResult ≠ fpcAlgoUpdatedTemplate) :
      UpdateCase env bio { bio with identData := env.algo.identifyUpdate.2 }
  | looped {code : Int} {pDb : Option FingerprintDatabase}
      (hstatus : env.algo.identifyUpdate.1 = 0)
      (hupdated : env.algo.identifyUpdate.2.updateResult = fpcAlgoUpdatedTemplate)
      (hloop : updateTemplates env { bio with identData := env.algo.identifyUpdate.2 }
        env.algo.identifyUpdate.2.numUpdatedTemplates.toNat 0 bio.userDb = .ok (code, pDb)) :
      UpdateCase env bio { bio with identData := env.algo.identifyUpdate.2, userDb := pDb }

theorem fpcTaBioUpdateTemplate_cases {didUpdate : Option UInt32}
    (h : fpcTaBioUpdateTemplate env bio = .ok (status, bio', didUpdate)) :
    UpdateCase env bio bio' := by
  unfold fpcTaBioUpdateTemplate at h
  dsimp only at h
  split at h
  · next hstatus =>
    cases h
    exact .skipped fun hran => absurd hran hstatus
  · next hstatus =>
    split at h
    · next hupdated =>
      obtain ⟨⟨code, pDb⟩, hloop, h⟩ := bind_eq_ok.mp h
      have hlooped := UpdateCase.looped (not_not.mp hstatus) hupdated hloop
      -- the last calls of the matcher only set the status
      split at h
      · cases h
        exact hlooped
      · split at h
        · cases h
          exact hlooped
        · split at h
          · cases h
            exact hlooped
          · cases h
            exact hlooped
    · next hupdated =>
      split at h
      · cases h
        exact .skipped fun _ => hupdated
      · cases h
        exact .skipped fun _ => hupdated

/-- What `fpc_ta_bio_load_empty_db` comes to: a new database, or none. -/
inductive LoadCase (env : Env) (bio : Bio) : Int → Bio → Prop
  | dropped {code : Int} (hcreate : fpcDbCreate env.db none 0 = .err code) :
      LoadCase env bio code { bio with userDb := none }
  | created {db : FingerprintDatabase} (hcreate : fpcDbCreate env.db none 0 = .ok db) :
      LoadCase env bio 0 { bio with userDb := some db }

theorem fpcTaBioLoadEmptyDb_cases (h : fpcTaBioLoadEmptyDb env bio = .ok (status, bio')) :
    LoadCase env bio status bio' := by
  unfold fpcTaBioLoadEmptyDb at h
  split at h
  · cases h
  · next hcreate =>
    cases h
    exact .dropped hcreate
  · next hcreate =>
    cases h
    exact .created hcreate

/-- What `fpc_ta_bio_delete_template` comes to. -/
inductive DeleteCase (bio : Bio) (id : UInt32) : Int → Bio → Prop
  | noId (hid : id = 0) : DeleteCase bio id (-fpcErrorConfig) bio
  | missed {code : Int} (hid : id ≠ 0)
      (hindex : fpcDbGetIndexOfId32 bio.userDb id = .err code) : DeleteCase bio id code bio
  | found {index : Nat} (hid : id ≠ 0)
      (hindex : fpcDbGetIndexOfId32 bio.userDb id = .ok index) :
      DeleteCase bio id (fpcDbDeleteFingerprint bio.userDb bio.activeSetKey index).1
        { bio with userDb := (fpcDbDeleteFingerprint bio.userDb bio.activeSetKey index).2 }

theorem fpcTaBioDeleteTemplate_cases {id : UInt32}
    (h : fpcTaBioDeleteTemplate bio id = .ok (status, bio')) : DeleteCase bio id status bio' := by
  unfold fpcTaBioDeleteTemplate at h
  split at h
  · next hid =>
    cases h
    exact .noId hid
  · next hid =>
    split at h
    · cases h
    · next hindex =>
      cases h
      exact .missed hid hindex
    · next hindex =>
      cases h
      exact .found hid hindex

end

/-! ## Commands and their handlers -/

/-- A command belongs to the module its message is addressed to. -/
theorem commandOf_some {cmd : Command} (h : commandOf msg = some cmd) :
    ∃ target, sizeofHeader ≤ msg.length ∧
      Target.ofWord (field32 msg offTarget) = some target ∧
      moduleCommand msg target = some cmd := by
  unfold commandOf at h
  split at h
  · cases h
  · next hlen =>
    obtain ⟨target, htarget, hcmd⟩ := Option.bind_eq_some_iff.mp h
    exact ⟨target, Nat.le_of_not_lt hlen, htarget, hcmd⟩

theorem commandOf_of_target {target : Target} (hlen : sizeofHeader ≤ msg.length)
    (h : Target.ofWord (field32 msg offTarget) = some target) :
    commandOf msg = moduleCommand msg target := by
  unfold commandOf
  rw [if_neg (by omega), h]
  rfl

/-- A message with a command reaches the module that has it. -/
theorem moduleCommand_some {target : Target} {cmd : Command}
    (h : moduleCommand msg target = some cmd) :
    match cmd with
    | .fs c => target = .fs ∧ fsCmd msg = some c
    | .hwAuth c => target = .hwAuth ∧ hwAuthCmd msg = some c
    | .dbBlob c => target = .dbBlob ∧ dbBlobCmd msg = some c
    | .bio c => target = .bio ∧ bioCmd msg = some c
    | .pn c => target = .pn ∧ pnCmd msg = some c := by
  cases target with
  | fs =>
    obtain ⟨c, hc, rfl⟩ := Option.map_eq_some_iff.mp h
    exact ⟨rfl, hc⟩
  | hwAuth =>
    obtain ⟨c, hc, rfl⟩ := Option.map_eq_some_iff.mp h
    exact ⟨rfl, hc⟩
  | dbBlob =>
    obtain ⟨c, hc, rfl⟩ := Option.map_eq_some_iff.mp h
    exact ⟨rfl, hc⟩
  | sensor => cases h
  | bio =>
    obtain ⟨c, hc, rfl⟩ := Option.map_eq_some_iff.mp h
    exact ⟨rfl, hc⟩
  | pn =>
    obtain ⟨c, hc, rfl⟩ := Option.map_eq_some_iff.mp h
    exact ⟨rfl, hc⟩
  | other => cases h

/-- A command of the hardware authentication module is its case of the switch. -/
theorem fpcTaRouteCommand_of_hwAuth (P : Platform) (env : Env) (ta : Ta) {cmd : HwAuthCmd}
    (h : commandOf msg = some (.hwAuth cmd)) :
    sizeofHwAuthCommand ≤ msg.length ∧
      fpcTaRouteCommand P env ta msg = hwAuthSwitch P env ta msg cmd := by
  obtain ⟨target, hlen, htarget, hmodule⟩ := commandOf_some h
  obtain ⟨rfl, hcmd⟩ := moduleCommand_some hmodule
  refine ⟨le_length_of_commandIn hcmd, ?_⟩
  rw [fpcTaRouteCommand_of_target hlen htarget]
  exact handleCommand_of_some ta (by decide) hcmd

theorem fpcTaRouteCommand_of_bio (P : Platform) (env : Env) (ta : Ta) {cmd : BioCmd}
    (h : commandOf msg = some (.bio cmd)) :
    sizeofBioCommand ≤ msg.length ∧
      fpcTaRouteCommand P env ta msg = bioRespond P env ta msg cmd := by
  obtain ⟨target, hlen, htarget, hmodule⟩ := commandOf_some h
  obtain ⟨rfl, hcmd⟩ := moduleCommand_some hmodule
  refine ⟨le_length_of_commandIn hcmd, ?_⟩
  rw [fpcTaRouteCommand_of_target hlen htarget]
  exact handleCommand_of_some ta (by decide) hcmd

theorem fpcTaRouteCommand_of_dbBlob (P : Platform) (env : Env) (ta : Ta) {cmd : DbBlobCmd}
    (h : commandOf msg = some (.dbBlob cmd)) :
    sizeofBioCommand ≤ msg.length ∧
      fpcTaRouteCommand P env ta msg = dbBlobSwitch P env ta msg cmd := by
  obtain ⟨target, hlen, htarget, hmodule⟩ := commandOf_some h
  obtain ⟨rfl, hcmd⟩ := moduleCommand_some hmodule
  refine ⟨le_length_of_commandIn hcmd, ?_⟩
  rw [fpcTaRouteCommand_of_target hlen htarget]
  exact handleCommand_of_some ta (by decide) hcmd

theorem fpcTaRouteCommand_of_pn (P : Platform) (env : Env) (ta : Ta) {cmd : PnCmd}
    (h : commandOf msg = some (.pn cmd)) :
    sizeofPnCommand ≤ msg.length ∧
      fpcTaRouteCommand P env ta msg = pnSwitch P env ta msg cmd := by
  obtain ⟨target, hlen, htarget, hmodule⟩ := commandOf_some h
  obtain ⟨rfl, hcmd⟩ := moduleCommand_some hmodule
  refine ⟨le_length_of_commandIn hcmd, ?_⟩
  rw [fpcTaRouteCommand_of_target hlen htarget]
  exact handleCommand_of_some ta (by decide) hcmd

/-- A command ran the case of the switch of its module; a message without one left at most the time
of an image. -/
inductive Routed (P : Platform) (env : Env) (ta : Ta) (msg : List UInt8) (r : Handled) : Prop
  | none (hcmd : commandOf msg = none) (timestamp : UInt64)
      (hta : r.ta = { ta with imageTimestamp := timestamp }) : Routed P env ta msg r
  | fs (cmd : FsCmd) (hcmd : commandOf msg = some (.fs cmd))
      (hswitch : fsSwitch env ta msg cmd = .ok r) : Routed P env ta msg r
  | hwAuth (cmd : HwAuthCmd) (hcmd : commandOf msg = some (.hwAuth cmd))
      (hswitch : hwAuthSwitch P env ta msg cmd = .ok r) : Routed P env ta msg r
  | dbBlob (cmd : DbBlobCmd) (hcmd : commandOf msg = some (.dbBlob cmd))
      (hswitch : dbBlobSwitch P env ta msg cmd = .ok r) : Routed P env ta msg r
  | bio (cmd : BioCmd) (hcmd : commandOf msg = some (.bio cmd))
      (hswitch : bioRespond P env ta msg cmd = .ok r) : Routed P env ta msg r
  | pn (cmd : PnCmd) (hcmd : commandOf msg = some (.pn cmd))
      (hswitch : pnSwitch P env ta msg cmd = .ok r) : Routed P env ta msg r

/-- Every command is one of these. -/
theorem fpcTaRouteCommand_routed (h : fpcTaRouteCommand P env ta msg = .ok r) :
    Routed P env ta msg r := by
  cases fpcTaRouteCommand_cases h with
  | inr hrejected => exact .none hrejected.1 ta.imageTimestamp hrejected.2
  | inl hhandled =>
    obtain ⟨target, hlen, htarget, h⟩ := hhandled
    have hcommand := commandOf_of_target hlen htarget
    cases target with
    | fs =>
      cases hcmd : FsCmd.ofWord (field32 msg offCommand) with
      | none =>
        have hfs : fsCmd msg = Option.none := by rw [fsCmd, commandIn, if_neg (by omega), hcmd]
        obtain ⟨command, hload, h⟩ := bind_eq_ok.mp h
        rw [load32_ok hload, hcmd] at h
        cases h
        exact .none (by rw [hcommand, moduleCommand, hfs]; rfl) ta.imageTimestamp rfl
      | some cmd =>
        have hfs : fsCmd msg = some cmd := by rw [fsCmd, commandIn, if_neg (by omega), hcmd]
        obtain ⟨command, hload, h⟩ := bind_eq_ok.mp h
        rw [load32_ok hload, hcmd] at h
        exact .fs cmd (by rw [hcommand, moduleCommand, hfs]; rfl) h
    | hwAuth =>
      cases handleCommand_cases (by decide) h with
      | inl hnone =>
        have hcmd : hwAuthCmd msg = Option.none := hnone.1
        exact .none (by rw [hcommand, moduleCommand, hcmd]; rfl) ta.imageTimestamp hnone.2
      | inr hsome =>
        obtain ⟨cmd, hcmd, hswitch⟩ := hsome
        have hcmd' : hwAuthCmd msg = some cmd := hcmd
        exact .hwAuth cmd (by rw [hcommand, moduleCommand, hcmd']; rfl) hswitch
    | dbBlob =>
      cases handleCommand_cases (by decide) h with
      | inl hnone =>
        have hcmd : dbBlobCmd msg = Option.none := hnone.1
        exact .none (by rw [hcommand, moduleCommand, hcmd]; rfl) ta.imageTimestamp hnone.2
      | inr hsome =>
        obtain ⟨cmd, hcmd, hswitch⟩ := hsome
        have hcmd' : dbBlobCmd msg = some cmd := hcmd
        exact .dbBlob cmd (by rw [hcommand, moduleCommand, hcmd']; rfl) hswitch
    | sensor =>
      obtain ⟨timestamp, hta⟩ := fpcTaSensorCommandHandler_frame h
      exact .none (by rw [hcommand, moduleCommand]) timestamp hta
    | bio =>
      cases handleCommand_cases (by decide) h with
      | inl hnone =>
        have hcmd : bioCmd msg = Option.none := hnone.1
        exact .none (by rw [hcommand, moduleCommand, hcmd]; rfl) ta.imageTimestamp hnone.2
      | inr hsome =>
        obtain ⟨cmd, hcmd, hswitch⟩ := hsome
        have hcmd' : bioCmd msg = some cmd := hcmd
        exact .bio cmd (by rw [hcommand, moduleCommand, hcmd']; rfl) hswitch
    | pn =>
      cases handleCommand_cases (by decide) h with
      | inl hnone =>
        have hcmd : pnCmd msg = Option.none := hnone.1
        exact .none (by rw [hcommand, moduleCommand, hcmd]; rfl) ta.imageTimestamp hnone.2
      | inr hsome =>
        obtain ⟨cmd, hcmd, hswitch⟩ := hsome
        have hcmd' : pnCmd msg = some cmd := hcmd
        exact .pn cmd (by rw [hcommand, moduleCommand, hcmd']; rfl) hswitch
    | other =>
      cases h
      exact .none (by rw [hcommand, moduleCommand]) ta.imageTimestamp rfl

/-! ## The challenges and the key -/

/-- The check of a token leaves the module's data, or forgets the challenge that is out. -/
def HwAuthKept (hwAuth hwAuth' : HwAuthTa) : Prop :=
  hwAuth' = hwAuth ∨ hwAuth' = { hwAuth with outgoingChallenge := 0 }

theorem fpcEnrollmentAllowed_kept (P : Platform) (env : Env) (hwAuth : HwAuthTa) :
    HwAuthKept hwAuth (fpcEnrollmentAllowed P env hwAuth).2 := by
  have hstate := validateIncomingToken_state P env hwAuth
  unfold fpcEnrollmentAllowed
  dsimp only
  split
  · exact hstate
  · exact hstate

theorem fpcTaBioEndEnrol_kept (bio : Bio) (hwAuth : HwAuthTa) :
    HwAuthKept hwAuth (fpcTaBioEndEnrol P env bio hwAuth).hwAuth := by
  have hallowed := fpcEnrollmentAllowed_kept P env hwAuth
  unfold fpcTaBioEndEnrol
  split
  · exact Or.inl rfl
  · dsimp only
    split
    · exact Or.inl rfl
    · split
      · next hnone =>
        rw [hnone] at hallowed
        exact hallowed
      · next hsome =>
        rw [hsome] at hallowed
        split
        · exact hallowed
        · split
          · exact hallowed
          · exact hallowed

theorem hwAuthSwitch_effect {cmd : HwAuthCmd} (hcmd : commandOf msg = some (.hwAuth cmd))
    (h : hwAuthSwitch P env ta msg cmd = .ok r) : HwAuthEffect P env ta msg r.ta := by
  obtain ⟨target, _, _, hmodule⟩ := commandOf_some hcmd
  obtain ⟨_, hhwAuth⟩ := moduleCommand_some hmodule
  apply @fpcTaHwAuthHandler_effect P env
  rw [fpcTaHwAuthHandler, handleCommand_of_some ta (by decide) hhwAuth]
  exact h

/-- The module changes its own data, and at most resets the match result. -/
theorem hwAuthSwitch_frame {cmd : HwAuthCmd} (hcmd : commandOf msg = some (.hwAuth cmd))
    (h : hwAuthSwitch P env ta msg cmd = .ok r) :
    ∃ matchResult hwAuth, r.ta = { ta with
      bio := { ta.bio with matchResult := matchResult }, hwAuth := hwAuth } := by
  have heffect := hwAuthSwitch_effect hcmd h
  generalize r.ta = ta' at heffect
  cases heffect with
  | none => exact ⟨_, _, rfl⟩
  | setAuthChallenge _ => exact ⟨_, _, rfl⟩
  | getEnrolChallenge _ => exact ⟨_, _, rfl⟩
  | authorizeEnrol _ _ => exact ⟨_, _, rfl⟩
  | setSharedKey _ => exact ⟨_, _, rfl⟩

/-- A command keeps the data of the hardware authentication module, or is one of its own. -/
theorem fpcTaRouteCommand_hwAuth (h : fpcTaRouteCommand P env ta msg = .ok r) :
    HwAuthKept ta.hwAuth r.ta.hwAuth ∨
      ∃ cmd, commandOf msg = some (.hwAuth cmd) ∧ HwAuthEffect P env ta msg r.ta := by
  cases fpcTaRouteCommand_routed h with
  | none _ timestamp hta =>
    left
    rw [hta]
    exact Or.inl rfl
  | fs cmd _ hswitch =>
    obtain ⟨userDb, hta⟩ := fsSwitch_frame hswitch
    left
    rw [hta]
    exact Or.inl rfl
  | hwAuth cmd hcmd hswitch => exact Or.inr ⟨cmd, hcmd, hwAuthSwitch_effect hcmd hswitch⟩
  | dbBlob cmd _ hswitch =>
    obtain ⟨userDb, transfer, hta⟩ := dbBlobSwitch_frame hswitch
    left
    rw [hta]
    exact Or.inl rfl
  | bio cmd _ hswitch =>
    obtain ⟨answer, reply, hreply, hta⟩ := bioRespond_ok hswitch
    left
    rw [hta]
    obtain ⟨bio, hframe | ⟨_, hframe⟩⟩ := bioSwitch_frame hreply
    · rw [hframe]
      exact Or.inl rfl
    · rw [hframe]
      exact fpcTaBioEndEnrol_kept ta.bio ta.hwAuth
  | pn cmd _ hswitch =>
    obtain ⟨pn, hta⟩ := pnSwitch_frame hswitch
    left
    rw [hta]
    exact Or.inl rfl

end

end Fpc
