import Fingerprints.Db.Image
import Fingerprints.Ta.DatabaseId

/-!
# Whether there is a database

The user database is there after `init`. Two commands take it away before they know that they can
put another in its place: `LOAD_DB` destroys it and then reads the file, `LOAD_EMPTY_DB` destroys
it and then allocates. The client's answer to a failed load is another load.

* **`step_userDb_iff`**: what a step from a state with a database must be for there to be one
  afterwards.
* **`usable_of_present`**: where there is a database, the commands that follow the pointer
  unchecked do not follow a null pointer.
* **`userDb_usable_iff`**: in a run there is a database throughout exactly when all its steps are
  such.
-/

namespace Fpc

open Wire Wire.Outcome Runs

/-! ## Conditions on a command -/

/-- The file is there, is read whole, and holds a database. -/
structure FileLoads (env : Env) : Prop where
  found : env.fs.getFilesize.1 = 0
  nonempty : env.fs.getFilesize.2 ≠ 0
  malloc : env.fs.malloc = true
  read : 0 ≤ env.fs.read.1
  whole : env.fs.read.1.toUInt32 = env.fs.getFilesize.2
  decodes : ∃ db, fpcDbCreate env.db
    (some (ofList env.fs.getFilesize.2.toNat 0 env.fs.read.2).toList)
    env.fs.getFilesize.2.toNat = .ok db

/-- A `LOAD_DB` that names a path finds a database there, and a `LOAD_EMPTY_DB` gets its block. -/
structure KeepsUserDb (e : Event) : Prop where
  loadDb : e.is (.fs .loadDb) = true → byteArrayStringValid e.msg = .ok true → FileLoads e.env
  loadEmptyDb : e.is (.bio .loadEmptyDb) = true → (e.env.db.malloc .database).isSome = true

/-- There is a database, and the commands that do not look at the pointer before they follow it do
not follow a null pointer. -/
structure Usable (P : Platform) (ta : Ta) : Prop where
  present : ta.bio.userDb ≠ none
  beginEnrol : ∀ env msg, commandOf msg = some (.bio .beginEnrol) →
    fpcTaRouteCommand P env ta msg ≠ .fault .null
  deleteTemplate : ∀ env msg, commandOf msg = some (.bio .deleteTemplate) →
    fpcTaRouteCommand P env ta msg ≠ .fault .null
  getAuthResult : ∀ env msg, commandOf msg = some (.hwAuth .getAuthResult) →
    fpcTaRouteCommand P env ta msg ≠ .fault .null

section

variable {P : Platform} {env : Env} {ta ta' : Ta} {msg : List UInt8} {r : Handled} {e : Event}

/-! ## What a command does to the database pointer -/

/-- A load leaves a database exactly when the file loads. -/
theorem fpcTaLoadDbFromFile_present {status : Int} {userDb : Option FingerprintDatabase}
    (h : fpcTaLoadDbFromFile env = .ok (status, userDb)) : userDb ≠ none ↔ FileLoads env := by
  unfold fpcTaLoadDbFromFile at h
  dsimp only at h
  split at h
  · next hstatus =>
    cases h
    refine iff_of_false (not_not.mpr rfl) ?_
    intro hloads
    rw [hloads.found] at hstatus
    exact hstatus rfl
  · next hstatus =>
    split at h
    · next hzero =>
      cases h
      refine iff_of_false (not_not.mpr rfl) ?_
      intro hloads
      exact hloads.nonempty hzero
    · next hnonempty =>
      split at h
      · next hmalloc =>
        cases h
        refine iff_of_false (not_not.mpr rfl) ?_
        intro hloads
        rw [hloads.malloc] at hmalloc
        cases hmalloc
      · next hmalloc =>
        split at h
        · next hread =>
          cases h
          refine iff_of_false (not_not.mpr rfl) ?_
          intro hloads
          exact Int32.not_lt.mpr hloads.read hread
        · next hread =>
          split at h
          · next hshort =>
            cases h
            refine iff_of_false (not_not.mpr rfl) ?_
            intro hloads
            exact hshort hloads.whole
          · next hwhole =>
            split at h
            · cases h
            · next hcreate =>
              cases h
              refine iff_of_false (not_not.mpr rfl) ?_
              intro hloads
              obtain ⟨db, hdb⟩ := hloads.decodes
              rw [hdb] at hcreate
              cases hcreate
            · next db hcreate =>
              cases h
              refine iff_of_true (Option.some_ne_none db) ?_
              exact { found := by
                        have hzero : env.fs.getFilesize.1.toInt = 0 :=
                          Int.neg_eq_zero.mp (not_not.mp hstatus)
                        exact Int32.toInt_inj.mp hzero
                      nonempty := hnonempty
                      malloc := by simpa using hmalloc
                      read := Int32.not_lt.mp hread
                      whole := not_not.mp hwhole
                      decodes := ⟨db, hcreate⟩ }

/-- An empty database is there exactly when its block was allocated. -/
theorem fpcTaBioLoadEmptyDb_present {bio bio' : Bio} {status : Int}
    (h : fpcTaBioLoadEmptyDb env bio = .ok (status, bio')) :
    bio'.userDb ≠ none ↔ (env.db.malloc .database).isSome = true := by
  unfold fpcTaBioLoadEmptyDb fpcDbCreate DbEnv.memCalloc at h
  cases hmalloc : env.db.malloc .database with
  | none =>
    rw [hmalloc] at h
    cases h
    simp
  | some addr =>
    rw [hmalloc] at h
    cases h
    simp

theorem fpcDbAddFingerprint_present {pDb : Option FingerprintDatabase} (key : UInt32)
    (user : UInt64) (tpl : Template) (h : pDb ≠ none) :
    (fpcDbAddFingerprint env.db pDb key user tpl).pDb ≠ none := by
  cases pDb with
  | none => exact absurd rfl h
  | some db =>
    unfold fpcDbAddFingerprint
    dsimp only
    repeat' split
    all_goals simp

/-- Of the bio commands `LOAD_EMPTY_DB` alone can leave no database. -/
theorem bioSwitch_present {cmd : BioCmd} {answer : UInt32} {reply : BioReply}
    (h : bioSwitch P env ta msg answer cmd = .ok reply) (hcmd : cmd ≠ .loadEmptyDb)
    (hdb : ta.bio.userDb ≠ none) : reply.ta.bio.userDb ≠ none := by
  rcases Classical.em (cmd = .endEnrol) with rfl | hend
  · cases h
    dsimp only
    rcases fpcTaBioEndEnrol_userDb env ta.bio ta.hwAuth with hkept | ⟨user, tpl, _, hadded⟩
    · rwa [hkept]
    · rw [hadded]
      exact fpcDbAddFingerprint_present _ _ _ hdb
  · exact present_of_databaseIdOf (bioSwitch_keepsIds h hend hcmd).1.databaseId hdb

/-- A `LOAD_EMPTY_DB` leaves a database exactly when it gets its block. -/
theorem bioSwitch_loadEmptyDb_present {answer : UInt32} {reply : BioReply}
    (h : bioSwitch P env ta msg answer .loadEmptyDb = .ok reply) :
    reply.ta.bio.userDb ≠ none ↔ (env.db.malloc .database).isSome = true := by
  obtain ⟨loaded, hload, h⟩ := bind_eq_ok.mp h
  cases h
  exact fpcTaBioLoadEmptyDb_present hload

theorem fsSwitch_storeDb_present (h : fsSwitch env ta msg .storeDb = .ok r)
    (hdb : ta.bio.userDb ≠ none) : r.ta.bio.userDb ≠ none := by
  cases fsSwitch_ran h with
  | kept _ hta => rwa [hta]

/-- A `LOAD_DB` leaves a database exactly when it is refused for its path, or its file loads. -/
theorem fsSwitch_loadDb_present (h : fsSwitch env ta msg .loadDb = .ok r)
    (hdb : ta.bio.userDb ≠ none) :
    r.ta.bio.userDb ≠ none ↔ (byteArrayStringValid msg = .ok true → FileLoads env) := by
  cases fsSwitch_ran h with
  | kept hload hta =>
    rw [hload rfl, hta]
    refine iff_of_true hdb ?_
    intro habsurd
    cases habsurd
  | loaded hvalid hfile hta =>
    rw [hvalid, hta, fpcTaLoadDbFromFile_present hfile]
    exact ⟨fun hloads _ => hloads, fun hloads => hloads rfl⟩

/-- A blob command leaves a database. -/
theorem dbBlobSwitch_present {cmd : DbBlobCmd} (h : dbBlobSwitch P env ta msg cmd = .ok r)
    (hdb : ta.bio.userDb ≠ none) : r.ta.bio.userDb ≠ none := by
  cases dbBlobSwitch_ran h with
  | kept hta => rwa [hta]
  | written hwrite _ _ hta =>
    rw [hta]
    rcases fpcTaDbWrite_ok hwrite with hkept | ⟨image, db, _, hdecoded⟩
    · rwa [hkept]
    · rw [hdecoded]
      exact Option.some_ne_none db

/-! ## One step -/

/-- A step from a state with a database leaves one exactly when its command keeps it. -/
theorem step_userDb_iff (hdb : ta.bio.userDb ≠ none) (h : (taSystem P).step ta e ta') :
    ta'.bio.userDb ≠ none ↔ KeepsUserDb e := by
  obtain ⟨rfl, hroute, rfl⟩ := h
  -- a command other than the two keeps the database, and nothing is asked of it
  have hother (hfs : commandOf e.msg ≠ some (.fs .loadDb))
      (hbio : commandOf e.msg ≠ some (.bio .loadEmptyDb)) : KeepsUserDb e :=
    { loadDb := fun his => absurd (is_iff.mp his) hfs
      loadEmptyDb := fun his => absurd (is_iff.mp his) hbio }
  cases fpcTaRouteCommand_routed hroute with
  | none hcmd timestamp hta =>
    refine iff_of_true ?_ (hother (by simp [hcmd]) (by simp [hcmd]))
    rwa [hta]
  | fs cmd hcmd hswitch =>
    cases cmd with
    | storeDb =>
      exact iff_of_true (fsSwitch_storeDb_present hswitch hdb)
        (hother (by simp [hcmd]) (by simp [hcmd]))
    | loadDb =>
      rw [fsSwitch_loadDb_present hswitch hdb]
      constructor
      · intro hloads
        exact { loadDb := fun _ => hloads
                loadEmptyDb := fun his => by simp [is_iff, hcmd] at his }
      · intro hkeeps
        exact hkeeps.loadDb (is_iff.mpr hcmd)
  | hwAuth cmd hcmd hswitch =>
    obtain ⟨matchResult, hwAuth, hta⟩ := hwAuthSwitch_frame hcmd hswitch
    refine iff_of_true ?_ (hother (by simp [hcmd]) (by simp [hcmd]))
    rwa [hta]
  | dbBlob cmd hcmd hswitch =>
    exact iff_of_true (dbBlobSwitch_present hswitch hdb)
      (hother (by simp [hcmd]) (by simp [hcmd]))
  | bio cmd hcmd hswitch =>
    obtain ⟨answer, reply, hreply, hta⟩ := bioRespond_ok hswitch
    rw [hta]
    rcases Classical.em (cmd = .loadEmptyDb) with rfl | hne
    · rw [bioSwitch_loadEmptyDb_present hreply]
      constructor
      · intro hsome
        exact { loadDb := fun his => by simp [is_iff, hcmd] at his
                loadEmptyDb := fun _ => hsome }
      · intro hkeeps
        exact hkeeps.loadEmptyDb (is_iff.mpr hcmd)
    · exact iff_of_true (bioSwitch_present hreply hne hdb)
        (hother (by simp [hcmd]) (by simp [hcmd, hne]))
  | pn cmd hcmd hswitch =>
    obtain ⟨pn, hta⟩ := pnSwitch_frame hswitch
    refine iff_of_true ?_ (hother (by simp [hcmd]) (by simp [hcmd]))
    rwa [hta]

/-! ## Following the pointer -/

theorem loadSpan_ne_null (buf : List UInt8) (off n : Nat) : loadSpan buf off n ≠ .fault .null := by
  unfold loadSpan
  split <;> simp

theorem storeSpan_ne_null (buf : List UInt8) (off : Nat) (bytes : List UInt8) :
    storeSpan buf off bytes ≠ .fault .null := by
  unfold storeSpan
  split <;> simp

/-- A search in a database there is does not follow a null pointer. -/
theorem firstIndex_ne_null {pDb : Option FingerprintDatabase} (p : Fingerprint → Bool)
    (h : pDb ≠ none) : firstIndex pDb p ≠ .fault .null := by
  cases pDb with
  | none => exact absurd rfl h
  | some db =>
    unfold firstIndex
    dsimp only
    split <;> simp

theorem fpcTaBioBeginEnrol_ne_null {bio : Bio} (h : bio.userDb ≠ none) :
    fpcTaBioBeginEnrol env bio ≠ .fault .null := by
  unfold fpcTaBioBeginEnrol fpcDbGetAllTemplates
  cases hdb : bio.userDb with
  | none => exact absurd hdb h
  | some db =>
    dsimp only
    rw [ok_bind]
    split
    · simp
    · split <;> simp

theorem fpcTaBioDeleteTemplate_ne_null {bio : Bio} (id : UInt32) (h : bio.userDb ≠ none) :
    fpcTaBioDeleteTemplate bio id ≠ .fault .null := by
  have hsearch := firstIndex_ne_null (fun f => fpcDbTrimId32 f.fingerprintId == id) h
  unfold fpcTaBioDeleteTemplate fpcDbGetIndexOfId32
  split
  · simp
  · split
    · next hfault =>
      rw [hfault] at hsearch
      simpa using hsearch
    · simp
    · simp

theorem getAuthResult_ne_null (sizeToken : Nat) (h : ta.bio.userDb ≠ none) :
    getAuthResult P env ta msg sizeToken ≠ .fault .null := by
  have hsearch := firstIndex_ne_null
    (fun f => fpcDbTrimId32 f.fingerprintId == ta.bio.matchResult.templateId) h
  unfold getAuthResult fpcDbGetIndexOfId32
  split
  · simp
  · split
    · next hfault =>
      rw [hfault] at hsearch
      simpa using hsearch
    · simp
    · dsimp only
      split
      · simp
      · intro hfault
        -- the token is written over the message, which is not a null pointer
        rcases bind_eq_fault.mp hfault with hstore | ⟨_, _, hfault⟩
        · exact storeSpan_ne_null _ _ _ hstore
        rcases bind_eq_fault.mp hfault with hload | ⟨_, _, hfault⟩
        · exact loadSpan_ne_null _ _ _ hload
        rcases bind_eq_fault.mp hfault with hstore | ⟨_, _, hfault⟩
        · exact storeSpan_ne_null _ _ _ hstore
        · split at hfault
          · cases hfault
          · cases hfault

/-- A bio command follows a null pointer only in its case of the switch. -/
theorem bioRespond_ne_null {cmd : BioCmd}
    (h : ∀ answer, bioSwitch P env ta msg answer cmd ≠ .fault .null) :
    bioRespond P env ta msg cmd ≠ .fault .null := by
  intro hfault
  rcases bind_eq_fault.mp hfault with hload | ⟨answer, _, hfault⟩
  · rcases bind_eq_fault.mp hload with hload | ⟨_, _, habsurd⟩
    · exact loadSpan_ne_null _ _ _ hload
    · cases habsurd
  rcases bind_eq_fault.mp hfault with hswitch | ⟨reply, _, hfault⟩
  · exact h answer hswitch
  rcases bind_eq_fault.mp hfault with hstore | ⟨_, _, hfault⟩
  · exact storeSpan_ne_null _ _ _ hstore
  rcases bind_eq_fault.mp hfault with hstore | ⟨_, _, habsurd⟩
  · exact storeSpan_ne_null _ _ _ hstore
  · cases habsurd

/-- Where there is a database, the commands that need one can be given. -/
theorem usable_of_present (h : ta.bio.userDb ≠ none) : Usable P ta where
  present := h
  beginEnrol env msg hcmd := by
    rw [(fpcTaRouteCommand_of_bio P env ta hcmd).2]
    apply bioRespond_ne_null
    intro answer hfault
    rcases bind_eq_fault.mp hfault with hbegin | ⟨_, _, habsurd⟩
    · exact fpcTaBioBeginEnrol_ne_null h hbegin
    · cases habsurd
  deleteTemplate env msg hcmd := by
    rw [(fpcTaRouteCommand_of_bio P env ta hcmd).2]
    apply bioRespond_ne_null
    intro answer hfault
    rcases bind_eq_fault.mp hfault with hdelete | ⟨_, _, habsurd⟩
    · exact fpcTaBioDeleteTemplate_ne_null answer h hdelete
    · cases habsurd
  getAuthResult env msg hcmd := by
    obtain ⟨hlen, hswitch⟩ := fpcTaRouteCommand_of_hwAuth P env ta hcmd
    unfold sizeofHwAuthCommand at hlen
    rw [hswitch, hwAuthSwitch, load32_eq (by unfold offSize; omega), ok_bind]
    intro hfault
    rcases bind_eq_fault.mp hfault with hresult | ⟨_, _, hfault⟩
    · exact getAuthResult_ne_null _ h hresult
    rcases bind_eq_fault.mp hfault with hstore | ⟨_, _, habsurd⟩
    · exact storeSpan_ne_null _ _ _ hstore
    · cases habsurd

theorem usable_iff : Usable P ta ↔ ta.bio.userDb ≠ none :=
  ⟨fun h => h.present, usable_of_present⟩

/-! ## Runs -/

theorem fpcTaRouterInit_present (h : fpcTaRouterInit env = .ok ta) : ta.bio.userDb ≠ none := by
  obtain ⟨db, _, hdb, _⟩ := fpcTaRouterInit_ok h
  rw [hdb]
  exact Option.some_ne_none db

variable {history : List Event}

/-- **When there always is a usable database.** The states of a run all have one, and in none does
a command that needs one follow a null pointer, exactly if every `LOAD_DB` with a path found a
database there and every `LOAD_EMPTY_DB` got its block. -/
theorem userDb_usable_iff (hrun : (taSystem P).Run history ta) :
    (Usable P ta ∧ ∀ e ∈ history, Usable P e.pre) ↔ ∀ e ∈ history, KeepsUserDb e := by
  apply hrun.throughout_iff (I := Usable P) (K := KeepsUserDb)
  · intro s e s' hstep
    exact hstep.1
  · intro s hinit
    obtain ⟨env, hinit⟩ := hinit
    exact usable_of_present (fpcTaRouterInit_present hinit)
  · intro s e s' husable hstep
    rw [usable_iff]
    exact step_userDb_iff husable.present hstep

end

/-! ## A file that cannot be read -/

/-- `LOAD_DB` of the path `a`. -/
def loadDbMessage : List UInt8 := commandMessage 2 11 (le32 0 ++ (le32 2 ++ [0x61, 0]))

/-- The file system has no such file. -/
def Env.missingFile : Env := { Env.willing with
  fs := { Env.willing.fs with getFilesize := (-8, 0) } }

def beginEnrolMessage : List UInt8 := commandMessage 11 0 (List.replicate 32 0)

/-- After a load that failed there is no database, and the beginning of an enrolment follows the
null pointer. -/
theorem missingFile_not_usable :
    ∃ history ta, (taSystem samplePlatform).Run history ta ∧ ta.bio.userDb = none ∧
      ¬ Usable samplePlatform ta ∧
      fpcTaRouteCommand samplePlatform .willing ta beginEnrolMessage = .fault .null := by
  obtain ⟨history, ta, hrun, _, hnone, hfault⟩ :=
    execute_decided samplePlatform [(.missingFile, loadDbMessage)]
      (fun _ ta => ta.bio.userDb = none ∧
        fpcTaRouteCommand samplePlatform .willing ta beginEnrolMessage = .fault .null)
      (by decide +kernel)
  exact ⟨history, ta, hrun, hnone, fun husable => husable.present hnone, hfault⟩

/-- A file with the image of an empty database. -/
def Env.emptyFile : Env := { Env.willing with
  fs := { Env.willing.fs with
    getFilesize := (0, 25)
    read := (25, TemplateDb.image fpcDbVersion4 { databaseId := 7, set := none }) } }

def loadEmptyDbMessage : List UInt8 := commandMessage 11 6 (List.replicate 32 0)

theorem emptyFile_loads : FileLoads .emptyFile where
  found := rfl
  nonempty := by decide
  malloc := rfl
  read := by decide
  whole := rfl
  decodes := by
    have hdecoded : (fpcDbCreate Env.emptyFile.db
        (some (ofList Env.emptyFile.fs.getFilesize.2.toNat 0 Env.emptyFile.fs.read.2).toList)
        Env.emptyFile.fs.getFilesize.2.toNat >>= fun db =>
          .ok (decide (db.databaseId = 7))) = .ok true := by decide +kernel
    obtain ⟨db, hdb, _⟩ := exists_of_decided _ hdecoded
    exact ⟨db, hdb⟩

/-- A load of that file and then of an empty database. -/
def sampleLoads : List (Env × List UInt8) :=
  [(.emptyFile, loadDbMessage), (.willing, loadEmptyDbMessage)]

theorem sampleLoads_usable :
    ∃ history ta, (taSystem samplePlatform).Run history ta ∧ history.length = 2 ∧
      Usable samplePlatform ta ∧ ∀ e ∈ history, Usable samplePlatform e.pre := by
  obtain ⟨history, ta, hrun, hmem, hlen⟩ :=
    execute_decided samplePlatform sampleLoads (fun history _ => history.length = 2)
      (by decide +kernel)
  refine ⟨history, ta, hrun, hlen, (userDb_usable_iff hrun).mpr ?_⟩
  intro e he
  have hcommand := hmem e he
  simp only [sampleLoads, List.mem_cons, Prod.mk.injEq, List.not_mem_nil, or_false] at hcommand
  rcases hcommand with ⟨henv, hmsg⟩ | ⟨henv, hmsg⟩
  · exact { loadDb := fun _ _ => by rw [henv]; exact emptyFile_loads
            loadEmptyDb := fun _ => by rw [henv]; rfl }
  · have hcmd : commandOf loadEmptyDbMessage = some (.bio .loadEmptyDb) := by decide +kernel
    exact { loadDb := fun his => by simp [is_iff, hmsg, hcmd] at his
            loadEmptyDb := fun _ => by rw [henv]; rfl }

end Fpc
