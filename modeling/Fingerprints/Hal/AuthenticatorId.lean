import Fingerprints.Hal.Calls

/-!
# The id that the device reports

`fpc_get_authenticator_id` answers a copy of the id of the database, which is read after a group was
selected and after an enrolment was reported. The application draws another id when a finger is added
and when it makes an empty database.

* **`loadTemplateDb_inStep_iff`**, **`doEnroll_inStep_iff`**, **`doRemove_inStep_iff`**,
  **`fpcSetActiveGroup_inStep_iff`**: for which outcomes the copy is right after a call.
* **`authenticatorId_inStep_iff`**: in a run it is right throughout, from a group that was selected on,
  exactly when all later calls have such outcomes.
-/

namespace Fpc

open Wire Wire.Outcome Runs

/-- The id that is reported is the one of the database that the application has loaded, where it has
one. -/
def InStep (hal : Hal) : Prop :=
  ∀ id, databaseIdOf hal.userDb = some id → fpcGetAuthenticatorId hal = id

/-! ## Outcomes -/

section

variable {P : Platform} (m : Meets P) (hal : Hal)

/-- What a load leaves has the id that is reported: a stored database has it, the database of the
application keeps it where the load fails or is lost, or the empty one draws it. -/
def LoadsInStep : Prop :=
  match hal.stored with
  | none => (m.tacOf hal.tee).Fails ∧ InStep hal ∨
      ¬ (m.tacOf hal.tee).Fails ∧
        ∀ id, emptyDatabaseId (m.envs hal.tee.messages).db = some id → hal.authenticatorId = id
  | some db => m.load = 0 ∧ hal.authenticatorId = db.databaseId ∨
      m.load ≠ 0 ∧ (m.loadDrops = true ∨ InStep hal)

/-- An enrolment that is not reported leaves the id that is: by the load after a store that failed,
or, where it was cancelled, as the id was drawn. -/
def EnrolsInStep : Prop :=
  (m.store 0 ≠ 0 → LoadsInStep m hal) ∧ (m.store 0 = 0 → m.cancelled = true → InStep hal)

/-- The outcomes of a call that keep the id in step: the group is set where the database was loaded,
an enrolment is reported, and a removal does not fail. Otherwise the database has the id. -/
def KeepsInStep : HalCall → Prop
  | .setActiveGroup gid _ => ∀ loaded status tee,
      loadTemplateDb m { hal with currentDbFile := templateFile } = .ok (0, loaded) →
        fpcTeeSetGid (m.tacOf loaded.tee) m.envs loaded.tee gid = .ok (status, tee) →
          status ≠ 0 → InStep loaded
  | .enroll hat gid => gid = hal.currentGid → hat.length = sizeofHat →
      ∀ touched id tee, EnrolsIn m { hal with hat := hat } touched id tee →
        EnrolsInStep m (touched.withTee tee)
  | .remove gid fid => gid = hal.currentGid →
      ∀ failed, RemovalFails m { hal with removeFid := fid } failed → LoadsInStep m failed
  | _ => True

/-- A query for the id of the database works. -/
def QueryWorks (tee : Tee) : Prop :=
  ∀ status id tee', fpcTeeGetTemplateDbId (m.tacOf tee) m.envs tee = .ok (status, id, tee') →
    status = 0

/-- The queries that a call makes work. -/
def QueriesWork : HalCall → Prop
  | .setActiveGroup gid _ => ∀ loaded tee,
      loadTemplateDb m { hal with currentDbFile := templateFile } = .ok (0, loaded) →
        fpcTeeSetGid (m.tacOf loaded.tee) m.envs loaded.tee gid = .ok (0, tee) → QueryWorks m tee
  | .enroll hat gid => gid = hal.currentGid → hat.length = sizeofHat →
      ∀ touched id tee, EnrolsIn m { hal with hat := hat } touched id tee →
        m.store 0 = 0 → m.cancelled = false → QueryWorks m tee
  | _ => True

end

/-- A group was selected. -/
def HalEvent.selected {P : Platform} (e : HalEvent P) : Prop :=
  (∃ gid storePath, e.call = .setActiveGroup gid storePath) ∧ e.status = 0

/-! ## Loads and queries -/

section

variable {P : Platform} {m : Meets P} {hal hal' : Hal} {status : Int}

theorem inStep_of_none (h : databaseIdOf hal.userDb = none) : InStep hal := by
  intro id hid
  rw [h] at hid
  cases hid

/-- Being in step depends on the two ids. -/
theorem inStep_congr (hdb : databaseIdOf hal'.userDb = databaseIdOf hal.userDb)
    (hauth : hal'.authenticatorId = hal.authenticatorId) : InStep hal' ↔ InStep hal := by
  unfold InStep fpcGetAuthenticatorId
  rw [hdb, hauth]

theorem Hal.KeptIds.inStep_iff (h : hal.KeptIds hal') : InStep hal' ↔ InStep hal :=
  inStep_congr h.tee.ids.databaseId h.authenticatorId

theorem loadTemplateDb_inStep_iff (hbuffer : sizeofBioCommand ≤ hal.tee.sharedBuffer.length)
    (h : loadTemplateDb m hal = .ok (status, hal')) : InStep hal' ↔ LoadsInStep m hal := by
  unfold loadTemplateDb at h
  unfold LoadsInStep
  cases hfile : hal.stored with
  | none =>
    rw [hfile] at h
    dsimp only at h ⊢
    rcases bind_eq_ok.mp h with ⟨⟨loaded, tee⟩, hload, h⟩
    cases h
    cases (fpcTeeLoadEmptyDb_commanded (m.tacOf_reaches _) hbuffer hload).1 with
    | lost hfails _ hta =>
      rw [@inStep_congr hal (hal.withTee tee) (by rw [Hal.userDb, Hal.withTee, hta]; rfl) rfl]
      constructor
      · intro hin
        exact Or.inl ⟨hfails, hin⟩
      · rintro (⟨_, hin⟩ | ⟨hreached, _⟩)
        · exact hin
        · exact absurd hfails hreached
    | emptied hreached _ hid _ _ =>
      have hempty : InStep (hal.withTee tee) ↔ ∀ id,
          emptyDatabaseId (m.envs hal.tee.messages).db = some id → hal.authenticatorId = id := by
        unfold InStep
        rw [Hal.userDb, Hal.withTee, hid]
        rfl
      rw [hempty]
      constructor
      · intro hin
        exact Or.inr ⟨hreached, hin⟩
      · rintro (⟨hfails, _⟩ | ⟨_, hin⟩)
        · exact absurd hfails hreached
        · exact hin
  | some db =>
    rw [hfile] at h
    dsimp only at h ⊢
    split at h
    · next hload =>
      cases h
      constructor
      · intro hin
        exact Or.inl ⟨hload, hin _ rfl⟩
      · rintro (⟨_, hid⟩ | ⟨hne, _⟩)
        · intro id hid'
          cases hid'
          exact hid
        · exact absurd hload hne
    · next hload =>
      split at h
      · next hdrops =>
        cases h
        exact iff_of_true (inStep_of_none rfl) (Or.inr ⟨hload, Or.inl hdrops⟩)
      · next hkeeps =>
        cases h
        constructor
        · intro hin
          exact Or.inr ⟨hload, Or.inr hin⟩
        · rintro (⟨hzero, _⟩ | ⟨_, hdrops | hin⟩)
          · exact absurd hzero hload
          · exact absurd hdrops hkeeps
          · exact hin

/-- A load that does not return 0 has brought no other database. -/
theorem loadTemplateDb_failed (hbuffer : sizeofBioCommand ≤ hal.tee.sharedBuffer.length)
    (h : loadTemplateDb m hal = .ok (status, hal')) (hne : status ≠ 0) (hin : InStep hal) :
    InStep hal' := by
  unfold loadTemplateDb at h
  split at h
  · rcases bind_eq_ok.mp h with ⟨⟨loaded, tee⟩, hload, h⟩
    cases h
    cases (fpcTeeLoadEmptyDb_commanded (m.tacOf_reaches _) hbuffer hload).1 with
    | lost _ _ hta =>
      exact (@inStep_congr hal (hal.withTee tee) (by rw [Hal.userDb, Hal.withTee, hta]; rfl) rfl).mpr
        hin
    | emptied _ _ _ _ hpresent =>
      have hgone : tee.ta.bio.userDb = none := not_not.mp fun h => hne (hpresent.mpr h)
      exact inStep_of_none (databaseIdOf_eq_none.mpr hgone)
  · split at h
    · cases h
      exact absurd rfl hne
    · split at h
      · cases h
        exact inStep_of_none rfl
      · cases h
        exact hin

/-- A query that works answers the id of the database. -/
theorem inStep_of_query {tee : Tee} {id : Option UInt64}
    (hbuffer : sizeofBioCommand ≤ hal.tee.sharedBuffer.length)
    (h : fpcTeeGetTemplateDbId (m.tacOf hal.tee) m.envs hal.tee = .ok (0, id, tee)) :
    InStep { hal.withTee tee with authenticatorId := id.getD 0 } := by
  rcases fpcTeeGetTemplateDbId_commanded (m.tacOf_reaches _) hbuffer h with ⟨hsame, hid, _⟩
  intro x hx
  have hdb : databaseIdOf tee.ta.bio.userDb = some x := hx
  rw [hsame.userDb, ← hid rfl] at hdb
  show id.getD 0 = x
  rw [hdb]
  rfl

/-! ## Calls -/

theorem reportEnrol_inStep_iff : InStep (reportEnrol hal status) ↔ InStep hal :=
  (reportEnrol_touched hal status).kept.keptIds.inStep_iff

/-- The calls after an `END_ENROL` that returned an id. -/
theorem completeEnrol_inStep_iff {id : UInt32} {tee : Tee}
    (hbuffer : sizeofBioCommand ≤ hal.tee.sharedBuffer.length)
    (hended : fpcTeeEndEnrol (m.tacOf hal.tee) m.envs hal.tee = .ok (0, some id, tee))
    (hquery : m.store 0 = 0 → m.cancelled = false → QueryWorks m tee)
    (h : completeEnrol m hal = .ok (status, hal')) :
    InStep hal' ↔ EnrolsInStep m (hal.withTee tee) := by
  have hlen := (fpcTeeEndEnrol_commanded (m.tacOf_reaches _) hbuffer hended).2.2
  have hbuf : sizeofBioCommand ≤ tee.sharedBuffer.length := by
    rw [hlen]
    exact hbuffer
  unfold EnrolsInStep
  cases completeEnrol_completed hended h with
  | failed hne => exact absurd rfl hne
  | unstored loaded reloaded _ hstore hload =>
    have hbuf' : sizeofBioCommand ≤ (hal.withTee tee).tee.sharedBuffer.length := hbuf
    rw [loadTemplateDb_inStep_iff hbuf' hload]
    constructor
    · intro hin
      exact ⟨fun _ => hin, fun hzero => absurd hzero hstore⟩
    · rintro ⟨hin, _⟩
      exact hin hstore
  | deleted deleted tee' _ hstore hcancelled hdelete =>
    have hkept : ((hal.withTee tee).keptInFile.withTee tee').Moves
        (storeTemplateDb m ((hal.withTee tee).keptInFile.withTee tee') 1).2 :=
      storeTemplateDb_moves 1
    have hmoves := (Hal.Moves.refl (hal.withTee tee)).keptInFile.asked
      (fpcTeeDeleteTemplate_kept (m.tacOf_reaches _) hbuf hdelete)
    rw [(hmoves.trans hkept).keptIds.inStep_iff]
    constructor
    · intro hin
      exact ⟨fun hne => absurd hstore hne, fun _ _ => hin⟩
    · rintro ⟨_, hin⟩
      exact hin hstore hcancelled
  | reported asked dbId tee' _ hstore hcancelled hask =>
    have hzero := hquery hstore hcancelled asked dbId tee' hask
    rw [hzero] at hask
    have hin := @inStep_of_query P m ((hal.withTee tee).keptInFile.callback
      (.onEnrollResult ((some id).getD 0) (hal.withTee tee).currentGid 0)) tee' dbId hbuf hask
    refine iff_of_true hin ⟨fun hne => absurd hstore hne, fun _ hno => ?_⟩
    rw [hcancelled] at hno
    cases hno

theorem doEnroll_inStep_iff (hbuffer : sizeofBioCommand ≤ hal.tee.sharedBuffer.length)
    (hin : InStep hal)
    (hqueries : ∀ touched id tee, EnrolsIn m hal touched id tee → m.store 0 = 0 →
      m.cancelled = false → QueryWorks m tee)
    (h : doEnroll m hal = .ok (some hal')) :
    InStep hal' ↔ ∀ touched id tee, EnrolsIn m hal touched id tee →
      EnrolsInStep m (touched.withTee tee) := by
  cases doEnroll_ended hbuffer h with
  | left status reached htouched hnone hend =>
    rw [hend, reportEnrol_inStep_iff, htouched.kept.keptIds.inStep_iff]
    refine iff_of_true hin ?_
    intro touched id tee henrols
    exact absurd henrols (hnone touched id tee)
  | completed status ended answered touched reached tee htouched hended henrols hcomplete hend =>
    have hbuf := htouched.buffer hbuffer
    rcases fpcTeeEndEnrol_commanded (m.tacOf_reaches _) hbuf hended with ⟨hadded, hfailed, _⟩
    rw [hend, reportEnrol_inStep_iff]
    by_cases hok : ended = 0
    · rcases hadded hok with ⟨x, _, _, _, hx, _⟩
      have henrols' := (henrols touched x tee).mpr ⟨rfl, rfl, hok, hx⟩
      rw [hok, hx] at hended
      rw [completeEnrol_inStep_iff hbuf hended (hqueries touched x tee henrols') hcomplete]
      constructor
      · intro hsteps touched' id' tee' hagain
        rcases (henrols _ _ _).mp hagain with ⟨rfl, rfl, _, _⟩
        exact hsteps
      · intro hall
        exact hall touched x tee henrols'
    · have hkept : InStep reached := by
        cases completeEnrol_completed hended hcomplete with
        | failed _ =>
          exact (@inStep_congr touched (touched.withTee tee) (hfailed hok).2.2 rfl).mpr
            (htouched.kept.keptIds.inStep_iff.mpr hin)
        | unstored _ _ hzero _ _ => exact absurd hzero hok
        | deleted _ _ hzero _ _ _ => exact absurd hzero hok
        | reported _ _ _ hzero _ _ _ => exact absurd hzero hok
      refine iff_of_true hkept ?_
      intro touched' id' tee' hagain
      exact absurd ((henrols _ _ _).mp hagain).2.2.1 hok

theorem doRemove_inStep_iff (hbuffer : sizeofBioCommand ≤ hal.tee.sharedBuffer.length)
    (hin : InStep hal) (h : doRemove m hal = .ok hal') :
    InStep hal' ↔ ∀ failed, RemovalFails m hal failed → LoadsInStep m failed := by
  cases doRemove_ended hbuffer h with
  | removed hmoves hnone =>
    refine iff_of_true (hmoves.keptIds.inStep_iff.mpr hin) ?_
    intro failed hfails
    exact absurd hfails (hnone failed)
  | failed failed status hmoves hfails hload =>
    have hbuf : sizeofBioCommand
        ≤ (failed.callback (.onError halCompatErrorUnableToRemove)).tee.sharedBuffer.length :=
      hmoves.buffer hbuffer
    have hsame : LoadsInStep m (failed.callback (.onError halCompatErrorUnableToRemove))
        ↔ LoadsInStep m failed := Iff.rfl
    rw [loadTemplateDb_inStep_iff hbuf hload, hsame]
    constructor
    · intro hsteps failed' hfails'
      rw [(hfails failed').mp hfails']
      exact hsteps
    · intro hall
      exact hall failed ((hfails failed).mpr rfl)

/-- A group that was selected is in step, where its query works. -/
theorem selectEnded_inStep {gid : UInt32} {loaded : Hal} {tee tee' : Tee} {dbId : Option UInt64}
    (hbuffer : sizeofBioCommand ≤ hal.tee.sharedBuffer.length)
    (hload : loadTemplateDb m { hal with currentDbFile := templateFile } = .ok (0, loaded))
    (hset : fpcTeeSetGid (m.tacOf loaded.tee) m.envs loaded.tee gid = .ok (0, tee))
    (hask : fpcTeeGetTemplateDbId (m.tacOf tee) m.envs tee = .ok (0, dbId, tee')) :
    InStep { { loaded with currentGid := gid }.withTee tee' with authenticatorId := dbId.getD 0 } := by
  have hbuf := @loadTemplateDb_buffer _ m { hal with currentDbFile := templateFile } _ _
    hbuffer hload
  have hlen := (fpcTeeSetGid_active (m.tacOf_reaches _) hbuf hset).2.2.2
  exact @inStep_of_query _ m { loaded.withTee tee with currentGid := gid } tee' dbId
    (by show sizeofBioCommand ≤ tee.sharedBuffer.length; rw [hlen]; exact hbuf) hask

theorem fpcSetActiveGroup_inStep_iff {gid : UInt32} {storePath : String}
    (hbuffer : sizeofBioCommand ≤ hal.tee.sharedBuffer.length) (hin : InStep hal)
    (hqueries : QueriesWork m hal (.setActiveGroup gid storePath))
    (h : fpcSetActiveGroup m hal gid storePath = .ok (status, hal')) :
    InStep hal' ↔ KeepsInStep m hal (.setActiveGroup gid storePath) := by
  cases fpcSetActiveGroup_ended h with
  | unloaded loading hload hne _ =>
    refine iff_of_true (@loadTemplateDb_failed _ m { hal with currentDbFile := templateFile } _ _
      hbuffer hload hne hin) ?_
    intro loaded' status' tee' hload'
    rw [hload] at hload'
    cases hload'
    exact absurd rfl hne
  | unset loaded setting tee hload hset hne _ hend =>
    have hbuf := @loadTemplateDb_buffer _ m { hal with currentDbFile := templateFile } _ _
      hbuffer hload
    have hdb := (fpcTeeSetGid_active (m.tacOf_reaches _) hbuf hset).1
    rw [hend, @inStep_congr loaded (loaded.withTee tee) (congrArg databaseIdOf hdb) rfl]
    constructor
    · intro hstep loaded' setting' tee' hload' _ _
      rw [hload] at hload'
      cases hload'
      exact hstep
    · intro hkeeps
      exact hkeeps loaded setting tee hload hset hne
  | selected loaded tee asked dbId tee' hload hset hask _ hend =>
    rw [hqueries loaded tee hload hset asked dbId tee' hask] at hask
    rw [hend]
    refine iff_of_true (selectEnded_inStep hbuffer hload hset hask) ?_
    intro loaded' setting' tee'' hload' hset' hne
    rw [hload] at hload'
    cases hload'
    rw [hset] at hset'
    cases hset'
    exact absurd rfl hne

/-- A call that returns 0 leaves the id in step. -/
theorem fpcSetActiveGroup_zero {gid : UInt32} {storePath : String}
    (hbuffer : sizeofBioCommand ≤ hal.tee.sharedBuffer.length)
    (h : fpcSetActiveGroup m hal gid storePath = .ok (0, hal')) : InStep hal' := by
  cases fpcSetActiveGroup_ended h with
  | unloaded _ _ _ hstatus => exact absurd rfl hstatus
  | unset _ _ _ _ _ _ hstatus _ => exact absurd rfl hstatus
  | selected loaded tee asked dbId tee' hload hset hask hstatus hend =>
    rw [hstatus.mp rfl] at hask
    rw [hend]
    exact selectEnded_inStep hbuffer hload hset hask

/-! ## Runs -/

/-- **When a call keeps the id in step.** -/
theorem halCall_inStep_iff {call : HalCall} (hbuffer : sizeofBioCommand ≤ hal.tee.sharedBuffer.length)
    (hin : InStep hal) (hqueries : QueriesWork m hal call)
    (h : halCall m hal call = .ok (some (status, hal'))) :
    InStep hal' ↔ KeepsInStep m hal call := by
  cases call with
  | setActiveGroup gid storePath =>
    rcases bind_eq_ok.mp h with ⟨⟨returned, reached⟩, hcall, h⟩
    cases h
    exact fpcSetActiveGroup_inStep_iff hbuffer hin hqueries hcall
  | enroll hat gid =>
    unfold halCall fpcEnroll at h
    dsimp only at h
    split at h
    · next hgid =>
      cases h
      exact iff_of_true hin fun heq => absurd heq hgid
    · next hgid =>
      split at h
      · next hlen =>
        cases h
        exact iff_of_true hin fun _ heq => absurd heq hlen
      · next hlen =>
        rcases bind_eq_ok.mp h with ⟨ended, henroll, h⟩
        injection h with h
        rcases Option.map_eq_some_iff.mp h with ⟨reached, rfl, hreturned⟩
        cases hreturned
        rw [@doEnroll_inStep_iff _ m { hal with hat := hat } _ hbuffer hin
          (hqueries (not_not.mp hgid) (not_not.mp hlen)) henroll]
        exact ⟨fun hall _ _ => hall, fun hall => hall (not_not.mp hgid) (not_not.mp hlen)⟩
  | remove gid fid =>
    rcases bind_eq_ok.mp h with ⟨⟨returned, reached⟩, hcall, h⟩
    cases h
    unfold fpcRemove at hcall
    split at hcall
    · next hgid =>
      cases hcall
      exact iff_of_true hin fun heq => absurd heq hgid
    · next hgid =>
      rcases bind_eq_ok.mp hcall with ⟨removed, hremove, hcall⟩
      cases hcall
      rw [@doRemove_inStep_iff _ m { hal with removeFid := fid } _ hbuffer hin hremove]
      exact ⟨fun hall _ => hall, fun hall => hall (not_not.mp hgid)⟩
  | preEnroll => exact iff_of_true ((halCall_moves hbuffer rfl h).keptIds.inStep_iff.mpr hin) trivial
  | postEnroll => exact iff_of_true ((halCall_moves hbuffer rfl h).keptIds.inStep_iff.mpr hin) trivial
  | cancel => exact iff_of_true ((halCall_moves hbuffer rfl h).keptIds.inStep_iff.mpr hin) trivial
  | authenticate operationId gid =>
    exact iff_of_true ((halCall_moves hbuffer rfl h).keptIds.inStep_iff.mpr hin) trivial
  | enumerate => exact iff_of_true ((halCall_moves hbuffer rfl h).keptIds.inStep_iff.mpr hin) trivial

/-- **In a run the id that is reported is in step throughout, from a group that was selected on,
exactly when every later call keeps it.** The states are the last one and those in which the later
calls were made. -/
theorem authenticatorId_inStep_iff {files : String → Option FingerprintDatabase}
    {earlier later : List (HalEvent P)} {e : HalEvent P}
    (hrun : (halSystem P files).Run (later ++ e :: earlier) hal) (hselected : e.selected)
    (hqueries : ∀ e' ∈ later, QueriesWork e'.meets e'.pre e'.call) :
    (InStep hal ∧ ∀ e' ∈ later, InStep e'.pre)
      ↔ ∀ e' ∈ later, KeepsInStep e'.meets e'.pre e'.call := by
  have hbuffers : ∀ e' ∈ later, sizeofBioCommand ≤ e'.pre.tee.sharedBuffer.length := by
    intro e' hmem
    rcases hrun.before_of_mem (List.mem_append_left _ hmem) with ⟨past, t, t', hpast, hstep, _⟩
    rw [hstep.1]
    exact halSystem_buffer hpast
  rcases hrun.split with ⟨start, hpast, hlater⟩
  have hstart : InStep start := by
    cases hpast with
    | step hbefore hstep =>
      rcases hstep with ⟨_, hcall, rfl⟩
      rcases hselected with ⟨⟨gid, storePath, hcalled⟩, hzero⟩
      rw [hcalled, hzero] at hcall
      rcases bind_eq_ok.mp hcall with ⟨⟨returned, reached⟩, hset, hcall⟩
      cases hcall
      exact fpcSetActiveGroup_zero (halSystem_buffer hbefore) hset
  have hrestarted := hlater
    (fun e' => QueriesWork e'.meets e'.pre e'.call ∧
      sizeofBioCommand ≤ e'.pre.tee.sharedBuffer.length)
    fun e' hmem => ⟨hqueries e' hmem, hbuffers e' hmem⟩
  refine @System.Run.throughout_iff _ _ _ InStep (fun e' => KeepsInStep e'.meets e'.pre e'.call)
    HalEvent.pre ?_ ?_ ?_ _ _ hrestarted
  · rintro s e' s' ⟨⟨hpre, _⟩, _⟩
    exact hpre
  · rintro s rfl
    exact hstart
  · rintro s e' s' hin ⟨⟨rfl, hcall, rfl⟩, hworks, hbuffer⟩
    exact halCall_inStep_iff hbuffer hin hworks hcall

end

/-! ## Two runs -/

/-- A call whose message `lost` is not delivered, and during which the application draws an id. -/
def sampleLoses (lost : Nat) (id : UInt64) : Meets samplePlatform where
  tac n := if n = lost then fpcUtTacFailing { mapped := true, addr := some [] } else sampleTac
  reaches n := by
    split
    · exact Or.inr (fpcUtTacFailing_fails _)
    · exact sampleTac_delivers
  envs _ := { Env.willing with db := { DbEnv.willing with random64 := fun _ => (0, id) } }
  sensor := []
  cancelled := false
  store _ := 0
  load := 0
  loadDrops := false

theorem cancelledRun_inStep :
    ∃ (e cancelled : HalEvent samplePlatform) (hal : Hal),
      (halSystem samplePlatform fun _ => none).Run [cancelled, e] hal ∧ e.selected ∧ InStep hal := by
  have hruns : (fpcTaRouterInit .willing >>= fun ta => .ok (decide (
      (halCall (sampleLoses 100 7) (sampleOpened ta) (.setActiveGroup 0 "")
        >>= fun r => .ok (decide (r.map Prod.fst = some 0))) = .ok true))) = .ok true := by
    decide +kernel
  rcases exists_of_decided _ hruns with ⟨ta, hinit, hset⟩
  rcases exists_of_decided _ hset with ⟨returned, hset, hzero⟩
  rcases Option.map_eq_some_iff.mp hzero with ⟨⟨status, hal⟩, rfl, rfl⟩
  let e : HalEvent samplePlatform := ⟨.setActiveGroup 0 "", sampleLoses 100 7, sampleOpened ta, 0, hal⟩
  let cancelled : HalEvent samplePlatform := ⟨.cancel, sampleLoses 100 7, hal, 0, (fpcCancel hal).2⟩
  have hselected : e.selected := ⟨⟨_, _, rfl⟩, rfl⟩
  have hrun : (halSystem samplePlatform fun _ => none).Run ([cancelled] ++ e :: [])
      (fpcCancel hal).2 :=
    .step (.step (.init (sampleOpened_opened hinit (SameDb.refl ta))) ⟨rfl, hset, rfl⟩) ⟨rfl, rfl, rfl⟩
  refine ⟨e, cancelled, _, hrun, hselected, ?_⟩
  refine ((authenticatorId_inStep_iff hrun hselected ?_).mpr ?_).1
  · intro e' hmem
    cases List.mem_singleton.mp hmem
    trivial
  · intro e' hmem
    cases List.mem_singleton.mp hmem
    trivial

/-- A removal fails as its message is lost, and the load after it draws another id. -/
theorem failedRemoval_not_inStep :
    ∃ (e removal : HalEvent samplePlatform) (hal : Hal),
      (halSystem samplePlatform fun _ => none).Run [removal, e] hal ∧ e.selected ∧
        QueriesWork removal.meets removal.pre removal.call ∧ ¬ InStep hal := by
  have hruns : (fpcTaRouterInit .willing >>= fun ta => .ok (decide (
      (halCall (sampleLoses 100 7) (sampleOpened ta) (.setActiveGroup 0 "") >>= fun r =>
        .ok (decide (r.map Prod.fst = some 0 ∧
          (halCall (sampleLoses 3 8) ((r.map Prod.snd).getD (sampleOpened ta)) (.remove 0 5)
            >>= fun r' => .ok (decide (r'.map (fun x => (databaseIdOf x.2.userDb,
              x.2.authenticatorId)) = some (some 8, 7)))) = .ok true))) = .ok true))) = .ok true := by
    decide +kernel
  rcases exists_of_decided _ hruns with ⟨ta, hinit, hset⟩
  rcases exists_of_decided _ hset with ⟨returned, hset, hzero, hremove⟩
  rcases Option.map_eq_some_iff.mp hzero with ⟨⟨status, hal⟩, rfl, rfl⟩
  rcases exists_of_decided _ hremove with ⟨removed, hremove, hreached⟩
  rcases Option.map_eq_some_iff.mp hreached with ⟨⟨status', hal'⟩, rfl, hids⟩
  let e : HalEvent samplePlatform := ⟨.setActiveGroup 0 "", sampleLoses 100 7, sampleOpened ta, 0, hal⟩
  let removal : HalEvent samplePlatform := ⟨.remove 0 5, sampleLoses 3 8, hal, status', hal'⟩
  refine ⟨e, removal, hal', ?_, ⟨⟨_, _, rfl⟩, rfl⟩, trivial, ?_⟩
  · exact .step (.step (.init (sampleOpened_opened hinit (SameDb.refl ta))) ⟨rfl, hset, rfl⟩) ⟨rfl, hremove, rfl⟩
  · intro hin
    rcases Prod.mk.inj hids with ⟨hdb, hauth⟩
    have hseven := hin 8 hdb
    rw [fpcGetAuthenticatorId, hauth] at hseven
    exact absurd hseven (by decide)

end Fpc
