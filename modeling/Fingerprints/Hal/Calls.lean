import Fingerprints.Hal.Enrol
import Fingerprints.Runs.History
import Mathlib.Logic.Relation

/-!
# Runs of the device

A run is a sequence of calls of the framework, each with its task to the end, so that the worker is
idle between them.

* **`Hal.Move`**: one thing that a task does to the device, other than to load a database or to add a
  finger. What authentication, removal and enumeration do is a sequence of such moves.
* **`Hal.Moves.keptIds`**: moves keep the id of the database and bring in no set under another key.
-/

namespace Fpc

open Wire Wire.Outcome Runs

/-! ## Calls -/

/-- A call of the framework with its arguments. -/
inductive HalCall where
  | setActiveGroup (gid : UInt32) (storePath : String)
  | preEnroll
  | postEnroll
  | enroll (hat : List UInt8) (gid : UInt32)
  | cancel
  | authenticate (operationId : UInt64) (gid : UInt32)
  | remove (gid fid : UInt32)
  | enumerate
  deriving DecidableEq, Repr

section

variable {P : Platform}

/-- A call and its task, where the task ends: what the call returns and the device. -/
def halCall (m : Meets P) (hal : Hal) : HalCall → Outcome (Option (Int × Hal))
  | .setActiveGroup gid storePath => do
      let returned ← fpcSetActiveGroup m hal gid storePath
      .ok (some returned)
  | .preEnroll => do
      let (challenge, hal) ← fpcPreEnroll m hal
      .ok (some (challenge.toNat, hal))
  | .postEnroll => do
      let returned ← fpcPostEnroll m hal
      .ok (some returned)
  | .enroll hat gid => fpcEnroll m hal hat gid
  | .cancel => .ok (some (fpcCancel hal))
  | .authenticate operationId gid => fpcAuthenticate m hal operationId gid
  | .remove gid fid => do
      let returned ← fpcRemove m hal gid fid
      .ok (some returned)
  | .enumerate => do
      let returned ← fpcEnumerate m hal
      .ok (some returned)

end

/-- A call that was made: what it met, the device before, what it returned and the device after. -/
structure HalEvent (P : Platform) where
  call : HalCall
  meets : Meets P
  pre : Hal
  status : Int
  result : Hal

/-- The device after `fpc_hal_open`, with databases that are stored already. -/
structure Opened (files : String → Option FingerprintDatabase) (hal : Hal) : Prop where
  db : ∃ env ta, fpcTaRouterInit env = .ok ta ∧ SameDb ta hal.tee.ta
  buffer : sizeofBioCommand ≤ hal.tee.sharedBuffer.length
  files : hal.files = files
  stores : hal.stores = 0
  currentDbFile : hal.currentDbFile = ""
  currentGid : hal.currentGid = 0
  authenticatorId : hal.authenticatorId = 0

/-- The device. -/
def halSystem (P : Platform) (files : String → Option FingerprintDatabase) :
    System Hal (HalEvent P) where
  init := Opened files
  step hal e hal' :=
    e.pre = hal ∧ halCall e.meets hal e.call = .ok (some (e.status, e.result)) ∧ e.result = hal'

/-! ## Moves -/

/-- One thing that a task does. -/
inductive Hal.Move : Hal → Hal → Prop
  | noted (hal : Hal) (challenge : UInt64) (removeFid : UInt32) (hat : List UInt8)
      (callbacks : List Callback) :
      Move hal { hal with challenge := challenge
                          removeFid := removeFid
                          hat := hat
                          callbacks := callbacks }
  | asked (hal : Hal) (tee : Tee) (hkept : hal.tee.Kept tee) : Move hal (hal.withTee tee)
  | stored (hal : Hal) : Move hal hal.keptInFile

/-- What a task does, one thing after the other. -/
def Hal.Moves : Hal → Hal → Prop := Relation.ReflTransGen Hal.Move

theorem Hal.Moves.refl (hal : Hal) : hal.Moves hal := Relation.ReflTransGen.refl

theorem Hal.Moves.trans {h₁ h₂ h₃ : Hal} (h : h₁.Moves h₂) (h' : h₂.Moves h₃) : h₁.Moves h₃ :=
  Relation.ReflTransGen.trans h h'

theorem Hal.Moves.callback {hal hal' : Hal} (h : hal.Moves hal') (c : Callback) :
    hal.Moves (hal'.callback c) :=
  h.tail (.noted hal' hal'.challenge hal'.removeFid hal'.hat (c :: hal'.callbacks))

theorem Hal.Moves.asked {hal hal' : Hal} {tee : Tee} (h : hal.Moves hal')
    (hkept : hal'.tee.Kept tee) : hal.Moves (hal'.withTee tee) := h.tail (.asked hal' tee hkept)

theorem Hal.Moves.keptInFile {hal hal' : Hal} (h : hal.Moves hal') :
    hal.Moves hal'.keptInFile := h.tail (.stored hal')

/-- The device as moves keep it. -/
structure Hal.KeptIds (hal hal' : Hal) : Prop where
  tee : hal.tee.Kept hal'.tee
  currentDbFile : hal'.currentDbFile = hal.currentDbFile
  currentGid : hal'.currentGid = hal.currentGid
  authenticatorId : hal'.authenticatorId = hal.authenticatorId

theorem Tee.Kept.refl (tee : Tee) : tee.Kept tee := ⟨KeepsIds.refl _, rfl, rfl⟩

theorem Tee.Kept.trans {tee₁ tee₂ tee₃ : Tee} (h : tee₁.Kept tee₂) (h' : tee₂.Kept tee₃) :
    tee₁.Kept tee₃ :=
  ⟨h.ids.trans h'.ids, h'.activeSetKey.trans h.activeSetKey, h'.buffer.trans h.buffer⟩

theorem Hal.KeptIds.refl (hal : Hal) : hal.KeptIds hal := ⟨Tee.Kept.refl _, rfl, rfl, rfl⟩

theorem Hal.KeptIds.trans {h₁ h₂ h₃ : Hal} (h : h₁.KeptIds h₂) (h' : h₂.KeptIds h₃) :
    h₁.KeptIds h₃ :=
  { tee := h.tee.trans h'.tee
    currentDbFile := h'.currentDbFile.trans h.currentDbFile
    currentGid := h'.currentGid.trans h.currentGid
    authenticatorId := h'.authenticatorId.trans h.authenticatorId }

theorem Hal.Move.keptIds {hal hal' : Hal} (h : hal.Move hal') : hal.KeptIds hal' := by
  cases h with
  | noted _ _ _ _ => exact ⟨Tee.Kept.refl _, rfl, rfl, rfl⟩
  | asked _ hkept => exact ⟨hkept, rfl, rfl, rfl⟩
  | stored => exact ⟨Tee.Kept.refl _, rfl, rfl, rfl⟩

/-- Induction on the moves. -/
theorem Hal.Moves.keptIds {hal hal' : Hal} (h : hal.Moves hal') : hal.KeptIds hal' := by
  induction h with
  | refl => exact Hal.KeptIds.refl hal
  | tail _ hmove ih => exact ih.trans hmove.keptIds

theorem Hal.Moves.buffer {hal hal' : Hal} (h : hal.Moves hal')
    (hbuffer : sizeofBioCommand ≤ hal.tee.sharedBuffer.length) :
    sizeofBioCommand ≤ hal'.tee.sharedBuffer.length := by
  rw [h.keptIds.tee.buffer]
  exact hbuffer

theorem Hal.Kept.keptIds {hal hal' : Hal} (h : hal.Kept hal') : hal.KeptIds hal' :=
  { tee := Tee.kept_of_sameDb h.db h.buffer
    currentDbFile := h.currentDbFile
    currentGid := h.currentGid
    authenticatorId := h.authenticatorId }

section

variable {P : Platform} {m : Meets P} {hal hal' : Hal} {status : Int}

theorem storeTemplateDb_moves (n : Nat) : hal.Moves (storeTemplateDb m hal n).2 := by
  unfold storeTemplateDb
  split
  · exact Relation.ReflTransGen.single (.stored hal)
  · exact .refl hal

/-! ## What the tasks do -/

theorem updateTemplate_moves {stores stores' : Nat}
    (hbuffer : sizeofBioCommand ≤ hal.tee.sharedBuffer.length)
    (h : updateTemplate m hal stores = .ok (status, stores', hal')) : hal.Moves hal' := by
  rcases bind_eq_ok.mp h with ⟨⟨updated, update, tee⟩, hupdate, h⟩
  have hasked := (Hal.Moves.refl hal).asked
    (fpcTeeUpdateTemplate_kept (m.tacOf_reaches _) hbuffer hupdate)
  dsimp only at h
  split at h
  · cases h
    exact hasked
  · split at h
    · cases h
      exact hasked.trans (storeTemplateDb_moves stores)
    · cases h
      exact hasked

theorem authMatched_moves {id : UInt32} {stores : Nat}
    (hbuffer : sizeofBioCommand ≤ hal.tee.sharedBuffer.length)
    (h : authMatched m hal id stores = .ok (status, hal')) : hal.Moves hal' := by
  rcases bind_eq_ok.mp h with ⟨⟨asked, hat, tee⟩, hresult, h⟩
  rcases fpcTeeGetAuthResult_frame (m.tacOf_reaches _) hresult with ⟨hsame, hbuf⟩
  have hasked := (Hal.Moves.refl hal).asked (Tee.kept_of_sameDb hsame (by rw [hbuf]))
  dsimp only at h
  split at h
  · cases h
    exact hasked
  · rcases bind_eq_ok.mp h with ⟨⟨updated, stores', hal''⟩, hupdate, h⟩
    cases h
    exact (hasked.callback _).trans (updateTemplate_moves (hasked.buffer hbuffer) hupdate)

/-- The loop over the images. Induction on the answers of the sensor. -/
theorem authImages_moves {captures : List Int32} {failedAttempts stores : Nat}
    (hbuffer : sizeofBioCommand ≤ hal.tee.sharedBuffer.length)
    (h : authImages m captures failedAttempts stores hal = .ok (some (status, hal'))) :
    hal.Moves hal' := by
  induction captures generalizing hal failedAttempts stores with
  | nil => cases h
  | cons captured rest ih =>
    have hhere := Hal.Moves.refl hal
    unfold authImages at h
    dsimp only at h
    split at h
    · exact (hhere.callback _).trans (ih hbuffer h)
    · split at h
      · split at h
        · cases h
          exact hhere.callback _
        · exact (hhere.callback _).trans (ih hbuffer h)
      · split at h
        · cases h
          exact hhere
        · rcases bind_eq_ok.mp h with ⟨⟨identified, id, tee⟩, hidentify, h⟩
          have hasked := hhere.asked (fpcTeeIdentify_kept (m.tacOf_reaches _) hbuffer hidentify)
          dsimp only at h
          split at h
          · cases h
            exact hasked
          · split at h
            · exact (hasked.callback _).trans (ih (hasked.buffer hbuffer) h)
            · have htold := hasked.callback (.onAcquired halCompatAcquiredGood)
              split at h
              · rcases bind_eq_ok.mp h with ⟨⟨matched, hal''⟩, hmatched, h⟩
                cases h
                exact htold.trans (authMatched_moves (htold.buffer hbuffer) hmatched)
              · rcases bind_eq_ok.mp h with ⟨⟨updated, stores', hal''⟩, hupdate, h⟩
                have hupdated := (htold.callback _).trans
                  (updateTemplate_moves (htold.buffer hbuffer) hupdate)
                dsimp only at h
                split at h
                · cases h
                  exact hupdated
                · split at h
                  · cases h
                    exact hupdated
                  · exact hupdated.trans (ih (hupdated.buffer hbuffer) h)

/-- What an authentication reports in the end. -/
theorem authEnded_moves {ended : Option (Int × Hal)} {start : Hal}
    (hmoves : ∀ e, ended = some e → start.Moves e.2)
    (h : ended.map (fun e => if e.1 = 0 ∨ e.1 = -fpcErrorCancelled then e.2
      else e.2.callback (.onError halCompatErrorHwUnavailable)) = some hal') : start.Moves hal' := by
  rcases Option.map_eq_some_iff.mp h with ⟨e, he, rfl⟩
  split
  · exact hmoves e he
  · exact (hmoves e he).callback _

theorem doAuthenticate_moves (hbuffer : sizeofBioCommand ≤ hal.tee.sharedBuffer.length)
    (h : doAuthenticate m hal = .ok (some hal')) : hal.Moves hal' := by
  rcases bind_eq_ok.mp h with ⟨⟨set, tee⟩, hset, h⟩
  rcases fpcTeeSetAuthChallenge_frame (m.tacOf_reaches _) hbuffer hset with ⟨hsame, hbuf⟩
  have hasked := (Hal.Moves.refl hal).asked (Tee.kept_of_sameDb hsame hbuf)
  dsimp only at h
  split at h
  · rcases bind_eq_ok.mp h with ⟨ended, hended, h⟩
    cases hended
    injection h with h
    refine authEnded_moves ?_ h
    rintro e he
    cases he
    exact hasked
  · rcases bind_eq_ok.mp h with ⟨ended, himages, h⟩
    injection h with h
    refine authEnded_moves ?_ h
    rintro e rfl
    exact hasked.trans (authImages_moves (hasked.buffer hbuffer) himages)

theorem idsToRemove_moves {ids : List UInt32}
    (hbuffer : sizeofBioCommand ≤ hal.tee.sharedBuffer.length)
    (h : idsToRemove m hal = .ok (status, ids, hal')) : hal.Moves hal' := by
  unfold idsToRemove at h
  split at h
  · rcases bind_eq_ok.mp h with ⟨⟨asked, found, tee⟩, hids, h⟩
    rcases fpcTeeGetFingerIds_commanded (m.tacOf_reaches _) hbuffer hids with ⟨hsame, hbuf⟩
    have hasked := (Hal.Moves.refl hal).asked (Tee.kept_of_sameDb hsame hbuf)
    dsimp only at h
    split at h
    · cases h
      exact hasked
    · cases h
      exact hasked
  · cases h
    exact .refl _

/-- The loop over the ids. Induction on the ids that are left. -/
theorem removeIds_moves {ids : List UInt32} {stores : Nat}
    (hbuffer : sizeofBioCommand ≤ hal.tee.sharedBuffer.length)
    (h : removeIds m ids stores hal = .ok (status, hal')) : hal.Moves hal' := by
  induction ids generalizing hal stores with
  | nil =>
    cases h
    exact .refl _
  | cons id rest ih =>
    rcases bind_eq_ok.mp h with ⟨⟨deleted, tee⟩, hdelete, h⟩
    have hasked := (Hal.Moves.refl hal).asked
      (fpcTeeDeleteTemplate_kept (m.tacOf_reaches _) hbuffer hdelete)
    dsimp only at h
    split at h
    · cases h
      exact hasked
    · split at h
      · have hstored := hasked.trans (@storeTemplateDb_moves _ m (hal.withTee tee) stores)
        split at h
        · cases h
          exact hstored
        · exact (hstored.callback _).trans (ih (hstored.buffer hbuffer) h)
      · exact (hasked.callback _).trans (ih (hasked.buffer hbuffer) h)

theorem doEnumerate_moves (hbuffer : sizeofBioCommand ≤ hal.tee.sharedBuffer.length)
    (h : doEnumerate m hal = .ok hal') : hal.Moves hal' := by
  rcases bind_eq_ok.mp h with ⟨⟨asked, found, tee⟩, hids, h⟩
  rcases fpcTeeGetFingerIds_commanded (m.tacOf_reaches _) hbuffer hids with ⟨hsame, hbuf⟩
  have hasked := (Hal.Moves.refl hal).asked (Tee.kept_of_sameDb hsame hbuf)
  dsimp only at h
  split at h
  · cases h
    exact hasked.callback _
  · split at h
    · cases h
      exact hasked.callback _
    · cases h
      exact hasked.tail (.noted _ hal.challenge hal.removeFid hal.hat _)

theorem getEnrolChallenge_moves {challenge : Option UInt64} {tee : Tee}
    (hbuffer : sizeofBioCommand ≤ hal.tee.sharedBuffer.length)
    (h : fpcTeeGetEnrolChallenge (m.tacOf hal.tee) m.envs hal.tee = .ok (status, challenge, tee)) :
    hal.Moves (hal.withTee tee) := by
  rcases fpcTeeGetEnrolChallenge_frame (m.tacOf_reaches _) hbuffer h with ⟨hsame, hbuf⟩
  exact (Hal.Moves.refl hal).asked (Tee.kept_of_sameDb hsame hbuf)

/-- `do_remove` fails in a state. -/
def RemovalFails (m : Meets P) (hal failed : Hal) : Prop :=
  ∃ status ids asked, idsToRemove m hal = .ok (status, ids, asked) ∧
    (status ≠ 0 ∧ failed = asked ∨
      status = 0 ∧ ∃ left, left ≠ 0 ∧ removeIds m ids 0 asked = .ok (left, failed))

/-- How a run of `do_remove` ends: it removed the fingers, or failed and loaded the database. -/
inductive RemoveEnded (m : Meets P) (hal hal' : Hal) : Prop
  | removed (hmoves : hal.Moves hal') (hnone : ∀ failed, ¬ RemovalFails m hal failed) :
      RemoveEnded m hal hal'
  | failed (failed : Hal) (status : Int) (hmoves : hal.Moves failed)
      (hfails : ∀ failed', RemovalFails m hal failed' ↔ failed' = failed)
      (hload : loadTemplateDb m (failed.callback (.onError halCompatErrorUnableToRemove))
        = .ok (status, hal')) : RemoveEnded m hal hal'

theorem doRemove_ended (hbuffer : sizeofBioCommand ≤ hal.tee.sharedBuffer.length)
    (h : doRemove m hal = .ok hal') : RemoveEnded m hal hal' := by
  rcases bind_eq_ok.mp h with ⟨⟨asked, ids, hal₁⟩, hids, h⟩
  have hasked := idsToRemove_moves hbuffer hids
  dsimp only at h
  split at h
  · next hne =>
    rcases bind_eq_ok.mp h with ⟨⟨left, hal₂⟩, hleft, h⟩
    cases hleft
    dsimp only at h
    rw [if_pos hne] at h
    rcases bind_eq_ok.mp h with ⟨⟨loaded, hal₃⟩, hload, h⟩
    cases h
    refine .failed hal₁ loaded hasked ?_ hload
    intro failed'
    constructor
    · rintro ⟨status', ids', asked', hids', hcase⟩
      rw [hids] at hids'
      cases hids'
      exact hcase.elim And.right fun hzero => absurd hzero.1 hne
    · rintro rfl
      exact ⟨asked, ids, _, hids, Or.inl ⟨hne, rfl⟩⟩
  · next hzero =>
    rcases bind_eq_ok.mp h with ⟨⟨left, hal₂⟩, hremove, h⟩
    have hremoved := hasked.trans (removeIds_moves (hasked.buffer hbuffer) hremove)
    dsimp only at h
    split at h
    · next hne =>
      rcases bind_eq_ok.mp h with ⟨⟨loaded, hal₃⟩, hload, h⟩
      cases h
      refine .failed hal₂ loaded hremoved ?_ hload
      intro failed'
      constructor
      · rintro ⟨status', ids', asked', hids', hcase⟩
        rw [hids] at hids'
        cases hids'
        rcases hcase with ⟨hasked', _⟩ | ⟨_, left', _, hremove'⟩
        · exact absurd hasked' hzero
        · rw [hremove] at hremove'
          cases hremove'
          rfl
      · rintro rfl
        exact ⟨asked, ids, hal₁, hids, Or.inr ⟨not_not.mp hzero, left, hne, hremove⟩⟩
    · next hleft =>
      have hnone : ∀ failed, ¬ RemovalFails m hal failed := by
        rintro failed ⟨status', ids', asked', hids', hcase⟩
        rw [hids] at hids'
        cases hids'
        rcases hcase with ⟨hasked', _⟩ | ⟨_, left', hne, hremove'⟩
        · exact hzero hasked'
        · rw [hremove] at hremove'
          cases hremove'
          exact hleft hne
      split at h
      · cases h
        exact .removed (hremoved.callback _) hnone
      · cases h
        exact .removed hremoved hnone

/-! ## What the calls do -/

/-- How a call of `fpc_set_active_group` ends: the database is not loaded, the group is not set, or
both are done and the id of the database is asked for. -/
inductive SelectEnded (m : Meets P) (hal : Hal) (gid : UInt32) (status : Int) (hal' : Hal) : Prop
  | unloaded (loading : Int)
      (hload : loadTemplateDb m { hal with currentDbFile := templateFile } = .ok (loading, hal'))
      (hne : loading ≠ 0) (hstatus : status ≠ 0) : SelectEnded m hal gid status hal'
  | unset (loaded : Hal) (setting : Int) (tee : Tee)
      (hload : loadTemplateDb m { hal with currentDbFile := templateFile } = .ok (0, loaded))
      (hset : fpcTeeSetGid (m.tacOf loaded.tee) m.envs loaded.tee gid = .ok (setting, tee))
      (hne : setting ≠ 0) (hstatus : status ≠ 0) (hend : hal' = loaded.withTee tee) :
      SelectEnded m hal gid status hal'
  | selected (loaded : Hal) (tee : Tee) (asked : Int) (dbId : Option UInt64) (tee' : Tee)
      (hload : loadTemplateDb m { hal with currentDbFile := templateFile } = .ok (0, loaded))
      (hset : fpcTeeSetGid (m.tacOf loaded.tee) m.envs loaded.tee gid = .ok (0, tee))
      (hask : fpcTeeGetTemplateDbId (m.tacOf tee) m.envs tee = .ok (asked, dbId, tee'))
      (hstatus : status = 0 ↔ asked = 0)
      (hend : hal' = { { loaded with currentGid := gid }.withTee tee' with
        authenticatorId := dbId.getD 0 }) : SelectEnded m hal gid status hal'

theorem fpcSetActiveGroup_ended {gid : UInt32} {storePath : String}
    (h : fpcSetActiveGroup m hal gid storePath = .ok (status, hal')) :
    SelectEnded m hal gid status hal' := by
  rcases bind_eq_ok.mp h with ⟨⟨loading, loaded⟩, hload, h⟩
  dsimp only at h
  split at h
  · next hne =>
    cases h
    exact .unloaded loading hload hne (by decide)
  · next hloading =>
    rw [not_not.mp hloading] at hload
    rcases bind_eq_ok.mp h with ⟨⟨setting, tee⟩, hset, h⟩
    dsimp only at h
    split at h
    · next hne =>
      cases h
      exact .unset loaded setting tee hload hset hne (by decide) rfl
    · next hsetting =>
      rw [not_not.mp hsetting] at hset
      rcases bind_eq_ok.mp h with ⟨⟨asked, dbId, tee'⟩, hask, h⟩
      dsimp only at h
      split at h
      · next hne =>
        cases h
        exact .selected loaded tee asked dbId tee' hload hset hask (iff_of_false (by decide) hne) rfl
      · next hasked =>
        cases h
        exact .selected loaded tee asked dbId tee' hload hset hask
          (iff_of_true rfl (not_not.mp hasked)) rfl

/-- The calls whose task neither loads a database nor adds a finger. -/
def HalCall.onlyMoves : HalCall → Bool
  | .setActiveGroup _ _ => false
  | .preEnroll => true
  | .postEnroll => true
  | .enroll _ _ => false
  | .cancel => true
  | .authenticate _ _ => true
  | .remove _ _ => false
  | .enumerate => true

theorem halCall_moves {call : HalCall} (hbuffer : sizeofBioCommand ≤ hal.tee.sharedBuffer.length)
    (hcall : call.onlyMoves = true) (h : halCall m hal call = .ok (some (status, hal'))) :
    hal.Moves hal' := by
  cases call with
  | setActiveGroup _ _ => cases hcall
  | enroll _ _ => cases hcall
  | remove _ _ => cases hcall
  | preEnroll =>
    rcases bind_eq_ok.mp h with ⟨⟨challenge, reached⟩, hpre, h⟩
    rcases bind_eq_ok.mp hpre with ⟨⟨asked, drawn, tee⟩, hask, hpre⟩
    cases hpre
    cases h
    exact getEnrolChallenge_moves hbuffer hask
  | postEnroll =>
    rcases bind_eq_ok.mp h with ⟨⟨returned, reached⟩, hpost, h⟩
    rcases bind_eq_ok.mp hpost with ⟨⟨asked, drawn, tee⟩, hask, hpost⟩
    cases hpost
    cases h
    exact getEnrolChallenge_moves hbuffer hask
  | cancel =>
    cases h
    exact (Hal.Moves.refl hal).callback _
  | authenticate operationId gid =>
    unfold halCall fpcAuthenticate at h
    dsimp only at h
    split at h
    · cases h
      exact .refl _
    · rcases bind_eq_ok.mp h with ⟨ended, hauthenticate, h⟩
      injection h with h
      rcases Option.map_eq_some_iff.mp h with ⟨reached, rfl, hreturned⟩
      cases hreturned
      have hset : hal.Moves { hal with challenge := operationId } :=
        (Hal.Moves.refl hal).tail (.noted hal operationId hal.removeFid hal.hat hal.callbacks)
      exact hset.trans (doAuthenticate_moves hbuffer hauthenticate)
  | enumerate =>
    rcases bind_eq_ok.mp h with ⟨⟨returned, reached⟩, henumerate, h⟩
    rcases bind_eq_ok.mp henumerate with ⟨enumerated, henumerate, hreturned⟩
    cases hreturned
    cases h
    exact doEnumerate_moves hbuffer henumerate

theorem loadTemplateDb_buffer (hbuffer : sizeofBioCommand ≤ hal.tee.sharedBuffer.length)
    (h : loadTemplateDb m hal = .ok (status, hal')) :
    sizeofBioCommand ≤ hal'.tee.sharedBuffer.length := by
  unfold loadTemplateDb at h
  split at h
  · rcases bind_eq_ok.mp h with ⟨⟨loaded, tee⟩, hload, h⟩
    cases h
    show sizeofBioCommand ≤ tee.sharedBuffer.length
    rw [(fpcTeeLoadEmptyDb_commanded (m.tacOf_reaches _) hbuffer hload).2]
    exact hbuffer
  · split at h
    · cases h
      exact hbuffer
    · split at h
      · cases h
        exact hbuffer
      · cases h
        exact hbuffer

theorem completeEnrol_buffer (hbuffer : sizeofBioCommand ≤ hal.tee.sharedBuffer.length)
    (h : completeEnrol m hal = .ok (status, hal')) :
    sizeofBioCommand ≤ hal'.tee.sharedBuffer.length := by
  rcases bind_eq_ok.mp h with ⟨⟨ended, id, tee⟩, hended, _⟩
  have hbuf : sizeofBioCommand ≤ (hal.withTee tee).tee.sharedBuffer.length := by
    show sizeofBioCommand ≤ tee.sharedBuffer.length
    rw [(fpcTeeEndEnrol_commanded (m.tacOf_reaches _) hbuffer hended).2.2]
    exact hbuffer
  cases completeEnrol_completed hended h with
  | failed _ => exact hbuf
  | unstored loaded reached _ _ hload => exact loadTemplateDb_buffer hbuf hload
  | deleted deleted tee' _ _ _ hdelete =>
    have hdeleted := (Hal.Moves.refl (hal.withTee tee)).keptInFile.asked
      (fpcTeeDeleteTemplate_kept (m.tacOf_reaches _) hbuf hdelete)
    exact (hdeleted.trans (@storeTemplateDb_moves _ m _ 1)).buffer hbuf
  | reported asked dbId tee' _ _ _ hask =>
    show sizeofBioCommand ≤ tee'.sharedBuffer.length
    rw [(fpcTeeGetTemplateDbId_commanded (m.tacOf_reaches _) hbuf hask).2.2]
    exact hbuf

/-- A call leaves the message buffer long enough for the next. -/
theorem halCall_buffer {call : HalCall} (hbuffer : sizeofBioCommand ≤ hal.tee.sharedBuffer.length)
    (h : halCall m hal call = .ok (some (status, hal'))) :
    sizeofBioCommand ≤ hal'.tee.sharedBuffer.length := by
  cases hcall : call.onlyMoves with
  | true => exact (halCall_moves hbuffer hcall h).buffer hbuffer
  | false =>
    cases call with
    | setActiveGroup gid storePath =>
      rcases bind_eq_ok.mp h with ⟨⟨returned, reached⟩, hset, h⟩
      cases h
      cases fpcSetActiveGroup_ended hset with
      | unloaded loading hload _ _ =>
        exact @loadTemplateDb_buffer _ m { hal with currentDbFile := templateFile } _ _ hbuffer hload
      | unset loaded setting tee hload hset _ _ hend =>
        have hbuf := @loadTemplateDb_buffer _ m { hal with currentDbFile := templateFile } _ _
          hbuffer hload
        rw [hend]
        show sizeofBioCommand ≤ tee.sharedBuffer.length
        rw [(fpcTeeSetGid_active (m.tacOf_reaches _) hbuf hset).2.2.2]
        exact hbuf
      | selected loaded tee asked dbId tee' hload hset hask _ hend =>
        have hbuf := @loadTemplateDb_buffer _ m { hal with currentDbFile := templateFile } _ _
          hbuffer hload
        have hlen := (fpcTeeSetGid_active (m.tacOf_reaches _) hbuf hset).2.2.2
        rw [hend]
        show sizeofBioCommand ≤ tee'.sharedBuffer.length
        rw [(fpcTeeGetTemplateDbId_commanded (m.tacOf_reaches _) (by rw [hlen]; exact hbuf)
          hask).2.2, hlen]
        exact hbuf
    | enroll hat gid =>
      unfold halCall fpcEnroll at h
      dsimp only at h
      split at h
      · cases h
        exact hbuffer
      · split at h
        · cases h
          exact hbuffer
        · rcases bind_eq_ok.mp h with ⟨ended, henroll, h⟩
          injection h with h
          rcases Option.map_eq_some_iff.mp h with ⟨reached, rfl, hreturned⟩
          cases hreturned
          cases @doEnroll_ended _ m { hal with hat := hat } _ hbuffer henroll with
          | left status reached htouched hnone hend =>
            rw [hend]
            exact (reportEnrol_touched reached status).buffer (htouched.buffer hbuffer)
          | completed status ended answered touched reached tee htouched _ _ hcomplete hend =>
            rw [hend]
            exact (reportEnrol_touched reached status).buffer
              (completeEnrol_buffer (htouched.buffer hbuffer) hcomplete)
    | remove gid fid =>
      rcases bind_eq_ok.mp h with ⟨⟨returned, reached⟩, hremove, h⟩
      cases h
      unfold fpcRemove at hremove
      split at hremove
      · cases hremove
        exact hbuffer
      · rcases bind_eq_ok.mp hremove with ⟨removed, hremove, hreturned⟩
        cases hreturned
        cases @doRemove_ended _ m { hal with removeFid := fid } _ hbuffer hremove with
        | removed hmoves _ => exact hmoves.buffer hbuffer
        | failed failed status hmoves _ hload =>
          have hbuf : sizeofBioCommand ≤ (failed.callback
              (.onError halCompatErrorUnableToRemove)).tee.sharedBuffer.length :=
            hmoves.buffer hbuffer
          exact loadTemplateDb_buffer hbuf hload
    | preEnroll => cases hcall
    | postEnroll => cases hcall
    | cancel => cases hcall
    | authenticate _ _ => cases hcall
    | enumerate => cases hcall

/-- The message buffer is long enough in every state of a run. -/
theorem halSystem_buffer {files : String → Option FingerprintDatabase} {history : List (HalEvent P)}
    (hrun : (halSystem P files).Run history hal) :
    sizeofBioCommand ≤ hal.tee.sharedBuffer.length := by
  refine hrun.invariant_state (fun s (hopened : Opened files s) => hopened.buffer) ?_
  rintro hal e hal' hbuffer ⟨_, hcall, rfl⟩
  exact halCall_buffer hbuffer hcall

end

/-- The device after `fpc_hal_open`. -/
def sampleOpened (ta : Ta) : Hal where
  tee := { ta := ta, messages := 0, sharedBuffer := List.replicate 40 0 }
  files _ := none
  stores := 0
  currentDbFile := ""
  currentGid := 0
  challenge := 0
  authenticatorId := 0
  removeFid := 0
  hat := []
  callbacks := []

theorem sampleOpened_opened {ta ta' : Ta} (h : fpcTaRouterInit .willing = .ok ta)
    (hsame : SameDb ta ta') : Opened (fun _ => none) (sampleOpened ta') :=
  { db := ⟨_, ta, h, hsame⟩
    buffer := by
      show 40 ≤ (List.replicate 40 (0 : UInt8)).length
      decide
    files := rfl
    stores := rfl
    currentDbFile := rfl
    currentGid := rfl
    authenticatorId := rfl }

end Fpc
