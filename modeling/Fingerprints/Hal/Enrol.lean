import Fingerprints.Hal.Device

/-!
# Enrolment and the two databases

`do_enroll` ends with a chain of calls whose results it partly ignores: it ends the enrolment in
the application and stores the database; where the store fails it loads the old one again, and where
the user cancelled it deletes the finger and stores once more.

* **`doEnroll_ended`**: how a run of `do_enroll` ends.
* **`completeEnrol_completed`**: what the chain of calls does, case by case.
* **`doEnroll_agrees_iff`**: for which outcomes of the calls what the user was told agrees with the
  database of the application and the stored one.
-/

namespace Fpc

open Wire Wire.Outcome

/-! ## What the user is told, and what there is -/

/-- A finger of the database has an id that begins so. -/
def HasId (pDb : Option FingerprintDatabase) (id : UInt32) : Prop :=
  ∃ f, Enrolled pDb f ∧ fpcDbTrimId32 f.fingerprintId = id

/-- Between the two states the framework was told that a finger is enrolled. -/
def Delivered (hal hal' : Hal) (id : UInt32) : Prop :=
  ∃ made, hal'.callbacks = made ++ hal.callbacks ∧
    Callback.onEnrollResult id hal.currentGid 0 ∈ made

/-- The application or the file had the finger. -/
def Hal.Knows (hal : Hal) (f : Fingerprint) : Prop := Enrolled hal.userDb f ∨ Enrolled hal.stored f

/-- The database has no finger that is new. -/
def Hal.KnowsAll (hal : Hal) (pDb : Option FingerprintDatabase) : Prop :=
  ∀ f, Enrolled pDb f → hal.Knows f

/-- What was told agrees with the databases: a finger that was reported is in both, and where none
was reported neither has a finger that is new. -/
structure EnrolmentAgrees (hal hal' : Hal) : Prop where
  delivered : ∀ id, id ≠ 0 → Delivered hal hal' id → HasId hal'.userDb id ∧ HasId hal'.stored id
  undelivered : (∀ id, id ≠ 0 → ¬ Delivered hal hal' id) →
    hal.KnowsAll hal'.userDb ∧ hal.KnowsAll hal'.stored

/-! ## The outcomes of the calls -/

section

variable {P : Platform} (m : Meets P)

/-- The touches of the run were completed in a state, and `END_ENROL` then returned 0 and an id. -/
structure EnrolsIn (hal touched : Hal) (id : UInt32) (tee : Tee) : Prop where
  completed : ∃ started, startEnrol m hal = .ok (0, started) ∧
    enrolTouches m m.sensor started = .ok (some (.completed, touched))
  ended : fpcTeeEndEnrol (m.tacOf touched.tee) m.envs touched.tee = .ok (0, some id, tee)

/-- A load takes the new finger out of the application again: the stored database is loaded, or the
one of the application is lost; where none is stored the application is reached. -/
def Reloads (hal : Hal) : Prop :=
  match hal.stored with
  | none => ¬ (m.tacOf hal.tee).Fails
  | some _ => m.load = 0 ∨ m.loadDrops = true

/-- The new finger is taken out again: the application is reached, the first finger with the id is
the new one, and the second store works. -/
def Undoes (hal enrolled : Hal) (id : UInt32) : Prop :=
  ¬ (m.tacOf enrolled.tee).Fails ∧ id ≠ 0 ∧ m.store 1 = 0 ∧
    ∃ i f, fpcDbGetIndexOfId32 enrolled.userDb id = .ok i ∧
      (slots enrolled.userDb)[i]? = some f ∧ ¬ hal.Knows f

/-- What follows an `END_ENROL` that returned an id: a store that fails is followed by a load, a
cancelled enrolment is undone, and otherwise the id is one that can be reported. -/
def Settles (hal enrolled : Hal) (id : UInt32) : Prop :=
  (m.store 0 ≠ 0 → Reloads m enrolled) ∧
    (m.store 0 = 0 → m.cancelled = true → Undoes m hal enrolled id) ∧
    (m.store 0 = 0 → m.cancelled = false → id ≠ 0)

end

/-! ## The touches -/

/-- The databases, the group and the id are as they were. -/
structure Hal.Kept (hal hal' : Hal) : Prop where
  db : SameDb hal.tee.ta hal'.tee.ta
  files : hal'.files = hal.files
  stores : hal'.stores = hal.stores
  currentDbFile : hal'.currentDbFile = hal.currentDbFile
  currentGid : hal'.currentGid = hal.currentGid
  authenticatorId : hal'.authenticatorId = hal.authenticatorId
  buffer : hal'.tee.sharedBuffer.length = hal.tee.sharedBuffer.length

theorem Hal.Kept.refl (hal : Hal) : hal.Kept hal :=
  { db := SameDb.refl _
    files := rfl
    stores := rfl
    currentDbFile := rfl
    currentGid := rfl
    authenticatorId := rfl
    buffer := rfl }

theorem Hal.Kept.trans {h₁ h₂ h₃ : Hal} (h : h₁.Kept h₂) (h' : h₂.Kept h₃) : h₁.Kept h₃ :=
  { db := h.db.trans h'.db
    files := h'.files.trans h.files
    stores := h'.stores.trans h.stores
    currentDbFile := h'.currentDbFile.trans h.currentDbFile
    currentGid := h'.currentGid.trans h.currentGid
    authenticatorId := h'.authenticatorId.trans h.authenticatorId
    buffer := h'.buffer.trans h.buffer }

theorem Hal.Kept.userDb {hal hal' : Hal} (h : hal.Kept hal') : hal'.userDb = hal.userDb :=
  h.db.userDb

theorem Hal.Kept.stored {hal hal' : Hal} (h : hal.Kept hal') : hal'.stored = hal.stored := by
  rw [Hal.stored, h.files, h.currentDbFile, ← Hal.stored]

theorem Hal.kept_withTee {hal : Hal} {tee : Tee} (hdb : SameDb hal.tee.ta tee.ta)
    (hbuffer : tee.sharedBuffer.length = hal.tee.sharedBuffer.length) :
    hal.Kept (hal.withTee tee) :=
  { db := hdb
    files := rfl
    stores := rfl
    currentDbFile := rfl
    currentGid := rfl
    authenticatorId := rfl
    buffer := hbuffer }

theorem Hal.kept_callbacks (hal : Hal) (callbacks : List Callback) :
    hal.Kept { hal with callbacks := callbacks } :=
  { db := SameDb.refl _
    files := rfl
    stores := rfl
    currentDbFile := rfl
    currentGid := rfl
    authenticatorId := rfl
    buffer := rfl }

/-- No finger was reported as enrolled. -/
def Hal.Quiet (hal hal' : Hal) : Prop :=
  ∃ made, hal'.callbacks = made ++ hal.callbacks ∧
    ∀ id gid, Callback.onEnrollResult id gid 0 ∈ made → id = 0

theorem Hal.Quiet.refl (hal : Hal) : hal.Quiet hal := ⟨[], rfl, by simp⟩

theorem Hal.Quiet.trans {h₁ h₂ h₃ : Hal} (h : h₁.Quiet h₂) (h' : h₂.Quiet h₃) : h₁.Quiet h₃ := by
  rcases h with ⟨made, hmade, hnone⟩
  rcases h' with ⟨made', hmade', hnone'⟩
  refine ⟨made' ++ made, by rw [hmade', hmade, List.append_assoc], ?_⟩
  intro id gid hmem
  rcases List.mem_append.mp hmem with hmem | hmem
  · exact hnone' id gid hmem
  · exact hnone id gid hmem

theorem Hal.Quiet.not_delivered {hal hal' : Hal} (h : hal.Quiet hal') {id : UInt32} (hid : id ≠ 0) :
    ¬ Delivered hal hal' id := by
  rcases h with ⟨made, hmade, hnone⟩
  rintro ⟨made', hmade', hmem⟩
  rw [hmade] at hmade'
  rw [← List.append_cancel_right hmade'] at hmem
  exact hid (hnone id _ hmem)

/-- Both. -/
structure Hal.Touched (hal hal' : Hal) : Prop where
  kept : hal.Kept hal'
  quiet : hal.Quiet hal'

theorem Hal.Touched.refl (hal : Hal) : hal.Touched hal := ⟨.refl hal, .refl hal⟩

theorem Hal.Touched.trans {h₁ h₂ h₃ : Hal} (h : h₁.Touched h₂) (h' : h₂.Touched h₃) :
    h₁.Touched h₃ := ⟨h.kept.trans h'.kept, h.quiet.trans h'.quiet⟩

theorem Hal.touched_withTee {hal : Hal} {tee : Tee} (hdb : SameDb hal.tee.ta tee.ta)
    (hbuffer : tee.sharedBuffer.length = hal.tee.sharedBuffer.length) :
    hal.Touched (hal.withTee tee) := ⟨Hal.kept_withTee hdb hbuffer, .refl hal⟩

theorem Hal.touched_callbacks (hal : Hal) {made : List Callback}
    (h : ∀ id gid, Callback.onEnrollResult id gid 0 ∈ made → id = 0) :
    hal.Touched { hal with callbacks := made ++ hal.callbacks } :=
  ⟨Hal.kept_callbacks hal _, made, rfl, h⟩

theorem Hal.touched_acquired (hal : Hal) (code : Int) :
    hal.Touched (hal.callback (.onAcquired code)) := by
  have hmade : ∀ id gid, Callback.onEnrollResult id gid 0 ∈ [Callback.onAcquired code] → id = 0 := by
    simp
  exact Hal.touched_callbacks hal hmade

theorem Hal.touched_error (hal : Hal) (code : Int) : hal.Touched (hal.callback (.onError code)) := by
  have hmade : ∀ id gid, Callback.onEnrollResult id gid 0 ∈ [Callback.onError code] → id = 0 := by
    simp
  exact Hal.touched_callbacks hal hmade

/-- What is reported of a touch names no finger. -/
theorem touchReport_quiet (status : Int) (gid remaining : UInt32) (id gid' : UInt32)
    (h : Callback.onEnrollResult id gid' 0 ∈ (touchReport status gid remaining).1) : id = 0 := by
  unfold touchReport at h
  repeat' split at h
  all_goals simp at h
  · exact h.1
  · exact h.1

theorem reportEnrol_touched (hal : Hal) (status : Int) : hal.Touched (reportEnrol hal status) := by
  unfold reportEnrol
  split
  · exact .refl hal
  · split
    · exact Hal.touched_error hal _
    · split
      · exact Hal.touched_error hal _
      · exact Hal.touched_error hal _

section

variable {P : Platform} {m : Meets P} {hal hal' : Hal}

theorem Meets.tacOf_reaches (m : Meets P) (tee : Tee) : (m.tacOf tee).DeliversOrFails P :=
  m.reaches tee.messages

theorem startEnrol_touched {status : Int} (hbuffer : sizeofBioCommand ≤ hal.tee.sharedBuffer.length)
    (h : startEnrol m hal = .ok (status, hal')) : hal.Touched hal' := by
  rcases bind_eq_ok.mp h with ⟨⟨authorized, tee⟩, hauthorize, h⟩
  rcases fpcTeeAuthorizeEnrol_frame (m.tacOf_reaches _) hauthorize with ⟨hsame, hbuf⟩
  have hstart := @Hal.touched_withTee hal tee hsame (by rw [hbuf])
  dsimp only at h
  split at h
  · cases h
    exact hstart
  · rcases bind_eq_ok.mp h with ⟨⟨begun, tee'⟩, hbegin, h⟩
    have hkept := fpcTeeBeginEnrol_commanded (m.tacOf_reaches _)
      (show sizeofBioCommand ≤ tee.sharedBuffer.length by rw [hbuf]; exact hbuffer) hbegin
    cases h
    exact hstart.trans (Hal.touched_withTee hkept.1 hkept.2)

/-- The loop of touches. Induction on the answers of the sensor. -/
theorem enrolTouches_touched {captures : List Int32} {exit : EnrolExit}
    (hbuffer : sizeofBioCommand ≤ hal.tee.sharedBuffer.length)
    (h : enrolTouches m captures hal = .ok (some (exit, hal'))) : hal.Touched hal' := by
  induction captures generalizing hal with
  | nil => cases h
  | cons captured rest ih =>
    unfold enrolTouches at h
    dsimp only at h
    split at h
    · exact (Hal.touched_acquired hal _).trans (ih hbuffer h)
    · split at h
      · exact (Hal.touched_acquired hal _).trans (ih hbuffer h)
      · split at h
        · exact ih hbuffer h
        · split at h
          · cases h
            exact .refl _
          · rcases bind_eq_ok.mp h with ⟨⟨status, remaining, tee⟩, henrol, h⟩
            rcases fpcTeeEnrol_commanded (m.tacOf_reaches _) hbuffer henrol with ⟨hsame, hbuf⟩
            have htouch := @Hal.touched_withTee hal tee hsame hbuf
            dsimp only at h
            split at h
            · cases h
              exact htouch
            · split at h
              · cases h
                exact htouch
              · have hreport := htouch.trans (Hal.touched_callbacks (hal.withTee tee)
                  (touchReport_quiet status (hal.withTee tee).currentGid (remaining.getD 0)))
                split at h
                · cases h
                  exact hreport
                · exact hreport.trans (ih (by rw [hreport.kept.buffer]; exact hbuffer) h)

/-! ## The last touch -/

/-- Where no finger was reported, agreeing says that none is new. -/
theorem Hal.Quiet.agrees_iff (h : hal.Quiet hal') :
    EnrolmentAgrees hal hal' ↔ hal.KnowsAll hal'.userDb ∧ hal.KnowsAll hal'.stored := by
  constructor
  · intro hagrees
    exact hagrees.undelivered fun id hid => h.not_delivered hid
  · rintro ⟨happlication, hfile⟩
    exact { delivered := fun id hid hdelivered => absurd hdelivered (h.not_delivered hid)
            undelivered := fun _ => ⟨happlication, hfile⟩ }

theorem Hal.knowsAll_userDb (hal : Hal) : hal.KnowsAll hal.userDb := fun _ hf => Or.inl hf

theorem Hal.knowsAll_stored (hal : Hal) : hal.KnowsAll hal.stored := fun _ hf => Or.inr hf

theorem Hal.Kept.knowsAll_stored (h : hal.Kept hal') : hal.KnowsAll hal'.stored := by
  rw [h.stored]
  exact hal.knowsAll_stored

theorem Hal.knowsAll_of_slots {pDb : Option FingerprintDatabase} (h : slots pDb = []) :
    hal.KnowsAll pDb := by
  rintro f ⟨hmem, _⟩
  rw [h] at hmem
  cases hmem

theorem Hal.stored_keptInFile (hal : Hal) : hal.keptInFile.stored = hal.userDb :=
  Function.update_self ..

theorem storeTemplateDb_zero {n : Nat} (h : m.store n = 0) :
    storeTemplateDb m hal n = (0, hal.keptInFile) := if_pos h

theorem storeTemplateDb_ne_zero {n : Nat} (h : m.store n ≠ 0) :
    storeTemplateDb m hal n = ((m.store n).toInt, hal) := if_neg h

theorem toInt_ne_zero {x : Int32} (h : x ≠ 0) : x.toInt ≠ 0 := by
  intro hzero
  exact h (Int32.toInt_inj.mp hzero)

/-- What followed an `END_ENROL` that returned a status and an id, from the device behind it. -/
inductive EnrolCompleted (m : Meets P) (hal : Hal) (ended : Int) (answered : Option UInt32) :
    Int → Hal → Prop
  | failed (hended : ended ≠ 0) : EnrolCompleted m hal ended answered ended hal
  | unstored (loaded : Int) (hal' : Hal) (hended : ended = 0) (hstore : m.store 0 ≠ 0)
      (hload : loadTemplateDb m hal = .ok (loaded, hal')) :
      EnrolCompleted m hal ended answered (m.store 0).toInt hal'
  | deleted (deleted : Int) (tee : Tee) (hended : ended = 0) (hstore : m.store 0 = 0)
      (hcancelled : m.cancelled = true)
      (hdelete : fpcTeeDeleteTemplate (m.tacOf hal.tee) m.envs hal.tee (answered.getD 0)
        = .ok (deleted, tee)) :
      EnrolCompleted m hal ended answered (-fpcErrorCancelled)
        (storeTemplateDb m (hal.keptInFile.withTee tee) 1).2
  | reported (asked : Int) (dbId : Option UInt64) (tee : Tee) (hended : ended = 0)
      (hstore : m.store 0 = 0) (hcancelled : m.cancelled = false)
      (hask : fpcTeeGetTemplateDbId (m.tacOf hal.tee) m.envs hal.tee = .ok (asked, dbId, tee)) :
      EnrolCompleted m hal ended answered 0
        { (hal.keptInFile.callback (.onEnrollResult (answered.getD 0) hal.currentGid 0)).withTee tee
          with authenticatorId := dbId.getD 0 }

/-- The chain of calls, case by case: each looks at the status of the store alone. -/
theorem completeEnrol_completed {ended : Int} {answered : Option UInt32}
    (hended : fpcTeeEndEnrol (m.tacOf hal.tee) m.envs hal.tee = .ok (ended, answered, tee))
    (h : completeEnrol m hal = .ok (status, hal')) :
    EnrolCompleted m (hal.withTee tee) ended answered status hal' := by
  unfold completeEnrol at h
  rw [hended, ok_bind] at h
  dsimp only at h
  by_cases hok : ended = 0
  · rw [if_neg (not_not.mpr hok)] at h
    by_cases hstore : m.store 0 = 0
    · rw [storeTemplateDb_zero hstore] at h
      dsimp only at h
      rw [if_neg (not_not.mpr rfl)] at h
      cases hcancelled : m.cancelled with
      | true =>
        rw [if_pos hcancelled] at h
        rcases bind_eq_ok.mp h with ⟨⟨deleted, tee'⟩, hdelete, h⟩
        cases h
        exact .deleted deleted tee' hok hstore hcancelled hdelete
      | false =>
        rw [if_neg (by rw [hcancelled]; decide)] at h
        rcases bind_eq_ok.mp h with ⟨⟨asked, dbId, tee'⟩, hask, h⟩
        cases h
        exact .reported asked dbId tee' hok hstore hcancelled hask
    · rw [storeTemplateDb_ne_zero hstore] at h
      dsimp only at h
      rw [if_pos (toInt_ne_zero hstore)] at h
      rcases bind_eq_ok.mp h with ⟨⟨loaded, reloaded⟩, hload, h⟩
      cases h
      exact .unstored loaded reloaded hok hstore hload
  · rw [if_pos hok] at h
    cases h
    exact .failed hok

/-- A load that is to take a new finger out again. -/
theorem loadTemplateDb_knows_iff {start : Hal} {status : Int}
    (hbuffer : sizeofBioCommand ≤ hal.tee.sharedBuffer.length)
    (hstored : start.KnowsAll hal.stored) (hnew : ¬ start.KnowsAll hal.userDb)
    (h : loadTemplateDb m hal = .ok (status, hal')) :
    start.KnowsAll hal'.userDb ↔ Reloads m hal := by
  unfold loadTemplateDb at h
  unfold Reloads
  cases hfile : hal.stored with
  | none =>
    rw [hfile] at h
    dsimp only at h ⊢
    rcases bind_eq_ok.mp h with ⟨⟨loaded, tee⟩, hload, h⟩
    cases h
    cases (fpcTeeLoadEmptyDb_commanded (m.tacOf_reaches _) hbuffer hload).1 with
    | lost hfails _ hta =>
      refine iff_of_false ?_ (not_not.mpr hfails)
      rw [Hal.userDb, show (hal.withTee tee).tee.ta = hal.tee.ta from hta]
      exact hnew
    | emptied hreached hset _ _ _ =>
      exact iff_of_true (Hal.knowsAll_of_slots (slots_of_setKeyOf hset)) hreached
  | some db =>
    rw [hfile] at h hstored
    dsimp only at h ⊢
    split at h
    · next hload =>
      cases h
      exact iff_of_true hstored (Or.inl hload)
    · next hload =>
      split at h
      · next hdrops =>
        cases h
        exact iff_of_true (Hal.knowsAll_of_slots rfl) (Or.inr hdrops)
      · next hkeeps =>
        cases h
        refine iff_of_false hnew ?_
        rintro (hzero | hdrops)
        · exact hload hzero
        · exact hkeeps hdrops

theorem loadTemplateDb_frame {status : Int} (h : loadTemplateDb m hal = .ok (status, hal')) :
    hal'.stored = hal.stored ∧ hal'.callbacks = hal.callbacks := by
  unfold loadTemplateDb at h
  split at h
  · rcases bind_eq_ok.mp h with ⟨_, _, h⟩
    cases h
    exact ⟨rfl, rfl⟩
  · split at h
    · cases h
      exact ⟨rfl, rfl⟩
    · split at h
      · cases h
        exact ⟨rfl, rfl⟩
      · cases h
        exact ⟨rfl, rfl⟩

end

section

variable {env : Env} {bio bio' : Bio} {id : UInt32} {base : List Fingerprint} {index : Nat}
  {f : Fingerprint}

theorem EnrolmentEnded.enrolled (h : EnrolmentEnded env bio bio' id base index f) :
    Enrolled bio'.userDb f := by
  refine ⟨?_, h.valid⟩
  rw [h.slots]
  exact List.mem_set h.addsTo.lt_length f

/-- The fingers in the other slots were there before. -/
theorem EnrolmentEnded.beside (h : EnrolmentEnded env bio bio' id base index f) {g : Fingerprint}
    (hg : EnrolledBeside bio'.userDb index g) : Enrolled bio.userDb g := by
  rcases hg with ⟨j, hne, hslot, hvalid⟩
  rw [h.slots, List.getElem?_set_ne (fun heq => hne heq.symm)] at hslot
  have hmem := List.mem_of_getElem? hslot
  rcases h.addsTo.slots with hslots | hfree
  · exact ⟨by rwa [← hslots], hvalid⟩
  · rw [hfree g hmem] at hvalid
    cases hvalid

/-- Wiping a slot after an enrolment leaves no new finger just where the slot is that of the new
finger. -/
theorem EnrolmentEnded.wiped_iff {hal : Hal} {wiped : Option FingerprintDatabase} {i : Nat}
    (h : EnrolmentEnded env bio bio' id base index f)
    (hbefore : hal.KnowsAll bio.userDb) (hnew : ¬ hal.Knows f)
    (hi : fpcDbGetIndexOfId32 bio'.userDb id = .ok i)
    (hwiped : ∀ g, Enrolled wiped g ↔ EnrolledBeside bio'.userDb i g) :
    hal.KnowsAll wiped ↔ ∃ g, (Fpc.slots bio'.userDb)[i]? = some g ∧ ¬ hal.Knows g := by
  have hslot : (Fpc.slots bio'.userDb)[index]? = some f := by
    rw [h.slots, List.getElem?_set_self h.addsTo.lt_length]
  by_cases heq : i = index
  · subst heq
    refine iff_of_true ?_ ⟨f, hslot, hnew⟩
    intro g hg
    exact hbefore g (h.beside ((hwiped g).mp hg))
  · refine iff_of_false ?_ ?_
    · intro hall
      exact hnew (hall f ((hwiped f).mpr ⟨index, fun hsame => heq hsame.symm, hslot, h.valid⟩))
    · rintro ⟨g, hg, hunknown⟩
      rcases firstIndex_ok hi with ⟨g', hg', hvalid, _⟩
      rw [hg] at hg'
      cases hg'
      exact hunknown (hbefore g (h.beside ⟨i, heq, hg, hvalid⟩))

/-- A `DELETE_TEMPLATE` of the client that is to take the new finger out again. -/
theorem fpcTeeDeleteTemplate_knows_iff {P : Platform} {tac : Tac} {envs : Nat → Env} {tee tee' : Tee}
    {hal : Hal} {status : Int} (htac : tac.DeliversOrFails P)
    (hbuffer : sizeofBioCommand ≤ tee.sharedBuffer.length)
    (hended : EnrolmentEnded env bio tee.ta.bio id base index f)
    (hbefore : hal.KnowsAll bio.userDb) (hnew : ¬ hal.Knows f)
    (h : fpcTeeDeleteTemplate tac envs tee id = .ok (status, tee')) :
    hal.KnowsAll tee'.ta.bio.userDb ↔ ¬ tac.Fails ∧ id ≠ 0 ∧
      ∃ i g, fpcDbGetIndexOfId32 tee.ta.bio.userDb id = .ok i ∧
        (slots tee.ta.bio.userDb)[i]? = some g ∧ ¬ hal.Knows g := by
  have hstays : ∀ ta : Ta, ta.bio.userDb = tee.ta.bio.userDb → ¬ hal.KnowsAll ta.bio.userDb := by
    intro ta hsame hall
    rw [hsame] at hall
    exact hnew (hall f hended.enrolled)
  cases (fpcTeeDeleteTemplate_commanded htac hbuffer h).1 with
  | lost hfails _ hta =>
    refine iff_of_false (hstays _ (by rw [hta])) ?_
    rintro ⟨hreached, _⟩
    exact hreached hfails
  | answered hreached _ _ hswitch _ hta _ _ _ =>
    rcases bind_eq_ok.mp hswitch with ⟨⟨response, deleted⟩, hdelete, hswitch⟩
    cases hswitch
    rw [hta]
    cases fpcTaBioDeleteTemplate_cases hdelete with
    | noId hid =>
      refine iff_of_false (hstays _ rfl) ?_
      rintro ⟨_, hne, _⟩
      exact hne hid
    | missed hid hindex =>
      refine iff_of_false (hstays _ rfl) ?_
      rintro ⟨_, _, j, g, hj, _⟩
      cases hindex.symm.trans hj
    | @found i hid hindex =>
      rcases hended.set with ⟨set, hset⟩
      rcases fpcTaBioDeleteTemplate_found hid hindex hset with ⟨status', bio'', hfound, hwiped⟩
      cases hdelete.symm.trans hfound
      dsimp only
      rw [hended.wiped_iff hbefore hnew hindex hwiped]
      constructor
      · rintro ⟨g, hslot, hunknown⟩
        exact ⟨hreached, hid, i, g, hindex, hslot, hunknown⟩
      · rintro ⟨_, _, j, g, hj, hslot, hunknown⟩
        cases hindex.symm.trans hj
        exact ⟨g, hslot, hunknown⟩

end

/-! ## The calls after the last touch -/

section

variable {P : Platform} {m : Meets P} {start hal hal' : Hal} {status : Int} {id : UInt32} {tee : Tee}

/-- What a call that ended a run did before it reported how the run ended. -/
theorem Hal.Quiet.reportEnrol (h : start.Quiet hal) : start.Quiet (reportEnrol hal status) :=
  h.trans (reportEnrol_touched hal status).quiet

theorem reportEnrol_agrees_iff (h : start.Quiet hal) :
    EnrolmentAgrees start (reportEnrol hal status)
      ↔ start.KnowsAll hal.userDb ∧ start.KnowsAll hal.stored := by
  have hkept := (reportEnrol_touched hal status).kept
  rw [h.reportEnrol.agrees_iff, hkept.userDb, hkept.stored]

theorem Hal.quiet_of_callbacks (h : hal.Quiet hal') {hal'' : Hal}
    (hsame : hal''.callbacks = hal'.callbacks) : hal.Quiet hal'' := by
  rw [Hal.Quiet, hsame]
  exact h

/-- An enrolment that was stored is undone: the finger is deleted, and the database stored again. -/
theorem undone_iff {env : Env} {bio : Bio} {base : List Fingerprint} {index : Nat} {f : Fingerprint}
    {deleted : Int} (hbuffer : sizeofBioCommand ≤ hal.tee.sharedBuffer.length)
    (hquiet : start.Quiet hal) (henrolled : EnrolmentEnded env bio hal.tee.ta.bio id base index f)
    (hbefore : start.KnowsAll bio.userDb) (hnew : ¬ start.Knows f)
    (h : fpcTeeDeleteTemplate (m.tacOf hal.tee) m.envs hal.tee id = .ok (deleted, tee)) :
    EnrolmentAgrees start
      (reportEnrol (storeTemplateDb m (hal.keptInFile.withTee tee) 1).2 (-fpcErrorCancelled))
        ↔ Undoes m start hal id := by
  have hdelete := fpcTeeDeleteTemplate_knows_iff (m.tacOf_reaches _) hbuffer henrolled hbefore hnew h
  unfold Undoes
  by_cases hstore : m.store 1 = 0
  · rw [storeTemplateDb_zero hstore,
      reportEnrol_agrees_iff (show start.Quiet (hal.keptInFile.withTee tee).keptInFile from hquiet),
      Hal.stored_keptInFile, show (hal.keptInFile.withTee tee).keptInFile.userDb
        = (hal.keptInFile.withTee tee).userDb from rfl, and_self_iff,
      show (hal.keptInFile.withTee tee).userDb = tee.ta.bio.userDb from rfl, hdelete]
    constructor
    · rintro ⟨hreached, hid, hfound⟩
      exact ⟨hreached, hid, hstore, hfound⟩
    · rintro ⟨hreached, hid, _, hfound⟩
      exact ⟨hreached, hid, hfound⟩
  · rw [storeTemplateDb_ne_zero hstore,
      reportEnrol_agrees_iff (show start.Quiet (hal.keptInFile.withTee tee) from hquiet)]
    refine iff_of_false ?_ ?_
    · rintro ⟨_, hfile⟩
      rw [show (hal.keptInFile.withTee tee).stored = hal.userDb from hal.stored_keptInFile] at hfile
      exact hnew (hfile f henrolled.enrolled)
    · rintro ⟨_, _, hzero, _⟩
      exact hstore hzero

/-- An enrolment that was stored is reported. -/
theorem confirmed_iff {f : Fingerprint} {tee : Tee} {authenticatorId : UInt64}
    (hquiet : start.Quiet hal) (hf : Enrolled hal.userDb f)
    (hid : fpcDbTrimId32 f.fingerprintId = id) (hgid : hal.currentGid = start.currentGid)
    (hsame : SameDb hal.tee.ta tee.ta) :
    EnrolmentAgrees start
      { (hal.keptInFile.callback (.onEnrollResult id hal.currentGid 0)).withTee tee with
          authenticatorId := authenticatorId } ↔ id ≠ 0 ∨ start.KnowsAll hal.userDb := by
  rcases hquiet with ⟨made, hmade, hnone⟩
  generalize hend : { (hal.keptInFile.callback (.onEnrollResult id hal.currentGid 0)).withTee tee with
    authenticatorId := authenticatorId } = hal'
  have hcallbacks : hal'.callbacks
      = (.onEnrollResult id start.currentGid 0 :: made) ++ start.callbacks := by
    rw [← hend, List.cons_append, ← hmade, ← hgid]
    rfl
  have hdelivered : ∀ x, x ≠ 0 → (Delivered start hal' x ↔ x = id) := by
    intro x hx
    constructor
    · rintro ⟨made', hmade', hmem⟩
      rw [hcallbacks] at hmade'
      rw [← List.append_cancel_right hmade'] at hmem
      rcases List.mem_cons.mp hmem with heq | hmem
      · cases heq
        rfl
      · exact absurd (hnone x _ hmem) hx
    · rintro rfl
      exact ⟨_, hcallbacks, List.mem_cons_self ..⟩
  have huserDb : hal'.userDb = hal.userDb := by
    rw [← hend]
    exact hsame.userDb
  have hstored : hal'.stored = hal.userDb := by
    rw [← hend]
    exact hal.stored_keptInFile
  constructor
  · intro hagrees
    by_cases hzero : id = 0
    · right
      rw [← huserDb]
      apply (hagrees.undelivered _).1
      intro x hx hx'
      exact hx (((hdelivered x hx).mp hx').trans hzero)
    · exact Or.inl hzero
  · intro hcase
    constructor
    · intro x hx hx'
      rw [(hdelivered x hx).mp hx', hstored, huserDb]
      exact ⟨⟨f, hf, hid⟩, f, hf, hid⟩
    · intro hundelivered
      rw [hstored, huserDb, and_self_iff]
      refine hcase.resolve_left ?_
      intro hne
      exact absurd ((hdelivered id hne).mpr rfl) (hundelivered id hne)

/-- **The calls after an `END_ENROL` that returned an id**, one branch of `do_enroll` after the
other. -/
theorem completeEnrol_agrees_iff (hbuffer : sizeofBioCommand ≤ hal.tee.sharedBuffer.length)
    (htouched : start.Touched hal)
    (hended : fpcTeeEndEnrol (m.tacOf hal.tee) m.envs hal.tee = .ok (0, some id, tee))
    (hadds : ¬ start.KnowsAll tee.ta.bio.userDb)
    (h : completeEnrol m hal = .ok (status, hal')) :
    EnrolmentAgrees start (reportEnrol hal' status) ↔ Settles m start (hal.withTee tee) id := by
  rcases fpcTeeEndEnrol_commanded (m.tacOf_reaches _) hbuffer hended with ⟨hzero, _, hlen⟩
  rcases hzero rfl with ⟨x, base, index, f, hx, henrolled⟩
  cases hx
  have hbuf : sizeofBioCommand ≤ (hal.withTee tee).tee.sharedBuffer.length := by
    rw [show (hal.withTee tee).tee.sharedBuffer.length = _ from hlen]
    exact hbuffer
  -- the finger that is new is the one that was added
  have hbefore : start.KnowsAll hal.tee.ta.bio.userDb := by
    rw [show hal.tee.ta.bio.userDb = start.userDb from htouched.kept.userDb]
    exact start.knowsAll_userDb
  have hnew : ¬ start.Knows f := by
    intro hknows
    refine hadds fun g hg => ?_
    rcases henrolled.addsTo.enrolled_set henrolled.slots hg with heq | hold
    · rw [heq]
      exact hknows
    · exact hbefore g hold
  have hquiet : start.Quiet (hal.withTee tee) := htouched.quiet
  have hstored : start.KnowsAll (hal.withTee tee).stored := htouched.kept.knowsAll_stored
  unfold Settles
  cases completeEnrol_completed hended h with
  | failed hne => exact absurd rfl hne
  | unstored loaded reloaded _ hstore hload =>
    rcases loadTemplateDb_frame hload with ⟨hframe, hcallbacks⟩
    rw [reportEnrol_agrees_iff (Hal.quiet_of_callbacks hquiet hcallbacks), hframe,
      loadTemplateDb_knows_iff hbuf hstored hadds hload]
    constructor
    · rintro ⟨hreloads, _⟩
      exact ⟨fun _ => hreloads, fun hok => absurd hok hstore, fun hok => absurd hok hstore⟩
    · rintro ⟨hreloads, _⟩
      exact ⟨hreloads hstore, hstored⟩
  | deleted deleted tee' _ hstore hcancelled hdelete =>
    rw [undone_iff hbuf hquiet henrolled hbefore hnew hdelete]
    constructor
    · intro hundoes
      refine ⟨fun hne => absurd hstore hne, fun _ _ => hundoes, fun _ hno => ?_⟩
      rw [hcancelled] at hno
      cases hno
    · rintro ⟨_, hundoes, _⟩
      exact hundoes hstore hcancelled
  | reported asked dbId tee' _ hstore hcancelled hask =>
    have hsame := (fpcTeeGetTemplateDbId_commanded (m.tacOf_reaches _) hbuf hask).1
    rw [show reportEnrol _ 0 = _ from if_pos (Or.inl rfl)]
    have hconfirmed := @confirmed_iff start (hal.withTee tee) id f tee' (dbId.getD 0) hquiet
      henrolled.enrolled henrolled.id.symm htouched.kept.currentGid hsame
    refine Iff.trans hconfirmed ?_
    constructor
    · intro hne
      refine ⟨fun hno => absurd hstore hno, fun _ hno => ?_, fun _ _ => hne.resolve_right hadds⟩
      rw [hcancelled] at hno
      cases hno
    · rintro ⟨_, _, hne⟩
      exact Or.inl (hne hstore hcancelled)

/-- A load brings no finger that is not known. -/
theorem loadTemplateDb_knowsAll (hbuffer : sizeofBioCommand ≤ hal.tee.sharedBuffer.length)
    (huserDb : start.KnowsAll hal.userDb) (hstored : start.KnowsAll hal.stored)
    (h : loadTemplateDb m hal = .ok (status, hal')) : start.KnowsAll hal'.userDb := by
  unfold loadTemplateDb at h
  split at h
  · rcases bind_eq_ok.mp h with ⟨⟨loaded, tee⟩, hload, h⟩
    cases h
    cases (fpcTeeLoadEmptyDb_commanded (m.tacOf_reaches _) hbuffer hload).1 with
    | lost _ _ hta =>
      rw [Hal.userDb, show (hal.withTee tee).tee.ta = hal.tee.ta from hta]
      exact huserDb
    | emptied _ hset _ _ _ => exact Hal.knowsAll_of_slots (slots_of_setKeyOf hset)
  · next db hsome =>
    rw [hsome] at hstored
    split at h
    · cases h
      exact hstored
    · split at h
      · cases h
        exact Hal.knowsAll_of_slots rfl
      · cases h
        exact huserDb

theorem fpcTeeDeleteTemplate_enrolled (hbuffer : sizeofBioCommand ≤ hal.tee.sharedBuffer.length)
    (h : fpcTeeDeleteTemplate (m.tacOf hal.tee) m.envs hal.tee id = .ok (status, tee)) {f : Fingerprint}
    (hf : Enrolled tee.ta.bio.userDb f) : Enrolled hal.userDb f := by
  cases (fpcTeeDeleteTemplate_commanded (m.tacOf_reaches _) hbuffer h).1 with
  | lost _ _ hta =>
    rw [hta] at hf
    exact hf
  | answered _ _ _ hswitch _ hta _ _ _ =>
    rcases bind_eq_ok.mp hswitch with ⟨⟨response, bio⟩, hdelete, hswitch⟩
    cases hswitch
    rw [hta] at hf
    exact fpcTaBioDeleteTemplate_enrolled hdelete hf

/-- Where `END_ENROL` failed or added no finger that is new, what follows it cannot go wrong. -/
theorem completeEnrol_agrees {ended : Int} {answered : Option UInt32}
    (hbuffer : sizeofBioCommand ≤ hal.tee.sharedBuffer.length) (htouched : start.Touched hal)
    (hended : fpcTeeEndEnrol (m.tacOf hal.tee) m.envs hal.tee = .ok (ended, answered, tee))
    (hnone : start.KnowsAll tee.ta.bio.userDb) (h : completeEnrol m hal = .ok (status, hal')) :
    EnrolmentAgrees start (reportEnrol hal' status) := by
  rcases fpcTeeEndEnrol_commanded (m.tacOf_reaches _) hbuffer hended with ⟨hzero, _, hlen⟩
  have hbuf : sizeofBioCommand ≤ (hal.withTee tee).tee.sharedBuffer.length := by
    rw [show (hal.withTee tee).tee.sharedBuffer.length = _ from hlen]
    exact hbuffer
  have hquiet : start.Quiet (hal.withTee tee) := htouched.quiet
  have hstored : start.KnowsAll (hal.withTee tee).stored := htouched.kept.knowsAll_stored
  cases completeEnrol_completed hended h with
  | failed _ => exact (reportEnrol_agrees_iff hquiet).mpr ⟨hnone, hstored⟩
  | unstored loaded reloaded _ hstore hload =>
    rcases loadTemplateDb_frame hload with ⟨hframe, hcallbacks⟩
    rw [reportEnrol_agrees_iff (Hal.quiet_of_callbacks hquiet hcallbacks), hframe]
    exact ⟨loadTemplateDb_knowsAll hbuf hnone hstored hload, hstored⟩
  | deleted deleted tee' _ hstore _ hdelete =>
    have hless : start.KnowsAll tee'.ta.bio.userDb := fun f hf =>
      hnone f (@fpcTeeDeleteTemplate_enrolled P m (hal.withTee tee) _ _ tee' hbuf hdelete f hf)
    by_cases hagain : m.store 1 = 0
    · rw [storeTemplateDb_zero hagain, reportEnrol_agrees_iff (show start.Quiet
        ((hal.withTee tee).keptInFile.withTee tee').keptInFile from hquiet)]
      refine ⟨hless, ?_⟩
      rw [Hal.stored_keptInFile]
      exact hless
    · rw [storeTemplateDb_ne_zero hagain, reportEnrol_agrees_iff (show start.Quiet
        ((hal.withTee tee).keptInFile.withTee tee') from hquiet)]
      refine ⟨hless, ?_⟩
      rw [show ((hal.withTee tee).keptInFile.withTee tee').stored = (hal.withTee tee).userDb from
        (hal.withTee tee).stored_keptInFile]
      exact hnone
  | reported asked dbId tee' hok _ _ hask =>
    rcases hzero hok with ⟨x, base, index, f, rfl, henrolled⟩
    have hsame := (fpcTeeGetTemplateDbId_commanded (m.tacOf_reaches _) hbuf hask).1
    rw [show reportEnrol _ 0 = _ from if_pos (Or.inl rfl)]
    exact (@confirmed_iff start (hal.withTee tee) x f tee' (dbId.getD 0) hquiet
      henrolled.enrolled henrolled.id.symm htouched.kept.currentGid hsame).mpr (Or.inr hnone)

/-- How a run of `do_enroll` ends: without an `END_ENROL`, or with one and the calls after it. -/
inductive EnrolEnded (m : Meets P) (hal hal' : Hal) : Prop
  | left (status : Int) (reached : Hal) (htouched : hal.Touched reached)
      (hnone : ∀ touched id tee, ¬ EnrolsIn m hal touched id tee)
      (hend : hal' = reportEnrol reached status) : EnrolEnded m hal hal'
  | completed (status ended : Int) (answered : Option UInt32) (touched reached : Hal) (tee : Tee)
      (htouched : hal.Touched touched)
      (hended : fpcTeeEndEnrol (m.tacOf touched.tee) m.envs touched.tee = .ok (ended, answered, tee))
      (henrols : ∀ touched' id tee', EnrolsIn m hal touched' id tee' ↔
        touched' = touched ∧ tee' = tee ∧ ended = 0 ∧ answered = some id)
      (hcomplete : completeEnrol m touched = .ok (status, reached))
      (hend : hal' = reportEnrol reached status) : EnrolEnded m hal hal'

theorem doEnroll_ended (hbuffer : sizeofBioCommand ≤ hal.tee.sharedBuffer.length)
    (h : doEnroll m hal = .ok (some hal')) : EnrolEnded m hal hal' := by
  rcases bind_eq_ok.mp h with ⟨⟨status, started⟩, hstart, h⟩
  have hstarted := startEnrol_touched hbuffer hstart
  dsimp only at h
  split at h
  · next hne =>
    cases h
    refine .left status started hstarted ?_ rfl
    intro touched id tee henrols
    rcases henrols.completed with ⟨started', hstart', _⟩
    rw [hstart] at hstart'
    cases hstart'
    exact hne rfl
  · next hzero =>
    rw [not_not.mp hzero] at hstart
    rcases bind_eq_ok.mp h with ⟨ended, htouches, h⟩
    have hbuf : sizeofBioCommand ≤ started.tee.sharedBuffer.length := by
      rw [hstarted.kept.buffer]
      exact hbuffer
    -- the touches that `EnrolsIn` speaks of are those of the run
    have hsame : ∀ touched id tee, EnrolsIn m hal touched id tee →
        ended = some (.completed, touched) := by
      intro touched id tee henrols
      rcases henrols.completed with ⟨started', hstart', htouches'⟩
      rw [hstart] at hstart'
      cases hstart'
      rw [htouches] at htouches'
      cases htouches'
      rfl
    split at h
    · cases h
    · next left reached =>
      cases h
      refine .left left reached (hstarted.trans (enrolTouches_touched hbuf htouches)) ?_ rfl
      intro touched id tee henrols
      cases hsame touched id tee henrols
    · next touched =>
      rcases bind_eq_ok.mp h with ⟨⟨completed, reached⟩, hcomplete, h⟩
      cases h
      rcases bind_eq_ok.mp hcomplete with ⟨⟨answer, id, tee⟩, hended, _⟩
      refine .completed completed answer id touched reached tee
        (hstarted.trans (enrolTouches_touched hbuf htouches)) hended ?_ hcomplete rfl
      intro touched' id' tee'
      constructor
      · intro henrols
        cases hsame touched' id' tee' henrols
        have hended' := henrols.ended
        rw [hended] at hended'
        cases hended'
        exact ⟨rfl, rfl, rfl, rfl⟩
      · rintro ⟨rfl, rfl, rfl, rfl⟩
        exact ⟨⟨started, hstart, htouches⟩, hended⟩

theorem Hal.Touched.buffer (h : hal.Touched hal')
    (hbuffer : sizeofBioCommand ≤ hal.tee.sharedBuffer.length) :
    sizeofBioCommand ≤ hal'.tee.sharedBuffer.length := by
  rw [h.kept.buffer]
  exact hbuffer

/-- **When an enrolment agrees with the databases.** Every end of `do_enroll` does in which
`END_ENROL` added no new finger. Where it did, the calls after it have to settle what it did. -/
theorem doEnroll_agrees_iff (hbuffer : sizeofBioCommand ≤ hal.tee.sharedBuffer.length)
    (h : doEnroll m hal = .ok (some hal')) :
    EnrolmentAgrees hal hal' ↔ ∀ touched id tee, EnrolsIn m hal touched id tee →
      ¬ hal.KnowsAll tee.ta.bio.userDb → Settles m hal (touched.withTee tee) id := by
  cases doEnroll_ended hbuffer h with
  | left status reached htouched hnone hend =>
    rw [hend, reportEnrol_agrees_iff htouched.quiet, htouched.kept.userDb]
    refine iff_of_true ⟨hal.knowsAll_userDb, htouched.kept.knowsAll_stored⟩ ?_
    intro touched id tee henrols
    exact absurd henrols (hnone touched id tee)
  | completed status ended answered touched reached tee htouched hended henrols hcomplete hend =>
    have hbuf := htouched.buffer hbuffer
    rcases fpcTeeEndEnrol_commanded (m.tacOf_reaches _) hbuf hended with ⟨hadded, hfailed, _⟩
    rw [hend]
    by_cases hnone : hal.KnowsAll tee.ta.bio.userDb
    · refine iff_of_true (completeEnrol_agrees hbuf htouched hended hnone hcomplete) ?_
      intro touched' id' tee' henrols' hadds
      rcases (henrols _ _ _).mp henrols' with ⟨rfl, rfl, _, _⟩
      exact absurd hnone hadds
    · have hok : ended = 0 := by
        by_contra hne
        refine hnone fun f hf => hal.knowsAll_userDb f ?_
        rw [← htouched.kept.userDb]
        exact (hfailed hne).2.1 f hf
      rcases hadded hok with ⟨x, _, _, _, hx, _⟩
      rw [hok, hx] at hended
      rw [completeEnrol_agrees_iff hbuf htouched hended hnone hcomplete]
      constructor
      · intro hsettles touched' id' tee' henrols' _
        rcases (henrols _ _ _).mp henrols' with ⟨rfl, rfl, _, hid⟩
        rw [hx] at hid
        cases hid
        exact hsettles
      · intro hall
        exact hall touched x tee ((henrols _ _ _).mpr ⟨rfl, rfl, hok, hx⟩) hnone

end

/-! ## Two enrolments -/

/-- What the application meets while a finger is enrolled that takes one touch. -/
def sampleEnrolEnvs (n : Nat) : Env :=
  if n = 2 then
    { Env.willing with algo := { Env.willing.algo with
        enroll := (0, { result := 0, enrolledTemplateSize := 4, remainingTouches := 0 }) } }
  else if n = 3 then (sampleEndEnrol (Id256.filled 0x5A)).1
  else .willing

/-- A call during which everything works, but perhaps stores. -/
def sampleMeets (cancelled : Bool) (store : Nat → Int32) : Meets samplePlatform where
  tac _ := sampleTac
  reaches := sampleTac_delivers_each
  envs := sampleEnrolEnvs
  sensor := [0]
  cancelled := cancelled
  store := store
  load := 0
  loadDrops := false

/-- The device with an application that has given a challenge for an enrolment, and the token for
it. -/
def sampleHal (ta : Ta) : Hal where
  tee := { ta := ta, messages := 0, sharedBuffer := List.replicate 40 0 }
  files _ := none
  stores := 0
  currentDbFile := templateFile
  currentGid := 0
  challenge := 0
  authenticatorId := 0
  removeFid := 0
  hat := sampleToken.bytes
  callbacks := []

/-- The state of the application in front of an enrolment. -/
def sampleChallenged : Outcome Ta := do
  let ta ← fpcTaRouterInit .willing
  let (_, ta) ← execute samplePlatform [] ta (sampleTouches.take 2)
  .ok ta

theorem sampleHal_buffer (ta : Ta) :
    sizeofBioCommand ≤ (sampleHal ta).tee.sharedBuffer.length := by
  show 40 ≤ (List.replicate 40 (0 : UInt8)).length
  decide

/-- The sample enrolment, up to the answer of `END_ENROL`. -/
def sampleEnded (m : Meets samplePlatform) (hal : Hal) : Outcome (Option UInt32) := do
  let (_, started) ← startEnrol m hal
  match ← enrolTouches m m.sensor started with
  | some (.completed, touched) => do
      let (_, id, _) ← fpcTeeEndEnrol (m.tacOf touched.tee) m.envs touched.tee
      .ok id
  | _ => .ok none

theorem sampleEnded_id {m : Meets samplePlatform} {hal touched : Hal} {id : UInt32} {tee : Tee}
    (h : EnrolsIn m hal touched id tee) : sampleEnded m hal = .ok (some id) := by
  rcases h.completed with ⟨started, hstart, htouches⟩
  unfold sampleEnded
  rw [hstart, ok_bind]
  dsimp only
  rw [htouches, ok_bind]
  dsimp only
  rw [h.ended]
  rfl

/-- An enrolment that works agrees. -/
theorem sampleEnrolment_agrees :
    ∃ hal hal', doEnroll (sampleMeets false fun _ => 0) hal = .ok (some hal') ∧
      EnrolmentAgrees hal hal' := by
  have hruns : (sampleChallenged >>= fun ta => .ok (decide (
      (doEnroll (sampleMeets false fun _ => 0) (sampleHal ta) >>= fun r => .ok (decide r.isSome))
        = .ok true ∧
      (sampleEnded (sampleMeets false fun _ => 0) (sampleHal ta)
        >>= fun id => .ok (decide (id = some 0x5A5A5A5A))) = .ok true))) = .ok true := by
    decide +kernel
  rcases exists_of_decided _ hruns with ⟨ta, _, hend, hid⟩
  rcases exists_of_decided _ hend with ⟨ended, hend, hsome⟩
  rcases exists_of_decided _ hid with ⟨answered, hanswered, hid⟩
  rcases Option.isSome_iff_exists.mp hsome with ⟨hal', rfl⟩
  refine ⟨_, hal', hend, (doEnroll_agrees_iff (sampleHal_buffer ta) hend).mpr ?_⟩
  intro touched id tee henrols _
  have hanswer := sampleEnded_id henrols
  rw [hanswered, hid] at hanswer
  cases hanswer
  exact ⟨fun hne => absurd rfl hne, fun _ hno => absurd hno (by decide), fun _ _ => by decide⟩

/-- The user cancels after the last touch, and the store after the delete fails: the file keeps the
finger. -/
theorem cancelledEnrolment_keeps_finger :
    ∃ hal hal', sizeofBioCommand ≤ hal.tee.sharedBuffer.length ∧
      doEnroll (sampleMeets true fun n => if n = 0 then 0 else -5) hal = .ok (some hal') ∧
      ¬ EnrolmentAgrees hal hal' := by
  have hruns : (sampleChallenged >>= fun ta => .ok (decide (slots ta.bio.userDb = [] ∧
      (doEnroll (sampleMeets true fun n => if n = 0 then 0 else -5) (sampleHal ta)
        >>= fun r => .ok (decide (r.map Hal.callbacks = some [] ∧
          (r.bind Hal.stored).map (fun db => decide (Enrolled (some db) sampleFinger)) = some true)))
        = .ok true))) = .ok true := by
    decide +kernel
  rcases exists_of_decided _ hruns with ⟨ta, _, hnone, hend⟩
  rcases exists_of_decided _ hend with ⟨ended, hend, hcallbacks, hstored⟩
  rcases Option.map_eq_some_iff.mp hcallbacks with ⟨hal', rfl, hquiet⟩
  rcases Option.map_eq_some_iff.mp hstored with ⟨db, hdb, hfinger⟩
  refine ⟨_, hal', sampleHal_buffer ta, hend, ?_⟩
  intro hagrees
  have hundelivered : ∀ id, id ≠ 0 → ¬ Delivered (sampleHal ta) hal' id := by
    rintro id _ ⟨made, hmade, hmem⟩
    rw [hquiet] at hmade
    rw [(List.append_eq_nil_iff.mp hmade.symm).1] at hmem
    cases hmem
  have hknown := (hagrees.undelivered hundelivered).2 sampleFinger (by
    rw [show hal'.stored = some db from hdb]
    exact of_decide_eq_true hfinger)
  rcases hknown with ⟨hmem, _⟩ | ⟨hmem, _⟩
  · rw [show slots (sampleHal ta).userDb = [] from hnone] at hmem
    cases hmem
  · cases hmem

end Fpc
