import Fingerprints.Hal.Groups
import Fingerprints.Tac.FingerIds
import Fingerprints.Wire.Traced
import Mathlib.Data.List.Nodup

/-!
# Reports of a removal

`do_remove` deletes one finger after the other, stores the database behind each, and tells the
framework of each. An id that the application answers as missing is reported as removed as well.

* **`removeTurn`**: what one turn of the loop does;
* **`removeIds_truthful`**: what the loop reports of the ids of the active set;
* **`removal_truthful_iff`**: the reports of a task are right, but for an id that is missing under
  the active key and enrolled.
-/

namespace Fpc

open Wire Wire.Outcome Runs

/-! ## The task with what it does -/

/-- One thing that `do_remove` does: the answer to a command, or a callback and the device as it is
made. -/
inductive RemovalStep where
  | queried (status : Int)
  | deleted (id : UInt32) (status : Int)
  | stored (status : Int)
  | callback (c : Callback) (device : Hal)
  | loaded (status : Int)

/-- An id query, a delete or a store that failed. A finger that is missing is no failure. -/
def RemovalStep.failed : RemovalStep → Prop
  | .queried status => status ≠ 0
  | .deleted _ status => status ≠ 0 ∧ status ≠ -fpcErrorNoentity
  | .stored status => status ≠ 0
  | .callback _ _ => False
  | .loaded _ => False

section

variable {P : Platform} (m : Meets P) (hal : Hal)

/-- A callback is made. -/
def callbackMade (c : Callback) (device : Hal) : Traced RemovalStep Hal := do
  Traced.perform (.callback c device)
  pure (device.callback c)

/-- `removeIds` -/
def tracedRemoveIds : List UInt32 → (stores : Nat) → Hal → Traced RemovalStep (Int × Hal)
  | [], _, hal => pure (0, hal)
  | id :: rest, stores, hal => do
      let (status, tee) ←
        Traced.quiet (fpcTeeDeleteTemplate (m.tacOf hal.tee) m.envs hal.tee id)
      Traced.perform (.deleted id status)
      let hal := hal.withTee tee
      let removed := Callback.onRemoved id hal.currentGid (UInt32.ofNat rest.length)
      if status ≠ 0 ∧ status ≠ -fpcErrorNoentity then pure (-eio, hal)
      else if status ≠ -fpcErrorNoentity then do
        let (status, hal) := storeTemplateDb m hal stores
        Traced.perform (.stored status)
        if status ≠ 0 then pure (-eio, hal)
        else do
          let hal ← callbackMade removed hal
          tracedRemoveIds rest (stores + 1) hal
      else do
        let hal ← callbackMade removed hal
        tracedRemoveIds rest stores hal

/-- `idsToRemove` -/
def tracedIdsToRemove : Traced RemovalStep (Int × List UInt32 × Hal) :=
  if hal.removeFid = 0 then do
    let (status, ids, tee) ←
      Traced.quiet (fpcTeeGetFingerIds (m.tacOf hal.tee) m.envs hal.tee 5)
    Traced.perform (.queried status)
    let hal := hal.withTee tee
    if status ≠ 0 then pure (-eio, [], hal) else pure (0, ids.getD [], hal)
  else pure (0, [hal.removeFid], hal)

/-- The end of `do_remove` -/
def tracedRemoved (status : Int) (hal : Hal) : Traced RemovalStep Hal :=
  if status ≠ 0 then do
    let hal ← callbackMade (.onError halCompatErrorUnableToRemove) hal
    let (status, hal) ← Traced.quiet (loadTemplateDb m hal)
    Traced.perform (.loaded status)
    pure hal
  else if !isTrebleHal || hal.removeFid == 0 then callbackMade (.onRemoved 0 hal.currentGid 0) hal
  else pure hal

/-- `doRemove` up to its end. -/
def tracedRemoveAsked : Traced RemovalStep (Int × Hal) := do
  let (status, ids, hal) ← tracedIdsToRemove m hal
  if status ≠ 0 then pure (status, hal) else tracedRemoveIds m ids 0 hal

/-- `doRemove` -/
def tracedDoRemove : Traced RemovalStep Hal := do
  let (status, hal) ← tracedRemoveAsked m hal
  tracedRemoved m status hal

@[simp] theorem outcome_callbackMade (c : Callback) (device : Hal) :
    (callbackMade c device).outcome = .ok (device.callback c) := rfl

/-- Without its steps it is the loop. Induction on the ids that are left. -/
theorem tracedRemoveIds_outcome (ids : List UInt32) (stores : Nat) (hal : Hal) :
    (tracedRemoveIds m ids stores hal).outcome = removeIds m ids stores hal := by
  induction ids generalizing stores hal with
  | nil => rfl
  | cons id rest ih =>
    unfold tracedRemoveIds removeIds
    simp only [Traced.outcome_bind, Traced.outcome_quiet, Traced.outcome_perform, ok_bind]
    congr 1
    funext deleted
    split
    · rfl
    · split
      · simp only [Traced.outcome_bind, Traced.outcome_perform, ok_bind]
        split
        · rfl
        · simp only [Traced.outcome_bind, outcome_callbackMade, ok_bind, ih]
      · simp only [Traced.outcome_bind, outcome_callbackMade, ok_bind, ih]

/-- Without its steps it is the task. -/
theorem tracedDoRemove_outcome : (tracedDoRemove m hal).outcome = doRemove m hal := by
  have hids : (tracedIdsToRemove m hal).outcome = idsToRemove m hal := by
    unfold tracedIdsToRemove idsToRemove
    split
    · simp only [Traced.outcome_bind, Traced.outcome_quiet, Traced.outcome_perform, ok_bind]
      congr 1
      funext asked
      split <;> rfl
    · rfl
  have hend (status : Int) (hal : Hal) : (tracedRemoved m status hal).outcome
      = if status ≠ 0 then do
          let (_, hal) ← loadTemplateDb m (hal.callback (.onError halCompatErrorUnableToRemove))
          .ok hal
        else if !isTrebleHal || hal.removeFid == 0 then
          .ok (hal.callback (.onRemoved 0 hal.currentGid 0))
        else .ok hal := by
    unfold tracedRemoved
    split
    · simp only [Traced.outcome_bind, outcome_callbackMade, ok_bind, Traced.outcome_quiet,
        Traced.outcome_perform, Traced.outcome_pure]
    · split <;> rfl
  unfold tracedDoRemove tracedRemoveAsked doRemove
  rw [Traced.outcome_bind, Traced.outcome_bind, hids, bind_assoc]
  congr 1
  funext asked
  dsimp only
  split
  · rw [Traced.outcome_pure, ok_bind, ok_bind]
    exact hend _ _
  · rw [tracedRemoveIds_outcome]
    congr 1
    funext left
    exact hend _ _

end

/-! ## Reports -/

/-- The reports that a finger is removed, as its id, its group and the fingers that remain. -/
def removalReports (steps : List RemovalStep) : List (UInt32 × UInt32 × UInt32) :=
  steps.filterMap fun
    | .callback (.onRemoved id gid remaining) _ =>
        if id = 0 then none else some (id, gid, remaining)
    | _ => none

/-- The reports of an error. -/
def errorReports (steps : List RemovalStep) : Nat :=
  steps.countP fun
    | .callback (.onError _) _ => true
    | _ => false

/-- The reports that go with the ids, counted down to 0. -/
def countdown (gid : UInt32) : List UInt32 → List (UInt32 × UInt32 × UInt32)
  | [] => []
  | id :: rest => (id, gid, UInt32.ofNat rest.length) :: countdown gid rest

/-- The ids that a task is asked to remove. -/
def toRemove (hal : Hal) : List UInt32 :=
  if hal.removeFid = 0 then activeIds hal.tee.ta.bio else [hal.removeFid]

/-- The reports of a task are right. -/
structure RemovalTruthful {P : Platform} (m : Meets P) (hal : Hal) : Prop where
  returns : ∃ hal', (tracedDoRemove m hal).outcome = .ok hal'
  absent : ∀ id gid remaining device,
    .callback (.onRemoved id gid remaining) device ∈ (tracedDoRemove m hal).calls → id ≠ 0 →
      id ∉ enrolledIds device.userDb ∧ id ∉ enrolledIds device.stored
  once : ((removalReports (tracedDoRemove m hal).calls).map Prod.fst).Nodup
  counts : removalReports (tracedDoRemove m hal).calls <+: countdown hal.currentGid (toRemove hal)
  complete : (∀ step ∈ (tracedDoRemove m hal).calls, ¬ step.failed) →
    removalReports (tracedDoRemove m hal).calls = countdown hal.currentGid (toRemove hal)
  recovers : (∃ step ∈ (tracedDoRemove m hal).calls, step.failed) →
    errorReports (tracedDoRemove m hal).calls = 1 ∧
    (∀ gid remaining device,
      .callback (.onRemoved 0 gid remaining) device ∉ (tracedDoRemove m hal).calls) ∧
    ∃ before failed status hal', loadTemplateDb m failed = .ok (status, hal') ∧
      (tracedDoRemove m hal).outcome = .ok hal' ∧
      (tracedDoRemove m hal).calls = before ++ [.loaded status] ∧ ∀ s, .loaded s ∉ before

/-- A step that the framework and the load do not take part in. -/
def RemovalStep.silent : RemovalStep → Prop
  | .queried _ => True
  | .deleted _ _ => True
  | .stored _ => True
  | .callback _ _ => False
  | .loaded _ => False

theorem removalReports_append (xs ys : List RemovalStep) :
    removalReports (xs ++ ys) = removalReports xs ++ removalReports ys := by
  simp [removalReports]

theorem removalReports_removed {id : UInt32} (h : id ≠ 0) (gid remaining : UInt32) (device : Hal)
    (steps : List RemovalStep) :
    removalReports (.callback (.onRemoved id gid remaining) device :: steps)
      = (id, gid, remaining) :: removalReports steps := by
  simp [removalReports, h]

theorem errorReports_append (xs ys : List RemovalStep) :
    errorReports (xs ++ ys) = errorReports xs + errorReports ys := by
  simp [errorReports]

section

variable {steps : List RemovalStep} (h : ∀ step ∈ steps, step.silent)

include h

theorem removalReports_silent : removalReports steps = [] := by
  unfold removalReports
  rw [List.filterMap_eq_nil_iff]
  intro step hstep
  have hsilent := h step hstep
  cases step with
  | callback c device => exact hsilent.elim
  | queried status => rfl
  | deleted id status => rfl
  | stored status => rfl
  | loaded status => rfl

theorem errorReports_silent : errorReports steps = 0 := by
  unfold errorReports
  rw [List.countP_eq_zero]
  intro step hstep
  have hsilent := h step hstep
  cases step with
  | callback c device => exact hsilent.elim
  | queried status => exact Bool.false_ne_true
  | deleted id status => exact Bool.false_ne_true
  | stored status => exact Bool.false_ne_true
  | loaded status => exact Bool.false_ne_true

theorem callback_notMem_silent (c : Callback) (device : Hal) : .callback c device ∉ steps :=
  fun hmem => h _ hmem

theorem loaded_notMem_silent (status : Int) : .loaded status ∉ steps := fun hmem => h _ hmem

end

theorem map_fst_countdown (gid : UInt32) (ids : List UInt32) :
    (countdown gid ids).map Prod.fst = ids := by
  induction ids with
  | nil => rfl
  | cons id rest ih => rw [countdown, List.map_cons, ih]

/-! ## The loop -/

/-- How a finger is gone as it is reported: it was deleted from the database and the file, or it was
missing under the active key. -/
inductive FingerGone {P : Platform} (m : Meets P) (hal device : Hal) (id : UInt32) : Prop
  | deleted (hreached : ¬ (m.tacOf hal.tee).Fails) (before after : List UInt32)
      (hids : activeIds hal.tee.ta.bio = before ++ id :: after)
      (henrolled : enrolledIds hal.userDb = before ++ id :: after)
      (henrolled' : enrolledIds device.userDb = before ++ after)
      (hids' : activeIds device.tee.ta.bio = before ++ after)
      (hstored : device.stored = device.userDb) (hpresent : device.userDb ≠ none) :
      FingerGone m hal device id
  | missing (hreached : ¬ (m.tacOf hal.tee).Fails) (hnot : id ∉ activeIds hal.tee.ta.bio)
      (hta : device.tee.ta = hal.tee.ta) (hstored : device.stored = hal.stored) :
      FingerGone m hal device id

section

variable {P : Platform} {m : Meets P} {hal : Hal} {id : UInt32} {rest : List UInt32} {stores : Nat}

/-- What a turn of the loop does: a command fails and the loop is left, or the finger is gone and is
reported. -/
inductive RemoveTurn (m : Meets P) (hal : Hal) (id : UInt32) (rest : List UInt32)
    (t : Traced RemovalStep (Int × Hal)) : Prop
  | failed (device : Hal) (hsilent : ∀ step ∈ t.calls, step.silent)
      (hfailed : ∃ step ∈ t.calls, step.failed)
      (hbuffer : sizeofBioCommand ≤ device.tee.sharedBuffer.length)
      (houtcome : t.outcome = .ok (-eio, device)) : RemoveTurn m hal id rest t
  | reported (steps : List RemovalStep) (device : Hal) (stores : Nat)
      (hsilent : ∀ step ∈ steps, step.silent) (hfailed : ∀ step ∈ steps, ¬ step.failed)
      (hbuffer : sizeofBioCommand ≤ device.tee.sharedBuffer.length)
      (hgid : device.currentGid = hal.currentGid) (hgone : FingerGone m hal device id)
      (hcalls : t.calls = steps ++
        .callback (.onRemoved id hal.currentGid (UInt32.ofNat rest.length)) device ::
          (tracedRemoveIds m rest stores (device.callback
            (.onRemoved id hal.currentGid (UInt32.ofNat rest.length)))).calls)
      (houtcome : t.outcome = (tracedRemoveIds m rest stores (device.callback
            (.onRemoved id hal.currentGid (UInt32.ofNat rest.length)))).outcome) :
      RemoveTurn m hal id rest t

theorem removeTurn (hbuffer : sizeofBioCommand ≤ hal.tee.sharedBuffer.length) (hzero : id ≠ 0)
    {status : Int} {tee : Tee}
    (h : fpcTeeDeleteTemplate (m.tacOf hal.tee) m.envs hal.tee id = .ok (status, tee)) :
    RemoveTurn m hal id rest (tracedRemoveIds m (id :: rest) stores hal) := by
  have hkept := (fpcTeeDeleteTemplate_commanded (m.tacOf_reaches hal.tee) hbuffer h).2
  have hbuffer' : sizeofBioCommand ≤ tee.sharedBuffer.length := by
    rw [hkept]
    exact hbuffer
  have hdeleted := fpcTeeDeleteTemplate_ids (m.tacOf_reaches hal.tee) hbuffer hzero h
  unfold tracedRemoveIds
  rw [h, Traced.quiet_ok_bind]
  dsimp only
  cases hdeleted with
  | lost hfails hstatus hta =>
    have hne : status ≠ 0 ∧ status ≠ -fpcErrorNoentity := by
      rw [hstatus]
      decide
    rw [if_pos hne]
    exact .failed (hal.withTee tee) (by simp [RemovalStep.silent])
      ⟨.deleted id status, by simp, hne⟩ hbuffer' rfl
  | missing hreached hstatus hnot hta hpresent =>
    rw [hstatus, if_neg (by decide), if_neg (by decide)]
    exact .reported [.deleted id (-fpcErrorNoentity)] (hal.withTee tee) stores
      (by simp [RemovalStep.silent]) (by simp [RemovalStep.failed]) hbuffer' rfl
      (.missing hreached hnot hta rfl) rfl rfl
  | deleted hreached before after hstatus hids henrolled henrolled' hids' hpresent =>
    rw [hstatus, if_neg (by decide), if_pos (by decide)]
    by_cases hstore : m.store stores = 0
    · rw [storeTemplateDb_zero hstore]
      exact .reported [.deleted id 0, .stored 0] (hal.withTee tee).keptInFile (stores + 1)
        (by simp [RemovalStep.silent]) (by simp [RemovalStep.failed]) hbuffer' rfl
        (.deleted hreached before after hids henrolled henrolled' hids' (Hal.stored_keptInFile _) hpresent)
        rfl rfl
    · have hne := toInt_ne_zero hstore
      rw [storeTemplateDb_ne_zero hstore]
      dsimp only
      rw [if_pos hne]
      exact .failed (hal.withTee tee) (by simp [RemovalStep.silent])
        ⟨.stored (m.store stores).toInt, by simp, hne⟩ hbuffer' rfl

/-- What the loop reports of the ids that it is given, where it gets to its end or a command fails. -/
structure LoopTruthful (gid : UInt32) (ids : List UInt32) (t : Traced RemovalStep (Int × Hal)) :
    Prop where
  returns : ∃ status device, t.outcome = .ok (status, device) ∧
    sizeofBioCommand ≤ device.tee.sharedBuffer.length ∧
    (status ≠ 0 ↔ ∃ step ∈ t.calls, step.failed)
  absent : ∀ id gid remaining device, .callback (.onRemoved id gid remaining) device ∈ t.calls →
    id ≠ 0 ∧ id ∉ enrolledIds device.userDb ∧ id ∉ enrolledIds device.stored
  counts : removalReports t.calls <+: countdown gid ids
  complete : (∀ step ∈ t.calls, ¬ step.failed) → removalReports t.calls = countdown gid ids
  noError : errorReports t.calls = 0
  noLoad : ∀ status, .loaded status ∉ t.calls

theorem LoopTruthful.nil (gid : UInt32) (stores : Nat)
    (hbuffer : sizeofBioCommand ≤ hal.tee.sharedBuffer.length) :
    LoopTruthful gid [] (tracedRemoveIds m [] stores hal) :=
  { returns := ⟨0, hal, rfl, hbuffer, by simp [tracedRemoveIds]⟩
    absent := by simp [tracedRemoveIds]
    counts := List.prefix_rfl
    complete := fun _ => rfl
    noError := rfl
    noLoad := by simp [tracedRemoveIds] }

/-- Commands that work and report nothing come in front. -/
theorem LoopTruthful.after {gid : UInt32} {ids : List UInt32} {t : Traced RemovalStep (Int × Hal)}
    {steps : List RemovalStep} (hsilent : ∀ step ∈ steps, step.silent)
    (hfailed : ∀ step ∈ steps, ¬ step.failed) (h : LoopTruthful gid ids t) :
    LoopTruthful gid ids { calls := steps ++ t.calls, outcome := t.outcome } := by
  have hreports : removalReports (steps ++ t.calls) = removalReports t.calls := by
    rw [removalReports_append, removalReports_silent hsilent, List.nil_append]
  have hfails : (∃ step ∈ steps ++ t.calls, step.failed) ↔ ∃ step ∈ t.calls, step.failed := by
    constructor
    · intro hbad
      obtain ⟨step, hstep, hbad⟩ := hbad
      cases List.mem_append.mp hstep with
      | inl hstep => exact absurd hbad (hfailed step hstep)
      | inr hstep => exact ⟨step, hstep, hbad⟩
    · intro hbad
      obtain ⟨step, hstep, hbad⟩ := hbad
      exact ⟨step, List.mem_append_right _ hstep, hbad⟩
  obtain ⟨status, device, hreturns, hbuffer, hstatus⟩ := h.returns
  refine
    { returns := ⟨status, device, hreturns, hbuffer, hstatus.trans hfails.symm⟩
      absent := ?_
      counts := by rw [hreports]; exact h.counts
      complete := ?_
      noError := by rw [errorReports_append, errorReports_silent hsilent, h.noError]
      noLoad := ?_ }
  · intro id gid remaining device hmem
    cases List.mem_append.mp hmem with
    | inl hmem => exact absurd hmem (callback_notMem_silent hsilent _ _)
    | inr hmem => exact h.absent id gid remaining device hmem
  · intro hnone
    rw [hreports]
    exact h.complete fun step hstep => hnone step (List.mem_append_right _ hstep)
  · intro loaded hmem
    cases List.mem_append.mp hmem with
    | inl hmem => exact loaded_notMem_silent hsilent loaded hmem
    | inr hmem => exact h.noLoad loaded hmem

/-- A finger that is in neither database is reported in front of the rest. -/
theorem LoopTruthful.report {gid : UInt32} {t : Traced RemovalStep (Int × Hal)} {device : Hal}
    (hzero : id ≠ 0) (habsent : id ∉ enrolledIds device.userDb ∧ id ∉ enrolledIds device.stored)
    (h : LoopTruthful gid rest t) :
    LoopTruthful gid (id :: rest)
      { calls := .callback (.onRemoved id gid (UInt32.ofNat rest.length)) device :: t.calls
        outcome := t.outcome } := by
  have hfails : (∃ step ∈ RemovalStep.callback (.onRemoved id gid (UInt32.ofNat rest.length)) device
      :: t.calls, step.failed) ↔ ∃ step ∈ t.calls, step.failed := by
    simp [RemovalStep.failed]
  obtain ⟨status, left, hreturns, hbuffer, hstatus⟩ := h.returns
  refine
    { returns := ⟨status, left, hreturns, hbuffer, hstatus.trans hfails.symm⟩
      absent := ?_
      counts := ?_
      complete := ?_
      noError := ?_
      noLoad := ?_ }
  · intro id' gid' remaining device' hmem
    cases List.mem_cons.mp hmem with
    | inl hmem =>
      cases hmem
      exact ⟨hzero, habsent⟩
    | inr hmem => exact h.absent id' gid' remaining device' hmem
  · rw [removalReports_removed hzero]
    exact List.cons_prefix_cons.mpr ⟨rfl, h.counts⟩
  · intro hnone
    rw [removalReports_removed hzero, h.complete fun step hstep =>
      hnone step (List.mem_cons_of_mem _ hstep)]
    rfl
  · simpa [errorReports] using h.noError
  · intro loaded hmem
    cases List.mem_cons.mp hmem with
    | inl hmem => cases hmem
    | inr hmem => exact h.noLoad loaded hmem

/-- The loop is left at a command that failed. -/
theorem LoopTruthful.left {gid : UInt32} {ids : List UInt32} {t : Traced RemovalStep (Int × Hal)}
    {device : Hal} (hsilent : ∀ step ∈ t.calls, step.silent)
    (hfailed : ∃ step ∈ t.calls, step.failed)
    (hbuffer : sizeofBioCommand ≤ device.tee.sharedBuffer.length)
    (houtcome : t.outcome = .ok (-eio, device)) : LoopTruthful gid ids t :=
  { returns := ⟨-eio, device, houtcome, hbuffer, iff_of_true (by decide) hfailed⟩
    absent := fun _ _ _ _ hmem => absurd hmem (callback_notMem_silent hsilent _ _)
    counts := by rw [removalReports_silent hsilent]; exact List.nil_prefix
    complete := fun hnone => by
      obtain ⟨step, hstep, hbad⟩ := hfailed
      exact absurd hbad (hnone step hstep)
    noError := errorReports_silent hsilent
    noLoad := loaded_notMem_silent hsilent }

/-- The loop with one finger more in front. -/
theorem LoopTruthful.cons {t : Traced RemovalStep (Int × Hal)} (hzero : id ≠ 0)
    (hturn : RemoveTurn m hal id rest t)
    (hgone : ∀ device, FingerGone m hal device id →
      id ∉ enrolledIds device.userDb ∧ id ∉ enrolledIds device.stored)
    (hrest : ∀ device stores, FingerGone m hal device id →
      sizeofBioCommand ≤ device.tee.sharedBuffer.length → device.currentGid = hal.currentGid →
      LoopTruthful hal.currentGid rest (tracedRemoveIds m rest stores (device.callback
        (.onRemoved id hal.currentGid (UInt32.ofNat rest.length))))) :
    LoopTruthful hal.currentGid (id :: rest) t := by
  cases hturn with
  | failed device hsilent hfailed hbuffer houtcome =>
    exact .left hsilent hfailed hbuffer houtcome
  | reported steps device stores hsilent hfailed hbuffer hgid hdevice hcalls houtcome =>
    have hloop := (hrest device stores hdevice hbuffer hgid).report hzero (hgone device hdevice)
    have hall := hloop.after hsilent hfailed
    rw [← hcalls, ← houtcome] at hall
    exact hall

/-- **The loop over the active set.** Induction on the ids that are left: they are the ids of the
active set, so that each is found and none is missing. -/
theorem removeIds_truthful {ids : List UInt32} {hal : Hal} {stores : Nat}
    (hids : activeIds hal.tee.ta.bio = ids) (hnodup : ids.Nodup) (hzero : 0 ∉ ids)
    (hpresent : ids ≠ [] → hal.userDb ≠ none)
    (hbuffer : sizeofBioCommand ≤ hal.tee.sharedBuffer.length) :
    LoopTruthful hal.currentGid ids (tracedRemoveIds m ids stores hal) := by
  induction ids generalizing hal stores with
  | nil => exact .nil _ stores hbuffer
  | cons id rest ih =>
    obtain ⟨hnot, hrestNodup⟩ := List.nodup_cons.mp hnodup
    have hne : id ≠ 0 := fun h => hzero (h ▸ List.mem_cons_self)
    obtain ⟨status, tee, hdelete⟩ := fpcTeeDeleteTemplate_returns (m.tacOf_reaches hal.tee)
      hbuffer fun _ => hpresent (List.cons_ne_nil _ _)
    -- of the ids there are, the deleted one is the first
    have hsplit : ∀ device, FingerGone m hal device id → enrolledIds device.userDb = rest ∧
        activeIds device.tee.ta.bio = rest ∧ device.stored = device.userDb ∧
          device.userDb ≠ none := by
      intro device hgone
      cases hgone with
      | missing _ hmissing _ _ =>
        rw [hids] at hmissing
        exact absurd List.mem_cons_self hmissing
      | deleted _ before after hactive _ henrolled' hids' hstored hdb =>
        rw [hids] at hactive
        have hfront : before = [] := by
          cases before with
          | nil => rfl
          | cons b bs =>
            rw [List.cons_append, List.cons.injEq] at hactive
            rw [hactive.2] at hnot
            exact absurd (List.mem_append_right bs List.mem_cons_self) hnot
        rw [hfront, List.nil_append, List.cons.injEq] at hactive
        rw [hfront, List.nil_append, ← hactive.2] at henrolled' hids'
        exact ⟨henrolled', hids', hstored, hdb⟩
    refine .cons hne (removeTurn hbuffer hne hdelete) ?_ ?_
    · intro device hgone
      obtain ⟨henrolled, _, hstored, _⟩ := hsplit device hgone
      rw [hstored, henrolled]
      exact ⟨hnot, hnot⟩
    · intro device stores hgone hdevice hgid
      obtain ⟨_, hactive, _, hdb⟩ := hsplit device hgone
      rw [← hgid]
      show LoopTruthful (device.callback (.onRemoved id device.currentGid
        (UInt32.ofNat rest.length))).currentGid rest _
      exact ih hactive hrestNodup (fun h => hzero (List.mem_cons_of_mem _ h)) (fun _ => hdb) hdevice

/-! ## The task -/

/-- A load comes back. -/
theorem loadTemplateDb_returns (hbuffer : sizeofBioCommand ≤ hal.tee.sharedBuffer.length) :
    ∃ status hal', loadTemplateDb m hal = .ok (status, hal') := by
  unfold loadTemplateDb
  split
  · obtain ⟨status, tee, hload⟩ := fpcTeeLoadEmptyDb_returns (m.tacOf_reaches hal.tee) hbuffer
    rw [hload, ok_bind]
    exact ⟨_, _, rfl⟩
  · split
    · exact ⟨_, _, rfl⟩
    · split
      · exact ⟨_, _, rfl⟩
      · exact ⟨_, _, rfl⟩

/-- The end of a task of which all commands worked. -/
theorem tracedRemoved_done (device : Hal) :
    ∃ last hal', tracedRemoved m 0 device = { calls := last, outcome := .ok hal' } ∧
      ∀ step ∈ last, step = .callback (.onRemoved 0 device.currentGid 0) device := by
  unfold tracedRemoved
  rw [if_neg (not_not.mpr rfl)]
  split
  · exact ⟨_, _, rfl, fun step hstep => List.mem_singleton.mp hstep⟩
  · exact ⟨_, _, rfl, fun step hstep => absurd hstep List.not_mem_nil⟩

/-- The end of a task of which a command failed. -/
theorem tracedRemoved_failed {status loaded : Int} {device hal' : Hal} (h : status ≠ 0)
    (hload : loadTemplateDb m (device.callback (.onError halCompatErrorUnableToRemove))
      = .ok (loaded, hal')) :
    tracedRemoved m status device
      = { calls := [.callback (.onError halCompatErrorUnableToRemove) device, .loaded loaded]
          outcome := .ok hal' } := by
  unfold tracedRemoved
  rw [if_pos h]
  refine (Traced.bind_of_ok (outcome_callbackMade _ _) _).trans ?_
  rw [hload]
  rfl

/-- What the end of the task adds: an error and a load, or the report that all is removed. -/
theorem LoopTruthful.removalTruthful
    (h : LoopTruthful hal.currentGid (toRemove hal) (tracedRemoveAsked m hal))
    (hnodup : (toRemove hal).Nodup) : RemovalTruthful m hal := by
  obtain ⟨status, device, hreturns, hbuffer, hstatus⟩ := h.returns
  have hdone : tracedDoRemove m hal
      = { calls := (tracedRemoveAsked m hal).calls ++ (tracedRemoved m status device).calls
          outcome := (tracedRemoved m status device).outcome } := Traced.bind_of_ok hreturns _
  by_cases hzero : status = 0
  · -- all commands worked
    have hnone : ∀ step ∈ (tracedRemoveAsked m hal).calls, ¬ step.failed :=
      fun step hstep hbad => hstatus.mpr ⟨step, hstep, hbad⟩ hzero
    obtain ⟨last, hal', hend, hlast⟩ := tracedRemoved_done (m := m) device
    rw [hzero, hend] at hdone
    have hreports : removalReports last = [] := by
      unfold removalReports
      rw [List.filterMap_eq_nil_iff]
      intro step hstep
      rw [hlast step hstep]
      rfl
    have hcalls : (tracedDoRemove m hal).calls = (tracedRemoveAsked m hal).calls ++ last := by
      rw [hdone]
    have hsame : removalReports (tracedDoRemove m hal).calls
        = countdown hal.currentGid (toRemove hal) := by
      rw [hcalls, removalReports_append, hreports, List.append_nil, h.complete hnone]
    refine
      { returns := ⟨hal', by rw [hdone]⟩
        absent := ?_
        once := by rw [hsame, map_fst_countdown]; exact hnodup
        counts := ⟨[], by rw [List.append_nil, hsame]⟩
        complete := fun _ => hsame
        recovers := ?_ }
    · intro id gid remaining removed hmem hid
      rw [hcalls, List.mem_append] at hmem
      cases hmem with
      | inl hmem => exact (h.absent id gid remaining removed hmem).2
      | inr hmem =>
        cases hlast _ hmem
        exact absurd rfl hid
    · intro hfailed
      obtain ⟨step, hstep, hbad⟩ := hfailed
      rw [hcalls, List.mem_append] at hstep
      cases hstep with
      | inl hstep => exact absurd hbad (hnone step hstep)
      | inr hstep =>
        rw [hlast step hstep] at hbad
        exact hbad.elim
  · -- a command failed
    have hbuffer' : sizeofBioCommand
        ≤ (device.callback (.onError halCompatErrorUnableToRemove)).tee.sharedBuffer.length := hbuffer
    obtain ⟨loaded, hal', hload⟩ := loadTemplateDb_returns (m := m) hbuffer'
    have hend := tracedRemoved_failed hzero hload
    have hcalls : (tracedDoRemove m hal).calls = ((tracedRemoveAsked m hal).calls ++
        [.callback (.onError halCompatErrorUnableToRemove) device]) ++ [.loaded loaded] := by
      rw [hdone, hend, List.append_assoc]
      rfl
    have hsame : removalReports (tracedDoRemove m hal).calls
        = removalReports (tracedRemoveAsked m hal).calls := by
      rw [hcalls, removalReports_append, removalReports_append]
      simp [removalReports]
    obtain ⟨step, hstep, hbad⟩ := hstatus.mp hzero
    refine
      { returns := ⟨hal', by rw [hdone, hend]⟩
        absent := ?_
        once := ?_
        counts := by rw [hsame]; exact h.counts
        complete := ?_
        recovers := ?_ }
    · intro id gid remaining removed hmem _
      simp only [hcalls, List.mem_append, List.mem_singleton, reduceCtorEq, or_false,
        RemovalStep.callback.injEq, false_and] at hmem
      exact (h.absent id gid remaining removed hmem).2
    · have hfront := h.counts.map Prod.fst
      rw [map_fst_countdown] at hfront
      rw [hsame]
      exact hnodup.sublist hfront.sublist
    · intro hnone
      exact absurd hbad (hnone step (by
        rw [hcalls, List.append_assoc]
        exact List.mem_append_left _ hstep))
    · intro _
      refine ⟨?_, ?_, _, _, loaded, hal', hload, by rw [hdone, hend], hcalls, ?_⟩
      · rw [hcalls, errorReports_append, errorReports_append, h.noError]
        rfl
      · intro gid remaining removed hmem
        simp only [hcalls, List.mem_append, List.mem_singleton, reduceCtorEq, or_false,
          RemovalStep.callback.injEq, false_and] at hmem
        exact (h.absent 0 gid remaining removed hmem).1 rfl
      · intro other hmem
        rw [List.mem_append, List.mem_singleton] at hmem
        cases hmem with
        | inl hmem => exact h.noLoad other hmem
        | inr hmem => cases hmem

/-- All fingers of the active set are asked for, and removed. -/
theorem removeAll_truthful (hfid : hal.removeFid = 0) (hids : DistinctIds hal.userDb)
    (hbuffer : sizeofBioCommand ≤ hal.tee.sharedBuffer.length) :
    LoopTruthful hal.currentGid (toRemove hal) (tracedRemoveAsked m hal) := by
  obtain ⟨status, ids, tee, hget, hanswer⟩ :=
    fpcTeeGetFingerIds_answered m.envs (m.tacOf_reaches hal.tee) hbuffer
  obtain ⟨hsame, hlength⟩ := fpcTeeGetFingerIds_commanded (m.tacOf_reaches hal.tee) hbuffer hget
  have hbuffer' : sizeofBioCommand ≤ tee.sharedBuffer.length := by
    rw [hlength]
    exact hbuffer
  unfold tracedRemoveAsked tracedIdsToRemove toRemove
  rw [if_pos hfid, if_pos hfid, hget, Traced.quiet_ok_bind]
  dsimp only
  by_cases hzero : status = 0
  · rw [hzero, if_neg (by decide)]
    have hactive := activeIds_congr hsame.userDb hsame.activeSetKey
    have hloop : LoopTruthful hal.currentGid (activeIds hal.tee.ta.bio)
        (tracedRemoveIds m (activeIds hal.tee.ta.bio) 0 (hal.withTee tee)) := by
      have hnodup := hids.activeIds_nodup
      have hnonzero : 0 ∉ activeIds hal.tee.ta.bio :=
        fun h => hids.nonzero (activeIds_subset _ h)
      show LoopTruthful (hal.withTee tee).currentGid _ _
      refine removeIds_truthful hactive hnodup hnonzero ?_ hbuffer'
      intro hne hnone
      apply hne
      rw [← hactive]
      unfold activeIds
      rw [show tee.ta.bio.userDb = none from hnone]
      rfl
    rw [hanswer hzero]
    have hsilent : ∀ step ∈ [RemovalStep.queried 0], step.silent := by simp [RemovalStep.silent]
    exact hloop.after hsilent (by simp [RemovalStep.failed])
  · rw [if_pos hzero]
    show LoopTruthful _ _ { calls := [.queried status], outcome := .ok (-eio, hal.withTee tee) }
    exact .left (by simp [RemovalStep.silent]) ⟨.queried status, by simp, hzero⟩ hbuffer' rfl

/-- The ids that are removed are apart. -/
theorem toRemove_nodup (hids : DistinctIds hal.userDb) : (toRemove hal).Nodup := by
  unfold toRemove
  split
  · exact hids.activeIds_nodup
  · exact List.nodup_singleton _

/-- Where a finger that the application answers as missing is enrolled nowhere, or the request does
not get to it. -/
def MissingIsGone (m : Meets P) (hal : Hal) (fid : UInt32) : Prop :=
  fid ≠ 0 → ¬ (m.tacOf hal.tee).Fails → hal.userDb ≠ none ∧
    (fid ∉ activeIds hal.tee.ta.bio →
      fid ∉ enrolledIds hal.userDb ∧ fid ∉ enrolledIds hal.stored)

/-- One finger is asked for, and removed. -/
theorem removeOne_truthful (hfid : hal.removeFid ≠ 0) (hids : DistinctIds hal.userDb)
    (hbuffer : sizeofBioCommand ≤ hal.tee.sharedBuffer.length)
    (hmissing : MissingIsGone m hal hal.removeFid) :
    LoopTruthful hal.currentGid (toRemove hal) (tracedRemoveAsked m hal) := by
  obtain ⟨status, tee, hdelete⟩ := fpcTeeDeleteTemplate_returns (m.tacOf_reaches hal.tee) hbuffer
    fun hreached => (hmissing hfid hreached).1
  unfold tracedRemoveAsked tracedIdsToRemove toRemove
  rw [if_neg hfid, if_neg hfid]
  show LoopTruthful hal.currentGid [hal.removeFid] (tracedRemoveIds m [hal.removeFid] 0 hal)
  refine .cons hfid (removeTurn hbuffer hfid hdelete) ?_ ?_
  · intro device hgone
    cases hgone with
    | deleted _ before after _ henrolled henrolled' _ hstored _ =>
      have hnot : hal.removeFid ∉ before ++ after := by
        have hnodup := hids.nodup
        rw [henrolled, List.nodup_middle] at hnodup
        exact (List.nodup_cons.mp hnodup).1
      rw [hstored, henrolled']
      exact ⟨hnot, hnot⟩
    | missing hreached hnot hta hstored =>
      have hdb : device.userDb = hal.userDb := by
        show device.tee.ta.bio.userDb = hal.tee.ta.bio.userDb
        rw [hta]
      rw [hdb, hstored]
      exact (hmissing hfid hreached).2 hnot
  · exact fun device stores _ hdevice _ => .nil _ stores hdevice

/-- A finger is reported as removed that is in one of the databases. -/
theorem removeOne_untruthful (hfid : hal.removeFid ≠ 0)
    (hbuffer : sizeofBioCommand ≤ hal.tee.sharedBuffer.length)
    (hmissing : ¬ MissingIsGone m hal hal.removeFid) : ¬ RemovalTruthful m hal := by
  intro htruthful
  apply hmissing
  intro _ hreached
  obtain ⟨hal', hreturns⟩ := htruthful.returns
  -- the delete came back
  obtain ⟨status, tee, hdelete⟩ : ∃ status tee, fpcTeeDeleteTemplate (m.tacOf hal.tee) m.envs
      hal.tee hal.removeFid = .ok (status, tee) := by
    rw [tracedDoRemove_outcome] at hreturns
    unfold doRemove idsToRemove at hreturns
    rw [if_neg hfid, ok_bind] at hreturns
    obtain ⟨_, hloop, _⟩ := bind_eq_ok.mp hreturns
    obtain ⟨⟨status, tee⟩, hdelete, _⟩ := bind_eq_ok.mp hloop
    exact ⟨status, tee, hdelete⟩
  cases fpcTeeDeleteTemplate_ids (m.tacOf_reaches hal.tee) hbuffer hfid hdelete with
  | lost hfails _ _ => exact absurd hfails hreached
  | deleted _ before after _ hids _ _ _ _ =>
    have hactive : hal.removeFid ∈ activeIds hal.tee.ta.bio := by
      rw [hids]
      exact List.mem_append_right _ List.mem_cons_self
    refine ⟨?_, fun hnot => absurd hactive hnot⟩
    intro hnone
    unfold activeIds at hactive
    rw [show hal.tee.ta.bio.userDb = none from hnone] at hactive
    cases hactive
  | missing _ hstatus _ hta hpresent =>
    refine ⟨hpresent, fun _ => ?_⟩
    have hdb : (hal.withTee tee).userDb = hal.userDb := by
      show tee.ta.bio.userDb = hal.tee.ta.bio.userDb
      rw [hta]
    have hreported : .callback (.onRemoved hal.removeFid hal.currentGid 0) (hal.withTee tee)
        ∈ (tracedDoRemove m hal).calls := by
      have hloop : (tracedRemoveAsked m hal).calls = [.deleted hal.removeFid status,
          .callback (.onRemoved hal.removeFid hal.currentGid 0) (hal.withTee tee)] := by
        unfold tracedRemoveAsked tracedIdsToRemove
        rw [if_neg hfid]
        show (tracedRemoveIds m [hal.removeFid] 0 hal).calls = _
        unfold tracedRemoveIds
        rw [hdelete, Traced.quiet_ok_bind]
        dsimp only
        rw [hstatus, if_neg (by decide), if_neg (by decide)]
        rfl
      refine Traced.mem_calls_bind.mpr (Or.inl ?_)
      rw [hloop]
      exact List.mem_cons_of_mem _ List.mem_cons_self
    have habsent := htruthful.absent _ _ _ _ hreported hfid
    rw [hdb] at habsent
    exact habsent

theorem removalTruthful_iff (hids : DistinctIds hal.userDb)
    (hbuffer : sizeofBioCommand ≤ hal.tee.sharedBuffer.length) :
    RemovalTruthful m hal ↔ MissingIsGone m hal hal.removeFid := by
  constructor
  · intro htruthful
    by_cases hfid : hal.removeFid = 0
    · exact fun hne => absurd hfid hne
    · by_contra hmissing
      exact removeOne_untruthful hfid hbuffer hmissing htruthful
  · intro hmissing
    apply LoopTruthful.removalTruthful _ (toRemove_nodup hids)
    by_cases hfid : hal.removeFid = 0
    · exact removeAll_truthful hfid hids hbuffer
    · exact removeOne_truthful hfid hids hbuffer hmissing

/-- **When the reports of a removal are right**, from any state of a run. -/
theorem removal_truthful_iff {files : String → Option FingerprintDatabase}
    {history : List (HalEvent P)} (hrun : (halSystem P files).Run history hal)
    (hids : DistinctIds hal.userDb) (m : Meets P) (fid : UInt32) :
    RemovalTruthful m { hal with removeFid := fid } ↔ MissingIsGone m hal fid := by
  have hbuffer := halSystem_buffer hrun
  show RemovalTruthful m { hal with removeFid := fid } ↔
    MissingIsGone m { hal with removeFid := fid } fid
  exact removalTruthful_iff hids hbuffer

end

theorem sampleTac_reaches : ¬ sampleTac.Fails := by
  intro hfails
  obtain ⟨ta, _, hanswered⟩ := exists_of_decided (x := fpcTaRouterInit .willing)
    (fun ta => (sampleTac.transfer .willing ta (List.replicate 40 0) >>= fun r =>
      .ok (decide (r.1 = -fpcErrorComm))) = .ok false) (by decide +kernel)
  rw [hfails.transfer, ok_bind] at hanswered
  simp at hanswered

/-- The id of the finger that is enrolled for group 10. -/
def sampleFid : UInt32 := fpcDbTrimId32 sampleFinger.fingerprintId

/-- In its own group the finger is removed. -/
theorem sampleSwitch_truthful :
    ∃ history hal, (halSystem samplePlatform fun _ => none).Run history hal ∧
      sampleFid ∈ activeIds hal.tee.ta.bio ∧
        RemovalTruthful sampleSwitch { hal with removeFid := sampleFid } := by
  obtain ⟨history, hal, hrun, hids, hactive, hpresent⟩ :=
    sampleCalls_run (sampleSwitchCalls 10 "/p") (fun _ hal => DistinctIds hal.userDb ∧
      sampleFid ∈ activeIds hal.tee.ta.bio ∧ hal.userDb.isSome = true) (by decide +kernel)
  refine ⟨history, hal, hrun, hactive,
    (removal_truthful_iff hrun hids sampleSwitch sampleFid).mpr ?_⟩
  exact fun _ _ => ⟨Option.isSome_iff_ne_none.mp hpresent, fun hnot => absurd hactive hnot⟩

/-- From another group it is reported as removed, and stays. -/
theorem sampleSwitch_otherGroup :
    ∃ history hal, (halSystem samplePlatform fun _ => none).Run history hal ∧
      DistinctIds hal.userDb ∧
        ¬ RemovalTruthful sampleSwitch { hal with removeFid := sampleFid } := by
  obtain ⟨history, hal, hrun, hids, hnot, henrolled⟩ :=
    sampleCalls_run (sampleSwitchCalls 11 "/q") (fun _ hal => DistinctIds hal.userDb ∧
      sampleFid ∉ activeIds hal.tee.ta.bio ∧ sampleFid ∈ enrolledIds hal.userDb) (by decide +kernel)
  have hfid : sampleFid ≠ 0 := by decide +kernel
  have hbuffer := halSystem_buffer hrun
  refine ⟨history, hal, hrun, hids, removeOne_untruthful hfid hbuffer ?_⟩
  intro hmissing
  exact ((hmissing hfid sampleTac_reaches).2 hnot).1 henrolled

/-- What a removal meets of which neither the store nor the load behind it works. -/
def failingFiles : Meets samplePlatform :=
  { sampleSwitch with store := fun _ => -1, load := -1 }

/-- A removal that failed is asked for again: it is reported as done, and the finger stays in the
file. -/
theorem retriedRemoval_untruthful :
    ∃ history hal, (halSystem samplePlatform fun _ => none).Run history hal ∧
      DistinctIds hal.userDb ∧ sampleFid ∈ enrolledIds hal.stored ∧
        ¬ RemovalTruthful sampleSwitch { hal with removeFid := sampleFid } := by
  obtain ⟨history, enrolled, hrun, hremoved⟩ :=
    sampleCalls_run (sampleSwitchCalls 10 "/p") (fun _ hal =>
      (halCall failingFiles hal (.remove 10 sampleFid) >>= fun r =>
        .ok (decide (r.map (fun x => decide (DistinctIds x.2.userDb ∧
          sampleFid ∉ activeIds x.2.tee.ta.bio ∧ sampleFid ∈ enrolledIds x.2.stored))
            = some true))) = .ok true) (by decide +kernel)
  obtain ⟨returned, hcall, hdecided⟩ := exists_of_decided _ hremoved
  obtain ⟨⟨status, hal⟩, rfl, hleft⟩ := Option.map_eq_some_iff.mp hdecided
  obtain ⟨hids, hnot, hstored⟩ := of_decide_eq_true hleft
  have hfid : sampleFid ≠ 0 := by decide +kernel
  have hrun' : (halSystem samplePlatform fun _ => none).Run
      (⟨.remove 10 sampleFid, failingFiles, enrolled, status, hal⟩ :: history) hal :=
    .step hrun ⟨rfl, hcall, rfl⟩
  have hbuffer := halSystem_buffer hrun'
  refine ⟨_, hal, hrun', hids, hstored, removeOne_untruthful hfid hbuffer ?_⟩
  intro hmissing
  exact ((hmissing hfid sampleTac_reaches).2 hnot).2 hstored

end Fpc
