import Fingerprints.Db.Ownership
import Fingerprints.Ta.DbChanges

/-!
# The templates of a reachable database

What `Db/Ownership` says of the functions of `fpc_db.c`, over the commands of the application. The
heap gives out blocks at three places, for the template that an enrolment made, for the one that
takes the place of an updated template, and for those of an image; `FreshBlocks` is what `malloc`
promises there.

* **`step_keepsOwnership`**: what a command does to the ownership of the templates;
* **`run_owned`**, **`run_distinct`**: valid slots own templates and free slots own none in every
  run, and the templates are distinct where the memory was fresh.
-/

namespace Fpc

open Wire Wire.Outcome Runs

/-! ## What the heap promises -/

/-- The blocks that some turns of an update put into slots are, one after the other, not among those
that the database has then. The block that is replaced is freed after that, so a later turn may get
it. -/
def FreshTurns : List (Nat × Template) → Option FingerprintDatabase → Prop
  | [], _ => True
  | (slot, tpl) :: done, pDb =>
      tpl.tpl ∉ templateBlocks (slots pDb) ∧ FreshTurns done (replaceTemplate pDb slot tpl)

instance FreshTurns.decidable : ∀ done pDb, Decidable (FreshTurns done pDb)
  | [], _ => inferInstanceAs (Decidable True)
  | (slot, tpl) :: done, pDb =>
      have := FreshTurns.decidable done (replaceTemplate pDb slot tpl)
      inferInstanceAs (Decidable (_ ∧ _))

/-- Memory that a command gets for a template is not in use. -/
structure Event.FreshBlocks (e : Event) : Prop where
  enrol : e.is (.bio .endEnrol) = true → ∀ addr ∈ e.env.algo.enrolMalloc,
    addr ∉ templateBlocks (slots e.pre.bio.userDb)
  update : isUpdateTemplate e = true →
    FreshTurns (updatesDone e.env e.pre.bio) e.pre.bio.userDb
  load : e.loads = true → e.env.db.DistinctTemplates

instance (e : Event) : Decidable e.FreshBlocks :=
  decidable_of_iff
    ((e.is (.bio .endEnrol) = true → ∀ addr ∈ e.env.algo.enrolMalloc,
        addr ∉ templateBlocks (slots e.pre.bio.userDb)) ∧
      (isUpdateTemplate e = true →
        FreshTurns (updatesDone e.env e.pre.bio) e.pre.bio.userDb) ∧
      (e.loads = true → e.env.db.DistinctTemplates))
    ⟨fun ⟨enrol, update, load⟩ => ⟨enrol, update, load⟩, fun h => ⟨h.enrol, h.update, h.load⟩⟩

/-! ## Reordering and updating -/

theorem length_slots {db : FingerprintDatabase} {set : FingerprintSet}
    (h : db.pFingerprintSet = some set) : (slots (some db)).length = fpcDbFingerprintsInSet := by
  rw [slots_of_set h, Vector.length_toList]

/-- Reordering takes one of the slots there are. -/
theorem perm_fpcDbSetTemplateFirst {pDb : Option FingerprintDatabase} {i : Nat}
    {db' : FingerprintDatabase} (h : fpcDbSetTemplateFirst pDb i = .ok db') :
    (slots (some db')).Perm (slots pDb) := by
  refine perm_of_fronted ?_ (slots_fpcDbSetTemplateFirst h)
  obtain ⟨db, set, hlt, rfl, hset, _⟩ := fpcDbSetTemplateFirst_ok h
  rw [length_slots hset]
  exact hlt

/-- A turn that is completed found a valid slot. -/
theorem turnDone_slot {env : Env} {bio : Bio} {pDb : Option FingerprintDatabase} {i slot : Nat}
    {tpl : Template} (h : turnDone env bio pDb i = some (slot, tpl)) :
    ∃ f, (slots pDb)[slot]? = some f ∧ f.valid = fpcDbEntryValid := by
  unfold turnDone at h
  obtain ⟨listIndex, _, h⟩ := Option.bind_eq_some_iff.mp h
  obtain ⟨listed, _, h⟩ := Option.bind_eq_some_iff.mp h
  split at h
  · next dbIndex hfirst =>
    split at h
    · obtain ⟨addr, _, heq⟩ := Option.map_eq_some_iff.mp h
      obtain ⟨f, hslot, hvalid, _⟩ := firstIndex_ok hfirst
      cases heq
      exact ⟨f, hslot, hvalid⟩
    · cases h
  · cases h

theorem slots_replaceTemplate {pDb : Option FingerprintDatabase} {k : Nat} {f : Fingerprint}
    (h : (slots pDb)[k]? = some f) (tpl : Template) :
    slots (replaceTemplate pDb k tpl) = (slots pDb).set k { f with ftemplate := some tpl } := by
  apply List.ext_getElem?
  intro j
  by_cases hj : k = j
  · subst hj
    obtain ⟨hlt, _⟩ := List.getElem?_eq_some_iff.mp h
    rw [slots_replaceTemplate_self, h, List.getElem?_set_self hlt, Option.map_some]
  · rw [slots_replaceTemplate_ne pDb tpl hj, List.getElem?_set_ne hj]

/-- A valid slot owns the block that it was given. Induction on the turns. -/
theorem updateTemplates_keepsOwnership {env : Env} {bio : Bio} {n i : Nat}
    {pDb pDb' : Option FingerprintDatabase} {status : Int}
    (h : updateTemplates env bio n i pDb = .ok (status, pDb')) :
    KeepsOwnership (FreshTurns (turnsDone env bio n i pDb) pDb) (slots pDb) (slots pDb') := by
  induction n generalizing i pDb with
  | zero =>
    cases h
    exact .refl _ _
  | succ n ih =>
    obtain ⟨slot, tpl, hturn, hrest⟩ | ⟨_, _, rfl⟩ := updateTemplates_turn h
    · obtain ⟨f, hslot, hvalid⟩ := turnDone_slot hturn
      rw [turnsDone, hturn]
      have hreplaced : KeepsOwnership (tpl.tpl ∉ templateBlocks (slots pDb)) (slots pDb)
          (slots (replaceTemplate pDb slot tpl)) := by
        rw [slots_replaceTemplate hslot tpl]
        refine KeepsOwnership.set hslot ?_ ?_
        · intro _
          exact Or.inl ⟨hvalid, rfl⟩
        · intro a ha
          rw [List.mem_singleton.mp ha]
          exact Or.inr id
      exact (hreplaced.mono And.left).trans (ih hrest) And.right
    · exact .refl _ _

/-! ## Commands and runs -/

section

variable {P : Platform} {ta ta' : Ta} {e : Event} {history : List Event}

/-- **What a command does to the ownership of the templates.** -/
theorem step_keepsOwnership (h : (taSystem P).step ta e ta') :
    KeepsOwnership e.FreshBlocks (slots ta.bio.userDb) (slots ta'.bio.userDb) := by
  obtain ⟨rfl, _, _⟩ := id h
  have hchange := step_dbChange h
  generalize ta'.bio.userDb = pDb at hchange ⊢
  cases hchange with
  | kept => exact .refl _ _
  | dropped _ => exact .nil _ _
  | created hload hcreate =>
    obtain ⟨howned, hdistinct⟩ := fpcDbCreate_owned hcreate
    exact ⟨fun _ => howned, fun hfresh _ => hdistinct (hfresh.load hload)⟩
  | added hadd =>
    apply (fpcDbAddFingerprint_keepsOwnership _ _ _ _ _).mono
    intro hfresh
    exact hfresh.enrol hadd.command _ hadd.malloc
  | deleted _ => exact fpcDbDeleteFingerprint_keepsOwnership _ _ _ _
  | fronted _ hfront => exact .perm _ (perm_fpcDbSetTemplateFirst hfront)
  | updated hcmd hanswer hloop =>
    apply (updateTemplates_keepsOwnership hloop).mono
    intro hfresh
    have hturns := hfresh.update hcmd
    rw [updatesDone, if_pos hanswer] at hturns
    exact hturns

/-- Runs start without slots. -/
theorem slots_of_init (h : (taSystem P).init ta) : slots ta.bio.userDb = [] := by
  obtain ⟨env, hinit⟩ := h
  obtain ⟨db, hcreate, hdb, _⟩ := fpcTaRouterInit_ok hinit
  rw [hdb]
  exact slots_fpcDbCreate hcreate

theorem run_owned (hrun : (taSystem P).Run history ta) : SlotsOwned (slots ta.bio.userDb) := by
  refine hrun.invariant_state (I := fun ta => SlotsOwned (slots ta.bio.userDb)) ?_ ?_
  · intro ta hinit
    rw [slots_of_init hinit]
    exact slotsOwned_nil
  · intro ta e ta' howned hstep
    exact (step_keepsOwnership hstep).owned howned

/-- In a run in which the memory was fresh the templates are distinct. -/
theorem run_distinct (hrun : (taSystem P).Run history ta) (hfresh : ∀ e ∈ history, e.FreshBlocks) :
    (templateBlocks (slots ta.bio.userDb)).Nodup := by
  induction hrun with
  | init hinit =>
    rw [slots_of_init hinit]
    exact List.nodup_nil
  | step _ hstep ih =>
    rw [List.forall_mem_cons] at hfresh
    exact (step_keepsOwnership hstep).distinct hfresh.1 (ih hfresh.2)

end

end Fpc
