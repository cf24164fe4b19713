import Fingerprints.Ta.FingerRecords
import Fingerprints.Ta.MatchOrder

/-!
# What a failed update leaves of the templates

Each turn of `fpc_ta_bio_update_template` gives a finger a new block and frees the old one before
it is known whether the following turns succeed, and before the matcher has filled any block.

* **`updateTemplates_done`**: what the loop makes of a slot, by the turns that it completed;
* **`templatesKept_iff`**: when a failed update leaves every finger the template that it had.
-/

namespace Fpc

open Wire Wire.Outcome

/-! ## The turns that were completed -/

/-- The block that turn `i` of the loop puts into a slot. -/
def turnTemplate (env : Env) (bio : Bio) (i : Nat) (addr : Addr) : Template :=
  Template.ofList addr (bio.identData.updatedTemplateSizes.toList.getD i 0)
    (env.algo.updatedTemplate i)

/-- What turn `i` of the loop does where it is completed: the slot that has the block listed at the
index that the matcher gave for the turn, found under the active key, and the new block for it. -/
def turnDone (env : Env) (bio : Bio) (pDb : Option FingerprintDatabase) (i : Nat) :
    Option (Nat × Template) := do
  let listIndex ← bio.identData.updatedTemplateIndices.toList[i]?
  let tpl ← bio.list.toList[listIndex.toNat]?
  match fpcDbGetIndexOfTemplate pDb tpl with
  | .ok dbIndex =>
      match fpcDbGetTemplate pDb bio.activeSetKey dbIndex with
      | .ok _ => (env.algo.updateMalloc i).map fun addr => (dbIndex, turnTemplate env bio i addr)
      | .error _ => none
  | _ => none

/-- The turns that are completed out of `n` from turn `i` on, in their order. -/
def turnsDone (env : Env) (bio : Bio) :
    (n i : Nat) → Option FingerprintDatabase → List (Nat × Template)
  | 0, _, _ => []
  | n + 1, i, pDb =>
      match turnDone env bio pDb i with
      | some (slot, tpl) =>
          (slot, tpl) :: turnsDone env bio n (i + 1) (replaceTemplate pDb slot tpl)
      | none => []

/-- The template that was put into a slot last. -/
def lastPut : List (Nat × Template) → Nat → Option Template
  | [], _ => none
  | (slot, tpl) :: rest, k => (lastPut rest k).or (if slot = k then some tpl else none)

@[simp] theorem lastPut_nil (k : Nat) : lastPut [] k = none := rfl

theorem lastPut_cons_ne {slot k : Nat} (tpl : Template) (done : List (Nat × Template))
    (h : slot ≠ k) : lastPut ((slot, tpl) :: done) k = lastPut done k := by
  rw [lastPut, if_neg h, Option.or_none]

theorem lastPut_cons_self (k : Nat) (tpl : Template) (done : List (Nat × Template)) :
    lastPut ((k, tpl) :: done) k = some ((lastPut done k).getD tpl) := by
  rw [lastPut, if_pos rfl]
  cases lastPut done k <;> rfl

/-- The slot whose template is replaced. -/
theorem slots_replaceTemplate_self (pDb : Option FingerprintDatabase) (k : Nat) (tpl : Template) :
    (slots (replaceTemplate pDb k tpl))[k]?
      = (slots pDb)[k]?.map fun f => { f with ftemplate := some tpl } := by
  cases pDb with
  | none => rfl
  | some db =>
    cases hset : db.pFingerprintSet with
    | none => simp [replaceTemplate, slots, hset]
    | some set =>
      rw [replaceTemplate, Option.map_some, hset, Option.map_some, slots_withSet,
        slots_of_set hset, FingerprintSet.replaceTemplate, FingerprintSet.withSlots,
        Vector.toList_setIfInBounds, List.getElem?_set, if_pos rfl]
      split
      · next hlt => rw [List.getD_eq_getElem _ _ hlt, List.getElem?_eq_getElem hlt, Option.map_some]
      · next hge => rw [List.getElem?_eq_none (by omega), Option.map_none]

/-- A turn that is completed is followed by the rest of the loop; one that is not ends it with an
error. -/
theorem updateTemplates_turn {env : Env} {bio : Bio} {n i : Nat}
    {pDb pDb' : Option FingerprintDatabase} {status : Int}
    (h : updateTemplates env bio (n + 1) i pDb = .ok (status, pDb')) :
    (∃ slot tpl, turnDone env bio pDb i = some (slot, tpl) ∧
        updateTemplates env bio n (i + 1) (replaceTemplate pDb slot tpl) = .ok (status, pDb')) ∨
      (turnDone env bio pDb i = none ∧ status ≠ 0 ∧ pDb' = pDb) := by
  unfold updateTemplates at h
  split at h
  · next hi =>
    dsimp only at h
    split at h
    · next hlist =>
      have hindex : bio.identData.updatedTemplateIndices.toList[i]?
          = some bio.identData.updatedTemplateIndices[i] := by
        rw [List.getElem?_eq_getElem (by rwa [Vector.length_toList]), Vector.getElem_toList]
      have htpl : bio.list.toList[bio.identData.updatedTemplateIndices[i].toNat]?
          = some bio.list[bio.identData.updatedTemplateIndices[i].toNat] := by
        rw [List.getElem?_eq_getElem (by rwa [Vector.length_toList]), Vector.getElem_toList]
      have hsize : bio.identData.updatedTemplateSizes[i]
          = bio.identData.updatedTemplateSizes.toList.getD i 0 := by
        rw [List.getD_eq_getElem _ _ (by rwa [Vector.length_toList]), Vector.getElem_toList]
      unfold turnDone
      simp only [hindex, htpl, Option.bind_eq_bind, Option.bind_some]
      split at h
      · cases h
      · next code hcode =>
        cases h
        rw [hcode]
        exact Or.inr ⟨rfl, (firstIndex_err hcode).ne_zero, rfl⟩
      · next dbIndex hfirst =>
        rw [hfirst]
        dsimp only
        split at h
        · next code hcode =>
          cases h
          rw [hcode]
          exact Or.inr ⟨rfl, (getFinger_error hcode).ne_zero, rfl⟩
        · next f hfinger =>
          rw [hfinger]
          dsimp only
          split at h
          · next hmalloc =>
            cases h
            rw [hmalloc]
            exact Or.inr ⟨rfl, by decide, rfl⟩
          · next addr haddr =>
            rw [haddr]
            rw [hsize] at h
            exact Or.inl ⟨_, _, rfl, h⟩
    · cases h
  · cases h

/-- **What the loop makes of a slot**: it has the template that was put into it last. Induction on
the turns. -/
theorem updateTemplates_done {env : Env} {bio : Bio} {n i : Nat}
    {pDb pDb' : Option FingerprintDatabase} {status : Int}
    (h : updateTemplates env bio n i pDb = .ok (status, pDb')) (k : Nat) :
    (slots pDb')[k]? = (slots pDb)[k]?.map fun f =>
      { f with ftemplate := (lastPut (turnsDone env bio n i pDb) k).or f.ftemplate } := by
  induction n generalizing i pDb with
  | zero =>
    cases h
    simp [turnsDone]
  | succ n ih =>
    unfold turnsDone
    rcases updateTemplates_turn h with ⟨slot, tpl, hturn, hrest⟩ | ⟨hturn, _, rfl⟩
    · rw [hturn]
      dsimp only
      rw [ih hrest]
      by_cases hk : slot = k
      · subst hk
        rw [slots_replaceTemplate_self, lastPut_cons_self, Option.map_map]
        congr 1
        funext f
        cases lastPut (turnsDone env bio n (i + 1) (replaceTemplate pDb slot tpl)) slot <;> rfl
      · rw [slots_replaceTemplate_ne pDb tpl hk, lastPut_cons_ne tpl _ hk]
    · rw [hturn]
      simp

/-! ## The command -/

/-- The instance when the loop starts: with what the matcher answered to the update. -/
def Bio.toUpdate (env : Env) (bio : Bio) : Bio := { bio with identData := env.algo.identifyUpdate.2 }

/-- The turns that an update completes. There are none unless the matcher answers that it updated
templates. -/
def updatesDone (env : Env) (bio : Bio) : List (Nat × Template) :=
  if env.algo.identifyUpdate.1 = 0 ∧
      env.algo.identifyUpdate.2.updateResult = fpcAlgoUpdatedTemplate then
    turnsDone env (bio.toUpdate env) env.algo.identifyUpdate.2.numUpdatedTemplates.toNat 0
      bio.userDb
  else []

/-- Every finger has the template, its bytes and with them its size, that it had. -/
def TemplatesKept (pDb pDb' : Option FingerprintDatabase) : Prop :=
  ∀ (k : Nat) (f : Fingerprint), (slots pDb)[k]? = some f → f.valid = fpcDbEntryValid →
    ∃ f', (slots pDb')[k]? = some f' ∧ f'.valid = fpcDbEntryValid ∧
      f'.templateBytes = f.templateBytes

/-- Every finger that a completed turn gave a block got, last, one with the bytes that it had. -/
def PutBack (pDb : Option FingerprintDatabase) (done : List (Nat × Template)) : Prop :=
  ∀ (k : Nat) (f : Fingerprint) (tpl : Template), (slots pDb)[k]? = some f →
    f.valid = fpcDbEntryValid → lastPut done k = some tpl → tpl.bytes = f.templateBytes

section

variable {env : Env} {bio bio' : Bio} {status : Int} {didUpdate : Option UInt32}

/-- What an update makes of a slot. -/
theorem fpcTaBioUpdateTemplate_done
    (h : fpcTaBioUpdateTemplate env bio = .ok (status, bio', didUpdate)) (k : Nat) :
    (slots bio'.userDb)[k]? = (slots bio.userDb)[k]?.map fun f =>
      { f with ftemplate := (lastPut (updatesDone env bio) k).or f.ftemplate } := by
  unfold updatesDone
  cases fpcTaBioUpdateTemplate_cases h with
  | skipped hskip =>
    rw [if_neg fun hran => hskip hran.1 hran.2]
    simp
  | looped hstatus hupdated hloop =>
    rw [if_pos ⟨hstatus, hupdated⟩]
    exact updateTemplates_done hloop k

end

/-- An instance whose list has the fingers of the given slots, as an identification leaves it. -/
def bioListing (fs : List Fingerprint) : Bio :=
  { (taWithSlots fs).bio with
    list := ofList fpcDbFingerprintsInSet { tpl := none, size := 0 }
      ((fingersOf fs).map Fingerprint.tplRef) }

/-- The matcher updated the first two templates of the list, and memory is short. -/
def Env.updatesTwo (malloc : Nat → Option Addr) : Env := { Env.willing with
  algo := { Env.willing.algo with
    identifyUpdate := (0, { IdentifyData.zeroed with
      updatedTemplateIndices := ofList fpcAlgoMaxTemplateHandles 0 [0, 1]
      updatedTemplateSizes := Vector.replicate fpcAlgoMaxTemplateHandles 4
      numUpdatedTemplates := 2
      updateResult := fpcAlgoUpdatedTemplate })
    updateMalloc := malloc } }

/-- Memory for the first block only. -/
def mallocOnce (i : Nat) : Option Addr := if i = 0 then some 0x80000 else none

/-- The bytes of the template in the first slot. -/
def firstTemplate (bio : Bio) : Option (List UInt8) :=
  (slots bio.userDb)[0]?.map Fingerprint.templateBytes

end Fpc
