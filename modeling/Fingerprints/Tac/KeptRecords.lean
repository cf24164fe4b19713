import Fingerprints.Tac.Bio
import Fingerprints.Ta.OwnedTemplates
import Fingerprints.Ta.TokenIdentity

/-!
# Records that stay

An `IDENTIFY` puts the finger that it found in front, and an `UPDATE_TEMPLATE` replaces templates.
Both leave the fingers there are, with their ids and their users.

* **`sameRecords_fpcDbSetTemplateFirst`**: no record is lost when a finger is put in front;
* **`sameRecords_fpcTeeIdentify`**, **`sameRecords_fpcTeeUpdateTemplate`**: the commands of the
  client, also where they fail or are lost.
-/

namespace Fpc

open Wire Wire.Outcome

/-- The same fingers, whatever their templates and their order. -/
def SameRecords (pDb pDb' : Option FingerprintDatabase) : Prop :=
  ∀ record, Records pDb' record ↔ Records pDb record

theorem SameRecords.refl (pDb : Option FingerprintDatabase) : SameRecords pDb pDb :=
  fun _ => Iff.rfl

theorem SameRecords.trans {pDb₁ pDb₂ pDb₃ : Option FingerprintDatabase} (h : SameRecords pDb₁ pDb₂)
    (h' : SameRecords pDb₂ pDb₃) : SameRecords pDb₁ pDb₃ :=
  fun record => (h' record).trans (h record)

/-! ## The finger in front -/

theorem sameRecords_fpcDbSetTemplateFirst {pDb : Option FingerprintDatabase} {i : Nat}
    {db' : FingerprintDatabase} (h : fpcDbSetTemplateFirst pDb i = .ok db') :
    SameRecords pDb (some db') := by
  intro record
  constructor
  · exact records_of_enrolled fun f => enrolled_fpcDbSetTemplateFirst h
  · apply records_of_enrolled
    intro f hf
    exact ⟨(perm_fpcDbSetTemplateFirst h).mem_iff.mpr hf.1, hf.2⟩

/-! ## The templates -/

/-- A slot keeps all but its template. -/
theorem sameRecords_replaceTemplate (pDb : Option FingerprintDatabase) (index : Nat)
    (tpl : Template) : SameRecords pDb (replaceTemplate pDb index tpl) := by
  intro record
  constructor
  · exact records_replaceTemplate
  · intro h
    obtain ⟨f, ⟨hmem, hvalid⟩, hrecord⟩ := h
    cases pDb with
    | none => cases hmem
    | some db =>
      cases hset : db.pFingerprintSet with
      | none => simp [slots, hset] at hmem
      | some set =>
        rw [slots_of_set hset] at hmem
        obtain ⟨j, hj⟩ := List.mem_iff_getElem?.mp hmem
        obtain ⟨hlt, hget⟩ := List.getElem?_eq_some_iff.mp hj
        have hslots : slots (replaceTemplate (some db) index tpl)
            = (set.replaceTemplate index tpl).aFingerprintList.toList := by
          rw [replaceTemplate, Option.map_some, hset, Option.map_some, slots_withSet]
        rw [FingerprintSet.replaceTemplate, FingerprintSet.withSlots,
          Vector.toList_setIfInBounds] at hslots
        by_cases hindex : index = j
        · subst hindex
          rw [List.getD_eq_getElem _ _ hlt, hget] at hslots
          refine ⟨{ f with ftemplate := some tpl }, ⟨?_, hvalid⟩, hrecord⟩
          rw [hslots, List.mem_iff_getElem?]
          exact ⟨index, List.getElem?_set_self hlt⟩
        · refine ⟨f, ⟨?_, hvalid⟩, hrecord⟩
          rw [hslots, List.mem_iff_getElem?]
          exact ⟨j, by rw [List.getElem?_set_ne hindex, hj]⟩

/-- Induction on the turns of the loop. -/
theorem sameRecords_updateTemplates {env : Env} {bio : Bio} {n i : Nat}
    {pDb pDb' : Option FingerprintDatabase} {status : Int}
    (h : updateTemplates env bio n i pDb = .ok (status, pDb')) : SameRecords pDb pDb' := by
  induction n generalizing i pDb with
  | zero =>
    cases h
    exact .refl _
  | succ n ih =>
    unfold updateTemplates at h
    split at h
    · dsimp only at h
      split at h
      · split at h
        · cases h
        · cases h
          exact .refl _
        · split at h
          · cases h
            exact .refl _
          · split at h
            · cases h
              exact .refl _
            · exact (sameRecords_replaceTemplate pDb _ _).trans (ih h)
      · cases h
    · cases h

/-! ## The commands -/

section

variable {P : Platform} {env : Env} {ta : Ta} {bio bio' : Bio}

theorem sameRecords_fpcTaBioIdentify {identified : Identified}
    (h : fpcTaBioIdentify P env ta = .ok identified) :
    SameRecords ta.bio.userDb identified.bio.userDb := by
  cases fpcTaBioIdentify_userDb h with
  | inl hfound =>
    obtain ⟨_, db, hfront, hdb⟩ := hfound
    rw [hdb]
    exact sameRecords_fpcDbSetTemplateFirst hfront
  | inr hmissed =>
    rw [hmissed.2]
    exact .refl _

theorem sameRecords_fpcTaBioUpdateTemplate {status : Int} {didUpdate : Option UInt32}
    (h : fpcTaBioUpdateTemplate env bio = .ok (status, bio', didUpdate)) :
    SameRecords bio.userDb bio'.userDb := by
  cases fpcTaBioUpdateTemplate_cases h with
  | skipped _ => exact .refl _
  | looped _ _ hloop => exact sameRecords_updateTemplates hloop

variable {tac : Tac} {envs : Nat → Env} {tee tee' : Tee} {status : Int}

theorem sameRecords_fpcTeeIdentify {id : Option UInt32} (htac : tac.DeliversOrFails P)
    (hbuffer : sizeofBioCommand ≤ tee.sharedBuffer.length)
    (h : fpcTeeIdentify tac envs tee = .ok (status, id, tee')) :
    SameRecords tee.ta.bio.userDb tee'.ta.bio.userDb := by
  have hcmd : BioCmd.ofWord fpcTaBioIdentifyCmd = some .identify := by decide
  cases (bioAnswer_commanded htac hbuffer hcmd h).1 with
  | lost _ _ hta =>
    rw [hta]
    exact .refl _
  | answered _ msg reply hswitch _ hta _ _ _ =>
    rw [hta]
    obtain ⟨identified, hidentify, hswitch⟩ := bind_eq_ok.mp hswitch
    have hsame := sameRecords_fpcTaBioIdentify hidentify
    split at hswitch
    · cases hswitch
      exact hsame
    · obtain ⟨_, _, hswitch⟩ := bind_eq_ok.mp hswitch
      cases hswitch
      exact hsame

theorem sameRecords_fpcTeeUpdateTemplate {update : Option UInt32} (htac : tac.DeliversOrFails P)
    (hbuffer : sizeofBioCommand ≤ tee.sharedBuffer.length)
    (h : fpcTeeUpdateTemplate tac envs tee = .ok (status, update, tee')) :
    SameRecords tee.ta.bio.userDb tee'.ta.bio.userDb := by
  have hcmd : BioCmd.ofWord fpcTaBioUpdateTemplateCmd = some .updateTemplate := by decide
  cases (bioAnswer_commanded htac hbuffer hcmd h).1 with
  | lost _ _ hta =>
    rw [hta]
    exact .refl _
  | answered _ msg reply hswitch _ hta _ _ _ =>
    rw [hta]
    obtain ⟨updated, hupdate, hswitch⟩ := bind_eq_ok.mp hswitch
    cases hswitch
    exact sameRecords_fpcTaBioUpdateTemplate hupdate

end

end Fpc
