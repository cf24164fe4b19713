import Fingerprints.Ta.FingerRecords

/-!
# Which templates an update replaces

`UPDATE_TEMPLATE` finds the fingers whose templates the matcher updated by the blocks in the list
that an earlier command filled. A block that was freed since, and allocated again for another
finger, is taken for the block that was listed.

* **`step_updateTemplate_slots`**: a slot that changes has a block of a reported position;
* **`namedUpdates_of_fresh`**: over a run, only fingers are updated that the matcher named, if no
  command puts a listed block into a slot, and the list is still the one of the identification.
-/

namespace Fpc

open Wire Wire.Outcome Runs

/-! ## The matcher's report -/

def isUpdateTemplate : Event → Bool := Event.is (.bio .updateTemplate)

/-- The positions of the list at which the matcher reports an updated template. -/
def Event.reported (e : Event) : List Nat :=
  let (status, identData) := e.env.algo.identifyUpdate
  if status = 0 ∧ identData.updateResult = fpcAlgoUpdatedTemplate then
    (identData.updatedTemplateIndices.toList.take identData.numUpdatedTemplates.toNat).map
      UInt32.toNat
  else []

/-- The finger that was in slot `s` in front of the identification stood at position `p` of the
list that it filled. -/
def Event.Lists (identified : Event) (s p : Nat) : Prop :=
  identified.FillsList ∧ FingerAt identified.pre.bio.userDb s ∧
    listPosition (slots identified.pre.bio.userDb) s = p

instance (identified : Event) (s p : Nat) : Decidable (identified.Lists s p) :=
  inferInstanceAs (Decidable (_ ∧ _ ∧ _))

/-- The finger in slot `k` was, at the last identification, at a position of the list that the
matcher reports. -/
def Named (history : List Event) (e : Event) (k : Nat) : Prop :=
  ∃ identified ∈ latest isIdentify history,
    ∃ s ∈ lineage Event.origin (since isIdentify history ++ [identified]) k,
      ∃ p ∈ e.reported, identified.Lists s p

instance (history : List Event) (e : Event) (k : Nat) : Decidable (Named history e k) :=
  inferInstanceAs (Decidable (∃ identified ∈ latest isIdentify history, _))

/-- A command changes no slot but those of the fingers that the matcher named. -/
def OnlyNamed (history : List Event) (e : Event) : Prop :=
  ∀ k, (slots e.result.ta.bio.userDb)[k]? ≠ (slots e.pre.bio.userDb)[k]? → Named history e k

/-! ## A list that is up to date -/

/-- A position of the list that still tells the finger that the identification listed there: it is
one of those it filled, no other one has its block, it was not filled again, and no command since
put the block into a slot. -/
structure Fresh (identified : Event) (later : List Event) (e : Event) (p : Nat) : Prop where
  filled : identified.FillsList
  listed : p < identified.result.ta.bio.sizeList
  unique : ∀ q < identified.result.ta.bio.sizeList,
    identified.result.ta.bio.listed q = identified.result.ta.bio.listed p → q = p
  kept : e.pre.bio.listed p = identified.result.ta.bio.listed p
  unused : ∀ e' ∈ later, ¬ e'.Puts (identified.result.ta.bio.listed p)

instance (identified : Event) (later : List Event) (e : Event) (p : Nat) :
    Decidable (Fresh identified later e p) :=
  decidable_of_iff
    (identified.FillsList ∧ p < identified.result.ta.bio.sizeList ∧
      (∀ q < identified.result.ta.bio.sizeList,
        identified.result.ta.bio.listed q = identified.result.ta.bio.listed p → q = p) ∧
      e.pre.bio.listed p = identified.result.ta.bio.listed p ∧
      ∀ e' ∈ later, ¬ e'.Puts (identified.result.ta.bio.listed p))
    ⟨fun ⟨filled, listed, unique, kept, unused⟩ => ⟨filled, listed, unique, kept, unused⟩,
      fun h => ⟨h.filled, h.listed, h.unique, h.kept, h.unused⟩⟩

/-- All positions that the matcher reports are such. -/
def UpToDate (history : List Event) (e : Event) : Prop :=
  ∀ p ∈ e.reported, ∃ identified ∈ latest isIdentify history,
    Fresh identified (since isIdentify history) e p

instance (history : List Event) (e : Event) : Decidable (UpToDate history e) :=
  inferInstanceAs (Decidable (∀ p ∈ e.reported, _))

/-! ## What an update changes -/

theorem Bio.listed_of_lt (bio : Bio) {p : Nat} (h : p < fpcDbFingerprintsInSet) :
    bio.listed p = bio.list[p].tpl := by
  rw [Bio.listed, List.getElem?_eq_getElem (by rw [Vector.length_toList]; exact h),
    Option.bind_some, Vector.getElem_toList]

/-- A slot that the loop changes has a block of the list, at an index that the matcher gave in one
of the turns. Induction on the turns. -/
theorem updateTemplates_slots {env : Env} {bio : Bio} {n i k : Nat}
    {pDb pDb' : Option FingerprintDatabase} {status : Int}
    (h : updateTemplates env bio n i pDb = .ok (status, pDb'))
    (hchanged : (slots pDb')[k]? ≠ (slots pDb)[k]?) :
    ∃ j p, i ≤ j ∧ j < i + n ∧ bio.identData.updatedTemplateIndices.toList[j]? = some p ∧
      HoldsAt pDb (bio.listed p.toNat) k := by
  induction n generalizing i pDb with
  | zero =>
    cases h
    exact absurd rfl hchanged
  | succ n ih =>
    unfold updateTemplates at h
    split at h
    · next hi =>
      dsimp only at h
      split at h
      · next hlist =>
        split at h
        · cases h
        · cases h
          exact absurd rfl hchanged
        · next dbIndex hfirst =>
          split at h
          · cases h
            exact absurd rfl hchanged
          · split at h
            · cases h
              exact absurd rfl hchanged
            · next addr haddr =>
              by_cases hk : dbIndex = k
              · -- the slot is the one that this turn found by its block
                refine ⟨i, bio.identData.updatedTemplateIndices[i], le_rfl, by omega, ?_, ?_⟩
                · rw [List.getElem?_eq_getElem (by rw [Vector.length_toList]; exact hi),
                    Vector.getElem_toList]
                · obtain ⟨f, hslot, hvalid, hblock⟩ := firstIndex_ok hfirst
                  rw [hk] at hslot
                  exact ⟨f, hslot, hvalid, by rw [bio.listed_of_lt hlist, beq_iff_eq.mp hblock]⟩
              · have hslot := slots_replaceTemplate_ne pDb (Template.ofList addr
                  bio.identData.updatedTemplateSizes[i] (env.algo.updatedTemplate i)) hk
                rw [← hslot] at hchanged
                obtain ⟨j, p, hij, hj, hp, hholds⟩ := ih h hchanged
                exact ⟨j, p, by omega, by omega, hp, hholds.congr hslot⟩
      · cases h
    · cases h

section

variable {P : Platform} {ta ta' : Ta} {e : Event} {k : Nat}

/-- A slot that an update changes has the block of a position that the matcher reported. -/
theorem step_updateTemplate_slots (h : (taSystem P).step ta e ta')
    (hcmd : isUpdateTemplate e = true)
    (hchanged : (slots ta'.bio.userDb)[k]? ≠ (slots ta.bio.userDb)[k]?) :
    ∃ p ∈ e.reported, HoldsAt ta.bio.userDb (ta.bio.listed p) k := by
  obtain ⟨rfl, hroute, rfl⟩ := h
  obtain ⟨_, hrespond⟩ := fpcTaRouteCommand_of_bio P e.env e.pre (is_iff.mp hcmd)
  rw [hrespond] at hroute
  obtain ⟨answer, reply, hswitch, hta⟩ := bioRespond_ok hroute
  obtain ⟨⟨status, bio, didUpdate⟩, hupdate, hswitch⟩ := bind_eq_ok.mp hswitch
  cases hswitch
  rw [hta] at hchanged
  cases fpcTaBioUpdateTemplate_cases hupdate with
  | skipped _ => exact absurd rfl hchanged
  | looped hstatus hupdated hloop =>
    obtain ⟨j, p, _, hj, hp, hholds⟩ := updateTemplates_slots hloop hchanged
    refine ⟨p.toNat, ?_, hholds⟩
    unfold Event.reported
    dsimp only
    rw [if_pos ⟨hstatus, hupdated⟩]
    apply List.mem_map_of_mem
    rw [List.mem_iff_getElem?]
    rw [Nat.zero_add] at hj
    exact ⟨j, (List.getElem?_take_of_lt hj).trans hp⟩

/-! ## Runs -/

variable {history : List Event}

/-- A finger that has a block of the list now had it in front of the identification. -/
theorem Fresh.holdsAt {identified : Event} {p : Nat} (hrun : (taSystem P).Run history ta)
    (hlatest : latest isIdentify history = some identified)
    (hfresh : Fresh identified (since isIdentify history) e p)
    (hholds : HoldsAt ta.bio.userDb (identified.result.ta.bio.listed p) k) :
    ∃ s, lineage Event.origin (since isIdentify history ++ [identified]) k = some s ∧
      identified.Lists s p := by
  have hcmd := latest_pos hlatest
  obtain ⟨past, hhistory⟩ := eq_since_append hlatest
  rw [hhistory] at hrun
  obtain ⟨t, hpast, hlater⟩ := hrun.split
  -- a step that does not put the block into a slot leaves it with its finger
  have hback : ∀ s e s' k,
      ((taSystem P).restarted t fun e' =>
        ¬ e'.Puts (identified.result.ta.bio.listed p)).step s e s' →
      HoldsAt s'.bio.userDb (identified.result.ta.bio.listed p) k →
      ∃ j, e.origin k = some j ∧
        HoldsAt s.bio.userDb (identified.result.ta.bio.listed p) j := by
    intro s e s' k hstep hk
    exact step_holdsAt hstep.1 hstep.2 hk
  obtain ⟨t', j, hstart, hlineage, hj⟩ :=
    (hlater _ hfresh.unused).lineage_of_kept hback hholds
  cases hstart
  cases hpast with
  | step _ hstep =>
    obtain ⟨horigin, hs⟩ := step_identify_holdsAt hstep hcmd hj
    obtain ⟨rfl, _, rfl⟩ := id hstep
    obtain ⟨hlisted, hlt⟩ := step_identify_list hstep hcmd hfresh.filled hs
    refine ⟨identified.movedFrom j, ?_, hfresh.filled, hs.fingerAt,
      hfresh.unique _ hlt hlisted⟩
    rw [lineage_append, hlineage, Option.bind_some, lineage_cons_of_some horigin, lineage_nil]

/-- **An update touches only the fingers that the matcher named**, in every run in which the list
is up to date at every update. -/
theorem namedUpdates_of_fresh (hrun : (taSystem P).Run history ta)
    (h : Throughout isUpdateTemplate UpToDate history) :
    Throughout isUpdateTemplate OnlyNamed history := by
  refine hrun.throughout ?_ h
  intro history ta e ta' hrun hstep hcmd hfresh k hchanged
  obtain ⟨rfl, _, rfl⟩ := id hstep
  obtain ⟨p, hp, hholds⟩ := step_updateTemplate_slots hstep hcmd hchanged
  obtain ⟨identified, hlatest, hfresh⟩ := hfresh p hp
  rw [hfresh.kept] at hholds
  obtain ⟨s, hlineage, hlists⟩ := hfresh.holdsAt hrun hlatest hholds
  exact ⟨identified, hlatest, s, hlineage, p, hp, hlists⟩

end

/-! ## A block that is allocated again -/

def identifyMessage : List UInt8 := commandMessage 11 3 (List.replicate 32 0)

def updateTemplateMessage : List UInt8 := commandMessage 11 4 (List.replicate 32 0)

def deleteTemplateMessage (id : UInt32) : List UInt8 :=
  commandMessage 11 8 (le32 0 ++ (le32 id ++ List.replicate 24 0))

/-- The matcher reports that it updated the template at the first position of the list. -/
def Env.updatesFirst : Env := { Env.willing with
  algo := { Env.willing.algo with
    identifyUpdate := (0, { IdentifyData.zeroed with
      updatedTemplateSizes := Vector.replicate fpcAlgoMaxTemplateHandles 4
      numUpdatedTemplates := 1
      updateResult := fpcAlgoUpdatedTemplate })
    updatedTemplate := fun _ => [5, 6, 7, 8] } }

/-- A finger is enrolled, identified and updated. -/
def sampleUpdate : List (Env × List UInt8) :=
  sampleTouches ++ [sampleEndEnrol (Id256.filled 0x5A), (.willing, identifyMessage),
    (.updatesFirst, updateTemplateMessage)]

theorem sampleUpdate_named :
    ∃ history ta, (taSystem samplePlatform).Run history ta ∧
      (slots ta.bio.userDb)[0]?.map Fingerprint.templateBytes = some [5, 6, 7, 8] ∧
      Throughout isUpdateTemplate OnlyNamed history := by
  obtain ⟨history, ta, hrun, _, hbytes, hfresh⟩ :=
    execute_decided samplePlatform sampleUpdate
      (fun history ta =>
        (slots ta.bio.userDb)[0]?.map Fingerprint.templateBytes = some [5, 6, 7, 8] ∧
          Throughout isUpdateTemplate UpToDate history) (by decide +kernel)
  exact ⟨history, ta, hrun, hbytes, namedUpdates_of_fresh hrun hfresh⟩

/-- The finger that was identified is deleted, and another one is enrolled into the same block. The
update that follows is still about the one that was identified. -/
def sampleReuse : List (Env × List UInt8) :=
  sampleTouches ++ [sampleEndEnrol (Id256.filled 0x5A), (.willing, identifyMessage),
    (.willing, deleteTemplateMessage 0x5A5A5A5A)] ++ sampleTouches ++
    [sampleEndEnrol (Id256.filled 0x6B), (.updatesFirst, updateTemplateMessage)]

/-- The last command of a history changes the first slot, whose finger the matcher did not name. -/
def UpdatesUnnamed : List Event → Prop
  | [] => False
  | e :: history => isUpdateTemplate e = true ∧
      (slots e.result.ta.bio.userDb)[0]? ≠ (slots e.pre.bio.userDb)[0]? ∧ ¬ Named history e 0

instance : ∀ history, Decidable (UpdatesUnnamed history)
  | [] => inferInstanceAs (Decidable False)
  | _ :: _ => inferInstanceAs (Decidable (_ ∧ _ ∧ _))

theorem sampleReuse_unnamed :
    ¬ ∀ history ta, (taSystem samplePlatform).Run history ta →
      Throughout isUpdateTemplate OnlyNamed history := by
  intro hall
  obtain ⟨history, ta, hrun, _, hunnamed⟩ :=
    execute_decided samplePlatform sampleReuse (fun history _ => UpdatesUnnamed history)
      (by decide +kernel)
  have hnamed := hall history ta hrun
  cases history with
  | nil => exact hunnamed
  | cons e history =>
    obtain ⟨hcmd, hchanged, hnot⟩ := hunnamed
    exact hnot (hnamed.1 hcmd 0 hchanged)

end Fpc
