import Fingerprints.Runs.Lineage
import Fingerprints.Ta.Identify

/-!
# Which finger is which

A finger is followed through a run by its slot. It keeps its slot but where an `IDENTIFY` puts the
finger it found in front; a load puts other fingers into all of the slots, and a slot that held no
finger before holds a new one afterwards.

* **`step_identify_slots`**: an identification moves the fingers as `fronted` says, or not at all;
* **`step_identify_list`**: the list it hands to the matcher, with the position of each finger;
* **`step_holdsAt`**: a block that no command puts into a slot stays with its finger.
-/

namespace Fpc

open Wire Wire.Outcome Runs

/-! ## Fingers in slots -/

/-- A finger stands in the slot. -/
def FingerAt (pDb : Option FingerprintDatabase) (k : Nat) : Prop :=
  ∃ f ∈ (slots pDb)[k]?, f.valid = fpcDbEntryValid

/-- A finger stands in the slot whose template is in the block. -/
def HoldsAt (pDb : Option FingerprintDatabase) (block : Option Addr) (k : Nat) : Prop :=
  ∃ f ∈ (slots pDb)[k]?, f.valid = fpcDbEntryValid ∧ f.tplRef.tpl = block

instance (pDb : Option FingerprintDatabase) (k : Nat) : Decidable (FingerAt pDb k) :=
  inferInstanceAs (Decidable (∃ f ∈ (slots pDb)[k]?, _))

instance (pDb : Option FingerprintDatabase) (block : Option Addr) (k : Nat) :
    Decidable (HoldsAt pDb block k) :=
  inferInstanceAs (Decidable (∃ f ∈ (slots pDb)[k]?, _))

section

variable {pDb pDb' : Option FingerprintDatabase} {block : Option Addr} {k : Nat}

theorem HoldsAt.fingerAt (h : HoldsAt pDb block k) : FingerAt pDb k := by
  obtain ⟨f, hslot, hvalid, _⟩ := h
  exact ⟨f, hslot, hvalid⟩

theorem HoldsAt.congr {j : Nat} (h : HoldsAt pDb' block k)
    (hslot : (slots pDb')[k]? = (slots pDb)[j]?) : HoldsAt pDb block j := by
  unfold HoldsAt at h ⊢
  rwa [hslot] at h

theorem FingerAt.lt (h : FingerAt pDb k) : k < fpcDbFingerprintsInSet := by
  obtain ⟨f, hslot, _⟩ := h
  have hlength := length_slots_le pDb
  have hlt := (List.getElem?_eq_some_iff.mp hslot).1
  omega

end

/-- The slot whose finger is in slot `k` once the finger of slot `i` was put in front. -/
def fronted (i k : Nat) : Nat :=
  if k = 0 then i else if k ≤ i then k - 1 else k

/-- Reordering permutes the slots. -/
theorem slots_fpcDbSetTemplateFirst {pDb : Option FingerprintDatabase} {i : Nat}
    {db' : FingerprintDatabase} (h : fpcDbSetTemplateFirst pDb i = .ok db') (k : Nat) :
    (slots (some db'))[k]? = (slots pDb)[fronted i k]? := by
  obtain ⟨db, set, hlt, rfl, hset, rfl⟩ := fpcDbSetTemplateFirst_ok h
  have hlength : (shiftSlots i set.aFingerprintList).toList.length = fpcDbFingerprintsInSet :=
    Vector.length_toList
  rw [slots_withSet, slots_of_set hset, FingerprintSet.withSlots, Vector.toList_setIfInBounds,
    fronted]
  by_cases hfirst : k = 0
  · rw [hfirst, if_pos rfl, List.getElem?_set_self (by omega)]
    simp [hlt]
  · rw [if_neg hfirst, List.getElem?_set_ne (by omega), shiftSlots_getElem? hlt]
    by_cases hmoved : k ≤ i
    · rw [if_pos ⟨by omega, hmoved⟩, if_pos hmoved]
    · rw [if_neg (by omega), if_neg hmoved]

/-! ## Commands -/

/-- A load that gets as far as giving up the database there is: `LOAD_DB` when it names a path,
`LOAD_EMPTY_DB` always, and the `DB_WRITE` that completes a blob which decodes. -/
def Event.loads (e : Event) : Bool :=
  (e.is (.fs .loadDb) && decide (byteArrayStringValid e.msg = .ok true)) ||
    e.is (.bio .loadEmptyDb) ||
    (e.is (.dbBlob .dbWrite) && decide (e.result.status = 0) && decide (e.response = 0))

/-- The index that the matcher gave for the finger it found. -/
def Event.matchedIndex (e : Event) : Nat := e.result.ta.bio.identData.index.toNat

/-- The slot that an identification moves to slot `k`. -/
def Event.movedFrom (e : Event) (k : Nat) : Nat :=
  if reportedMatch e then fronted e.matchedIndex k else k

/-- The slot in which the finger that is in slot `k` after the command was before it, where it was
in the database before. -/
def Event.origin (e : Event) (k : Nat) : Option Nat :=
  if e.loads = false ∧ FingerAt e.pre.bio.userDb (e.movedFrom k) then some (e.movedFrom k)
  else none

/-- The command puts the block into a slot: a finger has it afterwards that had another one, or
was not there. -/
def Event.Puts (e : Event) (block : Option Addr) : Prop :=
  ∃ k < fpcDbFingerprintsInSet, HoldsAt e.result.ta.bio.userDb block k ∧
    ∀ j ∈ e.origin k, ¬ HoldsAt e.pre.bio.userDb block j

instance (e : Event) (block : Option Addr) : Decidable (e.Puts block) :=
  inferInstanceAs (Decidable (∃ k < fpcDbFingerprintsInSet, _))

section

variable {P : Platform} {env : Env} {ta ta' : Ta} {e : Event}

/-- A block that the command does not put into a slot was with the same finger before. -/
theorem step_holdsAt {block : Option Addr} {k : Nat} (h : (taSystem P).step ta e ta')
    (hputs : ¬ e.Puts block) (hholds : HoldsAt ta'.bio.userDb block k) :
    ∃ j, e.origin k = some j ∧ HoldsAt ta.bio.userDb block j := by
  obtain ⟨rfl, _, rfl⟩ := h
  by_contra hnone
  apply hputs
  refine ⟨k, hholds.fingerAt.lt, hholds, ?_⟩
  intro j hj hbefore
  exact hnone ⟨j, hj, hbefore⟩

/-! ## Identifications -/

/-- The reply of an identification that ran. -/
theorem identify_reply {msg : List UInt8} {answer : UInt32} {reply : BioReply}
    (h : bioSwitch P env ta msg answer .identify = .ok reply) :
    ∃ r, fpcTaBioIdentify P env ta = .ok r ∧ reply.ta.bio = r.bio ∧ reply.response = r.status ∧
      ∀ statistics, r.statistics = some statistics →
        field32 reply.msg offIdentifyResult = statistics.result := by
  obtain ⟨r, hidentify, h⟩ := bind_eq_ok.mp h
  refine ⟨r, hidentify, ?_⟩
  split at h
  · next hnone =>
    cases h
    refine ⟨rfl, rfl, ?_⟩
    intro statistics hsome
    rw [hnone] at hsome
    cases hsome
  · next statistics hsome =>
    obtain ⟨msg', hstore, h⟩ := bind_eq_ok.mp h
    cases h
    refine ⟨rfl, rfl, ?_⟩
    intro statistics' hsome'
    rw [hsome] at hsome'
    cases hsome'
    exact (field32_statistics hstore).1

/-- The identification found a finger. -/
def Identified.Found (r : Identified) : Prop :=
  r.status = 0 ∧ r.statistics.map IdentifyStatistics.result = some fpcAlgoIdentifyMatch

/-- An identification found a finger when its reply reports a match. -/
theorem step_identified (h : (taSystem P).step ta e ta') (hcmd : isIdentify e = true) :
    ∃ r, fpcTaBioIdentify P e.env ta = .ok r ∧ ta'.bio = r.bio ∧
      (reportedMatch e = true ↔ r.Found) := by
  obtain ⟨rfl, hroute, rfl⟩ := h
  obtain ⟨_, hrespond⟩ := fpcTaRouteCommand_of_bio P e.env e.pre (is_iff.mp hcmd)
  rw [hrespond] at hroute
  obtain ⟨answer, reply, hswitch, hta, hresponse, hfields⟩ := bioRespond_reply hroute
  obtain ⟨r, hidentify, hbio, hstatus, hresult⟩ := identify_reply hswitch
  refine ⟨r, hidentify, by rw [hta, hbio], ?_⟩
  unfold reportedMatch Event.response Event.resultAt Identified.Found
  rw [hcmd, hresponse, hfields _ (by decide), hstatus]
  cases fpcTaBioIdentify_effect hidentify with
  | matched statistics f hzero hstatistics hmatch _ _ =>
    rw [hresult _ hstatistics, hstatistics, Option.map_some, hmatch, hzero]
    exact iff_of_true rfl ⟨rfl, rfl⟩
  | failed hne hfits _ =>
    rw [toInt32_ofInt32 hfits, decide_eq_false hne]
    simp [hne]
  | missed statistics hstatistics hmiss _ =>
    rw [hresult _ hstatistics, hstatistics, beq_eq_false_iff_ne.mpr hmiss]
    simp [hmiss]

/-- What became of the finger that an identification found: it is in front. -/
def Fronted (pDb : Option FingerprintDatabase) (r : Identified) : Prop :=
  ∃ db, fpcDbSetTemplateFirst pDb r.bio.identData.index.toNat = .ok db ∧ r.bio.userDb = some db

/-- An identification puts the finger it found in front, and moves nothing when it found none. -/
theorem fpcTaBioIdentify_userDb {r : Identified} (h : fpcTaBioIdentify P env ta = .ok r) :
    (r.Found ∧ Fronted ta.bio.userDb r) ∨ (¬ r.Found ∧ r.bio.userDb = ta.bio.userDb) := by
  cases fpcTaBioIdentify_cases h with
  | failed _ _ _ hstatus _ hbio =>
    exact Or.inr ⟨fun hfound => hstatus hfound.1, by rw [hbio]⟩
  | missed hresult => exact Or.inr ⟨fun hfound => hresult (Option.some.inj hfound.2), rfl⟩
  | matched _ _ hresult hrecorded =>
    cases hrecorded with
    | failed _ hstatus hbio =>
      exact Or.inr ⟨fun hfound => hstatus.ne_zero hfound.1, by rw [hbio]⟩
    | found _ _ _ hfront => exact Or.inl ⟨⟨rfl, congrArg some hresult⟩, _, hfront, rfl⟩

/-- An identification moves the fingers as `movedFrom` says. -/
theorem step_identify_slots (h : (taSystem P).step ta e ta') (hcmd : isIdentify e = true)
    (k : Nat) : (slots ta'.bio.userDb)[k]? = (slots ta.bio.userDb)[e.movedFrom k]? := by
  obtain ⟨r, hidentify, hbio, hreported⟩ := step_identified h hcmd
  obtain ⟨rfl, _, rfl⟩ := h
  unfold Event.movedFrom Event.matchedIndex
  rw [hbio]
  cases fpcTaBioIdentify_userDb hidentify with
  | inl hfound =>
    obtain ⟨hfound, db, hfirst, hdb⟩ := hfound
    rw [if_pos (hreported.mpr hfound), hdb]
    exact slots_fpcDbSetTemplateFirst hfirst k
  | inr hnone => rw [if_neg fun hmatch => hnone.1 (hreported.mp hmatch), hnone.2]

/-! ## The list -/

/-- The block that the list of the matcher has at a position. -/
def Bio.listed (bio : Bio) (p : Nat) : Option Addr := bio.list.toList[p]?.bind TplRef.tpl

/-- The position at which the finger of a slot is listed. -/
def listPosition (fs : List Fingerprint) (s : Nat) : Nat :=
  (fs.take s).countP (·.valid == fpcDbEntryValid)

@[simp] theorem listPosition_zero (fs : List Fingerprint) : listPosition fs 0 = 0 := rfl

theorem listPosition_succ_of_valid {g : Fingerprint} (h : g.valid = fpcDbEntryValid)
    (fs : List Fingerprint) (s : Nat) : listPosition (g :: fs) (s + 1) = listPosition fs s + 1 := by
  unfold listPosition
  rw [List.take_succ_cons]
  exact List.countP_cons_of_pos (beq_iff_eq.mpr h)

theorem listPosition_succ_of_invalid {g : Fingerprint} (h : g.valid ≠ fpcDbEntryValid)
    (fs : List Fingerprint) (s : Nat) : listPosition (g :: fs) (s + 1) = listPosition fs s := by
  unfold listPosition
  rw [List.take_succ_cons]
  exact List.countP_cons_of_neg (by simp [h])

/-- The identification gets as far as filling the list. -/
def Event.FillsList (e : Event) : Prop :=
  e.pre.bio.userDb ≠ none ∧ fpcTaBioQualifyImage e.env = fpcCaptureOk

instance (e : Event) : Decidable e.FillsList := inferInstanceAs (Decidable (_ ∧ _))

/-- The templates of the fingers are copied one behind the other, from the first free entry on, and
the entries in front of it stay. Induction on the slots. -/
theorem copyTemplates_listed {sizeList : Nat} {fs : List Fingerprint}
    (list : Vector TplRef fpcDbFingerprintsInSet) (validCount : Nat)
    (hroom : validCount + fs.length ≤ sizeList) (hsize : sizeList ≤ fpcDbFingerprintsInSet) :
    (∀ p < validCount,
        (copyTemplates sizeList fs list validCount).1.toList[p]? = list.toList[p]?) ∧
      validCount ≤ (copyTemplates sizeList fs list validCount).2 ∧
      ∀ s f, fs[s]? = some f → f.valid = fpcDbEntryValid →
        (copyTemplates sizeList fs list validCount).1.toList[validCount + listPosition fs s]?
            = some f.tplRef ∧
          validCount + listPosition fs s < (copyTemplates sizeList fs list validCount).2 := by
  induction fs generalizing list validCount with
  | nil =>
    refine ⟨fun p _ => rfl, le_rfl, ?_⟩
    intro s f hs
    cases hs
  | cons g fs ih =>
    rw [List.length_cons] at hroom
    unfold copyTemplates
    rw [if_neg (by omega)]
    split
    · next hvalid =>
      obtain ⟨hkept, hcount, hlisted⟩ :=
        ih (list.setIfInBounds validCount g.tplRef) (validCount + 1) (by omega)
      rw [Vector.toList_setIfInBounds] at hkept
      refine ⟨?_, by omega, ?_⟩
      · intro p hp
        rw [hkept p (by omega), List.getElem?_set_ne (by omega)]
      · intro s f hs hf
        cases s with
        | zero =>
          cases hs
          simp only [listPosition_zero, Nat.add_zero]
          refine ⟨?_, by omega⟩
          rw [hkept validCount (by omega),
            List.getElem?_set_self (by rw [Vector.length_toList]; omega)]
        | succ s =>
          rw [listPosition_succ_of_valid hvalid, Nat.add_comm (listPosition fs s), ← Nat.add_assoc]
          exact hlisted s f hs hf
    · next hinvalid =>
      obtain ⟨hkept, hcount, hlisted⟩ := ih list validCount (by omega)
      refine ⟨hkept, hcount, ?_⟩
      intro s f hs hf
      cases s with
      | zero =>
        cases hs
        exact absurd hf hinvalid
      | succ s =>
        rw [listPosition_succ_of_invalid hinvalid]
        exact hlisted s f hs hf

/-- The list that the database is copied into has each finger at its position. -/
theorem fpcDbGetAllTemplates_listed {pDb : Option FingerprintDatabase}
    {list list' : Vector TplRef fpcDbFingerprintsInSet} {sizeList s : Nat} {f : Fingerprint}
    (h : fpcDbGetAllTemplates pDb list fpcDbFingerprintsInSet = .ok (list', sizeList))
    (hslot : (slots pDb)[s]? = some f) (hvalid : f.valid = fpcDbEntryValid) :
    list'.toList[listPosition (slots pDb) s]? = some f.tplRef ∧
      listPosition (slots pDb) s < sizeList := by
  have hroom : 0 + (slots pDb).length ≤ fpcDbFingerprintsInSet := by
    rw [Nat.zero_add]
    exact length_slots_le pDb
  have hlisted := (copyTemplates_listed list 0 hroom le_rfl).2.2 s f hslot hvalid
  rw [Nat.zero_add] at hlisted
  cases pDb with
  | none => cases h
  | some db =>
    injection h with h
    rwa [h] at hlisted

theorem recordMatch_list {imageTimestamp : UInt64} {bio : Bio} {statistics : IdentifyStatistics}
    {r : Identified} (h : recordMatch env imageTimestamp bio statistics = .ok r) :
    r.bio.list = bio.list ∧ r.bio.sizeList = bio.sizeList := by
  cases recordMatch_cases h with
  | failed _ _ hbio =>
    rw [hbio]
    exact ⟨rfl, rfl⟩
  | found _ _ _ _ => exact ⟨rfl, rfl⟩

/-- Where an identification gets as far as filling the list, it leaves the list that it copied. -/
theorem fpcTaBioIdentify_list {r : Identified} (h : fpcTaBioIdentify P env ta = .ok r)
    (hdb : ta.bio.userDb ≠ none) (hquality : fpcTaBioQualifyImage env = fpcCaptureOk) :
    fpcDbGetAllTemplates ta.bio.userDb ta.bio.list fpcDbFingerprintsInSet
      = .ok (r.bio.list, r.bio.sizeList) := by
  unfold fpcTaBioIdentify at h
  dsimp only at h
  rw [if_neg hdb, if_neg (not_not.mpr hquality)] at h
  obtain ⟨copied, hcopied, h⟩ := bind_eq_ok.mp h
  rw [hcopied]
  split at h
  · cases h
    rfl
  · split at h
    · cases h
      rfl
    · split at h
      · cases h
        rfl
      · split at h
        · obtain ⟨hlist, hsize⟩ := recordMatch_list h
          rw [hlist, hsize]
        · cases h
          rfl

/-- The finger of a slot is on the list that an identification fills, at its position. -/
theorem step_identify_list {block : Option Addr} {s : Nat} (h : (taSystem P).step ta e ta')
    (hcmd : isIdentify e = true) (hfills : e.FillsList) (hholds : HoldsAt ta.bio.userDb block s) :
    ta'.bio.listed (listPosition (slots ta.bio.userDb) s) = block ∧
      listPosition (slots ta.bio.userDb) s < ta'.bio.sizeList := by
  obtain ⟨r, hidentify, hbio, _⟩ := step_identified h hcmd
  obtain ⟨rfl, _, rfl⟩ := h
  obtain ⟨f, hslot, hvalid, hblock⟩ := hholds
  have hcopied := fpcTaBioIdentify_list hidentify hfills.1 hfills.2
  obtain ⟨hlisted, hlt⟩ := fpcDbGetAllTemplates_listed hcopied hslot hvalid
  rw [hbio]
  refine ⟨?_, hlt⟩
  rw [Bio.listed, hlisted, Option.bind_some, hblock]

/-- An identification leaves every block with its finger. -/
theorem step_identify_holdsAt {block : Option Addr} {k : Nat} (h : (taSystem P).step ta e ta')
    (hcmd : isIdentify e = true) (hholds : HoldsAt ta'.bio.userDb block k) :
    e.origin k = some (e.movedFrom k) ∧ HoldsAt ta.bio.userDb block (e.movedFrom k) := by
  have hbefore := hholds.congr (step_identify_slots h hcmd k)
  refine ⟨?_, hbefore⟩
  obtain ⟨rfl, _, _⟩ := h
  refine if_pos ⟨?_, hbefore.fingerAt⟩
  rw [Event.loads, is_unique hcmd (by decide), is_unique hcmd (by decide),
    is_unique hcmd (by decide)]
  rfl

end

end Fpc
