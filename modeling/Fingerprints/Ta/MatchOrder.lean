import Fingerprints.Ta.FingerLineage
import Mathlib.Data.List.Perm.Basic

/-!
# Where a match moves the fingers

The matcher answers with a position of the list it was handed, which has the fingers without the
free slots between them. `fpc_ta_bio_identify` looks the slot of the finger up by its template, for
the id that it answers, but reorders the database by the position.

* **`fpcTaBioIdentify_found`**: what an identification that found a finger has looked up;
* **`fronted_eq_iff`**: when it makes the same of the slots that take one another's place in front;
* **`matchInFront_iff`**: when the finger that it found comes to the front, and the others keep
  their order.
-/

namespace Fpc

open Wire Wire.Outcome

/-! ## The list -/

/-- The fingers of some slots, in their order. -/
def fingersOf (fs : List Fingerprint) : List Fingerprint :=
  fs.filter (·.valid == fpcDbEntryValid)

/-- The templates of the fingers are copied one behind the other, and the entries in front of them
and behind them stay. Induction on the slots. -/
theorem copyTemplates_eq {sizeList : Nat} {fs : List Fingerprint}
    (list : Vector TplRef fpcDbFingerprintsInSet) (validCount : Nat)
    (hroom : validCount + fs.length ≤ sizeList) (hsize : sizeList ≤ fpcDbFingerprintsInSet) :
    (copyTemplates sizeList fs list validCount).1.toList =
        list.toList.take validCount ++ ((fingersOf fs).map Fingerprint.tplRef ++
          list.toList.drop (validCount + (fingersOf fs).length)) ∧
      (copyTemplates sizeList fs list validCount).2 = validCount + (fingersOf fs).length := by
  induction fs generalizing list validCount with
  | nil => simp [copyTemplates, fingersOf]
  | cons g fs ih =>
    rw [List.length_cons] at hroom
    unfold copyTemplates
    rw [if_neg (by omega)]
    by_cases hvalid : g.valid = fpcDbEntryValid
    · rw [if_pos hvalid]
      have hfingers : fingersOf (g :: fs) = g :: fingersOf fs :=
        List.filter_cons_of_pos (beq_iff_eq.mpr hvalid)
      obtain ⟨hlist, hcount⟩ :=
        ih (list.setIfInBounds validCount g.tplRef) (validCount + 1) (by omega)
      have hlt : validCount < list.toList.length := by
        rw [Vector.length_toList]
        omega
      have htake : (list.toList.set validCount g.tplRef).take (validCount + 1)
          = list.toList.take validCount ++ [g.tplRef] := by
        rw [List.take_add_one, List.getElem?_set_self hlt, List.take_set_of_le le_rfl]
        rfl
      rw [hlist, hcount, hfingers, Vector.toList_setIfInBounds, htake,
        List.drop_set_of_lt (by omega), List.length_cons]
      refine ⟨?_, by omega⟩
      rw [show validCount + 1 + (fingersOf fs).length = validCount + ((fingersOf fs).length + 1)
        from by omega]
      simp
    · rw [if_neg hvalid]
      have hfingers : fingersOf (g :: fs) = fingersOf fs :=
        List.filter_cons_of_neg (by simp [hvalid])
      rw [hfingers]
      exact ih list validCount (by omega)

/-- The block that the list has at a position once an identification has filled it: that of the
finger which comes there, or else the one that it had. -/
def Bio.nextListed (bio : Bio) (k : Nat) : Option Addr :=
  match (fingersOf (slots bio.userDb))[k]? with
  | some f => f.tplRef.tpl
  | none => bio.listed k

/-- What an identification lists. -/
theorem fpcDbGetAllTemplates_nextListed {bio : Bio}
    {list : Vector TplRef fpcDbFingerprintsInSet} {sizeList : Nat}
    (h : fpcDbGetAllTemplates bio.userDb bio.list fpcDbFingerprintsInSet = .ok (list, sizeList))
    (k : Nat) : list.toList[k]?.bind TplRef.tpl = bio.nextListed k := by
  unfold fpcDbGetAllTemplates at h
  split at h
  · cases h
  · next db hdb =>
    have hroom : 0 + (slots (some db)).length ≤ fpcDbFingerprintsInSet := by
      rw [Nat.zero_add]
      exact length_slots_le _
    obtain ⟨hlist, _⟩ := copyTemplates_eq bio.list 0 hroom le_rfl
    rw [Outcome.ok.injEq, hdb] at h
    rw [h] at hlist
    rw [hlist]
    unfold Bio.nextListed Bio.listed
    rw [hdb, List.take_zero, List.nil_append, Nat.zero_add]
    by_cases hk : k < (fingersOf (slots (some db))).length
    · rw [List.getElem?_append_left (by rwa [List.length_map]), List.getElem?_map,
        List.getElem?_eq_getElem hk]
      rfl
    · rw [List.getElem?_append_right (by rw [List.length_map]; omega), List.getElem?_drop,
        List.getElem?_eq_none (by omega : (fingersOf (slots (some db))).length ≤ k),
        List.length_map, Nat.add_sub_cancel' (by omega)]

/-- The slot in which the finger at a position is looked for: the first whose finger has the block
of the position. -/
def Bio.listedSlot (bio : Bio) (k : Nat) : Option Nat :=
  (slots bio.userDb).findIdx? fun f =>
    f.valid == fpcDbEntryValid && f.tplRef.tpl == bio.nextListed k

/-! ## What an identification looks up -/

/-- The position that the matcher reports. -/
def reportedPosition (P : Platform) (env : Env) (ta : Ta) : Nat :=
  (env.algo.identify (fpcTaLivenessEnabled P ta.hwAuth)).2.index.toNat

instance : DecidablePred Identified.Found :=
  fun _ => inferInstanceAs (Decidable (_ ∧ _))

/-- What an identification that found a finger has looked up: the slot of the finger by its block,
and the id in it. It reorders the slots by the position. -/
structure FoundIn (ta : Ta) (r : Identified) (k s : Nat) (f : Fingerprint) : Prop where
  listed : ta.bio.listedSlot k = some s
  finger : (slots ta.bio.userDb)[s]? = some f
  valid : f.valid = fpcDbEntryValid
  statistics : r.statistics.map (·.index.toNat) = some s
  id : r.id = fpcDbTrimId32 f.fingerprintId
  reordered : ∃ db, fpcDbSetTemplateFirst ta.bio.userDb k = .ok db ∧ r.bio.userDb = some db

section

variable {P : Platform} {env : Env} {ta : Ta} {r : Identified}

theorem firstIndex_findIdx {pDb : Option FingerprintDatabase} {p : Fingerprint → Bool} {i : Nat}
    (h : firstIndex pDb p = .ok i) :
    (slots pDb).findIdx? (fun f => f.valid == fpcDbEntryValid && p f) = some i := by
  unfold firstIndex at h
  split at h
  · cases h
  · split at h
    · next hfound =>
      cases h
      exact hfound
    · cases h

/-- **What an identification that found a finger has looked up**, for the position that the matcher
reported. -/
theorem fpcTaBioIdentify_found (h : fpcTaBioIdentify P env ta = .ok r) (hfound : r.Found) :
    ∃ s f, FoundIn ta r (reportedPosition P env ta) s f := by
  cases fpcTaBioIdentify_cases h with
  | failed _ _ _ hstatus _ _ => exact absurd hfound.1 hstatus
  | missed hresult => exact absurd (Option.some.inj hfound.2) hresult
  | @matched list sizeList identData _ hcopied hdata hresult hrecorded =>
    cases hrecorded with
    | failed _ hstatus _ => exact absurd hfound.1 hstatus.ne_zero
    | @found s f db hlt hindex hfinger hfront =>
      obtain ⟨g, hslot, hvalid, _⟩ := firstIndex_ok hindex
      have hfg : g = f := by
        rw [(getFinger_ok hfinger).1] at hslot
        exact (Option.some.inj hslot).symm
      rw [hfg] at hslot hvalid
      have hposition : reportedPosition P env ta = identData.index.toNat := by
        rw [reportedPosition, hdata]
      have hblock : list.toList[identData.index.toNat]?.bind TplRef.tpl
          = list[identData.index.toNat].tpl := by
        rw [List.getElem?_eq_getElem (by rwa [Vector.length_toList]), Vector.getElem_toList]
        rfl
      rw [hposition]
      refine ⟨s, f, ?_, hslot, hvalid, ?_, rfl, db, hfront, rfl⟩
      · unfold Bio.listedSlot
        rw [← fpcDbGetAllTemplates_nextListed hcopied, hblock]
        exact firstIndex_findIdx hindex
      · show some (UInt32.ofNat s).toNat = some s
        rw [UInt32.toNat_ofNat_of_lt' (slotIndex_lt hslot)]

end

/-! ## The slots afterwards -/

/-- The slot was put in front, those below it moved up by one, and the others stayed. -/
structure MovedToFront (fs fs' : List Fingerprint) (s : Nat) : Prop where
  front : fs'[0]? = fs[s]?
  lower : ∀ j < s, fs'[j + 1]? = fs[j]?
  others : ∀ j, s < j → fs'[j]? = fs[j]?
  perm : fs'.Perm fs

theorem MovedToFront.getElem? {fs fs' : List Fingerprint} {s : Nat} (h : MovedToFront fs fs' s)
    (k : Nat) : fs'[k]? = fs[fronted s k]? := by
  unfold fronted
  cases k with
  | zero => exact h.front
  | succ k =>
    rw [if_neg (by omega)]
    by_cases hk : k + 1 ≤ s
    · rw [if_pos hk]
      exact h.lower k (by omega)
    · rw [if_neg hk]
      exact h.others (k + 1) (by omega)

/-- Putting a slot in front permutes the slots. -/
theorem perm_of_fronted {fs fs' : List Fingerprint} {s : Nat} (hs : s < fs.length)
    (h : ∀ k, fs'[k]? = fs[fronted s k]?) : fs'.Perm fs := by
  have heq : fs' = fs[s] :: fs.eraseIdx s := by
    apply List.ext_getElem?
    intro k
    rw [h k]
    unfold fronted
    cases k with
    | zero =>
      rw [if_pos rfl, List.getElem?_cons_zero, List.getElem?_eq_getElem hs]
    | succ k =>
      rw [if_neg (by omega), List.getElem?_cons_succ, List.getElem?_eraseIdx]
      by_cases hk : k < s
      · rw [if_pos (by omega), if_pos hk]
        rfl
      · rw [if_neg (by omega), if_neg hk]
  rw [heq]
  exact List.getElem_cons_eraseIdx_perm hs

theorem movedToFront_of_fronted {fs fs' : List Fingerprint} {s : Nat} (hs : s < fs.length)
    (h : ∀ k, fs'[k]? = fs[fronted s k]?) : MovedToFront fs fs' s := by
  refine ⟨h 0, ?_, ?_, perm_of_fronted hs h⟩
  · intro j hj
    rw [h (j + 1)]
    unfold fronted
    rw [if_neg (by omega), if_pos (by omega)]
    rfl
  · intro j hj
    rw [h j]
    unfold fronted
    rw [if_neg (by omega), if_neg (by omega)]

/-- Two slots that are put in front come to the same exactly when the slots from the lower one to
the other hold the same. -/
theorem fronted_eq_iff {fs : List Fingerprint} {a b : Nat} (hab : a ≤ b) :
    (∀ k, fs[fronted a k]? = fs[fronted b k]?) ↔ ∀ j, a ≤ j → j ≤ b → fs[j]? = fs[a]? := by
  unfold fronted
  constructor
  · intro h j haj hjb
    -- behind the lower slot the one ordering has a slot where the other has the one before it
    induction j, haj using Nat.le_induction with
    | base => rfl
    | succ j haj ih =>
      have hstep := h (j + 1)
      rw [if_neg (by omega), if_neg (by omega), if_neg (by omega), if_pos hjb] at hstep
      rw [hstep]
      exact ih (by omega)
  · intro h k
    by_cases hzero : k = 0
    · rw [if_pos hzero, if_pos hzero, h b hab le_rfl]
    · rw [if_neg hzero, if_neg hzero]
      by_cases hka : k ≤ a
      · rw [if_pos hka, if_pos (by omega)]
      · rw [if_neg hka]
        by_cases hkb : k ≤ b
        · rw [if_pos hkb, h k (by omega) hkb, h (k - 1) (by omega) (by omega)]
        · rw [if_neg hkb]

/-- The finger that an identification answers with is in front afterwards, the fingers in lower
slots have moved up in their order, and the other slots are as they were. -/
def MatchInFront (ta : Ta) (r : Identified) : Prop :=
  ∃ s f, r.statistics.map (·.index.toNat) = some s ∧ (slots ta.bio.userDb)[s]? = some f ∧
    f.valid = fpcDbEntryValid ∧ fpcDbTrimId32 f.fingerprintId = r.id ∧
    MovedToFront (slots ta.bio.userDb) (slots r.bio.userDb) s

/-- The finger at a position of the list is looked for, and found, in the slot of that number, or in
a lower one from which on all slots up to that number hold the same. -/
def ListedInPlace (bio : Bio) (k : Nat) : Prop :=
  ∃ s ≤ k, bio.listedSlot k = some s ∧
    ∀ j, s ≤ j → j ≤ k → (slots bio.userDb)[j]? = (slots bio.userDb)[s]?

/-- **When a match comes to the front**: exactly when the position that the matcher reported is
that of the slot too. -/
theorem matchInFront_iff {P : Platform} {env : Env} {ta : Ta} {r : Identified}
    (h : fpcTaBioIdentify P env ta = .ok r) (hfound : r.Found) :
    MatchInFront ta r ↔ ListedInPlace ta.bio (reportedPosition P env ta) := by
  obtain ⟨s, f, hin⟩ := fpcTaBioIdentify_found h hfound
  obtain ⟨db, hreordered, hdb⟩ := hin.reordered
  have hslots := slots_fpcDbSetTemplateFirst hreordered
  rw [← hdb] at hslots
  generalize reportedPosition P env ta = k at hin hreordered hslots ⊢
  have hs := (List.getElem?_eq_some_iff.mp hin.finger).1
  have hfirst := List.findIdx?_eq_some_iff_getElem.mp hin.listed
  -- it is a matter of what the two slots come to when they are put in front
  have hmoved : MatchInFront ta r ↔
      ∀ j, (slots ta.bio.userDb)[fronted k j]? = (slots ta.bio.userDb)[fronted s j]? := by
    constructor
    · rintro ⟨s', f', hstatistics, _, _, _, hfront⟩ j
      cases hin.statistics.symm.trans hstatistics
      rw [← hslots j]
      exact hfront.getElem? j
    · intro hsame
      refine ⟨s, f, hin.statistics, hin.finger, hin.valid, hin.id.symm, ?_⟩
      apply movedToFront_of_fronted hs
      intro j
      rw [hslots j, hsame j]
  rw [hmoved]
  unfold ListedInPlace
  constructor
  · intro hsame
    have hsk : s ≤ k := by
      by_contra hlt
      -- the slot at the position would hold the same finger, and would have been found before
      have hk := (fronted_eq_iff (by omega : k ≤ s)).mp hsame s (by omega) le_rfl
      obtain ⟨_, hblock, hbefore⟩ := hfirst
      have heq : (slots ta.bio.userDb)[k] = (slots ta.bio.userDb)[s] := by
        rw [List.getElem?_eq_getElem hs, List.getElem?_eq_getElem (by omega)] at hk
        exact (Option.some.inj hk).symm
      apply hbefore k (by omega)
      rw [heq]
      exact hblock
    refine ⟨s, hsk, hin.listed, ?_⟩
    exact (fronted_eq_iff hsk).mp fun j => (hsame j).symm
  · rintro ⟨s', hsk, hlisted, hbetween⟩
    cases hin.listed.symm.trans hlisted
    intro j
    exact ((fronted_eq_iff hsk).mpr hbetween j).symm

/-! ## A database with a gap -/

/-- A state with the given slots in the active set. -/
def taWithSlots (fs : List Fingerprint) : Ta :=
  { bio :=
      { userDb := some
          { addr := 0x1000, databaseId := 0,
            pFingerprintSet := some { FingerprintSet.zeroed 0x2000 with
              aFingerprintList := ofList fpcDbFingerprintsInSet Fingerprint.zeroed fs } },
        activeSetKey := 0, identData := IdentifyData.zeroed, enrollData := EnrollData.zeroed,
        list := Vector.replicate fpcDbFingerprintsInSet { tpl := none, size := 0 }, sizeList := 0,
        matchResult := fpcMatchResultReset },
    hwAuth := fpcTaHwAuthInit, transfer := Transfer.closed,
    pnSecurity := { outgoingChallenge := 0, challengeTimestamp := 0, incomingToken := .zeroed },
    imageTimestamp := 0 }

/-- A finger with an id of one byte and a block of its own. -/
def fingerOf (b : UInt8) : Fingerprint :=
  .enrolledWith (Id256.filled b) 1 (Template.ofList (0x10000 * b.toNat) 1 [b])

/-- The matcher finds the finger at a position of its list. -/
def Env.matching (k : UInt32) : Env := { Env.willing with
  algo := { Env.willing.algo with
    identify := fun _ =>
      (0, { IdentifyData.zeroed with result := fpcAlgoIdentifyMatch, index := k }) } }

/-- The second finger of a database without a gap comes to the front. -/
theorem matching_second_inFront :
    ∃ r, fpcTaBioIdentify (.signing []) (.matching 1) (taWithSlots [fingerOf 1, fingerOf 2])
        = .ok r ∧ r.Found ∧ MatchInFront (taWithSlots [fingerOf 1, fingerOf 2]) r := by
  obtain ⟨r, hr, hfound⟩ := exists_of_decided Identified.Found
    (x := fpcTaBioIdentify (.signing []) (.matching 1) (taWithSlots [fingerOf 1, fingerOf 2]))
    (by decide +kernel)
  refine ⟨r, hr, hfound, (matchInFront_iff hr hfound).mpr ?_⟩
  refine ⟨1, by decide, by decide +kernel, ?_⟩
  intro j hle hge
  rw [show j = 1 from le_antisymm hge hle]

/-- The finger in the second slot was found, but is not in front. -/
def SecondStays (ta : Ta) (r : Identified) : Prop :=
  r.Found ∧ r.statistics.map (·.index.toNat) = some 1 ∧
    (slots r.bio.userDb)[0]? ≠ (slots ta.bio.userDb)[1]?

instance (ta : Ta) : DecidablePred (SecondStays ta) :=
  fun _ => inferInstanceAs (Decidable (_ ∧ _ ∧ _))

/-- The first finger was deleted. The second one is listed first, and stays where it is. -/
theorem matching_gap_stays :
    ¬ ∀ P env ta r, fpcTaBioIdentify P env ta = .ok r → r.Found → MatchInFront ta r := by
  intro h
  obtain ⟨r, hr, hfound, hindex, hstays⟩ :=
    exists_of_decided (SecondStays (taWithSlots [(fingerOf 1).wiped, fingerOf 2]))
      (x := fpcTaBioIdentify (.signing []) (.matching 0)
        (taWithSlots [(fingerOf 1).wiped, fingerOf 2])) (by decide +kernel)
  obtain ⟨s, f, hstatistics, _, _, _, hfront⟩ := h _ _ _ _ hr hfound
  cases hindex.symm.trans hstatistics
  exact hstays hfront.front

end Fpc
