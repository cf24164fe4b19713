import Fingerprints.Db.AddFingerprint
import Fingerprints.Db.DecodeBlocks

/-!
# Which slots own a template

A slot that is marked valid owns the block of its template, a slot that is marked free owns none,
and no block is owned twice. The first two hold whatever the memory does; the last needs a heap
that gives out no block that is in use, which `KeepsOwnership` takes as its parameter.

* **`KeepsOwnership.set`**, **`KeepsOwnership.perm`**: the two ways in which slots change;
* **`fpcDbAddFingerprint_keepsOwnership`**, **`fpcDbDeleteFingerprint_keepsOwnership`**,
  **`fpcDbCreate_owned`**: what the functions of `fpc_db.c` do.
-/

namespace Fpc

open Wire Wire.Outcome

/-! ## Slots -/

/-- The slot is valid and has a template, or is free and has none. -/
def Fingerprint.Owned (f : Fingerprint) : Prop :=
  (f.valid = fpcDbEntryValid ∧ f.ftemplate.isSome = true) ∨
    (f.valid = fpcDbEntryInvalid ∧ f.ftemplate = none)

instance (f : Fingerprint) : Decidable f.Owned := inferInstanceAs (Decidable (_ ∨ _))

def SlotsOwned (fs : List Fingerprint) : Prop := ∀ f ∈ fs, f.Owned

theorem Fingerprint.Owned.flagged {f : Fingerprint} (h : f.Owned) : f.Flagged := by
  rcases h with ⟨hvalid, _⟩ | ⟨hinvalid, _⟩
  · exact Or.inr hvalid
  · exact Or.inl hinvalid

/-- A valid slot has a block. -/
theorem Fingerprint.Owned.block {f : Fingerprint} (h : f.Owned) (hvalid : f.valid = fpcDbEntryValid) :
    ∃ a, f.tplRef.tpl = some a ∧ f.blocks = [a] := by
  rcases h with ⟨_, hsome⟩ | ⟨hinvalid, _⟩
  · obtain ⟨tpl, htpl⟩ := Option.isSome_iff_exists.mp hsome
    refine ⟨tpl.tpl, ?_, ?_⟩
    · rw [Fingerprint.tplRef, htpl, Option.map_some]
    · rw [Fingerprint.blocks, htpl, Option.map_some, Option.toList_some]
  · rw [hinvalid] at hvalid
    cases hvalid

theorem Fingerprint.Owned.free {f : Fingerprint} (h : f.Owned)
    (hinvalid : f.valid = fpcDbEntryInvalid) : f.ftemplate = none := by
  rcases h with ⟨hvalid, _⟩ | ⟨_, hnone⟩
  · rw [hinvalid] at hvalid
    cases hvalid
  · exact hnone

theorem slotsOwned_nil : SlotsOwned [] := by
  intro f hf
  cases hf

theorem Fingerprint.owned_zeroed : Fingerprint.zeroed.Owned := Or.inr ⟨rfl, rfl⟩

theorem Fingerprint.owned_wiped (f : Fingerprint) : f.wiped.Owned := Or.inr ⟨rfl, rfl⟩

theorem Fingerprint.owned_enrolledWith (id : Id256) (user : UInt64) (tpl : Template) :
    (Fingerprint.enrolledWith id user tpl).Owned := Or.inl ⟨rfl, rfl⟩

@[simp] theorem Fingerprint.blocks_enrolledWith (id : Id256) (user : UInt64) (tpl : Template) :
    (Fingerprint.enrolledWith id user tpl).blocks = [tpl.tpl] := rfl

@[simp] theorem Fingerprint.blocks_wiped (f : Fingerprint) : f.wiped.blocks = [] := rfl

/-- A slot has one block at most. -/
theorem Fingerprint.blocks_cases (f : Fingerprint) : f.blocks = [] ∨ ∃ a, f.blocks = [a] := by
  unfold Fingerprint.blocks
  cases f.ftemplate with
  | none => exact Or.inl rfl
  | some tpl => exact Or.inr ⟨tpl.tpl, rfl⟩

/-- Blocks that are distinct tell the slots apart. -/
theorem slot_of_block {fs : List Fingerprint} (h : (templateBlocks fs).Nodup) {i j : Nat}
    {f g : Fingerprint} {a : Addr} (hf : fs[i]? = some f) (hg : fs[j]? = some g)
    (ha : a ∈ f.blocks) (hb : a ∈ g.blocks) : i = j := by
  unfold templateBlocks at h
  obtain ⟨_, hpairs⟩ := List.nodup_flatMap.mp h
  obtain ⟨hi, rfl⟩ := List.getElem?_eq_some_iff.mp hf
  obtain ⟨hj, rfl⟩ := List.getElem?_eq_some_iff.mp hg
  rw [List.pairwise_iff_getElem] at hpairs
  rcases Nat.lt_trichotomy i j with hlt | heq | hgt
  · exact absurd hb (hpairs i j hi hj hlt ha)
  · exact heq
  · exact absurd ha (hpairs j i hj hi hgt hb)

/-! ## Changes -/

/-- A change keeps the slots owned; and it keeps their blocks distinct, if the memory that it got
was not in use. -/
structure KeepsOwnership (fresh : Prop) (fs fs' : List Fingerprint) : Prop where
  owned : SlotsOwned fs → SlotsOwned fs'
  distinct : fresh → (templateBlocks fs).Nodup → (templateBlocks fs').Nodup

section

variable {fresh fresh' : Prop} {fs fs' fs'' : List Fingerprint}

theorem KeepsOwnership.refl (fresh : Prop) (fs : List Fingerprint) :
    KeepsOwnership fresh fs fs where
  owned h := h
  distinct _ h := h

theorem KeepsOwnership.trans (h : KeepsOwnership fresh fs fs')
    (h' : KeepsOwnership fresh' fs' fs'') (himp : fresh → fresh') :
    KeepsOwnership fresh fs fs'' where
  owned hfs := h'.owned (h.owned hfs)
  distinct hfresh hfs := h'.distinct (himp hfresh) (h.distinct hfresh hfs)

theorem KeepsOwnership.mono (h : KeepsOwnership fresh fs fs') (himp : fresh' → fresh) :
    KeepsOwnership fresh' fs fs' where
  owned := h.owned
  distinct hfresh := h.distinct (himp hfresh)

theorem KeepsOwnership.nil (fresh : Prop) (fs : List Fingerprint) :
    KeepsOwnership fresh fs [] where
  owned _ := slotsOwned_nil
  distinct _ _ := List.nodup_nil

/-- One slot is written: what it owns, it owned before, or no slot did. -/
theorem KeepsOwnership.set {i : Nat} {old new : Fingerprint} (hold : fs[i]? = some old)
    (hnew : old.Owned → new.Owned)
    (hblocks : ∀ a ∈ new.blocks, a ∈ old.blocks ∨ (fresh → a ∉ templateBlocks fs)) :
    KeepsOwnership fresh fs (fs.set i new) where
  owned hfs := by
    intro f hf
    cases List.mem_or_eq_of_mem_set hf with
    | inl hmem => exact hfs f hmem
    | inr heq =>
      rw [heq]
      exact hnew (hfs old (List.mem_of_getElem? hold))
  distinct hfresh hfs := by
    have hcount := templateBlocks_set hold new
    have hle : (templateBlocks (fs.set i new) : Multiset Addr)
        ≤ templateBlocks fs + new.blocks := by
      rw [← hcount]
      exact Multiset.le_add_right _ _
    rw [← Multiset.coe_nodup]
    obtain hnone | ⟨a, ha⟩ := new.blocks_cases
    · rw [hnone, Multiset.coe_nil, add_zero] at hle
      exact Multiset.nodup_of_le hle hfs
    · rw [ha] at hblocks hle hcount
      rcases hblocks a (List.mem_singleton_self a) with hsame | hnot
      · -- the slot keeps its block
        have hcases := old.blocks_cases
        rcases hcases with hold' | ⟨b, hb⟩
        · rw [hold'] at hsame
          cases hsame
        · rw [hb, List.mem_singleton] at hsame
          rw [hb, ← hsame] at hcount
          rw [add_right_cancel hcount]
          exact hfs
      · apply Multiset.nodup_of_le hle
        rw [Multiset.coe_add, Multiset.coe_nodup, List.nodup_append]
        refine ⟨hfs, List.nodup_singleton a, ?_⟩
        intro b hb c hc hbc
        rw [List.mem_singleton.mp hc] at hbc
        rw [hbc] at hb
        exact hnot hfresh hb

/-- The slots are put into another order. -/
theorem KeepsOwnership.perm (fresh : Prop) (h : fs'.Perm fs) : KeepsOwnership fresh fs fs' where
  owned hfs := by
    intro f hf
    exact hfs f (h.mem_iff.mp hf)
  distinct _ hfs := (h.flatMap_right Fingerprint.blocks).nodup_iff.mpr hfs

end

/-! ## Adding and deleting -/

/-- The slots of a set that was just allocated own nothing. -/
theorem slotsOrFree_keepsOwnership (fresh : Prop) (db : FingerprintDatabase) :
    KeepsOwnership fresh (slots (some db)) (slotsOrFree db) := by
  unfold slotsOrFree
  cases hset : db.pFingerprintSet with
  | some set =>
    rw [slots_of_set hset]
    exact .refl _ _
  | none =>
    refine ⟨?_, ?_⟩
    · intro _ f hf
      rw [List.eq_of_mem_replicate hf]
      exact Fingerprint.owned_zeroed
    · intro _ _
      rw [templateBlocks_replicate_zeroed]
      exact List.nodup_nil

theorem templateBlocks_slotsOrFree (db : FingerprintDatabase) :
    templateBlocks (slotsOrFree db) = templateBlocks (slots (some db)) := by
  unfold slotsOrFree
  cases hset : db.pFingerprintSet with
  | some set => rw [slots_of_set hset]
  | none =>
    rw [templateBlocks_replicate_zeroed, slots_withoutSet_of hset]
    rfl

/-- The slot that is written owns the block of the template afterwards, or nothing as before. -/
theorem fpcDbAddFingerprint_keepsOwnership (env : DbEnv) (pDb : Option FingerprintDatabase)
    (key : UInt32) (user : UInt64) (tpl : Template) :
    KeepsOwnership (tpl.tpl ∉ templateBlocks (slots pDb)) (slots pDb)
      (slots (fpcDbAddFingerprint env pDb key user tpl).pDb) := by
  have hadded := fpcDbAddFingerprint_slots env pDb key user tpl
  generalize slots (fpcDbAddFingerprint env pDb key user tpl).pDb = fs at hadded ⊢
  cases hadded with
  | kept _ => exact .refl _ _
  | undrawn hdb hold _ _ =>
    rw [hdb]
    refine (slotsOrFree_keepsOwnership _ _).trans (KeepsOwnership.set hold ?_ ?_) id
    · exact id
    · intro a ha
      exact Or.inl ha
  | drawn hdb hold _ _ _ =>
    rw [hdb]
    refine (slotsOrFree_keepsOwnership _ _).trans (KeepsOwnership.set hold ?_ ?_) id
    · intro _
      exact Fingerprint.owned_enrolledWith _ user tpl
    · intro a ha
      rw [Fingerprint.blocks_enrolledWith, List.mem_singleton] at ha
      rw [ha, templateBlocks_slotsOrFree]
      exact Or.inr id

/-- Where the set is there under the key, a call of `fpc_db_delete_fingerprint` wipes the slot, or takes
all of the slots away with the set. -/
theorem slots_fpcDbDeleteFingerprint_of_set {pDb : Option FingerprintDatabase} {key : UInt32}
    {index : Nat} {set : FingerprintSet} (hlt : index < fpcDbFingerprintsInSet)
    (hset : fpcDbGetSet pDb key = .ok set) :
    ∃ old, (slots pDb)[index]? = some old ∧
      (slots (fpcDbDeleteFingerprint pDb key index).2 = (slots pDb).set index old.wiped ∨
        (slots (fpcDbDeleteFingerprint pDb key index).2 = [] ∧
          ∀ f ∈ (slots pDb).set index old.wiped, f.valid ≠ fpcDbEntryValid)) := by
  obtain ⟨db, rfl, hdb, hkey⟩ := fpcDbGetSet_ok hset
  refine ⟨set.aFingerprintList[index], ?_, ?_⟩
  · rw [slots_of_set hdb]
    simp
  · rw [slots_of_set hdb]
    unfold fpcDbDeleteFingerprint
    rw [dif_pos hlt, hset]
    dsimp only [Option.map_some]
    rw [FingerprintSet.withSlots]
    split
    · next hcount =>
      right
      refine ⟨?_, ?_⟩
      · unfold fpcDbDeleteSet fpcDbGetSet
        dsimp only
        rw [if_neg (not_not.mpr hkey)]
        rfl
      · rw [dbCountFingersInSet, Vector.toList_set, List.countP_eq_zero] at hcount
        intro f hf hvalid
        exact hcount f hf (beq_iff_eq.mpr hvalid)
    · left
      rw [slots_withSet, Vector.toList_set]

/-- What a call of `fpc_db_delete_fingerprint` makes of the slots: it leaves them, wipes one, or
takes all of them away with the set. -/
theorem slots_fpcDbDeleteFingerprint (pDb : Option FingerprintDatabase) (key : UInt32)
    (index : Nat) :
    slots (fpcDbDeleteFingerprint pDb key index).2 = slots pDb ∨
      ∃ old, (slots pDb)[index]? = some old ∧
        (slots (fpcDbDeleteFingerprint pDb key index).2 = (slots pDb).set index old.wiped ∨
          (slots (fpcDbDeleteFingerprint pDb key index).2 = [] ∧
            ∀ f ∈ (slots pDb).set index old.wiped, f.valid ≠ fpcDbEntryValid)) := by
  by_cases hlt : index < fpcDbFingerprintsInSet
  · cases hset : fpcDbGetSet pDb key with
    | ok set => exact Or.inr (slots_fpcDbDeleteFingerprint_of_set hlt hset)
    | error code =>
      unfold fpcDbDeleteFingerprint
      rw [dif_pos hlt, hset]
      exact Or.inl rfl
  · unfold fpcDbDeleteFingerprint
    rw [dif_neg hlt]
    exact Or.inl rfl

theorem fpcDbDeleteFingerprint_keepsOwnership (fresh : Prop) (pDb : Option FingerprintDatabase)
    (key : UInt32) (index : Nat) :
    KeepsOwnership fresh (slots pDb) (slots (fpcDbDeleteFingerprint pDb key index).2) := by
  obtain hkept | ⟨old, hold, hwiped | ⟨hempty, _⟩⟩ := slots_fpcDbDeleteFingerprint pDb key index
  · rw [hkept]
    exact .refl _ _
  · rw [hwiped]
    refine KeepsOwnership.set hold ?_ ?_
    · intro _
      exact old.owned_wiped
    · intro a ha
      rw [Fingerprint.blocks_wiped] at ha
      cases ha
  · rw [hempty]
    exact .nil _ _

/-! ## Decoding -/

/-- The blocks that a decoder gets for the templates are distinct. All of them are in use when it
ends. -/
def DbEnv.DistinctTemplates (env : DbEnv) : Prop :=
  ∀ j < fpcDbFingerprintsInSet, ∀ k < fpcDbFingerprintsInSet,
    (env.malloc (.template j)).isSome = true →
      env.malloc (.template j) = env.malloc (.template k) → j = k

instance (env : DbEnv) : Decidable env.DistinctTemplates :=
  inferInstanceAs (Decidable (∀ j < fpcDbFingerprintsInSet, _))

section

variable {env : DbEnv} {dbVersion : UInt8} {packedDb : List UInt8}

/-- A slot that was decoded is owned, and its block is the one that was allocated for it. -/
theorem unpackFinger_owned {size j readcounter c : Nat} {finger : Fingerprint}
    (h : unpackFinger env dbVersion packedDb size j readcounter = .ok (finger, c)) :
    finger.Owned ∧ ∀ a ∈ finger.blocks, env.malloc (.template j) = some a := by
  obtain ⟨valid, _, h⟩ := bind_eq_ok.mp h
  dsimp only at h
  split at h
  · next hvalid =>
    obtain ⟨fid, _, h⟩ := bind_eq_ok.mp h
    obtain ⟨⟨userId, c1⟩, _, h⟩ := bind_eq_ok.mp h
    obtain ⟨fsize, _, h⟩ := bind_eq_ok.mp h
    dsimp only at h
    split at h
    · cases h
    · obtain ⟨fmem, hmalloc, h⟩ := bind_eq_ok.mp h
      obtain ⟨tpl, _, h⟩ := bind_eq_ok.mp h
      cases h
      refine ⟨Or.inl ⟨hvalid, rfl⟩, ?_⟩
      intro a ha
      cases List.mem_singleton.mp ha
      exact DbEnv.memCalloc_ok hmalloc
  · split at h
    · next hinvalid =>
      cases h
      refine ⟨Or.inr ⟨hinvalid, rfl⟩, ?_⟩
      intro a ha
      cases ha
    · cases h

/-- What the loop leaves: slots that are owned, and the blocks that were allocated for them.
Induction on the turns that are left. -/
theorem unpackFingers_owned {size n j readcounter c : Nat} {fingers : List Fingerprint}
    (h : unpackFingers env dbVersion packedDb size n j readcounter = .ok (fingers, c)) :
    SlotsOwned fingers ∧
      ∀ a ∈ templateBlocks fingers, ∃ k, j ≤ k ∧ k < j + n ∧ env.malloc (.template k) = some a := by
  induction n generalizing j readcounter fingers c with
  | zero =>
    cases h
    refine ⟨slotsOwned_nil, ?_⟩
    intro a ha
    cases ha
  | succ n ih =>
    obtain ⟨⟨finger, c1⟩, hfinger, h⟩ := bind_eq_ok.mp h
    obtain ⟨⟨rest, c2⟩, hrest, h⟩ := bind_eq_ok.mp h
    cases h
    obtain ⟨howned, hblock⟩ := unpackFinger_owned hfinger
    obtain ⟨hrestOwned, hrestBlocks⟩ := ih hrest
    refine ⟨List.forall_mem_cons.mpr ⟨howned, hrestOwned⟩, ?_⟩
    intro a ha
    rw [templateBlocks_cons, List.mem_append] at ha
    cases ha with
    | inl hfirst => exact ⟨j, le_rfl, by omega, hblock a hfirst⟩
    | inr hlater =>
      obtain ⟨k, hle, hlt, hmalloc⟩ := hrestBlocks a hlater
      exact ⟨k, by omega, by omega, hmalloc⟩

/-- The blocks are distinct where the allocated ones are. Induction on the turns that are left. -/
theorem unpackFingers_distinct {size n j readcounter c : Nat} {fingers : List Fingerprint}
    (henv : env.DistinctTemplates) (hn : j + n ≤ fpcDbFingerprintsInSet)
    (h : unpackFingers env dbVersion packedDb size n j readcounter = .ok (fingers, c)) :
    (templateBlocks fingers).Nodup := by
  induction n generalizing j readcounter fingers c with
  | zero =>
    cases h
    exact List.nodup_nil
  | succ n ih =>
    obtain ⟨⟨finger, c1⟩, hfinger, h⟩ := bind_eq_ok.mp h
    obtain ⟨⟨rest, c2⟩, hrest, h⟩ := bind_eq_ok.mp h
    cases h
    obtain ⟨_, hblock⟩ := unpackFinger_owned hfinger
    obtain ⟨_, hrestBlocks⟩ := unpackFingers_owned hrest
    rw [templateBlocks_cons, List.nodup_append]
    refine ⟨Option.toList_nodup _, ih (by omega) hrest, ?_⟩
    intro a ha b hb hab
    rw [← hab] at hb
    obtain ⟨k, hle, hlt, hmalloc⟩ := hrestBlocks a hb
    have hfirst := hblock a ha
    have hjk := henv j (by omega) k (by omega) (by rw [hfirst]; rfl) (by rw [hfirst, hmalloc])
    omega

/-- In a database that was created the slots are owned, and their blocks are distinct where the
allocated ones are. -/
theorem fpcDbCreate_owned {pDbData : Option (List UInt8)} {dbDataSize : Nat}
    {db : FingerprintDatabase} (h : fpcDbCreate env pDbData dbDataSize = .ok db) :
    SlotsOwned (slots (some db)) ∧
      (env.DistinctTemplates → (templateBlocks (slots (some db))).Nodup) := by
  obtain hempty | ⟨_, _, _, _, _, hfingers⟩ := fpcDbCreate_slots h
  · rw [hempty]
    exact ⟨slotsOwned_nil, fun _ => List.nodup_nil⟩
  · refine ⟨(unpackFingers_owned hfingers).1, ?_⟩
    intro henv
    exact unpackFingers_distinct henv (by omega) hfingers

end

end Fpc
