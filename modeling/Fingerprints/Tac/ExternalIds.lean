import Fingerprints.Ta.OwnImages
import Fingerprints.Tac.DbViews

/-!
# Which finger an id refers to

Outside the application a finger is known by the first four bytes of the id that was drawn for it.
`DELETE_TEMPLATE`, `IDENTIFY` and `GET_AUTH_RESULT` refer to one finger by it as long as these four
bytes are its own and not all zero; `fpc_db_add_fingerprint` checks neither.

* **`designates_iff`**: in a state the ids refer to one finger each exactly when they are distinct
  and not zero;
* **`step_enrols`**, **`step_enrolledIds`**: an enrolment brings an id in, and else no id is new
  but those of an image;
* **`run_designates_iff`**: so it is in all states of a run with restarts exactly when each
  enrolment draws a new id.
-/

namespace Fpc

open Wire Wire.Outcome Runs

/-! ## What an id refers to -/

/-- Wherever the id is used, it refers to the finger in slot `k`. -/
structure RefersTo (P : Platform) (ta : Ta) (id : UInt32) (k : Nat) : Prop where
  unique : ∀ (j : Nat) (g : Fingerprint), (slots ta.bio.userDb)[j]? = some g →
    g.valid = fpcDbEntryValid → fpcDbTrimId32 g.fingerprintId = id → j = k
  lookup : fpcDbGetIndexOfId32 ta.bio.userDb id = .ok k
  deleted : ∀ set, fpcDbGetSet ta.bio.userDb ta.bio.activeSetKey = .ok set →
    ∃ status bio', fpcTaBioDeleteTemplate ta.bio id = .ok (status, bio') ∧
      ∀ f, Enrolled bio'.userDb f ↔ EnrolledBeside ta.bio.userDb k f
  identified : ∀ env r, fpcTaBioIdentify P env ta = .ok r → r.Found → r.id = id →
    r.statistics.map (·.index.toNat) = some k
  authenticated : ∀ e ta', (taSystem P).step ta e ta' → isGetAuthResult e = true →
    e.response = 0 → ta.bio.matchResult.templateId = id →
      e.signedToken.userId = tokenUserId ta k

/-- The id of each finger refers to it, and is not the 0 that stands for no finger. -/
def Designates (P : Platform) (ta : Ta) : Prop :=
  ∀ (k : Nat) (f : Fingerprint), (slots ta.bio.userDb)[k]? = some f → f.valid = fpcDbEntryValid →
    fpcDbTrimId32 f.fingerprintId ≠ 0 ∧ RefersTo P ta (fpcDbTrimId32 f.fingerprintId) k

/-- The ids, by the indices of the valid slots. -/
theorem map_idsOf (fs : List Fingerprint) :
    (validIndices fs).map (fun i => fs[i]?.map fun f => fpcDbTrimId32 f.fingerprintId)
      = (idsOf fs).map some := by
  have hmap := congrArg (List.map (Option.map fun f => fpcDbTrimId32 f.fingerprintId))
    (map_validIndices fs)
  rw [List.map_map, List.map_map] at hmap
  unfold idsOf
  rw [List.map_map]
  exact hmap

/-- Ids are distinct exactly when each stands in one slot. -/
theorem nodup_idsOf_iff (fs : List Fingerprint) :
    (idsOf fs).Nodup ↔ ∀ (j k : Nat) (g f : Fingerprint), fs[j]? = some g → fs[k]? = some f →
      g.valid = fpcDbEntryValid → f.valid = fpcDbEntryValid →
        fpcDbTrimId32 g.fingerprintId = fpcDbTrimId32 f.fingerprintId → j = k := by
  have hindices : (validIndices fs).Nodup :=
    (pairwise_validIndices fs).imp fun hlt => ne_of_lt hlt
  rw [← List.nodup_map_iff (Option.some_injective UInt32), ← map_idsOf,
    List.nodup_map_iff_inj_on hindices]
  constructor
  · intro h j k g f hg hf hvalid hvalid' hsame
    apply h j (mem_validIndices.mpr ⟨g, hg, hvalid⟩) k (mem_validIndices.mpr ⟨f, hf, hvalid'⟩)
    rw [hg, hf, Option.map_some, Option.map_some, hsame]
  · intro h j hj k hk hsame
    obtain ⟨g, hg, hvalid⟩ := mem_validIndices.mp hj
    obtain ⟨f, hf, hvalid'⟩ := mem_validIndices.mp hk
    rw [hg, hf, Option.map_some, Option.map_some, Option.some.injEq] at hsame
    exact h j k g f hg hf hvalid hvalid' hsame

section

variable {P : Platform} {ta : Ta}

/-- Where the id of a finger is its own, every use of it comes to the finger. -/
theorem refersTo_of_unique {k : Nat} {f : Fingerprint} (hf : (slots ta.bio.userDb)[k]? = some f)
    (hvalid : f.valid = fpcDbEntryValid) (hzero : fpcDbTrimId32 f.fingerprintId ≠ 0)
    (hunique : ∀ (j : Nat) (g : Fingerprint), (slots ta.bio.userDb)[j]? = some g →
      g.valid = fpcDbEntryValid →
        fpcDbTrimId32 g.fingerprintId = fpcDbTrimId32 f.fingerprintId → j = k) :
    RefersTo P ta (fpcDbTrimId32 f.fingerprintId) k := by
  have hlookup : fpcDbGetIndexOfId32 ta.bio.userDb (fpcDbTrimId32 f.fingerprintId) = .ok k := by
    cases hdb : ta.bio.userDb with
    | none =>
      rw [hdb] at hf
      cases hf
    | some db =>
      rw [hdb] at hf hunique
      unfold fpcDbGetIndexOfId32
      apply firstIndex_unique hf hvalid
      · exact beq_self_eq_true _
      · intro j g hg hvalid' hsame
        exact hunique j g hg hvalid' (beq_iff_eq.mp hsame)
  refine ⟨hunique, hlookup, ?_, ?_, ?_⟩
  · intro set hset
    exact fpcTaBioDeleteTemplate_found hzero hlookup hset
  · intro env r hidentify hfound hid
    obtain ⟨s, g, hfinger⟩ := fpcTaBioIdentify_found hidentify hfound
    rw [hfinger.statistics, hunique s g hfinger.finger hfinger.valid (hfinger.id.symm.trans hid)]
  · intro e ta' hstep hcmd hresponse hid
    obtain ⟨index, dbId, hindex, _, htoken⟩ := step_getAuthResult hstep hcmd hresponse
    rw [hid, hlookup] at hindex
    cases hindex
    rw [htoken]
    rfl

/-- **When the ids refer to one finger each.** -/
theorem designates_iff : Designates P ta ↔ DistinctIds ta.bio.userDb := by
  constructor
  · intro h
    refine ⟨?_, ?_⟩
    · unfold enrolledIds
      rw [nodup_idsOf_iff]
      intro j k g f hg hf hvalid hvalid' hsame
      exact (h k f hf hvalid').2.unique j g hg hvalid hsame
    · intro hzero
      obtain ⟨f, ⟨hmem, hvalid⟩, hid⟩ := mem_enrolledIds.mp hzero
      obtain ⟨k, hk⟩ := List.mem_iff_getElem?.mp hmem
      exact (h k f hk hvalid).1 hid
  · intro h k f hf hvalid
    have hzero : fpcDbTrimId32 f.fingerprintId ≠ 0 := by
      intro hid
      exact h.nonzero (mem_enrolledIds.mpr ⟨f, ⟨List.mem_of_getElem? hf, hvalid⟩, hid⟩)
    refine ⟨hzero, refersTo_of_unique hf hvalid hzero ?_⟩
    intro j g hg hvalid' hsame
    exact (nodup_idsOf_iff _).mp h.nodup j k g f hg hf hvalid' hvalid hsame

end

/-! ## What a command does to the ids -/

/-- The command enrols a finger, under an id that it drew. -/
def Event.EnrolsAs (P : Platform) (e : Event) (id : UInt32) : Prop :=
  ∃ addr user, e.GetsToAdd P addr user ∧
    ∃ db ∈ e.pre.bio.userDb, DrawsFingerId e.env.db db e.pre.bio.activeSetKey ∧
      (e.env.db.random256 .fingerprintId).1 = 0 ∧
      id = fpcDbTrimId32 (e.env.db.random256 .fingerprintId).2

/-- The id that it draws is not 0, and not that of a finger that is enrolled. -/
def Event.DrawsNewId (P : Platform) (e : Event) : Prop :=
  ∀ id, e.EnrolsAs P id → id ≠ 0 ∧ id ∉ enrolledIds e.pre.bio.userDb

/-- Slots that were just allocated have no ids. -/
theorem idsOf_slotsOrFree (db : FingerprintDatabase) :
    idsOf (slotsOrFree db) = idsOf (slots (some db)) := by
  unfold slotsOrFree
  split
  · next set hset => rw [slots_of_set hset]
  · next hset =>
    rw [slots_withoutSet_of hset]
    decide

/-- A finger that is added has the id that was drawn. -/
theorem enrolledIds_drawn {env : DbEnv} {db : FingerprintDatabase} {key : UInt32} {user : UInt64}
    {tpl : Template} (hreached : DrawsFingerId env db key)
    (hdraw : (env.random256 .fingerprintId).1 = 0) :
    (enrolledIds (fpcDbAddFingerprint env (some db) key user tpl).pDb).Perm
      (fpcDbTrimId32 (env.random256 .fingerprintId).2 :: enrolledIds (some db)) := by
  unfold enrolledIds
  have hslots := fpcDbAddFingerprint_slots env (some db) key user tpl
  generalize slots (fpcDbAddFingerprint env (some db) key user tpl).pDb = fs at hslots ⊢
  cases hslots with
  | kept hunreached => exact absurd hreached (hunreached db rfl)
  | undrawn _ _ _ hundrawn => exact absurd hdraw hundrawn
  | @drawn db i old hdb hold hfree _ _ =>
    cases hdb
    obtain ⟨rest, hnew, hbefore⟩ :=
      idsOf_set_perm hold (Fingerprint.enrolledWith (env.random256 .fingerprintId).2 user tpl)
    have hinvalid : old.valid ≠ fpcDbEntryValid := by
      rw [hfree]
      decide
    rw [idsOf_invalid hinvalid, idsOf_slotsOrFree] at hbefore
    rw [idsOf_valid rfl] at hnew
    exact hnew.trans (hbefore.symm.cons _)

/-- Where no id was drawn, an addition brings none in. -/
theorem enrolledIds_undrawn {env : DbEnv} {pDb : Option FingerprintDatabase} {key : UInt32}
    {user : UInt64} {tpl : Template}
    (h : ∀ db ∈ pDb, DrawsFingerId env db key → (env.random256 .fingerprintId).1 ≠ 0) :
    (enrolledIds (fpcDbAddFingerprint env pDb key user tpl).pDb).Perm (enrolledIds pDb) := by
  unfold enrolledIds
  have hslots := fpcDbAddFingerprint_slots env pDb key user tpl
  generalize slots (fpcDbAddFingerprint env pDb key user tpl).pDb = fs at hslots ⊢
  cases hslots with
  | kept _ => exact .refl _
  | @undrawn db i old hdb hold hfree _ =>
    subst hdb
    obtain ⟨rest, hnew, hbefore⟩ :=
      idsOf_set_perm hold { old with fingerprintId := (env.random256 .fingerprintId).2 }
    have hinvalid : old.valid ≠ fpcDbEntryValid := by
      rw [hfree]
      decide
    have hinvalid' : ({ old with fingerprintId := (env.random256 .fingerprintId).2 } :
        Fingerprint).valid ≠ fpcDbEntryValid := hinvalid
    rw [idsOf_invalid hinvalid, idsOf_slotsOrFree] at hbefore
    rw [idsOf_invalid hinvalid'] at hnew
    exact hnew.trans hbefore.symm
  | @drawn db _ _ hdb _ _ hreached hdraw => exact absurd hdraw (h db hdb hreached)

/-- A finger that is deleted takes its id along. -/
theorem enrolledIds_fpcDbDeleteFingerprint (pDb : Option FingerprintDatabase) (key : UInt32)
    (index : Nat) :
    (enrolledIds (fpcDbDeleteFingerprint pDb key index).2).Subperm (enrolledIds pDb) := by
  unfold enrolledIds
  obtain hkept | ⟨old, hold, hwiped⟩ := slots_fpcDbDeleteFingerprint pDb key index
  · rw [hkept]
  · obtain ⟨hslots⟩ | ⟨hslots, _⟩ := hwiped
    · obtain ⟨rest, hnew, hbefore⟩ := idsOf_set_perm hold old.wiped
      rw [hslots]
      have hinvalid : old.wiped.valid ≠ fpcDbEntryValid := by
        show fpcDbEntryInvalid ≠ fpcDbEntryValid
        decide
      rw [idsOf_invalid hinvalid] at hnew
      refine (hnew.subperm.trans ?_).trans hbefore.symm.subperm
      by_cases hvalid : old.valid = fpcDbEntryValid
      · rw [idsOf_valid hvalid]
        exact (List.sublist_cons_self _ _).subperm
      · rw [idsOf_invalid hvalid]
    · rw [hslots]
      exact List.nil_subperm

/-- Templates that are replaced leave the ids. -/
theorem enrolledIds_updateTemplates {env : Env} {bio : Bio} {n i : Nat}
    {pDb pDb' : Option FingerprintDatabase} {status : Int}
    (h : updateTemplates env bio n i pDb = .ok (status, pDb')) :
    enrolledIds pDb' = enrolledIds pDb := by
  apply idsOf_congr
  apply List.ext_getElem?
  intro k
  rw [List.getElem?_map, List.getElem?_map, updateTemplates_done h k, Option.map_map]
  rfl

section

variable {P : Platform} {ta ta' : Ta} {e : Event}

theorem Event.EnrolsAs.unique {id id' : UInt32} (h : e.EnrolsAs P id) (h' : e.EnrolsAs P id') :
    id = id' := by
  obtain ⟨_, _, _, _, _, _, _, rfl⟩ := h
  obtain ⟨_, _, _, _, _, _, _, rfl⟩ := h'
  rfl

/-- **An enrolment brings one id in**, whatever ids there are. -/
theorem step_enrols {id : UInt32} (h : (taSystem P).step ta e ta') (henrols : e.EnrolsAs P id) :
    (enrolledIds ta'.bio.userDb).Perm (id :: enrolledIds ta.bio.userDb) := by
  obtain ⟨addr, user, hadd, db, hdb, hreached, hdraw, rfl⟩ := henrols
  have hbio := step_endEnrol h hadd.command
  obtain ⟨rfl, _, _⟩ := h
  rw [hbio, hadd.userDb, Event.added, hdb]
  exact enrolledIds_drawn hreached hdraw

/-- **No other command brings ids in**, but one that loads a database from an image. -/
theorem step_enrolledIds (h : (taSystem P).step ta e ta') (hnone : ∀ id, ¬ e.EnrolsAs P id) :
    (enrolledIds ta'.bio.userDb).Subperm (enrolledIds ta.bio.userDb) ∨
      (e.loads = true ∧ ∃ image db, e.image = some image ∧
        fpcDbCreate e.env.db (some image) image.length = .ok db ∧ ta'.bio.userDb = some db) := by
  obtain ⟨rfl, _, _⟩ := id h
  have hchange := step_dbChange h
  generalize ta'.bio.userDb = pDb at hchange ⊢
  cases hchange with
  | kept => exact Or.inl (List.Subperm.refl _)
  | dropped _ => exact Or.inl List.nil_subperm
  | @created db hload hcreate =>
    cases himage : e.image with
    | none =>
      -- an empty database
      rw [Event.imageSize, himage] at hcreate
      left
      unfold enrolledIds
      rw [slots_fpcDbCreate hcreate]
      exact List.nil_subperm
    | some image =>
      rw [Event.imageSize, himage] at hcreate
      exact Or.inr ⟨hload, image, db, rfl, hcreate, rfl⟩
  | @added addr user hadd =>
    left
    refine (enrolledIds_undrawn ?_).subperm
    intro db hdb hreached hdraw
    exact hnone _ ⟨addr, user, hadd, db, hdb, hreached, hdraw, rfl⟩
  | deleted _ => exact Or.inl (enrolledIds_fpcDbDeleteFingerprint _ _ _)
  | fronted _ hfront => exact Or.inl (idsOf_perm (perm_fpcDbSetTemplateFirst hfront)).subperm
  | updated _ _ hloop =>
    left
    rw [enrolledIds_updateTemplates hloop]

end

/-! ## Runs -/

/-- The ids of some slots, by the view of them. Induction on the slots. -/
theorem idsOf_eq_view (fs : List Fingerprint) :
    idsOf fs = (fs.map Fingerprint.view).filterMap (Option.map fun f => fpcDbTrimId32 f.id) := by
  induction fs with
  | nil => rfl
  | cons f rest ih =>
    unfold Fingerprint.view at ih ⊢
    by_cases hvalid : f.valid = fpcDbEntryValid
    · rw [idsOf_valid hvalid, ih]
      simp [hvalid]
    · rw [idsOf_invalid hvalid, ih]
      simp [hvalid]

/-- The ids of a database are those of its view. -/
theorem enrolledIds_congr {d d' : FingerprintDatabase} (h : d'.view = d.view) :
    enrolledIds (some d') = enrolledIds (some d) := by
  have hids (db : FingerprintDatabase) : enrolledIds (some db) =
      ((db.view.set.map fun s => s.slots.toList).getD []).filterMap
        (Option.map fun f => fpcDbTrimId32 f.id) := by
    unfold enrolledIds FingerprintDatabase.view
    cases hset : db.pFingerprintSet with
    | none =>
      rw [slots_withoutSet_of hset]
      rfl
    | some set =>
      rw [slots_of_set hset, idsOf_eq_view]
      show _ = List.filterMap _ (set.aFingerprintList.map Fingerprint.view).toList
      rw [Vector.toList_map]
  rw [hids, hids, h]

/-- Fewer ids can be told apart too. -/
theorem DistinctIds.subperm {pDb pDb' : Option FingerprintDatabase} (h : DistinctIds pDb)
    (hsub : (enrolledIds pDb').Subperm (enrolledIds pDb)) : DistinctIds pDb' := by
  obtain ⟨ids, hperm, hsublist⟩ := hsub
  refine ⟨hperm.nodup_iff.mp (h.nodup.sublist hsublist), ?_⟩
  intro hzero
  exact h.nonzero (hsublist.subset (hperm.mem_iff.mpr hzero))

/-- One more id can be told apart where it is new, and not 0. -/
theorem distinctIds_cons {pDb pDb' : Option FingerprintDatabase} {id : UInt32}
    (h : DistinctIds pDb) (hperm : (enrolledIds pDb').Perm (id :: enrolledIds pDb)) :
    DistinctIds pDb' ↔ id ≠ 0 ∧ id ∉ enrolledIds pDb := by
  constructor
  · intro h'
    have hnodup := hperm.nodup_iff.mp h'.nodup
    refine ⟨?_, (List.nodup_cons.mp hnodup).1⟩
    intro hzero
    exact h'.nonzero (hperm.mem_iff.mpr (hzero ▸ List.mem_cons_self))
  · intro ⟨hzero, hnew⟩
    refine ⟨hperm.nodup_iff.mpr (List.nodup_cons.mpr ⟨hnew, h.nodup⟩), ?_⟩
    intro hmem
    rcases List.mem_cons.mp (hperm.mem_iff.mp hmem) with hid | hid
    · exact hzero hid.symm
    · exact h.nonzero hid

section

variable {P : Platform} {ta : Ta} {e : Event} {r : Recalled Ta} {history : List (Option Event)}

/-- What a step does, where the ids could be told apart in all states. -/
theorem step_distinctIds {ta' : Ta} (howned : ∀ ta ∈ r.states, SlotsOwned (slots ta.bio.userDb))
    (hbefore : ∀ ta ∈ r.states, DistinctIds ta.bio.userDb)
    (h : (taSystem P).step r.current e ta') (hload : LoadsWhole r.states e) :
    DistinctIds ta'.bio.userDb ↔ e.DrawsNewId P := by
  have hcurrent := hbefore r.current List.mem_cons_self
  obtain ⟨hpre, _, hresult⟩ := id h
  by_cases henrols : ∃ id, e.EnrolsAs P id
  · obtain ⟨id, hid⟩ := henrols
    have hnew : e.DrawsNewId P ↔ id ≠ 0 ∧ id ∉ enrolledIds e.pre.bio.userDb := by
      refine ⟨fun hdraws => hdraws id hid, ?_⟩
      intro hnew id' hid'
      rw [hid'.unique hid]
      exact hnew
    rw [hnew, hpre]
    exact distinctIds_cons hcurrent (step_enrols h hid)
  · rw [not_exists] at henrols
    refine iff_of_true ?_ fun id hid => absurd hid (henrols id)
    obtain hsub | ⟨hloads, image, db, himage, hcreate, hdb⟩ := step_enrolledIds h henrols
    · exact hcurrent.subperm hsub
    · -- the database was there before, in one of the states
      obtain ⟨ta, hta, d, hd, hpacks, hlt⟩ :=
        hload hloads image himage db hcreate (hresult ▸ hdb)
      have hstored := howned ta hta
      have hdistinct := hbefore ta hta
      rw [hd] at hstored hdistinct
      rw [hdb]
      apply hdistinct.subperm
      rw [enrolledIds_congr (view_of_packed hstored hlt hpacks hcreate)]

/-- **When the ids refer to one finger each**, in all states of a run with restarts: exactly when
each enrolment draws an id that is not 0 and not that of another finger, if no image is loaded that
was too large when it was packed. -/
theorem run_designates_iff (hrun : (storedSystem P).Run history r)
    (hwhole : ∀ e, some e ∈ history → ¬ e.LoadsTruncated r.states) :
    (∀ ta ∈ r.states, Designates P ta) ↔ ∀ e, some e ∈ history → e.DrawsNewId P := by
  simp only [designates_iff]
  refine System.Run.recalled_iff ?_ ?_ (stored_whole hrun hwhole)
  · intro ta hinit
    refine ⟨?_, ?_⟩
    · rw [enrolledIds, slots_of_init hinit]
      exact List.nodup_nil
    · rw [enrolledIds, slots_of_init hinit]
      exact List.not_mem_nil
  · intro history r e ta' hrun hbefore hstep hload
    exact step_distinctIds (recalled_owned hrun) hbefore hstep hload

/-- An event that is no load, in a run with restarts. -/
theorem loadsOwn_of_noLoad (h : e.loads = false) (states : List Ta) : LoadsOwn states e := by
  intro hloads
  rw [h] at hloads
  cases hloads

/-- A run without loads is one of the application with its images, and no image is truncated. -/
theorem storedSystem_run {history : List Event} (hrun : (taSystem P).Run history ta)
    (hloads : ∀ e ∈ history, e.loads = false) :
    ∃ past, (storedSystem P).Run (history.map some) { current := ta, past := past } ∧
      ∀ states e, some e ∈ history.map some → ¬ e.LoadsTruncated states := by
  obtain ⟨past, hstored⟩ :=
    System.Run.recalled hrun fun e he states => loadsOwn_of_noLoad (hloads e he) states
  refine ⟨past, hstored, ?_⟩
  intro states e he htruncated
  rw [List.mem_map_of_injective (Option.some_injective _)] at he
  have hload := htruncated.1
  rw [hloads e he] at hload
  cases hload

/-- The draw of the id tells whether it is new. -/
theorem Event.drawsNewId_of
    (h : e.is (.bio .endEnrol) = true →
      fpcDbTrimId32 (e.env.db.random256 .fingerprintId).2 ≠ 0 ∧
        fpcDbTrimId32 (e.env.db.random256 .fingerprintId).2 ∉ enrolledIds e.pre.bio.userDb) :
    e.DrawsNewId P := by
  intro id henrols
  obtain ⟨_, _, hadd, _, _, _, _, rfl⟩ := henrols
  exact h hadd.command

end

/-- Two fingers are enrolled under ids that differ from the first byte on. -/
theorem sampleTwoFingers_designates :
    ∃ history r, (storedSystem samplePlatform).Run history r ∧
      enrolledIds r.current.bio.userDb = [0x5A5A5A5A, 0x6B6B6B6B] ∧
      ∀ ta ∈ r.states, Designates samplePlatform ta := by
  obtain ⟨history, ta, hrun, _, hids, hloads, hnew⟩ :=
    execute_decided samplePlatform (sampleTwoFingers (Id256.filled 0x5A) (Id256.filled 0x6B))
      (fun history ta => enrolledIds ta.bio.userDb = [0x5A5A5A5A, 0x6B6B6B6B] ∧
        (∀ e ∈ history, e.loads = false) ∧
        ∀ e ∈ history, e.is (.bio .endEnrol) = true →
          fpcDbTrimId32 (e.env.db.random256 .fingerprintId).2 ≠ 0 ∧
            fpcDbTrimId32 (e.env.db.random256 .fingerprintId).2 ∉ enrolledIds e.pre.bio.userDb)
      (by decide +kernel)
  obtain ⟨past, hstored, hwhole⟩ := storedSystem_run hrun hloads
  refine ⟨_, _, hstored, hids, (run_designates_iff hstored (hwhole _)).mpr ?_⟩
  intro e he
  rw [List.mem_map_of_injective (Option.some_injective _)] at he
  exact Event.drawsNewId_of (hnew e he)

/-- An id that begins as `Id256.filled 0x5A` does, and goes on otherwise. -/
def sampleSimilarId : Id256 := Vector.ofFn fun i => if i.val < 4 then 0x5A else 0x6B

/-- Two different ids with the same first four bytes: a delete by the one may take the other. -/
theorem sampleSimilarId_ambiguous :
    ¬ ∀ history r, (storedSystem samplePlatform).Run history r →
      ∀ ta ∈ r.states, Designates samplePlatform ta := by
  intro h
  obtain ⟨history, ta, hrun, _, hids, hloads⟩ :=
    execute_decided samplePlatform (sampleTwoFingers (Id256.filled 0x5A) sampleSimilarId)
      (fun history ta => enrolledIds ta.bio.userDb = [0x5A5A5A5A, 0x5A5A5A5A] ∧
        ∀ e ∈ history, e.loads = false) (by decide +kernel)
  obtain ⟨past, hstored, _⟩ := storedSystem_run hrun hloads
  have hdistinct := designates_iff.mp (h _ _ hstored ta List.mem_cons_self)
  have hnodup := hdistinct.nodup
  rw [hids] at hnodup
  exact absurd hnodup (by decide)

end Fpc
