import Fingerprints.Ta.OwnedTemplates

/-!
# What the bio commands do to the heap

Beside each function of the bio module that works on the database stands the list of what it
allocates, frees and looks into, branch by branch. `TakesDb` is the triple for them. The matcher
looks into the templates of its list while it is handed the list; what the module does with the
list later is to compare the addresses in it.

* **`fpcTaBioEndEnrol_takes`**, **`updateTemplates_takes`**: the template that was made goes to the
  database or is freed, on every exit.
* **`bioSwitch_takes`**: every command takes the blocks of the database to those of the one it
  leaves.
-/

namespace Fpc

open Wire Wire.Outcome Ledger

/-- The operations take what one database owns to what the other owns, in which only valid slots
hold a template. -/
structure TakesDb (pDb : Option FingerprintDatabase) (ops : List HeapOp)
    (pDb' : Option FingerprintDatabase) : Prop where
  owns : Owns ↑(blocks pDb) ops ↑(blocks pDb')
  held : OnlyValidHold pDb'

theorem TakesDb.refl {pDb : Option FingerprintDatabase} (hheld : OnlyValidHold pDb) :
    TakesDb pDb [] pDb := ⟨.nil _, hheld⟩

theorem TakesDb.trans {db₁ db₂ db₃ : Option FingerprintDatabase} {ops ops' : List HeapOp}
    (h : TakesDb db₁ ops db₂) (h' : TakesDb db₂ ops' db₃) : TakesDb db₁ (ops ++ ops') db₃ :=
  ⟨h.owns.trans h'.owns, h'.held⟩

theorem TakesDb.look {pDb : Option FingerprintDatabase} (hheld : OnlyValidHold pDb) :
    TakesDb pDb (lookOps pDb) pDb := ⟨lookOps_owns pDb, hheld⟩

/-- Blocks of the database are looked into. -/
theorem TakesDb.uses {pDb : Option FingerprintDatabase} {l : List Addr}
    (hheld : OnlyValidHold pDb) (h : ∀ a ∈ l, a ∈ blocks pDb) : TakesDb pDb (l.map .use) pDb :=
  ⟨.uses fun a ha => Multiset.mem_coe.mpr (h a ha), hheld⟩

/-! ## The list of the matcher -/

/-- The matcher looks into the templates of the list it is given. -/
def listOps (list : Vector TplRef fpcDbFingerprintsInSet) (sizeList : Nat) : List HeapOp :=
  ((list.toList.take sizeList).filterMap TplRef.tpl).map .use

/-- An entry of the list after one more was filled is one of before or the new one. -/
theorem mem_take_set {α : Type} {l : List α} {n : Nat} {x y : α}
    (h : y ∈ (l.set n x).take (n + 1)) : y ∈ l.take n ∨ y = x := by
  obtain ⟨i, hi⟩ := List.mem_iff_getElem?.mp h
  rw [List.getElem?_take] at hi
  split at hi
  · next hlt =>
    by_cases heq : n = i
    · rw [heq, List.getElem?_set_self'] at hi
      obtain ⟨_, _, rfl⟩ := Option.map_eq_some_iff.mp hi
      exact Or.inr rfl
    · rw [List.getElem?_set_ne heq] at hi
      left
      apply List.mem_iff_getElem?.mpr
      refine ⟨i, ?_⟩
      rw [List.getElem?_take_of_lt (by omega)]
      exact hi
  · cases hi

/-- The entries that were filled lead to templates of the slots. Induction on the slots. -/
theorem mem_copyTemplates {sizeList : Nat} {fingers : List Fingerprint}
    {list : Vector TplRef fpcDbFingerprintsInSet} {validCount : Nat} {ref : TplRef}
    (h : ref ∈ (copyTemplates sizeList fingers list validCount).1.toList.take
      (copyTemplates sizeList fingers list validCount).2) :
    ref ∈ list.toList.take validCount ∨ ∃ f ∈ fingers, ref = f.tplRef := by
  induction fingers generalizing list validCount with
  | nil => exact Or.inl h
  | cons f fingers ih =>
    rw [copyTemplates] at h
    split at h
    · exact Or.inl h
    · split at h
      · rcases ih h with hfilled | ⟨g, hg, rfl⟩
        · rw [Vector.toList_setIfInBounds] at hfilled
          rcases mem_take_set hfilled with hold | rfl
          · exact Or.inl hold
          · exact Or.inr ⟨f, List.mem_cons_self, rfl⟩
        · exact Or.inr ⟨g, List.mem_cons_of_mem _ hg, rfl⟩
      · rcases ih h with hold | ⟨g, hg, rfl⟩
        · exact Or.inl hold
        · exact Or.inr ⟨g, List.mem_cons_of_mem _ hg, rfl⟩

/-- A list that was just filled leads to blocks of the database. -/
theorem fpcDbGetAllTemplates_takes {pDb : Option FingerprintDatabase}
    {list list' : Vector TplRef fpcDbFingerprintsInSet} {size sizeList : Nat}
    (hheld : OnlyValidHold pDb)
    (h : fpcDbGetAllTemplates pDb list size = .ok (list', sizeList)) :
    TakesDb pDb (listOps list' sizeList) pDb := by
  rcases pDb with _ | db
  · cases h
  · unfold fpcDbGetAllTemplates at h
    injection h with h
    apply TakesDb.uses hheld
    intro a ha
    obtain ⟨ref, href, htpl⟩ := List.mem_filterMap.mp ha
    have hfilled := @mem_copyTemplates size (slots (some db)) list 0 ref (by rw [h]; exact href)
    rcases hfilled with hnone | ⟨f, hf, rfl⟩
    · cases hnone
    · exact mem_blocks_of_template (mem_templateBlocks hf (Option.mem_toList.mpr htpl))

/-! ## Enrolling -/

/-- `fpc_ta_bio_begin_enrol` -/
def fpcTaBioBeginEnrolOps (bio : Bio) : List HeapOp :=
  lookOps bio.userDb ++
    match fpcDbGetAllTemplates bio.userDb bio.list fpcDbFingerprintsInSet with
    | .ok (list, sizeList) => listOps list sizeList
    | _ => []

/-- `fpc_ta_bio_end_enrol` -/
def fpcTaBioEndEnrolOps (P : Platform) (env : Env) (bio : Bio) (hwAuth : HwAuthTa) :
    List HeapOp :=
  match env.algo.enrolMalloc with
  | none => []
  | some addr =>
      let (status, bytes) := env.algo.endEnroll
      let tpl := Template.ofList addr bio.enrollData.enrolledTemplateSize bytes
      [.malloc addr, .use addr] ++
        if failed status.toInt then [.free addr]
        else
          match (fpcEnrollmentAllowed P env hwAuth).1 with
          | none => [.free addr]
          | some userId =>
              let added := fpcDbAddFingerprint env.db bio.userDb bio.activeSetKey userId tpl
              fpcDbAddFingerprintOps env.db bio.userDb bio.activeSetKey ++
                if added.status ≠ 0 then [.free addr] else lookOps added.pDb

section

variable {P : Platform} {env : Env} {ta : Ta} {bio bio' : Bio}

theorem fpcTaBioBeginEnrol_takes {status : Int} (hheld : OnlyValidHold bio.userDb)
    (h : fpcTaBioBeginEnrol env bio = .ok (status, bio')) :
    TakesDb bio.userDb (fpcTaBioBeginEnrolOps bio) bio'.userDb := by
  obtain ⟨⟨list, sizeList⟩, hlist, h⟩ := bind_eq_ok.mp h
  have htakes : TakesDb bio.userDb (fpcTaBioBeginEnrolOps bio) bio.userDb := by
    unfold fpcTaBioBeginEnrolOps
    rw [hlist]
    exact (TakesDb.look hheld).trans (fpcDbGetAllTemplates_takes hheld hlist)
  dsimp only at h
  split at h
  · cases h
    exact htakes
  · split at h
    · cases h
      exact htakes
    · cases h
      exact htakes

/-- A block that is made, filled and freed again. -/
theorem tempBlock_takes (addr : Addr) {pDb : Option FingerprintDatabase}
    (hheld : OnlyValidHold pDb) : TakesDb pDb ([.malloc addr, .use addr] ++ [.free addr]) pDb :=
  ⟨((Owns.malloc addr _).trans (.use (Multiset.mem_cons_self addr _))).trans (.free addr _), hheld⟩

/-- The template that was made goes to the database when the finger is added, and is freed on every
other exit. -/
theorem fpcTaBioEndEnrol_takes (hwAuth : HwAuthTa) (hheld : OnlyValidHold bio.userDb) :
    TakesDb bio.userDb (fpcTaBioEndEnrolOps P env bio hwAuth)
      (fpcTaBioEndEnrol P env bio hwAuth).bio.userDb := by
  unfold fpcTaBioEndEnrol fpcTaBioEndEnrolOps
  rcases hmalloc : env.algo.enrolMalloc with _ | addr
  · exact .refl hheld
  · dsimp only
    split
    · exact tempBlock_takes addr hheld
    · rcases hallowed : fpcEnrollmentAllowed P env hwAuth with ⟨_ | userId, hwAuth'⟩
      · exact tempBlock_takes addr hheld
      · dsimp only
        generalize htpl : Template.ofList addr bio.enrollData.enrolledTemplateSize
          env.algo.endEnroll.2 = tpl
        have haddr : tpl.tpl = addr := by rw [← htpl]; rfl
        have hadds := fpcDbAddFingerprint_owns env.db bio.activeSetKey userId tpl hheld
        have hheld' := fpcDbAddFingerprint_held env.db bio.activeSetKey userId tpl hheld
        have hmade : Owns ↑(blocks bio.userDb) [.malloc addr, .use addr]
            (addr ::ₘ ↑(blocks bio.userDb)) :=
          (Owns.malloc addr _).trans (.use (Multiset.mem_cons_self addr _))
        by_cases hstatus :
            (fpcDbAddFingerprint env.db bio.userDb bio.activeSetKey userId tpl).status = 0
        · -- the block is the database's now
          have htaken : Owns (addr ::ₘ ↑(blocks bio.userDb))
              (fpcDbAddFingerprintOps env.db bio.userDb bio.activeSetKey)
              ↑(blocks (fpcDbAddFingerprint env.db bio.userDb bio.activeSetKey userId tpl).pDb) := by
            apply hadds.congr _ rfl
            rw [AddedFingerprint.takenOver_of_zero hstatus, haddr, Multiset.coe_singleton,
              add_comm, Multiset.singleton_add]
          rw [if_neg (not_not.mpr hstatus), if_neg (not_not.mpr hstatus)]
          have hwhole := hmade.trans (htaken.trans (lookOps_owns _))
          split
          · exact ⟨hwhole, hheld'⟩
          · exact ⟨hwhole, hheld'⟩
        · -- the block is still the caller's
          rw [AddedFingerprint.takenOver_of_ne hstatus, Multiset.coe_nil, add_zero] at hadds
          have hkept := (hadds.frame {addr}).congr (add_comm _ _) (add_comm _ _)
          rw [Multiset.singleton_add, Multiset.singleton_add] at hkept
          rw [if_pos hstatus, if_pos hstatus]
          exact ⟨hmade.trans (hkept.trans (.free addr _)), hheld'⟩

end

/-! ## Identifying and updating -/

/-- `fpc_ta_bio_identify` -/
def fpcTaBioIdentifyOps (env : Env) (bio : Bio) : List HeapOp :=
  if bio.userDb = none then []
  else if fpcTaBioQualifyImage env ≠ fpcCaptureOk then []
  else
    lookOps bio.userDb ++
      match fpcDbGetAllTemplates bio.userDb bio.list fpcDbFingerprintsInSet with
      | .ok (list, sizeList) =>
          -- the matcher, and then the lookups of the match
          if sizeList = 0 then [] else listOps list sizeList ++ lookOps bio.userDb
      | _ => []

/-- The blocks that a slot points to. -/
def blocksAt (pDb : Option FingerprintDatabase) (index : Nat) : List Addr :=
  ((slots pDb)[index]?.map Fingerprint.blocks).getD []

/-- The loop of `fpc_ta_bio_update_template`, `n` turns of it from turn `i`. A turn that is completed
frees the block that it replaced. -/
def updateTemplatesOps (env : Env) (bio : Bio) :
    (n i : Nat) → Option FingerprintDatabase → List HeapOp
  | 0, _, _ => []
  | n + 1, i, pDb =>
      lookOps pDb ++
        match turnDone env bio pDb i with
        | some (slot, tpl) =>
            [.malloc tpl.tpl] ++ (blocksAt pDb slot).map .free ++
              updateTemplatesOps env bio n (i + 1) (replaceTemplate pDb slot tpl)
        | none => []

/-- `fpc_ta_bio_update_template`. Once the loop has ended well the matcher writes into the blocks of
the slots. -/
def fpcTaBioUpdateTemplateOps (env : Env) (bio : Bio) : List HeapOp :=
  let (status, identData) := env.algo.identifyUpdate
  let bio := { bio with identData := identData }
  if status ≠ 0 then []
  else if identData.updateResult = fpcAlgoUpdatedTemplate then
    let turns := identData.numUpdatedTemplates.toNat
    updateTemplatesOps env bio turns 0 bio.userDb ++
      match updateTemplates env bio turns 0 bio.userDb with
      | .ok (status, pDb) =>
          if status ≠ 0 then [] else (templateBlocks (slots pDb)).map .use
      | _ => []
  else []

section

variable {P : Platform} {env : Env} {ta : Ta} {bio bio' : Bio}
  {pDb pDb' : Option FingerprintDatabase}

/-- The same blocks, in another order. -/
theorem TakesDb.reorder {ops : List HeapOp} (h : TakesDb pDb ops pDb)
    (hblocks : (blocks pDb' : Multiset Addr) = blocks pDb) (hheld : OnlyValidHold pDb') :
    TakesDb pDb ops pDb' :=
  ⟨h.owns.congr rfl hblocks.symm, hheld⟩

/-- An identification looks into the database, and may reorder it. -/
theorem fpcTaBioIdentify_takes {r : Identified} (hheld : OnlyValidHold ta.bio.userDb)
    (h : fpcTaBioIdentify P env ta = .ok r) :
    TakesDb ta.bio.userDb (fpcTaBioIdentifyOps env ta.bio) r.bio.userDb := by
  have htakes : TakesDb ta.bio.userDb (fpcTaBioIdentifyOps env ta.bio) ta.bio.userDb := by
    unfold fpcTaBioIdentifyOps
    split
    · exact .refl hheld
    · split
      · exact .refl hheld
      · apply (TakesDb.look hheld).trans
        split
        · next hlist =>
          split
          · exact .refl hheld
          · exact (fpcDbGetAllTemplates_takes hheld hlist).trans (.look hheld)
        · exact .refl hheld
  cases fpcTaBioIdentify_userDb h with
  | inl hfound =>
    obtain ⟨_, db, hfront, hdb⟩ := hfound
    rw [hdb]
    exact htakes.reorder (blocks_fpcDbSetTemplateFirst hfront)
      (fpcDbSetTemplateFirst_held hheld hfront)
  | inr hmissed =>
    rw [hmissed.2]
    exact htakes

/-- A slot gets the new block, and the old one is freed. -/
theorem replaceTemplate_takes {slot : Nat} {f : Fingerprint} (hheld : OnlyValidHold pDb)
    (hslot : (slots pDb)[slot]? = some f) (hvalid : f.valid = fpcDbEntryValid) (tpl : Template) :
    TakesDb pDb ([.malloc tpl.tpl] ++ (blocksAt pDb slot).map .free)
      (replaceTemplate pDb slot tpl) := by
  cases pDb with
  | none => cases hslot
  | some db =>
    cases hset : db.pFingerprintSet with
    | none =>
      rw [slots_withoutSet_of hset] at hslot
      cases hslot
    | some set =>
      have hold : blocksAt (some db) slot = f.blocks := by
        rw [blocksAt, hslot]
        rfl
      rw [slots_of_set hset] at hslot
      obtain ⟨hlt, hget⟩ := List.getElem?_eq_some_iff.mp hslot
      have hreplaced : replaceTemplate (some db) slot tpl = some { db with
          pFingerprintSet := some (set.withSlots (set.aFingerprintList.setIfInBounds slot
            { f with ftemplate := some tpl })) } := by
        rw [replaceTemplate, Option.map_some, hset, Option.map_some,
          FingerprintSet.replaceTemplate, List.getD_eq_getElem _ _ hlt, hget]
      have hfingers : (set.aFingerprintList.setIfInBounds slot
          { f with ftemplate := some tpl }).toList
            = set.aFingerprintList.toList.set slot { f with ftemplate := some tpl } :=
        Vector.toList_setIfInBounds
      have hnew : ({ f with ftemplate := some tpl } : Fingerprint).ftemplate.isSome →
          ({ f with ftemplate := some tpl } : Fingerprint).valid = fpcDbEntryValid :=
        fun _ => hvalid
      rw [hreplaced, hold]
      refine ⟨?_, hheld.set hset hnew hfingers⟩
      have hmade : Owns (↑(blocks (some db))) [.malloc tpl.tpl]
          (tpl.tpl ::ₘ ↑(blocks (some db))) := .malloc _ _
      refine hmade.trans ((Owns.frees f.blocks _).congr ?_ rfl)
      rw [add_comm, blocks_set hset hslot hfingers, add_comm]
      rfl

/-- Every turn of the loop keeps the blocks with the slots. Induction on the turns. -/
theorem updateTemplates_takes {n i : Nat} {status : Int} (hheld : OnlyValidHold pDb)
    (h : updateTemplates env bio n i pDb = .ok (status, pDb')) :
    TakesDb pDb (updateTemplatesOps env bio n i pDb) pDb' := by
  induction n generalizing i pDb with
  | zero =>
    cases h
    exact .refl hheld
  | succ n ih =>
    unfold updateTemplatesOps
    apply (TakesDb.look hheld).trans
    obtain ⟨slot, tpl, hturn, hrest⟩ | ⟨hturn, _, rfl⟩ := updateTemplates_turn h
    · obtain ⟨f, hslot, hvalid⟩ := turnDone_slot hturn
      have hreplaced := replaceTemplate_takes hheld hslot hvalid tpl
      rw [hturn]
      exact hreplaced.trans (ih hreplaced.held hrest)
    · rw [hturn]
      exact .refl hheld

theorem fpcTaBioUpdateTemplate_takes {status : Int} {didUpdate : Option UInt32}
    (hheld : OnlyValidHold bio.userDb)
    (h : fpcTaBioUpdateTemplate env bio = .ok (status, bio', didUpdate)) :
    TakesDb bio.userDb (fpcTaBioUpdateTemplateOps env bio) bio'.userDb := by
  unfold fpcTaBioUpdateTemplateOps
  dsimp only
  cases fpcTaBioUpdateTemplate_cases h with
  | skipped hskip =>
    split
    · exact .refl hheld
    · next hstatus =>
      rw [if_neg (hskip (not_not.mp hstatus))]
      exact .refl hheld
  | looped hstatus hupdated hloop =>
    have htakes := updateTemplates_takes hheld hloop
    rw [if_neg (not_not.mpr hstatus), if_pos hupdated, hloop]
    apply htakes.trans
    dsimp only
    split
    · exact .refl htakes.held
    · exact .uses htakes.held fun a ha => mem_blocks_of_template ha

end

/-! ## Deleting and loading -/

/-- `fpc_ta_bio_delete_template` -/
def fpcTaBioDeleteTemplateOps (bio : Bio) (id : UInt32) : List HeapOp :=
  if id = 0 then []
  else
    lookOps bio.userDb ++
      match fpcDbGetIndexOfId32 bio.userDb id with
      | .ok index => fpcDbDeleteFingerprintOps bio.userDb bio.activeSetKey index
      | _ => []

/-- `fpc_ta_bio_load_empty_db` -/
def fpcTaBioLoadEmptyDbOps (env : Env) (bio : Bio) : List HeapOp :=
  fpcDbDestroyOps bio.userDb ++ fpcDbCreateOps env.db none 0

/-- The switch of `fpc_ta_bio_command_handler`. -/
def bioOps (P : Platform) (env : Env) (ta : Ta) (answer : UInt32) : BioCmd → List HeapOp
  | .setActiveFingerprintSet => []
  | .beginEnrol => fpcTaBioBeginEnrolOps ta.bio
  | .enrol => []
  | .endEnrol => fpcTaBioEndEnrolOps P env ta.bio ta.hwAuth
  | .identify => fpcTaBioIdentifyOps env ta.bio
  | .updateTemplate => fpcTaBioUpdateTemplateOps env ta.bio
  | .loadEmptyDb => fpcTaBioLoadEmptyDbOps env ta.bio
  | .getFingerIds => lookOps ta.bio.userDb
  | .deleteTemplate => fpcTaBioDeleteTemplateOps ta.bio answer
  | .getTemplateDbId => lookOps ta.bio.userDb
  | .getIdentifyStatistics => []

section

variable {P : Platform} {env : Env} {ta : Ta} {bio bio' : Bio}

theorem fpcTaBioDeleteTemplate_takes {id : UInt32} {status : Int}
    (hheld : OnlyValidHold bio.userDb)
    (h : fpcTaBioDeleteTemplate bio id = .ok (status, bio')) :
    TakesDb bio.userDb (fpcTaBioDeleteTemplateOps bio id) bio'.userDb := by
  unfold fpcTaBioDeleteTemplateOps
  cases fpcTaBioDeleteTemplate_cases h with
  | noId hid =>
    rw [if_pos hid]
    exact .refl hheld
  | missed hid hindex =>
    rw [if_neg hid, hindex]
    exact (TakesDb.look hheld).trans (.refl hheld)
  | found hid hindex =>
    rw [if_neg hid, hindex]
    apply (TakesDb.look hheld).trans
    exact ⟨fpcDbDeleteFingerprint_owns _ _ _, fpcDbDeleteFingerprint_held _ _ hheld⟩

/-- What is created where there was no database. -/
theorem create_takes {pDb : Option FingerprintDatabase} {data : Option (List UInt8)} {size : Nat}
    (h : (∃ db, fpcDbCreate env.db data size = .ok db ∧ pDb = some db) ∨
      ∃ code, fpcDbCreate env.db data size = .err code ∧ pDb = none) :
    TakesDb none (fpcDbCreateOps env.db data size) pDb := by
  obtain ⟨db, hcreate, rfl⟩ | ⟨code, hcreate, rfl⟩ := h
  · exact ⟨(fpcDbCreate_owns hcreate 0).congr rfl (add_zero _), fpcDbCreate_held hcreate⟩
  · exact ⟨fpcDbCreate_owns_err hcreate 0, onlyValidHold_none⟩

theorem fpcTaBioLoadEmptyDb_takes {status : Int}
    (h : fpcTaBioLoadEmptyDb env bio = .ok (status, bio')) :
    TakesDb bio.userDb (fpcTaBioLoadEmptyDbOps env bio) bio'.userDb := by
  have hdestroyed : TakesDb bio.userDb (fpcDbDestroyOps bio.userDb) none :=
    ⟨fpcDbDestroy_owns _, onlyValidHold_none⟩
  cases fpcTaBioLoadEmptyDb_cases h with
  | dropped hcreate => exact hdestroyed.trans (create_takes (Or.inr ⟨_, hcreate, rfl⟩))
  | created hcreate => exact hdestroyed.trans (create_takes (Or.inl ⟨_, hcreate, rfl⟩))

/-- The commands of the bio module take the blocks of the database to those of the one they leave. -/
theorem bioSwitch_takes {msg : List UInt8} {answer : UInt32} {cmd : BioCmd} {reply : BioReply}
    (hheld : OnlyValidHold ta.bio.userDb)
    (h : bioSwitch P env ta msg answer cmd = .ok reply) :
    TakesDb ta.bio.userDb (bioOps P env ta answer cmd) reply.ta.bio.userDb := by
  cases bioSwitch_ran h with
  | setActiveFingerprintSet hbio =>
    rw [hbio]
    exact .refl hheld
  | beginEnrol hbegin => exact fpcTaBioBeginEnrol_takes hheld hbegin
  | enrol _ =>
    rw [(bioSwitch_sameDb h rfl).userDb]
    exact .refl hheld
  | endEnrol hbio =>
    rw [hbio]
    exact fpcTaBioEndEnrol_takes ta.hwAuth hheld
  | identify hidentify hbio =>
    rw [hbio]
    exact fpcTaBioIdentify_takes hheld hidentify
  | updateTemplate hupdate => exact fpcTaBioUpdateTemplate_takes hheld hupdate
  | loadEmptyDb hload => exact fpcTaBioLoadEmptyDb_takes hload
  | getFingerIds hbio =>
    rw [hbio]
    exact .look hheld
  | deleteTemplate hdelete => exact fpcTaBioDeleteTemplate_takes hheld hdelete
  | getTemplateDbId hbio =>
    rw [hbio]
    exact .look hheld
  | getIdentifyStatistics hbio =>
    rw [hbio]
    exact .refl hheld

end

end Fpc
