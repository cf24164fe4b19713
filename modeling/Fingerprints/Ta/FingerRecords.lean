import Fingerprints.Ta.EndEnrol
import Fingerprints.Ta.FingerLineage

/-!
# A finger keeps its record on its way

The lineage of a finger is told from the commands alone. It leads to the same finger: the one in
the slot it leads to has the id and the user of the one it was followed back from
(`run_lineage_record`), as a slot that holds a finger before and after a command that is not a load
holds the same one, up to the move of an identification (`step_record`).
-/

namespace Fpc

open Wire Wire.Outcome Runs

/-- The id and the user of the finger in a slot. -/
def recordAt (pDb : Option FingerprintDatabase) (k : Nat) : Option (Id256 × UInt64) :=
  (slots pDb)[k]?.bind fun f =>
    if f.valid = fpcDbEntryValid then some (f.fingerprintId, f.secureUserId) else none

theorem recordAt_eq_some {pDb : Option FingerprintDatabase} {k : Nat} {record : Id256 × UInt64} :
    recordAt pDb k = some record ↔ ∃ f, (slots pDb)[k]? = some f ∧ f.valid = fpcDbEntryValid ∧
      (f.fingerprintId, f.secureUserId) = record := by
  rw [recordAt, Option.bind_eq_some_iff]
  simp

theorem recordAt_congr {pDb pDb' : Option FingerprintDatabase} {j k : Nat}
    (h : (slots pDb')[k]? = (slots pDb)[j]?) : recordAt pDb' k = recordAt pDb j := by
  rw [recordAt, h, recordAt]

theorem fingerAt_iff {pDb : Option FingerprintDatabase} {k : Nat} :
    FingerAt pDb k ↔ recordAt pDb k ≠ none := by
  rw [Option.ne_none_iff_exists']
  constructor
  · intro ⟨f, hslot, hvalid⟩
    exact ⟨_, recordAt_eq_some.mpr ⟨f, hslot, hvalid, rfl⟩⟩
  · intro ⟨record, hrecord⟩
    obtain ⟨f, hslot, hvalid, _⟩ := recordAt_eq_some.mp hrecord
    exact ⟨f, hslot, hvalid⟩

/-- The fingers of the database that were in it before are in their slots. -/
def KeepsSlots (pDb pDb' : Option FingerprintDatabase) : Prop :=
  ∀ k record, recordAt pDb' k = some record → recordAt pDb k = some record ∨ recordAt pDb k = none

theorem KeepsSlots.refl (pDb : Option FingerprintDatabase) : KeepsSlots pDb pDb :=
  fun _ _ => Or.inl

theorem KeepsSlots.of_eq {pDb pDb' : Option FingerprintDatabase} (h : pDb' = pDb) :
    KeepsSlots pDb pDb' := by
  rw [h]
  exact .refl pDb

/-! ## Operations on the database -/

/-- The set that a finger is added to is that of the database, where it has one. -/
theorem setForKey_slots {env : DbEnv} {db : FingerprintDatabase} {key : UInt32}
    {set : FingerprintSet} (h : setForKey env db key = .ok set) :
    slots (some db) = set.aFingerprintList.toList ∨ slots (some db) = [] := by
  unfold setForKey at h
  cases hset : db.pFingerprintSet with
  | some set' =>
    rw [hset] at h
    dsimp only at h
    split at h
    · cases h
    · cases h
      exact Or.inl (slots_of_set hset)
  | none => exact Or.inr (by simp [slots, hset])

/-- A finger is added to a slot that was free. -/
theorem fpcDbAddFingerprint_free {env : DbEnv} {pDb : Option FingerprintDatabase} {key : UInt32}
    {user : UInt64} {tpl : Template}
    (h : (fpcDbAddFingerprint env pDb key user tpl).status = 0) (k : Nat) :
    (slots (fpcDbAddFingerprint env pDb key user tpl).pDb)[k]? = (slots pDb)[k]? ∨
      recordAt pDb k = none := by
  cases pDb with
  | none => cases h
  | some db =>
    unfold fpcDbAddFingerprint at h ⊢
    cases hset : setForKey env db key with
    | error code =>
      simp only [hset] at h
      exact absurd h (setForKey_error hset)
    | ok set =>
      simp only [hset] at h ⊢
      split at h
      · cases h
      · next i hi =>
        split at h
        · cases h
        · next hstatus =>
          rw [if_neg hstatus]
          obtain ⟨hlt, hfree, _⟩ := List.findIdx?_eq_some_iff_getElem.mp hi
          cases setForKey_slots hset with
          | inr hempty => exact Or.inr (by rw [recordAt, hempty]; rfl)
          | inl hslots =>
            rw [slots_dbUpdateFingerprintStateId, slots_dbUpdateDatabaseId, slots_withSet,
              FingerprintSet.withSlots, Vector.toList_setIfInBounds, recordAt, hslots]
            by_cases hk : i = k
            · right
              subst hk
              rw [List.getElem?_eq_getElem hlt, Option.bind_some, beq_iff_eq.mp hfree]
              exact if_neg (by decide)
            · exact Or.inl (List.getElem?_set_ne hk)

theorem keepsSlots_fpcDbAddFingerprint (env : DbEnv) (pDb : Option FingerprintDatabase)
    (key : UInt32) (user : UInt64) (tpl : Template) :
    KeepsSlots pDb (fpcDbAddFingerprint env pDb key user tpl).pDb := by
  intro k record h
  obtain ⟨f, hslot, hvalid, hrecord⟩ := recordAt_eq_some.mp h
  cases getElem?_fpcDbAddFingerprint hslot hvalid with
  | inl hold => exact Or.inl (recordAt_eq_some.mpr ⟨f, hold, hvalid, hrecord⟩)
  | inr hnew =>
    apply (fpcDbAddFingerprint_free hnew.1 k).imp _ id
    intro hkept
    rw [← recordAt_congr hkept, h]

/-- A wiped slot holds no finger. -/
theorem keepsSlots_fpcDbDeleteFingerprint (pDb : Option FingerprintDatabase) (key : UInt32)
    (index : Nat) : KeepsSlots pDb (fpcDbDeleteFingerprint pDb key index).2 := by
  unfold fpcDbDeleteFingerprint
  split
  · next hlt =>
    split
    · next set hset =>
      obtain ⟨db, rfl, hdb, _⟩ := fpcDbGetSet_ok hset
      have hwiped : KeepsSlots (some db) (some { db with pFingerprintSet := some (set.withSlots
          (set.aFingerprintList.set index set.aFingerprintList[index].wiped)) }) := by
        intro k record h
        obtain ⟨f, hslot, hvalid, hrecord⟩ := recordAt_eq_some.mp h
        rw [slots_withSet, FingerprintSet.withSlots, Vector.toList_set] at hslot
        by_cases hk : index = k
        · subst hk
          rw [List.getElem?_set_self (by rw [Vector.length_toList]; exact hlt)] at hslot
          cases hslot
          cases hvalid
        · rw [List.getElem?_set_ne hk, ← slots_of_set hdb] at hslot
          exact Or.inl (recordAt_eq_some.mpr ⟨f, hslot, hvalid, hrecord⟩)
      dsimp only [Option.map_some]
      split
      · intro k record h
        apply hwiped k record
        unfold fpcDbDeleteSet at h
        split at h
        · cases h
        · exact h
      · exact hwiped
    · exact .refl pDb
  · exact .refl pDb

/-- Replacing the template of a slot leaves the other slots. -/
theorem slots_replaceTemplate_ne (pDb : Option FingerprintDatabase) {index k : Nat} (tpl : Template)
    (h : index ≠ k) : (slots (replaceTemplate pDb index tpl))[k]? = (slots pDb)[k]? := by
  cases pDb with
  | none => rfl
  | some db =>
    cases hset : db.pFingerprintSet with
    | none =>
      rw [replaceTemplate, Option.map_some, hset, Option.map_none, slots_withoutSet]
      simp [slots, hset]
    | some set =>
      rw [replaceTemplate, Option.map_some, hset, Option.map_some, slots_withSet,
        slots_of_set hset, FingerprintSet.replaceTemplate, FingerprintSet.withSlots,
        Vector.toList_setIfInBounds, List.getElem?_set_ne h]

/-- A slot keeps its record when its template is replaced. -/
theorem recordAt_replaceTemplate (pDb : Option FingerprintDatabase) (index : Nat) (tpl : Template)
    (k : Nat) : recordAt (replaceTemplate pDb index tpl) k = recordAt pDb k := by
  cases pDb with
  | none => rfl
  | some db =>
    by_cases hk : index = k
    · subst hk
      cases hset : db.pFingerprintSet with
      | none => simp [replaceTemplate, recordAt, slots, hset]
      | some set =>
        rw [recordAt, recordAt, replaceTemplate, Option.map_some, hset, Option.map_some,
          slots_withSet, slots_of_set hset, FingerprintSet.replaceTemplate,
          FingerprintSet.withSlots, Vector.toList_setIfInBounds, List.getElem?_set]
        rw [if_pos rfl]
        split
        · next hlt => 
          rw [List.getD_eq_getElem _ _ hlt, List.getElem?_eq_getElem hlt]
          rfl
        · next hge => rw [List.getElem?_eq_none (by omega)]
    · exact recordAt_congr (slots_replaceTemplate_ne (some db) tpl hk)

/-- Induction on the turns of the loop. -/
theorem recordAt_updateTemplates {env : Env} {bio : Bio} {n i : Nat}
    {pDb pDb' : Option FingerprintDatabase} {status : Int}
    (h : updateTemplates env bio n i pDb = .ok (status, pDb')) (k : Nat) :
    recordAt pDb' k = recordAt pDb k := by
  induction n generalizing i pDb with
  | zero =>
    cases h
    rfl
  | succ n ih =>
    unfold updateTemplates at h
    split at h
    · dsimp only at h
      split at h
      · split at h
        · cases h
        · cases h
          rfl
        · split at h
          · cases h
            rfl
          · split at h
            · cases h
              rfl
            · rw [ih h, recordAt_replaceTemplate]
      · cases h
    · cases h

/-! ## Commands -/

section

variable {P : Platform} {env : Env} {ta ta' : Ta} {msg : List UInt8} {r : Handled} {e : Event}

/-- A bio command other than an identification and a load leaves the fingers in their slots. -/
theorem keepsSlots_bioSwitch {cmd : BioCmd} {answer : UInt32} {reply : BioReply}
    (h : bioSwitch P env ta msg answer cmd = .ok reply) (hidentify : cmd ≠ .identify)
    (hload : cmd ≠ .loadEmptyDb) : KeepsSlots ta.bio.userDb reply.ta.bio.userDb := by
  cases bioSwitch_ran h with
  | setActiveFingerprintSet hbio =>
    rw [hbio]
    exact .refl _
  | beginEnrol hbegin => exact .of_eq (fpcTaBioBeginEnrol_frame hbegin).1
  | enrol hbio =>
    rw [hbio]
    exact .of_eq (fpcTaBioEnrol_frame ta.bio).1
  | endEnrol hbio =>
    rw [hbio]
    rcases fpcTaBioEndEnrol_userDb env ta.bio ta.hwAuth with hkept | ⟨user, tpl, _, hadded⟩
    · exact .of_eq hkept
    · rw [hadded]
      exact keepsSlots_fpcDbAddFingerprint env.db ta.bio.userDb ta.bio.activeSetKey user tpl
  | identify _ _ => exact absurd rfl hidentify
  | updateTemplate hupdate =>
    generalize reply.ta.bio = bio at hupdate ⊢
    cases fpcTaBioUpdateTemplate_cases hupdate with
    | skipped _ => exact .refl _
    | looped _ _ hloop =>
      intro k record hrecord
      rw [recordAt_updateTemplates hloop] at hrecord
      exact Or.inl hrecord
  | loadEmptyDb _ => exact absurd rfl hload
  | getFingerIds hbio =>
    rw [hbio]
    exact .refl _
  | deleteTemplate hdelete =>
    generalize reply.ta.bio = bio at hdelete ⊢
    cases fpcTaBioDeleteTemplate_cases hdelete with
    | noId _ => exact .refl _
    | missed _ _ => exact .refl _
    | found _ _ => exact keepsSlots_fpcDbDeleteFingerprint _ _ _
  | getTemplateDbId hbio =>
    rw [hbio]
    exact .refl _
  | getIdentifyStatistics hbio =>
    rw [hbio]
    exact .refl _

/-- A file command that is not a load leaves the database. -/
theorem fsSwitch_userDb {cmd : FsCmd} (h : fsSwitch env ta msg cmd = .ok r)
    (hload : ¬ (cmd = .loadDb ∧ byteArrayStringValid msg = .ok true)) :
    r.ta.bio.userDb = ta.bio.userDb := by
  cases fsSwitch_ran h with
  | kept _ hta => rw [hta]
  | loaded hvalid _ _ => exact absurd ⟨rfl, hvalid⟩ hload

/-- A blob that decodes replaces the database, and is answered with 0. -/
theorem unwrap_userDb {bio bio' : Bio} {transfer transfer' : Transfer} {result : Int}
    (h : unwrap env bio transfer = .ok (result, bio', transfer')) :
    bio'.userDb = bio.userDb ∨ result = 0 := by
  unfold unwrap at h
  dsimp only at h
  split at h
  · cases h
    exact Or.inl rfl
  · split at h
    · cases h
    · cases h
      exact Or.inl rfl
    · cases h
      exact Or.inr rfl

theorem fpcTaDbWrite_userDb {bio bio' : Bio} {transfer transfer' : Transfer} {size : Nat}
    {result : Int} (h : fpcTaDbWrite env bio transfer msg size = .ok (result, bio', transfer')) :
    bio'.userDb = bio.userDb ∨ result = 0 := by
  unfold fpcTaDbWrite at h
  split at h
  · cases h
    exact Or.inl rfl
  · split at h
    · cases h
      exact Or.inl rfl
    · obtain ⟨copied, _, h⟩ := bind_eq_ok.mp h
      split at h
      · exact unwrap_userDb h
      · cases h
        exact Or.inl rfl

/-- A blob command leaves the database, or is a WRITE that answers 0. -/
theorem dbBlobSwitch_userDb {cmd : DbBlobCmd} (h : dbBlobSwitch P env ta msg cmd = .ok r) :
    r.ta.bio.userDb = ta.bio.userDb ∨
      (cmd = .dbWrite ∧ r.status = 0 ∧ toInt32 (field32 r.msg offResponse) = 0) := by
  cases dbBlobSwitch_ran h with
  | kept hta =>
    left
    rw [hta]
  | written hwrite hstore hstatus hta =>
    rw [hta]
    apply (fpcTaDbWrite_userDb hwrite).imp id
    rintro rfl
    obtain ⟨hin, hmsg⟩ := store32_ok hstore
    refine ⟨rfl, hstatus, ?_⟩
    rw [hmsg, field32_put32 (by omega)]
    rfl

/-- A slot that holds a finger after a command that is no load held it before, up to the move of an
identification, or held none. -/
theorem step_record (h : (taSystem P).step ta e ta') (hload : e.loads = false) (k : Nat)
    {record : Id256 × UInt64} (hrecord : recordAt ta'.bio.userDb k = some record) :
    recordAt ta.bio.userDb (e.movedFrom k) = some record ∨
      recordAt ta.bio.userDb (e.movedFrom k) = none := by
  cases hidentify : isIdentify e with
  | true =>
    rw [recordAt_congr (step_identify_slots h hidentify k)] at hrecord
    exact Or.inl hrecord
  | false =>
    have hmoved : e.movedFrom k = k := by
      rw [Event.movedFrom, reportedMatch, hidentify]
      rfl
    rw [hmoved]
    suffices hkeeps : KeepsSlots ta.bio.userDb ta'.bio.userDb from hkeeps k record hrecord
    obtain ⟨rfl, hroute, rfl⟩ := h
    unfold Event.loads at hload
    simp only [Bool.or_eq_false_iff, Bool.and_eq_false_iff, decide_eq_false_iff_not] at hload
    obtain ⟨⟨hfile, hempty⟩, hblob⟩ := hload
    cases fpcTaRouteCommand_routed hroute with
    | none _ timestamp hta => exact .of_eq (by rw [hta])
    | fs cmd hcmd hswitch =>
      apply KeepsSlots.of_eq
      apply fsSwitch_userDb hswitch
      intro ⟨hloadDb, hpath⟩
      rw [hloadDb, ← is_iff] at hcmd
      simp [hcmd, hpath] at hfile
    | hwAuth cmd hcmd hswitch =>
      obtain ⟨matchResult, hwAuth, hta⟩ := hwAuthSwitch_frame hcmd hswitch
      exact .of_eq (by rw [hta])
    | dbBlob cmd hcmd hswitch =>
      apply KeepsSlots.of_eq
      apply (dbBlobSwitch_userDb hswitch).resolve_right
      intro ⟨hwrite, hstatus, hresponse⟩
      rw [hwrite, ← is_iff] at hcmd
      simp [hcmd, hstatus, Event.response, Event.resultAt, hresponse] at hblob
    | bio cmd hcmd hswitch =>
      obtain ⟨answer, reply, hreply, hta⟩ := bioRespond_ok hswitch
      rw [hta]
      apply keepsSlots_bioSwitch hreply
      · intro hcmd'
        rw [hcmd', ← is_iff] at hcmd
        rw [isIdentify, hcmd] at hidentify
        cases hidentify
      · intro hcmd'
        rw [hcmd', ← is_iff, hempty] at hcmd
        cases hcmd
    | pn cmd _ hswitch =>
      obtain ⟨pn, hta⟩ := pnSwitch_frame hswitch
      exact .of_eq (by rw [hta])

/-- A command from whose slot a finger is followed back leaves its record. -/
theorem step_origin_record {j k : Nat} {record : Id256 × UInt64} (h : (taSystem P).step ta e ta')
    (horigin : e.origin k = some j) (hrecord : recordAt ta'.bio.userDb k = some record) :
    recordAt ta.bio.userDb j = some record := by
  obtain ⟨rfl, _, _⟩ := id h
  unfold Event.origin at horigin
  split at horigin
  · next hkept =>
    cases horigin
    exact (step_record h hkept.1 k hrecord).resolve_right (fingerAt_iff.mp hkept.2)
  · cases horigin

/-- **The lineage of a finger leads to the same finger**, with its id and its user, in the state
in front of the events. -/
theorem run_lineage_record {later past : List Event} {k s : Nat} {record : Id256 × UInt64}
    (hrun : (taSystem P).Run (later ++ past) ta)
    (hlineage : lineage Event.origin later k = some s)
    (hrecord : recordAt ta.bio.userDb k = some record) :
    ∃ t, (taSystem P).Run past t ∧ recordAt t.bio.userDb s = some record := by
  obtain ⟨t, hpast, hlater⟩ := hrun.split
  have hstep : ∀ s e s' j k, ((taSystem P).restarted t fun _ => True).step s e s' →
      e.origin k = some j → recordAt s'.bio.userDb k = some record →
      recordAt s.bio.userDb j = some record := by
    intro s e s' j k hstep
    exact step_origin_record hstep.1
  obtain ⟨t', hstart, hs⟩ :=
    (hlater _ fun _ _ => trivial).lineage_preserves hstep hlineage hrecord
  cases hstart
  exact ⟨t, hpast, hs⟩

end

end Fpc
