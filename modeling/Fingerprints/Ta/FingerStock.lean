import Fingerprints.Runs.Inventory
import Fingerprints.Runs.Simulation
import Fingerprints.Ta.FingerRecords
import Fingerprints.Ta.OwnedTemplates

/-!
# The application as an inventory of fingers

What the database of the application is for, apart from slots, sets, templates and their order: it holds at
most five records of a finger and its user. A load exchanges them, the end of an enrolment adds one, a
deletion removes one, and no other command touches them.

* **`Means`**: what a command with its answer means to the inventory;
* **`fpcTaBioEndEnrol_stock`**, **`stockOf_fpcDbDeleteFingerprint`**: the two commands that change it;
* **`run_refines`**: the application refines the inventory, in every run.
-/

namespace Fpc

open Wire Wire.Outcome Runs

/-! ## Stocks -/

/-- The id and the user of a slot that holds a finger. -/
def recordOf (f : Fingerprint) : Option (Id256 × UInt64) :=
  if f.valid = fpcDbEntryValid then some (f.fingerprintId, f.secureUserId) else none

/-- The records of some slots. -/
def recordsIn (fs : List Fingerprint) : Multiset (Id256 × UInt64) := fs.filterMap recordOf

/-- The records of a database. -/
def stockOf (pDb : Option FingerprintDatabase) : Multiset (Id256 × UInt64) := recordsIn (slots pDb)

section

variable {fs fs' : List Fingerprint} {f old : Fingerprint} {i : Nat}

theorem recordOf_of_valid (h : f.valid = fpcDbEntryValid) :
    recordOf f = some (f.fingerprintId, f.secureUserId) := if_pos h

theorem recordOf_of_ne (h : f.valid ≠ fpcDbEntryValid) : recordOf f = none := if_neg h

theorem recordOf_wiped (f : Fingerprint) : recordOf f.wiped = none := recordOf_of_ne (show fpcDbEntryInvalid ≠ fpcDbEntryValid by decide)

theorem recordsIn_perm (h : fs.Perm fs') : recordsIn fs = recordsIn fs' :=
  Multiset.coe_eq_coe.mpr (h.filterMap recordOf)

theorem recordsIn_eq_zero (h : ∀ f ∈ fs, f.valid ≠ fpcDbEntryValid) : recordsIn fs = 0 := by
  rw [recordsIn, List.filterMap_eq_nil_iff.mpr fun f hf => recordOf_of_ne (h f hf)]
  rfl

theorem recordsIn_cons (f : Fingerprint) (fs : List Fingerprint) :
    recordsIn (f :: fs) = (recordOf f).toList + recordsIn fs := by
  unfold recordsIn
  rw [List.filterMap_cons]
  cases recordOf f with
  | none => rfl
  | some record => rfl

/-- A slot is exchanged. -/
theorem recordsIn_set (hold : fs[i]? = some old) :
    recordsIn (fs.set i f) + (recordOf old).toList = recordsIn fs + (recordOf f).toList := by
  obtain ⟨hlt, rfl⟩ := List.getElem?_eq_some_iff.mp hold
  rw [recordsIn_perm (List.set_perm_cons_eraseIdx hlt f),
    recordsIn_perm (List.getElem_cons_eraseIdx_perm hlt).symm, recordsIn_cons, recordsIn_cons]
  rw [add_assoc, add_comm, add_comm (recordsIn (fs.eraseIdx i))]

/-- A finger is put into a slot that was free. -/
theorem recordsIn_set_free (hold : fs[i]? = some old) (hfree : old.valid ≠ fpcDbEntryValid)
    (hvalid : f.valid = fpcDbEntryValid) :
    recordsIn (fs.set i f) = (f.fingerprintId, f.secureUserId) ::ₘ recordsIn fs := by
  have hset := @recordsIn_set fs f old i hold
  rw [recordOf_of_ne hfree, recordOf_of_valid hvalid, Option.toList_none, Multiset.coe_nil, add_zero,
    Option.toList_some, Multiset.coe_singleton] at hset
  rw [← Multiset.singleton_add, add_comm, hset]

/-- A slot is emptied. -/
theorem recordsIn_set_wiped (hold : fs[i]? = some old) (hvalid : old.valid = fpcDbEntryValid) :
    recordsIn fs = (old.fingerprintId, old.secureUserId) ::ₘ recordsIn (fs.set i old.wiped) := by
  have hset := @recordsIn_set fs old.wiped old i hold
  rw [recordOf_wiped, recordOf_of_valid hvalid, Option.toList_none, Multiset.coe_nil, add_zero,
    Option.toList_some, Multiset.coe_singleton] at hset
  rw [← Multiset.singleton_add, add_comm, hset]

/-- Lists with the same records in the same places have the same records. Induction on the first. -/
theorem recordsIn_congr (h : ∀ k : Nat, fs'[k]?.bind recordOf = fs[k]?.bind recordOf) :
    recordsIn fs' = recordsIn fs := by
  induction fs' generalizing fs with
  | nil =>
    symm
    apply recordsIn_eq_zero
    intro f hf hvalid
    obtain ⟨k, hk⟩ := List.mem_iff_getElem?.mp hf
    have hnone := h k
    rw [hk, List.getElem?_nil, Option.bind_none, Option.bind_some, recordOf_of_valid hvalid] at hnone
    cases hnone
  | cons f' rest ih =>
    have hrest : recordsIn rest = recordsIn fs.tail := ih fun k => by
      rw [List.getElem?_tail]
      exact h (k + 1)
    have hhead := h 0
    rw [recordsIn_cons, hrest]
    cases fs with
    | nil =>
      rw [List.getElem?_cons_zero, Option.bind_some, List.getElem?_nil, Option.bind_none] at hhead
      rw [hhead]
      rfl
    | cons f fs =>
      rw [List.getElem?_cons_zero, Option.bind_some, List.getElem?_cons_zero, Option.bind_some] at hhead
      rw [hhead, recordsIn_cons]
      rfl

end

section

variable {pDb pDb' : Option FingerprintDatabase}

theorem stockOf_card_le (pDb : Option FingerprintDatabase) : (stockOf pDb).card ≤ fpcDbFingerprintsInSet :=
  le_trans (List.length_filterMap_le ..) (length_slots_le pDb)

theorem stockOf_congr (h : ∀ k, recordAt pDb' k = recordAt pDb k) : stockOf pDb' = stockOf pDb :=
  recordsIn_congr h

theorem stockOf_eq_zero (h : slots pDb = []) : stockOf pDb = 0 := by
  rw [stockOf, h]
  rfl

/-! ## Adding -/

theorem recordsIn_slotsOrFree (db : FingerprintDatabase) :
    recordsIn (slotsOrFree db) = stockOf (some db) := by
  unfold slotsOrFree
  cases hset : db.pFingerprintSet with
  | some set => rw [stockOf, slots_of_set hset]
  | none =>
    rw [stockOf_eq_zero (slots_withoutSet_of hset)]
    apply recordsIn_eq_zero
    intro f hf
    rw [List.eq_of_mem_replicate hf]
    decide

/-- An addition that returns 0 got as far as drawing the id, and drew it. -/
theorem fpcDbAddFingerprint_status_iff {env : DbEnv} {db : FingerprintDatabase} {key : UInt32}
    {user : UInt64} {tpl : Template} :
    (fpcDbAddFingerprint env (some db) key user tpl).status = 0 ↔
      DrawsFingerId env db key ∧ (env.random256 .fingerprintId).1 = 0 := by
  by_cases hreached : DrawsFingerId env db key
  · obtain ⟨set, i, hset, hfree⟩ := drawsFingerId_iff.mp hreached
    by_cases hdraw : (env.random256 .fingerprintId).1 = 0
    · rw [fpcDbAddFingerprint_drawn hset hfree hdraw]
      exact iff_of_true rfl ⟨hreached, hdraw⟩
    · rw [fpcDbAddFingerprint_undrawn hset hfree hdraw]
      exact iff_of_false (show -fpcErrorIo ≠ 0 by decide) fun h => hdraw h.2
  · exact iff_of_false (fpcDbAddFingerprint_unreached hreached).1 fun h => hreached h.1

/-- **What an addition makes of the stock**: with 0 one record more, and else nothing. -/
theorem stockOf_fpcDbAddFingerprint (env : DbEnv) (pDb : Option FingerprintDatabase) (key : UInt32)
    (user : UInt64) (tpl : Template) :
    ((fpcDbAddFingerprint env pDb key user tpl).status = 0 →
      stockOf (fpcDbAddFingerprint env pDb key user tpl).pDb
        = ((env.random256 .fingerprintId).2, user) ::ₘ stockOf pDb) ∧
    ((fpcDbAddFingerprint env pDb key user tpl).status ≠ 0 →
      stockOf (fpcDbAddFingerprint env pDb key user tpl).pDb = stockOf pDb) := by
  have hslots := fpcDbAddFingerprint_slots env pDb key user tpl
  unfold stockOf
  generalize slots (fpcDbAddFingerprint env pDb key user tpl).pDb = fs at hslots ⊢
  cases hslots with
  | kept hreached =>
    refine ⟨fun hzero => ?_, fun _ => rfl⟩
    cases pDb with
    | none => cases hzero
    | some db => exact absurd (fpcDbAddFingerprint_status_iff.mp hzero).1 (hreached db rfl)
  | @undrawn db i old hdb hold hfree hdraw =>
    subst hdb
    refine ⟨fun hzero => absurd (fpcDbAddFingerprint_status_iff.mp hzero).2 hdraw, fun _ => ?_⟩
    have hset := @recordsIn_set _ { old with fingerprintId := (env.random256 .fingerprintId).2 } old i hold
    have hinvalid : old.valid ≠ fpcDbEntryValid := by
      rw [hfree]
      decide
    rw [recordOf_of_ne hinvalid, recordOf_of_ne (f := { old with
      fingerprintId := (env.random256 .fingerprintId).2 }) hinvalid] at hset
    rw [← stockOf, ← recordsIn_slotsOrFree]
    exact add_right_cancel hset
  | @drawn db i old hdb hold hfree hreached hdraw =>
    subst hdb
    refine ⟨fun _ => ?_, fun hne => ?_⟩
    · rw [recordsIn_set_free hold (by rw [hfree]; decide) rfl, recordsIn_slotsOrFree]
      rfl
    · exact absurd (fpcDbAddFingerprint_status_iff.mpr ⟨hreached, hdraw⟩) hne

/-! ## Removing -/

/-- **What a deletion makes of the stock**: where the set is there under the key, one record less. -/
theorem stockOf_fpcDbDeleteFingerprint {key : UInt32} {index : Nat} {set : FingerprintSet}
    {f : Fingerprint} (hset : fpcDbGetSet pDb key = .ok set) (hslot : (slots pDb)[index]? = some f)
    (hvalid : f.valid = fpcDbEntryValid) :
    stockOf pDb = (f.fingerprintId, f.secureUserId) ::ₘ
      stockOf (fpcDbDeleteFingerprint pDb key index).2 := by
  have hlt : index < fpcDbFingerprintsInSet :=
    lt_of_lt_of_le (List.getElem?_eq_some_iff.mp hslot).1 (length_slots_le pDb)
  obtain ⟨old, hold, hwiped⟩ := slots_fpcDbDeleteFingerprint_of_set hlt hset
  rw [hslot] at hold
  cases hold
  unfold stockOf
  rw [recordsIn_set_wiped hslot hvalid]
  cases hwiped with
  | inl hwiped => rw [hwiped]
  | inr hempty => rw [hempty.1, recordsIn_eq_zero hempty.2]; rfl

theorem fpcDbDeleteFingerprint_error {key : UInt32} {index : Nat} {code : Int}
    (h : fpcDbGetSet pDb key = .error code) : (fpcDbDeleteFingerprint pDb key index).2 = pDb := by
  unfold fpcDbDeleteFingerprint
  rw [h]
  split
  · rfl
  · rfl

end

/-! ## Commands -/

/-- What a command and its answer mean to the inventory. -/
inductive Means (P : Platform) (e : Event) : InventoryOp (Id256 × UInt64) → Prop
  | loaded {db : FingerprintDatabase} (hload : e.loads = true)
      (hcreate : fpcDbCreate e.env.db e.image e.imageSize = .ok db) :
      Means P e (.exchange (stockOf (some db)))
  | dropped (hload : e.loads = true) (hwrite : e.is (.dbBlob .dbWrite) = false) :
      Means P e (.exchange 0)
  | continued (hwrite : e.is (.dbBlob .dbWrite) = true) : Means P e .keep
  | enrolled (hcmd : e.is (.bio .endEnrol) = true) (hzero : e.response = 0)
      (hvalid : TokenValid P e.env e.pre.hwAuth) :
      Means P e (.add ((e.env.db.random256 .fingerprintId).2, e.pre.hwAuth.incomingToken.userId))
  | refused (hcmd : e.is (.bio .endEnrol) = true) (hne : e.response ≠ 0) : Means P e .keep
  | deleted {index : Nat} {f : Fingerprint} (hcmd : e.is (.bio .deleteTemplate) = true)
      (hid : field32 e.msg offAnswer ≠ 0)
      (hindex : fpcDbGetIndexOfId32 e.pre.bio.userDb (field32 e.msg offAnswer) = .ok index)
      (hset : ∃ set, fpcDbGetSet e.pre.bio.userDb e.pre.bio.activeSetKey = .ok set)
      (hslot : (slots e.pre.bio.userDb)[index]? = some f) :
      Means P e (.remove (f.fingerprintId, f.secureUserId))
  | missed (hcmd : e.is (.bio .deleteTemplate) = true)
      (hnone : field32 e.msg offAnswer = 0 ∨
        (∀ index, fpcDbGetIndexOfId32 e.pre.bio.userDb (field32 e.msg offAnswer) ≠ .ok index) ∨
        ∀ set, fpcDbGetSet e.pre.bio.userDb e.pre.bio.activeSetKey ≠ .ok set) : Means P e .keep
  | untouched (hload : e.loads = false) (hend : e.is (.bio .endEnrol) = false)
      (hdelete : e.is (.bio .deleteTemplate) = false) : Means P e .keep

section

variable {P : Platform} {env : Env} {bio : Bio} {hwAuth : HwAuthTa} {ta ta' : Ta} {e : Event}

/-- **What the end of an enrolment makes of the stock**: with 0 a record more, for the user it was allowed
to enrol, and else nothing. -/
theorem fpcTaBioEndEnrol_stock (P : Platform) (env : Env) (bio : Bio) (hwAuth : HwAuthTa) :
    ((fpcTaBioEndEnrol P env bio hwAuth).status = 0 →
      ∃ user, (fpcEnrollmentAllowed P env hwAuth).1 = some user ∧
        stockOf (fpcTaBioEndEnrol P env bio hwAuth).bio.userDb
          = ((env.db.random256 .fingerprintId).2, user) ::ₘ stockOf bio.userDb) ∧
    ((fpcTaBioEndEnrol P env bio hwAuth).status ≠ 0 →
      stockOf (fpcTaBioEndEnrol P env bio hwAuth).bio.userDb = stockOf bio.userDb) := by
  unfold fpcTaBioEndEnrol
  split
  · exact ⟨fun hzero => (by cases hzero), fun _ => rfl⟩
  · next addr hmalloc =>
    dsimp only
    split
    · exact ⟨fun hzero => absurd hzero (fpcResultToError_isError _).ne_zero, fun _ => rfl⟩
    · next hended =>
      split
      · exact ⟨fun hzero => (by cases hzero), fun _ => rfl⟩
      · next user hwAuth' hallowed =>
        have hadd := stockOf_fpcDbAddFingerprint env.db bio.userDb bio.activeSetKey user
          (.ofList addr bio.enrollData.enrolledTemplateSize env.algo.endEnroll.2)
        split
        · next hadded => exact ⟨fun hzero => (by cases hzero), fun _ => hadd.2 hadded⟩
        · next hadded =>
          have hzero := not_not.mp hadded
          -- the finger that was added is found
          obtain ⟨base, haddsTo, hslots, ⟨set, hset⟩, _⟩ := fpcDbAddFingerprint_zero hzero
          rw [getFinger_added hset hslots haddsTo.lt_length rfl]
          exact ⟨fun _ => ⟨user, by rw [hallowed], hadd.1 hzero⟩, fun hne => absurd rfl hne⟩

/-- The message of a bio command has the id that the command is about. -/
theorem step_bio {cmd : BioCmd} (h : (taSystem P).step ta e ta') (hcmd : e.is (.bio cmd) = true) :
    ∃ reply, bioSwitch P e.env ta e.msg (field32 e.msg offAnswer) cmd = .ok reply ∧ ta' = reply.ta ∧
      e.response = toInt32 (ofInt32 reply.response) := by
  obtain ⟨rfl, hroute, rfl⟩ := h
  rw [(fpcTaRouteCommand_of_bio P e.env e.pre (is_iff.mp hcmd)).2] at hroute
  obtain ⟨reply, hreply, hta, hresponse, _⟩ := bioRespond_asked hroute
  exact ⟨reply, hreply, hta, congrArg toInt32 hresponse⟩

/-! ## Steps -/

/-- A load that is no transfer drops the database or decodes another. -/
theorem step_load (h : (taSystem P).step ta e ta') (hload : e.loads = true)
    (hwrite : e.is (.dbBlob .dbWrite) = false) : ta'.bio.userDb = none ∨
      ∃ db, fpcDbCreate e.env.db e.image e.imageSize = .ok db ∧ ta'.bio.userDb = some db := by
  by_cases hempty : e.is (.bio .loadEmptyDb) = true
  · obtain ⟨reply, hswitch, rfl, _⟩ := step_bio h hempty
    obtain ⟨⟨status, bio⟩, hcreate, hswitch⟩ := bind_eq_ok.mp hswitch
    cases hswitch
    obtain ⟨rfl, _, _⟩ := h
    cases fpcTaBioLoadEmptyDb_cases hcreate with
    | dropped _ => exact Or.inl rfl
    | created hdb =>
      refine Or.inr ⟨_, ?_, rfl⟩
      rw [Event.imageSize, Event.image_loadEmptyDb hempty]
      exact hdb
  · rw [Event.loads, hwrite, Bool.not_eq_true _ |>.mp hempty, Bool.false_and, Bool.false_and,
      Bool.or_false, Bool.or_false, Bool.and_eq_true, decide_eq_true_eq] at hload
    obtain ⟨hcmd, hvalid⟩ := hload
    obtain ⟨rfl, hroute, rfl⟩ := h
    have hcommand := is_iff.mp hcmd
    cases fpcTaRouteCommand_routed hroute with
    | none hnone _ _ => rw [hcommand] at hnone; cases hnone
    | bio _ hother _ => rw [hcommand] at hother; cases hother
    | hwAuth _ hother _ => rw [hcommand] at hother; cases hother
    | dbBlob _ hother _ => rw [hcommand] at hother; cases hother
    | pn _ hother _ => rw [hcommand] at hother; cases hother
    | fs cmd hsame hswitch =>
      rw [hcommand] at hsame
      cases hsame
      cases fsSwitch_ran hswitch with
      | kept hinvalid _ =>
        rw [hinvalid rfl] at hvalid
        cases hvalid
      | loaded _ hfile hta =>
        rw [hta]
        exact fpcTaLoadDbFromFile_decoded hcmd hfile

/-- A transfer goes on, or decodes another database. -/
theorem step_write (h : (taSystem P).step ta e ta') (hwrite : e.is (.dbBlob .dbWrite) = true) :
    ta'.bio.userDb = ta.bio.userDb ∨
      ∃ db, fpcDbCreate e.env.db e.image e.imageSize = .ok db ∧ ta'.bio.userDb = some db := by
  obtain ⟨_, hswitch, rfl⟩ := step_dbBlob h hwrite
  obtain ⟨rfl, _, _⟩ := id h
  exact (step_dbBlob_decoded h hwrite hswitch).imp id And.right

/-- A command that exchanges, adds and removes nothing. -/
theorem step_untouched (h : (taSystem P).step ta e ta') (hload : e.loads = false)
    (hend : e.is (.bio .endEnrol) = false) (hdelete : e.is (.bio .deleteTemplate) = false) :
    stockOf ta'.bio.userDb = stockOf ta.bio.userDb := by
  have hchange := step_dbChange h
  obtain ⟨rfl, _, _⟩ := h
  generalize ta'.bio.userDb = pDb at hchange ⊢
  cases hchange with
  | kept => rfl
  | dropped hloads => rw [hload] at hloads; cases hloads
  | created hloads _ => rw [hload] at hloads; cases hloads
  | added hadd => rw [hadd.command] at hend; cases hend
  | deleted hcmd => rw [hdelete] at hcmd; cases hcmd
  | fronted _ hfront => exact recordsIn_perm (perm_fpcDbSetTemplateFirst hfront)
  | updated _ _ hloop => exact stockOf_congr (recordAt_updateTemplates hloop)

/-- The end of an enrolment. -/
theorem step_endEnrol_stock (h : (taSystem P).step ta e ta') (hcmd : e.is (.bio .endEnrol) = true) :
    (e.response = 0 → TokenValid P e.env e.pre.hwAuth ∧ stockOf ta'.bio.userDb
      = ((e.env.db.random256 .fingerprintId).2, e.pre.hwAuth.incomingToken.userId) ::ₘ
        stockOf ta.bio.userDb) ∧
    (e.response ≠ 0 → stockOf ta'.bio.userDb = stockOf ta.bio.userDb) := by
  obtain ⟨reply, hswitch, rfl, hresponse⟩ := step_bio h hcmd
  cases hswitch
  obtain ⟨rfl, _, _⟩ := h
  rw [toInt32_ofInt32 fpcTaBioEndEnrol_fits] at hresponse
  rw [hresponse]
  obtain ⟨hstored, hrefused⟩ := fpcTaBioEndEnrol_stock P e.env e.pre.bio e.pre.hwAuth
  refine ⟨fun hzero => ?_, hrefused⟩
  obtain ⟨user, hallowed, hstock⟩ := hstored hzero
  obtain ⟨hvalid, rfl⟩ := fpcEnrollmentAllowed_some hallowed
  exact ⟨hvalid, hstock⟩

/-- A deletion. -/
theorem step_deleteTemplate_stock (h : (taSystem P).step ta e ta')
    (hcmd : e.is (.bio .deleteTemplate) = true) :
    (∃ index f, field32 e.msg offAnswer ≠ 0 ∧
      fpcDbGetIndexOfId32 e.pre.bio.userDb (field32 e.msg offAnswer) = .ok index ∧
      (∃ set, fpcDbGetSet e.pre.bio.userDb e.pre.bio.activeSetKey = .ok set) ∧
      (slots e.pre.bio.userDb)[index]? = some f ∧
      stockOf ta.bio.userDb = (f.fingerprintId, f.secureUserId) ::ₘ stockOf ta'.bio.userDb) ∨
    ((field32 e.msg offAnswer = 0 ∨
        (∀ index, fpcDbGetIndexOfId32 e.pre.bio.userDb (field32 e.msg offAnswer) ≠ .ok index) ∨
        ∀ set, fpcDbGetSet e.pre.bio.userDb e.pre.bio.activeSetKey ≠ .ok set) ∧
      stockOf ta'.bio.userDb = stockOf ta.bio.userDb) := by
  obtain ⟨reply, hswitch, rfl, _⟩ := step_bio h hcmd
  obtain ⟨⟨status, bio⟩, hdelete, hswitch⟩ := bind_eq_ok.mp hswitch
  cases hswitch
  obtain ⟨rfl, _, _⟩ := h
  cases fpcTaBioDeleteTemplate_cases hdelete with
  | noId hid => exact Or.inr ⟨Or.inl hid, rfl⟩
  | missed hid hindex =>
    refine Or.inr ⟨Or.inr (Or.inl fun index hfound => ?_), rfl⟩
    rw [hindex] at hfound
    cases hfound
  | @found index hid hindex =>
    obtain ⟨f, hslot, hvalid, _⟩ := firstIndex_ok hindex
    cases hset : fpcDbGetSet e.pre.bio.userDb e.pre.bio.activeSetKey with
    | ok set =>
      exact Or.inl ⟨index, f, hid, hindex, ⟨set, rfl⟩, hslot,
        stockOf_fpcDbDeleteFingerprint hset hslot hvalid⟩
    | error code =>
      refine Or.inr ⟨Or.inr (Or.inr fun set hfound => ?_), ?_⟩
      · cases hfound
      · show stockOf (fpcDbDeleteFingerprint _ _ index).2 = _
        rw [fpcDbDeleteFingerprint_error hset]

/-- The inventory that the application is. -/
def Ta.inventory (ta : Ta) : Inventory (Id256 × UInt64) fpcDbFingerprintsInSet where
  stock := stockOf ta.bio.userDb
  bounded := stockOf_card_le ta.bio.userDb

theorem Inventory.ext_stock {κ : Type*} {capacity : Nat} {s t : Inventory κ capacity}
    (h : s.stock = t.stock) : s = t := by
  cases s
  cases t
  cases h
  rfl

/-- **Each command does to the inventory what it means.** -/
theorem step_refines (h : (taSystem P).step ta e ta') :
    ∃ op, Means P e op ∧ InventoryOp.Does ta.inventory op ta'.inventory := by
  have hkeep : Means P e .keep → stockOf ta'.bio.userDb = stockOf ta.bio.userDb →
      ∃ op, Means P e op ∧ InventoryOp.Does ta.inventory op ta'.inventory := by
    intro hmeans hsame
    refine ⟨.keep, hmeans, ?_⟩
    rw [show ta'.inventory = ta.inventory from Inventory.ext_stock hsame]
    exact .keep
  cases hend : e.is (.bio .endEnrol) with
  | true =>
    obtain ⟨hstored, hrefused⟩ := step_endEnrol_stock h hend
    by_cases hzero : e.response = 0
    · obtain ⟨hvalid, hstock⟩ := hstored hzero
      exact ⟨_, .enrolled hend hzero hvalid, .add hstock⟩
    · exact hkeep (.refused hend hzero) (hrefused hzero)
  | false =>
    cases hdelete : e.is (.bio .deleteTemplate) with
    | true =>
      obtain ⟨index, f, hid, hindex, hset, hslot, hstock⟩ | ⟨hnone, hstock⟩ :=
        step_deleteTemplate_stock h hdelete
      · exact ⟨_, .deleted hdelete hid hindex hset hslot, .remove hstock⟩
      · exact hkeep (.missed hdelete hnone) hstock
    | false =>
      cases hload : e.loads with
      | false => exact hkeep (.untouched hload hend hdelete) (step_untouched h hload hend hdelete)
      | true =>
        have hexchange : ∀ stock, stockOf ta'.bio.userDb = stock → Means P e (.exchange stock) →
            ∃ op, Means P e op ∧ InventoryOp.Does ta.inventory op ta'.inventory := by
          rintro _ rfl hmeans
          exact ⟨_, hmeans, .exchange ta'.inventory⟩
        cases hwrite : e.is (.dbBlob .dbWrite) with
        | false =>
          obtain hnone | ⟨db, hcreate, hsome⟩ := step_load h hload hwrite
          · exact hexchange 0 (by rw [hnone]; rfl) (.dropped hload hwrite)
          · exact hexchange _ (by rw [hsome]) (.loaded hload hcreate)
        | true =>
          obtain hkept | ⟨db, hcreate, hsome⟩ := step_write h hwrite
          · exact hkeep (.continued hwrite) (by rw [hkept])
          · exact hexchange _ (by rw [hsome]) (.loaded hload hcreate)

/-- **The application refines an inventory of at most five fingers.** In every run of the application, for
every message, clock, draw of random numbers, answer of the matcher and of the file system: what its
commands mean, in their order, is a run of the inventory that ends with the records of its database; and
these, with those that were taken out since the last load, are what that load brought with those that were
enrolled since. -/
theorem run_refines {history : List Event} (hrun : (taSystem P).Run history ta) :
    ∃ ops, List.Forall₂ (Means P) history ops ∧
      (inventory (Id256 × UInt64) fpcDbFingerprintsInSet).Run ops ta.inventory ∧
      stockOf ta.bio.userDb + takenOut ops = broughtIn ops := by
  have hsimulates : (taSystem P).Simulates (inventory (Id256 × UInt64) fpcDbFingerprintsInSet)
      (fun ta s => s = ta.inventory) (Means P) :=
    { init := fun ta hinit => ⟨ta.inventory, stockOf_eq_zero (slots_of_init hinit), rfl⟩
      step := fun ta e ta' s hs hstep => by
        subst hs
        obtain ⟨op, hmeans, hdoes⟩ := step_refines hstep
        exact ⟨op, _, hmeans, hdoes, rfl⟩ }
  obtain ⟨ops, _, hmeans, hops, rfl⟩ := hsimulates.run hrun
  exact ⟨ops, hmeans, hops, Run.balance hops⟩

end

/-- The stock of a run in which a finger was enrolled. -/
theorem run_refines_enrolled :
    ∃ history ta, (taSystem samplePlatform).Run history ta ∧
      stockOf ta.bio.userDb = {(Id256.filled 0x5A, sampleToken.userId)} ∧
      ∃ ops, List.Forall₂ (Means samplePlatform) history ops ∧
        (inventory (Id256 × UInt64) fpcDbFingerprintsInSet).Run ops ta.inventory ∧
        stockOf ta.bio.userDb + takenOut ops = broughtIn ops := by
  obtain ⟨history, ta, hrun, _, hrecords⟩ := execute_decided samplePlatform
    (sampleTouches ++ [sampleEndEnrol (Id256.filled 0x5A)])
    (fun _ ta => (slots ta.bio.userDb).filterMap recordOf = [(Id256.filled 0x5A, sampleToken.userId)])
    (by decide +kernel)
  exact ⟨history, ta, hrun, congrArg Multiset.ofList hrecords, run_refines hrun⟩

end Fpc
