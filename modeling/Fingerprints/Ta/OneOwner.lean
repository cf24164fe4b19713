import Mathlib.Data.Multiset.OrderedMonoid
import Fingerprints.Db.Image
import Fingerprints.Ta.BufferOps

/-!
# Template memory has one owner

The application beside the heap that its commands work on. What is live should be what hangs at the
user database, its set, its valid slots and the open transfer, each block once. The one step that
breaks this is a `DB_WRITE` that decodes a transfer while there is a database: `unwrap` does not
destroy the old one first, as `LOAD_DB` and `LOAD_EMPTY_DB` do.

* **`step_takes`**: what a command does to the blocks, and what it leaves to nobody.
* **`run_heap`**: in every run no block is misused, and what is live is what the owners hold and
  what was left to nobody.
* **`oneOwner_iff`**: a state of a run is in order exactly when no step of it dropped a database.
-/

namespace Fpc

open Wire Wire.Outcome Ledger Runs

/-! ## The heap of the application -/

/-- The switch of `fpc_ta_hw_auth_handler`. Only the result of an authentication looks at the
database. -/
def hwAuthOps (ta : Ta) : HwAuthCmd → List HeapOp
  | .getAuthResult => lookOps ta.bio.userDb
  | .setAuthChallenge => []
  | .getEnrolChallenge => []
  | .authorizeEnrol => []
  | .setSharedKey => []

/-- What a command does to the heap, and the pointer `transfer.data` that it leaves. The other
modules have no part in this memory. -/
def Event.heap (P : Platform) (e : Event) (buffers : Buffers) (data : Option Addr) : BufferHeap :=
  match commandOf e.msg with
  | some (.fs cmd) => (fsOps e.env e.pre e.msg buffers cmd, data)
  | some (.hwAuth cmd) => (hwAuthOps e.pre cmd, data)
  | some (.dbBlob cmd) => dbBlobHeap P e.env e.pre e.msg buffers data cmd
  | some (.bio cmd) => (bioOps P e.env e.pre (field32 e.msg offAnswer) cmd, data)
  | some (.pn _) => ([], data)
  | none => ([], data)

/-- The state with the pointer `transfer.data` and the heap. -/
structure HeapTa where
  ta : Ta
  data : Option Addr
  heap : Heap Addr

/-- A command with the addresses it gets for its buffers. -/
structure HeapEvent where
  event : Event
  buffers : Buffers

/-- The application on a heap that gives out no block that is live. -/
def heapSystem (P : Platform) : Runs.System HeapTa HeapEvent where
  init s := ∃ env, fpcTaRouterInit env = .ok s.ta ∧ s.data = none ∧
    Ledger.Fresh (.holding 0) (fpcDbCreateOps env.db none 0) ∧
    s.heap = (Heap.holding 0).run (fpcDbCreateOps env.db none 0)
  step s e s' := (taSystem P).step s.ta e.event s'.ta ∧
    Ledger.Fresh s.heap (e.event.heap P e.buffers s.data).1 ∧
    s'.data = (e.event.heap P e.buffers s.data).2 ∧
    s'.heap = s.heap.run (e.event.heap P e.buffers s.data).1

/-- Every live block is referenced once: by the user database, its set, a valid slot or the open
transfer. -/
structure OneOwner (s : HeapTa) : Prop where
  unmisused : s.heap.misused = false
  live : s.heap.live = ↑(blocks s.ta.bio.userDb) + ↑s.data.toList
  once : s.heap.live.Nodup
  held : OnlyValidHold s.ta.bio.userDb
  points : s.data.isSome = s.ta.transfer.data.isSome

/-- The `DB_WRITE` that brings the last bytes of a transfer which holds a database, while there is
a database. -/
structure Event.Orphans (e : Event) : Prop where
  command : e.is (.dbBlob .dbWrite) = true
  valid : byteArrayValid e.msg = .ok true
  completes : CompletesTransfer e.pre.transfer (field32 e.msg offSize).toNat
  decodes : DecodesTransfer e.env (e.pre.transfer.take (e.pre.transfer.data.getD []) e.msg
    (field32 e.msg offSize).toNat)
  present : e.pre.bio.userDb ≠ none

/-! ## One command -/

/-- A command takes what the state owns to what the next state owns, and leaves the blocks `dropped`
to nobody. -/
structure TakesTa (ta : Ta) (data : Option Addr) (made : BufferHeap) (ta' : Ta)
    (dropped : List Addr) : Prop where
  owns : Owns (↑(blocks ta.bio.userDb) + ↑data.toList) made.1
    (↑(blocks ta'.bio.userDb) + ↑made.2.toList + ↑dropped)
  held : OnlyValidHold ta'.bio.userDb
  points : made.2.isSome = ta'.transfer.data.isSome

section

variable {P : Platform} {ta ta' : Ta} {e : Event} {data : Option Addr} {ops : List HeapOp}
  {made : BufferHeap}

/-- A command that keeps the transfer, on the database. -/
theorem TakesTa.of_db (h : TakesDb ta.bio.userDb ops ta'.bio.userDb)
    (htransfer : ta'.transfer = ta.transfer) (hpoints : data.isSome = ta.transfer.data.isSome) :
    TakesTa ta data (ops, data) ta' [] := by
  refine ⟨(h.owns.frame ↑data.toList).congr rfl (add_zero _).symm, h.held, ?_⟩
  rw [htransfer]
  exact hpoints

/-- A command that keeps the database, on the buffer of the transfer. -/
theorem TakesTa.of_buffer (h : TakesBuffer ta.bio.userDb data made ta'.transfer)
    (hheld : OnlyValidHold ta.bio.userDb) (hdb : ta'.bio.userDb = ta.bio.userDb) :
    TakesTa ta data made ta' [] := by
  refine ⟨?_, by rwa [hdb], h.points⟩
  rw [hdb]
  exact h.owns.congr rfl (add_zero _).symm

/-- A command other than `DB_WRITE` drops nothing. -/
theorem not_orphans_of_other (h : e.is (.dbBlob .dbWrite) = false) : ¬ e.Orphans := by
  intro horphans
  rw [horphans.command] at h
  cases h

theorem hwAuth_takes {cmd : HwAuthCmd} (hcmd : commandOf e.msg = some (.hwAuth cmd))
    (hswitch : hwAuthSwitch P e.env ta e.msg cmd = .ok e.result)
    (hheld : OnlyValidHold ta.bio.userDb) (hpoints : data.isSome = ta.transfer.data.isSome) :
    TakesTa ta data (hwAuthOps ta cmd, data) e.result.ta [] := by
  have hlooked : TakesDb ta.bio.userDb (hwAuthOps ta cmd) ta.bio.userDb := by
    cases cmd with
    | getAuthResult => exact .look hheld
    | setAuthChallenge => exact .refl hheld
    | getEnrolChallenge => exact .refl hheld
    | authorizeEnrol => exact .refl hheld
    | setSharedKey => exact .refl hheld
  obtain ⟨matchResult, hwAuth, hta⟩ := hwAuthSwitch_frame hcmd hswitch
  rw [hta]
  exact .of_db hlooked rfl hpoints

/-- The commands of the blob module. -/
theorem dbBlob_takes {cmd : DbBlobCmd} (buffers : Buffers) (h : (taSystem P).step ta e ta')
    (hcmd : e.is (.dbBlob cmd) = true) (hinv : ta.transfer.Inv)
    (hheld : OnlyValidHold ta.bio.userDb) (hpoints : data.isSome = ta.transfer.data.isSome) :
    ∃ dropped, TakesTa ta data (dbBlobHeap P e.env ta e.msg buffers data cmd) ta' dropped ∧
      (dropped = [] ↔ ¬ e.Orphans) := by
  cases cmd with
  | getDbSize =>
    rw [step_getDbSize h hcmd]
    refine ⟨[], .of_db (.look hheld) rfl hpoints, iff_of_true rfl ?_⟩
    exact not_orphans_of_other (is_unique hcmd (by decide))
  | dbOpen =>
    obtain ⟨result, transfer, hopen, _, hta⟩ := step_dbOpen h hcmd
    subst hta
    refine ⟨[], .of_buffer (fpcTaDbOpen_takes hinv hpoints hopen) hheld rfl, iff_of_true rfl ?_⟩
    exact not_orphans_of_other (is_unique hcmd (by decide))
  | dbClose =>
    obtain ⟨_, hta⟩ := step_dbClose h hcmd
    subst hta
    have hfreed : Owns (↑(blocks ta.bio.userDb) + ↑data.toList) (fpcTaDbCloseOps data)
        (↑(blocks ta.bio.userDb) + ↑(none : Option Addr).toList) :=
      (Owns.frees data.toList _).congr (add_comm _ _) (add_zero _).symm
    refine ⟨[], .of_buffer ⟨hfreed, rfl⟩ hheld rfl, iff_of_true rfl ?_⟩
    exact not_orphans_of_other (is_unique hcmd (by decide))
  | dbRead =>
    have hnot : ¬ e.Orphans := not_orphans_of_other (is_unique hcmd (by decide))
    unfold dbBlobHeap
    cases step_dbRead h hcmd with
    | inl hrejected =>
      rw [hrejected.2.1, hrejected.1]
      exact ⟨[], .of_db (.refl hheld) rfl hpoints, iff_of_true rfl hnot⟩
    | inr hread =>
      obtain ⟨hvalid, result, transfer, msg, heffect, _, hta⟩ := hread
      subst hta
      rw [if_pos hvalid]
      exact ⟨[], .of_buffer (fpcTaDbRead_takes hpoints heffect) hheld rfl, iff_of_true rfl hnot⟩
  | dbWrite =>
    have hpre : e.pre = ta := h.1
    obtain ⟨_, hswitch, rfl⟩ := step_dbBlob h hcmd
    obtain ⟨valid, hvalid, hswitch⟩ := bind_eq_ok.mp hswitch
    unfold dbBlobHeap
    dsimp only
    cases valid with
    | false =>
      injection hswitch with hresult
      rw [← hresult, hvalid]
      refine ⟨[], .of_db (.refl hheld) rfl hpoints, iff_of_true rfl ?_⟩
      intro horphans
      rw [horphans.valid] at hvalid
      cases hvalid
    | true =>
      obtain ⟨size, hsize, hswitch⟩ := bind_eq_ok.mp hswitch
      obtain ⟨⟨result, bio, transfer⟩, hwrite, hswitch⟩ := bind_eq_ok.mp hswitch
      obtain ⟨_, _, hswitch⟩ := bind_eq_ok.mp hswitch
      injection hswitch with hresult
      rw [load32_ok hsize] at hwrite
      obtain ⟨dropped, htakes, hdropped, hpoints'⟩ := fpcTaDbWrite_takes hheld hpoints hwrite
      rw [← hresult, if_pos hvalid]
      refine ⟨dropped, ⟨htakes.owns, htakes.held, hpoints'⟩, hdropped.trans (not_congr ?_)⟩
      subst hpre
      constructor
      · rintro ⟨hcompletes, hdecodes, hpresent⟩
        exact ⟨hcmd, hvalid, hcompletes, hdecodes, hpresent⟩
      · intro horphans
        exact ⟨horphans.completes, horphans.decodes, horphans.present⟩

/-- **What a command does to the blocks.** It takes those of the state to those of the next, and
leaves some to nobody exactly when it drops a database. -/
theorem step_takes (buffers : Buffers) (h : (taSystem P).step ta e ta') (hinv : ta.transfer.Inv)
    (hheld : OnlyValidHold ta.bio.userDb) (hpoints : data.isSome = ta.transfer.data.isSome) :
    ∃ dropped, TakesTa ta data (e.heap P buffers data) ta' dropped ∧
      (dropped = [] ↔ ¬ e.Orphans) := by
  obtain ⟨rfl, hroute, rfl⟩ := id h
  unfold Event.heap
  cases fpcTaRouteCommand_routed hroute with
  | none hcmd timestamp hta =>
    rw [hcmd, hta]
    refine ⟨[], .of_db (.refl hheld) rfl hpoints, iff_of_true rfl ?_⟩
    exact not_orphans_of_other (by simp [Event.is, hcmd])
  | fs cmd hcmd hswitch =>
    rw [hcmd]
    refine ⟨[], .of_db (fsSwitch_takes hheld hswitch) ?_ hpoints, iff_of_true rfl ?_⟩
    · obtain ⟨userDb, hta⟩ := fsSwitch_frame hswitch
      rw [hta]
    · exact not_orphans_of_other (by simp [Event.is, hcmd])
  | hwAuth cmd hcmd hswitch =>
    rw [hcmd]
    refine ⟨[], hwAuth_takes hcmd hswitch hheld hpoints, iff_of_true rfl ?_⟩
    exact not_orphans_of_other (by simp [Event.is, hcmd])
  | dbBlob cmd hcmd hswitch =>
    rw [hcmd]
    exact dbBlob_takes buffers h (is_iff.mpr hcmd) hinv hheld hpoints
  | bio cmd hcmd hswitch =>
    rw [hcmd]
    obtain ⟨answer, hanswer, hswitch⟩ := bind_eq_ok.mp hswitch
    obtain ⟨reply, hreply, hswitch⟩ := bind_eq_ok.mp hswitch
    obtain ⟨_, _, hswitch⟩ := bind_eq_ok.mp hswitch
    obtain ⟨_, _, hswitch⟩ := bind_eq_ok.mp hswitch
    injection hswitch with hresult
    rw [load32_ok hanswer] at hreply
    rw [← hresult]
    refine ⟨[], .of_db (bioSwitch_takes hheld hreply) ?_ hpoints, iff_of_true rfl ?_⟩
    · obtain ⟨bio, hframe | ⟨_, hframe⟩⟩ := bioSwitch_frame hreply
      · rw [hframe]
      · rw [hframe]
    · exact not_orphans_of_other (by simp [Event.is, hcmd])
  | pn cmd hcmd hswitch =>
    rw [hcmd]
    obtain ⟨pn, hta⟩ := pnSwitch_frame hswitch
    rw [hta]
    refine ⟨[], .of_db (.refl hheld) rfl hpoints, iff_of_true rfl ?_⟩
    exact not_orphans_of_other (by simp [Event.is, hcmd])

end

/-! ## Runs -/

/-- What is live is what the owners hold and the blocks `leaked`, which are nobody's: those of the
databases that were dropped. -/
structure HeapFrom (history : List HeapEvent) (s : HeapTa) (leaked : Multiset Addr) : Prop where
  heap : s.heap = .holding (↑(blocks s.ta.bio.userDb) + ↑s.data.toList + leaked)
  once : (↑(blocks s.ta.bio.userDb) + ↑s.data.toList + leaked).Nodup
  held : OnlyValidHold s.ta.bio.userDb
  points : s.data.isSome = s.ta.transfer.data.isSome
  leaked : leaked = 0 ↔ ∀ e ∈ history, ¬ e.event.Orphans

section

variable {P : Platform} {history : List HeapEvent} {s s' : HeapTa} {e : HeapEvent}

/-- The application does not look at its heap. -/
theorem heapRun_run (hrun : (heapSystem P).Run history s) :
    (taSystem P).Run (history.map HeapEvent.event) s.ta := by
  induction hrun with
  | init hinit =>
    obtain ⟨env, hinit, _⟩ := hinit
    exact .init ⟨env, hinit⟩
  | step _ hstep ih => exact .step ih hstep.1

theorem heapFrom_init (h : (heapSystem P).init s) : HeapFrom [] s 0 := by
  obtain ⟨env, hinit, hdata, hfresh, hheap⟩ := h
  have hclosed := transfer_init hinit
  obtain ⟨db, hcreate, hdb, _⟩ := fpcTaRouterInit_ok hinit
  have howns := (fpcDbCreate_owns hcreate 0).run (F := 0) (by simp) (by simpa using hfresh)
  constructor
  · rw [hheap, hdb, hdata]
    simpa using howns.1
  · rw [hdb, hdata]
    simpa using howns.2
  · rw [hdb]
    exact fpcDbCreate_held hcreate
  · rw [hdata, hclosed]
    rfl
  · simp

/-- A step leaks what it drops. -/
theorem HeapFrom.step {leaked : Multiset Addr} (h : HeapFrom history s leaked)
    (hinv : s.ta.transfer.Inv) (hstep : (heapSystem P).step s e s') :
    ∃ leaked', HeapFrom (e :: history) s' leaked' := by
  obtain ⟨htaken, hfresh, hdata, hheap⟩ := hstep
  obtain ⟨dropped, htakes, hdropped⟩ := step_takes e.buffers htaken hinv h.held h.points
  rw [h.heap] at hfresh hheap
  obtain ⟨hrun, hnodup⟩ := htakes.owns.run h.once hfresh
  rw [add_assoc _ (↑dropped : Multiset Addr) leaked] at hrun hnodup
  refine ⟨↑dropped + leaked, ?_, ?_, htakes.held, ?_, ?_⟩
  · rw [hheap, hrun, hdata]
  · rw [hdata]
    exact hnodup
  · rw [hdata]
    exact htakes.points
  · rw [add_eq_zero, Multiset.coe_eq_zero, hdropped, h.leaked, List.forall_mem_cons]

/-- **The heap of a run.** No block is misused, each is live once, and what is live is what the
owners hold and what was leaked. -/
theorem run_heap (hrun : (heapSystem P).Run history s) : ∃ leaked, HeapFrom history s leaked := by
  induction hrun with
  | init hinit => exact ⟨0, heapFrom_init hinit⟩
  | step hrun hstep ih =>
    obtain ⟨leaked, hfrom⟩ := ih
    exact hfrom.step (run_transferInv (heapRun_run hrun)) hstep

/-- **When every block has one owner.** A state of a run is in order exactly when no step dropped a
database that it put another one in the place of. -/
theorem oneOwner_iff (hrun : (heapSystem P).Run history s) :
    OneOwner s ↔ ∀ e ∈ history, ¬ e.event.Orphans := by
  obtain ⟨leaked, hfrom⟩ := run_heap hrun
  rw [← hfrom.leaked]
  constructor
  · intro howner
    have hlive := howner.live
    rw [hfrom.heap, Heap.live_holding] at hlive
    exact add_eq_left.mp hlive
  · intro hnone
    have hheap := hfrom.heap
    have honce := hfrom.once
    rw [hnone, add_zero] at hheap honce
    constructor
    · rw [hheap, Heap.misused_holding]
    · rw [hheap, Heap.live_holding]
    · rw [hheap, Heap.live_holding]
      exact honce
    · exact hfrom.held
    · exact hfrom.points

end

/-! ## Executed runs -/

/-- The state after `init` on an empty heap. -/
def HeapTa.start (env : Env) (ta : Ta) : HeapTa :=
  { ta := ta, data := none, heap := (Heap.holding 0).run (fpcDbCreateOps env.db none 0) }

/-- Commands with their buffers, one after the other; one for which the memory is not fresh ends
the run. -/
def executeHeap (P : Platform) (history : List HeapEvent) (s : HeapTa) :
    List (Env × List UInt8 × Buffers) → Outcome (List HeapEvent × HeapTa)
  | [] => .ok (history, s)
  | (env, msg, buffers) :: rest => do
      let result ← fpcTaRouteCommand P env s.ta msg
      let e : Event := { env := env, msg := msg, pre := s.ta, result := result }
      let made := e.heap P buffers s.data
      if Ledger.Fresh s.heap made.1 then
        executeHeap P ({ event := e, buffers := buffers } :: history)
          { ta := result.ta, data := made.2, heap := s.heap.run made.1 } rest
      else .err (-fpcErrorAlloc)

/-- What is executed is a run. Induction on the commands. -/
theorem executeHeap_run {P : Platform} {history history' : List HeapEvent} {s s' : HeapTa}
    {commands : List (Env × List UInt8 × Buffers)} (hrun : (heapSystem P).Run history s)
    (h : executeHeap P history s commands = .ok (history', s')) :
    (heapSystem P).Run history' s' := by
  induction commands generalizing history s with
  | nil =>
    cases h
    exact hrun
  | cons command commands ih =>
    obtain ⟨result, hroute, h⟩ := bind_eq_ok.mp h
    dsimp only at h
    split at h
    · next hfresh => exact ih (.step hrun ⟨⟨rfl, hroute, rfl⟩, hfresh, rfl, rfl⟩) h
    · cases h

/-- What is decided of the state after executed commands holds at the end of a run of them. -/
theorem executeHeap_decided (P : Platform) (commands : List (Env × List UInt8 × Buffers))
    (p : List HeapEvent → HeapTa → Prop) [∀ history s, Decidable (p history s)]
    (h : (fpcTaRouterInit .willing >>= fun ta =>
      executeHeap P [] (.start .willing ta) commands >>= fun r =>
        .ok (decide (p r.1 r.2))) = .ok true) :
    ∃ history s, (heapSystem P).Run history s ∧ p history s := by
  obtain ⟨ta, hinit, h⟩ := bind_eq_ok.mp h
  obtain ⟨⟨history, s⟩, hexecute, h⟩ := bind_eq_ok.mp h
  injection h with hp
  have hstart : (heapSystem P).init (.start .willing ta) :=
    ⟨.willing, hinit, rfl, by decide, rfl⟩
  exact ⟨history, s, executeHeap_run (.init hstart) hexecute, of_decide_eq_true hp⟩

/-- A command during which everything unwraps to itself, and a database gets a block of its own. -/
def Env.sealingAt (addr : Addr) : Env :=
  { Env.sealing with db := { DbEnv.willing with malloc := fun _ => some addr } }

def sampleBuffers : Buffers :=
  { dbData := 0x20000, unwrappedData := 0x21000, transferData := 0x22000 }

/-- A transfer from the outside, in one `WRITE`. -/
def sampleTransferIn (addr : Addr) (blob : List UInt8) : List (Env × List UInt8 × Buffers) :=
  [(.sealing, openMessage 1 (UInt32.ofNat blob.length), sampleBuffers),
   (.sealingAt addr,
     commandMessage 4 16 (le32 0 ++ (le32 (UInt32.ofNat blob.length) ++ blob)), sampleBuffers)]

/-- A database without fingers, as it is sent. -/
def sampleBlobIn : List UInt8 :=
  TemplateDb.image fpcDbVersion4 { databaseId := 7, set := none } ++ List.replicate 48 0x5E

/-- The database of the start is lost when another one is written over it. -/
theorem sampleTransferIn_orphans :
    ¬ ∀ (P : Platform) (history : List HeapEvent) (s : HeapTa),
      (heapSystem P).Run history s → OneOwner s := by
  intro h
  obtain ⟨history, s, hrun, hlive⟩ :=
    executeHeap_decided samplePlatform (sampleTransferIn 0x90000 sampleBlobIn)
      (fun _ s => s.heap.live ≠ ↑(blocks s.ta.bio.userDb) + ↑s.data.toList) (by decide +kernel)
  exact hlive (h samplePlatform history s hrun).live

/-- A finger is enrolled, the database is lost to a file that is not there, and another one is
written in its place. -/
theorem sampleReplacement_oneOwner :
    ∃ history s, (heapSystem samplePlatform).Run history s ∧
      (∃ e ∈ history, e.event.is (.bio .endEnrol) = true ∧
        blocks e.event.result.ta.bio.userDb = [0x70000, 0x2000, 0x1000]) ∧
      blocks s.ta.bio.userDb = [0x90000] ∧ OneOwner s := by
  obtain ⟨history, s, hrun, henrolled, hblocks, habsent⟩ :=
    executeHeap_decided samplePlatform
      ((sampleTouches ++ [sampleEndEnrol (Id256.filled 0x5A),
          (.willing, commandMessage 2 11 (le32 0 ++ (le32 24 ++ List.replicate 24 0)))]).map
            (fun command => (command.1, command.2, sampleBuffers)) ++
        sampleTransferIn 0x90000 sampleBlobIn)
      (fun history s => (∃ e ∈ history, e.event.is (.bio .endEnrol) = true ∧
          blocks e.event.result.ta.bio.userDb = [0x70000, 0x2000, 0x1000]) ∧
        blocks s.ta.bio.userDb = [0x90000] ∧
        ∀ e ∈ history, e.event.is (.dbBlob .dbWrite) = true → e.event.pre.bio.userDb = none)
      (by decide +kernel)
  refine ⟨history, s, hrun, henrolled, hblocks, (oneOwner_iff hrun).mpr ?_⟩
  intro e hmem horphans
  exact horphans.present (habsent e hmem horphans.command)

end Fpc
