import Fingerprints.Hal.Capture
import Fingerprints.Runs.Fair

/-!
# Cancelling what a worker does

`fingerprint_hal_goto_idle` with `fpc_tee_set_cancel` and `fpc_tee_clear_cancel`, and `cancel` of
`nav/fpc_hal_navigation.c`. A call that wants the worker for itself raises a flag, writes a byte to the
pipe that the waits for an interrupt poll, joins the worker, lowers the flag and reads the byte back; the
module of the navigation does the first two and the last two the other way round, with a flag and a pipe
of its own. The read blocks while the pipe is empty, and it is made under the lock.

Calls of any number of threads take turns with the worker and its task, one operation or one call of the
task at a time. The mutex of the flag is held over an operation on the pipe in one module and not in the
other; without it there are more interleavings.

* **`Inv.step`**: what the flag, the pipe and the worker are, by what the holder of the lock has left to do;
* **`cancel_safe`**: so in every run the read finds its byte, no task starts cancelled, and a task is
  cancelled by a call that waits for it only;
* **`join_of_windsUp`**: a task that winds up once it is cancelled does not keep a call waiting.
-/

namespace Fpc.Cancellation

open Runs Script Capture

variable {O : Type} {B : O → Type} {T : Type}

/-- What a worker runs. -/
abbrev Task (B : O → Type) := Script (Answer B) Unit

/-! ## Calls -/

/-- What a call does while it holds the lock. -/
inductive Op (B : O → Type)
  | raise
  | write
  | join
  | lower
  | read
  | work
  | post (task : Task B)
  | taken

/-- `fingerprint_hal_goto_idle` -/
def fingerprintHalGotoIdle : List (Op B) := [.raise, .write, .join, .lower, .read]

/-- `cancel` of the navigation. -/
def navCancel : List (Op B) := [.write, .raise, .join, .lower, .read]

/-- `fpc_worker_run_task` -/
def fpcWorkerRunTask (task : Task B) : List (Op B) := [.post task, .taken]

/-- The calls: those that leave the worker alone, those that issue commands themselves and those that hand
over a task, and the operations of the navigation module, which cancel its loop or start it. -/
inductive Call (B : O → Type)
  | brief
  | whileIdle (commands : Nat)
  | asTask (task : Task B)
  | stopLoop
  | startLoop (task : Task B)

def Call.ops : Call B → List (Op B)
  | .brief => []
  | .whileIdle commands => fingerprintHalGotoIdle ++ (List.replicate commands .work ++ [.join])
  | .asTask task => fingerprintHalGotoIdle ++ (.join :: fpcWorkerRunTask task)
  | .stopLoop => navCancel
  | .startLoop task => fpcWorkerRunTask task

/-! ## The gate -/

/-- What the holder of the lock knows of the worker: nothing, that it is idle and nothing is handed over,
or that it was handed a task. -/
inductive Knows
  | busy
  | idle
  | posted
  deriving DecidableEq, Repr

/-- What may be done where the flag is so, so many bytes are in the pipe and so much is known of the
worker. -/
def Safe : Bool → Nat → Knows → List (Op B) → Prop
  | flag, pipe, k, [] => flag = false ∧ pipe = 0 ∧ k ≠ .posted
  | flag, pipe, k, .raise :: ops => flag = false ∧ k ≠ .posted ∧ Safe true pipe k ops
  | flag, pipe, k, .write :: ops => pipe = 0 ∧ k ≠ .posted ∧ Safe flag 1 k ops
  | flag, pipe, k, .join :: ops => k ≠ .posted ∧ Safe flag pipe .idle ops
  | flag, pipe, k, .lower :: ops => flag = true ∧ k = .idle ∧ Safe false pipe .idle ops
  | flag, pipe, k, .read :: ops => pipe = 1 ∧ k = .idle ∧ Safe flag 0 .idle ops
  | flag, pipe, k, .work :: ops => flag = false ∧ pipe = 0 ∧ k = .idle ∧ Safe flag pipe .idle ops
  | flag, pipe, k, .post _ :: ops => flag = false ∧ pipe = 0 ∧ k ≠ .posted ∧ Safe flag pipe .posted ops
  | flag, pipe, k, .taken :: ops => flag = false ∧ pipe = 0 ∧ k = .posted ∧ Safe flag pipe .busy ops

/-- The threads and what they share: the lock with what its holder has left to do, the flag, the bytes in
the pipe, what the worker runs, and what was handed over to it and not taken. -/
structure State (B : O → Type) (T : Type) where
  holder : Option (T × List (Op B))
  flag : Bool
  pipe : Nat
  worker : Option (Task B)
  posted : Option (Task B)

/-- An operation, where it does not block. -/
def Op.run (s : State B T) : Op B → Option (State B T)
  | .raise => some { s with flag := true }
  | .write => some { s with pipe := s.pipe + 1 }
  | .join => if s.worker.isNone then some s else none
  | .lower => some { s with flag := false }
  | .read => if s.pipe = 0 then none else some { s with pipe := s.pipe - 1 }
  | .work => some s
  | .post task => some { s with posted := some task }
  | .taken => if s.posted.isNone then some s else none

/-- The operations of the holder of the lock, where so many can be made and nothing else happens. -/
def State.operate : Nat → State B T → Option (State B T)
  | 0, s => some s
  | n + 1, s =>
    match s.holder with
    | some (t, o :: ops) => (o.run s).bind fun s' => operate n { s' with holder := some (t, ops) }
    | _ => none

/-- What a call of a task may answer: the flag is read as it is, and a wait that polls is woken by the
pipe exactly while there is a byte in it. -/
def State.Admits (s : State B T) : Sigma (Answer B) → Prop
  | ⟨.cancelled, cancelled⟩ => cancelled = s.flag
  | ⟨.poll, .cancelled⟩ => s.pipe ≠ 0
  | ⟨.poll, .irq⟩ => s.pipe = 0
  | _ => True

/-- A call has told the task to end, by the flag and by the pipe. -/
def State.Cancels (s : State B T) : Prop := s.flag = true ∧ s.pipe ≠ 0

/-- What happens: an operation of a thread, or, where there is none, that it takes the lock or leaves it,
and what the worker does. -/
inductive Event (B : O → Type) (T : Type)
  | call (t : T)
  | op (t : T) (op : Op B)
  | leave (t : T)
  | take
  | said (said : Option (Sigma (Answer B)))
  | done

/-- What the worker does. -/
def Event.ofWorker : Event B T → Bool
  | .take | .said _ | .done => true
  | .call _ | .op _ _ | .leave _ => false

/-- The steps, where the calls are of a kind, and so are the answers that a task gets while it is
cancelled. -/
inductive Step (calls : Call B → Prop) (ok : (e : Capture.Call O) → Answer B e → Prop) :
    State B T → Event B T → State B T → Prop
  | call {s : State B T} (t : T) {c : Call B} (hcall : calls c) (hfree : s.holder = none) :
      Step calls ok s (.call t) { s with holder := some (t, c.ops) }
  | op {s s' : State B T} {t : T} {o : Op B} {ops : List (Op B)} (hholder : s.holder = some (t, o :: ops))
      (hrun : o.run s = some s') : Step calls ok s (.op t o) { s' with holder := some (t, ops) }
  | leave {s : State B T} {t : T} (hholder : s.holder = some (t, [])) :
      Step calls ok s (.leave t) { s with holder := none }
  | take {s : State B T} {task : Task B} (hidle : s.worker = none) (hposted : s.posted = some task) :
      Step calls ok s .take { s with worker := some task, posted := none }
  | said {s : State B T} {c c' : Task B} {said : Option (Sigma (Answer B))} (hworker : s.worker = some c)
      (hstep : Script.Step c said c') (hadmits : ∀ d ∈ said, s.Admits d)
      (hok : s.Cancels → ∀ d ∈ said, ok d.1 d.2) :
      Step calls ok s (.said said) { s with worker := some c' }
  | done {s : State B T} (hworker : s.worker = some (.ret ())) :
      Step calls ok s .done { s with worker := none }

/-- No call is on its way, and the worker is idle. -/
def State.start : State B T := ⟨none, false, 0, none, none⟩

/-- A step, with the state it was taken in. -/
structure Moment (B : O → Type) (T : Type) where
  before : State B T
  event : Event B T

/-- The calls and the worker. -/
def gateSystem (T : Type) (calls : Call B → Prop) (ok : (e : Capture.Call O) → Answer B e → Prop) :
    System (State B T) (Moment B T) where
  init s := s = .start
  step s m s' := m.before = s ∧ Step calls ok s m.event s'

/-! ## What the flag and the pipe say -/

/-- What holds between the operations. Where no call is on its way nothing is cancelled or handed over. -/
def Inv (s : State B T) : Prop :=
  match s.holder with
  | none => s.flag = false ∧ s.pipe = 0 ∧ s.posted = none
  | some (_, ops) => ∃ k, Safe s.flag s.pipe k ops ∧
      (k = .idle → s.worker = none ∧ s.posted = none) ∧ (k = .busy → s.posted = none)

theorem safe_work (commands : Nat) :
    Safe false 0 .idle (List.replicate commands (.work : Op B) ++ [.join]) := by
  induction commands with
  | zero => exact ⟨by decide, rfl, rfl, by decide⟩
  | succ commands ih => exact ⟨rfl, rfl, rfl, ih⟩

/-- Every call does what may be done, whatever the worker does when it takes the lock. -/
theorem Call.safe (c : Call B) : Safe false 0 .busy c.ops := by
  cases c with
  | brief => exact ⟨rfl, rfl, by decide⟩
  | whileIdle commands =>
    exact ⟨rfl, by decide, rfl, by decide, by decide, rfl, rfl, rfl, rfl, safe_work commands⟩
  | asTask task =>
    exact ⟨rfl, by decide, rfl, by decide, by decide, rfl, rfl, rfl, rfl,
      by decide, rfl, rfl, by decide, rfl, rfl, rfl, rfl, rfl, by decide⟩
  | stopLoop => exact ⟨rfl, by decide, rfl, by decide, by decide, rfl, rfl, rfl, rfl, rfl, rfl, by decide⟩
  | startLoop task => exact ⟨rfl, rfl, by decide, rfl, rfl, rfl, rfl, rfl, by decide⟩

section

variable {calls : Call B → Prop} {ok : (e : Capture.Call O) → Answer B e → Prop} {s s' : State B T}

theorem inv_of_free (hfree : s.holder = none) :
    Inv s ↔ s.flag = false ∧ s.pipe = 0 ∧ s.posted = none := by
  rw [Inv, hfree]

theorem inv_of_held {t : T} {ops : List (Op B)} (hheld : s.holder = some (t, ops)) :
    Inv s ↔ ∃ k, Safe s.flag s.pipe k ops ∧ (k = .idle → s.worker = none ∧ s.posted = none) ∧
      (k = .busy → s.posted = none) := by
  rw [Inv, hheld]

/-- An operation of the holder of the lock. -/
theorem Inv.op {t : T} {o : Op B} {ops : List (Op B)} (h : Inv s) (hheld : s.holder = some (t, o :: ops))
    (hrun : o.run s = some s') : Inv { s' with holder := some (t, ops) } := by
  obtain ⟨k, hsafe, hidle, hbusy⟩ := (inv_of_held hheld).mp h
  refine (inv_of_held rfl).mpr ?_
  cases o with
  | raise =>
    cases hrun
    exact ⟨k, hsafe.2.2, hidle, hbusy⟩
  | write =>
    cases hrun
    obtain ⟨hpipe, _, hsafe⟩ := hsafe
    exact ⟨k, show Safe s.flag (s.pipe + 1) k ops by rwa [hpipe], hidle, hbusy⟩
  | join =>
    by_cases hworker : s.worker = none
    · rw [Op.run, hworker] at hrun
      cases hrun
      refine ⟨.idle, hsafe.2, fun _ => ⟨hworker, ?_⟩, by simp⟩
      cases k with
      | busy => exact hbusy rfl
      | idle => exact (hidle rfl).2
      | posted => exact absurd rfl hsafe.1
    · rw [Op.run, if_neg (by simpa using hworker)] at hrun
      cases hrun
  | lower =>
    cases hrun
    obtain ⟨_, rfl, hsafe⟩ := hsafe
    exact ⟨.idle, hsafe, hidle, by simp⟩
  | read =>
    obtain ⟨hpipe, rfl, hsafe⟩ := hsafe
    rw [Op.run, if_neg (by omega)] at hrun
    cases hrun
    exact ⟨.idle, show Safe s.flag (s.pipe - 1) .idle ops by rwa [hpipe], hidle, by simp⟩
  | work =>
    cases hrun
    obtain ⟨_, _, rfl, hsafe⟩ := hsafe
    exact ⟨.idle, hsafe, hidle, by simp⟩
  | post task =>
    cases hrun
    exact ⟨.posted, hsafe.2.2.2, by simp, by simp⟩
  | taken =>
    by_cases hposted : s.posted = none
    · rw [Op.run, hposted] at hrun
      cases hrun
      exact ⟨.busy, hsafe.2.2.2, by simp, fun _ => hposted⟩
    · rw [Op.run, if_neg (by simpa using hposted)] at hrun
      cases hrun

/-- What the worker does while it runs a task leaves the rest as it is. -/
theorem Inv.worker {worker : Option (Task B)} (h : Inv s) (hworker : s.worker ≠ none) :
    Inv { s with worker := worker } := by
  cases hholder : s.holder with
  | none => exact (inv_of_free rfl).mpr ((inv_of_free hholder).mp h)
  | some held =>
    obtain ⟨k, hsafe, hidle, hbusy⟩ := (inv_of_held hholder).mp h
    exact (inv_of_held rfl).mpr ⟨k, hsafe, fun hk => absurd (hidle hk).1 hworker, hbusy⟩

/-- What was handed over is there for the call that waits until it is taken. -/
theorem Inv.held_of_posted (h : Inv s) (hposted : s.posted ≠ none) :
    ∃ t ops, s.holder = some (t, ops) ∧ Safe s.flag s.pipe .posted ops := by
  cases hholder : s.holder with
  | none => exact absurd ((inv_of_free hholder).mp h).2.2 hposted
  | some held =>
    obtain ⟨k, hsafe, hidle, hbusy⟩ := (inv_of_held hholder).mp h
    refine ⟨held.1, held.2, rfl, ?_⟩
    cases k with
    | busy => exact absurd (hbusy rfl) hposted
    | idle => exact absurd (hidle rfl).2 hposted
    | posted => exact hsafe

theorem Inv.step {e : Event B T} (h : Inv s) (hstep : Step calls ok s e s') : Inv s' := by
  cases hstep with
  | call t hcall hfree =>
    obtain ⟨hflag, hpipe, hposted⟩ := (inv_of_free hfree).mp h
    refine (inv_of_held rfl).mpr ⟨.busy, ?_, by simp, fun _ => hposted⟩
    rw [hflag, hpipe]
    exact Call.safe _
  | op hheld hrun => exact h.op hheld hrun
  | leave hheld =>
    obtain ⟨k, ⟨hflag, hpipe, hk⟩, hidle, hbusy⟩ := (inv_of_held hheld).mp h
    refine (inv_of_free rfl).mpr ⟨hflag, hpipe, ?_⟩
    cases k with
    | busy => exact hbusy rfl
    | idle => exact (hidle rfl).2
    | posted => exact absurd rfl hk
  | @take task _ hposted =>
    obtain ⟨t, ops, hheld, hsafe⟩ := h.held_of_posted (by rw [hposted]; exact Option.some_ne_none _)
    have htaken : { s with worker := some task, posted := none }.holder = some (t, ops) := hheld
    exact (inv_of_held htaken).mpr ⟨.posted, hsafe, by simp, by simp⟩
  | said hworker => exact h.worker (by rw [hworker]; exact Option.some_ne_none _)
  | done hworker => exact h.worker (by rw [hworker]; exact Option.some_ne_none _)

theorem run_inv {history : List (Moment B T)} {s : State B T}
    (hrun : (gateSystem T calls ok).Run history s) : Inv s := by
  refine hrun.invariant_state ?_ ?_
  · rintro s rfl
    exact (inv_of_free rfl).mpr ⟨rfl, rfl, rfl⟩
  · rintro s m s' h ⟨_, hstep⟩
    exact h.step hstep

/-! ## No stale and no lost cancellation -/

/-- The task is told that it is cancelled. -/
def Event.toldCancelled : Event B T → Prop
  | .said (some ⟨.cancelled, cancelled⟩) => cancelled = true
  | .said (some ⟨.poll, polled⟩) => polled = .cancelled
  | _ => False

/-- The operation clears a cancellation. -/
def Op.clears : Op B → Prop
  | .lower | .read => True
  | _ => False

/-- The call is going to join the worker, and to clear behind that what it set. -/
def Waits (ops : List (Op B)) : Prop :=
  ∃ front rest, ops = front ++ .join :: rest ∧ ∃ o ∈ rest, o.clears

theorem Waits.cons {ops : List (Op B)} (h : Waits ops) (o : Op B) : Waits (o :: ops) := by
  obtain ⟨front, rest, rfl, hclears⟩ := h
  exact ⟨o :: front, rest, rfl, hclears⟩

/-- What is set is cleared. Induction on the operations. -/
theorem Safe.clears {flag : Bool} {pipe : Nat} {k : Knows} {ops : List (Op B)}
    (h : Safe flag pipe k ops) (hset : flag = true ∨ pipe ≠ 0) : ∃ o ∈ ops, o.clears := by
  induction ops generalizing flag pipe k with
  | nil =>
    obtain ⟨rfl, rfl, _⟩ := h
    simp at hset
  | cons o ops ih =>
    cases o with
    | lower => exact ⟨.lower, List.mem_cons_self, trivial⟩
    | read => exact ⟨.read, List.mem_cons_self, trivial⟩
    | raise =>
      obtain ⟨o, ho, hclears⟩ := ih h.2.2 (.inl rfl)
      exact ⟨o, List.mem_cons_of_mem _ ho, hclears⟩
    | write =>
      obtain ⟨o, ho, hclears⟩ := ih h.2.2 (.inr one_ne_zero)
      exact ⟨o, List.mem_cons_of_mem _ ho, hclears⟩
    | join =>
      obtain ⟨o, ho, hclears⟩ := ih h.2 hset
      exact ⟨o, List.mem_cons_of_mem _ ho, hclears⟩
    | work | post task | taken =>
      obtain ⟨rfl, rfl, _⟩ := h
      simp at hset

/-- Nothing is set while a task is handed over. -/
theorem Safe.posted_unset {flag : Bool} {pipe : Nat} {ops : List (Op B)}
    (h : Safe flag pipe .posted ops) : flag = false ∧ pipe = 0 := by
  cases ops with
  | nil => exact ⟨h.1, h.2.1⟩
  | cons o ops =>
    cases o with
    | raise | write => exact absurd rfl h.2.1
    | join => exact absurd rfl h.1
    | lower | read => exact absurd h.2.1 (by decide)
    | work | post task => exact absurd h.2.2.1 (by decide)
    | taken => exact ⟨h.1, h.2.1⟩

/-- What is set while the worker may run is cleared behind a join only. Induction on the operations. -/
theorem Safe.waits {flag : Bool} {pipe : Nat} {k : Knows} {ops : List (Op B)}
    (h : Safe flag pipe k ops) (hset : flag = true ∨ pipe ≠ 0) (hk : k ≠ .idle) : Waits ops := by
  induction ops generalizing flag pipe with
  | nil =>
    obtain ⟨rfl, rfl, _⟩ := h
    simp at hset
  | cons o ops ih =>
    cases o with
    | raise => exact (ih h.2.2 (.inl rfl)).cons _
    | write => exact (ih h.2.2 (.inr one_ne_zero)).cons _
    | join => exact ⟨[], ops, rfl, h.2.clears hset⟩
    | lower | read => exact absurd h.2.1 hk
    | work | post task | taken =>
      obtain ⟨rfl, rfl, _⟩ := h
      simp at hset

/-- There is one byte in the pipe at most. Induction on the operations. -/
theorem Safe.pipe_le {flag : Bool} {pipe : Nat} {k : Knows} {ops : List (Op B)}
    (h : Safe flag pipe k ops) : pipe ≤ 1 := by
  induction ops generalizing flag pipe k with
  | nil => exact h.2.1.le.trans zero_le_one
  | cons o ops ih =>
    cases o with
    | raise => exact ih h.2.2
    | join => exact ih h.2
    | lower => exact ih h.2.2
    | read => exact h.1.le
    | write => exact h.1.le.trans zero_le_one
    | work | post task | taken => exact h.2.1.le.trans zero_le_one

theorem Inv.pipe_le (h : Inv s) : s.pipe ≤ 1 := by
  cases hholder : s.holder with
  | none => exact ((inv_of_free hholder).mp h).2.1.le.trans zero_le_one
  | some held =>
    obtain ⟨k, hsafe, _⟩ := (inv_of_held hholder).mp h
    exact hsafe.pipe_le

/-- Where the worker runs a task and something is set, a call waits for it. -/
theorem Inv.waits (h : Inv s) (hset : s.flag = true ∨ s.pipe ≠ 0) (hworker : s.worker ≠ none) :
    ∃ t ops, s.holder = some (t, ops) ∧ Waits ops := by
  cases hholder : s.holder with
  | none =>
    obtain ⟨hflag, hpipe, _⟩ := (inv_of_free hholder).mp h
    simp [hflag, hpipe] at hset
  | some held =>
    obtain ⟨k, hsafe, hidle, _⟩ := (inv_of_held hholder).mp h
    exact ⟨held.1, held.2, rfl, hsafe.waits hset fun hk => hworker (hidle hk).1⟩

/-- A task is told only what is set. -/
theorem set_of_toldCancelled {e : Event B T} (hstep : Step calls ok s e s') (htold : e.toldCancelled) :
    (s.flag = true ∨ s.pipe ≠ 0) ∧ s.worker ≠ none := by
  cases hstep with
  | call t hcall hfree => exact htold.elim
  | op hheld hrun => exact htold.elim
  | leave hheld => exact htold.elim
  | take hworker hposted => exact htold.elim
  | done hworker => exact htold.elim
  | @said c c' said hworker hstep hadmits hok =>
    refine ⟨?_, by rw [hworker]; exact Option.some_ne_none _⟩
    cases said with
    | none => exact htold.elim
    | some d =>
      have hd := hadmits d rfl
      obtain ⟨e, answer⟩ := d
      cases e with
      | cancelled => exact .inl (hd.symm.trans htold)
      | poll =>
        cases answer with
        | cancelled => exact .inr hd
        | failed | irq => cases htold
      | _ => exact htold.elim

/-- In every run the read that clears a cancellation finds the one byte that is in the pipe; where no
call is on its way nothing is left of one; a task never starts cancelled; and it is told that it is
cancelled only by a call that waits for it. -/
theorem cancel_safe {history : List (Moment B T)} {s : State B T}
    (hrun : (gateSystem T calls ok).Run history s) :
    s.pipe ≤ 1 ∧ (∀ t ops, s.holder = some (t, .read :: ops) → s.pipe = 1) ∧
    (s.holder = none → s.flag = false ∧ s.pipe = 0) ∧
    ∀ m ∈ history,
      (m.event = .take → m.before.flag = false ∧ m.before.pipe = 0) ∧
      (m.event.toldCancelled → ∃ t ops, m.before.holder = some (t, ops) ∧ Waits ops) := by
  have hinv := run_inv hrun
  refine ⟨hinv.pipe_le, ?_, ?_, ?_⟩
  · intro t ops hheld
    obtain ⟨k, hsafe, _⟩ := (inv_of_held hheld).mp hinv
    exact hsafe.1
  · intro hfree
    obtain ⟨hflag, hpipe, _⟩ := (inv_of_free hfree).mp hinv
    exact ⟨hflag, hpipe⟩
  · intro m hm
    obtain ⟨past, u, u', hpast, ⟨hbefore, hstep⟩, _⟩ := hrun.before_of_mem hm
    have hinv := run_inv hpast
    rw [hbefore]
    refine ⟨fun htake => ?_, fun htold => ?_⟩
    · rw [htake] at hstep
      cases hstep with
      | take hworker hposted =>
        obtain ⟨t, ops, hheld, hsafe⟩ :=
          hinv.held_of_posted (by rw [hposted]; exact Option.some_ne_none _)
        exact hsafe.posted_unset
    · obtain ⟨hset, hworker⟩ := set_of_toldCancelled hstep htold
      exact hinv.waits hset hworker

section

variable {history : List (Moment B T)}

/-- A step makes a run longer. -/
theorem run_step {e : Event B T} (hrun : (gateSystem T calls ok).Run history s)
    (hstep : Step calls ok s e s') :
    (gateSystem T calls ok).Run (⟨s, e⟩ :: history) s' := hrun.step ⟨rfl, hstep⟩

/-- Induction on the operations. -/
theorem run_operate (n : Nat) (s' : State B T) (hrun : (gateSystem T calls ok).Run history s)
    (hops : s.operate n = some s') :
    ∃ later, (gateSystem T calls ok).Run (later ++ history) s' := by
  induction n generalizing s history with
  | zero =>
    cases hops
    exact ⟨[], hrun⟩
  | succ n ih =>
    rw [State.operate] at hops
    cases hheld : s.holder with
    | none => simp [hheld] at hops
    | some held =>
      obtain ⟨t, ops⟩ := held
      cases ops with
      | nil => simp [hheld] at hops
      | cons o ops =>
        simp only [hheld, Option.bind_eq_some_iff] at hops
        obtain ⟨s₁, hrun₁, hops⟩ := hops
        obtain ⟨later, hlater⟩ := ih (run_step hrun (.op hheld hrun₁)) hops
        exact ⟨later ++ [⟨s, .op t o⟩], by rwa [List.append_assoc]⟩

/-- A call hands over a task, another one cancels it, and is about to join the worker. -/
theorem exists_waiting (t : T) {task : Task B} (htask : calls (.asTask task))
    (hcalls : calls (.whileIdle 0)) :
    ∃ history, (gateSystem T calls ok).Run history
      ⟨some (t, [.join, .lower, .read, .join]), true, 1, some task, none⟩ := by
  have hcalled : (gateSystem T calls ok).Run _ ⟨some (t, (Call.asTask task).ops), false, 0, none, none⟩ :=
    run_step (.init rfl) (.call t htask rfl)
  obtain ⟨_, hposted⟩ :=
    run_operate 7 ⟨some (t, [.taken]), false, 0, none, some task⟩ hcalled rfl
  obtain ⟨_, htaken⟩ :=
    run_operate 1 ⟨some (t, []), false, 0, some task, none⟩ (run_step hposted (.take rfl rfl)) rfl
  have hcalled : (gateSystem T calls ok).Run _
      ⟨some (t, (Call.whileIdle 0).ops), false, 0, some task, none⟩ :=
    run_step (run_step htaken (.leave rfl)) (.call t hcalls rfl)
  obtain ⟨_, hwaiting⟩ :=
    run_operate 2 ⟨some (t, [.join, .lower, .read, .join]), true, 1, some task, none⟩ hcalled rfl
  exact ⟨_, hwaiting⟩

end

/-- A task that reads the flag is told that it is cancelled. -/
theorem cancel_safe_told :
    ∃ (history : List (Moment (fun _ : Empty => Unit) Unit)) (s : State (fun _ : Empty => Unit) Unit),
      (∃ m ∈ history, m.event.toldCancelled) ∧
      s.pipe ≤ 1 ∧ (∀ t ops, s.holder = some (t, .read :: ops) → s.pipe = 1) ∧
      (s.holder = none → s.flag = false ∧ s.pipe = 0) ∧
      ∀ m ∈ history,
        (m.event = .take → m.before.flag = false ∧ m.before.pipe = 0) ∧
        (m.event.toldCancelled → ∃ t ops, m.before.holder = some (t, ops) ∧ Waits ops) := by
  obtain ⟨history, hwaiting⟩ : ∃ history : List (Moment (fun _ : Empty => Unit) Unit),
      (gateSystem Unit (fun _ => True) fun _ _ => True).Run history
        ⟨some ((), [.join, .lower, .read, .join]), true, 1, some (.call .cancelled fun _ => .ret ()), none⟩ :=
    exists_waiting () trivial trivial
  have htold := run_step hwaiting (.said rfl (.call true) (by rintro d hd; cases hd; rfl) (by simp))
  exact ⟨_, _, ⟨_, List.mem_cons_self, by trivial⟩, cancel_safe htold⟩

/-- A call that joins the worker in front of clearing a cancellation has made one. -/
theorem Inv.cancels {t : T} {ops : List (Op B)} (h : Inv s)
    (hheld : s.holder = some (t, .join :: .lower :: .read :: ops)) : s.Cancels := by
  obtain ⟨k, ⟨_, hflag, _, hpipe, _⟩, _⟩ := (inv_of_held hheld).mp h
  exact ⟨hflag, show s.pipe ≠ 0 by omega⟩

/-! ## Calls get through -/

/-- What a call may hand over. -/
def Call.task? : Call B → Option (Task B)
  | .asTask task | .startLoop task => some task
  | .brief | .whileIdle _ | .stopLoop => none

/-- Tasks wind up, those that run and those that are handed over or going to be. -/
structure WindingUp (ok : (e : Capture.Call O) → Answer B e → Prop) (n : Nat) (s : State B T) : Prop where
  worker : ∀ c, s.worker = some c → WindsUp ok n c
  posted : ∀ c, s.posted = some c → WindsUp ok n c
  held : ∀ t ops, s.holder = some (t, ops) → ∀ c, .post c ∈ ops → WindsUp ok n c

theorem Call.post_mem {c : Call B} {task : Task B} (h : .post task ∈ c.ops) : c.task? = some task := by
  cases c with
  | brief => cases h
  | whileIdle commands =>
    simp [Call.ops, fingerprintHalGotoIdle] at h
  | asTask task' =>
    simp only [Call.ops, fingerprintHalGotoIdle, fpcWorkerRunTask, List.cons_append, List.nil_append,
      List.mem_cons, reduceCtorEq, Op.post.injEq, List.not_mem_nil, or_false, false_or] at h
    rw [h]
    rfl
  | stopLoop => simp [Call.ops, navCancel] at h
  | startLoop task' =>
    simp only [Call.ops, fpcWorkerRunTask, List.mem_cons, reduceCtorEq, Op.post.injEq, List.not_mem_nil,
      or_false] at h
    rw [h]
    rfl

/-- An operation leaves what the worker runs, and hands over what it says. -/
theorem Op.run_tasks {o : Op B} (hrun : o.run s = some s') :
    s'.worker = s.worker ∧ ∀ c, s'.posted = some c → s.posted = some c ∨ o = .post c := by
  cases o with
  | raise | write | lower | work =>
    cases hrun
    exact ⟨rfl, fun _ => .inl⟩
  | post task =>
    cases hrun
    refine ⟨rfl, fun c hc => .inr ?_⟩
    injection hc with hc
    rw [hc]
  | join | read | taken =>
    simp only [Op.run] at hrun
    split at hrun
    all_goals
      cases hrun
      try exact ⟨rfl, fun _ => .inl⟩

variable {n : Nat}

theorem WindingUp.step (hcalls : ∀ c, calls c → ∀ task, c.task? = some task → WindsUp ok n task)
    {e : Event B T} (h : WindingUp ok n s) (hstep : Step calls ok s e s') : WindingUp ok n s' := by
  cases hstep with
  | @call t c hcall hfree =>
    refine ⟨h.worker, h.posted, ?_⟩
    rintro t' ops hheld task hmem
    cases hheld
    exact hcalls c hcall task (Call.post_mem hmem)
  | @op s₁ t o ops hheld hrun =>
    obtain ⟨hworker, hposted⟩ := Op.run_tasks hrun
    refine ⟨fun c hc => h.worker c (hworker ▸ hc), ?_, ?_⟩
    · intro c hc
      obtain hc | rfl := hposted c hc
      · exact h.posted c hc
      · exact h.held t _ hheld c List.mem_cons_self
    · rintro t' ops' hheld' task hmem
      cases hheld'
      exact h.held t _ hheld task (List.mem_cons_of_mem _ hmem)
  | leave hheld => exact ⟨h.worker, h.posted, by simp⟩
  | take hworker hposted =>
    refine ⟨?_, by simp, h.held⟩
    rintro c hc
    cases hc
    exact h.posted _ hposted
  | @said c c' said hworker hstep hadmits hok =>
    refine ⟨?_, h.posted, h.held⟩
    rintro d hd
    cases hd
    exact (h.worker c hworker).of_step hstep
  | done hworker => exact ⟨by simp, h.posted, h.held⟩

theorem run_windingUp (hcalls : ∀ c, calls c → ∀ task, c.task? = some task → WindsUp ok n task)
    {history : List (Moment B T)} {s : State B T} (hrun : (gateSystem T calls ok).Run history s) :
    WindingUp ok n s := by
  refine hrun.invariant_state ?_ ?_
  · rintro s rfl
    exact ⟨by simp [State.start], by simp [State.start], by simp [State.start]⟩
  · rintro s m s' h ⟨_, hstep⟩
    exact h.step hcalls hstep

/-- The answer says that the task is cancelled, where the call asks for it. -/
def Tells : (e : Capture.Call O) → Answer B e → Prop
  | .cancelled, cancelled => cancelled = true
  | .poll, polled => polled = .cancelled
  | _, _ => True

theorem State.Cancels.admits {e : Capture.Call O} {answer : Answer B e} (h : s.Cancels)
    (htells : Tells e answer) : s.Admits ⟨e, answer⟩ := by
  cases e with
  | cancelled => exact htells.trans h.1.symm
  | poll =>
    cases htells
    exact h.2
  | _ => exact trivial

/-- Steps that are left to the worker, and one to become idle. -/
noncomputable def State.rank (ok : (e : Capture.Call O) → Answer B e → Prop) (s : State B T) : Nat :=
  s.worker.elim 0 fun c => stepsLeft ok c + 1

/-- The worker can go on while it is cancelled. -/
theorem worker_enabled (hanswers : ∀ e, ∃ answer : Answer B e, ok e answer ∧ Tells e answer)
    (hcancels : s.Cancels) (hworker : s.worker ≠ none) :
    (gateSystem T calls ok).Enabled (fun m => m.event.ofWorker = true) s := by
  obtain ⟨c, hc⟩ := Option.ne_none_iff_exists'.mp hworker
  cases c with
  | ret a => exact ⟨⟨s, .done⟩, _, rfl, rfl, .done hc⟩
  | loop body r rest =>
    exact ⟨⟨s, .said none⟩, _, rfl, rfl, .said hc .loop (by simp) (by simp)⟩
  | call e rest =>
    obtain ⟨answer, hok, htells⟩ := hanswers e
    refine ⟨⟨s, .said (some ⟨e, answer⟩)⟩, _, rfl, rfl, .said hc (.call answer) ?_ ?_⟩
    · rintro d hd
      cases hd
      exact hcancels.admits htells
    · rintro _ d hd
      cases hd
      exact hok

/-- While a call waits for the worker it waits on, and the worker gets nearer to its end. -/
theorem waiting_step {t : T} {ops : List (Op B)} {e : Event B T}
    (hwinding : WindingUp ok n s) (hheld : s.holder = some (t, .join :: ops)) (hcancels : s.Cancels)
    (hworker : s.worker ≠ none) (hstep : Step calls ok s e s') :
    (s'.holder = some (t, .join :: ops) ∧ s'.Cancels) ∧ s'.rank ok ≤ s.rank ok ∧
      (e.ofWorker = true → s'.rank ok < s.rank ok) := by
  cases hstep with
  | call t' hcall hfree =>
    rw [hfree] at hheld
    cases hheld
  | op hheld' hrun =>
    rw [hheld'] at hheld
    cases hheld
    rw [Op.run, if_neg (by simpa using hworker)] at hrun
    cases hrun
  | leave hheld' =>
    rw [hheld'] at hheld
    cases hheld
  | take hidle _ => exact absurd hidle hworker
  | @said c c' said hc hstep hadmits hok =>
    have hlt : stepsLeft ok c' < stepsLeft ok c :=
      stepsLeft_lt (hwinding.worker c hc).within hstep (hok hcancels)
    have hrank : s.rank ok = stepsLeft ok c + 1 := by rw [State.rank, hc]; rfl
    refine ⟨⟨hheld, hcancels⟩, ?_, fun _ => ?_⟩
    · rw [hrank]
      exact Nat.succ_le_succ hlt.le
    · rw [hrank]
      exact Nat.succ_lt_succ hlt
  | done hc =>
    have hrank : s.rank ok = stepsLeft ok (.ret ()) + 1 := by rw [State.rank, hc]; rfl
    refine ⟨⟨hheld, hcancels⟩, ?_, fun _ => ?_⟩
    · exact Nat.zero_le _
    · rw [hrank]
      exact Nat.succ_pos _

/-- The worker stays idle until the call has joined it. -/
theorem joining_step {t : T} {ops : List (Op B)} {e : Event B T} (hinv : Inv s)
    (hheld : s.holder = some (t, .join :: ops)) (hidle : s.worker = none)
    (hstep : Step calls ok s e s') :
    s'.holder = some (t, ops) ∨ (s'.holder = some (t, .join :: ops) ∧ s'.worker = none) := by
  cases hstep with
  | call t' hcall hfree =>
    rw [hfree] at hheld
    cases hheld
  | op hheld' hrun =>
    rw [hheld'] at hheld
    cases hheld
    exact .inl rfl
  | leave hheld' =>
    rw [hheld'] at hheld
    cases hheld
  | take _ hposted =>
    obtain ⟨t', ops', hheld', hsafe⟩ :=
      hinv.held_of_posted (by rw [hposted]; exact Option.some_ne_none _)
    rw [hheld] at hheld'
    cases hheld'
    exact absurd rfl hsafe.1
  | said hc =>
    rw [hidle] at hc
    cases hc
  | done hc =>
    rw [hidle] at hc
    cases hc

/-- A call that has cancelled the worker and joins it gets through, in every execution that is fair to the
worker and to the call, where the tasks wind up once they are cancelled. -/
theorem join_of_windsUp (hcalls : ∀ c, calls c → ∀ task, c.task? = some task → WindsUp ok n task)
    (hanswers : ∀ e, ∃ answer : Answer B e, ok e answer ∧ Tells e answer)
    (x : (gateSystem T calls ok).Execution) {t : T} {rest : List (Op B)}
    (hworker : x.Fair fun m => m.event.ofWorker = true)
    (hclient : x.Fair fun m => ∃ o, m.event = .op t o) {i : Nat}
    (hheld : (x.state i).holder = some (t, .join :: .lower :: .read :: rest)) :
    ∃ j, i ≤ j ∧ (x.state j).holder = some (t, .lower :: .read :: rest) := by
  have hcancels : (x.state i).Cancels := by
    obtain ⟨history, hrun⟩ := x.run i
    exact (run_inv hrun).cancels hheld
  generalize (.lower :: .read :: rest : List (Op B)) = ops at hheld ⊢
  have hbusy : ∀ s : State B T, (s.holder = some (t, .join :: ops) ∧ s.Cancels) →
      ¬ (s.holder = some (t, .join :: ops) ∧ s.worker = none) → s.worker ≠ none :=
    fun s h hnot hidle => hnot ⟨h.1, hidle⟩
  -- the task ends
  obtain ⟨j, hij, hidle⟩ := x.eventually_of_rank hworker (State.rank ok)
    (P := fun s => s.holder = some (t, .join :: ops) ∧ s.Cancels)
    (Q := fun s => s.holder = some (t, .join :: ops) ∧ s.worker = none)
    (fun history s _ h hnot => worker_enabled hanswers h.2 (hbusy s h hnot))
    (fun history s m s' hrun h hnot hstep =>
      waiting_step (run_windingUp hcalls hrun) h.1 h.2 (hbusy s h hnot) hstep.2) ⟨hheld, hcancels⟩
  -- then the call goes on
  by_contra hnever
  have hstays : ∀ k, j ≤ k → (x.state k).holder = some (t, .join :: ops) ∧ (x.state k).worker = none := by
    intro k hk
    apply x.invariant_from (P := fun s => s.holder = some (t, .join :: ops) ∧ s.worker = none) hidle _ hk
    intro k m hk hnow hevent
    obtain ⟨history, hrun⟩ := x.run k
    obtain hdone | hstill := joining_step (run_inv hrun) hnow.1 hnow.2 (x.steps k m hevent).2
    · exact absurd ⟨k + 1, by omega, hdone⟩ hnever
    · exact hstill
  obtain ⟨k, m, hk, hevent, o, ho⟩ := hclient j fun k hk => by
    obtain ⟨hheld, hidle⟩ := hstays k hk
    exact ⟨⟨x.state k, .op t .join⟩, _, ⟨_, rfl⟩, rfl, .op hheld (by rw [Op.run, hidle]; rfl)⟩
  have hstep := (x.steps k m hevent).2
  rw [ho] at hstep
  generalize hnext : x.state (k + 1) = s' at hstep
  cases hstep with
  | op hheld hrun =>
    rw [(hstays k hk).1] at hheld
    cases hheld
    exact hnever ⟨k + 1, by omega, by rw [hnext]⟩

end

end Fpc.Cancellation
