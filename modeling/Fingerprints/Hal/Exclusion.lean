import Fingerprints.Hal.Convention

/-!
# Exclusive use of the command buffer

The commands of the entry points, of the tasks and of the navigation loop share `tee->shared_buffer`.
A command that is filled in stays there until it is answered where nobody issues another one.

* **`Inv.inTee_unique`**: no two parties are in calls of the client library, but for calls of
  `pre_recalibrate_pn`;
* **`kept_step_iff`**: a step overwrites no command exactly when it keeps `pre_recalibrate_pn` apart;
* **`exclusive_iff`**: so in a run the commands exclude each other exactly when those of
  `pre_recalibrate_pn` are issued and answered while nothing else is at work.
-/

namespace Fpc.Threads

open Runs

variable {T : Type} {s s' : State T}

/-! ## The parties -/

/-- Who waits for an answer is in a call of the client library. -/
def PendingOk (s : State T) : Prop := ∀ p, s.pending p = true → s.InTee p

/-- The calls of the client library go on where no client left one and the threads that wait stay. -/
theorem PendingOk.frame (h : PendingOk s) (hpending : s'.pending = s.pending)
    (hcalls : ∀ u e rest, s.pending (.client u) = true → s.calls u = some (e, .tee rest) →
      s'.calls u = some (e, .tee rest))
    (hworker : s.pending .worker = true → s.worker.running = some .task →
      s'.worker.running = some .task)
    (hnav : s.pending .nav = true → s.navThread.running ≠ none →
      s'.navThread.running = s.navThread.running) : PendingOk s' := by
  intro p hp
  rw [hpending] at hp
  have hin := h p hp
  cases p with
  | client u =>
    obtain ⟨e, rest, hcall⟩ := hin
    exact ⟨e, rest, hcalls u e rest hp hcall⟩
  | worker => exact hworker hp hin
  | nav =>
    obtain ⟨stage, hrunning, hstage⟩ := hin
    refine ⟨stage, ?_, hstage⟩
    rw [hnav hp (by simp [hrunning]), hrunning]

/-- A call of `pre_recalibrate_pn`. -/
def Recalibrates (s : State T) (p : Party T) : Prop :=
  ∃ t rest, p = .client t ∧ s.calls t = some (.preRecalibratePn, rest)

/-- Two parties that may issue commands are one, calls of `pre_recalibrate_pn` apart. -/
theorem Inv.quiet_of_inTee (hinv : Inv s) {t : T} (hin : s.InTee (.client t))
    (hnot : ¬ Recalibrates s (.client t)) : Holds s t .quiet := by
  obtain ⟨e, rest, hcall⟩ := hin
  obtain ⟨stage, hfollows, hholds⟩ := (hinv.clients t).of_call hcall
  cases hfollows with
  | tee => exact hholds
  | teeBare hbare =>
    subst hbare
    exact absurd ⟨t, _, rfl, hcall⟩ hnot

/-- An entry point and a task issue commands while the loop does not run, and an entry point while no
task does. -/
theorem Inv.idle_of_inTee (hinv : Inv s) {p : Party T} (hin : s.InTee p)
    (hnot : ¬ Recalibrates s p) (hnav : p ≠ .nav) :
    s.navThread.running = none ∧ (p ≠ .worker → s.worker.running = none) := by
  cases p with
  | client t =>
    have hquiet := hinv.quiet_of_inTee hin hnot
    obtain ⟨e, rest, hcall⟩ := hin
    exact ⟨hinv.idle_of_quiet hquiet (by simp [hcall]), fun _ => hquiet.2.2.1⟩
  | worker => exact ⟨hinv.idle_of_task hin, fun h => absurd rfl h⟩
  | nav => exact absurd rfl hnav

/-- Two parties in calls of the client library are one, calls of `pre_recalibrate_pn` apart. -/
theorem Inv.inTee_unique (hinv : Inv s) {p q : Party T} (hp : s.InTee p) (hq : s.InTee q)
    (hpnot : ¬ Recalibrates s p) (hqnot : ¬ Recalibrates s q) : p = q := by
  have hloop : ∀ r : Party T, s.InTee r → ¬ Recalibrates s r → s.InTee .nav → r = .nav := by
    rintro r hr hrnot ⟨stage, hrunning, _⟩
    by_contra hne
    rw [(hinv.idle_of_inTee hr hrnot hne).1] at hrunning
    cases hrunning
  have htask : ∀ t, s.InTee (.client t) → ¬ Recalibrates s (.client t) → ¬ s.InTee .worker := by
    intro t ht htnot hworker
    have hidle := (hinv.idle_of_inTee ht htnot (by simp)).2 (by simp)
    rw [show s.worker.running = some .task from hworker] at hidle
    cases hidle
  cases p with
  | nav => exact (hloop q hq hqnot hp).symm
  | worker =>
    cases q with
    | client u => exact absurd hp (htask u hq hqnot)
    | worker => rfl
    | nav => exact hloop _ hp hpnot hq
  | client t =>
    cases q with
    | client u =>
      have hlock := (hinv.quiet_of_inTee hp hpnot).1
      rw [(hinv.quiet_of_inTee hq hqnot).1] at hlock
      rw [Option.some.inj hlock]
    | worker => exact absurd hq (htask t hp hpnot)
    | nav => exact hloop _ hp hpnot hq

/-- The command of whoever waits for an answer is the one in the buffer. -/
def Kept (s : State T) : Prop := ∀ p, s.pending p = true → s.buffer = some p

/-- An entry point or a task issues a command while neither the loop nor another task runs. -/
def IssuedIdle (m : Moment T) : Prop :=
  ∀ p, m.action = .fill p → p ≠ .nav →
    m.before.navThread.running = none ∧ (p ≠ .worker → m.before.worker.running = none)

/-- `pre_recalibrate_pn` issues its command while neither the loop nor a task runs and nobody waits
for an answer, and nobody issues a command while it waits for its own. -/
def RecalibratesApart (m : Moment T) : Prop :=
  ∀ p, m.action = .fill p →
    (Recalibrates m.before p →
      m.before.navThread.running = none ∧ m.before.worker.running = none ∧
        ∀ q, m.before.pending q = false) ∧
    ∀ q, Recalibrates m.before q → m.before.pending q = false

/-! ## The commands -/

section

variable [DecidableEq T]

/-- A step that issues and ends no command leaves the buffer and who waits. -/
theorem Step.buffer_eq (hstep : Step s .other s') :
    s'.buffer = s.buffer ∧ s'.pending = s.pending := by
  cases hstep with
  | enter =>
    unfold State.enter
    split <;> exact ⟨rfl, rfl⟩
  | _ => exact ⟨rfl, rfl⟩

/-- A client that is in no call of the client library, or waits for no answer, goes on. -/
theorem PendingOk.move {t : T} {call : Option (EntryPoint × Prog)} (h : PendingOk s)
    (hcall : s.pending (.client t) = true → ∀ e rest, s.calls t ≠ some (e, .tee rest))
    (hpending : s'.pending = s.pending) (hcalls : s'.calls = Function.update s.calls t call)
    (hworker : s'.worker.running = s.worker.running)
    (hnav : s'.navThread = s.navThread) : PendingOk s' := by
  refine h.frame hpending ?_ (fun _ hw => by rw [hworker, hw]) (fun _ _ => by rw [hnav])
  intro u e rest hp hat
  have hne : u ≠ t := by
    rintro rfl
    exact hcall hp e rest hat
  rw [hcalls, Function.update_of_ne hne, hat]

theorem PendingOk.step {a : Action T} (h : PendingOk s) (hinv : Inv s) (hstep : Step s a s') :
    PendingOk s' := by
  cases hstep with
  | call t e hcall => exact h.move (by simp [hcall]) rfl rfl rfl rfl
  | ret hcall | lock hcall | unlock hcall | join hcall | post hcall | taken hcall | read hcall
  | write hcall | leaveClient _ hcall => exact h.move (by simp [hcall]) rfl rfl rfl rfl
  | teeReturn _ _ hdone => exact h.move (by simp [hdone]) rfl rfl rfl rfl
  | take hidle =>
    exact h.frame rfl (fun _ _ _ _ h => h) (by simp [hidle]) fun _ _ => rfl
  | taskDone _ hdone =>
    exact h.frame rfl (fun _ _ _ _ h => h) (by simp [hdone]) fun _ _ => rfl
  | enter =>
    obtain ⟨hcalls, _, hworker, _⟩ := enter_frame s _ _
    refine h.frame ?_ (fun _ _ _ _ hat => by rwa [hcalls]) (fun _ hat => by rwa [hworker]) ?_
    all_goals
      unfold State.enter
      split <;> simp
  | cancelled | navPost | navTaken =>
    exact h.frame rfl (fun _ _ _ _ h => h) (fun _ h => h) fun _ _ => rfl
  | leaveWorker hmutex =>
    obtain ⟨⟨hresume, _⟩, _⟩ := hinv.mutex.held hmutex
    exact h.frame rfl (fun _ _ _ _ h => h) (by simp [hresume]) fun _ _ => rfl
  | navTake hidle =>
    exact h.frame rfl (fun _ _ _ _ h => h) (fun _ h => h) (by simp [hidle])
  | navNext _ _ hdone =>
    exact h.frame rfl (fun _ _ _ _ h => h) (fun _ h => h) (by simp [hdone])
  | @fill p hin _ =>
    intro q hq
    by_cases hp : q = p
    · subst hp
      exact hin
    · exact h q (by simpa [hp] using hq)
  | @answer p _ =>
    intro q hq
    by_cases hp : q = p
    · subst hp
      simp at hq
    · exact h q (by simpa [hp] using hq)

/-- A command is issued: it is the only one exactly when nobody waits for an answer. -/
theorem kept_fill_iff {p : Party T} (hdone : s.pending p = false) :
    Kept { s with buffer := some p, pending := Function.update s.pending p true } ↔
      ∀ q, s.pending q = false := by
  constructor
  · intro hkept q
    by_cases hq : q = p
    · rw [hq, hdone]
    · by_contra hpending
      have hbuffer := hkept q (by simpa [hq] using hpending)
      exact hq (Option.some.inj hbuffer).symm
  · intro hnone q hq
    by_cases hp : q = p
    · rw [hp]
    · simp [hp, hnone q] at hq

/-- A step keeps the commands apart exactly when it keeps `pre_recalibrate_pn` apart. -/
theorem kept_step_iff {m : Moment T} (hinv : Inv m.before) (hpending : PendingOk m.before)
    (hkept : Kept m.before) (hstep : Step m.before m.action s') :
    Kept s' ∧ IssuedIdle m ↔ RecalibratesApart m := by
  obtain ⟨s, a⟩ := m
  cases a with
  | other =>
    obtain ⟨hbuffer, hpending'⟩ := hstep.buffer_eq
    simpa [IssuedIdle, RecalibratesApart, Kept, hbuffer, hpending'] using hkept
  | answer p =>
    have hkept' : Kept s' := by
      cases hstep with
      | answer =>
        intro q hq
        by_cases hp : q = p
        · subst hp
          simp at hq
        · exact hkept q (by simpa [hp] using hq)
    simpa [IssuedIdle, RecalibratesApart] using hkept'
  | fill p =>
    cases hstep with
    | fill hin hdone =>
      rw [kept_fill_iff hdone]
      constructor
      · rintro ⟨hnone, hissued⟩ _ ⟨⟩
        refine ⟨?_, fun q _ => hnone q⟩
        rintro ⟨t, _, rfl, _⟩
        obtain ⟨hloop, htask⟩ := hissued _ rfl (by simp)
        exact ⟨hloop, htask (by simp), hnone⟩
      · intro hapart
        obtain ⟨hself, hothers⟩ := hapart p rfl
        by_cases hrecalibrates : Recalibrates s p
        · obtain ⟨hloop, htask, hnone⟩ := hself hrecalibrates
          refine ⟨hnone, ?_⟩
          rintro _ ⟨⟩ _
          exact ⟨hloop, fun _ => htask⟩
        · constructor
          · intro q
            by_contra hq
            -- who waits is in a call too, so it is the one that issues
            have hwaits : s.pending q = true := by simpa using hq
            have hqnot : ¬ Recalibrates s q := fun h => hq (hothers q h)
            rw [hinv.inTee_unique (hpending q hwaits) hin hqnot hrecalibrates] at hq
            exact hq hdone
          · rintro _ ⟨⟩ hnav
            exact hinv.idle_of_inTee hin hrecalibrates hnav

theorem pendingOk_of_run {history : List (Moment T)} (hrun : deviceSystem.Run history s) :
    PendingOk s := by
  induction hrun with
  | init hinit =>
    obtain rfl := hinit
    simp [PendingOk, opened]
  | step hrun hstep ih => exact ih.step (inv_of_run hrun) hstep.2

/-- In a run no command is overwritten and all are issued while nothing else runs, exactly when those
of `pre_recalibrate_pn` are issued and answered while nothing else is at work. Induction on the
run. -/
theorem exclusive_iff {history : List (Moment T)} (hrun : deviceSystem.Run history s) :
    (Kept s ∧ ∀ m ∈ history, Kept m.before ∧ IssuedIdle m) ↔
      ∀ m ∈ history, RecalibratesApart m := by
  induction hrun with
  | init hinit =>
    obtain rfl := hinit
    simp [Kept, opened]
  | @step history s s' m hrun hstep ih =>
    obtain ⟨rfl, hstep⟩ := hstep
    have hlast : Kept m.before → (Kept s' ∧ IssuedIdle m ↔ RecalibratesApart m) :=
      fun hkept => kept_step_iff (inv_of_run hrun) (pendingOk_of_run hrun) hkept hstep
    rw [List.forall_mem_cons, List.forall_mem_cons, ← ih]
    constructor
    · rintro ⟨hkept', ⟨hkept, hissued⟩, hbefore⟩
      exact ⟨(hlast hkept).mp ⟨hkept', hissued⟩, hkept, hbefore⟩
    · rintro ⟨hapart, hkept, hbefore⟩
      obtain ⟨hkept', hissued⟩ := (hlast hkept).mpr hapart
      exact ⟨hkept', ⟨hkept, hissued⟩, hbefore⟩

theorem run_step {history : List (Moment T)} {a : Action T} (hrun : deviceSystem.Run history s)
    (hstep : Step s a s') : deviceSystem.Run (⟨s, a⟩ :: history) s' := .step hrun ⟨rfl, hstep⟩

end

/-- The loop ends with an error, and `pre_recalibrate_pn` issues its command then. -/
theorem loopEnded_exclusive :
    ∃ (history : List (Moment Unit)) (s : State Unit), deviceSystem.Run history s ∧
      s.pending (.client ()) = true ∧
      Kept s ∧ ∀ m ∈ history, Kept m.before ∧ IssuedIdle m := by
  have hopened : deviceSystem.Run [] (opened : State Unit) := .init rfl
  have hloop := run_step (run_step hopened (.navNext 0 rfl rfl)) (.navNext (-1) rfl rfl)
  have hcall := run_step hloop (.call () .preRecalibratePn rfl)
  have hfill := run_step hcall (.fill (p := .client ()) ⟨_, _, rfl⟩ rfl)
  refine ⟨_, _, hfill, rfl, (exclusive_iff hfill).mpr ?_⟩
  simp only [List.forall_mem_cons]
  refine ⟨?_, nofun, nofun, nofun, List.forall_mem_nil _⟩
  rintro _ ⟨⟩
  exact ⟨fun _ => ⟨rfl, rfl, fun _ => rfl⟩, fun _ _ => rfl⟩

/-- The loop issues a command while the one of `pre_recalibrate_pn` waits for its answer. -/
theorem preRecalibratePn_overwritten :
    ¬ ∀ (history : List (Moment Unit)) (s : State Unit), deviceSystem.Run history s →
      Kept s ∧ ∀ m ∈ history, Kept m.before ∧ IssuedIdle m := by
  intro h
  have hopened : deviceSystem.Run [] (opened : State Unit) := .init rfl
  have hcall := run_step hopened (.call () .preRecalibratePn rfl)
  have hfill := run_step hcall (.fill (p := .client ()) ⟨_, _, rfl⟩ rfl)
  have hloop := run_step (run_step hfill (.navNext 0 rfl rfl)) (.fill (p := .nav) ⟨_, rfl, rfl⟩ rfl)
  have hbuffer := (h _ _ hloop).1 (.client ()) rfl
  cases hbuffer

end Fpc.Threads
