import Fingerprints.Hal.Navigation

/-!
# Navigation events and the force button apart

`nav_loop` keeps a flag for each of the two kinds of events: a navigation event blocks the presses
of its touch, and a press the navigation events. Both flags are cleared when the finger is up, where
the button may be down still.

* **`touchApart`**: within a touch, a navigation event and a press are never reported both;
* **`lingers_iff`**: the button is down and blocks nothing exactly where it has been down since the
  finger was up;
* **`navApart_iff`**: so no navigation event is reported while the button is, exactly when none comes
  while a press lingers behind its touch.
-/

namespace Fpc.Navigation

open Runs Threads

/-! ## What is reported -/

/-- The button as it was reported last. -/
def ReportedDown (reports : List InputEvent) : Prop := (presses reports).getLast? = some .down

/-- No navigation event is reported while the button is reported down. -/
def NavClear (reports : List InputEvent) : Prop :=
  ∀ pre event value post, reports = pre ++ .nav event value :: post → ¬ ReportedDown pre

/-- What some samples report, from the variables in front of them on. -/
def reportsFrom (stConfig : Option SenseTouchConfig) : Locals → List NavData → List InputEvent
  | _, [] => []
  | s, nav :: rest =>
      (navSample stConfig s nav).2 ++ reportsFrom stConfig (navSample stConfig s nav).1 rest

/-- Samples with the finger down one behind the other do not report both a navigation event and a
press. -/
def TouchApart (stConfig : Option SenseTouchConfig) (samples : List NavData) : Prop :=
  ∀ before touch after reports, samples = before ++ (touch ++ after) →
    (∀ nav ∈ touch, nav.fingerDown ≠ 0) →
    reportsAfter stConfig (before ++ touch) = reportsAfter stConfig before ++ reports →
      ¬ ((∃ event value, .nav event value ∈ reports) ∧ .press .down ∈ reports)

/-- A press lingers: the button has been down since a sample without a finger. -/
def Lingers (stConfig : Option SenseTouchConfig) (samples : List NavData) : Prop :=
  ∃ before up after, samples = before ++ up :: after ∧ up.fingerDown = 0 ∧
    ∀ more rest, after = more ++ rest →
      (varsAfter stConfig (before ++ up :: more)).forceButtonDown = true

/-- No sample has a navigation event while a press lingers. -/
def NoneLingers (stConfig : Option SenseTouchConfig) (samples : List NavData) : Prop :=
  ∀ before nav after, samples = before ++ nav :: after → nav.navEvent ≠ fpcNavEventNone →
    ¬ Lingers stConfig before

section

variable {stConfig : Option SenseTouchConfig} {s : Locals} {nav : NavData}

/-! ## One sample -/

/-- The variables of a turn when the button is looked at. -/
def beforeButton (s : Locals) (nav : NavData) : Locals :=
  (reportRawForce nav (reportNavEvent nav s).1).1

theorem navSample_eq : navSample stConfig s nav =
    (clearBlocks nav (reportForceButton stConfig nav (beforeButton s nav)).1,
      (reportNavEvent nav s).2 ++ ((reportRawForce nav (reportNavEvent nav s).1).2 ++
        (reportForceButton stConfig nav (beforeButton s nav)).2)) := rfl

theorem beforeButton_blockNav : (beforeButton s nav).blockNavEvents = s.blockNavEvents := by
  unfold beforeButton reportRawForce reportNavEvent
  split <;> split <;> rfl

theorem beforeButton_blockSt :
    (beforeButton s nav).blockStEvents = (reportNavEvent nav s).1.blockStEvents :=
  reportRawForce_blockSt nav _

theorem beforeButton_button : (beforeButton s nav).forceButtonDown = s.forceButtonDown := by
  unfold beforeButton
  rw [reportRawForce_button, reportNavEvent_button]

/-- A sample reports its navigation event where nothing blocks it. -/
theorem reportNavEvent_reports :
    (reportNavEvent nav s).2 =
      if s.blockNavEvents = false ∧ nav.navEvent ≠ fpcNavEventNone then
        [.nav nav.navEvent .down, .nav nav.navEvent .up]
      else [] := by
  unfold reportNavEvent
  split <;> rfl

/-- The event is one of the navigation. -/
def InputEvent.isNav : InputEvent → Bool
  | .nav _ _ => true
  | _ => false

theorem reportRawForce_noNav : ∀ event ∈ (reportRawForce nav s).2, event.isNav = false := by
  unfold reportRawForce
  split <;> simp [InputEvent.isNav]

theorem reportForceButton_noNav :
    ∀ event ∈ (reportForceButton stConfig nav s).2, event.isNav = false := by
  unfold reportForceButton
  repeat' split
  all_goals simp [InputEvent.isNav]

theorem nav_mem_navSample {event : UInt32} {value : Key}
    (h : .nav event value ∈ (navSample stConfig s nav).2) :
    s.blockNavEvents = false ∧ nav.navEvent ≠ fpcNavEventNone := by
  rw [navSample_eq] at h
  rcases List.mem_append.mp h with h | h
  · rw [reportNavEvent_reports] at h
    split at h
    · next hreported => exact hreported
    · cases h
  · rcases List.mem_append.mp h with h | h
    · cases reportRawForce_noNav _ h
    · cases reportForceButton_noNav _ h

/-- A sample reports a press where it presses the button and the button was up. -/
theorem press_mem_navSample :
    .press .down ∈ (navSample stConfig s nav).2 ↔
      Presses stConfig s nav ∧ s.forceButtonDown = false := by
  have hmem : .press .down ∈ (navSample stConfig s nav).2 ↔
      Key.down ∈ presses (navSample stConfig s nav).2 := by
    simp only [presses, List.mem_filterMap]
    constructor
    · intro h
      exact ⟨_, h, rfl⟩
    · rintro ⟨event, h, hevent⟩
      cases event with
      | press value =>
        cases hevent
        exact h
      | nav _ _ => cases hevent
      | raw _ => cases hevent
  rw [hmem, navSample_presses]
  have hbutton := @navSample_button stConfig s nav
  cases hup : s.forceButtonDown with
  | true =>
    refine iff_of_false ?_ (fun h => Bool.noConfusion h.2)
    cases (navSample stConfig s nav).1.forceButtonDown <;> simp
  | false =>
    rw [hup] at hbutton
    rw [and_iff_left rfl]
    cases hdown : (navSample stConfig s nav).1.forceButtonDown with
    | true =>
      rw [hdown] at hbutton
      exact iff_of_true (by simp) ((hbutton.mp rfl).resolve_right fun h => Bool.noConfusion h.1)
    | false =>
      rw [hdown] at hbutton
      exact iff_of_false (by simp) fun h => Bool.noConfusion (hbutton.mpr (Or.inl h))

/-- A press blocks the navigation events until the finger is up. -/
theorem navSample_blockNav :
    (navSample stConfig s nav).1.blockNavEvents = true ↔
      nav.fingerDown ≠ 0 ∧
        (s.blockNavEvents = true ∨ Presses stConfig s nav ∧ s.forceButtonDown = false) := by
  have hbutton : (reportForceButton stConfig nav (beforeButton s nav)).1.blockNavEvents = true ↔
      s.blockNavEvents = true ∨ Presses stConfig s nav ∧ s.forceButtonDown = false := by
    unfold reportForceButton Presses
    cases stConfig with
    | none => simp [beforeButton_blockNav]
    | some config =>
      simp only [Option.mem_some_iff, exists_eq_left', beforeButton_blockSt, beforeButton_button]
      split
      · next hpresses =>
        cases s.forceButtonDown with
        | true => simp [beforeButton_blockNav]
        | false => simp [hpresses]
      · next hpresses =>
        rw [show (_ ∧ _ ↔ False) from iff_false_intro fun h => hpresses h.1, or_false]
        split
        · split <;> simp [beforeButton_blockNav]
        · simp [beforeButton_blockNav]
  rw [navSample_eq]
  dsimp only
  unfold clearBlocks
  split
  · next hup => simp [hup]
  · next hdown =>
    rw [hbutton]
    simp [hdown]

/-- A navigation event blocks the presses until the finger is up. -/
theorem navSample_blockSt :
    (navSample stConfig s nav).1.blockStEvents = true ↔
      nav.fingerDown ≠ 0 ∧
        (s.blockStEvents = true ∨
          s.blockNavEvents = false ∧ nav.navEvent ≠ fpcNavEventNone) := by
  have hbutton : (reportForceButton stConfig nav (beforeButton s nav)).1.blockStEvents =
      (reportNavEvent nav s).1.blockStEvents := by
    rw [← beforeButton_blockSt]
    unfold reportForceButton
    repeat' split
    all_goals rfl
  have hnav : (reportNavEvent nav s).1.blockStEvents = true ↔
      s.blockStEvents = true ∨ s.blockNavEvents = false ∧ nav.navEvent ≠ fpcNavEventNone := by
    unfold reportNavEvent
    split
    · next hreported => simp [hreported]
    · next hreported => simp [hreported]
  rw [navSample_eq]
  dsimp only
  unfold clearBlocks
  split
  · next hup => simp [hup]
  · next hdown =>
    rw [hbutton, hnav]
    simp [hdown]

/-! ## A touch -/

/-- Where the navigation events are blocked, a touch reports none. Induction on its samples. -/
theorem noNav_of_blocked {touch : List NavData} (hdown : ∀ nav ∈ touch, nav.fingerDown ≠ 0)
    (hblocked : s.blockNavEvents = true) (event : UInt32) (value : Key) :
    .nav event value ∉ reportsFrom stConfig s touch := by
  induction touch generalizing s with
  | nil => exact List.not_mem_nil
  | cons nav rest ih =>
    rw [List.forall_mem_cons] at hdown
    rw [reportsFrom, List.mem_append, not_or]
    constructor
    · intro hmem
      rw [(nav_mem_navSample hmem).1] at hblocked
      cases hblocked
    · exact ih hdown.2 (navSample_blockNav.mpr ⟨hdown.1, Or.inl hblocked⟩)

/-- Where the presses are blocked, a touch reports none. Induction on its samples. -/
theorem noPress_of_blocked {touch : List NavData} (hdown : ∀ nav ∈ touch, nav.fingerDown ≠ 0)
    (hblocked : s.blockStEvents = true) : .press .down ∉ reportsFrom stConfig s touch := by
  induction touch generalizing s with
  | nil => exact List.not_mem_nil
  | cons nav rest ih =>
    rw [List.forall_mem_cons] at hdown
    rw [reportsFrom, List.mem_append, not_or]
    constructor
    · intro hmem
      obtain ⟨config, _, hfree, _⟩ := (press_mem_navSample.mp hmem).1
      have hkept : (reportNavEvent nav s).1.blockStEvents = true := by
        unfold reportNavEvent
        split
        · rfl
        · exact hblocked
      rw [hkept] at hfree
      cases hfree
    · exact ih hdown.2 (navSample_blockSt.mpr ⟨hdown.1, Or.inl hblocked⟩)

/-- A touch does not report both a navigation event and a press. Induction on its samples: the one
that comes first blocks the other for the rest of the touch. -/
theorem reportsFrom_apart {touch : List NavData} (hdown : ∀ nav ∈ touch, nav.fingerDown ≠ 0) :
    ¬ ((∃ event value, .nav event value ∈ reportsFrom stConfig s touch) ∧
      .press .down ∈ reportsFrom stConfig s touch) := by
  induction touch generalizing s with
  | nil =>
    rintro ⟨⟨_, _, hmem⟩, _⟩
    cases hmem
  | cons nav rest ih =>
    rw [List.forall_mem_cons] at hdown
    rw [reportsFrom]
    rintro ⟨⟨event, value, hnav⟩, hpress⟩
    rw [List.mem_append] at hnav hpress
    rcases hnav with hnav | hnav
    · -- the event of this sample blocks a press in it and behind it
      have hevent := nav_mem_navSample hnav
      rcases hpress with hpress | hpress
      · obtain ⟨config, _, hfree, _⟩ := (press_mem_navSample.mp hpress).1
        unfold reportNavEvent at hfree
        rw [if_pos hevent] at hfree
        cases hfree
      · exact noPress_of_blocked hdown.2 (navSample_blockSt.mpr ⟨hdown.1, Or.inr hevent⟩) hpress
    · rcases hpress with hpress | hpress
      · have hblocked := navSample_blockNav.mpr ⟨hdown.1, Or.inr (press_mem_navSample.mp hpress)⟩
        exact noNav_of_blocked hdown.2 hblocked event value hnav
      · exact ih hdown.2 ⟨⟨event, value, hnav⟩, hpress⟩

/-- What is reported behind a touch is what was reported in front of it and what it reports.
Induction on the touch, from its last sample on. -/
theorem reportsAfter_touch (before touch : List NavData) :
    reportsAfter stConfig (before ++ touch) =
      reportsAfter stConfig before ++ reportsFrom stConfig (varsAfter stConfig before) touch := by
  induction touch generalizing before with
  | nil => rw [List.append_nil, reportsFrom, List.append_nil]
  | cons nav rest ih =>
    rw [List.append_cons, ih, reportsAfter_append, varsAfter_append, reportsFrom, List.append_assoc]

/-- **Within a touch, a navigation event and a press are never reported both.** -/
theorem touchApart (samples : List NavData) : TouchApart stConfig samples := by
  intro before touch after reports _ hdown hreports
  rw [reportsAfter_touch, List.append_cancel_left_eq] at hreports
  rw [← hreports]
  exact reportsFrom_apart hdown

/-! ## A press that lingers -/

/-- **The button is down and blocks nothing exactly where it has been down since the finger was
up.** Induction on the samples, from the last one on. -/
theorem lingers_iff (samples : List NavData) :
    Lingers stConfig samples ↔
      (varsAfter stConfig samples).forceButtonDown = true ∧
        (varsAfter stConfig samples).blockNavEvents = false := by
  induction samples using List.reverseRecOn with
  | nil =>
    refine iff_of_false ?_ (by simp [Locals.initial])
    rintro ⟨before, up, after, hsamples, _⟩
    simp at hsamples
  | append_singleton samples last ih =>
    have hlast : Lingers stConfig (samples ++ [last]) ↔
        (varsAfter stConfig (samples ++ [last])).forceButtonDown = true ∧
          (Lingers stConfig samples ∨ last.fingerDown = 0) := by
      constructor
      · rintro ⟨before, up, after, hsamples, hup, hheld⟩
        rcases List.eq_nil_or_concat after with rfl | ⟨after, later, rfl⟩
        · obtain ⟨rfl, hlast⟩ := List.append_inj' hsamples rfl
          injection hlast with hlast
          rw [hlast]
          exact ⟨hheld [] [] rfl, Or.inr hup⟩
        · rw [hsamples]
          refine ⟨hheld _ [] (List.append_nil _).symm, Or.inl ?_⟩
          rw [List.concat_eq_append, ← List.cons_append, ← List.append_assoc] at hsamples
          obtain ⟨rfl, _⟩ := List.append_inj' hsamples rfl
          refine ⟨before, up, after, rfl, hup, ?_⟩
          intro more rest hafter
          exact hheld more (rest ++ [later]) (by rw [hafter, List.concat_eq_append, List.append_assoc])
      · rintro ⟨hdown, ⟨before, up, after, rfl, hup, hheld⟩ | hup⟩
        · refine ⟨before, up, after ++ [last], by rw [List.append_assoc, List.cons_append], hup, ?_⟩
          intro more rest hafter
          rcases List.eq_nil_or_concat rest with rfl | ⟨rest, later, rfl⟩
          · rw [List.append_nil] at hafter
            rw [← hafter, ← List.cons_append, ← List.append_assoc]
            exact hdown
          · rw [List.concat_eq_append, ← List.append_assoc] at hafter
            exact hheld more rest (List.append_inj' hafter rfl).1
        · refine ⟨samples, last, [], rfl, hup, ?_⟩
          intro more rest hafter
          obtain ⟨rfl, _⟩ := List.append_eq_nil_iff.mp hafter.symm
          exact hdown
    rw [hlast, ih, varsAfter_append]
    generalize varsAfter stConfig samples = s
    have hbutton := @navSample_button stConfig s last
    rw [and_congr_right_iff]
    intro hdown
    rw [← Bool.not_eq_true, ← Bool.not_eq_true, navSample_blockNav]
    constructor
    · rintro (⟨hheld, hfree⟩ | hup) ⟨hfinger, hblocks⟩
      · rcases hblocks with hblocked | ⟨_, hup⟩
        · exact hfree hblocked
        · rw [hup] at hheld
          cases hheld
      · exact hfinger hup
    · intro hfree
      rw [or_iff_not_imp_right]
      intro hfinger
      refine ⟨?_, fun hblocked => hfree ⟨hfinger, Or.inl hblocked⟩⟩
      -- a button that was up was pressed in this sample, which blocks
      rw [← Bool.not_eq_false]
      intro hup
      rcases hbutton.mp hdown with hpresses | ⟨hheld, _⟩
      · exact hfree ⟨hfinger, Or.inr ⟨hpresses, hup⟩⟩
      · rw [hup] at hheld
        cases hheld

/-! ## Navigation events while the button is down -/

theorem navClear_concat (reports : List InputEvent) (event : InputEvent) :
    NavClear (reports ++ [event]) ↔
      NavClear reports ∧ (event.isNav = true → ¬ ReportedDown reports) := by
  constructor
  · intro h
    constructor
    · intro pre e value post hsplit
      exact h pre e value (post ++ [event]) (by rw [hsplit, List.append_assoc, List.cons_append])
    · intro hnav
      cases event with
      | nav e value => exact h reports e value [] rfl
      | raw _ => cases hnav
      | press _ => cases hnav
  · rintro ⟨hbefore, hlast⟩ pre e value post hsplit
    rcases List.eq_nil_or_concat post with rfl | ⟨post, last, rfl⟩
    · obtain ⟨rfl, hevent⟩ := List.append_inj' hsplit rfl
      injection hevent with hevent
      exact hlast (by rw [hevent]; rfl)
    · rw [List.concat_eq_append, ← List.cons_append, ← List.append_assoc] at hsplit
      obtain ⟨hsplit, _⟩ := List.append_inj' hsplit rfl
      exact hbefore pre e value post hsplit

/-- Events of other kinds make no collision. Induction on them, from the last one on. -/
theorem navClear_append {reports others : List InputEvent}
    (h : ∀ event ∈ others, event.isNav = false) :
    NavClear (reports ++ others) ↔ NavClear reports := by
  induction others using List.reverseRecOn with
  | nil => rw [List.append_nil]
  | append_singleton others last ih =>
    rw [List.forall_mem_append, List.forall_mem_singleton] at h
    rw [← List.append_assoc, navClear_concat, ih h.1, h.2]
    simp

theorem reportedDown_nav (reports : List InputEvent) (event : UInt32) (value : Key) :
    ReportedDown (reports ++ [.nav event value]) ↔ ReportedDown reports := by
  unfold ReportedDown
  rw [presses_append]
  simp [presses]

/-- The button is reported as it is. -/
theorem reportedDown_reportsAfter (samples : List NavData) :
    ReportedDown (reportsAfter stConfig samples) ↔
      (varsAfter stConfig samples).forceButtonDown = true := by
  obtain ⟨n, hpresses⟩ := @presses_eq stConfig samples
  unfold ReportedDown
  rw [hpresses]
  cases (varsAfter stConfig samples).forceButtonDown with
  | true => simp
  | false =>
    cases n with
    | zero => simp [pairs]
    | succ n => simp [pairs_succ]

/-- No navigation event is reported while the button is exactly when none comes while a press
lingers. Induction on the samples, from the last one on. -/
theorem navClear_iff (samples : List NavData) :
    NavClear (reportsAfter stConfig samples) ↔ NoneLingers stConfig samples := by
  induction samples using List.reverseRecOn with
  | nil =>
    refine iff_of_true ?_ ?_
    · intro pre event value post hsplit
      simp at hsplit
    · intro before nav after hsplit
      simp at hsplit
  | append_singleton samples last ih =>
    have hnone : NoneLingers stConfig (samples ++ [last]) ↔ NoneLingers stConfig samples ∧
        (last.navEvent ≠ fpcNavEventNone → ¬ Lingers stConfig samples) := by
      constructor
      · intro h
        constructor
        · intro before nav after hsplit
          exact h before nav (after ++ [last]) (by rw [hsplit, List.append_assoc, List.cons_append])
        · exact h samples last [] rfl
      · rintro ⟨hbefore, hlast⟩ before nav after hsplit
        rcases List.eq_nil_or_concat after with rfl | ⟨after, later, rfl⟩
        · obtain ⟨rfl, hnav⟩ := List.append_inj' hsplit rfl
          injection hnav with hnav
          rw [← hnav]
          exact hlast
        · rw [List.concat_eq_append, ← List.cons_append, ← List.append_assoc] at hsplit
          exact hbefore before nav after (List.append_inj' hsplit rfl).1
    rw [reportsAfter_append, navSample_eq]
    dsimp only
    rw [← List.append_assoc, ← List.append_assoc, navClear_append reportForceButton_noNav,
      navClear_append reportRawForce_noNav, hnone, ← ih, reportNavEvent_reports, lingers_iff]
    split
    · next hreports =>
      rw [List.append_cons, navClear_concat, navClear_concat, reportedDown_nav,
        reportedDown_reportsAfter]
      simp [InputEvent.isNav, hreports]
    · next hreports =>
      rw [List.append_nil]
      refine (and_iff_left ?_).symm
      intro hevent hlingers
      exact hreports ⟨hlingers.2, hevent⟩

/-- **When navigation events and the force button do not collide.** In a run no navigation event is
reported while the button is, and none in the touch of a press, exactly when no navigation event comes
while a press lingers. -/
theorem navApart_iff {history : List NavMoment} {run : NavRun}
    (hrun : (navSystem stConfig).Run history run) :
    NavClear run.reports ∧ TouchApart stConfig (samplesOf history) ↔
      NoneLingers stConfig (samplesOf history) := by
  rw [(samples_of_run hrun).2, and_iff_left (touchApart _)]
  exact navClear_iff _

end

/-- A loop that polls some samples, as long as it is not cancelled. -/
def sampleTurns (samples : List NavData) : List (NavModule × Int × NavData) :=
  List.replicate 2 (⟨true, false, false, false⟩, 0, sampleForce 0) ++
    samples.flatMap fun nav => List.replicate 3 (⟨true, false, false, false⟩, 0, nav)

/-- The force comes behind a navigation event of the same touch. -/
theorem sampleNav_clear :
    ∃ (history : List NavMoment) (run : NavRun),
      (navSystem (some ⟨80, 40⟩)).Run history run ∧
      run.reports = [.nav 1 .down, .nav 1 .up, .raw 90] ∧ NavClear run.reports := by
  have hrun := run_of_steps (.init ⟨rfl, rfl, rfl⟩)
    (rfl : sampleLoop.steps (some ⟨80, 40⟩) []
      (sampleTurns [⟨1, 0, 1, 0⟩, sampleForce 90]) = some (_, _))
  refine ⟨_, _, hrun, by decide, ((navApart_iff hrun).mpr ?_).1⟩
  intro before nav after hsplit hevent
  have hsplit : [⟨1, 0, 1, 0⟩, sampleForce 90] = before ++ nav :: after := hsplit
  rcases before with _ | ⟨_, _ | ⟨_, before⟩⟩
  · rw [lingers_iff]
    decide
  · injection hsplit with _ hsplit
    injection hsplit with hnav _
    rw [← hnav] at hevent
    exact absurd rfl hevent
  · simp at hsplit

/-- The button is pressed, the finger goes up with a force between the thresholds, and there is a
navigation event in the next touch. -/
theorem sampleNav_collides :
    ¬ ∀ (stConfig : Option SenseTouchConfig) (history : List NavMoment) (run : NavRun),
      (navSystem stConfig).Run history run →
        NavClear run.reports ∧ TouchApart stConfig (samplesOf history) := by
  intro h
  have hrun := run_of_steps (.init ⟨rfl, rfl, rfl⟩)
    (rfl : sampleLoop.steps (some ⟨80, 40⟩) []
      (sampleTurns [sampleForce 90, ⟨0, 60, 0, 0⟩, ⟨1, 60, 1, 0⟩]) = some (_, _))
  have hclear := (h _ _ _ hrun).1 [.raw 90, .press .down, .raw 60] 1 .down [.nav 1 .up] (by decide)
  exact hclear rfl

end Fpc.Navigation
