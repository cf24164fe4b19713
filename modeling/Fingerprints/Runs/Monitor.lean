import Fingerprints.Runs.Script

/-!
# Monitors of scripts

A monitor watches what a script does and keeps what is known of the world behind it; what it refuses is
never to be done. `Watched m P c Q` says that from a state of the monitor with `P` every whole run of `c`
is accepted, and that `Q` holds of what is returned and of the state behind it.

* **`Watched.ask`**, **`Watched.bind`**, **`Watched.iter`**: the rules, one for each way to build a script;
* **`Watched.extend`**: what a monitor knows of a script, one that knows more knows as well.
-/

namespace Runs

/-- What is known behind an event, or `none` where the event is refused. -/
structure Monitor (μ ε : Type) where
  step : μ → ε → Option μ

namespace Monitor

variable {μ ε : Type}

/-- What is known behind some events. -/
def run (m : Monitor μ ε) : μ → List ε → Option μ
  | s, [] => some s
  | s, e :: events => (m.step s e).bind fun s' => m.run s' events

@[simp] theorem run_nil (m : Monitor μ ε) (s : μ) : m.run s [] = some s := rfl

@[simp] theorem run_cons (m : Monitor μ ε) (s : μ) (e : ε) (events : List ε) :
    m.run s (e :: events) = (m.step s e).bind fun s' => m.run s' events := rfl

/-- Induction on the first events. -/
theorem run_append (m : Monitor μ ε) (s : μ) (first second : List ε) :
    m.run s (first ++ second) = (m.run s first).bind fun s' => m.run s' second := by
  induction first generalizing s with
  | nil => rfl
  | cons e first ih =>
    rw [List.cons_append, run_cons, run_cons]
    cases m.step s e with
    | none => rfl
    | some s' => exact ih s'

theorem run_append_of_run {m : Monitor μ ε} {s s' : μ} {first : List ε} (h : m.run s first = some s')
    (second : List ε) : m.run s (first ++ second) = m.run s' second := by
  rw [run_append, h]
  rfl

/-- A monitor that knows more: it goes along with another, that sees a part of what it knows, on the events
of a kind. -/
def Extends {ν : Type} (n : Monitor ν ε) (m : Monitor μ ε) (view : ν → μ) (J : ν → Prop)
    (p : ε → Prop) : Prop :=
  ∀ ⦃s e t⦄, J s → p e → m.step (view s) e = some t → ∃ s', n.step s e = some s' ∧ view s' = t ∧ J s'

/-- Induction on the events. -/
theorem Extends.run {ν : Type} {n : Monitor ν ε} {m : Monitor μ ε} {view : ν → μ} {J : ν → Prop}
    {p : ε → Prop} (h : n.Extends m view J p) {events : List ε} (hp : ∀ e ∈ events, p e) {s : ν}
    (hs : J s) {t : μ} (hrun : m.run (view s) events = some t) :
    ∃ s', n.run s events = some s' ∧ view s' = t ∧ J s' := by
  induction events generalizing s with
  | nil =>
    cases hrun
    exact ⟨s, rfl, rfl, hs⟩
  | cons e events ih =>
    rw [run_cons] at hrun
    obtain ⟨t', hstep, hrun⟩ := Option.bind_eq_some_iff.mp hrun
    obtain ⟨s', hstep', rfl, hs'⟩ := h hs (hp e List.mem_cons_self) hstep
    obtain ⟨s'', hrun', hview, hs''⟩ := ih (fun e' he => hp e' (List.mem_cons_of_mem e he)) hs' hrun
    refine ⟨s'', ?_, hview, hs''⟩
    rw [run_cons, hstep']
    exact hrun'

end Monitor

namespace Script

variable {E : Type} {A : E → Type} {α β σ μ : Type} {m : Monitor μ (Sigma A)}

/-- Every whole run from a state of the monitor is accepted, and leads to what is asked for. -/
def Watched (m : Monitor μ (Sigma A)) (P : μ → Prop) (c : Script A α) (Q : α → μ → Prop) : Prop :=
  ∀ s, P s → Always c fun trace a => ∃ s', m.run s trace = some s' ∧ Q a s'

variable {P : μ → Prop} {Q : α → μ → Prop}

theorem Watched.mono {P' : μ → Prop} {Q' : α → μ → Prop} {c : Script A α} (h : Watched m P c Q)
    (hp : ∀ s, P' s → P s) (hq : ∀ a s, Q a s → Q' a s) : Watched m P' c Q' := by
  intro s hs
  refine (h s (hp s hs)).mono ?_
  rintro trace a ⟨s', hrun, hQ⟩
  exact ⟨s', hrun, hq a s' hQ⟩

theorem Watched.ret {a : α} (h : ∀ s, P s → Q a s) : Watched m P (.ret a) Q :=
  fun s hs => .ret ⟨s, rfl, h s hs⟩

/-- A call is accepted with every answer. -/
theorem Watched.ask {e : E} {Q : A e → μ → Prop}
    (h : ∀ s answer, P s → ∃ s', m.step s ⟨e, answer⟩ = some s' ∧ Q answer s') :
    Watched m P (ask e) Q := by
  intro s hs
  refine .call fun answer => .ret ?_
  obtain ⟨s', hstep, hQ⟩ := h s answer hs
  exact ⟨s', by rw [Monitor.run_cons, hstep]; rfl, hQ⟩

theorem Watched.bind {c : Script A α} {f : α → Script A β} {R : β → μ → Prop} (hc : Watched m P c Q)
    (hf : ∀ a, Watched m (Q a) (f a) R) : Watched m P (c.bind f) R := by
  intro s hs
  refine (hc s hs).bind ?_
  rintro first a ⟨s', hrun, hQ⟩
  refine (hf a s' hQ).mono ?_
  rintro second b ⟨s'', hrun', hR⟩
  exact ⟨s'', by rw [Monitor.run_append_of_run hrun]; exact hrun', hR⟩

/-- What is known beforehand and does not depend on the state. -/
theorem Watched.given {φ : Prop} {c : Script A α} (h : φ → Watched m P c Q) :
    Watched m (fun s => φ ∧ P s) c Q := fun s hs => h hs.1 s hs.2

theorem Watched.ite {b : Prop} [Decidable b] {c d : Script A α} (hc : b → Watched m P c Q)
    (hd : ¬ b → Watched m P d Q) : Watched m P (if b then c else d) Q := by
  by_cases h : b
  · rw [if_pos h]
    exact hc h
  · rw [if_neg h]
    exact hd h

/-- What a script keeps that is done in one case only. -/
theorem Watched.when {b : Bool} {c : Script A α} (hc : Watched m P c fun _ => P) :
    Watched m P (when b c) fun _ => P := by
  cases b with
  | false => exact .ret fun _ => id
  | true => exact hc.bind fun _ => .ret fun _ => id

/-- An invariant of the rounds of a loop. -/
theorem Watched.iter {body : σ → Script A (σ ⊕ β)} {R : β → μ → Prop} (I : σ → μ → Prop)
    (hbody : ∀ s, Watched m (I s) (body s) (Sum.elim I R)) (s : σ) :
    Watched m (I s) (Script.iter body s) R := by
  intro t ht
  refine Always.iter (fun before s => ∃ t', m.run t before = some t' ∧ I s t') ?_ ⟨t, rfl, ht⟩
  rintro before s ⟨t', hrun, hI⟩
  refine (hbody s t' hI).mono ?_
  rintro trace r ⟨t'', hrun', hr⟩
  have hboth : m.run t (before ++ trace) = some t'' := by
    rw [Monitor.run_append_of_run hrun]
    exact hrun'
  cases r with
  | inl s' => exact ⟨t'', hboth, hr⟩
  | inr b => exact ⟨t'', hboth, hr⟩

/-- What is known of a script by the other monitor is known by the one that knows more. -/
theorem Watched.extend {ν : Type} {n : Monitor ν (Sigma A)} {view : ν → μ} {J : ν → Prop} {p : E → Prop}
    {c : Script A α} (hc : Watched m P c Q) (h : n.Extends m view J fun said => p said.1) (honly : c.Only p) :
    Watched n (fun s => J s ∧ P (view s)) c fun a s => J s ∧ Q a (view s) := by
  intro s hs trace a hyields
  obtain ⟨t, hrun, hQ⟩ := hc (view s) hs.2 hyields
  obtain ⟨s', hrun', rfl, hs'⟩ := h.run (honly.yields hyields) hs.1 hrun
  exact ⟨s', hrun', hs', hQ⟩

end Script

end Runs
