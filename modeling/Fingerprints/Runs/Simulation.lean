import Fingerprints.Runs.History
import Mathlib.Data.List.Forall2

/-!
# Simulation

One system refines another where each of its steps is a step of the other between states that stand for its
own, by an action that the event means.

* **`Simulates.run`**: then each of its runs is a run of the other, event by event.
-/

namespace Runs

namespace System

variable {σ τ ε α : Type*} {S : System σ ε} {A : System τ α} {R : σ → τ → Prop} {M : ε → α → Prop}

/-- Where the one starts the other can start, and each step of the one is a step of the other, by an action
that the event means. -/
structure Simulates (S : System σ ε) (A : System τ α) (R : σ → τ → Prop) (M : ε → α → Prop) : Prop where
  init : ∀ s, S.init s → ∃ t, A.init t ∧ R s t
  step : ∀ s e s' t, R s t → S.step s e s' → ∃ a t', M e a ∧ A.step t a t' ∧ R s' t'

/-- Induction on the run. -/
theorem Simulates.run (h : S.Simulates A R M) {history : List ε} {s : σ} (hrun : S.Run history s) :
    ∃ actions t, List.Forall₂ M history actions ∧ A.Run actions t ∧ R s t := by
  induction hrun with
  | init hinit =>
    obtain ⟨t, hstart, hrel⟩ := h.init _ hinit
    exact ⟨[], t, .nil, .init hstart, hrel⟩
  | step _ hstep ih =>
    obtain ⟨actions, t, hmeans, hrun, hrel⟩ := ih
    obtain ⟨a, t', hmean, hstep', hrel'⟩ := h.step _ _ _ t hrel hstep
    exact ⟨a :: actions, t', .cons hmean hmeans, .step hrun hstep', hrel'⟩

end System

end Runs
