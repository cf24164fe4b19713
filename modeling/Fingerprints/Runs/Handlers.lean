import Fingerprints.Runs.Monitor

/-!
# Handlers of scripts

A script of one layer on top of another: each call that it makes is carried out by a script of the layer
below, that keeps a state of its own from call to call.

* **`always_handled`**: a run of the two layers is a run of the upper one, with a run of the handler for
  each of its calls;
* **`Watched.handled`**: what is known above and what is known below stay related, if each handler keeps
  them so. What the layer above never does, the handler need not be watched for.
-/

namespace Runs.Script

variable {E F : Type} {A : E → Type} {B : F → Type} {α τ μ ν : Type}

/-- A script with each of its calls carried out by a handler. -/
def handled (h : (e : E) → τ → Script B (A e × τ)) : {α : Type} → Script A α → τ → Script B (α × τ)
  | _, ret a, t => ret (a, t)
  | _, call e rest, t => (h e t).bind fun r => (rest r.1).handled h r.2
  | _, loop body s rest, t =>
      loop (fun st => ((body st.1).handled h st.2).bind fun r => ret (r.1.map (·, r.2) (·, r.2))) (s, t)
        fun r => (rest r.1).handled h r.2

variable {h : (e : E) → τ → Script B (A e × τ)}

/-- Calls with their answers, and the runs of their handlers one behind the other. -/
inductive Carried (h : (e : E) → τ → Script B (A e × τ)) : τ → List (Sigma A) → List (Sigma B) → τ → Prop
  | nil (t : τ) : Carried h t [] [] t
  | cons {t t' t'' : τ} {e : E} {answer : A e} {below : List (Sigma B)} {later : List (Sigma A)}
      {trace : List (Sigma B)} (hcall : Yields (h e t) below (answer, t'))
      (hlater : Carried h t' later trace t'') :
      Carried h t (⟨e, answer⟩ :: later) (below ++ trace) t''

/-- Induction on the first calls. -/
theorem Carried.append {t t' t'' : τ} {first second : List (Sigma A)} {before behind : List (Sigma B)}
    (hfirst : Carried h t first before t') (hsecond : Carried h t' second behind t'') :
    Carried h t (first ++ second) (before ++ behind) t'' := by
  induction hfirst with
  | nil t => exact hsecond
  | cons hcall _ ih =>
    rw [List.append_assoc]
    exact .cons hcall (ih hsecond)

/-- What holds of a run of the two layers: there is one of the upper layer that it carries out. -/
def CarriesOut (h : (e : E) → τ → Script B (A e × τ)) (c : Script A α) (t : τ) (trace : List (Sigma B))
    (r : α × τ) : Prop :=
  ∃ above, Yields c above r.1 ∧ Carried h t above trace r.2

/-- Induction on the script. -/
theorem always_handled (c : Script A α) (t : τ) : Always (c.handled h t) (CarriesOut h c t) := by
  induction c generalizing t with
  | ret a => exact .ret ⟨[], .ret a, .nil t⟩
  | call e rest ih =>
    refine Always.bind (P := fun below r => Yields (h e t) below r) (fun _ _ => id) ?_
    intro below r hcall
    refine (ih r.1 r.2).mono ?_
    rintro trace r' ⟨above, hyields, hcarried⟩
    exact ⟨_, .call hyields, .cons hcall hcarried⟩
  | @loop _ _ _ body s rest ihBody ihRest =>
    have hiter : (loop body s rest).handled h t = ((iter body s).handled h t).bind fun r =>
        (rest r.1).handled h r.2 := rfl
    rw [hiter]
    refine Always.bind (P := CarriesOut h (iter body s) t) ?_ ?_
    · -- what the rounds so far carried out can be put in front of what is still to come
      refine Always.iter (fun before st => ∃ above, Carried h t above before st.2 ∧
        ∀ later b, Yields (iter body st.1) later b → Yields (iter body s) (above ++ later) b) ?_
        ⟨[], .nil t, fun _ _ => id⟩
      rintro before ⟨s', t'⟩ ⟨above, hcarried, hrest⟩
      refine Always.bind (ihBody s' t') ?_
      rintro trace ⟨r, t''⟩ ⟨round, hround, hcarried'⟩
      cases r with
      | inl s'' =>
        refine .ret ⟨above ++ round, ?_, ?_⟩
        · rw [List.append_nil]
          exact hcarried.append hcarried'
        · intro later b hlater
          rw [List.append_assoc]
          exact hrest _ _ (.loop (hround.bind hlater))
      | inr b =>
        refine .ret ⟨above ++ round, ?_, ?_⟩
        · refine hrest _ _ (.loop ?_)
          rw [← List.append_nil round]
          exact hround.bind (.ret b)
        · rw [List.append_nil]
          exact hcarried.append hcarried'
    · rintro before ⟨b, t'⟩ ⟨above, hyields, hcarried⟩
      refine (ihRest b t').mono ?_
      rintro trace r ⟨later, hlater, hcarried'⟩
      exact ⟨above ++ later, hyields.bind hlater, hcarried.append hcarried'⟩

variable {m : Monitor μ (Sigma A)} {n : Monitor ν (Sigma B)} {R : μ → τ → ν → Prop}

/-- Each handler keeps what is known above and below related, where the layer above may make the call and
take its answer. -/
def Relates (m : Monitor μ (Sigma A)) (n : Monitor ν (Sigma B)) (R : μ → τ → ν → Prop)
    (h : (e : E) → τ → Script B (A e × τ)) : Prop :=
  ∀ ⦃e s answer s'⦄, m.step s ⟨e, answer⟩ = some s' → ∀ t,
    ∀ u, R s t u → Always (h e t) fun below r => r.1 = answer → ∃ u', n.run u below = some u' ∧ R s' r.2 u'

/-- Induction on the calls. -/
theorem Relates.run (hrelates : Relates m n R h) {t t' : τ} {above : List (Sigma A)}
    {trace : List (Sigma B)} (hcarried : Carried h t above trace t') {s s' : μ} {u : ν} (hR : R s t u)
    (hrun : m.run s above = some s') : ∃ u', n.run u trace = some u' ∧ R s' t' u' := by
  induction hcarried generalizing s u with
  | nil t =>
    cases hrun
    exact ⟨u, rfl, hR⟩
  | cons hcall _ ih =>
    rw [Monitor.run_cons] at hrun
    obtain ⟨s'', hstep, hrun⟩ := Option.bind_eq_some_iff.mp hrun
    obtain ⟨u', hbelow, hR'⟩ := hrelates hstep _ u hR hcall rfl
    obtain ⟨u'', htrace, hR''⟩ := ih hR' hrun
    refine ⟨u'', ?_, hR''⟩
    rw [Monitor.run_append_of_run hbelow]
    exact htrace

/-- What is known of a script by itself is known of it on top of another layer. -/
theorem Watched.handled {P : μ → Prop} {Q : α → μ → Prop} {c : Script A α} (hc : Watched m P c Q)
    (hrelates : Relates m n R h) (t : τ) :
    Watched n (fun u => ∃ s, P s ∧ R s t u) (c.handled h t) fun r u => ∃ s, Q r.1 s ∧ R s r.2 u := by
  rintro u ⟨s, hP, hR⟩ trace r hyields
  obtain ⟨above, hyields, hcarried⟩ := always_handled c t hyields
  obtain ⟨s', hrun, hQ⟩ := hc s hP hyields
  obtain ⟨u', hrun', hR'⟩ := hrelates.run hcarried hR hrun
  exact ⟨u', hrun', s', hQ, hR'⟩

end Runs.Script
