import Mathlib.Order.Lattice.Nat
import Mathlib.Data.Sum.Basic

/-!
# Scripts

What a thread does between the calls that it makes, with loops that need not end. A `Script` returns,
makes a call and goes on with the answer, or repeats a body on a state until the body leaves it.

Two readings of a script are used. `Yields` is one whole run: the calls with their answers, and what is
returned. `Step` is the next thing that the thread does, for scripts that take turns with others.

* **`Always.bind`**, **`Always.iter`**: what holds of every whole run, by composition and by an invariant
  of the loop;
* **`Only.yields`**: which calls a script makes in any run, from its text;
* **`Within.bind`**, **`WindsUp.iter`**: how many steps are left at most, from the start and from wherever
  a thread is, while the answers are of a kind. A loop that goes on for ever otherwise winds up when a
  fresh round of it ends soon.
-/

namespace Runs

/-- What a thread does: it returns, makes a call, or repeats a body. -/
inductive Script {E : Type} (A : E → Type) : Type → Type 1
  | ret {α : Type} (a : α) : Script A α
  | call {α : Type} (e : E) (rest : A e → Script A α) : Script A α
  | loop {σ β α : Type} (body : σ → Script A (σ ⊕ β)) (s : σ) (rest : β → Script A α) : Script A α

namespace Script

variable {E : Type} {A : E → Type} {α β γ σ : Type}

/-- One script behind the other. -/
def bind : Script A α → (α → Script A β) → Script A β
  | ret a, f => f a
  | call e rest, f => call e fun a => (rest a).bind f
  | loop body s rest, f => loop body s fun b => (rest b).bind f

/-- A call. -/
def ask (e : E) : Script A (A e) := call e ret

/-- A loop: the body goes on with a state, or leaves with a result. -/
def iter (body : σ → Script A (σ ⊕ β)) (s : σ) : Script A β := loop body s ret

/-- A script whose result is not looked at, in one case. -/
def when (b : Bool) (c : Script A α) : Script A Unit := if b then c.bind fun _ => ret () else ret ()

/-- The body leaves the loop. -/
def leave (b : β) : Script A (σ ⊕ β) := ret (.inr b)

/-- The body goes on. -/
def again (s : σ) : Script A (σ ⊕ β) := ret (.inl s)

/-- The next round of a loop, and what comes then. -/
def unroll (body : σ → Script A (σ ⊕ β)) (rest : β → Script A α) (s : σ) : Script A α :=
  (body s).bind (Sum.elim (fun s' => loop body s' rest) rest)

@[simp] theorem ret_bind (a : α) (f : α → Script A β) : (ret a).bind f = f a := rfl

@[simp] theorem call_bind (e : E) (rest : A e → Script A α) (f : α → Script A β) :
    (call e rest).bind f = call e fun a => (rest a).bind f := rfl

@[simp] theorem loop_bind (body : σ → Script A (σ ⊕ β)) (s : σ) (rest : β → Script A α)
    (f : α → Script A γ) : (loop body s rest).bind f = loop body s fun b => (rest b).bind f := rfl

/-- Induction on the first script. -/
theorem bind_assoc (c : Script A α) (f : α → Script A β) (g : β → Script A γ) :
    (c.bind f).bind g = c.bind fun a => (f a).bind g := by
  induction c with
  | ret a => rfl
  | call e rest ih =>
    simp only [call_bind]
    congr 1
    funext a
    exact ih a f
  | loop body s rest _ ih =>
    simp only [loop_bind]
    congr 1
    funext b
    exact ih b f

theorem unroll_bind (body : σ → Script A (σ ⊕ β)) (rest : β → Script A α) (s : σ)
    (f : α → Script A γ) :
    (unroll body rest s).bind f = unroll body (fun b => (rest b).bind f) s := by
  rw [unroll, unroll, bind_assoc]
  congr 1
  funext r
  cases r with
  | inl s' => rfl
  | inr b => rfl

instance instMonadScript : Monad (Script A) where
  pure := ret
  bind := bind

@[simp] theorem pure_eq_ret (a : α) : (pure a : Script A α) = ret a := rfl

@[simp] theorem bind_eq (c : Script A α) (f : α → Script A β) : c >>= f = c.bind f := rfl

/-! ## Whole runs -/

/-- A whole run: the calls with their answers in the order in which they were made, and the result. -/
inductive Yields : {α : Type} → Script A α → List (Sigma A) → α → Prop
  | ret {α : Type} (a : α) : Yields (ret a) [] a
  | call {α : Type} {e : E} {rest : A e → Script A α} {answer : A e} {trace : List (Sigma A)} {a : α}
      (h : Yields (rest answer) trace a) : Yields (call e rest) (⟨e, answer⟩ :: trace) a
  | loop {σ β α : Type} {body : σ → Script A (σ ⊕ β)} {s : σ} {rest : β → Script A α}
      {trace : List (Sigma A)} {a : α} (h : Yields (unroll body rest s) trace a) :
      Yields (loop body s rest) trace a

theorem yields_ret_iff {a b : α} {trace : List (Sigma A)} :
    Yields (ret a) trace b ↔ trace = [] ∧ b = a := by
  constructor
  · intro h
    cases h
    exact ⟨rfl, rfl⟩
  · rintro ⟨rfl, rfl⟩
    exact .ret _

theorem yields_call_iff {e : E} {rest : A e → Script A α} {trace : List (Sigma A)} {b : α} :
    Yields (call e rest) trace b ↔
      ∃ answer later, trace = ⟨e, answer⟩ :: later ∧ Yields (rest answer) later b := by
  constructor
  · intro h
    cases h with
    | call h => exact ⟨_, _, rfl, h⟩
  · rintro ⟨answer, later, rfl, h⟩
    exact .call h

/-- A run of two scripts is one of the first and one of the second. Induction on the run. -/
theorem Yields.of_bind {c : Script A α} {f : α → Script A β} {trace : List (Sigma A)} {b : β}
    (h : Yields (c.bind f) trace b) :
    ∃ first second a, trace = first ++ second ∧ Yields c first a ∧ Yields (f a) second b := by
  generalize hd : c.bind f = d at h
  induction h generalizing α with
  | ret b =>
    cases c with
    | ret a =>
      rw [ret_bind] at hd
      refine ⟨[], [], a, rfl, .ret a, ?_⟩
      rw [hd]
      exact .ret b
    | call e rest => cases hd
    | loop body s rest => cases hd
  | @call _ e rest answer trace b h ih =>
    cases c with
    | ret a =>
      rw [ret_bind] at hd
      refine ⟨[], _, a, rfl, .ret a, ?_⟩
      rw [hd]
      exact .call h
    | call e' rest' =>
      rw [call_bind] at hd
      injection hd with _ he hrest
      subst he
      obtain ⟨first, second, a, rfl, hfirst, hsecond⟩ := ih (congrFun (eq_of_heq hrest) answer)
      exact ⟨_, second, a, rfl, .call hfirst, hsecond⟩
    | loop body s rest' => cases hd
  | @loop _ _ _ body s rest trace b h ih =>
    cases c with
    | ret a =>
      rw [ret_bind] at hd
      refine ⟨[], _, a, rfl, .ret a, ?_⟩
      rw [hd]
      exact .loop h
    | call e' rest' => cases hd
    | loop body' s' rest' =>
      rw [loop_bind] at hd
      injection hd with hσ hβ _ hbody hs hrest
      subst hσ hβ
      cases eq_of_heq hbody
      cases eq_of_heq hs
      cases eq_of_heq hrest
      obtain ⟨first, second, a, rfl, hfirst, hsecond⟩ := ih (unroll_bind body' rest' s' f)
      exact ⟨first, second, a, rfl, .loop hfirst, hsecond⟩

theorem Yields.bind {c : Script A α} {f : α → Script A β} {first second : List (Sigma A)} {a : α} {b : β}
    (hfirst : Yields c first a) (hsecond : Yields (f a) second b) :
    Yields (c.bind f) (first ++ second) b := by
  induction hfirst with
  | ret a => exact hsecond
  | call _ ih => exact .call (ih hsecond)
  | loop _ ih =>
    rw [loop_bind]
    refine .loop ?_
    rw [← unroll_bind]
    exact ih hsecond

/-- The result of a script that is given the calls with their answers, within some steps. -/
def play [DecidableEq E] : Nat → Script A α → List (Sigma A) → Option α
  | _, ret a, [] => some a
  | fuel + 1, call e rest, said :: trace =>
      if h : said.1 = e then play fuel (rest (h ▸ said.2)) trace else none
  | fuel + 1, loop body s rest, trace => play fuel (unroll body rest s) trace
  | _, _, _ => none

/-- Induction on the steps. -/
theorem yields_of_play [DecidableEq E] {fuel : Nat} {c : Script A α} {trace : List (Sigma A)} {a : α}
    (h : play fuel c trace = some a) : Yields c trace a := by
  induction fuel generalizing c trace with
  | zero =>
    cases c with
    | ret b =>
      cases trace with
      | nil =>
        cases h
        exact .ret a
      | cons said trace => cases h
    | call e rest => cases h
    | loop body s rest => cases h
  | succ fuel ih =>
    cases c with
    | ret b =>
      cases trace with
      | nil =>
        cases h
        exact .ret a
      | cons said trace => cases h
    | call e rest =>
      cases trace with
      | nil => cases h
      | cons said trace =>
        obtain ⟨e', answer⟩ := said
        by_cases he : e' = e
        · subst he
          simp only [play, ↓reduceDIte] at h
          exact .call (ih h)
        · simp only [play, he, ↓reduceDIte] at h
          cases h
    | loop body s rest => exact .loop (ih h)

/-! ## Calls of a kind -/

/-- The script makes calls of a kind only. -/
def Only (p : E → Prop) : {α : Type} → Script A α → Prop
  | _, ret _ => True
  | _, call e rest => p e ∧ ∀ answer, (rest answer).Only p
  | _, loop body _ rest => (∀ s, (body s).Only p) ∧ ∀ b, (rest b).Only p

section

variable {p : E → Prop}

/-- Induction on the first script. -/
theorem Only.bind {c : Script A α} {f : α → Script A β} (hc : c.Only p) (hf : ∀ a, (f a).Only p) :
    (c.bind f).Only p := by
  induction c with
  | ret a => exact hf a
  | call e rest ih => exact ⟨hc.1, fun answer => ih answer (hc.2 answer) hf⟩
  | loop body s rest _ ih => exact ⟨hc.1, fun b => ih b (hc.2 b) hf⟩

theorem Only.ask {e : E} (h : p e) : (ask e : Script A (A e)).Only p := ⟨h, fun _ => trivial⟩

theorem Only.iter {body : σ → Script A (σ ⊕ β)} (h : ∀ s, (body s).Only p) (s : σ) :
    (iter body s).Only p := ⟨h, fun _ => trivial⟩

theorem Only.when {b : Bool} {c : Script A α} (h : c.Only p) : (when b c).Only p := by
  cases b with
  | false => trivial
  | true => exact h.bind fun _ => trivial

theorem Only.ite {b : Prop} [Decidable b] {c d : Script A α} (hc : c.Only p) (hd : d.Only p) :
    (if b then c else d).Only p := by
  split
  · exact hc
  · exact hd

/-- Induction on the run. -/
theorem Only.yields {c : Script A α} {trace : List (Sigma A)} {a : α} (h : c.Only p)
    (hyields : Yields c trace a) : ∀ said ∈ trace, p said.1 := by
  induction hyields with
  | ret a => intro said hsaid; cases hsaid
  | call _ ih =>
    rintro said hsaid
    cases hsaid with
    | head => exact h.1
    | tail _ hsaid => exact ih (h.2 _) said hsaid
  | @loop _ _ _ body s rest _ _ _ ih =>
    refine ih ((h.1 s).bind fun r => ?_)
    cases r with
    | inl s' => exact h
    | inr b => exact h.2 b

end

/-! ## What holds of every whole run -/

/-- Every whole run has a property. -/
def Always (c : Script A α) (Q : List (Sigma A) → α → Prop) : Prop :=
  ∀ ⦃trace a⦄, Yields c trace a → Q trace a

section

variable {Q R : List (Sigma A) → α → Prop}

theorem Always.mono {c : Script A α} (h : Always c Q) (hqr : ∀ trace a, Q trace a → R trace a) :
    Always c R := by
  intro trace a hyields
  exact hqr trace a (h hyields)

theorem Always.ret {a : α} (h : Q [] a) : Always (Script.ret a : Script A α) Q := by
  intro trace b hyields
  obtain ⟨rfl, rfl⟩ := yields_ret_iff.mp hyields
  exact h

theorem Always.call {e : E} {rest : A e → Script A α}
    (h : ∀ answer, Always (rest answer) fun trace a => Q (⟨e, answer⟩ :: trace) a) :
    Always (Script.call e rest) Q := by
  intro trace b hyields
  obtain ⟨answer, later, rfl, hlater⟩ := yields_call_iff.mp hyields
  exact h answer hlater

theorem Always.bind {c : Script A α} {f : α → Script A β} {P : List (Sigma A) → α → Prop}
    {Q : List (Sigma A) → β → Prop} (hc : Always c P)
    (hf : ∀ first a, P first a → Always (f a) fun second b => Q (first ++ second) b) :
    Always (c.bind f) Q := by
  intro trace b hyields
  obtain ⟨first, second, a, rfl, hfirst, hsecond⟩ := hyields.of_bind
  exact hf first a (hc hfirst) hsecond

/-- What a part of a loop must establish, behind what was done before it: the invariant where the body
goes on, the property where it leaves. -/
def Kept (I : List (Sigma A) → σ → Prop) (Q : List (Sigma A) → β → Prop) (before : List (Sigma A)) :
    List (Sigma A) → σ ⊕ β → Prop
  | trace, .inl s => I (before ++ trace) s
  | trace, .inr b => Q (before ++ trace) b

theorem Always.rounds {body : σ → Script A (σ ⊕ β)} {I : List (Sigma A) → σ → Prop}
    {Q : List (Sigma A) → β → Prop}
    (hbody : ∀ before s, I before s → Always (body s) (Kept I Q before))
    {d : Script A β} {trace : List (Sigma A)} {b : β} (h : Yields d trace b)
    {c : Script A (σ ⊕ β)} (hd : d = c.bind (Sum.elim (fun s => loop body s .ret) .ret))
    (before : List (Sigma A)) (hc : Always c (Kept I Q before)) : Q (before ++ trace) b := by
  induction h generalizing before with
  | ret b =>
    cases c with
    | ret r =>
      cases r with
      | inl s => cases hd
      | inr b' =>
        cases hd
        exact hc (.ret _)
    | call e rest => cases hd
    | loop body' s rest => cases hd
  | @call _ e rest answer trace b h ih =>
    cases c with
    | ret r =>
      cases r with
      | inl s => cases hd
      | inr b' => cases hd
    | call e' rest' =>
      rw [call_bind] at hd
      injection hd with _ he hrest
      subst he
      rw [List.append_cons]
      refine ih hbody (congrFun (eq_of_heq hrest) answer) _ ?_
      intro later r hlater
      have hkept := hc (.call hlater)
      cases r with
      | inl s => simpa [Kept] using hkept
      | inr b' => simpa [Kept] using hkept
    | loop body' s rest' => cases hd
  | @loop _ _ _ body' s' rest' trace b h ih =>
    cases c with
    | ret r =>
      cases r with
      | inl s =>
        rw [ret_bind, Sum.elim_inl] at hd
        injection hd with hσ hβ _ hbody' hs hrest
        subst hσ hβ
        cases eq_of_heq hbody'
        cases eq_of_heq hs
        cases eq_of_heq hrest
        exact ih hbody rfl before (hbody before s' (by simpa [Kept] using hc (.ret _)))
      | inr b' => cases hd
    | call e' rest => cases hd
    | loop body₁ s₁ rest₁ =>
      rw [loop_bind] at hd
      injection hd with hσ hβ _ hbody' hs hrest
      subst hσ hβ
      cases eq_of_heq hbody'
      cases eq_of_heq hs
      cases eq_of_heq hrest
      exact ih hbody (unroll_bind _ _ _ _).symm before fun _ _ hyields => hc (.loop hyields)

/-- An invariant of the rounds of a loop. -/
theorem Always.iter {body : σ → Script A (σ ⊕ β)} {s : σ} {Q : List (Sigma A) → β → Prop}
    (I : List (Sigma A) → σ → Prop)
    (hbody : ∀ before s, I before s → Always (body s) (Kept I Q before)) (hinit : I [] s) :
    Always (Script.iter body s) Q := by
  intro trace b hyields
  exact Always.rounds hbody hyields (c := .ret (.inl s)) rfl [] (.ret hinit)

end

/-! ## Steps -/

/-- The next thing that a thread does: a call with its answer, or a round of a loop. -/
inductive Step : Script A α → Option (Sigma A) → Script A α → Prop
  | call {e : E} {rest : A e → Script A α} (answer : A e) :
      Step (call e rest) (some ⟨e, answer⟩) (rest answer)
  | loop {σ β : Type} {body : σ → Script A (σ ⊕ β)} {s : σ} {rest : β → Script A α} :
      Step (loop body s rest) none (unroll body rest s)

/-- Where a thread gets to from a place. -/
inductive Reaches (c : Script A α) : Script A α → Prop
  | here : Reaches c c
  | step {d d' : Script A α} {e : Option (Sigma A)} (h : Reaches c d) (hstep : Step d e d') :
      Reaches c d'

theorem Reaches.behind {c c' d : Script A α} {e : Option (Sigma A)} (h : Reaches c' d)
    (hstep : Step c e c') : Reaches c d := by
  induction h with
  | here => exact .step .here hstep
  | step _ hstep' ih => exact .step ih hstep'

theorem Reaches.of_ret {a : α} {d : Script A α} (h : Reaches (Script.ret a) d) : d = .ret a := by
  induction h with
  | here => rfl
  | step _ hstep ih =>
    subst ih
    cases hstep

theorem Reaches.of_call {e : E} {rest : A e → Script A α} {d : Script A α}
    (h : Reaches (Script.call e rest) d) :
    d = Script.call e rest ∨ ∃ answer, Reaches (rest answer) d := by
  induction h with
  | here => exact .inl rfl
  | step _ hstep ih =>
    obtain rfl | ⟨answer, hanswer⟩ := ih
    · cases hstep with
      | call answer => exact .inr ⟨answer, .here⟩
    · exact .inr ⟨answer, .step hanswer hstep⟩

/-- A place behind a composition is one in the first script, or one in what comes behind a result of
it. Induction on the steps. -/
theorem Reaches.of_bind {c : Script A α} {f : α → Script A β} {d : Script A β}
    (h : Reaches (c.bind f) d) :
    (∃ c', Reaches c c' ∧ d = c'.bind f) ∨ ∃ a, Reaches (f a) d := by
  induction h with
  | here => exact .inl ⟨c, .here, rfl⟩
  | step _ hstep ih =>
    obtain ⟨c', hc', rfl⟩ | ⟨a, ha⟩ := ih
    · cases c' with
      | ret a => exact .inr ⟨a, .step .here hstep⟩
      | call e rest =>
        cases hstep with
        | call answer => exact .inl ⟨rest answer, .step hc' (.call answer), rfl⟩
      | loop body s rest =>
        cases hstep with
        | loop => exact .inl ⟨unroll body rest s, .step hc' .loop, (unroll_bind ..).symm⟩
    · exact .inr ⟨a, .step ha hstep⟩

/-- A place in a loop is the head of a round, one in the body, or one behind the loop. Induction on the
steps. -/
theorem Reaches.of_loop {body : σ → Script A (σ ⊕ β)} {s : σ} {rest : β → Script A α}
    {d : Script A α} (h : Reaches (Script.loop body s rest) d) :
    (∃ s', d = Script.loop body s' rest) ∨
    (∃ s' c, Reaches (body s') c ∧ d = c.bind (Sum.elim (fun s => Script.loop body s rest) rest)) ∨
    ∃ b, Reaches (rest b) d := by
  induction h with
  | here => exact .inl ⟨s, rfl⟩
  | step _ hstep ih =>
    obtain ⟨s', rfl⟩ | ⟨s', c, hc, rfl⟩ | ⟨b, hb⟩ := ih
    · cases hstep with
      | loop => exact .inr (.inl ⟨s', body s', .here, rfl⟩)
    · cases c with
      | ret r =>
        cases r with
        | inl s'' =>
          cases hstep with
          | loop => exact .inr (.inl ⟨s'', body s'', .here, rfl⟩)
        | inr b => exact .inr (.inr ⟨b, .step .here hstep⟩)
      | call e next =>
        cases hstep with
        | call answer => exact .inr (.inl ⟨s', next answer, .step hc (.call answer), rfl⟩)
      | loop body' s'' next =>
        cases hstep with
        | loop =>
          exact .inr (.inl ⟨s', unroll body' next s'', .step hc .loop, (unroll_bind ..).symm⟩)
    · exact .inr (.inr ⟨b, .step hb hstep⟩)

/-! ## Steps that are left -/

section

variable {ok : (e : E) → A e → Prop} {e : E}

/-- While the answers are of a kind, a thread takes at most so many steps from here, and then returns
what has a property. -/
inductive Within (ok : (e : E) → A e → Prop) (Q : α → Prop) : Nat → Script A α → Prop
  | ret {n : Nat} {a : α} (h : Q a) : Within ok Q n (ret a)
  | call {n : Nat} {e : E} {rest : A e → Script A α}
      (h : ∀ answer, ok e answer → Within ok Q n (rest answer)) : Within ok Q (n + 1) (call e rest)
  | loop {n : Nat} {σ β : Type} {body : σ → Script A (σ ⊕ β)} {s : σ} {rest : β → Script A α}
      (h : Within ok Q n (unroll body rest s)) : Within ok Q (n + 1) (loop body s rest)

theorem Within.mono {Q R : α → Prop} {n m : Nat} {c : Script A α} (h : Within ok Q n c)
    (hqr : ∀ a, Q a → R a) (hnm : n ≤ m) : Within ok R m c := by
  induction h generalizing m with
  | ret h => exact .ret (hqr _ h)
  | call _ ih =>
    cases m with
    | zero => omega
    | succ m => exact .call fun answer hok => ih answer hok (by omega)
  | loop _ ih =>
    cases m with
    | zero => omega
    | succ m => exact .loop (ih (by omega))

/-- Induction on the steps of the first script. -/
theorem Within.bind {P : α → Prop} {Q : β → Prop} {n m : Nat} {c : Script A α} {f : α → Script A β}
    (hc : Within ok P n c) (hf : ∀ a, P a → Within ok Q m (f a)) :
    Within ok Q (n + m) (c.bind f) := by
  induction hc with
  | ret h => exact (hf _ h).mono (fun _ => id) (by omega)
  | @call n _ _ _ ih =>
    rw [call_bind, Nat.add_right_comm]
    exact .call fun answer hok => ih answer hok
  | @loop n _ _ _ _ _ _ ih =>
    rw [loop_bind, Nat.add_right_comm]
    refine .loop ?_
    rw [← unroll_bind]
    exact ih

theorem Within.ask {Q : A e → Prop} {n : Nat} (h : ∀ answer, ok e answer → Q answer) :
    Within ok Q (n + 1) (Script.ask e) := .call fun answer hok => .ret (h answer hok)

theorem Within.ite {b : Prop} [Decidable b] {Q : α → Prop} {n : Nat} {c d : Script A α}
    (hc : b → Within ok Q n c) (hd : ¬ b → Within ok Q n d) :
    Within ok Q n (if b then c else d) := by
  by_cases h : b
  · rw [if_pos h]
    exact hc h
  · rw [if_neg h]
    exact hd h

/-- A round that leaves the loop, or from which the loop ends soon. -/
theorem Within.round {Q : β → Prop} {n m : Nat} {body : σ → Script A (σ ⊕ β)} {s : σ}
    (h : Within ok (Sum.elim (fun s' => Within ok Q m (Script.iter body s')) Q) n (body s)) :
    Within ok Q (n + m + 1) (Script.iter body s) := by
  refine .loop (h.bind fun r hr => ?_)
  cases r with
  | inl s' => exact hr
  | inr b => exact .ret hr

/-- A round that leaves the loop. -/
theorem Within.iter {Q : β → Prop} {n : Nat} {body : σ → Script A (σ ⊕ β)} {s : σ}
    (h : Within ok (Sum.elim (fun _ => False) Q) n (body s)) :
    Within ok Q (n + 1) (Script.iter body s) := by
  refine Within.round (m := 0) (h.mono (fun r hr => ?_) le_rfl)
  cases r with
  | inl s' => exact hr.elim
  | inr b => exact hr

/-- A step is one of those that were left. -/
theorem Within.step {Q : α → Prop} {n : Nat} {c c' : Script A α} {e : Option (Sigma A)}
    (h : Within ok Q n c) (hstep : Step c e c') (hok : ∀ d ∈ e, ok d.1 d.2) :
    ∃ m, m < n ∧ Within ok Q m c' := by
  cases hstep with
  | call answer =>
    cases h with
    | call h => exact ⟨_, Nat.lt_succ_self _, h answer (hok _ rfl)⟩
  | loop =>
    cases h with
    | loop h => exact ⟨_, Nat.lt_succ_self _, h⟩

/-- The steps that are left, where there are so many at most. -/
noncomputable def stepsLeft (ok : (e : E) → A e → Prop) (c : Script A α) : Nat :=
  sInf {n | Within ok (fun _ => True) n c}

theorem within_stepsLeft {n : Nat} {c : Script A α} (h : Within ok (fun _ => True) n c) :
    Within ok (fun _ => True) (stepsLeft ok c) c :=
  Nat.sInf_mem (s := {n | Within ok (fun _ => True) n c}) ⟨n, h⟩

theorem stepsLeft_le {n : Nat} {c : Script A α} (h : Within ok (fun _ => True) n c) :
    stepsLeft ok c ≤ n := Nat.sInf_le h

theorem stepsLeft_lt {n : Nat} {c c' : Script A α} {e : Option (Sigma A)}
    (h : Within ok (fun _ => True) n c) (hstep : Step c e c') (hok : ∀ d ∈ e, ok d.1 d.2) :
    stepsLeft ok c' < stepsLeft ok c := by
  obtain ⟨m, hm, hwithin⟩ := (within_stepsLeft h).step hstep hok
  exact (stepsLeft_le hwithin).trans_lt hm

/-- From wherever a thread gets to, at most so many steps are left once the answers are of a kind. -/
def WindsUp (ok : (e : E) → A e → Prop) (n : Nat) (c : Script A α) : Prop :=
  ∀ d, Reaches c d → Within ok (fun _ => True) n d

theorem WindsUp.within {n : Nat} {c : Script A α} (h : WindsUp ok n c) :
    Within ok (fun _ => True) n c := h c .here

theorem WindsUp.mono {n m : Nat} {c : Script A α} (h : WindsUp ok n c) (hnm : n ≤ m) :
    WindsUp ok m c := fun d hd => (h d hd).mono (fun _ => id) hnm

theorem WindsUp.ret (a : α) (n : Nat) : WindsUp ok n (Script.ret a : Script A α) := by
  intro d hd
  rw [hd.of_ret]
  exact .ret trivial

theorem WindsUp.call {n : Nat} {e : E} {rest : A e → Script A α}
    (h : ∀ answer, WindsUp ok n (rest answer)) : WindsUp ok (n + 1) (Script.call e rest) := by
  intro d hd
  obtain rfl | ⟨answer, hanswer⟩ := hd.of_call
  · exact .call fun answer _ => (h answer).within
  · exact (h answer d hanswer).mono (fun _ => id) (Nat.le_succ n)

theorem WindsUp.ask (n : Nat) : WindsUp ok (n + 1) (Script.ask e) := .call fun answer => .ret answer n

theorem WindsUp.bind {n m : Nat} {c : Script A α} {f : α → Script A β} (hc : WindsUp ok n c)
    (hf : ∀ a, WindsUp ok m (f a)) : WindsUp ok (n + m) (c.bind f) := by
  intro d hd
  obtain ⟨c', hc', rfl⟩ | ⟨a, ha⟩ := hd.of_bind
  · exact (hc c' hc').bind fun a _ => (hf a).within
  · exact (hf a d ha).mono (fun _ => id) (Nat.le_add_left m n)

theorem WindsUp.ite {b : Prop} [Decidable b] {n : Nat} {c d : Script A α} (hc : WindsUp ok n c)
    (hd : WindsUp ok n d) : WindsUp ok n (if b then c else d) := by
  by_cases h : b
  · rwa [if_pos h]
  · rwa [if_neg h]

theorem WindsUp.when {b : Bool} {n : Nat} {c : Script A α} (hc : WindsUp ok n c) :
    WindsUp ok n (when b c) := by
  cases b with
  | false => exact .ret () n
  | true => exact hc.bind fun _ => .ret () 0

theorem WindsUp.of_step {n : Nat} {c c' : Script A α} {e : Option (Sigma A)} (h : WindsUp ok n c)
    (hstep : Step c e c') : WindsUp ok n c' := fun d hd => h d (hd.behind hstep)

/-- A loop winds up where its body does, and a fresh round of it ends soon. -/
theorem WindsUp.loop {n m p : Nat} {body : σ → Script A (σ ⊕ β)} {rest : β → Script A α}
    (hbody : ∀ s, WindsUp ok n (body s))
    (hfresh : ∀ s, Within ok (fun _ => True) m (Script.loop body s rest))
    (hrest : ∀ b, WindsUp ok p (rest b)) (s : σ) :
    WindsUp ok (n + (m + p)) (Script.loop body s rest) := by
  intro d hd
  obtain ⟨s', rfl⟩ | ⟨s', c, hc, rfl⟩ | ⟨b, hb⟩ := hd.of_loop
  · exact (hfresh s').mono (fun _ => id) (by omega)
  · refine (hbody s' c hc).bind fun r _ => ?_
    cases r with
    | inl s'' => exact (hfresh s'').mono (fun _ => id) (Nat.le_add_right m p)
    | inr b => exact (hrest b).within.mono (fun _ => id) (Nat.le_add_left p m)
  · exact (hrest b d hb).mono (fun _ => id) (by omega)

/-- `WindsUp.loop` with nothing behind the loop. -/
theorem WindsUp.iter {n m : Nat} {body : σ → Script A (σ ⊕ β)} (hbody : ∀ s, WindsUp ok n (body s))
    (hfresh : ∀ s, Within ok (fun _ => True) m (Script.iter body s)) (s : σ) :
    WindsUp ok (n + m) (Script.iter body s) :=
  (WindsUp.loop hbody hfresh (fun b => WindsUp.ret b 0) s).mono (by omega)

end

end Script

end Runs
