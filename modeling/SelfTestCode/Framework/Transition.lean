import Mathlib.Logic.Relation

/-!
# Guarded transition systems

A `System` is a set of initial states and a partial step function: `step s a` is `none` when
the label `a` is not enabled in `s`, or when executing it aborts the program.  `Reachable ok`
is the set of states of the runs *every step of which meets a guard* `ok`: the guard carries
what a result assumes of its environment (a protocol the clients follow, a bound on a
counter), so that one system serves results with different assumptions.

Two rules are used by name:

* `Reachable.invariant`, the induction over runs;
* `Reachable.mono`, weakening the guard.

A step that can fail is often written in `Except`; `except_bind_eq_ok` and
`except_toOption_eq_some` take such a step apart.
-/

namespace SelfTestCode

/-- A transition system with labels `α` and a partial step function. -/
structure System (σ : Type*) (α : Type*) where
  /-- The states a run starts from. -/
  Init : σ → Prop
  /-- One step; `none` when the label is disabled or the step aborts. -/
  step : σ → α → Option σ

namespace System

variable {σ τ α β : Type*} {S : System σ α} {T : System τ β}

/-- The states of the runs whose every step satisfies the guard `ok` in the state before it. -/
inductive Reachable (S : System σ α) (ok : σ → α → Prop) : σ → Prop
  | init {s : σ} : S.Init s → Reachable S ok s
  | step {s s' : σ} {a : α} : Reachable S ok s → ok s a → S.step s a = some s' →
      Reachable S ok s'

/-- An inductive invariant holds in every reachable state.  The step obligation may use that
the state before the step is reachable, which lets one invariant lean on another. -/
theorem Reachable.invariant {ok : σ → α → Prop} {I : σ → Prop}
    (hinit : ∀ s, S.Init s → I s)
    (hstep : ∀ s a s', S.Reachable ok s → I s → ok s a → S.step s a = some s' → I s')
    {s : σ} (h : S.Reachable ok s) : I s := by
  induction h with
  | init h0 => exact hinit _ h0
  | step hr hok hs ih => exact hstep _ _ _ hr ih hok hs

/-- A weaker guard reaches at least as much. -/
theorem Reachable.mono {ok ok' : σ → α → Prop} (hok : ∀ s a, ok s a → ok' s a) {s : σ}
    (h : S.Reachable ok s) : S.Reachable ok' s := by
  induction h with
  | init h0 => exact .init h0
  | step _ ha hs ih => exact .step ih (hok _ _ ha) hs

/-- Execute a list of labels. -/
def run (S : System σ α) : σ → List α → Option σ
  | s, [] => some s
  | s, a :: as => (S.step s a).bind fun s' => S.run s' as

lemma run_append (s : σ) (as bs : List α) :
    S.run s (as ++ bs) = (S.run s as).bind fun s' => S.run s' bs := by
  induction as generalizing s with
  | nil => rfl
  | cons a as ih =>
    rw [List.cons_append, run, run, Option.bind_assoc]
    congr 1
    funext s'
    exact ih s'

/-- One step more. -/
lemma run_concat {s s₁ s' : σ} {as : List α} {a : α} (h : S.run s as = some s₁)
    (hs : S.step s₁ a = some s') : S.run s (as ++ [a]) = some s' := by
  rw [run_append, h, Option.bind_some, run, hs]
  rfl

/-- The guard holds at every step of the run. -/
def Guarded (S : System σ α) (ok : σ → α → Prop) : σ → List α → Prop
  | _, [] => True
  | s, a :: as => ok s a ∧ ∀ s' ∈ S.step s a, S.Guarded ok s' as

instance decidableGuarded {ok : σ → α → Prop} [∀ s a, Decidable (ok s a)] :
    ∀ (s : σ) (as : List α), Decidable (S.Guarded ok s as)
  | _, [] => isTrue trivial
  | s, a :: as =>
    have : ∀ s', Decidable (S.Guarded ok s' as) := fun s' => decidableGuarded s' as
    inferInstanceAs (Decidable (ok s a ∧ ∀ s' ∈ S.step s a, S.Guarded ok s' as))

/-- A guarded run stays within the reachable states. -/
theorem Reachable.of_run {ok : σ → α → Prop} :
    ∀ {as : List α} {s s' : σ}, S.Reachable ok s → S.Guarded ok s as →
      S.run s as = some s' → S.Reachable ok s'
  | [], s, s', h, _, hr => by
      simp only [run, Option.some.injEq] at hr
      exact hr ▸ h
  | a :: as, s, s', h, hg, hr => by
      simp only [run, Option.bind_eq_some_iff] at hr
      obtain ⟨s₁, hs₁, hr⟩ := hr
      exact Reachable.of_run (.step h hg.1 hs₁) (hg.2 s₁ hs₁) hr

end System

/-! ## Steps that can fail -/

section Except

variable {ε α β : Type}

/-- A sequence of two steps succeeds exactly when both do. -/
lemma except_bind_eq_ok {x : Except ε α} {f : α → Except ε β} {b : β} :
    (x >>= f) = .ok b ↔ ∃ a, x = .ok a ∧ f a = .ok b := by
  cases x with
  | error e => simp [bind, Except.bind]
  | ok a => simp [bind, Except.bind]

lemma except_toOption_eq_some {x : Except ε α} {a : α} : x.toOption = some a ↔ x = .ok a := by
  cases x with
  | error e => simp [Except.toOption]
  | ok a => simp [Except.toOption]

end Except

end SelfTestCode
