import Mathlib.Logic.Basic

/-! # Runs of a step function

Each component of the repository is modelled as a step function `step : σ → ε → Option σ`:
an event is either enabled in a state, with one successor, or blocked (`none`). A goroutine,
a caller and the environment each contribute events, so a list of events is one interleaving
of everything that runs concurrently. -/

namespace Ecco9

variable {σ ε : Type} (step : σ → ε → Option σ)

/-- The state reached by taking the events in order, or `none` when one of them is blocked. -/
def exec : σ → List ε → Option σ
  | s, [] => some s
  | s, e :: es => (step s e).bind fun s' => exec s' es

@[simp] theorem exec_nil (s : σ) : exec step s [] = some s := rfl

@[simp] theorem exec_cons (s : σ) (e : ε) (es : List ε) :
    exec step s (e :: es) = (step s e).bind fun s' => exec step s' es := rfl

theorem exec_append (s : σ) (es fs : List ε) :
    exec step s (es ++ fs) = (exec step s es).bind fun s' => exec step s' fs := by
  induction es generalizing s with
  | nil => rfl
  | cons e es ih => simp only [List.cons_append, exec_cons, ih, Option.bind_assoc]

/-- Every event of a run is admitted in the state where it is taken. -/
def Admitted (allowed : σ → ε → Prop) : σ → List ε → Prop
  | _, [] => True
  | s, e :: es => allowed s e ∧ ∀ s', step s e = some s' → Admitted allowed s' es

/-- The states reached from `init` by steps that `allowed` admits. `allowed` is what the
environment of a run promises; `fun _ _ => True` admits every interleaving. -/
inductive Reachable (allowed : σ → ε → Prop) (init : σ) : σ → Prop
  | start : Reachable allowed init init
  | next {s s' : σ} {e : ε} : Reachable allowed init s → allowed s e → step s e = some s' →
      Reachable allowed init s'

variable {step} {allowed : σ → ε → Prop} {init : σ}

/-- An invariant that holds at the start and is kept by every admitted step holds in every
reachable state. -/
theorem Reachable.inv (P : σ → Prop) (h0 : P init)
    (hs : ∀ s e s', allowed s e → P s → step s e = some s' → P s') {s : σ}
    (h : Reachable step allowed init s) : P s := by
  induction h with
  | start => exact h0
  | next _ he hst ih => exact hs _ _ _ he ih hst

theorem Reachable.trans {s t : σ} (hs : Reachable step allowed init s)
    (ht : Reachable step allowed s t) : Reachable step allowed init t := by
  induction ht with
  | start => exact hs
  | next _ he hst ih => exact .next ih he hst

/-- A property that every step of some kind keeps holds after every run of steps of that kind. -/
theorem exec_inv (P : σ → Prop) (ok : ε → Prop)
    (hs : ∀ s e s', ok e → P s → step s e = some s' → P s') {s s' : σ} {es : List ε}
    (h0 : P s) (hok : ∀ e ∈ es, ok e) (h : exec step s es = some s') : P s' := by
  induction es generalizing s with
  | nil => cases h; exact h0
  | cons e es ih =>
      obtain ⟨s₁, h₁, hrest⟩ := Option.bind_eq_some.mp h
      exact ih (hs _ _ _ (hok e (List.mem_cons_self e es)) h0 h₁)
        (fun e he => hok e (List.mem_cons_of_mem _ he)) hrest

/-- Every state a run reaches is reachable. -/
theorem reachable_of_exec {s : σ} {es : List ε} (h : exec step init es = some s) :
    Reachable step (fun _ _ => True) init s := by
  induction es generalizing init with
  | nil => cases h; exact .start
  | cons e es ih =>
      obtain ⟨s₁, h₁, hrest⟩ := Option.bind_eq_some.mp h
      exact Reachable.trans (.next .start trivial h₁) (ih hrest)

/-- A run whose events the environment always admits reaches only admitted-reachable states. -/
theorem reachable_of_exec_of_forall {s : σ} {es : List ε} (hall : ∀ s, ∀ e ∈ es, allowed s e)
    (h : exec step init es = some s) : Reachable step allowed init s := by
  induction es generalizing init with
  | nil => cases h; exact .start
  | cons e es ih =>
      obtain ⟨s₁, h₁, hrest⟩ := Option.bind_eq_some.mp h
      exact Reachable.trans (.next .start (hall _ e (List.mem_cons_self e es)) h₁)
        (ih (fun s e he => hall s e (List.mem_cons_of_mem _ he)) hrest)

/-- A run is admitted when its first event is admitted and taken, and the rest is admitted from
the state that event leads to. -/
theorem admitted_cons {s : σ} {e : ε} {es : List ε}
    (h : ∃ s₁, step s e = some s₁ ∧ allowed s e ∧ Admitted step allowed s₁ es) :
    Admitted step allowed s (e :: es) :=
  let ⟨_, hs, he, hes⟩ := h
  ⟨he, fun _ h' => Option.some.inj (hs.symm.trans h') ▸ hes⟩

theorem reachable_of_exec_admitted {s : σ} {es : List ε} (hadm : Admitted step allowed init es)
    (h : exec step init es = some s) : Reachable step allowed init s := by
  induction es generalizing init with
  | nil => cases h; exact .start
  | cons e es ih =>
      obtain ⟨s₁, h₁, hrest⟩ := Option.bind_eq_some.mp h
      exact Reachable.trans (.next .start hadm.1 h₁) (ih (hadm.2 s₁ h₁) hrest)

/-- Goroutines and callers are kept in lists and named by position; erasing one that is there
shortens the list by one. -/
theorem length_eraseIdx_of_getElem? {α : Type} {l : List α} {i : Nat} {a : α}
    (h : l[i]? = some a) : (l.eraseIdx i).length + 1 = l.length := by
  obtain ⟨hi, -⟩ := List.getElem?_eq_some_iff.mp h
  rw [List.length_eraseIdx, if_pos hi]
  have := List.length_pos_of_mem (List.getElem?_mem h)
  omega

end Ecco9
