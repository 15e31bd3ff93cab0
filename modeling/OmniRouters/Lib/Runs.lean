import Mathlib.Data.List.Basic

/-!
# Runs of a system of atomic steps

A system is a partial function `step : σ → α → Option σ`: an action is either refused
in a state or leads to one successor. A run is a sequence of actions whose steps all
meet a condition on the state before the step and the action.

* `Exec.invariant`: what every step keeps holds in every state of a run.
* `Exec.invariant_of`: the same with the help of an invariant that is known already.
* `Exec.of_run`, `Exec.exists_of_actions`: a list of actions that is not refused is a run.
-/

namespace OmniRouters.Lib

variable {σ α : Type*}

/-- The state after a list of actions, if none of them is refused. -/
def run (step : σ → α → Option σ) : σ → List α → Option σ
  | s, [] => some s
  | s, a :: as => (step s a).bind fun t => run step t as

/-- The system without the steps that fail `ok`. -/
def guarded (step : σ → α → Option σ) (ok : σ → α → Prop) [∀ s a, Decidable (ok s a)]
    (s : σ) (a : α) : Option σ :=
  if ok s a then step s a else none

/-- `Exec step ok s t`: a run from `s` to `t` whose steps all meet `ok`. -/
inductive Exec (step : σ → α → Option σ) (ok : σ → α → Prop) (s : σ) : σ → Prop
  | refl : Exec step ok s s
  | tail {t u : σ} {a : α} (h : Exec step ok s t) (hok : ok t a) (hstep : step t a = some u) :
      Exec step ok s u

namespace Exec

variable {step : σ → α → Option σ} {ok ok' : σ → α → Prop} {s t u : σ}

theorem invariant {I : σ → Prop} (hstep : ∀ t a u, I t → ok t a → step t a = some u → I u)
    (hI : I s) (h : Exec step ok s t) : I t := by
  induction h with
  | refl => exact hI
  | tail _ hok hs ih => exact hstep _ _ _ ih hok hs

/-- An invariant `J` whose steps rest on an invariant `I`. -/
theorem invariant_of {I J : σ → Prop}
    (hI : ∀ t a u, I t → ok t a → step t a = some u → I u)
    (hJ : ∀ t a u, I t → J t → ok t a → step t a = some u → J u)
    (hIs : I s) (hJs : J s) (h : Exec step ok s t) : I t ∧ J t := by
  refine invariant (I := fun t => I t ∧ J t) ?_ ⟨hIs, hJs⟩ h
  intro t a u ⟨hit, hjt⟩ hok hs
  exact ⟨hI t a u hit hok hs, hJ t a u hit hjt hok hs⟩

/-- A run whose steps meet a stronger condition meets the weaker one. -/
theorem mono (himp : ∀ t a, ok t a → ok' t a) (h : Exec step ok s t) : Exec step ok' s t := by
  induction h with
  | refl => exact refl
  | tail _ hok hs ih => exact tail ih (himp _ _ hok) hs

theorem trans (h : Exec step ok s t) (h' : Exec step ok t u) : Exec step ok s u := by
  induction h' with
  | refl => exact h
  | tail _ hok hs ih => exact tail ih hok hs

/-- A list of actions that is not refused and whose steps meet `ok` is a run. -/
theorem of_run [∀ s a, Decidable (ok s a)] {as : List α}
    (h : run (guarded step ok) s as = some t) : Exec step ok s t := by
  induction as generalizing s with
  | nil =>
    cases h
    exact refl
  | cons a as ih =>
    obtain ⟨u, hu, hrun⟩ := Option.bind_eq_some_iff.1 h
    obtain ⟨hok, hs⟩ : ok s a ∧ step s a = some u := by simpa [guarded] using hu
    have hfirst : Exec step ok s u := tail refl hok hs
    exact hfirst.trans (ih hrun)

/-- The same for a run that ends in a state with a property that can be evaluated. -/
theorem exists_of_run [∀ s a, Decidable (ok s a)] {as : List α} {p : σ → Bool}
    (h : (run (guarded step ok) s as).any p = true) : ∃ t, Exec step ok s t ∧ p t = true := by
  cases hrun : run (guarded step ok) s as with
  | none =>
    rw [hrun] at h
    exact absurd h Bool.false_ne_true
  | some t =>
    rw [hrun] at h
    exact ⟨t, of_run hrun, h⟩

/-- The same for a decidable property. -/
theorem exists_of_actions [∀ s a, Decidable (ok s a)] {P : σ → Prop} [DecidablePred P] (as : List α)
    (h : (run (guarded step ok) s as).any (fun t => decide (P t)) = true) :
    ∃ t, Exec step ok s t ∧ P t := by
  obtain ⟨t, hrun, ht⟩ := exists_of_run h
  exact ⟨t, hrun, of_decide_eq_true ht⟩

section Further

variable {P P' Q : σ → Prop} [∀ s a, Decidable (ok s a)] [DecidablePred P] [DecidablePred P']

/-- The same for what a decidable property and the run entail. -/
theorem exists_imp_of_actions (as : List α)
    (h : (run (guarded step ok) s as).any (fun t => decide (P t)) = true)
    (hQ : ∀ t, Exec step ok s t → P t → Q t) : ∃ t, Exec step ok s t ∧ Q t := by
  obtain ⟨t, hrun, ht⟩ := exists_of_actions as h
  exact ⟨t, hrun, hQ t hrun ht⟩

theorem exists_and_of_actions (as : List α)
    (h : (run (guarded step ok) s as).any (fun t => decide (P t)) = true)
    (hQ : ∀ t, Exec step ok s t → P t → Q t) : ∃ t, Exec step ok s t ∧ P t ∧ Q t :=
  exists_imp_of_actions as h fun t hrun ht => ⟨ht, hQ t hrun ht⟩

theorem exists_and_and_of_actions (as : List α)
    (h : (run (guarded step ok) s as).any (fun t => decide (P t ∧ P' t)) = true)
    (hQ : ∀ t, Exec step ok s t → P t → P' t → Q t) : ∃ t, Exec step ok s t ∧ P t ∧ P' t ∧ Q t :=
  exists_imp_of_actions as h fun t hrun ht => ⟨ht.1, ht.2, hQ t hrun ht.1 ht.2⟩

end Further

end Exec

end OmniRouters.Lib
