import Mathlib.Logic.Basic

/-!
# Simulation: labelled systems that keep up with each other

A `System` starts in some states and takes labelled steps.  A state is reached by the labels on the way to it.

* `System.Runs.invariant`: what holds where a system starts and is kept by its steps holds wherever it runs to.
* `Simulates.runs`: a system that is simulated by another takes it along, label by label.
-/

namespace Async

variable {σ τ ℓ : Type}

structure System (σ ℓ : Type) where
  Starts : σ → Prop
  Step : σ → ℓ → σ → Prop

/-- The state is reached by steps with these labels. -/
inductive System.Runs (S : System σ ℓ) : List ℓ → σ → Prop where
  | start {s : σ} (h : S.Starts s) : Runs S [] s
  | step {ls : List ℓ} {l : ℓ} {s s' : σ} (hs : Runs S ls s) (h : S.Step s l s') : Runs S (ls ++ [l]) s'

/-- **Invariants**. -/
theorem System.Runs.invariant {S : System σ ℓ} {I : σ → Prop} (hstart : ∀ s, S.Starts s → I s)
    (hstep : ∀ s l s', I s → S.Step s l s' → I s') {ls : List ℓ} {s : σ} (h : S.Runs ls s) : I s := by
  induction h with
  | start h => exact hstart _ h
  | step _ h ih => exact hstep _ _ _ ih h

/-- The states of `C` and `A` that are related by `R` start together, and `A` can follow every step of `C`. -/
structure Simulates (C : System σ ℓ) (A : System τ ℓ) (R : σ → τ → Prop) : Prop where
  start : ∀ c, C.Starts c → ∃ a, A.Starts a ∧ R c a
  step : ∀ c a l c', R c a → C.Step c l c' → ∃ a', A.Step a l a' ∧ R c' a'

/-- **Simulation**. -/
theorem Simulates.runs {C : System σ ℓ} {A : System τ ℓ} {R : σ → τ → Prop} (h : Simulates C A R) {ls : List ℓ}
    {c : σ} (hc : C.Runs ls c) : ∃ a, A.Runs ls a ∧ R c a := by
  induction hc with
  | start hs =>
    obtain ⟨a, ha, hr⟩ := h.start _ hs
    exact ⟨a, .start ha, hr⟩
  | step _ hs ih =>
    obtain ⟨a, ha, hr⟩ := ih
    obtain ⟨a', ha', hr'⟩ := h.step _ _ _ _ hr hs
    exact ⟨a', .step ha ha', hr'⟩

end Async
