import Mathlib.Logic.Hydra
import Mathlib.Logic.Relation

/-!
# Pool: tasks that run side by side

A pool is a list of tasks that share nothing; one task at a time takes a step, in any order.

* `Step.forall_mem`: what the steps of a task keep true of it, the steps of the pool keep true of all tasks.
* `wellFounded_step`: where no task runs forever, the pool does not either.
* `exists_stuck`: a run that cannot go on forever can be continued to a state in which nothing can be done.
-/

namespace Pool

variable {σ : Type} {r r' : σ → σ → Prop} {l l' : List σ}

/-- One task of the pool takes a step. -/
inductive Step (r : σ → σ → Prop) : List σ → List σ → Prop where
  | task (l₁ l₂ : List σ) {a b : σ} (h : r a b) : Step r (l₁ ++ a :: l₂) (l₁ ++ b :: l₂)

theorem Step.mono (h : ∀ a b, r a b → r' a b) (hs : Step r l l') : Step r' l l' := by
  cases hs with
  | task l₁ l₂ hab => exact .task l₁ l₂ (h _ _ hab)

theorem Step.ne_nil (hs : Step r l l') : l ≠ [] := by
  cases hs
  simp

theorem Step.forall_mem {P : σ → Prop} (hP : ∀ a b, r a b → P a → P b) (hs : Step r l l') (hl : ∀ a ∈ l, P a) :
    ∀ b ∈ l', P b := by
  cases hs with
  | task l₁ l₂ hab =>
    simp only [List.forall_mem_append, List.forall_mem_cons] at hl ⊢
    exact ⟨hl.1, hP _ _ hab hl.2.1, hl.2.2⟩

theorem exists_step {a b : σ} (ha : a ∈ l) (hab : r a b) : ∃ l', Step r l l' := by
  obtain ⟨l₁, l₂, rfl⟩ := List.append_of_mem ha
  exact ⟨_, .task l₁ l₂ hab⟩

/-- A step of the pool cuts one head of a hydra, and one smaller head grows. -/
theorem Step.cutExpand (hs : Step r l l') : Relation.CutExpand (fun b a => r a b) (l' : Multiset σ) l := by
  cases hs with
  | @task l₁ l₂ a b hab =>
    have hsplit : ∀ c : σ, ((l₁ ++ c :: l₂ : List σ) : Multiset σ) = (l₁ ++ l₂ : List σ) + {c} := by
      intro c
      rw [Multiset.add_comm, Multiset.singleton_add, Multiset.cons_coe, Multiset.coe_eq_coe]
      exact List.perm_middle
    rw [hsplit a, hsplit b]
    exact Relation.cutExpand_add_single _ hab

/-- **Termination.**  If no task runs forever, no run of the pool is endless. -/
theorem wellFounded_step (h : WellFounded fun b a => r a b) : WellFounded fun l' l => Step r l l' :=
  Subrelation.wf (fun hs => hs.cutExpand) (InvImage.wf (fun l : List σ => (l : Multiset σ)) h.cutExpand)

/-- A run that cannot be endless can be continued to its end. -/
theorem exists_stuck {a : σ} (h : Acc (fun b a => r a b) a) :
    ∃ b, Relation.ReflTransGen r a b ∧ ∀ c, ¬ r b c := by
  induction h with
  | intro a _ ih =>
    by_cases hstep : ∃ b, r a b
    · obtain ⟨b, hab⟩ := hstep
      obtain ⟨c, hbc, hc⟩ := ih b hab
      exact ⟨c, .head hab hbc, hc⟩
    · exact ⟨a, .refl, fun c hac => hstep ⟨c, hac⟩⟩

end Pool
