import Pywire.Lib.Prog

/-!
# Maintain: what a program keeps of the state, and which calls it makes

`Maintains I C t` says that wherever `t` is started in a state of `I`, every call it makes is one of `C` and made in a
state of `I`, and it ends in `I`.  Such statements are closed under sequencing, so that those about a routine are put
together from those about its parts.

* `Maintains.bind`, `Maintains.get_bind`: sequencing, and reading the state.
* `Maintains.concat`: what a program that maintains `I` adds to the log.
* `Preserves.bind`, `Preserves.get_bind`: the same for invariants of the state and the log together.
-/

namespace Async.Prog

variable {κ σ ν ε α β : Type} {ρ : κ → Type}

/-- Every call of `t` is one of `C`, and `I` holds wherever `t` makes a call or ends. -/
def Maintains (I : σ → Prop) (C : κ → Prop) (t : Prog σ ρ ν ε α) : Prop :=
  ∀ w : World σ ρ ν, I w.st → Sat (fun w' c => I w'.st ∧ C c) t w fun _ w' => I w'.st

variable {I : σ → Prop} {C C' : κ → Prop} {t : Prog σ ρ ν ε α} {f : α → Prog σ ρ ν ε β}

theorem maintains_pure (a : α) : Maintains I C (pure a : Prog σ ρ ν ε α) := fun _ h => h

theorem maintains_fail (e : ε) : Maintains I C (Prog.fail e : Prog σ ρ ν ε α) := fun _ h => h

theorem maintains_panic : Maintains I C (Prog.panic : Prog σ ρ ν ε α) := fun _ h => h

theorem maintains_modify {g : σ → σ} (hg : ∀ s, I s → I (g s)) : Maintains I C (modify g : Prog σ ρ ν ε Unit) :=
  fun w h => hg w.st h

theorem maintains_mark (n : ν) : Maintains I C (mark n : Prog σ ρ ν ε Unit) := fun _ h => h

theorem maintains_await {c : κ} (hc : C c) : Maintains I C (await c : Prog σ ρ ν ε (ρ c)) :=
  fun _ h => ⟨⟨h, hc⟩, fun _ => h⟩

theorem maintains_awaitAt {c : κ} (hc : C c) : Maintains I C (awaitAt c : Prog σ ρ ν ε (ℕ × ρ c)) :=
  fun _ h => ⟨⟨h, hc⟩, fun _ => h⟩

theorem maintains_ofOutcome (o : Outcome ε α) : Maintains I C (ofOutcome o : Prog σ ρ ν ε α) := by
  intro w h
  cases o <;> exact h

theorem maintains_ofExcept (r : Except ε α) : Maintains I C (ofExcept r : Prog σ ρ ν ε α) := by
  intro w h
  cases r <;> exact h

/-- **Sequencing**. -/
theorem Maintains.bind (ht : Maintains I C t) (hf : ∀ a, Maintains I C (f a)) : Maintains I C (t >>= f) := by
  intro w h
  rw [sat_bind]
  refine (ht w h).post ?_
  rintro (a | e | _) w' h'
  · exact hf a w' h'
  · exact h'
  · exact h'

/-- The state that is read is in `I`. -/
theorem Maintains.get_bind {f : σ → Prog σ ρ ν ε β} (hf : ∀ s, I s → Maintains I C (f s)) :
    Maintains I C (get >>= f) := by
  intro w h
  rw [sat_bind, sat_get]
  exact hf w.st h w h

theorem Maintains.attempt (ht : Maintains I C t) : Maintains I C t.attempt := by
  intro w h
  rw [sat_attempt]
  refine (ht w h).post ?_
  rintro (a | e | _) w' h'
  · exact h'
  · exact h'
  · exact h'

theorem Maintains.andFinally (ht : Maintains I C t) {g : σ → σ} (hg : ∀ s, I s → I (g s)) :
    Maintains I C (t.andFinally g) := by
  intro w h
  rw [sat_andFinally]
  exact (ht w h).post fun _ w' h' => hg w'.st h'

theorem Maintains.ite {p : Prop} [Decidable p] {t' : Prog σ ρ ν ε α} (ht : p → Maintains I C t)
    (ht' : ¬ p → Maintains I C t') : Maintains I C (if p then t else t') := by
  by_cases hp : p
  · rw [if_pos hp]
    exact ht hp
  · rw [if_neg hp]
    exact ht' hp

/-- The calls of a log are of one kind. -/
def Only (C : κ → Prop) (log : List (Event ρ ν)) : Prop := ∀ c r, .called c r ∈ log → C c

theorem only_nil : Only C ([] : List (Event ρ ν)) := fun c r h => by cases h

theorem Only.append {l l' : List (Event ρ ν)} (h : Only C l) (h' : Only C l') : Only C (l ++ l') := by
  intro c r hc
  rcases List.mem_append.mp hc with hc | hc
  · exact h c r hc
  · exact h' c r hc

theorem Only.mono {log : List (Event ρ ν)} (h : Only C log) (hC : ∀ c, C c → C' c) : Only C' log :=
  fun c r hc => hC c (h c r hc)

theorem only_called {c : κ} (hc : C c) (r : ρ c) : Only C ([.called c r] : List (Event ρ ν)) := by
  intro c' r' hmem
  cases List.mem_singleton.mp hmem
  exact hc

/-- **What it adds to the log** is of the kind of its calls. -/
theorem Maintains.concat (ht : Maintains I C t) {w : World σ ρ ν} (h : I w.st) :
    Sat (fun w' c => I w'.st ∧ C c) t w fun _ w' => I w'.st ∧ ∃ new, w'.log = w.log ++ new ∧ Only C new := by
  refine (ht w h).keep (I := fun log => ∃ new, log = w.log ++ new ∧ Only C new) ?_ ?_ ⟨[], by simp, only_nil⟩
  · rintro w' c r ⟨-, hc⟩ ⟨new, hnew, honly⟩
    exact ⟨new ++ [.called c r], by rw [hnew, List.append_assoc], honly.append (only_called hc r)⟩
  · rintro log n ⟨new, hnew, honly⟩
    refine ⟨new ++ [.noted n], by rw [hnew, List.append_assoc], honly.append ?_⟩
    intro c' r' hmem
    cases List.mem_singleton.mp hmem

/-! ### Invariants of the state and the log -/

/-- Wherever `t` is started in `J`, it ends in `J`. -/
def Preserves (J : World σ ρ ν → Prop) (t : Prog σ ρ ν ε α) : Prop :=
  ∀ w : World σ ρ ν, J w → Sat (fun _ _ => True) t w fun _ w' => J w'

section Preserves

variable {J : World σ ρ ν → Prop}

theorem preserves_pure (a : α) : Preserves J (pure a : Prog σ ρ ν ε α) := fun _ h => h

theorem preserves_fail (e : ε) : Preserves J (Prog.fail e : Prog σ ρ ν ε α) := fun _ h => h

theorem preserves_modify {g : σ → σ} (hg : ∀ w, J w → J (w.modify g)) : Preserves J (modify g : Prog σ ρ ν ε Unit) :=
  fun w h => hg w h

theorem preserves_await {c : κ} (hc : ∀ w r, J w → J (w.called c r)) : Preserves J (await c : Prog σ ρ ν ε (ρ c)) :=
  fun w h => ⟨trivial, fun r => hc w r h⟩

theorem preserves_awaitAt {c : κ} (hc : ∀ w r, J w → J (w.called c r)) :
    Preserves J (awaitAt c : Prog σ ρ ν ε (ℕ × ρ c)) :=
  fun w h => ⟨trivial, fun r => hc w r h⟩

theorem preserves_ofExcept (r : Except ε α) : Preserves J (ofExcept r : Prog σ ρ ν ε α) := by
  intro w h
  cases r <;> exact h

/-- **Sequencing**. -/
theorem Preserves.bind (ht : Preserves J t) (hf : ∀ a, Preserves J (f a)) : Preserves J (t >>= f) := by
  intro w h
  rw [sat_bind]
  refine (ht w h).post ?_
  rintro (a | e | _) w' h'
  · exact hf a w' h'
  · exact h'
  · exact h'

theorem Preserves.get_bind {f : σ → Prog σ ρ ν ε β} (hf : ∀ s, Preserves J (f s)) : Preserves J (get >>= f) := by
  intro w h
  rw [sat_bind, sat_get]
  exact hf w.st w h

theorem Preserves.attempt (ht : Preserves J t) : Preserves J t.attempt := by
  intro w h
  rw [sat_attempt]
  refine (ht w h).post ?_
  rintro (a | e | _) w' h'
  · exact h'
  · exact h'
  · exact h'

theorem Preserves.ite {p : Prop} [Decidable p] {t' : Prog σ ρ ν ε α} (ht : Preserves J t) (ht' : Preserves J t') :
    Preserves J (if p then t else t') := by
  by_cases hp : p
  · rw [if_pos hp]
    exact ht
  · rw [if_neg hp]
    exact ht'

end Preserves

end Async.Prog
