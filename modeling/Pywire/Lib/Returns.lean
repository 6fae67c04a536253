import Pywire.Lib.Prog

/-!
# Returns: total correctness under one environment

`Returns env t w Q` says that `t`, started in `w` and answered by `env`, returns, and that what it returns and the world
it returns in satisfy `Q`.  There is a rule for every form of program, so that a proof walks through a routine and stops
only at the calls whose answers matter.

* `returns_bind`: sequencing.
* `returns_awaitIs`: a call whose answer is known.
-/

namespace Async.Prog

variable {κ σ ν ε α β : Type} {ρ : κ → Type}

/-- `t` run from `w` returns a value and a world that satisfy `Q`. -/
def Returns (env : Env ρ ν) (t : Prog σ ρ ν ε α) (w : World σ ρ ν) (Q : α → World σ ρ ν → Prop) : Prop :=
  ∃ a w', t.run env w = (.ok a, w') ∧ Q a w'

variable {env : Env ρ ν} {t : Prog σ ρ ν ε α} {f : α → Prog σ ρ ν ε β} {w : World σ ρ ν} {Q Q' : α → World σ ρ ν → Prop}
  {R : β → World σ ρ ν → Prop}

theorem Returns.mono (h : Returns env t w Q) (hQ : ∀ a w', Q a w' → Q' a w') : Returns env t w Q' := by
  obtain ⟨a, w', hrun, ha⟩ := h
  exact ⟨a, w', hrun, hQ a w' ha⟩

theorem returns_of_run {a : α} {w' : World σ ρ ν} (h : t.run env w = (.ok a, w')) : Returns env t w Q ↔ Q a w' := by
  constructor
  · rintro ⟨a', w'', hrun, ha⟩
    rw [h] at hrun
    cases hrun
    exact ha
  · exact fun ha => ⟨a, w', h, ha⟩

@[simp] theorem returns_pure (a : α) : Returns env (pure a : Prog σ ρ ν ε α) w Q ↔ Q a w := returns_of_run rfl

@[simp] theorem returns_get {Q : σ → World σ ρ ν → Prop} : Returns env (get : Prog σ ρ ν ε σ) w Q ↔ Q w.st w :=
  returns_of_run rfl

@[simp] theorem returns_modify {Q : Unit → World σ ρ ν → Prop} (g : σ → σ) :
    Returns env (modify g : Prog σ ρ ν ε Unit) w Q ↔ Q () (w.modify g) :=
  returns_of_run rfl

@[simp] theorem returns_mark {Q : Unit → World σ ρ ν → Prop} (n : ν) :
    Returns env (mark n : Prog σ ρ ν ε Unit) w Q ↔ Q () (w.noted n) :=
  returns_of_run rfl

@[simp] theorem returns_await (c : κ) {Q : ρ c → World σ ρ ν → Prop} :
    Returns env (await c : Prog σ ρ ν ε (ρ c)) w Q ↔ Q (env w.log c) (w.called c (env w.log c)) :=
  returns_of_run rfl

@[simp] theorem returns_awaitAt (c : κ) {Q : ℕ × ρ c → World σ ρ ν → Prop} :
    Returns env (awaitAt c : Prog σ ρ ν ε (ℕ × ρ c)) w Q ↔ Q (w.log.length, env w.log c) (w.called c (env w.log c)) :=
  returns_of_run rfl

theorem returns_ofOutcome {a : α} {o : Outcome ε α} (h : o = .ok a) :
    Returns env (ofOutcome o : Prog σ ρ ν ε α) w Q ↔ Q a w := by
  subst h
  exact returns_of_run rfl

theorem returns_ofExcept {a : α} {r : Except ε α} (h : r = .ok a) :
    Returns env (ofExcept r : Prog σ ρ ν ε α) w Q ↔ Q a w := by
  subst h
  exact returns_of_run rfl

/-- **Sequencing**. -/
@[simp] theorem returns_bind :
    Returns env (t >>= f) w R ↔ Returns env t w fun a w' => Returns env (f a) w' R := by
  rw [Returns, run_bind]
  rcases h : t.run env w with ⟨a | e | _, w'⟩
  · rw [returns_of_run h]
    rfl
  · refine ⟨?_, ?_⟩
    · rintro ⟨b, w'', hrun, -⟩
      cases hrun
    · rintro ⟨a, w'', hrun, -⟩
      rw [h] at hrun
      cases hrun
  · refine ⟨?_, ?_⟩
    · rintro ⟨b, w'', hrun, -⟩
      cases hrun
    · rintro ⟨a, w'', hrun, -⟩
      rw [h] at hrun
      cases hrun

/-- A call whose answer is known. -/
theorem returns_awaitIs {c : κ} {r : ρ c} (h : env w.log c = r) {Q : ρ c → World σ ρ ν → Prop} :
    Returns env (await c : Prog σ ρ ν ε (ρ c)) w Q ↔ Q r (w.called c r) := by
  subst h
  exact returns_await c

theorem Returns.attempt (h : Returns env t w Q) :
    Returns env t.attempt w fun r w' => ∃ a, r = .ok a ∧ Q a w' := by
  obtain ⟨a, w', hrun, ha⟩ := h
  refine ⟨.ok a, w', ?_, a, rfl, ha⟩
  rw [run_attempt, hrun]

end Async.Prog
