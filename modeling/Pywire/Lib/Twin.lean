import Pywire.Lib.Prog

/-!
# Twin: two runs in step

Two programs start in worlds that are alike, each under an environment of its own.  They are twins if they end
alike: in the same error, or in values that are alike, and in worlds that are alike.  A property of the second
log may be assumed that every prefix of a log inherits.

* `Setting.Twin`: the statement, for one setting of environments and worlds.
* `Setting.Twin.bind`, `Setting.Twin.attempt`, `twin_await`, `twin_modify`: one rule for each combinator.
-/

namespace Async

variable {κ σ ν ε α β γ δ : Type} {ρ : κ → Type}

/-- Two computations end alike. -/
def Outcome.Alike (V : α → β → Prop) : Outcome ε α → Outcome ε β → Prop
  | .ok a, .ok b => V a b
  | .err e, .err e' => e = e'
  | .panic, .panic => True
  | _, _ => False

section Alike

variable {V V' : α → β → Prop} {o : Outcome ε α}

theorem Outcome.Alike.mono {o' : Outcome ε β} (h : o.Alike V o') (hV : ∀ a b, V a b → V' a b) : o.Alike V' o' := by
  cases o with
  | ok a =>
    cases o' with
    | ok b => exact hV a b h
    | _ => exact h
  | err e => cases o' <;> exact h
  | panic => cases o' <;> exact h

theorem Outcome.alike_ok {b : β} : o.Alike V (.ok b) ↔ ∃ a, o = .ok a ∧ V a b := by
  cases o <;> simp [Outcome.Alike]

theorem Outcome.alike_err {e : ε} : o.Alike V (.err e : Outcome ε β) ↔ o = .err e := by
  cases o <;> simp [Outcome.Alike]

theorem Outcome.alike_panic : o.Alike V (.panic : Outcome ε β) ↔ o = .panic := by
  cases o <;> simp [Outcome.Alike]

end Alike

/-- Two results of an attempt are alike. -/
def ExceptAlike (V : α → β → Prop) : Except ε α → Except ε β → Prop
  | .ok a, .ok b => V a b
  | .error e, .error e' => e = e'
  | _, _ => False

namespace Prog

/-- The environments of two runs, the worlds that are alike, and what may be assumed of the second log. -/
structure Setting {κ : Type} (σ : Type) (ρ : κ → Type) (ν : Type) where
  env : Env ρ ν
  env' : Env ρ ν
  Alike : World σ ρ ν → World σ ρ ν → Prop
  Assumed : List (Event ρ ν) → Prop
  assumed_of_prefix : ∀ {log log' : List (Event ρ ν)}, log <+: log' → Assumed log' → Assumed log

/-- From worlds that are alike the two programs end alike. -/
def Setting.Twin (S : Setting σ ρ ν) (V : α → β → Prop) (t : Prog σ ρ ν ε α) (t' : Prog σ ρ ν ε β) : Prop :=
  ∀ w w', S.Alike w w' → S.Assumed (t'.run S.env' w').2.log →
    (t.run S.env w).1.Alike V (t'.run S.env' w').1 ∧ S.Alike (t.run S.env w).2 (t'.run S.env' w').2

section Rules

variable {S : Setting σ ρ ν} {V : α → β → Prop}

theorem twin_pure {a : α} {b : β} (h : V a b) : S.Twin V (pure a : Prog σ ρ ν ε α) (pure b) :=
  fun _ _ hw _ => ⟨h, hw⟩

theorem twin_fail (e : ε) : S.Twin V (Prog.fail e : Prog σ ρ ν ε α) (Prog.fail e) := fun _ _ hw _ => ⟨rfl, hw⟩

theorem twin_panic : S.Twin V (Prog.panic : Prog σ ρ ν ε α) (Prog.panic : Prog σ ρ ν ε β) :=
  fun _ _ hw _ => ⟨trivial, hw⟩

theorem twin_ofOutcome {o : Outcome ε α} {o' : Outcome ε β} (h : o.Alike V o') :
    S.Twin V (ofOutcome o : Prog σ ρ ν ε α) (ofOutcome o') := by
  intro w w' hw _
  rw [run_ofOutcome, run_ofOutcome]
  exact ⟨h, hw⟩

theorem twin_ofExcept (r : Except ε α) : S.Twin (· = ·) (ofExcept r : Prog σ ρ ν ε α) (ofExcept r) := by
  intro w w' hw _
  cases r with
  | ok a => exact ⟨rfl, hw⟩
  | error e => exact ⟨rfl, hw⟩

theorem twin_get {V : σ → σ → Prop} (h : ∀ w w', S.Alike w w' → V w.st w'.st) :
    S.Twin V (get : Prog σ ρ ν ε σ) get := fun w w' hw _ => ⟨h w w' hw, hw⟩

theorem twin_modify {f f' : σ → σ} (h : ∀ w w', S.Alike w w' → S.Alike (w.modify f) (w'.modify f')) :
    S.Twin (fun _ _ => True) (modify f : Prog σ ρ ν ε Unit) (modify f') := fun w w' hw _ => ⟨trivial, h w w' hw⟩

theorem twin_await {c c' : κ} {V : ρ c → ρ c' → Prop}
    (h : ∀ w w', S.Alike w w' → V (S.env w.log c) (S.env' w'.log c') ∧
      S.Alike (w.called c (S.env w.log c)) (w'.called c' (S.env' w'.log c'))) :
    S.Twin V (await c : Prog σ ρ ν ε (ρ c)) (await c') := fun w w' hw _ => h w w' hw

theorem twin_awaitAt {c c' : κ} {V : ℕ × ρ c → ℕ × ρ c' → Prop}
    (h : ∀ w w', S.Alike w w' → V (w.log.length, S.env w.log c) (w'.log.length, S.env' w'.log c') ∧
      S.Alike (w.called c (S.env w.log c)) (w'.called c' (S.env' w'.log c'))) :
    S.Twin V (awaitAt c : Prog σ ρ ν ε (ℕ × ρ c)) (awaitAt c') := fun w w' hw _ => h w w' hw

/-- **Twins one after the other** are twins. -/
theorem Setting.Twin.bind {V' : γ → δ → Prop} {t : Prog σ ρ ν ε α} {t' : Prog σ ρ ν ε β} {f : α → Prog σ ρ ν ε γ}
    {f' : β → Prog σ ρ ν ε δ} (ht : S.Twin V t t') (hf : ∀ a b, V a b → S.Twin V' (f a) (f' b)) :
    S.Twin V' (t >>= f) (t' >>= f') := by
  intro w w' hw ha
  rw [run_bind] at ha ⊢
  rw [run_bind]
  have hstart := ht w w' hw
  rcases ht₁ : t.run S.env w with ⟨o, w1⟩
  rcases ht₂ : t'.run S.env' w' with ⟨o', w1'⟩
  rw [ht₁, ht₂] at hstart
  rw [ht₂] at ha
  cases o' with
  | ok b =>
    -- the log of the whole run extends the one of the first half
    obtain ⟨ho, hw1⟩ := hstart (S.assumed_of_prefix (log_prefix_run S.env' (f' b) w1') ha)
    obtain ⟨a, rfl, hV⟩ := Outcome.alike_ok.mp ho
    exact hf a b hV w1 w1' hw1 ha
  | err e =>
    obtain ⟨ho, hw1⟩ := hstart ha
    obtain rfl := Outcome.alike_err.mp ho
    exact ⟨rfl, hw1⟩
  | panic =>
    obtain ⟨ho, hw1⟩ := hstart ha
    obtain rfl := Outcome.alike_panic.mp ho
    exact ⟨trivial, hw1⟩

/-- Twins that are caught are twins. -/
theorem Setting.Twin.attempt {t : Prog σ ρ ν ε α} {t' : Prog σ ρ ν ε β} (ht : S.Twin V t t') :
    S.Twin (ExceptAlike V) t.attempt t'.attempt := by
  intro w w' hw ha
  have hstart := ht w w' hw
  rw [run_attempt] at ha ⊢
  rw [run_attempt]
  rcases ht₁ : t.run S.env w with ⟨o, w1⟩
  rcases ht₂ : t'.run S.env' w' with ⟨o', w1'⟩
  rw [ht₁, ht₂] at hstart
  rw [ht₂] at ha
  cases o' with
  | ok b =>
    obtain ⟨ho, hw1⟩ := hstart ha
    obtain ⟨a, rfl, hV⟩ := Outcome.alike_ok.mp ho
    exact ⟨hV, hw1⟩
  | err e =>
    obtain ⟨ho, hw1⟩ := hstart ha
    obtain rfl := Outcome.alike_err.mp ho
    exact ⟨rfl, hw1⟩
  | panic =>
    obtain ⟨ho, hw1⟩ := hstart ha
    obtain rfl := Outcome.alike_panic.mp ho
    exact ⟨trivial, hw1⟩

end Rules

end Prog

end Async
