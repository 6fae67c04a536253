import Mathlib.Data.List.Basic
import Mathlib.Logic.Relation

/-!
# Prog: asynchronous programs over a shared state

A `Prog` runs on one state, makes calls whose replies it does not control, and ends in an `Outcome`.
Every call and its reply go into a log; the continuation of a call also receives the call's position in
that log, which serves as a name for whatever the call returned.

* `run env t w`: the run of `t` under an environment that chooses each reply from the log so far.
* `Sat C t w Q`: whatever the replies are, every call of `t` from `w` is made in a world that satisfies
  `C`, and `t` ends in `Q`.  `sat_bind`, `Sat.mono` and `Sat.and` compose such statements; `Sat.run`
  transfers them to `run`, `Sat.step` to single steps.
-/

namespace Async

/-- How a computation ends: with a value, with an error it returns, or in a panic. -/
inductive Outcome (ε α : Type) where
  | ok (a : α)
  | err (e : ε)
  | panic
  deriving DecidableEq

namespace Outcome

variable {ε α β : Type}

def bind : Outcome ε α → (α → Outcome ε β) → Outcome ε β
  | .ok a, f => f a
  | .err e, _ => .err e
  | .panic, _ => .panic

instance : Monad (Outcome ε) where
  pure := .ok
  bind := Outcome.bind

@[simp] theorem pure_eq (a : α) : (pure a : Outcome ε α) = .ok a := rfl
@[simp] theorem ok_bind (a : α) (f : α → Outcome ε β) : (Outcome.ok a >>= f) = f a := rfl
@[simp] theorem err_bind (e : ε) (f : α → Outcome ε β) : (Outcome.err e >>= f) = .err e := rfl
@[simp] theorem panic_bind (f : α → Outcome ε β) : (Outcome.panic >>= f) = .panic := rfl

/-- `ok_or_else`: a missing value becomes the error `e`. -/
def okOr (e : ε) : Option α → Outcome ε α
  | some a => .ok a
  | none => .err e

@[simp] theorem okOr_some (e : ε) (a : α) : okOr e (some a) = .ok a := rfl
@[simp] theorem okOr_none (e : ε) : okOr e (none : Option α) = .err e := rfl

theorem okOr_eq_ok {e : ε} {a : Option α} {b : α} : okOr e a = .ok b ↔ a = some b := by
  cases a <;> simp

theorem okOr_ne_panic (e : ε) (a : Option α) : okOr e a ≠ .panic := by
  cases a <;> simp

theorem bind_eq_ok {o : Outcome ε α} {f : α → Outcome ε β} {b : β} :
    (o >>= f) = .ok b ↔ ∃ a, o = .ok a ∧ f a = .ok b := by
  cases o <;> simp

/-- If what follows fails alike, so does the whole. -/
theorem bind_eq_err_mono {o : Outcome ε α} {f f' : α → Outcome ε β} {e : ε} (h : ∀ a, f' a = .err e → f a = .err e)
    (he : (o >>= f') = .err e) : (o >>= f) = .err e := by
  cases o with
  | ok a => exact h a he
  | err e' => exact he
  | panic => cases he

/-- `Result::map_err` and `?`. -/
def mapErr {δ : Type} (f : δ → ε) : Except δ α → Outcome ε α
  | .ok a => .ok a
  | .error e => .err (f e)

@[simp] theorem mapErr_ok {δ : Type} (f : δ → ε) (a : α) : mapErr f (.ok a : Except δ α) = .ok a := rfl

theorem mapErr_eq_ok {δ : Type} {f : δ → ε} {r : Except δ α} {a : α} : mapErr f r = .ok a ↔ r = .ok a := by
  cases r <;> simp [mapErr]

theorem bind_ne_panic {o : Outcome ε α} {f : α → Outcome ε β} (ho : o ≠ .panic)
    (hf : ∀ a, o = .ok a → f a ≠ .panic) : (o >>= f) ≠ .panic := by
  cases o with
  | ok a => exact hf a rfl
  | err e => simp
  | panic => exact absurd rfl ho

/-- `expect`: a missing value is a panic. -/
def expect : Option α → Outcome ε α
  | some a => .ok a
  | none => .panic

@[simp] theorem expect_some (a : α) : (expect (some a) : Outcome ε α) = .ok a := rfl
@[simp] theorem expect_none : (expect none : Outcome ε α) = .panic := rfl

end Outcome

variable {κ σ ν ε α β : Type} {ρ : κ → Type}

/-- One entry of the log: a call with its reply, or a note the program made about itself. -/
inductive Event {κ : Type} (ρ : κ → Type) (ν : Type) where
  | called (c : κ) (r : ρ c)
  | noted (n : ν)

/-- The state of a run and everything that happened in it. -/
structure World {κ : Type} (σ : Type) (ρ : κ → Type) (ν : Type) where
  st : σ
  log : List (Event ρ ν)

namespace World

def modify (w : World σ ρ ν) (f : σ → σ) : World σ ρ ν := { w with st := f w.st }
def called (w : World σ ρ ν) (c : κ) (r : ρ c) : World σ ρ ν := { w with log := w.log ++ [.called c r] }
def noted (w : World σ ρ ν) (n : ν) : World σ ρ ν := { w with log := w.log ++ [.noted n] }

@[simp] theorem modify_st (w : World σ ρ ν) (f : σ → σ) : (w.modify f).st = f w.st := rfl
@[simp] theorem modify_log (w : World σ ρ ν) (f : σ → σ) : (w.modify f).log = w.log := rfl
@[simp] theorem called_st (w : World σ ρ ν) (c : κ) (r : ρ c) : (w.called c r).st = w.st := rfl
@[simp] theorem called_log (w : World σ ρ ν) (c : κ) (r : ρ c) :
    (w.called c r).log = w.log ++ [.called c r] := rfl
@[simp] theorem noted_st (w : World σ ρ ν) (n : ν) : (w.noted n).st = w.st := rfl
@[simp] theorem noted_log (w : World σ ρ ν) (n : ν) : (w.noted n).log = w.log ++ [.noted n] := rfl
@[simp] theorem modify_id (w : World σ ρ ν) : w.modify id = w := rfl

end World

/-- An asynchronous program that returns an `α`. -/
inductive Prog {κ : Type} (σ : Type) (ρ : κ → Type) (ν ε α : Type) : Type where
  | ret (a : α)
  | fail (e : ε)
  | panic
  | step (f : σ → σ) (k : σ → Prog σ ρ ν ε α)
  | note (n : ν) (k : Prog σ ρ ν ε α)
  | call (c : κ) (k : ℕ → ρ c → Prog σ ρ ν ε α)

namespace Prog

/-! ### Combinators -/

def bind : Prog σ ρ ν ε α → (α → Prog σ ρ ν ε β) → Prog σ ρ ν ε β
  | .ret a, g => g a
  | .fail e, _ => .fail e
  | .panic, _ => .panic
  | .step f k, g => .step f fun s => (k s).bind g
  | .note n t, g => .note n (t.bind g)
  | .call c k, g => .call c fun i r => (k i r).bind g

instance : Monad (Prog σ ρ ν ε) where
  pure := .ret
  bind := Prog.bind

def get : Prog σ ρ ν ε σ := .step id .ret
def modify (f : σ → σ) : Prog σ ρ ν ε Unit := .step f fun _ => .ret ()
def mark (n : ν) : Prog σ ρ ν ε Unit := .note n (.ret ())
def await (c : κ) : Prog σ ρ ν ε (ρ c) := .call c fun _ r => .ret r

/-- The reply of a call together with the call's position in the log. -/
def awaitAt (c : κ) : Prog σ ρ ν ε (ℕ × ρ c) := .call c fun i r => .ret (i, r)

def ofOutcome : Outcome ε α → Prog σ ρ ν ε α
  | .ok a => .ret a
  | .err e => .fail e
  | .panic => .panic

/-- Runs `t` and returns how it ended. -/
def outcome : Prog σ ρ ν ε α → Prog σ ρ ν ε (Outcome ε α)
  | .ret a => .ret (.ok a)
  | .fail e => .ret (.err e)
  | .panic => .ret .panic
  | .step f k => .step f fun s => (k s).outcome
  | .note n t => .note n t.outcome
  | .call c k => .call c fun i r => (k i r).outcome

/-- Runs `t` and returns its value or its error. -/
def attempt (t : Prog σ ρ ν ε α) : Prog σ ρ ν ε (Except ε α) := do
  match ← t.outcome with
  | .ok a => .ret (.ok a)
  | .err e => .ret (.error e)
  | .panic => .panic

def ofExcept : Except ε α → Prog σ ρ ν ε α
  | .ok a => .ret a
  | .error e => .fail e

/-- Runs `t` and then `f` on every way out of `t`: the scope guard whose drop is `f`. -/
def andFinally (t : Prog σ ρ ν ε α) (f : σ → σ) : Prog σ ρ ν ε α := do
  let o ← t.outcome
  modify f
  ofOutcome o

/-! ### Runs -/

/-- An environment chooses each reply from the log so far. -/
abbrev Env {κ : Type} (ρ : κ → Type) (ν : Type) := List (Event ρ ν) → (c : κ) → ρ c

def run (env : Env ρ ν) : Prog σ ρ ν ε α → World σ ρ ν → Outcome ε α × World σ ρ ν
  | .ret a, w => (.ok a, w)
  | .fail e, w => (.err e, w)
  | .panic, w => (.panic, w)
  | .step f k, w => (k w.st).run env (w.modify f)
  | .note n t, w => t.run env (w.noted n)
  | .call c k, w => (k w.log.length (env w.log c)).run env (w.called c (env w.log c))

/-- The world in which a run ends. -/
def final (env : Env ρ ν) (t : Prog σ ρ ν ε α) (w : World σ ρ ν) : World σ ρ ν := (t.run env w).2

/-- Continues the run of `t` that ended in `o` with `f`. -/
def resume (env : Env ρ ν) (f : α → Prog σ ρ ν ε β) : Outcome ε α × World σ ρ ν → Outcome ε β × World σ ρ ν
  | (.ok a, w) => (f a).run env w
  | (.err e, w) => (.err e, w)
  | (.panic, w) => (.panic, w)

section Run

variable (env : Env ρ ν)

@[simp] theorem run_pure (a : α) (w : World σ ρ ν) : (pure a : Prog σ ρ ν ε α).run env w = (.ok a, w) := rfl
@[simp] theorem run_ret (a : α) (w : World σ ρ ν) : (Prog.ret a : Prog σ ρ ν ε α).run env w = (.ok a, w) := rfl
@[simp] theorem run_fail (e : ε) (w : World σ ρ ν) : (Prog.fail e : Prog σ ρ ν ε α).run env w = (.err e, w) := rfl
@[simp] theorem run_panic (w : World σ ρ ν) : (Prog.panic : Prog σ ρ ν ε α).run env w = (.panic, w) := rfl
@[simp] theorem run_get (w : World σ ρ ν) : (get : Prog σ ρ ν ε σ).run env w = (.ok w.st, w) := rfl
@[simp] theorem run_modify (f : σ → σ) (w : World σ ρ ν) :
    (modify f : Prog σ ρ ν ε Unit).run env w = (.ok (), w.modify f) := rfl
@[simp] theorem run_mark (n : ν) (w : World σ ρ ν) :
    (mark n : Prog σ ρ ν ε Unit).run env w = (.ok (), w.noted n) := rfl
@[simp] theorem run_await (c : κ) (w : World σ ρ ν) :
    (await c : Prog σ ρ ν ε (ρ c)).run env w = (.ok (env w.log c), w.called c (env w.log c)) := rfl
@[simp] theorem run_awaitAt (c : κ) (w : World σ ρ ν) :
    (awaitAt c : Prog σ ρ ν ε (ℕ × ρ c)).run env w = (.ok (w.log.length, env w.log c), w.called c (env w.log c)) := rfl

@[simp] theorem resume_ok (f : α → Prog σ ρ ν ε β) (a : α) (w : World σ ρ ν) :
    resume env f (.ok a, w) = (f a).run env w := rfl
@[simp] theorem resume_err (f : α → Prog σ ρ ν ε β) (e : ε) (w : World σ ρ ν) :
    resume env f (.err e, w) = (.err e, w) := rfl
@[simp] theorem resume_panic (f : α → Prog σ ρ ν ε β) (w : World σ ρ ν) :
    resume env f (.panic, w) = (.panic, w) := rfl

@[simp] theorem run_ofOutcome (o : Outcome ε α) (w : World σ ρ ν) : (ofOutcome o).run env w = (o, w) := by
  cases o <;> rfl

@[simp] theorem run_bind (t : Prog σ ρ ν ε α) (f : α → Prog σ ρ ν ε β) (w : World σ ρ ν) :
    (t >>= f).run env w = resume env f (t.run env w) := by
  induction t generalizing w with
  | ret a => rfl
  | fail e => rfl
  | panic => rfl
  | step g k ih => exact ih w.st (w.modify g)
  | note n t ih => exact ih (w.noted n)
  | call c k ih => exact ih _ _ (w.called c (env w.log c))

@[simp] theorem run_outcome (t : Prog σ ρ ν ε α) (w : World σ ρ ν) :
    t.outcome.run env w = (.ok (t.run env w).1, (t.run env w).2) := by
  induction t generalizing w with
  | ret a => rfl
  | fail e => rfl
  | panic => rfl
  | step g k ih => exact ih w.st (w.modify g)
  | note n t ih => exact ih (w.noted n)
  | call c k ih => exact ih _ _ (w.called c (env w.log c))

@[simp] theorem run_attempt (t : Prog σ ρ ν ε α) (w : World σ ρ ν) :
    t.attempt.run env w = match t.run env w with
      | (.ok a, w') => (.ok (.ok a), w')
      | (.err e, w') => (.ok (.error e), w')
      | (.panic, w') => (.panic, w') := by
  rw [attempt, run_bind, run_outcome]
  rcases t.run env w with ⟨a | e | _, w'⟩ <;> rfl

@[simp] theorem run_ofExcept (r : Except ε α) (w : World σ ρ ν) :
    (ofExcept r).run env w = (match r with | .ok a => .ok a | .error e => .err e, w) := by
  cases r <;> rfl

@[simp] theorem run_andFinally (t : Prog σ ρ ν ε α) (f : σ → σ) (w : World σ ρ ν) :
    (t.andFinally f).run env w = ((t.run env w).1, (t.run env w).2.modify f) := by
  simp [andFinally]

theorem run_bind_ne_panic {t : Prog σ ρ ν ε α} {f : α → Prog σ ρ ν ε β} {w : World σ ρ ν}
    (ht : (t.run env w).1 ≠ .panic) (hf : ∀ a w', ((f a).run env w').1 ≠ .panic) :
    ((t >>= f).run env w).1 ≠ .panic := by
  rw [run_bind]
  rcases h : t.run env w with ⟨a | e | _, w'⟩
  · exact hf a w'
  · simp
  · exact absurd (congrArg Prod.fst h) ht

end Run

/-! ### Statements about every run -/

/-- Every call of `t` from `w` is made where `C` holds, and every run of `t` from `w` ends in `Q`. -/
def Sat (C : World σ ρ ν → κ → Prop) :
    Prog σ ρ ν ε α → World σ ρ ν → (Outcome ε α → World σ ρ ν → Prop) → Prop
  | .ret a, w, Q => Q (.ok a) w
  | .fail e, w, Q => Q (.err e) w
  | .panic, w, Q => Q .panic w
  | .step f k, w, Q => Sat C (k w.st) (w.modify f) Q
  | .note n t, w, Q => Sat C t (w.noted n) Q
  | .call c k, w, Q => C w c ∧ ∀ r, Sat C (k w.log.length r) (w.called c r) Q

/-- What the first program of a bind has to end in for the second to end in `Q`. -/
def After (C : World σ ρ ν → κ → Prop) (Q : Outcome ε β → World σ ρ ν → Prop) (f : α → Prog σ ρ ν ε β) :
    Outcome ε α → World σ ρ ν → Prop
  | .ok a, w => Sat C (f a) w Q
  | .err e, w => Q (.err e) w
  | .panic, w => Q .panic w

section Sat

variable {C C' : World σ ρ ν → κ → Prop} {Q Q' : Outcome ε α → World σ ρ ν → Prop}
  {R : Outcome ε β → World σ ρ ν → Prop} {w : World σ ρ ν}

@[simp] theorem sat_pure (a : α) : Sat C (pure a : Prog σ ρ ν ε α) w Q ↔ Q (.ok a) w := Iff.rfl
@[simp] theorem sat_ret (a : α) : Sat C (Prog.ret a : Prog σ ρ ν ε α) w Q ↔ Q (.ok a) w := Iff.rfl
@[simp] theorem sat_fail (e : ε) : Sat C (Prog.fail e : Prog σ ρ ν ε α) w Q ↔ Q (.err e) w := Iff.rfl
@[simp] theorem sat_panic : Sat C (Prog.panic : Prog σ ρ ν ε α) w Q ↔ Q .panic w := Iff.rfl

@[simp] theorem sat_get {Q : Outcome ε σ → World σ ρ ν → Prop} :
    Sat C (get : Prog σ ρ ν ε σ) w Q ↔ Q (.ok w.st) w := Iff.rfl

@[simp] theorem sat_modify {Q : Outcome ε Unit → World σ ρ ν → Prop} (f : σ → σ) :
    Sat C (modify f) w Q ↔ Q (.ok ()) (w.modify f) := Iff.rfl

@[simp] theorem sat_mark {Q : Outcome ε Unit → World σ ρ ν → Prop} (n : ν) :
    Sat C (mark n) w Q ↔ Q (.ok ()) (w.noted n) := Iff.rfl

@[simp] theorem sat_await (c : κ) {Q : Outcome ε (ρ c) → World σ ρ ν → Prop} :
    Sat C (await c) w Q ↔ C w c ∧ ∀ r, Q (.ok r) (w.called c r) := Iff.rfl

@[simp] theorem sat_awaitAt (c : κ) {Q : Outcome ε (ℕ × ρ c) → World σ ρ ν → Prop} :
    Sat C (awaitAt c) w Q ↔ C w c ∧ ∀ r, Q (.ok (w.log.length, r)) (w.called c r) := Iff.rfl

@[simp] theorem after_ok (f : α → Prog σ ρ ν ε β) (a : α) : After C R f (.ok a) w ↔ Sat C (f a) w R := Iff.rfl
@[simp] theorem after_err (f : α → Prog σ ρ ν ε β) (e : ε) : After C R f (.err e) w ↔ R (.err e) w := Iff.rfl
@[simp] theorem after_panic (f : α → Prog σ ρ ν ε β) : After C R f .panic w ↔ R .panic w := Iff.rfl

@[simp] theorem sat_ofOutcome (o : Outcome ε α) : Sat C (ofOutcome o) w Q ↔ Q o w := by
  cases o <;> rfl

/-- **Sequencing**. -/
@[simp] theorem sat_bind (t : Prog σ ρ ν ε α) (f : α → Prog σ ρ ν ε β) :
    Sat C (t >>= f) w R ↔ Sat C t w (After C R f) := by
  induction t generalizing w with
  | ret a => rfl
  | fail e => rfl
  | panic => rfl
  | step g k ih => exact ih w.st
  | note n t ih => exact ih
  | call c k ih => exact and_congr_right fun _ => forall_congr' fun r => ih w.log.length r

@[simp] theorem sat_outcome (t : Prog σ ρ ν ε α) {Q : Outcome ε (Outcome ε α) → World σ ρ ν → Prop} :
    Sat C t.outcome w Q ↔ Sat C t w (fun o => Q (.ok o)) := by
  induction t generalizing w with
  | ret a => rfl
  | fail e => rfl
  | panic => rfl
  | step g k ih => exact ih w.st
  | note n t ih => exact ih
  | call c k ih => exact and_congr_right fun _ => forall_congr' fun r => ih w.log.length r

/-- What a caught outcome has to satisfy. -/
def Caught (Q : Outcome ε (Except ε α) → World σ ρ ν → Prop) : Outcome ε α → World σ ρ ν → Prop
  | .ok a, w => Q (.ok (.ok a)) w
  | .err e, w => Q (.ok (.error e)) w
  | .panic, w => Q .panic w

@[simp] theorem caught_ok (Q : Outcome ε (Except ε α) → World σ ρ ν → Prop) (a : α) :
    Caught Q (.ok a) w ↔ Q (.ok (.ok a)) w := Iff.rfl
@[simp] theorem caught_err (Q : Outcome ε (Except ε α) → World σ ρ ν → Prop) (e : ε) :
    Caught Q (.err e) w ↔ Q (.ok (.error e)) w := Iff.rfl
@[simp] theorem caught_panic (Q : Outcome ε (Except ε α) → World σ ρ ν → Prop) :
    Caught Q .panic w ↔ Q .panic w := Iff.rfl

@[simp] theorem sat_attempt (t : Prog σ ρ ν ε α) {Q : Outcome ε (Except ε α) → World σ ρ ν → Prop} :
    Sat C t.attempt w Q ↔ Sat C t w (Caught Q) := by
  rw [attempt, sat_bind, sat_outcome]
  have h : (fun o => After C Q (fun o' => match o' with
      | .ok a => .ret (.ok a) | .err e => .ret (.error e) | .panic => .panic) (Outcome.ok o)) = Caught Q := by
    funext o w'
    cases o <;> rfl
  rw [← h]

@[simp] theorem sat_ofExcept (r : Except ε α) :
    Sat C (ofExcept r) w Q ↔ (∀ a, r = .ok a → Q (.ok a) w) ∧ ∀ e, r = .error e → Q (.err e) w := by
  cases r <;> simp [ofExcept]

@[simp] theorem sat_andFinally (t : Prog σ ρ ν ε α) (f : σ → σ) :
    Sat C (t.andFinally f) w Q ↔ Sat C t w (fun o w' => Q o (w'.modify f)) := by
  have h : (fun o => After C Q (fun o' => do modify f; ofOutcome o') (Outcome.ok o)) =
      fun o w' => Q o (w'.modify f) := by
    funext o w'
    simp
  simp only [andFinally, sat_bind, sat_outcome, h]

/-- Consequence. -/
theorem Sat.mono {t : Prog σ ρ ν ε α} (h : Sat C t w Q) (hC : ∀ w c, C w c → C' w c)
    (hQ : ∀ o w, Q o w → Q' o w) : Sat C' t w Q' := by
  induction t generalizing w with
  | ret a => exact hQ _ _ h
  | fail e => exact hQ _ _ h
  | panic => exact hQ _ _ h
  | step g k ih => exact ih w.st h
  | note n t ih => exact ih h
  | call c k ih => exact ⟨hC _ _ h.1, fun r => ih w.log.length r (h.2 r)⟩

theorem Sat.post {t : Prog σ ρ ν ε α} (h : Sat C t w Q) (hQ : ∀ o w, Q o w → Q' o w) : Sat C t w Q' :=
  h.mono (fun _ _ hc => hc) hQ

theorem Sat.and {t : Prog σ ρ ν ε α} (h : Sat C t w Q) (h' : Sat C' t w Q') :
    Sat (fun w c => C w c ∧ C' w c) t w (fun o w => Q o w ∧ Q' o w) := by
  induction t generalizing w with
  | ret a => exact ⟨h, h'⟩
  | fail e => exact ⟨h, h'⟩
  | panic => exact ⟨h, h'⟩
  | step g k ih => exact ih w.st h h'
  | note n t ih => exact ih h h'
  | call c k ih => exact ⟨⟨h.1, h'.1⟩, fun r => ih w.log.length r (h.2 r) (h'.2 r)⟩

/-- The result alone. -/
theorem Sat.anywhere {t : Prog σ ρ ν ε α} (h : Sat C t w Q) : Sat (fun _ _ => True) t w Q :=
  h.mono (fun _ _ _ => trivial) fun _ _ ho => ho

/-- Programs all of whose calls satisfy `C`, one after the other. -/
theorem Sat.seq {t : Prog σ ρ ν ε α} {f : α → Prog σ ρ ν ε β} (h : Sat C t w fun _ _ => True)
    (hf : ∀ a w', Sat C (f a) w' fun _ _ => True) : Sat C t w (After C (fun _ _ => True) f) := by
  refine h.post ?_
  rintro (a | e | _) w' -
  · exact hf a w'
  · trivial
  · trivial

/-- Two results of one specification of the calls. -/
theorem Sat.both {t : Prog σ ρ ν ε α} (h : Sat C t w Q) (h' : Sat (fun _ _ => True) t w Q') :
    Sat C t w (fun o w => Q o w ∧ Q' o w) :=
  (h.and h').mono (fun _ _ hc => hc.1) fun _ _ ho => ho

/-- What holds of every run holds of the run under `env`. -/
theorem Sat.run {t : Prog σ ρ ν ε α} (h : Sat C t w Q) (env : Env ρ ν) : Q (t.run env w).1 (t.run env w).2 := by
  induction t generalizing w with
  | ret a => exact h
  | fail e => exact h
  | panic => exact h
  | step g k ih => exact ih w.st h
  | note n t ih => exact ih h
  | call c k ih => exact ih _ _ (h.2 _)

/-- No run of `t` changes the component `g` of the state. -/
def Spares {γ : Type} (g : σ → γ) (t : Prog σ ρ ν ε α) : Prop :=
  ∀ w, Sat (fun _ _ => True) t w fun _ w' => g w'.st = g w.st

section Spares

variable {γ : Type} {g : σ → γ} {t : Prog σ ρ ν ε α}

theorem spares_pure (a : α) : Spares g (pure a : Prog σ ρ ν ε α) := fun _ => rfl

theorem spares_fail (e : ε) : Spares g (Prog.fail e : Prog σ ρ ν ε α) := fun _ => rfl

theorem spares_get : Spares g (get : Prog σ ρ ν ε σ) := fun _ => rfl

theorem spares_await (c : κ) : Spares g (await c : Prog σ ρ ν ε (ρ c)) := fun _ => ⟨trivial, fun _ => rfl⟩

theorem spares_awaitAt (c : κ) : Spares g (awaitAt c : Prog σ ρ ν ε (ℕ × ρ c)) := fun _ => ⟨trivial, fun _ => rfl⟩

theorem spares_mark (n : ν) : Spares g (mark n : Prog σ ρ ν ε Unit) := fun _ => rfl

theorem spares_modify {f : σ → σ} (hf : ∀ s, g (f s) = g s) : Spares g (modify f : Prog σ ρ ν ε Unit) :=
  fun w => hf w.st

theorem spares_ofOutcome (o : Outcome ε α) : Spares g (ofOutcome o : Prog σ ρ ν ε α) := by
  intro w
  cases o <;> rfl

theorem spares_ofExcept (r : Except ε α) : Spares g (ofExcept r : Prog σ ρ ν ε α) := by
  intro w
  cases r <;> rfl

theorem Spares.bind {f : α → Prog σ ρ ν ε β} (ht : Spares g t) (hf : ∀ a, Spares g (f a)) : Spares g (t >>= f) := by
  intro w
  rw [sat_bind]
  refine (ht w).post ?_
  rintro (a | e | _) w' hw'
  · exact (hf a w').post fun _ _ hw'' => hw''.trans hw'
  · exact hw'
  · exact hw'

theorem Spares.comp {δ : Type} (ht : Spares g t) (k : γ → δ) : Spares (fun s => k (g s)) t :=
  fun w => (ht w).post fun _ _ hw' => congrArg k hw'

theorem Spares.andFinally {f : σ → σ} (ht : Spares g t) (hf : ∀ s, g (f s) = g s) : Spares g (t.andFinally f) := by
  intro w
  rw [sat_andFinally]
  exact (ht w).post fun _ _ hw' => (hf _).trans hw'

end Spares

/-- The log only grows. -/
theorem sat_log (t : Prog σ ρ ν ε α) (w : World σ ρ ν) :
    Sat (fun w' _ => w.log <+: w'.log) t w (fun _ w' => w.log <+: w'.log) := by
  suffices h : ∀ w₀ : World σ ρ ν, w₀.log <+: w.log →
      Sat (fun w' _ => w₀.log <+: w'.log) t w (fun _ w' => w₀.log <+: w'.log) from h w (List.prefix_refl _)
  intro w₀ hw
  induction t generalizing w with
  | ret a => exact hw
  | fail e => exact hw
  | panic => exact hw
  | step g k ih => exact ih w.st (w.modify g) hw
  | note n t ih => exact ih (w.noted n) (hw.trans (List.prefix_append _ _))
  | call c k ih =>
    exact ⟨hw, fun r => ih w.log.length r (w.called c r) (hw.trans (List.prefix_append _ _))⟩

theorem log_prefix_run (env : Env ρ ν) (t : Prog σ ρ ν ε α) (w : World σ ρ ν) : w.log <+: (t.run env w).2.log :=
  (sat_log t w).run env

/-- What a program adds to the log stays in it, whatever follows. -/
theorem log_prefix_bind (env : Env ρ ν) (t : Prog σ ρ ν ε α) (f : α → Prog σ ρ ν ε β) (w : World σ ρ ν) :
    (t.run env w).2.log <+: ((t >>= f).run env w).2.log := by
  rw [run_bind]
  rcases t.run env w with ⟨a | e | _, w'⟩
  · exact log_prefix_run env (f a) w'
  · exact List.prefix_refl _
  · exact List.prefix_refl _

/-- What a program makes its log say for good, the log says where whatever follows ends. -/
theorem Sat.bind_log {I : List (Event ρ ν) → Prop} (hI : ∀ l l', l <+: l' → I l → I l') {t : Prog σ ρ ν ε α}
    (f : α → Prog σ ρ ν ε β) (h : Sat (fun _ _ => True) t w fun _ w' => I w'.log) :
    Sat (fun _ _ => True) (t >>= f) w fun _ w' => I w'.log := by
  rw [sat_bind]
  refine h.post ?_
  rintro (a | e | _) w' hw'
  · exact (sat_log (f a) w').mono (fun _ _ _ => trivial) fun _ w'' hl => hI _ _ hl hw'
  · exact hw'
  · exact hw'

/-! ### Logs whose every call was allowed when it was made -/

/-- Every call of the log was allowed by the log before it. -/
def Allowed (D : List (Event ρ ν) → κ → Prop) (log : List (Event ρ ν)) : Prop :=
  ∀ p c r s, log = p ++ .called c r :: s → D p c

theorem allowed_nil (D : List (Event ρ ν) → κ → Prop) : Allowed D [] := by
  intro p c r s h
  simp at h

theorem Allowed.of_prefix {D : List (Event ρ ν) → κ → Prop} {l l' : List (Event ρ ν)}
    (h : Allowed D l') (hl : l <+: l') : Allowed D l := by
  obtain ⟨t, rfl⟩ := hl
  rintro p c r s rfl
  exact h p c r (s ++ t) (by simp)

theorem allowed_concat {D : List (Event ρ ν) → κ → Prop} {log : List (Event ρ ν)} {e : Event ρ ν} :
    Allowed D (log ++ [e]) ↔ Allowed D log ∧ ∀ c r, e = .called c r → D log c := by
  constructor
  · intro h
    refine ⟨h.of_prefix (List.prefix_append _ _), ?_⟩
    rintro c r rfl
    exact h log c r [] rfl
  · rintro ⟨h, he⟩ p c r s hs
    rcases List.eq_nil_or_concat s with rfl | ⟨s', e', rfl⟩
    · obtain ⟨rfl, h2⟩ := List.append_inj' hs rfl
      exact he c r (by simpa using h2)
    · rw [List.concat_eq_append, ← List.cons_append, ← List.append_assoc] at hs
      exact h p c r s' (List.append_inj' hs rfl).1

/-- A call was allowed by what stands before it. -/
theorem Allowed.at {D : List (Event ρ ν) → κ → Prop} {log : List (Event ρ ν)} (h : Allowed D log) {i : ℕ} {c : κ}
    {r : ρ c} (hi : log[i]? = some (.called c r)) : D (log.take i) c := by
  obtain ⟨hlt, he⟩ := List.getElem?_eq_some_iff.mp hi
  refine h (log.take i) c r (log.drop (i + 1)) ?_
  rw [← he, List.getElem_cons_drop, List.take_append_drop]

/-- What every call of `t` and every note keep true of the log holds where `t` ends. -/
theorem Sat.keep {I : List (Event ρ ν) → Prop} {t : Prog σ ρ ν ε α} (h : Sat C t w Q)
    (hcall : ∀ w c (r : ρ c), C w c → I w.log → I (w.log ++ [.called c r]))
    (hnote : ∀ log n, I log → I (log ++ [.noted n])) (hw : I w.log) :
    Sat C t w (fun o w' => Q o w' ∧ I w'.log) := by
  induction t generalizing w with
  | ret a => exact ⟨h, hw⟩
  | fail e => exact ⟨h, hw⟩
  | panic => exact ⟨h, hw⟩
  | step g k ih => exact ih w.st h hw
  | note n t ih => exact ih h (hnote w.log n hw)
  | call c k ih => exact ⟨h.1, fun r => ih w.log.length r (h.2 r) (hcall w c r h.1 hw)⟩

/-- A program whose calls respect `D` keeps the log allowed. -/
theorem Sat.allowed {D : List (Event ρ ν) → κ → Prop} {t : Prog σ ρ ν ε α} (h : Sat C t w Q)
    (hC : ∀ w c, C w c → D w.log c) (hw : Allowed D w.log) :
    Sat C t w (fun o w' => Q o w' ∧ Allowed D w'.log) := by
  refine h.keep (I := Allowed D) ?_ ?_ hw
  · intro w c r hc hw
    refine allowed_concat.mpr ⟨hw, ?_⟩
    rintro c' r' he
    cases he
    exact hC _ _ hc
  · intro log n hw
    exact allowed_concat.mpr ⟨hw, fun _ _ he => by cases he⟩

/-- A program that makes no call of a kind adds none to the log. -/
theorem Sat.old {P : κ → Prop} {t : Prog σ ρ ν ε α} (h : Sat C t w Q) (hC : ∀ w c, C w c → ¬ P c) :
    Sat C t w (fun o w' => Q o w' ∧ ∀ (i : ℕ) (c : κ) (r : ρ c), w'.log[i]? = some (.called c r) → P c →
      w.log[i]? = some (.called c r)) := by
  have concat : ∀ {log : List (Event ρ ν)} {e : Event ρ ν}, (∀ (i : ℕ) (c : κ) (r : ρ c),
      log[i]? = some (.called c r) → P c → w.log[i]? = some (.called c r)) → (∀ c r, e = .called c r → ¬ P c) →
      ∀ (i : ℕ) (c : κ) (r : ρ c), (log ++ [e])[i]? = some (.called c r) → P c → w.log[i]? = some (.called c r) := by
    intro log e hlog he i c r hi hc
    rcases Nat.lt_or_ge i log.length with hlt | hge
    · rw [List.getElem?_append_left hlt] at hi
      exact hlog i c r hi hc
    · rw [List.getElem?_append_right hge] at hi
      exact absurd hc (he c r (List.mem_singleton.mp (List.mem_of_getElem? hi)).symm)
  refine h.keep (I := fun log => ∀ (i : ℕ) (c : κ) (r : ρ c), log[i]? = some (.called c r) → P c →
    w.log[i]? = some (.called c r)) ?_ ?_ fun _ _ _ hi _ => hi
  · intro w' c r hc hlog
    refine concat hlog ?_
    rintro c' r' he
    cases he
    exact hC _ _ hc
  · exact fun log n hlog => concat hlog fun _ _ he => by cases he

/-! ### Single steps -/

/-- One step of a program, with any reply for a call. -/
inductive Step : Prog σ ρ ν ε α → World σ ρ ν → Prog σ ρ ν ε α → World σ ρ ν → Prop where
  | step (f : σ → σ) (k : σ → Prog σ ρ ν ε α) (w : World σ ρ ν) :
      Step (.step f k) w (k w.st) (w.modify f)
  | note (n : ν) (t : Prog σ ρ ν ε α) (w : World σ ρ ν) : Step (.note n t) w t (w.noted n)
  | call (c : κ) (k : ℕ → ρ c → Prog σ ρ ν ε α) (w : World σ ρ ν) (r : ρ c) :
      Step (.call c k) w (k w.log.length r) (w.called c r)

theorem Sat.step {t t' : Prog σ ρ ν ε α} {w' : World σ ρ ν} (h : Sat C t w Q) (hs : Step t w t' w') :
    Sat C t' w' Q := by
  cases hs with
  | step f k w => exact h
  | note n t w => exact h
  | call c k w r => exact h.2 r

theorem Step.log_length_le {t t' : Prog σ ρ ν ε α} {w' : World σ ρ ν} (hs : Step t w t' w') :
    w.log.length ≤ w'.log.length := by
  cases hs <;> simp

/-- The world and the rest of a program. -/
abbrev State {κ : Type} (σ : Type) (ρ : κ → Type) (ν ε α : Type) := Prog σ ρ ν ε α × World σ ρ ν

/-- Any number of steps. -/
abbrev Steps : State σ ρ ν ε α → State σ ρ ν ε α → Prop :=
  Relation.ReflTransGen fun a b => Step a.1 a.2 b.1 b.2

/-- The first `n` steps under `env`, or all of them. -/
def advance (env : Env ρ ν) : ℕ → Prog σ ρ ν ε α → World σ ρ ν → State σ ρ ν ε α
  | n + 1, .step f k, w => advance env n (k w.st) (w.modify f)
  | n + 1, .note m t, w => advance env n t (w.noted m)
  | n + 1, .call c k, w => advance env n (k w.log.length (env w.log c)) (w.called c (env w.log c))
  | _, t, w => (t, w)

theorem steps_advance (env : Env ρ ν) (n : ℕ) (t : Prog σ ρ ν ε α) (w : World σ ρ ν) :
    Steps (t, w) (advance env n t w) := by
  induction n generalizing t w with
  | zero => exact .refl
  | succ n ih =>
    cases t with
    | step f k => exact .head (.step f k w) (ih _ _)
    | note m t => exact .head (.note m t w) (ih _ _)
    | call c k => exact .head (.call c k w _) (ih _ _)
    | _ => exact .refl

/-- A run is made of steps. -/
theorem steps_run (env : Env ρ ν) (t : Prog σ ρ ν ε α) (w : World σ ρ ν) :
    Steps (t, w) (ofOutcome (t.run env w).1, (t.run env w).2) := by
  induction t generalizing w with
  | ret a => exact .refl
  | fail e => exact .refl
  | panic => exact .refl
  | step f k ih => exact .head (.step f k w) (ih _ _)
  | note n t ih => exact .head (.note n t w) (ih _)
  | call c k ih => exact .head (.call c k w _) (ih _ _ _)

/-- A step keeps the log allowed. -/
theorem Sat.step_allowed {D : List (Event ρ ν) → κ → Prop} {t t' : Prog σ ρ ν ε α} {w' : World σ ρ ν}
    (h : Sat C t w Q) (hC : ∀ w c, C w c → D w.log c) (hw : Allowed D w.log) (hs : Step t w t' w') :
    Allowed D w'.log := by
  cases hs with
  | step f k w => exact hw
  | note n t w => exact allowed_concat.mpr ⟨hw, fun _ _ he => by cases he⟩
  | call c k w r =>
    refine allowed_concat.mpr ⟨hw, ?_⟩
    rintro c' r' he
    cases he
    exact hC _ _ h.1

end Sat

end Prog

end Async
