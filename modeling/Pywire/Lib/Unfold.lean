import Mathlib.Data.Seq.Defs

/-!
# Unfold: streams that are polled

A stream unfolds from a state `σ` in a world `ω`: a `Step` answers an item and the next state, or ends the stream,
and leaves the world changed.  `items` is what is polled off a stream, as a sequence that may be infinite.

* `Runs.polls`: as long as the steps answer items, polling goes through their states and worlds.
* `Runs.get?_add`: what comes after a run are the items of the stream that starts where the run ends.
* `Idle.get?` and `Idle.world`: a state that ends the stream has no items and leaves the world alone.
-/

namespace Unfold

variable {σ ω α : Type}

abbrev Step (σ ω α : Type) := σ → ω → Option (α × σ) × ω

/-- A stream between two polls, and the world; a stream without a state is over. -/
structure Polled (σ ω : Type) where
  state : Option σ
  world : ω

def poll (f : Step σ ω α) (p : Polled σ ω) : Option α × Polled σ ω :=
  match p.state with
  | none => (none, p)
  | some s =>
    match f s p.world with
    | (none, w) => (none, ⟨none, w⟩)
    | (some (a, s), w) => (some a, ⟨some s, w⟩)

/-- The stream after some polls. -/
def polls (f : Step σ ω α) : ℕ → Polled σ ω → Polled σ ω
  | 0, p => p
  | n + 1, p => (poll f (polls f n p)).2

theorem poll_over (f : Step σ ω α) {p : Polled σ ω} (h : p.state = none) : poll f p = (none, p) := by
  rw [poll, h]

theorem poll_done {f : Step σ ω α} {s : σ} {w w' : ω} (h : f s w = (none, w')) :
    poll f ⟨some s, w⟩ = (none, ⟨none, w'⟩) := by
  rw [poll]
  simp only [h]

theorem poll_item {f : Step σ ω α} {s s' : σ} {w w' : ω} {a : α} (h : f s w = (some (a, s'), w')) :
    poll f ⟨some s, w⟩ = (some a, ⟨some s', w'⟩) := by
  rw [poll]
  simp only [h]

/-- A poll without an item leaves a stream that is over. -/
theorem state_of_poll_none {f : Step σ ω α} {p : Polled σ ω} (h : (poll f p).1 = none) : (poll f p).2.state = none := by
  obtain ⟨_ | s, w⟩ := p
  · rfl
  · rcases hstep : f s w with ⟨_ | ⟨a, s'⟩, w'⟩
    · rw [poll_done hstep]
    · rw [poll_item hstep] at h
      cases h

/-- The items of a stream, in the order in which they are polled. -/
def items (f : Step σ ω α) (p : Polled σ ω) : Stream'.Seq α :=
  ⟨fun n => (poll f (polls f n p)).1, fun {n} h => by
    show (poll f (poll f (polls f n p)).2).1 = none
    rw [poll_over f (state_of_poll_none h)]⟩

theorem get?_items (f : Step σ ω α) (p : Polled σ ω) (n : ℕ) : (items f p).get? n = (poll f (polls f n p)).1 := rfl

theorem polls_add (f : Step σ ω α) (m n : ℕ) (p : Polled σ ω) : polls f (m + n) p = polls f n (polls f m p) := by
  induction n with
  | zero => rfl
  | succ n ih => rw [← Nat.add_assoc, polls, polls, ih]

/-- A stream that is over stays as it is. -/
theorem polls_over (f : Step σ ω α) {p : Polled σ ω} (h : p.state = none) (n : ℕ) : polls f n p = p := by
  induction n with
  | zero => rfl
  | succ n ih => rw [polls, ih, poll_over f h]

/-- A state that ends the stream and leaves the world as it is. -/
def Idle (f : Step σ ω α) (s : σ) : Prop := ∀ w, f s w = (none, w)

theorem Idle.get? {f : Step σ ω α} {s : σ} (h : Idle f s) (w : ω) : (items f ⟨some s, w⟩).get? 0 = none := by
  rw [get?_items, polls, poll_done (h w)]

theorem Idle.world {f : Step σ ω α} {s : σ} (h : Idle f s) (w : ω) (n : ℕ) : (polls f n ⟨some s, w⟩).world = w := by
  cases n with
  | zero => rfl
  | succ n => rw [Nat.add_comm, polls_add, polls, polls, poll_done (h w), polls_over f rfl]

/-! ### Runs -/

/-- The steps answer the items `a 0`, …, `a (n - 1)` and go through the states `s` and the worlds `w`. -/
def Runs (f : Step σ ω α) (s : ℕ → σ) (w : ℕ → ω) (a : ℕ → α) (n : ℕ) : Prop :=
  ∀ i < n, f (s i) (w i) = (some (a i, s (i + 1)), w (i + 1))

variable {f : Step σ ω α} {s : ℕ → σ} {w : ℕ → ω} {a : ℕ → α} {n : ℕ}

theorem Runs.polls (h : Runs f s w a n) : polls f n ⟨some (s 0), w 0⟩ = ⟨some (s n), w n⟩ := by
  induction n with
  | zero => rfl
  | succ n ih => rw [Unfold.polls, ih fun i hi => h i (by omega), poll_item (h n (by omega))]

/-- The polls of a run and those after it. -/
theorem Runs.polls_add (h : Runs f s w a n) (m : ℕ) :
    Unfold.polls f (n + m) ⟨some (s 0), w 0⟩ = Unfold.polls f m ⟨some (s n), w n⟩ := by
  rw [Unfold.polls_add, h.polls]

theorem Runs.get?_add (h : Runs f s w a n) (m : ℕ) :
    (items f ⟨some (s 0), w 0⟩).get? (n + m) = (items f ⟨some (s n), w n⟩).get? m := by
  rw [get?_items, get?_items, h.polls_add]

end Unfold
