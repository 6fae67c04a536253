import Mathlib.Data.Nat.Notation

/-!
# Shield: a task that awaits one future, and is cancelled

A coroutine awaits an inner future, bare or behind `asyncio.shield`, and is resumed by the event loop.  `Task.cancel`
cancels the future that the task waits for; a shield has a future of its own, to which a callback copies the outcome
of the inner one.  If the task waits for a future that is done, the cancellation is raised at the next resumption.
(The shield also unregisters its callback once its own future is done, when the callback would do nothing.)

* `Inv.wakeup`: a coroutine behind a shield is resumed with the outcome of the inner future, or with a cancellation
  if one was requested.
* `Invariant.run`: what holds at the start and is kept by both kinds of resumption holds in every run, and the inner
  future is never cancelled by the task.
* `Inv.ends`: once the inner future is done, the coroutine ends when it is resumed, and it will be.
-/

namespace Shield

inductive Outcome (ε : Type) where
  | ok
  | failed (e : ε)
  | cancelled
  deriving DecidableEq

/-- A future is pending until it has an outcome. -/
abbrev Future (ε : Type) := Option (Outcome ε)

/-- What a coroutine runs to: an await of the inner future, behind a shield or not, or its end. -/
inductive Next (σ ρ : Type) where
  | await (shielded : Bool) (s : σ)
  | finish (r : ρ)
  deriving DecidableEq

/-- The code of a coroutine between its awaits.  A future that is done is not waited for: to await it is to run on. -/
structure Coroutine (ε σ ρ : Type) where
  start : Future ε → Next σ ρ
  resume : σ → Future ε → Outcome ε → Next σ ρ
  start_pending : ∀ {o b s}, start (some o) ≠ .await b s
  resume_pending : ∀ {s o value b s'}, resume s (some o) value ≠ .await b s'

structure Suspended (ε σ : Type) where
  state : σ
  /-- The future of the shield, if there is one. -/
  outer : Option (Future ε)
  mustCancel : Bool
  /-- A cancellation was requested since the coroutine was suspended. -/
  requested : Bool
  deriving DecidableEq

inductive Task (ε σ ρ : Type) where
  | suspended (a : Suspended ε σ)
  | finished (r : ρ)
  deriving DecidableEq

structure State (ε σ ρ : Type) where
  inner : Future ε
  /-- The task has cancelled the inner future. -/
  innerCancelled : Bool
  /-- How many cancellations were raised in the coroutine. -/
  delivered : ℕ
  task : Task ε σ ρ
  deriving DecidableEq

inductive Event (ε : Type) where
  | cancel
  | settle (o : Outcome ε)
  | callback
  | wakeup

variable {ε σ ρ : Type}

def Next.enter : Next σ ρ → Task ε σ ρ
  | .await true s => .suspended ⟨s, some none, false, false⟩
  | .await false s => .suspended ⟨s, none, false, false⟩
  | .finish r => .finished r

/-- The future that the task waits for. -/
def Suspended.waiter (a : Suspended ε σ) (inner : Future ε) : Future ε := a.outer.getD inner

/-- `Task.cancel`. -/
def State.cancel (s : State ε σ ρ) : State ε σ ρ :=
  match s.task with
  | .finished _ => s
  | .suspended a =>
    match a.waiter s.inner, a.outer with
    | none, some _ => { s with task := .suspended { a with outer := some (some .cancelled), requested := true } }
    | none, none =>
      { s with inner := some .cancelled, innerCancelled := true, task := .suspended { a with requested := true } }
    | some _, _ => { s with task := .suspended { a with mustCancel := true, requested := true } }

/-- The callback of the shield. -/
def State.callback (s : State ε σ ρ) : Option (State ε σ ρ) :=
  match s.task with
  | .finished _ => none
  | .suspended a =>
    match a.outer, s.inner with
    | some none, some o => some { s with task := .suspended { a with outer := some (some o) } }
    | _, _ => none

/-- The task is resumed with the outcome of what it waits for, or with the cancellation. -/
def State.wakeup (c : Coroutine ε σ ρ) (s : State ε σ ρ) : Option (State ε σ ρ) :=
  match s.task with
  | .finished _ => none
  | .suspended a =>
    (a.waiter s.inner).map fun o =>
      { s with
        delivered := if a.requested then s.delivered + 1 else s.delivered
        task := (c.resume a.state s.inner (if a.mustCancel then .cancelled else o)).enter }

def step (c : Coroutine ε σ ρ) (s : State ε σ ρ) : Event ε → Option (State ε σ ρ)
  | .cancel => some s.cancel
  | .settle o => if s.inner = none then some { s with inner := some o } else none
  | .callback => s.callback
  | .wakeup => s.wakeup c

def run (c : Coroutine ε σ ρ) (s : State ε σ ρ) : List (Event ε) → Option (State ε σ ρ)
  | [] => some s
  | e :: events => (step c s e).bind fun s => run c s events

/-- The coroutine has run to its first await. -/
def init (c : Coroutine ε σ ρ) (inner : Future ε) : State ε σ ρ := ⟨inner, false, 0, (c.start inner).enter⟩

/-! ### Behind shields -/

def Next.Shielded : Next σ ρ → Prop
  | .await shielded _ => shielded = true
  | .finish _ => True

/-- The coroutine awaits the inner future behind shields only. -/
structure Coroutine.Shields (c : Coroutine ε σ ρ) : Prop where
  start : ∀ inner, (c.start inner).Shielded
  resume : ∀ s inner o, (c.resume s inner o).Shielded

/-- A suspended task waits for a shield; its future has the outcome of the inner one, unless the task was asked to
cancel, and then it will be. -/
structure Suspended.Inv (a : Suspended ε σ) (inner : Future ε) : Prop where
  outer : a.outer ≠ none
  requested : a.mustCancel = true → a.requested = true
  cancelled : a.requested = true → a.mustCancel = true ∨ a.outer = some (some .cancelled)
  /-- A task is asked to cancel only when it is due. -/
  due : a.mustCancel = true → ∃ o, a.outer = some (some o)
  copied : a.requested = false → ∀ o, a.outer = some (some o) → inner = some o

structure Inv (s : State ε σ ρ) : Prop where
  untouched : s.innerCancelled = false
  suspended : ∀ a, s.task = .suspended a → a.Inv s.inner

theorem Inv.enter {next : Next σ ρ} (h : next.Shielded) (inner : Future ε) (delivered : ℕ) :
    Inv (⟨inner, false, delivered, next.enter⟩ : State ε σ ρ) := by
  refine ⟨rfl, fun a ha => ?_⟩
  rcases next with ⟨_ | _, s⟩ | r
  · cases h
  · obtain rfl := Task.suspended.inj ha
    exact ⟨by simp, by simp, by simp, by simp, by simp⟩
  · cases ha

/-- A task that is suspended as the invariant says. -/
theorem Inv.resuspend {s : State ε σ ρ} (h : Inv s) {a : Suspended ε σ} (ha : a.Inv s.inner) :
    Inv ({ s with task := .suspended a } : State ε σ ρ) := by
  refine ⟨h.untouched, fun a' ha' => ?_⟩
  obtain rfl := Task.suspended.inj ha'
  exact ha

/-- A cancellation does nothing to a task that has ended, and leaves a suspended one where it was. -/
theorem Inv.cancel_cases {s : State ε σ ρ} (h : Inv s) :
    s.cancel = s ∨ ∃ a a', s.task = .suspended a ∧ s.cancel = { s with task := .suspended a' } ∧
      a'.state = a.state ∧ a'.Inv s.inner := by
  obtain ⟨inner, innerCancelled, delivered, ⟨state, outer, mustCancel, requested⟩ | r⟩ := s
  · refine .inr ?_
    rcases outer with _ | _ | o
    · exact absurd rfl (h.suspended _ rfl).outer
    · exact ⟨_, _, rfl, rfl, rfl, by simp, by simp, by simp, fun _ => ⟨.cancelled, rfl⟩, by simp⟩
    · exact ⟨_, _, rfl, rfl, rfl, by simp, by simp, by simp, fun _ => ⟨o, rfl⟩, by simp⟩
  · exact .inl rfl

theorem Inv.cancel {s : State ε σ ρ} (h : Inv s) : Inv s.cancel := by
  rcases h.cancel_cases with heq | ⟨a, a', -, heq, -, ha'⟩
  · rw [heq]
    exact h
  · rw [heq]
    exact h.resuspend ha'

theorem Inv.settle {s : State ε σ ρ} (h : Inv s) (hinner : s.inner = none) (o : Outcome ε) :
    Inv { s with inner := some o } := by
  refine ⟨h.untouched, fun a ha => ?_⟩
  obtain ⟨houter, hrequested, hcancelled, hdue, hcopied⟩ := h.suspended a ha
  refine ⟨houter, hrequested, hcancelled, hdue, fun hr o' ho' => ?_⟩
  exact absurd (hcopied hr o' ho') (by simp [hinner])

theorem State.callback_eq_some {s s' : State ε σ ρ} (h : s.callback = some s') :
    ∃ a o, s.task = .suspended a ∧ a.outer = some none ∧ s.inner = some o ∧
      s' = { s with task := .suspended { a with outer := some (some o) } } := by
  obtain ⟨inner, innerCancelled, delivered, ⟨state, outer, mustCancel, requested⟩ | r⟩ := s
  · rcases outer with _ | _ | o
    · cases h
    · rcases inner with _ | o
      · cases h
      · exact ⟨_, o, rfl, rfl, rfl, (Option.some.inj h).symm⟩
    · cases h
  · cases h

theorem Inv.callback {s s' : State ε σ ρ} (h : Inv s) (hstep : s.callback = some s') : Inv s' := by
  obtain ⟨a, o, ha, houter, hinner, rfl⟩ := State.callback_eq_some hstep
  obtain ⟨-, hrequested, hcancelled, -, -⟩ := h.suspended a ha
  refine h.resuspend ⟨by simp, hrequested, fun hr => .inl ((hcancelled hr).resolve_right (by simp [houter])),
    fun _ => ⟨o, rfl⟩, ?_⟩
  rintro - o' ⟨⟩
  exact hinner

/-- **Resumption.**  A requested cancellation is raised; otherwise the outcome of the inner future is. -/
theorem Inv.wakeup {c : Coroutine ε σ ρ} {s s' : State ε σ ρ} (h : Inv s) (hstep : s.wakeup c = some s') :
    ∃ a, s.task = .suspended a ∧
      (s' = ⟨s.inner, false, s.delivered + 1, (c.resume a.state s.inner .cancelled).enter⟩ ∨
        ∃ o, s.inner = some o ∧ s' = ⟨some o, false, s.delivered, (c.resume a.state (some o) o).enter⟩) := by
  obtain ⟨inner, innerCancelled, delivered, a | r⟩ := s
  · obtain rfl : innerCancelled = false := h.untouched
    obtain ⟨houter, hrequested, hcancelled, -, hcopied⟩ := h.suspended a rfl
    obtain ⟨state, outer, mustCancel, requested⟩ := a
    obtain ⟨o, hwaiter, rfl⟩ := Option.map_eq_some_iff.mp hstep
    refine ⟨_, rfl, ?_⟩
    obtain ⟨outer, rfl⟩ := Option.ne_none_iff_exists'.mp houter
    obtain rfl : outer = some o := hwaiter
    cases requested with
    | true =>
      refine .inl ?_
      have hvalue : (if mustCancel = true then .cancelled else o) = (.cancelled : Outcome ε) := by
        rcases hcancelled rfl with hmust | hcancel
        · exact if_pos hmust
        · obtain rfl : o = .cancelled := Option.some.inj (Option.some.inj hcancel)
          exact ite_self _
      simp only [hvalue, if_true]
    | false =>
      obtain rfl : inner = some o := hcopied rfl o rfl
      have hmust : mustCancel ≠ true := fun hm => by cases hrequested hm
      exact .inr ⟨o, rfl, by simp [hmust]⟩
  · cases hstep

section

variable (P : Future ε → ℕ → σ → Prop) (Q : Future ε → ℕ → ρ → Prop)

def Next.Holds (inner : Future ε) (delivered : ℕ) : Next σ ρ → Prop
  | .await _ s => P inner delivered s
  | .finish r => Q inner delivered r

/-- `P` holds where the coroutine is suspended and `Q` where it has ended. -/
def State.Holds (s : State ε σ ρ) : Prop :=
  match s.task with
  | .suspended a => P s.inner s.delivered a.state
  | .finished r => Q s.inner s.delivered r

/-- `P` and `Q` hold at first, and from one resumption to the next. -/
structure Invariant (c : Coroutine ε σ ρ) : Prop where
  start : ∀ inner, (c.start inner).Holds P Q inner 0
  settle : ∀ d s o, P none d s → P (some o) d s
  settle_finished : ∀ d r o, Q none d r → Q (some o) d r
  cancelled : ∀ inner d s, P inner d s → (c.resume s inner .cancelled).Holds P Q inner (d + 1)
  completed : ∀ o d s, P (some o) d s → (c.resume s (some o) o).Holds P Q (some o) d

end

section

variable {c : Coroutine ε σ ρ} {P : Future ε → ℕ → σ → Prop} {Q : Future ε → ℕ → ρ → Prop} {s s' : State ε σ ρ}

theorem State.holds_enter {inner : Future ε} {b : Bool} {d : ℕ} {next : Next σ ρ} (h : next.Holds P Q inner d) :
    State.Holds P Q ⟨inner, b, d, next.enter⟩ := by
  rcases next with ⟨_ | _, s⟩ | r
  · exact h
  · exact h
  · exact h

theorem State.holds_cancel (hinv : Inv s) (h : s.Holds P Q) : s.cancel.Holds P Q := by
  rcases hinv.cancel_cases with heq | ⟨a, a', ha, heq, hstate, -⟩
  · rw [heq]
    exact h
  · rw [State.Holds, ha] at h
    rw [heq]
    show P s.inner s.delivered a'.state
    rw [hstate]
    exact h

theorem State.holds_callback (h : s.Holds P Q) (hstep : s.callback = some s') : s'.Holds P Q := by
  obtain ⟨a, o, ha, -, -, rfl⟩ := State.callback_eq_some hstep
  rw [State.Holds, ha] at h
  exact h

theorem Invariant.step (hshields : c.Shields) (hPQ : Invariant P Q c) (hinv : Inv s) (h : s.Holds P Q) {e : Event ε}
    (hstep : step c s e = some s') : Inv s' ∧ s'.Holds P Q := by
  cases e with
  | cancel =>
    obtain rfl := Option.some.inj hstep
    exact ⟨hinv.cancel, State.holds_cancel hinv h⟩
  | settle o =>
    obtain ⟨hinner, hs'⟩ := Option.ite_none_right_eq_some.mp hstep
    obtain rfl := Option.some.inj hs'
    refine ⟨hinv.settle hinner o, ?_⟩
    obtain ⟨inner, innerCancelled, delivered, a | r⟩ := s
    · obtain rfl : inner = none := hinner
      exact hPQ.settle _ _ o h
    · obtain rfl : inner = none := hinner
      exact hPQ.settle_finished _ _ o h
  | callback => exact ⟨hinv.callback hstep, State.holds_callback h hstep⟩
  | wakeup =>
    obtain ⟨a, ha, hs'⟩ := hinv.wakeup hstep
    rw [State.Holds, ha] at h
    rcases hs' with rfl | ⟨o, ho, rfl⟩
    · exact ⟨Inv.enter (hshields.resume _ _ _) _ _, State.holds_enter (hPQ.cancelled _ _ _ h)⟩
    · rw [ho] at h
      exact ⟨Inv.enter (hshields.resume _ _ _) _ _, State.holds_enter (hPQ.completed _ _ _ h)⟩

/-- **Runs** keep what resumptions keep. -/
theorem Invariant.run (hshields : c.Shields) (hPQ : Invariant P Q c) {inner : Future ε} {events : List (Event ε)}
    (hrun : run c (init c inner) events = some s) : Inv s ∧ s.Holds P Q := by
  have hinit : Inv (init c inner) ∧ (init c inner).Holds P Q :=
    ⟨Inv.enter (hshields.start _) _ _, State.holds_enter (hPQ.start inner)⟩
  generalize init c inner = s₀ at hrun hinit
  induction events generalizing s₀ with
  | nil =>
    obtain rfl := Option.some.inj hrun
    exact hinit
  | cons e events ih =>
    obtain ⟨s₁, hstep, hrun⟩ := Option.bind_eq_some_iff.mp hrun
    exact ih s₁ hrun (hPQ.step hshields hinit.1 hinit.2 hstep)

/-! ### The end -/

/-- A coroutine that is resumed once the inner future is done ends. -/
theorem finished_of_wakeup {o : Outcome ε} (hdone : s.inner = some o) (hstep : s.wakeup c = some s') :
    ∃ r, s'.task = .finished r := by
  obtain ⟨inner, innerCancelled, delivered, a | r⟩ := s
  · obtain rfl : inner = some o := hdone
    obtain ⟨value, -, rfl⟩ := Option.map_eq_some_iff.mp hstep
    show ∃ r, (c.resume a.state (some o) _).enter = Task.finished r
    rcases hnext : c.resume a.state (some o) (if a.mustCancel then .cancelled else value) with ⟨b, state⟩ | r
    · exact absurd hnext c.resume_pending
    · exact ⟨r, rfl⟩
  · cases hstep

/-- A task that waits for a future that is done is due. -/
theorem run_wakeup {a : Suspended ε σ} (ha : s.task = .suspended a) {o value : Outcome ε} (hdone : s.inner = some o)
    (hwaiter : a.waiter s.inner = some value) : ∃ s' r, Shield.run c s [.wakeup] = some s' ∧ s'.task = .finished r := by
  obtain ⟨s', hs'⟩ : ∃ s', s.wakeup c = some s' := by
    rw [State.wakeup, ha]
    exact ⟨_, Option.map_eq_some_iff.mpr ⟨value, hwaiter, rfl⟩⟩
  obtain ⟨r, hr⟩ := finished_of_wakeup hdone hs'
  exact ⟨s', r, Option.bind_eq_some_iff.mpr ⟨s', hs', rfl⟩, hr⟩

/-- **Progress.**  Once the inner future is done, the task is due to be resumed, or the callback of the shield is due
and then the task. -/
theorem Inv.ends (c : Coroutine ε σ ρ) (hinv : Inv s) {a : Suspended ε σ} (ha : s.task = .suspended a) {o : Outcome ε}
    (hdone : s.inner = some o) :
    ∃ s' r, (Shield.run c s [.wakeup] = some s' ∨ Shield.run c s [.callback, .wakeup] = some s') ∧
      s'.task = .finished r := by
  rcases houter : a.outer with _ | _ | value
  · exact absurd houter (hinv.suspended a ha).outer
  · -- the callback is due, and makes the task due
    have hcallback : s.callback = some { s with task := .suspended { a with outer := some (some o) } } := by
      rw [State.callback, ha]
      simp only [houter, hdone]
    have hwaiter : ({ a with outer := some (some o) } : Suspended ε σ).waiter s.inner = some o := rfl
    obtain ⟨s', r, hrun, hr⟩ :=
      run_wakeup (c := c) (s := { s with task := .suspended { a with outer := some (some o) } }) rfl hdone hwaiter
    exact ⟨s', r, .inr (Option.bind_eq_some_iff.mpr ⟨_, hcallback, hrun⟩), hr⟩
  · have hwaiter : a.waiter s.inner = some value := by rw [Suspended.waiter, houter, Option.getD_some]
    obtain ⟨s', r, hrun, hr⟩ := run_wakeup (c := c) ha hdone hwaiter
    exact ⟨s', r, .inl hrun, hr⟩

end

end Shield
