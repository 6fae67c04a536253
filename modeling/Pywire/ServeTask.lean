import Pywire.Lib.Shield

/-!
# ServeTask: the coroutine around the accept loop

`pywire.server.serve` awaits the native server future behind a shield.  A cancellation makes it set the shutdown
event and wait on, until the native future is done.

* `serve_cancellation`: **Main result** — in every run, `serve` keeps the shutdown event set while it waits after a
  cancellation, leaves the native future alone, and ends when that is done, with its exception or as cancelled.
-/

namespace Pywire.ServeTask

open Shield (Future Next Coroutine)

variable {ε : Type}

/-- The two awaits: in the `try`, and in the loop that waits for the cleanup. -/
inductive Location where
  | serving
  | cleaning
  deriving DecidableEq

structure Frame where
  location : Location
  /-- The event `shutdown` is set. -/
  shutdown : Bool
  deriving DecidableEq

/-- How the coroutine ends: it returns, or raises an exception or `CancelledError`. -/
inductive Ending (ε : Type) where
  | returned
  | raised (e : ε)
  | cancelled
  deriving DecidableEq

structure Result (ε : Type) where
  shutdown : Bool
  ending : Ending ε
  deriving DecidableEq

/-- The handler of `CancelledError` from `while not running.done()` on. -/
def cleanup (shutdown : Bool) : Future ε → Next Frame (Result ε)
  | none => .await true ⟨.cleaning, shutdown⟩
  -- `running.result()` raises
  | some (.failed e) => .finish ⟨shutdown, .raised e⟩
  | some .cancelled => .finish ⟨shutdown, .cancelled⟩
  -- `raise`
  | some .ok => .finish ⟨shutdown, .cancelled⟩

/-- `serve`, once the await of the shield has an outcome. -/
def resume (frame : Frame) (running : Future ε) (o : Shield.Outcome ε) : Next Frame (Result ε) :=
  match frame.location, o with
  | .serving, .ok => .finish ⟨frame.shutdown, .returned⟩
  | .serving, .failed e => .finish ⟨frame.shutdown, .raised e⟩
  | .serving, .cancelled => cleanup true running
  | .cleaning, .failed e => .finish ⟨frame.shutdown, .raised e⟩
  -- the loop goes on, after `continue` or at the end of its body
  | .cleaning, .cancelled => cleanup frame.shutdown running
  | .cleaning, .ok => cleanup frame.shutdown running

/-- `serve` up to its first await; the shield of a future that is done is that future. -/
def start (running : Future ε) : Next Frame (Result ε) :=
  match running with
  | none => .await true ⟨.serving, false⟩
  | some o => resume ⟨.serving, false⟩ running o

/-- How `serve` ends after a cancellation: with the exception of the native future, or as cancelled. -/
def endingCancelled : Shield.Outcome ε → Ending ε
  | .failed e => .raised e
  | _ => .cancelled

theorem cleanup_some (shutdown : Bool) (o : Shield.Outcome ε) :
    cleanup shutdown (some o) = .finish ⟨shutdown, endingCancelled o⟩ := by
  cases o <;> rfl

/-- Once the native future is done, `serve` waits no more. -/
theorem resume_some (frame : Frame) (o value : Shield.Outcome ε) : ∃ r, resume frame (some o) value = .finish r := by
  obtain ⟨location, shutdown⟩ := frame
  cases location with
  | serving =>
    cases value with
    | ok => exact ⟨_, rfl⟩
    | failed e => exact ⟨_, rfl⟩
    | cancelled => exact ⟨_, cleanup_some true o⟩
  | cleaning =>
    cases value with
    | ok => exact ⟨_, cleanup_some shutdown o⟩
    | failed e => exact ⟨_, rfl⟩
    | cancelled => exact ⟨_, cleanup_some shutdown o⟩

def serve : Coroutine ε Frame (Result ε) where
  start := start
  resume := resume
  start_pending {o b s} h := by
    obtain ⟨r, hr⟩ := resume_some ⟨.serving, false⟩ o o
    cases hr.symm.trans h
  resume_pending {s o value b s'} h := by
    obtain ⟨r, hr⟩ := resume_some s o value
    cases hr.symm.trans h

/-! ### Runs -/

theorem serve_shields : (serve : Coroutine ε Frame (Result ε)).Shields := by
  have hcleanup : ∀ shutdown (running : Future ε), (cleanup shutdown running).Shielded := by
    intro shutdown running
    rcases running with _ | o
    · rfl
    · rw [cleanup_some]
      trivial
  have hresume : ∀ frame (running : Future ε) o, (resume frame running o).Shielded := by
    rintro ⟨location, shutdown⟩ running o
    cases location with
    | serving =>
      cases o with
      | ok => trivial
      | failed e => trivial
      | cancelled => exact hcleanup true running
    | cleaning =>
      cases o with
      | ok => exact hcleanup shutdown running
      | failed e => trivial
      | cancelled => exact hcleanup shutdown running
  refine ⟨fun running => ?_, hresume⟩
  rcases running with _ | o
  · rfl
  · exact hresume _ _ _

/-- `serve` waits for the cleanup exactly if a cancellation was delivered, with the shutdown event set. -/
def Waits (_ : Future ε) (delivered : ℕ) (frame : Frame) : Prop :=
  (frame.location = .cleaning ↔ 0 < delivered) ∧ (0 < delivered → frame.shutdown = true)

/-- `serve` has ended with the native future. -/
def Ended (running : Future ε) (delivered : ℕ) (r : Result ε) : Prop :=
  ∃ o, running = some o ∧ (0 < delivered → r.shutdown = true ∧ r.ending = endingCancelled o)

theorem cleanup_holds (running : Future ε) {delivered : ℕ} (h : 0 < delivered) :
    (cleanup true running).Holds Waits Ended running delivered := by
  rcases running with _ | o
  · exact ⟨iff_of_true rfl h, fun _ => rfl⟩
  · rw [cleanup_some]
    exact ⟨o, rfl, fun _ => ⟨rfl, rfl⟩⟩

/-- A cancellation sets the shutdown event and goes on waiting. -/
theorem resume_cancelled (running : Future ε) {delivered : ℕ} {frame : Frame} (h : Waits running delivered frame) :
    (resume frame running .cancelled).Holds Waits Ended running (delivered + 1) := by
  obtain ⟨location, shutdown⟩ := frame
  cases location with
  | serving => exact cleanup_holds running (Nat.succ_pos _)
  | cleaning =>
    obtain rfl : shutdown = true := h.2 (h.1.mp rfl)
    exact cleanup_holds running (Nat.succ_pos _)

/-- The outcome of the native future ends `serve`. -/
theorem resume_completed (o : Shield.Outcome ε) {delivered : ℕ} {frame : Frame} (h : Waits (some o) delivered frame) :
    (resume frame (some o) o).Holds Waits Ended (some o) delivered := by
  obtain ⟨location, shutdown⟩ := frame
  cases location with
  | serving =>
    have hzero : ¬ 0 < delivered := fun hpos => by cases h.1.mpr hpos
    obtain ⟨r, hr⟩ := resume_some ⟨.serving, shutdown⟩ o o
    rw [hr]
    exact ⟨o, rfl, fun hpos => absurd hpos hzero⟩
  | cleaning =>
    have hpos : 0 < delivered := h.1.mp rfl
    obtain rfl : shutdown = true := h.2 hpos
    cases o with
    | ok => exact cleanup_holds _ hpos
    | failed e => exact ⟨_, rfl, fun _ => ⟨rfl, rfl⟩⟩
    | cancelled => exact cleanup_holds _ hpos

theorem serve_invariant : Shield.Invariant Waits Ended (serve : Coroutine ε Frame (Result ε)) where
  start running := by
    have hserving : Waits running 0 ⟨.serving, false⟩ := ⟨by simp, by simp⟩
    rcases running with _ | o
    · exact hserving
    · exact resume_completed o hserving
  settle _ _ _ h := h
  settle_finished _ _ _ h := by
    obtain ⟨_, hnone, -⟩ := h
    cases hnone
  cancelled running _ _ h := resume_cancelled running h
  completed o _ _ h := resume_completed o h

/-- **Cancellation.**  Whatever cancellations are delivered, and whenever the native future is done: after the first
one `serve` waits with the shutdown event set, it does not cancel the native future and does not end before that is
done, and then it ends, with the exception of the native future if that failed and as cancelled otherwise. -/
theorem serve_cancellation (running : Future ε) (events : List (Shield.Event ε)) (s : Shield.State ε Frame (Result ε))
    (h : Shield.run serve (Shield.init serve running) events = some s) :
    s.innerCancelled = false ∧
      (∀ a, s.task = .suspended a → 0 < s.delivered → a.state.shutdown = true) ∧
      (∀ r, s.task = .finished r →
        ∃ o, s.inner = some o ∧ (0 < s.delivered → r.shutdown = true ∧ r.ending = endingCancelled o)) ∧
      ∀ a o, s.task = .suspended a → s.inner = some o →
        ∃ s' r, (Shield.run serve s [.wakeup] = some s' ∨ Shield.run serve s [.callback, .wakeup] = some s') ∧
          s'.task = .finished r := by
  obtain ⟨hinv, hholds⟩ := serve_invariant.run serve_shields h
  refine ⟨hinv.untouched, fun a ha => ?_, fun r hr => ?_, fun a o ha hdone => hinv.ends serve ha hdone⟩
  · rw [Shield.State.Holds, ha] at hholds
    exact hholds.2
  · rw [Shield.State.Holds, hr] at hholds
    exact hholds

/-- Cancelled twice, the second time before the native future fails. -/
theorem serve_cancellation_twice :
    ∃ s : Shield.State ℕ Frame (Result ℕ),
      Shield.run serve (Shield.init serve none) [.cancel, .wakeup, .cancel, .settle (.failed 7), .wakeup] = some s ∧
        s.delivered = 2 ∧ s.innerCancelled = false ∧ s.task = .finished ⟨true, .raised 7⟩ :=
  ⟨_, rfl, rfl, (serve_cancellation none [.cancel, .wakeup, .cancel, .settle (.failed 7), .wakeup] _ rfl).1, rfl⟩

end Pywire.ServeTask
