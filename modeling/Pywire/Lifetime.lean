import Pywire.Native
import Pywire.ServeTask

/-!
# Lifetime: a server from the call of `serve` to its end

The coroutine `pywire.server.serve` and the native future behind it share two things: the event `shutdown`, which the
coroutine sets and the accept loop waits for, and the outcome of the native future, which the coroutine awaits.

* `Server.ends_clean`: **Main result** — whatever is cancelled, and whatever the clients and callbacks do, `serve` ends
  as cancelled only when every connection has been cleaned up, its books in order, and otherwise raises what ended the
  server.
* `Server.can_end`: once its cancellation was requested, it can end without an answer to anything but the callbacks of
  closes.
-/

namespace Pywire

open Async Scram
open ServeTask (Frame Result Ending endingCancelled resume cleanup)

/-! ### The coroutine -/

section Coroutine

variable {ε : Type}

/-- How `serve` ends after so many cancellations. -/
def endingAfter (delivered : ℕ) (o : Shield.Outcome ε) : Ending ε :=
  if 0 < delivered then endingCancelled o
  else
    match o with
    | .ok => .returned
    | .failed e => .raised e
    | .cancelled => .cancelled

/-- The coroutine sets the event exactly when it is cancelled. -/
structure Told (_ : Shield.Future ε) (delivered : ℕ) (frame : Frame) : Prop where
  location : frame.location = .cleaning ↔ 0 < delivered
  shutdown : frame.shutdown = true ↔ 0 < delivered

def Over (running : Shield.Future ε) (delivered : ℕ) (r : Result ε) : Prop :=
  ∃ o, running = some o ∧ (o ≠ .cancelled → r.ending = endingAfter delivered o)

theorem told_cleanup (running : Shield.Future ε) {delivered : ℕ} (h : 0 < delivered) :
    (cleanup true running).Holds Told Over running delivered := by
  rcases running with _ | o
  · exact ⟨iff_of_true rfl h, iff_of_true rfl h⟩
  · rw [ServeTask.cleanup_some]
    exact ⟨o, rfl, fun _ => (if_pos h).symm⟩

theorem told_invariant : Shield.Invariant Told Over (ServeTask.serve : Shield.Coroutine ε Frame (Result ε)) where
  start running := by
    rcases running with _ | o
    · exact ⟨by simp, by simp⟩
    · cases o with
      | ok => exact ⟨_, rfl, fun _ => rfl⟩
      | failed e => exact ⟨_, rfl, fun _ => rfl⟩
      | cancelled => exact ⟨_, rfl, fun h => absurd rfl h⟩
  settle _ _ _ h := ⟨h.location, h.shutdown⟩
  settle_finished _ _ _ h := by
    obtain ⟨_, hnone, -⟩ := h
    cases hnone
  cancelled running delivered frame h := by
    obtain ⟨location, shutdown⟩ := frame
    cases location with
    | serving => exact told_cleanup running (Nat.succ_pos _)
    | cleaning =>
      obtain rfl : shutdown = true := h.shutdown.mpr (h.location.mp rfl)
      exact told_cleanup running (Nat.succ_pos _)
  completed o delivered frame h := by
    obtain ⟨location, shutdown⟩ := frame
    cases location with
    | serving =>
      have hzero : ¬ 0 < delivered := fun hpos => by cases h.location.mpr hpos
      cases o with
      | ok => exact ⟨_, rfl, fun _ => (if_neg hzero).symm⟩
      | failed e => exact ⟨_, rfl, fun _ => (if_neg hzero).symm⟩
      | cancelled => exact ⟨_, rfl, fun h => absurd rfl h⟩
    | cleaning =>
      have hpos : 0 < delivered := h.location.mp rfl
      obtain rfl : shutdown = true := h.shutdown.mpr hpos
      cases o with
      | ok => exact told_cleanup _ hpos
      | failed e => exact ⟨_, rfl, fun _ => (if_pos hpos).symm⟩
      | cancelled => exact told_cleanup _ hpos

end Coroutine

/-! ### The two together -/

/-- The coroutine with its future, and the native future behind it. -/
structure Server where
  python : Shield.State PyErr Frame (Result PyErr)
  native : Native

/-- The event `shutdown` is set. -/
def Server.shutdown (s : Server) : Bool :=
  match s.python.task with
  | .suspended a => a.state.shutdown
  | .finished r => r.shutdown

/-- What the Python future gets of the native one; a panic becomes an exception of the runtime. -/
inductive Settles : Outcome PyErr Unit → Shield.Outcome PyErr → Prop where
  | ok : Settles (.ok ()) .ok
  | err (e : PyErr) : Settles (.err e) (.failed e)
  | panic (e : PyErr) : Settles .panic (.failed e)

namespace Server

variable (X : Externals) (K : Crypto) (config : HandlerConfig)

/-- One step of the coroutine, of the native future, or of a connection whose task takes the steps `R`. -/
inductive Step (R : Task → Task → Prop) : Server → Server → Prop where
  | cancel (s : Server) : Step R s { s with python := s.python.cancel }
  | callback (s : Server) {p : Shield.State PyErr Frame (Result PyErr)} (hp : s.python.callback = some p) :
      Step R s { s with python := p }
  | wakeup (s : Server) {p : Shield.State PyErr Frame (Result PyErr)} (hp : s.python.wakeup ServeTask.serve = some p) :
      Step R s { s with python := p }
  | settle (s : Server) {r : Outcome PyErr Unit} {o : Shield.Outcome PyErr} (hr : s.native.phase = .ended r)
      (ho : Settles r o) (hpending : s.python.inner = none) :
      Step R s { s with python := { s.python with inner := some o } }
  /-- The accept loop is left on the event only if that is set. -/
  | native (s : Server) {n : Native} (hs : Native.Step X K config R s.native n)
      (hevent : n.phase = .draining → s.native.phase = .draining ∨ s.shutdown = true) : Step R s { s with native := n }

/-- The coroutine has called the native `serve` and awaits its future. -/
def start : Server := ⟨Shield.init ServeTask.serve none, ⟨.binding, []⟩⟩

/-- What a call of `serve` can come to. -/
def Reachable : Server → Prop := Relation.ReflTransGen (Step X K config Task.Step) start

variable {X K config} {s s' : Server}

/-- What holds of the two together. -/
structure Sound (X : Externals) (K : Crypto) (config : HandlerConfig) (s : Server) : Prop where
  shield : Shield.Inv s.python
  told : s.python.Holds Told Over
  native : Native.Reachable X K config s.native
  /-- The Python future is done when the native one is. -/
  settled : ∀ o, s.python.inner = some o → ∃ r, s.native.phase = .ended r ∧ Settles r o
  /-- The server stops only if it was told to. -/
  stopped : s.native.phase.Stopped → 0 < s.python.delivered

/-- A step of the coroutine leaves the native future alone, and forgets no cancellation. -/
theorem python_step {p p' : Shield.State PyErr Frame (Result PyErr)} (hp : Shield.Inv p) {e : Shield.Event PyErr}
    (hstep : Shield.step ServeTask.serve p e = some p') (he : ∀ o, e ≠ .settle o) :
    p'.inner = p.inner ∧ p.delivered ≤ p'.delivered := by
  cases e with
  | cancel =>
    obtain rfl := Option.some.inj hstep
    rcases hp.cancel_cases with heq | ⟨a, a', -, heq, -, -⟩
    · rw [heq]
      exact ⟨rfl, Nat.le_refl _⟩
    · rw [heq]
      exact ⟨rfl, Nat.le_refl _⟩
  | settle o => exact absurd rfl (he o)
  | callback =>
    obtain ⟨a, o, -, -, -, rfl⟩ := Shield.State.callback_eq_some hstep
    exact ⟨rfl, Nat.le_refl _⟩
  | wakeup =>
    obtain ⟨a, -, rfl | ⟨o, ho, rfl⟩⟩ := hp.wakeup hstep
    · exact ⟨rfl, Nat.le_succ _⟩
    · exact ⟨ho.symm, Nat.le_refl _⟩

theorem Sound.python (hs : s.Sound X K config) {p : Shield.State PyErr Frame (Result PyErr)} {e : Shield.Event PyErr}
    (hstep : Shield.step ServeTask.serve s.python e = some p) (he : ∀ o, e ≠ .settle o) :
    Sound X K config { s with python := p } := by
  obtain ⟨hinner, hdelivered⟩ := python_step hs.shield hstep he
  obtain ⟨hinv, htold⟩ := told_invariant.step ServeTask.serve_shields hs.shield hs.told hstep
  refine ⟨hinv, htold, hs.native, fun o ho => hs.settled o ?_, fun hstopped => Nat.lt_of_lt_of_le (hs.stopped hstopped)
    hdelivered⟩
  rw [← hinner]
  exact ho

/-- The event is set only after a cancellation, as long as the native future goes on. -/
theorem Sound.told_of_shutdown (hs : s.Sound X K config) (hshutdown : s.shutdown = true)
    (hrunning : ∀ r, s.native.phase ≠ .ended r) : 0 < s.python.delivered := by
  have htold := hs.told
  unfold Shield.State.Holds at htold
  unfold Server.shutdown at hshutdown
  cases htask : s.python.task with
  | suspended a =>
    rw [htask] at htold hshutdown
    exact htold.shutdown.mp hshutdown
  | finished r =>
    rw [htask] at htold
    obtain ⟨o, ho, -⟩ := htold
    obtain ⟨r, hr, -⟩ := hs.settled o ho
    exact absurd hr (hrunning r)

theorem Sound.step (hs : s.Sound X K config) (hstep : Step X K config Task.Step s s') : s'.Sound X K config := by
  cases hstep with
  | cancel => exact hs.python (e := .cancel) rfl (by simp)
  | callback hp => exact hs.python (e := .callback) hp (by simp)
  | wakeup hp => exact hs.python (e := .wakeup) hp (by simp)
  | @settle r o hr ho hpending =>
    have hsettle : Shield.step ServeTask.serve s.python (.settle o) = some { s.python with inner := some o } :=
      if_pos hpending
    obtain ⟨hinv, htold⟩ := told_invariant.step ServeTask.serve_shields hs.shield hs.told hsettle
    refine ⟨hinv, htold, hs.native, fun o' ho' => ?_, hs.stopped⟩
    obtain rfl := Option.some.inj ho'
    exact ⟨r, hr, ho⟩
  | @native n hn hevent =>
    refine ⟨hs.shield, hs.told, hs.native.tail hn, fun o ho => ?_, fun hstopped => ?_⟩
    · obtain ⟨r, hr, hsettles⟩ := hs.settled o ho
      exact ⟨r, hn.ended hr, hsettles⟩
    · rcases hstopped with hdraining | hend
      · rcases hevent hdraining with hbefore | hshutdown
        · exact hs.stopped (.inl hbefore)
        · refine hs.told_of_shutdown hshutdown fun r hr => ?_
          cases (hn.ended hr).symm.trans hdraining
      · exact hs.stopped (hn.returns hend)

theorem Reachable.sound (hr : Reachable X K config s) : s.Sound X K config := by
  induction hr with
  | refl =>
    refine ⟨Shield.Inv.enter (ServeTask.serve_shields.start _) _ _,
      Shield.State.holds_enter (told_invariant.start none), .refl, ?_, ?_⟩
    · rintro o ho
      cases ho
    · rintro (h | h) <;> cases h
  | tail _ hstep ih => exact ih.step hstep

/-- **Main result**: `serve` never returns.  It ends as cancelled, after a cancellation, once every connection has
been cleaned up; or it raises what ended the native future. -/
theorem ends_clean (hr : Reachable X K config s) {result : Result PyErr} (hend : s.python.task = .finished result) :
    (result.ending = .cancelled ∧ 0 < s.python.delivered ∧ s.native.phase = .ended (.ok ()) ∧
      ∀ c ∈ s.native.connections, ∃ w, c.task = .leaving (Prog.ofOutcome (.ok ())) w ∧ Accounted w.log) ∨
    ∃ e, result.ending = .raised e ∧ (s.native.phase = .ended (.err e) ∨ s.native.phase = .ended .panic) := by
  have hs := hr.sound
  have hover : Over s.python.inner s.python.delivered result := by
    have htold := hs.told
    rw [Shield.State.Holds, hend] at htold
    exact htold
  obtain ⟨o, ho, hending⟩ := hover
  obtain ⟨r, hphase, hsettles⟩ := hs.settled o ho
  cases hsettles with
  | ok =>
    have hdelivered := hs.stopped (.inr hphase)
    refine .inl ⟨?_, hdelivered, hphase, (Native.Sound.graceful hs.native.sound).complete hphase⟩
    rw [hending (by simp), endingAfter, if_pos hdelivered]
    rfl
  | err e => exact .inr ⟨e, by rw [hending (by simp), endingAfter]; split <;> rfl, .inl hphase⟩
  | panic e => exact .inr ⟨e, by rw [hending (by simp), endingAfter]; split <;> rfl, .inr hphase⟩

/-! ### The end can be reached -/

/-- The steps of a server that drains are steps of the whole. -/
theorem drain_steps {n n' : Native} (hs : Relation.ReflTransGen (Native.Step X K config Task.Alone) n n')
    (hstopped : n.phase.Stopped) (p : Shield.State PyErr Frame (Result PyErr)) :
    Relation.ReflTransGen (Step X K config Task.Alone) ⟨p, n⟩ ⟨p, n'⟩ := by
  induction hs with
  | refl => exact .refl
  | @tail n₁ n₂ hsteps hstep ih =>
    refine ih.tail (.native ⟨p, n₁⟩ hstep fun hdraining => .inl ?_)
    rcases Native.stopped_of_steps hsteps hstopped with h | h
    · exact h
    · cases (hstep.ended h).symm.trans hdraining

/-- Once the native future is done, the coroutine ends. -/
theorem Sound.finish (hs : s.Sound X K config) {r : Outcome PyErr Unit} (hr : s.native.phase = .ended r) :
    ∃ s' result, Relation.ReflTransGen (Step X K config Task.Alone) s s' ∧ s'.python.task = .finished result := by
  have ends : ∀ s : Server, s.Sound X K config → ∀ o, s.python.inner = some o →
      ∃ s' result, Relation.ReflTransGen (Step X K config Task.Alone) s s' ∧ s'.python.task = .finished result := by
    intro s hs o ho
    cases htask : s.python.task with
    | finished result => exact ⟨s, result, .refl, htask⟩
    | suspended a =>
      obtain ⟨p, result, hrun | hrun, hp⟩ := hs.shield.ends ServeTask.serve htask ho
      · obtain ⟨p1, hp1, hrun⟩ := Option.bind_eq_some_iff.mp hrun
        obtain rfl := Option.some.inj hrun
        exact ⟨_, result, .single (.wakeup s hp1), hp⟩
      · obtain ⟨p1, hp1, hrun⟩ := Option.bind_eq_some_iff.mp hrun
        obtain ⟨p2, hp2, hrun⟩ := Option.bind_eq_some_iff.mp hrun
        obtain rfl := Option.some.inj hrun
        exact ⟨_, result, (Relation.ReflTransGen.single (.callback s hp1)).tail
          (.wakeup { s with python := p1 } hp2), hp⟩
  cases hinner : s.python.inner with
  | some o => exact ends s hs o hinner
  | none =>
    have hsettle : ∃ o, Settles r o := by
      cases r with
      | ok u => exact ⟨_, .ok⟩
      | err e => exact ⟨_, .err e⟩
      | panic => exact ⟨_, .panic (runtimeError "rust future panicked")⟩
    obtain ⟨o, ho⟩ := hsettle
    have hstep : Step X K config Task.Step s { s with python := { s.python with inner := some o } } :=
      .settle s hr ho hinner
    obtain ⟨s', result, hsteps, hend⟩ := ends _ (hs.step hstep) o rfl
    exact ⟨s', result, .head (.settle s hr ho hinner) hsteps, hend⟩

/-- A server that was told to stop returns, and then the coroutine ends. -/
theorem Sound.drain (hs : s.Sound X K config) (hstopped : s.native.phase.Stopped) :
    ∃ s' result, Relation.ReflTransGen (Step X K config Task.Alone) s s' ∧ s'.python.task = .finished result := by
  obtain ⟨n, hn, hend⟩ := hs.native.exists_returned hstopped
  have hnative : Native.Reachable X K config n :=
    hs.native.trans (Relation.ReflTransGen.mono (fun _ _ h => h.of_alone) _ _ hn)
  have hn' : Sound X K config { s with native := n } := by
    refine ⟨hs.shield, hs.told, hnative, fun o ho => ?_, fun _ => hs.stopped hstopped⟩
    obtain ⟨r, hr, hsettles⟩ := hs.settled o ho
    rcases hstopped with h | h
    · cases hr.symm.trans h
    · obtain rfl : r = .ok () := by
        cases hr.symm.trans h
        rfl
      exact ⟨_, hend, hsettles⟩
  obtain ⟨s', result, hsteps, hfinished⟩ := hn'.finish hend
  exact ⟨s', result, (drain_steps hn hstopped s.python).trans hsteps, hfinished⟩

/-- A cancelled server that still accepts connections has its event set. -/
theorem Sound.shutdown_of_told (hs : s.Sound X K config) (htold : 0 < s.python.delivered)
    (hrunning : ∀ r, s.native.phase ≠ .ended r) : s.shutdown = true := by
  have hholds := hs.told
  unfold Shield.State.Holds at hholds
  unfold Server.shutdown
  cases htask : s.python.task with
  | suspended a =>
    rw [htask] at hholds
    exact hholds.shutdown.mpr htold
  | finished result =>
    rw [htask] at hholds
    obtain ⟨o, ho, -⟩ := hholds
    obtain ⟨r, hr, -⟩ := hs.settled o ho
    exact absurd hr (hrunning r)

/-- A cancelled server leaves its accept loop. -/
theorem Sound.leave (hs : s.Sound X K config) (htold : 0 < s.python.delivered) (haccepting : s.native.phase = .accepting) :
    ∃ s' result, Relation.ReflTransGen (Step X K config Task.Alone) s s' ∧ s'.python.task = .finished result := by
  have hshutdown := hs.shutdown_of_told htold fun r hr => by cases haccepting.symm.trans hr
  obtain ⟨python, phase, cs⟩ := s
  obtain rfl : phase = .accepting := haccepting
  have hstep : ∀ R, Step X K config R ⟨python, .accepting, cs⟩ ⟨python, .draining, cs⟩ := fun R =>
    .native _ (.leave cs (.shutdown (.ok ())) rfl) fun _ => .inr hshutdown
  obtain ⟨s', result, hsteps, hend⟩ := (hs.step (hstep Task.Step)).drain (.inl rfl)
  exact ⟨s', result, .head (hstep Task.Alone) hsteps, hend⟩

theorem Sound.exists_end (hs : s.Sound X K config) (htold : 0 < s.python.delivered) :
    ∃ s' result, Relation.ReflTransGen (Step X K config Task.Alone) s s' ∧ s'.python.task = .finished result := by
  cases hphase : s.native.phase with
  | ended r => exact hs.finish hphase
  | draining => exact hs.drain (.inl hphase)
  | accepting => exact hs.leave htold hphase
  | binding =>
    obtain ⟨python, phase, cs⟩ := s
    obtain rfl : phase = .binding := hphase
    obtain rfl : cs = [] := by
      refine List.eq_nil_iff_forall_not_mem.mpr fun c hc => ?_
      have hholds := (hs.native.sound c hc).holds
      cases c.hold <;> exact hholds
    have hstep : ∀ R, Step X K config R ⟨python, .binding, []⟩ ⟨python, .accepting, []⟩ := fun R =>
      .native _ .bound fun hdraining => by cases hdraining
    obtain ⟨s', result, hsteps, hend⟩ := (hs.step (hstep Task.Step)).leave htold rfl
    exact ⟨s', result, .head (hstep Task.Alone) hsteps, hend⟩

theorem Step.of_alone (hs : Step X K config Task.Alone s s') : Step X K config Task.Step s s' := by
  cases hs with
  | cancel => exact .cancel s
  | callback hp => exact .callback s hp
  | wakeup hp => exact .wakeup s hp
  | settle hr ho hpending => exact .settle s hr ho hpending
  | native hn hevent => exact .native s hn.of_alone hevent

/-- `serve` is cancelled before its listener is bound. -/
theorem reachable_cancelled (X : Externals) (K : Crypto) (config : HandlerConfig) :
    Reachable X K config ⟨⟨none, false, 1, .suspended ⟨⟨.cleaning, true⟩, some none, false, false⟩⟩, ⟨.binding, []⟩⟩ :=
  ((Relation.ReflTransGen.single (.cancel start)).tail (.wakeup _ rfl))

theorem ends_clean_cancelled : ∃ (s : Server) (result : Result PyErr), s.python.task = .finished result ∧
    ((result.ending = .cancelled ∧ 0 < s.python.delivered ∧ s.native.phase = .ended (.ok ()) ∧
      ∀ c ∈ s.native.connections, ∃ w, c.task = .leaving (Prog.ofOutcome (.ok ())) w ∧ Accounted w.log) ∨
    ∃ e, result.ending = .raised e ∧ (s.native.phase = .ended (.err e) ∨ s.native.phase = .ended .panic)) := by
  have hr := reachable_cancelled (.certified .rsaSha256) default (trustingConfig true)
  obtain ⟨s, result, hs, hend⟩ := hr.sound.exists_end Nat.one_pos
  exact ⟨s, result, hend, ends_clean (hr.trans (Relation.ReflTransGen.mono (fun _ _ h => h.of_alone) _ _ hs)) hend⟩

end Server

end Pywire
