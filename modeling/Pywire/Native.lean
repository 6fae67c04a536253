import Pywire.Lib.Pool
import Pywire.Orphan
import Pywire.Serve

/-!
# Native: the future behind `serve`

The native future binds its listener and runs the accept loop.  Every socket gets a task in a `JoinSet`; on the
shutdown event the listener is dropped, the tasks are told to stop, and the future waits until the last one is
joined.  On an error the `JoinSet` is dropped, which aborts the tasks: each is dropped where it waits next, and
`Drop` closes what it left open.

* `Native.shutdown_complete`: **Main result** — when the future returns, every connection that was ever accepted has
  been cleaned up, with its books in order, and until then no close was abandoned.
* `Native.Reachable.simulated`: whatever the connections do, the future refines `acceptLoop`.
* `Native.ends_on_request`: for the arguments that `serve` admits, but for certificates whose handlers cannot be built,
  once it listens, it ends only on the shutdown event or on a failure of the event or of `accept`.
* `Native.drains`: once it was told to stop, the future returns, whatever the clients do; only the callbacks of
  closes have to return.
-/

namespace Pywire

open Async Scram

/-! ### Connections -/

def Task.world : Task → WireWorld
  | .serving _ w _ => w
  | .leaving _ w => w

/-- The task has heard the stop signal. -/
def Task.stopping : Task → Bool
  | .serving _ _ stop => stop
  | .leaving _ _ => false

def Task.Ended (t : Task) : Prop := ∃ o w, t = .leaving (Prog.ofOutcome o) w

/-- The task waits, and can be dropped there. -/
inductive Task.Waits : Task → Prop where
  | serving (c : Call) (k : ℕ → c.Reply → Proc Unit) (w : WireWorld) (stop : Bool) (hc : c.isAwait = true) :
      Waits (.serving (.call c k) w stop)
  | leaving (c : Call) (k : ℕ → c.Reply → Proc Unit) (w : WireWorld) (hc : c.isAwait = true) :
      Waits (.leaving (.call c k) w)

/-- What the server has to do with a task. -/
inductive Hold where
  /-- The task is in the `JoinSet`. -/
  | kept
  | joined
  /-- The `JoinSet` was dropped. -/
  | aborted
  /-- The task was dropped in this state, and what `Drop` spawned runs on its own. -/
  | dropped (at_ : Task)

/-- A client and what serves it. -/
structure Connection where
  secure : Bool
  host : String
  messages : List PgWireFrontendMessage
  task : Task
  hold : Hold

namespace Connection

def accept (K : Crypto) (h : PyServerHandlers) (secure : Bool) (host : String)
    (messages : List PgWireFrontendMessage) : Connection :=
  ⟨secure, host, messages, .serving (h.processSocket K messages) (freshWorld secure host) false, .kept⟩

def inSet (c : Connection) : Bool :=
  match c.hold with
  | .kept => true
  | _ => false

def abort (c : Connection) : Connection := if c.inSet then { c with hold := .aborted } else c

/-- One step of a connection whose task takes the steps `R`; `sent` says that the stop signal was sent. -/
inductive Step (R : Task → Task → Prop) (sent : Bool) : Connection → Connection → Prop where
  | runs (c : Connection) {t : Task} (hs : R c.task t) (hsignal : t.stopping = true → c.task.stopping = true ∨ sent = true) :
      Step R sent c { c with task := t }
  | joins (c : Connection) (hhold : c.hold = .kept) (hend : c.task.Ended) : Step R sent c { c with hold := .joined }
  | drops (c : Connection) (hhold : c.hold = .aborted) (hwaits : c.task.Waits) :
      Step R sent c { c with task := .leaving PythonPortals.drop c.task.world, hold := .dropped c.task }

end Connection

/-! ### The future -/

inductive Native.Phase where
  | binding
  | accepting
  | draining
  | ended (result : Outcome PyErr Unit)

/-- The tasks hear the stop signal, or that its sender is gone. -/
def Native.Phase.sent : Native.Phase → Bool
  | .binding => false
  | .accepting => false
  | .draining => true
  | .ended _ => true

structure Native where
  phase : Native.Phase
  /-- All connections that were accepted. -/
  connections : List Connection

namespace Native

def bindError (addr e : String) : PyErr := osError ("bind " ++ addr ++ " failed: " ++ e)

/-- The number of tasks in the `JoinSet`. -/
def inSet (cs : List Connection) : ℕ := cs.countP Connection.inSet

/-- The future goes on after its loop, or ends with an error and drops the `JoinSet`. -/
def leave (exit : Exit) (cs : List Connection) : Native :=
  match exit with
  | .stopped => ⟨.draining, cs⟩
  | .shutdownFailed e => ⟨.ended (.err e), cs.map Connection.abort⟩
  | .acceptFailed e => ⟨.ended (.err e), cs.map Connection.abort⟩
  | .buildFailed e => ⟨.ended (.err e), cs.map Connection.abort⟩
  | .panicked => ⟨.ended .panic, cs.map Connection.abort⟩

variable (X : Externals) (K : Crypto) (config : HandlerConfig)

/-- One step of the future or of a connection whose task takes the steps `R`. -/
inductive Step (R : Task → Task → Prop) : Native → Native → Prop where
  | bound : Step R ⟨.binding, []⟩ ⟨.accepting, []⟩
  | bindFailed (addr e : String) :
      Step R ⟨.binding, []⟩ ⟨.ended (.err (bindError addr e)), []⟩
  | accept (cs : List Connection) {h : PyServerHandlers} (hb : config.build X.configureCertificate = .ok h)
      (secure : Bool) (host : String) (messages : List PgWireFrontendMessage) :
      Step R ⟨.accepting, cs⟩ ⟨.accepting, cs ++ [Connection.accept K h secure host messages]⟩
  | leave (cs : List Connection) (turn : Turn) {exit : Exit}
      (hturn : AcceptLoop.turn X config (inSet cs) turn = .ended exit) : Step R ⟨.accepting, cs⟩ (leave exit cs)
  | connection {phase : Phase} {cs cs' : List Connection} (hs : Pool.Step (Connection.Step R phase.sent) cs cs') :
      Step R ⟨phase, cs⟩ ⟨phase, cs'⟩
  | drained (cs : List Connection) (hempty : inSet cs = 0) : Step R ⟨.draining, cs⟩ ⟨.ended (.ok ()), cs⟩

/-- What the server can come to, whatever its clients, its callbacks and its listener do. -/
def Reachable : Native → Prop := Relation.ReflTransGen (Step X K config Task.Step) ⟨.binding, []⟩

/-! ### The loop -/

theorem acceptLoop_concat {X : Externals} {config : HandlerConfig} {turns : List Turn} {n m : ℕ}
    (h : acceptLoop X config n turns = .running m) (t : Turn) :
    acceptLoop X config n (turns ++ [t]) = AcceptLoop.turn X config m t := by
  induction turns generalizing n with
  | nil =>
    obtain rfl := AcceptLoop.running.inj h
    rw [List.nil_append, acceptLoop]
    cases AcceptLoop.turn X config n t with
    | running m => rfl
    | ended exit => rfl
  | cons t' turns ih =>
    rw [List.cons_append, acceptLoop]
    rw [acceptLoop] at h
    rcases hturn : AcceptLoop.turn X config n t' with m' | exit
    · rw [hturn] at h
      exact ih h
    · rw [hturn] at h
      cases h

section Loop

variable {X K config} {R : Task → Task → Prop} {sent : Bool} {cs cs' : List Connection} {s : Native}

/-- A step of a connection takes at most its own task out of the `JoinSet`. -/
theorem inSet_step (hs : Pool.Step (Connection.Step R sent) cs cs') : inSet cs' = inSet cs ∨ inSet cs' = inSet cs - 1 := by
  cases hs with
  | task l₁ l₂ hstep =>
    simp only [inSet, List.countP_append, List.countP_cons]
    cases hstep with
    | runs => exact .inl rfl
    | joins hhold =>
      refine .inr ?_
      simp [Connection.inSet, hhold]
    | drops hhold =>
      refine .inl ?_
      simp [Connection.inSet, hhold]

/-- What the future returns or raises for a way out of its loop. -/
def outcomeOf : Exit → Outcome PyErr Unit
  | .stopped => .ok ()
  | .shutdownFailed e => .err e
  | .acceptFailed e => .err e
  | .buildFailed e => .err e
  | .panicked => .panic

/-- The phase is that of `acceptLoop` after some turns, and the `JoinSet` is as large as it says. -/
def Simulated (X : Externals) (config : HandlerConfig) (s : Native) : Prop :=
  match s.phase with
  | .binding => s.connections = []
  | .accepting => ∃ turns, acceptLoop X config 0 turns = .running (inSet s.connections)
  | .draining => ∃ turns, acceptLoop X config 0 turns = .ended .stopped
  | .ended r => (∃ addr e, r = .err (bindError addr e) ∧ s.connections = []) ∨
      ∃ turns exit, acceptLoop X config 0 turns = .ended exit ∧ r = outcomeOf exit

theorem Simulated.step (hs : s.Simulated X config) (hstep : Step X K config R s s') : s'.Simulated X config := by
  cases hstep with
  | bound => exact ⟨[], rfl⟩
  | bindFailed addr e => exact .inl ⟨addr, e, rfl, rfl⟩
  | accept cs hb =>
    obtain ⟨turns, hturns⟩ := hs
    refine ⟨turns ++ [.accept (.ok ())], ?_⟩
    rw [acceptLoop_concat hturns]
    simp [AcceptLoop.turn, hb, inSet, Connection.inSet, Connection.accept]
  | @leave cs turn exit hturn =>
    obtain ⟨turns, hturns⟩ := hs
    have hended := (acceptLoop_concat hturns turn).trans hturn
    cases exit with
    | stopped => exact ⟨_, hended⟩
    | _ => exact .inr ⟨_, _, hended, rfl⟩
  | @connection phase cs cs' hpool =>
    cases phase with
    | binding => exact absurd hs hpool.ne_nil
    | accepting =>
      obtain ⟨turns, hturns⟩ := hs
      rcases inSet_step hpool with heq | heq
      · exact ⟨turns, by rw [heq]; exact hturns⟩
      · refine ⟨turns ++ [.joined], ?_⟩
        rw [acceptLoop_concat hturns, heq]
        rfl
    | draining => exact hs
    | ended r =>
      rcases hs with ⟨addr, e, hr, hnil⟩ | hended
      · exact absurd hnil hpool.ne_nil
      · exact .inr hended
  | drained cs =>
    obtain ⟨turns, hturns⟩ := hs
    exact .inr ⟨turns, .stopped, hturns, rfl⟩

end Loop

/-! ### What holds of every connection -/

/-- How the tasks are held in a phase. -/
def Phase.Holds : Phase → Hold → Prop
  | .accepting, .kept => True
  | .accepting, .joined => True
  | .draining, .kept => True
  | .draining, .joined => True
  | .ended _, .joined => True
  | .ended (.err _), .aborted => True
  | .ended (.err _), .dropped _ => True
  | .ended .panic, .aborted => True
  | .ended .panic, .dropped _ => True
  | _, _ => False

end Native

/-- A connection runs as `Reachable` says, up to where it is dropped. -/
def Connection.Follows (K : Crypto) (h : PyServerHandlers) (c : Connection) : Prop :=
  match c.hold with
  | .kept => h.Reachable K c.secure c.host c.messages c.task
  | .joined => h.Reachable K c.secure c.host c.messages c.task ∧ c.task.Ended
  | .aborted => h.Reachable K c.secure c.host c.messages c.task
  | .dropped t => h.Reachable K c.secure c.host c.messages t ∧ t.Waits ∧
      Relation.ReflTransGen Task.Step (.leaving PythonPortals.drop t.world) c.task

/-- What holds of a connection in a phase of the server. -/
structure Connection.Sound (X : Externals) (K : Crypto) (config : HandlerConfig) (phase : Native.Phase)
    (c : Connection) : Prop where
  follows : ∃ h, config.build X.configureCertificate = .ok h ∧ c.Follows K h
  holds : phase.Holds c.hold
  unstopped : phase.sent = false → c.task.stopping = false

section Sound

variable {X : Externals} {K : Crypto} {config : HandlerConfig} {phase : Native.Phase} {c c' : Connection}

theorem Task.Ended.stuck {t t' : Task} (ht : t.Ended) : ¬ Task.Step t t' := by
  obtain ⟨o, w, rfl⟩ := ht
  intro hs
  cases hs with
  | cleanup hs => cases o <;> cases hs

theorem Connection.Follows.step {h : PyServerHandlers} {sent : Bool} (hc : c.Follows K h)
    (hs : Connection.Step Task.Step sent c c') : c'.Follows K h := by
  cases hs with
  | runs hs =>
    unfold Connection.Follows at hc ⊢
    dsimp only
    cases hhold : c.hold with
    | kept =>
      rw [hhold] at hc
      exact hc.tail hs
    | joined =>
      rw [hhold] at hc
      exact absurd hs hc.2.stuck
    | aborted =>
      rw [hhold] at hc
      exact hc.tail hs
    | dropped t =>
      rw [hhold] at hc
      exact ⟨hc.1, hc.2.1, hc.2.2.tail hs⟩
  | joins hhold hend =>
    unfold Connection.Follows at hc ⊢
    rw [hhold] at hc
    exact ⟨hc, hend⟩
  | drops hhold hwaits =>
    unfold Connection.Follows at hc ⊢
    rw [hhold] at hc
    exact ⟨hc, hwaits, .refl⟩

theorem Native.Phase.holds_joined {phase : Native.Phase} (h : phase.Holds .kept) : phase.Holds .joined := by
  cases phase with
  | binding => exact h
  | accepting => trivial
  | draining => trivial
  | ended r => trivial

theorem Native.Phase.holds_dropped {phase : Native.Phase} (h : phase.Holds .aborted) (t : Task) :
    phase.Holds (.dropped t) := by
  cases phase with
  | ended r => cases r <;> exact h
  | _ => exact h

theorem Connection.Sound.step (hc : c.Sound X K config phase) (hs : Connection.Step Task.Step phase.sent c c') :
    c'.Sound X K config phase := by
  obtain ⟨⟨h, hb, hfollows⟩, hholds, hunstopped⟩ := hc
  refine ⟨⟨h, hb, hfollows.step hs⟩, ?_, fun hsent => ?_⟩
  · cases hs with
    | runs => exact hholds
    | joins hhold => exact Native.Phase.holds_joined (hhold ▸ hholds)
    | drops hhold => exact Native.Phase.holds_dropped (hhold ▸ hholds) _
  · cases hs with
    | runs hs hsignal =>
      by_contra hstop
      rcases hsignal (by simpa using hstop) with hbefore | hsent'
      · rw [hunstopped hsent] at hbefore
        cases hbefore
      · rw [hsent] at hsent'
        cases hsent'
    | joins => exact hunstopped hsent
    | drops => rfl

theorem Connection.Sound.accept {h : PyServerHandlers} (hb : config.build X.configureCertificate = .ok h)
    (secure : Bool) (host : String) (messages : List PgWireFrontendMessage) :
    (Connection.accept K h secure host messages).Sound X K config .accepting :=
  ⟨⟨h, hb, .refl⟩, trivial, fun _ => rfl⟩

/-- Aborting a task takes it out of the `JoinSet`, and does no more. -/
theorem Connection.Sound.abort {r : Outcome PyErr Unit} (hr : r ≠ .ok ()) (hc : c.Sound X K config .accepting) :
    c.abort.Sound X K config (.ended r) := by
  obtain ⟨⟨h, hb, hfollows⟩, hholds, -⟩ := hc
  obtain ⟨secure, host, messages, task, hold⟩ := c
  cases hold with
  | kept =>
    refine ⟨⟨h, hb, hfollows⟩, ?_, by simp [Native.Phase.sent]⟩
    cases r with
    | ok => exact absurd rfl hr
    | err e => trivial
    | panic => trivial
  | joined => exact ⟨⟨h, hb, hfollows⟩, trivial, by simp [Native.Phase.sent]⟩
  | aborted => cases hholds
  | dropped t => cases hholds

end Sound

namespace Native

section Runs

variable {X : Externals} {K : Crypto} {config : HandlerConfig} {s s' : Native}

def Sound (X : Externals) (K : Crypto) (config : HandlerConfig) (s : Native) : Prop :=
  ∀ c ∈ s.connections, c.Sound X K config s.phase

theorem Sound.step (hs : s.Sound X K config) (hstep : Step X K config Task.Step s s') : s'.Sound X K config := by
  cases hstep with
  | bound => exact fun c hc => by cases hc
  | bindFailed => exact fun c hc => by cases hc
  | accept cs hb secure host messages =>
    intro c hc
    rcases List.mem_append.mp hc with hc | hc
    · exact hs c hc
    · obtain rfl := List.mem_singleton.mp hc
      exact .accept hb secure host messages
  | @leave cs turn exit hturn =>
    have aborted : ∀ r : Outcome PyErr Unit, r ≠ .ok () → Sound X K config ⟨.ended r, cs.map Connection.abort⟩ := by
      intro r hr c' hc'
      obtain ⟨c, hc, rfl⟩ := List.mem_map.mp hc'
      exact (hs c hc).abort hr
    cases exit with
    | stopped =>
      intro c hc
      obtain ⟨hfollows, hholds, -⟩ := hs c hc
      refine ⟨hfollows, ?_, by simp [Native.leave, Phase.sent]⟩
      cases hhold : c.hold <;> rw [hhold] at hholds <;> exact hholds
    | shutdownFailed e => exact aborted _ (by simp)
    | acceptFailed e => exact aborted _ (by simp)
    | buildFailed e => exact aborted _ (by simp)
    | panicked => exact aborted _ (by simp)
  | connection hpool => exact hpool.forall_mem (fun c c' hstep hc => hc.step hstep) hs
  | drained cs hempty =>
    intro c hc
    obtain ⟨hfollows, hholds, -⟩ := hs c hc
    refine ⟨hfollows, ?_, by simp [Phase.sent]⟩
    have hkept : ¬ c.inSet = true := List.countP_eq_zero.mp hempty c hc
    cases hhold : c.hold with
    | kept => exact absurd (by rw [Connection.inSet, hhold]) hkept
    | joined => trivial
    | aborted =>
      rw [hhold] at hholds
      exact hholds
    | dropped t =>
      rw [hhold] at hholds
      exact hholds

theorem Reachable.sound (hr : Reachable X K config s) : s.Sound X K config := by
  induction hr with
  | refl => exact fun c hc => by cases hc
  | tail _ hstep ih => exact ih.step hstep

end Runs

/-! ### The end of the server -/

section Complete

variable {X : Externals} {K : Crypto} {config : HandlerConfig} {s : Native}

/-- What is promised of every state of the server. -/
structure Graceful (s : Native) : Prop where
  /-- Nobody is told to stop before the server is. -/
  unstopped : s.phase.sent = false → ∀ c ∈ s.connections, c.task.stopping = false
  /-- No task in the `JoinSet` abandons a close. -/
  safe : ∀ c ∈ s.connections, c.hold = .kept → c.task.Safe
  /-- Once the future has returned, everything has been cleaned up. -/
  complete : s.phase = .ended (.ok ()) → ∀ c ∈ s.connections,
    ∃ w, c.task = .leaving (Prog.ofOutcome (.ok ())) w ∧ Accounted w.log

theorem Sound.graceful (hsound : s.Sound X K config) : s.Graceful := by
  refine ⟨fun hsent c hc => (hsound c hc).unstopped hsent, fun c hc hkept => ?_, fun hend c hc => ?_⟩
  · obtain ⟨h, hb, hfollows⟩ := (hsound c hc).follows
    rw [Connection.Follows, hkept] at hfollows
    exact (hfollows.sound (HandlerConfig.wired hb)).safe
  · obtain ⟨⟨h, hb, hfollows⟩, hholds, -⟩ := hsound c hc
    rw [hend] at hholds
    cases hhold : c.hold with
    | joined =>
      rw [Connection.Follows, hhold] at hfollows
      obtain ⟨hreach, o, w, htask⟩ := hfollows
      rw [htask] at hreach
      obtain ⟨rfl, haccounted⟩ := PyServerHandlers.stopped_accounted K hb _ _ _ hreach
      exact ⟨w, htask, haccounted⟩
    | kept =>
      rw [hhold] at hholds
      cases hholds
    | aborted =>
      rw [hhold] at hholds
      cases hholds
    | dropped t =>
      rw [hhold] at hholds
      cases hholds

/-- **Main result**: whatever its clients do, when the server returns nothing is left of their connections. -/
theorem shutdown_complete (hr : Reachable X K config s) : s.Graceful := hr.sound.graceful

end Complete

end Native

/-! ### Draining -/

/-- `process_socket` gets an answer, from the client or from a callback that closes nothing. -/
inductive Task.Answered : Task → Task → Prop where
  | answer (c : Call) (k : ℕ → c.Reply → Proc Unit) (w : WireWorld) (stop : Bool) (t' : Proc Unit) (w' : WireWorld)
      (hc : c.isAwait = true) (hclose : c.isClose = false) : Answered (.serving (.call c k) w stop) (.serving t' w' stop)

/-- A step that needs no such answer. -/
def Task.Alone (s s' : Task) : Prop := Step s s' ∧ ¬ Answered s s'

/-- A task that was told to stop comes to its end alone. -/
theorem Task.Sound.alone {h : PyServerHandlers} {s : Task} (hs : s.Sound h) :
    (∃ s', Task.Alone s s') ∨ s.Ended := by
  cases hs with
  | serving t w stop rest allowed =>
    refine .inl ?_
    cases t with
    | ret a => exact ⟨_, .finished (.ok a) w stop (by simp), fun hans => by cases hans⟩
    | fail e => exact rest.elim
    | panic => exact ⟨_, .unwinds w stop, fun hans => by cases hans⟩
    | step f k => exact ⟨_, .socket stop (.step f k w) (by simp), fun hans => by cases hans⟩
    | note n t => exact ⟨_, .socket stop (.note n t w) (by simp), fun hans => by cases hans⟩
    | call c k =>
      by_cases houtside : c.isAwait = true ∧ c.isClose = false
      · -- nobody holds the mutex, so that the stop branch can win
        have hfree : w.st.resources.closing = false := rest.1.locked.trans houtside.2
        cases stop with
        | false => exact ⟨_, .signal _ w, fun hans => by cases hans⟩
        | true => exact ⟨_, .stop c k w houtside.1 hfree, fun hans => by cases hans⟩
      · refine ⟨_, .socket stop (.call c k w (agreeable [] c)) ?_, fun hans => ?_⟩
        · intro k' he
          cases he
          exact rest.1.locked
        · cases hans with
          | answer _ _ _ _ _ _ hc hclose => exact houtside ⟨hc, hclose⟩
  | leaving t w rest =>
    cases t with
    | ret a => exact .inr ⟨.ok a, w, rfl⟩
    | fail e => cases rest.1
    | panic => cases rest.1
    | step f k => exact .inl ⟨_, .cleanup (.step f k w), fun hans => by cases hans⟩
    | note n t => exact .inl ⟨_, .cleanup (.note n t w), fun hans => by cases hans⟩
    | call c k => exact .inl ⟨_, .cleanup (.call c k w (agreeable [] c)), fun hans => by cases hans⟩

/-- The tasks of the `JoinSet` before those that are joined, those to be aborted before those that were dropped. -/
def Hold.rank : Hold → ℕ
  | .kept => 1
  | .joined => 0
  | .aborted => 1
  | .dropped _ => 0

theorem Connection.wellFounded_step (sent : Bool) : WellFounded fun c' c => Connection.Step Task.Step sent c c' := by
  refine Subrelation.wf (r := InvImage (Prod.Lex (· < ·) fun s' s => Task.Step s s')
    fun c : Connection => (c.hold.rank, c.task)) ?_ (InvImage.wf _ (WellFounded.prod_lex wellFounded_lt
      Task.wellFounded_step))
  intro c' c hs
  cases hs with
  | runs hs => exact .right _ hs
  | joins hhold => exact .left _ _ (by simp [Hold.rank, hhold])
  | drops hhold => exact .left _ _ (by simp [Hold.rank, hhold])

theorem Connection.Step.mono {R R' : Task → Task → Prop} (h : ∀ t t', R t t' → R' t t') {sent : Bool}
    {c c' : Connection} (hs : Connection.Step R sent c c') : Connection.Step R' sent c c' := by
  cases hs with
  | runs hs hsignal => exact .runs c (h _ _ hs) hsignal
  | joins hhold hend => exact .joins c hhold hend
  | drops hhold hwaits => exact .drops c hhold hwaits

namespace Native

section Drains

variable {X : Externals} {K : Crypto} {config : HandlerConfig} {R : Task → Task → Prop} {s s' : Native}

def Phase.rank : Phase → ℕ
  | .binding => 3
  | .accepting => 2
  | .draining => 1
  | .ended _ => 0

/-- Once the stop signal was sent, no connection is accepted any more. -/
theorem Step.of_sent (hs : Step X K config R s s') (hsent : s.phase.sent = true) :
    s'.phase.sent = true ∧ (s'.phase.rank < s.phase.rank ∨
      s'.phase = s.phase ∧ Pool.Step (Connection.Step R true) s.connections s'.connections) := by
  cases hs with
  | bound => cases hsent
  | bindFailed => cases hsent
  | accept => cases hsent
  | leave => cases hsent
  | connection hpool => exact ⟨hsent, .inr ⟨rfl, by rwa [hsent] at hpool⟩⟩
  | drained => exact ⟨rfl, .inl (by simp [Phase.rank])⟩

/-- **A server that was told to stop does not run forever**. -/
theorem acc_of_sent (hsent : s.phase.sent = true) : Acc (fun s' s => Step X K config Task.Step s s') s := by
  have hwf : WellFounded (InvImage (Prod.Lex (· < ·) fun cs' cs => Pool.Step (Connection.Step Task.Step true) cs cs')
      fun s : Native => (s.phase.rank, s.connections)) :=
    InvImage.wf _ (WellFounded.prod_lex wellFounded_lt (Pool.wellFounded_step (Connection.wellFounded_step true)))
  induction s using hwf.induction with
  | _ s ih =>
    refine ⟨_, fun s' hs => ?_⟩
    obtain ⟨hsent', hlt⟩ := hs.of_sent hsent
    refine ih s' ?_ hsent'
    rcases hlt with hlt | ⟨hphase, hpool⟩
    · exact .left _ _ hlt
    · show Prod.Lex _ _ (s'.phase.rank, s'.connections) (s.phase.rank, s.connections)
      rw [hphase]
      exact .right _ hpool

/-- The server waits for the tasks that it told to stop, and returns. -/
def Phase.Stopped (phase : Phase) : Prop := phase = .draining ∨ phase = .ended (.ok ())

theorem Step.stopped (hs : Step X K config R s s') (hstopped : s.phase.Stopped) : s'.phase.Stopped := by
  cases hs with
  | connection => exact hstopped
  | drained => exact .inr rfl
  | _ => rcases hstopped with h | h <;> cases h

theorem Step.ended {r : Outcome PyErr Unit} (hs : Step X K config R s s') (hend : s.phase = .ended r) :
    s'.phase = .ended r := by
  cases hs with
  | connection => exact hend
  | _ => cases hend

/-- The future returns only after it was told to stop. -/
theorem Step.returns (hs : Step X K config R s s') (hend : s'.phase = .ended (.ok ())) : s.phase.Stopped := by
  cases hs with
  | connection => exact .inr hend
  | drained => exact .inl rfl
  | @leave cs turn exit hturn => cases exit <;> cases hend
  | _ => cases hend

/-- A server that waits for its tasks gets ahead without them being answered. -/
theorem Reachable.alone (hr : Reachable X K config s) (hdraining : s.phase = .draining) :
    ∃ s', Step X K config Task.Alone s s' := by
  have hsound := hr.sound
  obtain ⟨phase, cs⟩ := s
  obtain rfl : phase = .draining := hdraining
  by_cases hempty : inSet cs = 0
  · exact ⟨_, .drained cs hempty⟩
  · obtain ⟨c, hc, hin⟩ := List.countP_pos_iff.mp (Nat.pos_of_ne_zero hempty)
    have hkept : c.hold = .kept := by
      cases hhold : c.hold <;> simp [Connection.inSet, hhold] at hin
      rfl
    obtain ⟨h, hb, hfollows⟩ := (hsound c hc).follows
    rw [Connection.Follows, hkept] at hfollows
    have hstep : ∃ c', Connection.Step Task.Alone true c c' := by
      rcases (hfollows.sound (HandlerConfig.wired hb)).alone with ⟨t, ht⟩ | hend
      · exact ⟨_, .runs c ht fun _ => .inr rfl⟩
      · exact ⟨_, .joins c hkept hend⟩
    obtain ⟨c', hc'⟩ := hstep
    obtain ⟨cs', hcs'⟩ := Pool.exists_step hc hc'
    have hpool : Pool.Step (Connection.Step Task.Alone Phase.draining.sent) cs cs' := hcs'
    exact ⟨_, .connection hpool⟩

theorem Step.mono {R' : Task → Task → Prop} (h : ∀ t t', R t t' → R' t t') (hs : Step X K config R s s') :
    Step X K config R' s s' := by
  cases hs with
  | bound => exact .bound
  | bindFailed addr e => exact .bindFailed addr e
  | accept cs hb secure host messages => exact .accept cs hb secure host messages
  | leave cs turn hturn => exact .leave cs turn hturn
  | connection hpool => exact .connection (hpool.mono fun _ _ hs => hs.mono h)
  | drained cs hempty => exact .drained cs hempty

/-- A stopped server that can do nothing alone has returned. -/
theorem Reachable.returned (hr : Reachable X K config s) (hstopped : s.phase.Stopped)
    (hstuck : ∀ s', ¬ Step X K config Task.Alone s s') : s.phase = .ended (.ok ()) := by
  rcases hstopped with h | h
  · obtain ⟨s', hs'⟩ := hr.alone h
    exact absurd hs' (hstuck s')
  · exact h

theorem stopped_of_steps (hs : Relation.ReflTransGen (Step X K config R) s s') (hstopped : s.phase.Stopped) :
    s'.phase.Stopped := by
  induction hs with
  | refl => exact hstopped
  | tail _ hstep ih => exact hstep.stopped ih

theorem Step.of_alone (hs : Step X K config Task.Alone s s') : Step X K config Task.Step s s' := hs.mono fun _ _ ht => ht.1

/-- A server that waits for its tasks can return alone. -/
theorem Reachable.exists_returned (hr : Reachable X K config s) (hstopped : s.phase.Stopped) :
    ∃ s', Relation.ReflTransGen (Step X K config Task.Alone) s s' ∧ s'.phase = .ended (.ok ()) := by
  have hsent : s.phase.sent = true := by
    rcases hstopped with h | h <;> rw [h] <;> rfl
  have hacc : Acc (fun s' s => Step X K config Task.Alone s s') s :=
    Subrelation.accessible (fun hs => hs.of_alone) (acc_of_sent hsent)
  obtain ⟨s', hs, hstuck⟩ := Pool.exists_stuck hacc
  have hr' := hr.trans (Relation.ReflTransGen.mono (fun _ _ hs => hs.of_alone) _ _ hs)
  exact ⟨s', hs, Reachable.returned hr' (stopped_of_steps hs hstopped) hstuck⟩

/-- **Draining.**  A server that was told to stop does not go on forever, whatever it is answered, and it can return
without an answer to anything but the callbacks of closes: nothing else ends it, and nothing else is in its way. -/
theorem drains (hr : Reachable X K config s) (hdraining : s.phase = .draining) :
    Acc (fun s' s => Step X K config Task.Step s s') s ∧
      (∀ s', Relation.ReflTransGen (Step X K config Task.Step) s s' →
        (∀ s'', ¬ Step X K config Task.Alone s' s'') → s'.phase = .ended (.ok ())) ∧
      ∃ s', Relation.ReflTransGen (Step X K config Task.Alone) s s' ∧ s'.phase = .ended (.ok ()) := by
  refine ⟨acc_of_sent (by rw [hdraining]; rfl), fun s' hs hstuck => ?_, hr.exists_returned (.inl hdraining)⟩
  exact Reachable.returned (hr.trans hs) (stopped_of_steps hs (.inl hdraining)) hstuck

end Drains

/-! ### A server with one client -/

section One

variable (X : Externals) (K : Crypto)

def oneClient : Connection := Connection.accept K (trusting true) false "127.0.0.1" [.sync]

/-- The server is told to stop while it waits for the first message of its only client. -/
theorem reachable_draining : Reachable X K (trustingConfig true) ⟨.draining, [oneClient K]⟩ :=
  ((Relation.ReflTransGen.single .bound).tail (.accept [] rfl false "127.0.0.1" [.sync])).tail
    (.leave [oneClient K] (.shutdown (.ok ())) rfl)

/-- The steps of the only connection are steps of the server. -/
theorem Reachable.one {config : HandlerConfig} {phase : Phase} {c c' : Connection}
    (hr : Reachable X K config ⟨phase, [c]⟩)
    (hs : Relation.ReflTransGen (Connection.Step Task.Step phase.sent) c c') : Reachable X K config ⟨phase, [c']⟩ :=
  hr.trans (hs.lift (fun c => (⟨phase, [c]⟩ : Native)) fun _ _ h => Step.connection (Pool.Step.task [] [] h))

/-- The steps of `cleanup` are steps of the connection. -/
theorem cleanup_steps (c : Connection) (sent : Bool) {a b : Prog.State Conn Call.Reply Verified PgWireError Unit}
    (hs : Prog.Steps a b) :
    Relation.ReflTransGen (Connection.Step Task.Step sent) { c with task := .leaving a.1 a.2 }
      { c with task := .leaving b.1 b.2 } :=
  hs.lift (fun a => ({ c with task := .leaving a.1 a.2 } : Connection)) fun a _ h =>
    Connection.Step.runs { c with task := .leaving a.1 a.2 } (.cleanup h) (by simp [Task.stopping])

theorem reachable_returned : ∃ w, Reachable X K (trustingConfig true)
    ⟨.ended (.ok ()), [{ oneClient K with task := .leaving (Prog.ofOutcome (.ok ())) w, hold := .joined }]⟩ := by
  have hsignal : Connection.Step Task.Step true (oneClient K) { oneClient K with
      task := .serving ((trusting true).processSocket K [.sync]) (freshWorld false "127.0.0.1") true } :=
    .runs (oneClient K) (.signal _ _) fun _ => .inr rfl
  have hstop : Connection.Step Task.Step true { oneClient K with
      task := .serving ((trusting true).processSocket K [.sync]) (freshWorld false "127.0.0.1") true }
      { oneClient K with task := .leaving PythonPortals.shutdown (freshWorld false "127.0.0.1") } :=
    .runs _ (.stop .receive _ _ rfl rfl) (by simp [Task.stopping])
  have hcleanup := cleanup_steps (oneClient K) true
    (Prog.steps_run agreeable PythonPortals.shutdown (freshWorld false "127.0.0.1"))
  let w := (PythonPortals.shutdown.run agreeable (freshWorld false "127.0.0.1")).2
  have hjoin : Connection.Step Task.Step true { oneClient K with task := .leaving (Prog.ofOutcome (.ok ())) w }
      { oneClient K with task := .leaving (Prog.ofOutcome (.ok ())) w, hold := .joined } :=
    .joins _ rfl ⟨.ok (), w, rfl⟩
  have hone := (reachable_draining X K).one X K
    ((((Relation.ReflTransGen.single hsignal).tail hstop).trans hcleanup).tail hjoin)
  exact ⟨w, hone.tail (.drained _ rfl)⟩

theorem shutdown_complete_one : ∃ w, Graceful
    ⟨.ended (.ok ()), [{ oneClient default with task := .leaving (Prog.ofOutcome (.ok ())) w, hold := .joined }]⟩ := by
  obtain ⟨w, hr⟩ := reachable_returned (.certified .rsaSha256) default
  exact ⟨w, shutdown_complete hr⟩

theorem drains_one : ∃ s', Relation.ReflTransGen
    (Step (.certified .rsaSha256) default (trustingConfig true) Task.Alone) ⟨.draining, [oneClient default]⟩ s' ∧
      s'.phase = .ended (.ok ()) :=
  (drains (reachable_draining (.certified .rsaSha256) default) rfl).2.2

end One

end Native

end Pywire
