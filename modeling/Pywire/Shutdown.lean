import Pywire.Cleanup

/-!
# Shutdown: the stop signal against the steps of a connection

The task of a connection runs `process_socket` until it is over, or until the server stops and the `closing`
mutex is free; then it runs `cleanup`.  `Task.Step` interleaves the two branches of that `select!`: the signal
comes at any time, and wherever `process_socket` waits the other branch may win, which drops it there.  A panic
unwinds the task, and leaves the rest to `Drop`.

* `PyServerHandlers.never_abandons_close`: **Main result** — `process_socket` is never dropped in the middle of a
  close, cleanup closes nothing that was closed, and nobody waits for the mutex while holding it.
* `PyServerHandlers.stopped_accounted`: the books of the callbacks are in order, wherever the connection was stopped.
-/

namespace Pywire

open Async Scram

/-! ### The task of a connection -/

/-- The task of a connection: `process_socket` under `select!`, and `cleanup` behind it. -/
inductive Task where
  | serving (socket : Proc Unit) (w : WireWorld) (stop : Bool)
  | leaving (cleanup : Proc Unit) (w : WireWorld)

/-- One step of the task. -/
inductive Task.Step : Task → Task → Prop where
  /-- `process_socket` goes on; it gets the mutex only while nobody holds it. -/
  | socket {t t' : Proc Unit} {w w' : WireWorld} (stop : Bool) (hs : Prog.Step t w t' w')
      (hlock : ∀ k, t = .call .lockClosing k → w.st.resources.closing = false) :
      Step (.serving t w stop) (.serving t' w' stop)
  | signal (t : Proc Unit) (w : WireWorld) : Step (.serving t w false) (.serving t w true)
  /-- The stop branch has the signal and gets the mutex while `process_socket` waits. -/
  | stop (c : Call) (k : ℕ → c.Reply → Proc Unit) (w : WireWorld) (hc : c.isAwait = true)
      (hfree : w.st.resources.closing = false) : Step (.serving (.call c k) w true) (.leaving PythonPortals.shutdown w)
  | finished (o : Outcome PgWireError Unit) (w : WireWorld) (stop : Bool) (ho : o ≠ .panic) :
      Step (.serving (Prog.ofOutcome o) w stop) (.leaving PythonPortals.shutdown w)
  /-- A panic drops what the task holds. -/
  | unwinds (w : WireWorld) (stop : Bool) : Step (.serving .panic w stop) (.leaving PythonPortals.drop w)
  | cleanup {t t' : Proc Unit} {w w' : WireWorld} (hs : Prog.Step t w t' w') : Step (.leaving t w) (.leaving t' w')

/-- What a connection can come to, whatever its client, its callbacks and the server do. -/
def PyServerHandlers.Reachable (K : Crypto) (h : PyServerHandlers) (secure : Bool) (host : String)
    (messages : List PgWireFrontendMessage) : Task → Prop :=
  Relation.ReflTransGen Task.Step (.serving (h.processSocket K messages) (freshWorld secure host) false)

/-! ### The middle of a close -/

/-- The last thing that happened to the portal `name` is a close that returned `Ok`. -/
def PortalReturned (log : Log) (name : String) : Prop :=
  ∃ j on, PortalClose log j on name (.ok ()) ∧ ∀ i > j, ∀ on' st, ¬ PortalBound log i on' name st

/-- The last thing that happened to the statement `name` is a close that returned `Ok`. -/
def StatementReturned (log : Log) (name : String) : Prop :=
  ∃ j on, StatementClose log j on name (.ok ()) ∧ ∀ i > j, ∀ on', ¬ StatementParsed log i on' name

/-- Between the start of a close callback and the removal of the last entry that goes with it. -/
inductive MidClose : Proc Unit → WireWorld → Prop where
  | portalCallback (on : PyInstance) (name : String) (k) (w : WireWorld) :
      MidClose (.call (.python (.closePortal on name)) k) w
  | statementCallback (on : PyInstance) (name : String) (k) (w : WireWorld) :
      MidClose (.call (.python (.closeStatement on name)) k) w
  | portalEntry (t : Proc Unit) {w : WireWorld} {name s : String} {b : BoundPortal} (h : PortalReturned w.log name)
      (he : w.st.resources.portals.lookup name = some ⟨s, some b⟩) : MidClose t w
  | portalStored (t : Proc Unit) {w : WireWorld} {name : String} {p : Portal} (h : PortalReturned w.log name)
      (he : w.st.store.portals.lookup name = some (.value p)) : MidClose t w
  | statementEntry (t : Proc Unit) {w : WireWorld} {name : String} {on : PyInstance}
      (h : StatementReturned w.log name) (he : w.st.resources.statements.lookup name = some on) : MidClose t w
  | statementStored (t : Proc Unit) {w : WireWorld} {name : String} {st : StoredStatement}
      (h : StatementReturned w.log name) (he : w.st.store.statements.lookup name = some (.value st)) : MidClose t w

/-- What is promised of every state of the task. -/
inductive Task.Safe : Task → Prop where
  | serving (t : Proc Unit) (w : WireWorld) (stop : Bool)
      (dropped : ∀ s, Step (.serving t w stop) s → (∃ t' w', s = .leaving t' w') → ¬ MidClose t w)
      (waits : ∀ k, t = .call .lockClosing k → w.st.resources.closing = false) : Safe (.serving t w stop)
  | leaving (t : Proc Unit) (w : WireWorld)
      (portal : ∀ on name k, t = .call (.python (.closePortal on name)) k → ¬ PortalReturned w.log name)
      (statement : ∀ on name k, t = .call (.python (.closeStatement on name)) k → ¬ StatementReturned w.log name)
      (waits : ∀ k, t ≠ .call .lockClosing k) : Safe (.leaving t w)

section Held

variable {log : Log} {name : String} {x : Ledger.Holding PyInstance}

theorem not_portalReturned (hx : heldPortals log name = some x) : ¬ PortalReturned log name := by
  rintro ⟨j, on, hj, hfree⟩
  obtain ⟨i, hi, on', hopened⟩ := Ledger.held_not_closed hx (portalAct_closed.mpr ⟨_, hj, rfl⟩)
  obtain ⟨st, hb⟩ := portalAct_opened.mp hopened
  exact hfree i hi on' st hb

theorem not_statementReturned (hx : heldStatements log name = some x) : ¬ StatementReturned log name := by
  rintro ⟨j, on, hj, hfree⟩
  obtain ⟨i, hi, on', hopened⟩ := Ledger.held_not_closed hx (statementAct_closed.mpr ⟨_, hj, rfl⟩)
  exact hfree i hi on' (statementAct_opened.mp hopened)

end Held

/-- Where the invariant holds, every entry is of an object that is open. -/
theorem Inv.not_midClose {h : PyExtendedHandler} {t : Proc Unit} {w : WireWorld} (hw : Inv h w.st w.log)
    (hp : ∀ on name k, t ≠ .call (.python (.closePortal on name)) k)
    (hs : ∀ on name k, t ≠ .call (.python (.closeStatement on name)) k) : ¬ MidClose t w := by
  have portal : ∀ {name ref} {on : PyInstance}, portalObject w.log name = some (ref, on) →
      ¬ PortalReturned w.log name := by
    intro name ref on ho
    obtain ⟨x, hx, -⟩ := Ledger.object_eq_some.mp ho
    exact not_portalReturned hx
  have statement : ∀ {name ref} {on : PyInstance}, statementObject w.log name = some (ref, on) →
      ¬ StatementReturned w.log name := by
    intro name ref on ho
    obtain ⟨x, hx, -⟩ := Ledger.object_eq_some.mp ho
    exact not_statementReturned hx
  intro hmid
  cases hmid with
  | portalCallback on name k => exact hp on name k rfl
  | statementCallback on name k => exact hs on name k rfl
  | @portalEntry _ _ name s b hr he =>
    cases hw.portal name with
    | absent py => rw [py] at he; cases he
    | empty s py => rw [py] at he; cases he
    | bound s b p py stored object => exact portal object hr
  | @portalStored _ _ name p hr he =>
    cases hw.portal name with
    | absent py stored => rw [stored] at he; cases he
    | empty s py stored => rw [stored] at he; cases he
    | bound s b p py stored object => exact portal object hr
  | @statementEntry _ _ name on hr he =>
    cases hw.statement name with
    | absent py => rw [py] at he; cases he
    | empty py => rw [py] at he; cases he
    | value st i py stored object => exact statement object hr
  | @statementStored _ _ name st hr he =>
    cases hw.statement name with
    | absent py stored => rw [stored] at he; cases he
    | empty py stored => rw [stored] at he; cases he
    | value st i py stored object => exact statement object hr

/-- A connection that panics has nothing entered, neither in `PythonPortals` nor as a value in pgwire's store. -/
theorem Wrecked.not_midClose {h : PyExtendedHandler} {w : WireWorld} (hw : Wrecked h w) : ¬ MidClose .panic w := by
  obtain ⟨log, hw⟩ := hw.stranded
  intro hmid
  cases hmid with
  | @portalEntry _ _ name s b hr he =>
    rw [(hw.fresh name).1] at he
    cases he
  | @portalStored _ _ name p hr he =>
    rw [(hw.no_portal name).2] at he
    cases he
  | @statementEntry _ _ name on hr he =>
    rw [(hw.fresh name).2] at he
    cases he
  | @statementStored _ _ name st hr he => exact hw.not_value name st he

/-! ### The invariant of the task -/

/-- The rest of `process_socket` keeps the discipline, and the rest of `cleanup` completes the books. -/
inductive Task.Sound (h : PyServerHandlers) : Task → Prop where
  | serving (t : Proc Unit) (w : WireWorld) (stop : Bool) (rest : Prog.Sat (OnWire h) t w h.Concluded)
      (allowed : Prog.Allowed Disciplined w.log) : Sound h (.serving t w stop)
  | leaving (t : Proc Unit) (w : WireWorld)
      (rest : Prog.Sat (fun w c => Permitted w.log c ∧ c.Shuts) t w (fun o w' => o = .ok () ∧ Accounted w'.log)) :
      Sound h (.leaving t w)

/-- A free mutex means the invariant holds where a handler waits, and that it waits for no close callback. -/
theorem OnWire.of_free {h : PyServerHandlers} {w : WireWorld} {c : Call} (hc : OnWire h w c)
    (hfree : w.st.resources.closing = false) : Inv h.extendedQuery w.st w.log ∧ c.isClose = false := by
  have hinv := hc.inv
  rw [unlock_of_unlocked hfree] at hinv
  exact ⟨hinv, hc.locked.symm.trans hfree⟩

/-- Where a handler waits, no stranded connection has received a statement. -/
theorem unparsed_of_waiting {h : PyServerHandlers} {w : WireWorld} {c : Call} {k : ℕ → c.Reply → Proc Unit}
    (rest : Prog.Sat (OnWire h) (.call c k) w h.Concluded) : ¬ StrandedParse w.log := by
  have hend := (rest.2 (agreeable w.log c)).run agreeable
  have hl := Prog.log_prefix_run agreeable (k w.log.length (agreeable w.log c)) (w.called c (agreeable w.log c))
  have hlt := hl.length_le
  rw [World.called_log, List.length_append, List.length_singleton] at hlt
  exact hend.unparsed ((List.prefix_append _ _).trans hl) (by omega)

section Steps

variable {h : PyServerHandlers}

theorem Task.Sound.step {s s' : Task} (hs : s.Sound h) (hstep : Step s s') : s'.Sound h := by
  cases hstep with
  | socket stop hstep =>
    cases hs with
    | serving _ _ _ rest allowed =>
      exact .serving _ _ _ (rest.step hstep) (rest.step_allowed (fun _ _ => disciplined_of_onWire) allowed hstep)
  | signal t w =>
    cases hs with
    | serving _ _ _ rest allowed => exact .serving _ _ _ rest allowed
  | stop c k w hc hfree =>
    cases hs with
    | serving _ _ _ rest allowed =>
      exact .leaving _ _ (shutdown_accounted (rest.1.of_free hfree).1 allowed (unparsed_of_waiting rest))
  | finished o w stop ho =>
    cases hs with
    | serving _ _ _ rest allowed =>
      have hq := ((Prog.sat_ofOutcome o).mp rest).returns ho
      exact .leaving _ _ (shutdown_accounted hq.inv allowed hq.unparsed)
  | unwinds w stop =>
    cases hs with
    | serving _ _ _ rest allowed => exact .leaving _ _ (drop_wrecked rest allowed)
  | cleanup hstep =>
    cases hs with
    | leaving _ _ rest => exact .leaving _ _ (rest.step hstep)

theorem PyServerHandlers.Reachable.sound {K : Crypto} (hwired : h.Wired) {secure : Bool} {host : String}
    {messages : List PgWireFrontendMessage} {s : Task} (hr : h.Reachable K secure host messages s) : s.Sound h := by
  induction hr with
  | refl =>
    exact .serving _ _ _ (PyServerHandlers.processSocket_sat (quiescent_freshWorld h secure host) hwired messages)
      (Prog.allowed_nil _)
  | tail _ hstep ih => exact ih.step hstep

theorem Task.Sound.safe {s : Task} (hs : s.Sound h) : s.Safe := by
  cases hs with
  | serving t w stop rest allowed =>
    refine .serving _ _ _ ?_ ?_
    · rintro s hstep ⟨t', w', rfl⟩
      cases hstep with
      | stop c k _ hc hfree =>
        obtain ⟨hinv, hclose⟩ := rest.1.of_free hfree
        refine hinv.not_midClose ?_ ?_
        · rintro on name k' he
          cases he
          cases hclose
        · rintro on name k' he
          cases he
          cases hclose
      | finished o _ _ ho =>
        refine (((Prog.sat_ofOutcome o).mp rest).returns ho).inv.not_midClose ?_ ?_
        · intro on name k he
          cases o <;> cases he
        · intro on name k he
          cases o <;> cases he
      | unwinds => exact Wrecked.not_midClose rest
    · rintro k rfl
      exact rest.1.locked
  | leaving t w rest =>
    refine .leaving _ _ ?_ ?_ ?_
    · rintro on name k rfl
      obtain ⟨⟨x, hx, -⟩, -⟩ := rest.1
      exact not_portalReturned hx
    · rintro on name k rfl
      obtain ⟨⟨x, hx, -⟩, -⟩ := rest.1
      exact not_statementReturned hx
    · rintro k rfl
      exact rest.1.2.2 rfl

end Steps

/-- **Main result**: no order of the steps of a connection and of the stop signal abandons a close. -/
theorem PyServerHandlers.never_abandons_close (K : Crypto) {configureCertificate : Bytes → Except PgWireError Unit}
    {config : HandlerConfig} {h : PyServerHandlers} (hb : config.build configureCertificate = .ok h) (secure : Bool)
    (host : String) (messages : List PgWireFrontendMessage) {s : Task}
    (hr : h.Reachable K secure host messages s) : s.Safe :=
  (hr.sound (HandlerConfig.wired hb)).safe

/-! ### A connection that is stopped in the middle of a close -/

/-- While the server runs, `process_socket` gets ahead. -/
theorem Task.steps_serving {h : PyServerHandlers} {a b : Prog.State Conn Call.Reply Verified PgWireError Unit}
    {Q : Outcome PgWireError Unit → WireWorld → Prop} (stop : Bool) (rest : Prog.Sat (OnWire h) a.1 a.2 Q)
    (hs : Prog.Steps a b) : Relation.ReflTransGen Task.Step (.serving a.1 a.2 stop) (.serving b.1 b.2 stop) := by
  suffices hboth : Relation.ReflTransGen Task.Step (.serving a.1 a.2 stop) (.serving b.1 b.2 stop) ∧
      Prog.Sat (OnWire h) b.1 b.2 Q from hboth.1
  induction hs with
  | refl => exact ⟨.refl, rest⟩
  | tail _ hs ih =>
    obtain ⟨hsteps, rest⟩ := ih
    refine ⟨hsteps.tail (.socket stop hs ?_), rest.step hs⟩
    intro k he
    rw [he] at rest
    exact rest.1.locked

/-- A client that prepares a statement and closes it. -/
def closingMessages : List PgWireFrontendMessage :=
  [.startup ⟨[("user", "alice")]⟩, .parse ⟨some "s", "SELECT 1", []⟩, .close ⟨targetTypeByteStatement, some "s"⟩]

/-- The client of `closingMessages` after `n` steps. -/
def closingAt (n : ℕ) : Prog.State Conn Call.Reply Verified PgWireError Unit :=
  Prog.advance agreeable n ((trusting false).processSocket default closingMessages) (freshWorld false "127.0.0.1")

/-- The server is stopped at once, and the client goes on. -/
theorem reachable_closing (n : ℕ) : (trusting false).Reachable default false "127.0.0.1" closingMessages
    (.serving (closingAt n).1 (closingAt n).2 true) :=
  (Relation.ReflTransGen.single (.signal _ _)).trans (Task.steps_serving (a := (_, _)) true
    (PyServerHandlers.processSocket_sat (quiescent_freshWorld _ _ _) (HandlerConfig.wired (trusting_build false)) _)
    (Prog.steps_advance agreeable n _ _))

/-- While the close is in flight the stop has to wait; it is let in as soon as the close has returned. -/
theorem never_abandons_close_closing :
    (∃ k w, w.st.resources.closing = true ∧
      Task.Safe (.serving (.call (.python (.closeStatement .extended "s")) k) w true)) ∧
    StatementReturned (closingAt 37).2.log "s" ∧ Task.Safe (.leaving PythonPortals.shutdown (closingAt 37).2) := by
  refine ⟨⟨_, (closingAt 33).2, rfl, PyServerHandlers.never_abandons_close default (trusting_build false) false
    "127.0.0.1" closingMessages (reachable_closing 33)⟩, ⟨13, .extended, rfl, fun i hi on' => ?_⟩,
    PyServerHandlers.never_abandons_close default (trusting_build false) false "127.0.0.1" closingMessages
      ((reachable_closing 37).tail (.stop (.send .closeComplete) _ _ rfl rfl))⟩
  rintro ⟨sql, typeOids, hparsed⟩
  have hlt := (List.getElem?_eq_some_iff.mp hparsed).1
  have hlength : (closingAt 37).2.log.length = 14 := rfl
  omega

/-! ### What a stopped connection leaves behind -/

/-- **A stopped connection closes everything**, like one that ended. -/
theorem PyServerHandlers.stopped_accounted (K : Crypto) {configureCertificate : Bytes → Except PgWireError Unit}
    {config : HandlerConfig} {h : PyServerHandlers} (hb : config.build configureCertificate = .ok h) (secure : Bool)
    (host : String) (messages : List PgWireFrontendMessage) {o : Outcome PgWireError Unit} {w : WireWorld}
    (hr : h.Reachable K secure host messages (.leaving (Prog.ofOutcome o) w)) : o = .ok () ∧ Accounted w.log := by
  cases hr.sound (HandlerConfig.wired hb) with
  | leaving _ _ rest => exact (Prog.sat_ofOutcome o).mp rest

end Pywire
