import Pywire.Lifecycle

/-!
# CloseErrors: what a failing `close_portal` does to a Sync and to a query

`close_all_portals` stops at the first `close_portal` callback that raises, and its callers pass the error on
with `?`: `on_sync` before it has answered, `do_query` with the responses of the query in hand, and `on_query`
instead of the result of the query.

`closeAllError` is the error the closing runs into, read off the environment alone.

* `sync_answered_iff`, `commit_reported_iff`, `outcome_survives_iff`: the handlers keep their promise exactly when
  no callback raises, up to an open transaction and a query that failed with the very error of the closing.
* `sync_unanswered`, `commit_unreported`, `outcome_lost`: a connection on which they do not.
-/

namespace Pywire

open Async Scram

/-! ### The error of a closing -/

/-- The error that closing the portals `names` in this order runs into. -/
def closeError (env : WireEnv) (portals : StrMap PortalEntry) : Log → List String → Option PgWireError
  | _, [] => none
  | log, name :: names =>
    let locked := log ++ [.called .lockClosing (env log .lockClosing)]
    match (portals.lookup name).bind (·.bound) with
    | none => closeError env portals locked names
    | some bound =>
      match env locked (.python (.closePortal bound.inst name)) with
      | .ok _ => closeError env portals (locked ++ [.called (.python (.closePortal bound.inst name)) (.ok ())]) names
      | .error e => some (pyErrToPywire e)

/-- The names of the open portals, in the order of their map. -/
def Conn.openPortals (c : Conn) : List String :=
  (c.resources.portals.entries.filter fun _ => true).map (·.1)

/-- The error that closing every portal runs into. -/
def closeAllError (env : WireEnv) (w : WireWorld) : Option PgWireError :=
  if w.st.installed then
    let order := env w.log (.hashOrder w.st.openPortals)
    closeError env w.st.resources.portals (w.log ++ [.called (.hashOrder w.st.openPortals) order]) order.1
  else none

/-- What is left of a closing that ran into `e`, or into nothing. -/
def closing : Option PgWireError → Outcome PgWireError Unit
  | none => .ok ()
  | some e => .err e

/-- The statuses with which the client was told that the server is ready. -/
def answers (log : Log) : List TransactionStatus :=
  log.filterMap fun
    | .called (.send (.readyForQuery status)) _ => some status
    | _ => none

section Closing

variable {env : WireEnv} {w : WireWorld}

/-- Closing answers nobody and leaves the transaction alone. -/
structure Untouched (w w' : WireWorld) : Prop where
  installed : w'.st.installed = w.st.installed
  transactionStatus : w'.st.transactionStatus = w.st.transactionStatus
  answers : answers w'.log = answers w.log

theorem Untouched.trans {w' w'' : WireWorld} (h : Untouched w w') (h' : Untouched w' w'') : Untouched w w'' :=
  ⟨h'.installed.trans h.installed, h'.transactionStatus.trans h.transactionStatus, h'.answers.trans h.answers⟩

/-- One portal: the callback's answer decides. -/
theorem closePortal_run (hi : w.st.installed = true) (name : String) :
    (PyExtendedHandler.closePortal name).run env w =
      (let locked := w.log ++ [.called .lockClosing (env w.log .lockClosing)]
      match (w.st.resources.portals.lookup name).bind (·.bound) with
      | none => (.ok (), ⟨(Conn.removePortal name w.st.lockClosing).unlockClosing, locked⟩)
      | some b =>
        match env locked (.python (.closePortal b.inst name)) with
        | .ok r => (.ok (), ⟨(Conn.removePortal name w.st.lockClosing).unlockClosing,
            locked ++ [.called (.python (.closePortal b.inst name)) (.ok r)]⟩)
        | .error e => (.err (pyErrToPywire e), ⟨w.st.lockClosing.unlockClosing,
            locked ++ [.called (.python (.closePortal b.inst name)) (.error e)]⟩)) := by
  simp only [PyExtendedHandler.closePortal, PyExtendedHandler.withClosing, Prog.run_bind, Prog.run_get,
    Prog.resume_ok, hi, if_true, Prog.run_await, Prog.run_andFinally, Prog.run_modify]
  have hlookup : ((w.called .lockClosing (env w.log .lockClosing)).modify Conn.lockClosing).st.resources.portals =
      w.st.resources.portals := rfl
  rw [hlookup]
  cases hb : (w.st.resources.portals.lookup name).bind (·.bound) with
  | none => rfl
  | some b =>
    simp only [callPython, Prog.run_bind, Prog.run_await, Prog.resume_ok, World.modify_log, World.called_log]
    cases hr : env (w.log ++ [.called .lockClosing (env w.log .lockClosing)]) (.python (.closePortal b.inst name)) with
    | ok r => rfl
    | error e => rfl

/-- Many portals: the first callback that raises ends the closing. -/
theorem closeEach_run (env : WireEnv) (portals : StrMap PortalEntry) {names : List String} (hi : w.st.installed = true)
    (hnd : names.Nodup) (hp : ∀ n ∈ names, w.st.resources.portals.lookup n = portals.lookup n) :
    ∃ w', (PyExtendedHandler.closeEach names).run env w = (closing (closeError env portals w.log names), w') ∧
      Untouched w w' := by
  induction names generalizing w with
  | nil => exact ⟨w, rfl, rfl, rfl, rfl⟩
  | cons name names ih =>
    obtain ⟨hname, hnd⟩ := List.nodup_cons.mp hnd
    have hfirst := hp name (List.mem_cons_self ..)
    -- the other portals are still there once this one is gone
    have hrest : ∀ n ∈ names, (w.st.resources.portals.erase name).lookup n = portals.lookup n := by
      intro n hn
      rw [StrMap.lookup_erase_eq_if, if_neg (fun he : n = name => hname (he ▸ hn))]
      exact hp n (List.mem_cons_of_mem _ hn)
    simp only [PyExtendedHandler.closeEach, Prog.run_bind, closePortal_run hi, closeError]
    rw [hfirst]
    cases hb : (portals.lookup name).bind (·.bound) with
    | none =>
      let w1 : WireWorld := ⟨Conn.rmPortal name (Conn.removePortal name w.st.lockClosing).unlockClosing,
        w.log ++ [.called .lockClosing (env w.log .lockClosing)]⟩
      have hw1 : Untouched w w1 := ⟨rfl, rfl, by simp [w1, answers]⟩
      obtain ⟨w', hrun, hw'⟩ := ih (w := w1) hi hnd hrest
      exact ⟨w', hrun, hw1.trans hw'⟩
    | some b =>
      cases hr : env (w.log ++ [.called .lockClosing (env w.log .lockClosing)])
          (.python (.closePortal b.inst name)) with
      | ok r =>
        let w1 : WireWorld := ⟨Conn.rmPortal name (Conn.removePortal name w.st.lockClosing).unlockClosing,
          w.log ++ [.called .lockClosing (env w.log .lockClosing)] ++
            [.called (.python (.closePortal b.inst name)) (.ok r)]⟩
        have hw1 : Untouched w w1 := ⟨rfl, rfl, by simp [w1, answers]⟩
        obtain ⟨w', hrun, hw'⟩ := ih (w := w1) hi hnd hrest
        simp only [hr]
        exact ⟨w', hrun, hw1.trans hw'⟩
      | error e =>
        simp only [hr]
        exact ⟨_, rfl, rfl, rfl, by simp [answers]⟩

/-- **All portals**. -/
theorem closeAllPortals_run (env : WireEnv) (w : WireWorld) :
    ∃ w', PyExtendedHandler.closeAllPortals.run env w = (closing (closeAllError env w), w') ∧ Untouched w w' := by
  -- the names in hand, the rest is the loop and one removal
  have finish : ∀ {w1 : WireWorld} {names : List String} {e : Option PgWireError},
      (∃ w', (PyExtendedHandler.closeEach names).run env w1 = (closing e, w') ∧ Untouched w w') →
        ∃ w', (do PyExtendedHandler.closeEach names; Prog.modify (Conn.rmPortal defaultName) : Proc Unit).run env w1 =
          (closing e, w') ∧ Untouched w w' := by
    rintro w1 names e ⟨w', hrun, hw'⟩
    rw [Prog.run_bind, hrun]
    cases e with
    | none => exact ⟨_, rfl, hw'.trans ⟨rfl, rfl, rfl⟩⟩
    | some e => exact ⟨w', rfl, hw'⟩
  rw [PyExtendedHandler.closeAllPortals, Prog.run_bind, PyExtendedHandler.portalNames, Prog.run_bind, Prog.run_get,
    Prog.resume_ok, closeAllError]
  by_cases hi : w.st.installed = true
  · rw [if_pos hi, if_pos hi, Prog.run_bind, Prog.run_await, Prog.resume_ok, Prog.run_pure, Prog.resume_ok]
    let order := env w.log (.hashOrder w.st.openPortals)
    have hnd : order.1.Nodup := by
      refine order.2.nodup_iff.mpr ?_
      rw [Conn.openPortals, List.filter_true]
      exact w.st.resources.portals.keys_nodup
    let w1 := w.called (.hashOrder w.st.openPortals) order
    have hw1 : Untouched w w1 := ⟨rfl, rfl, by simp [w1, answers]⟩
    obtain ⟨w', hrun, hw'⟩ := closeEach_run env w.st.resources.portals (w := w1) hi hnd fun _ _ => rfl
    exact finish ⟨w', hrun, hw1.trans hw'⟩
  · rw [if_neg hi, if_neg hi, Prog.run_pure, Prog.resume_ok]
    exact finish ⟨w, rfl, rfl, rfl, rfl⟩

end Closing

/-! ### A connection with an open portal -/

/-- The world in which the message after `messages` is handed to the query handlers. -/
def PyServerHandlers.dispatched (K : Crypto) (h : PyServerHandlers) (env : WireEnv) (secure : Bool) (host : String)
    (messages : List PgWireFrontendMessage) : WireWorld :=
  let w := ((h.processSocket K messages).final env (freshWorld secure host)).called .receive ()
  let turn := env w.log .turn
  (w.called .turn turn).modify fun client => { client with state := turn.1.1, transactionStatus := turn.2 }

/-- `COMMIT` ends the transaction, as every portal does, and closing a portal ends in `closed`. -/
def committing (closed : Except PyErr Unit) : WireEnv := fun log call =>
  match call with
  | .python (.closePortal _ _) => closed
  | .python (.simpleDoQuery _ query) =>
    .ok (if query = "COMMIT" then [.execution "COMMIT" none none (some .stop)] else [])
  | .python (.doQuery _ _ _) => .ok (.execution "COMMIT" none none (some .stop))
  | call => agreeable log call

def closeFailed : PyErr := ⟨⟨"builtins", "RuntimeError"⟩, [], "close failed"⟩

/-- A trusted client with the portal `p` open. -/
def portalOpen (closed : Except PyErr Unit) : WireWorld :=
  (trusting false).dispatched default (committing closed) false "127.0.0.1"
    [.startup ⟨[("user", "alice")]⟩, .parse ⟨some "s", "SELECT 1", []⟩, .bind ⟨some "p", some "s", [], [], []⟩]

/-! ### Sync -/

/-- `on_sync` sends one `ReadyForQuery`, with the transaction status it found. -/
def SyncAnswered (env : WireEnv) (w : WireWorld) : Prop :=
  answers (PyExtendedHandler.onSync.run env w).2.log = answers w.log ++ [w.st.transactionStatus]

theorem answer_run (env : WireEnv) (w : WireWorld) :
    ∃ w', (do let client ← Prog.get; send (.readyForQuery client.transactionStatus); await .flush : Proc Unit).run env w =
      (.ok (), w') ∧ answers w'.log = answers w.log ++ [w.st.transactionStatus] := by
  refine ⟨_, rfl, ?_⟩
  simp [answers]

/-- **A Sync is answered** exactly when the transaction is open or no portal raises when it is closed. -/
theorem sync_answered_iff (env : WireEnv) (w : WireWorld) :
    SyncAnswered env w ↔ w.st.transactionStatus ≠ .idle ∨ closeAllError env w = none := by
  rw [SyncAnswered, PyExtendedHandler.onSync, Prog.run_bind, Prog.run_get, Prog.resume_ok]
  by_cases hidle : w.st.transactionStatus = .idle
  · obtain ⟨w1, hrun, hw1⟩ := closeAllPortals_run env w
    rw [if_pos hidle, Prog.run_bind, hrun]
    cases he : closeAllError env w with
    | none =>
      obtain ⟨w2, hrun2, hw2⟩ := answer_run env w1
      rw [closing, Prog.resume_ok, hrun2, hw2, hw1.answers, hw1.transactionStatus]
      simp
    | some e =>
      rw [closing, Prog.resume_err, hw1.answers]
      simp [hidle]
  · obtain ⟨w2, hrun2, hw2⟩ := answer_run env w
    rw [if_neg hidle, hrun2, hw2]
    simp [hidle]

/-- A portal that cannot be closed leaves a Sync without an answer. -/
theorem sync_unanswered : ¬ SyncAnswered (committing (.error closeFailed)) (portalOpen (.error closeFailed)) := by
  rw [SyncAnswered]
  decide

/-! ### The end of a transaction -/

theorem callPython_run (env : WireEnv) (w : WireWorld) (c : PyCall) {r : c.Ret}
    (hr : env w.log (.python c) = .ok r) :
    @Prog.run Call Conn Verified PgWireError (no_index c.Ret) Call.Reply env (callPython c) w =
      (.ok r, w.called (.python c) (.ok r)) := by
  rw [callPython, Prog.run_bind, Prog.run_await, hr, Prog.resume_ok]
  rfl

/-- A result that waits for the portals to be closed. -/
theorem closeAllPortals_return_iff {α : Type} (env : WireEnv) (w : WireWorld) (a : α) :
    ((do PyExtendedHandler.closeAllPortals; return a : Proc α).run env w).1 = .ok a ↔
      closeAllError env w = none := by
  obtain ⟨w', hrun, -⟩ := closeAllPortals_run env w
  rw [Prog.run_bind, hrun]
  cases closeAllError env w with
  | none => exact iff_of_true rfl rfl
  | some e => exact iff_of_false (by simp [closing]) (by simp)

/-- The object a simple query runs on. -/
def Conn.simpleInstance (c : Conn) : PyInstance :=
  match c.pySession with
  | some session => session
  | none => .simple

theorem simpleDoQuery_run {env : WireEnv} {w : WireWorld} {query : String} {responses : List PyResponse}
    (hr : env w.log (.python (.simpleDoQuery w.st.simpleInstance query)) = .ok responses)
    (hend : ∃ r ∈ responses, r.EndsTransaction) :
    (PyServerSimpleQueryHandler.doQuery query).run env w =
      (do PyExtendedHandler.closeAllPortals
          return responses.map PyResponse.intoPg : Proc (List Response)).run env
        (w.called (.python (.simpleDoQuery w.st.simpleInstance query)) (.ok responses)) := by
  have hany : (responses.map PyResponse.intoPg).any Response.isTransactionEnd = true := by
    obtain ⟨r, hr, hend⟩ := hend
    exact List.any_eq_true.mpr ⟨_, List.mem_map_of_mem hr, r.isTransactionEnd_intoPg.mpr hend⟩
  refine (Prog.run_bind env (callPython (.simpleDoQuery w.st.simpleInstance query)) _ w).trans ?_
  rw [callPython_run env w (.simpleDoQuery w.st.simpleInstance query) hr, Prog.resume_ok]
  exact congrArg (Prog.run env · _) (if_pos hany)

theorem doQuery_run {h : PyExtendedHandler} {env : WireEnv} {w : WireWorld} {portal : Portal} {maxRows : ℕ}
    {inst : PyInstance} {pyPortal : PyRef} {response : PyResponse} (hi : h.instanceFor w.st = some inst)
    (hp : PyExtendedHandler.portalFor w.st portal.name = .ok pyPortal)
    (hr : env w.log (.python (.doQuery inst pyPortal maxRows)) = .ok response) (hend : response.EndsTransaction) :
    (h.doQuery portal maxRows).run env w =
      (do PyExtendedHandler.closeAllPortals; return response.intoPg : Proc Response).run env
        (w.called (.python (.doQuery inst pyPortal maxRows)) (.ok response)) := by
  rw [PyExtendedHandler.doQuery, Prog.run_bind, Prog.run_get, Prog.resume_ok, hi]
  simp only [Prog.run_bind, Prog.run_ofOutcome, hp, Prog.resume_ok]
  rw [callPython_run env w (.doQuery inst pyPortal maxRows) hr]
  rw [Prog.resume_ok, if_pos (response.isTransactionEnd_intoPg.mpr hend), Prog.run_bind]

/-- **A transaction that ended is reported**, on either path, exactly when no portal raises when it is closed. -/
theorem commit_reported_iff (h : PyExtendedHandler) (env : WireEnv) (w : WireWorld) :
    (∀ query responses,
      env w.log (.python (.simpleDoQuery w.st.simpleInstance query)) = .ok responses →
      (∃ r ∈ responses, r.EndsTransaction) →
        (((PyServerSimpleQueryHandler.doQuery query).run env w).1 = .ok (responses.map PyResponse.intoPg) ↔
          closeAllError env
            (w.called (.python (.simpleDoQuery w.st.simpleInstance query)) (.ok responses)) = none)) ∧
    ∀ portal maxRows inst pyPortal response,
      h.instanceFor w.st = some inst → PyExtendedHandler.portalFor w.st portal.name = .ok pyPortal →
      env w.log (.python (.doQuery inst pyPortal maxRows)) = .ok response → response.EndsTransaction →
        (((h.doQuery portal maxRows).run env w).1 = .ok response.intoPg ↔
          closeAllError env (w.called (.python (.doQuery inst pyPortal maxRows)) (.ok response)) = none) := by
  refine ⟨fun query responses hr hend => ?_, fun portal maxRows inst pyPortal response hi hp hr hend => ?_⟩
  · rw [simpleDoQuery_run hr hend]
    exact closeAllPortals_return_iff env _ _
  · rw [doQuery_run hi hp hr hend]
    exact closeAllPortals_return_iff env _ _

theorem commit_reported_agreeing :
    ((PyServerSimpleQueryHandler.doQuery "COMMIT").run (committing (.ok ())) (portalOpen (.ok ()))).1 =
      .ok [.transactionEnd ⟨"COMMIT", none, none⟩] :=
  ((commit_reported_iff (.ascii true) (committing (.ok ())) (portalOpen (.ok ()))).1 "COMMIT"
    [.execution "COMMIT" none none (some .stop)] rfl ⟨_, .head _, trivial⟩).mpr rfl

/-- A transaction that was committed, and a client that is told otherwise. -/
theorem commit_unreported :
    let env := committing (.error closeFailed)
    let w := portalOpen (.error closeFailed)
    let responses : List PyResponse := [.execution "COMMIT" none none (some .stop)]
    env w.log (.python (.simpleDoQuery w.st.simpleInstance "COMMIT")) = .ok responses ∧
      (∃ r ∈ responses, r.EndsTransaction) ∧
      ((PyServerSimpleQueryHandler.doQuery "COMMIT").run env w).1 ≠ .ok (responses.map PyResponse.intoPg) := by
  intro env w responses
  have hrun : ((PyServerSimpleQueryHandler.doQuery "COMMIT").run env w).1 = .err (pyErrToPywire closeFailed) := rfl
  refine ⟨rfl, ⟨_, .head _, trivial⟩, ?_⟩
  rw [hrun]
  simp

/-! ### The outcome of a simple query -/

namespace PyServerSimpleQueryHandler

variable {h : PyServerSimpleQueryHandler} {env : WireEnv} {w w1 : WireWorld} {query : String}

/-- What `on_query` closes before it calls `_on_query`. -/
def closeDefaults (h : PyServerSimpleQueryHandler) : Proc Unit := do
  PyExtendedHandler.closePortal defaultName
  Prog.modify (Conn.rmPortal defaultName)
  h.extended.closeStatement defaultName

/-- `on_query` from its call of `_on_query` on. -/
theorem onQuery_run (hs : w.st.state = .readyForQuery) (hd : h.closeDefaults.run env w = (.ok (), w1)) :
    (h.onQuery query).run env w = (do
      let result ← (_onQuery query).attempt
      let client ← Prog.get
      if client.transactionStatus = .idle then PyExtendedHandler.closeAllPortals else pure ()
      Prog.ofExcept result : Proc Unit).run env w1 := by
  rw [onQuery, Prog.run_bind, Prog.run_get, Prog.resume_ok, if_neg (by simp [hs])]
  rw [closeDefaults, Prog.run_bind] at hd
  rw [Prog.run_bind]
  rcases hc : (PyExtendedHandler.closePortal defaultName).run env w with ⟨_ | _ | _, w'⟩
  · rw [hc, Prog.resume_ok, Prog.run_bind, Prog.run_modify, Prog.resume_ok] at hd
    rw [Prog.resume_ok, Prog.run_bind, Prog.run_modify, Prog.resume_ok, Prog.run_bind, hd, Prog.resume_ok]
  · rw [hc] at hd
    cases hd
  · rw [hc] at hd
    cases hd

theorem closeAllPortals_ne_panic : (PyExtendedHandler.closeAllPortals.run env w).1 ≠ .panic := by
  obtain ⟨w', hrun, -⟩ := closeAllPortals_run env w
  rw [hrun]
  cases closeAllError env w <;> simp [closing]

theorem callPython_ne_panic (c : PyCall) : ((callPython c).run env w).1 ≠ .panic := by
  rw [callPython]
  refine Prog.run_bind_ne_panic env (by simp) fun r w' => ?_
  cases r <;> simp

theorem sendResponses_ne_panic (responses : List Response) :
    ((PyExtendedHandler.sendResponses responses).run env w).1 ≠ .panic := by
  rw [PyExtendedHandler.sendResponses]
  refine Prog.run_bind_ne_panic env (by simp) fun settled w' => ?_
  refine Prog.run_bind_ne_panic env (by simp) fun _ w'' => ?_
  cases settled.result <;> simp

theorem doQuery_ne_panic : ((doQuery query).run env w).1 ≠ .panic := by
  rw [doQuery]
  refine Prog.run_bind_ne_panic env (by simp) fun client w' => ?_
  refine Prog.run_bind_ne_panic env (callPython_ne_panic _) fun responses w'' => ?_
  dsimp only
  split
  · exact Prog.run_bind_ne_panic env closeAllPortals_ne_panic fun _ _ => by simp
  · simp

theorem _onQuery_ne_panic : ((_onQuery query).run env w).1 ≠ .panic := by
  rw [_onQuery]
  refine Prog.run_bind_ne_panic env (by simp) fun _ w' => ?_
  refine Prog.run_bind_ne_panic env (by simp) fun empty w' => ?_
  split
  · exact Prog.run_bind_ne_panic env (sendResponses_ne_panic _) fun _ _ => by simp
  · refine Prog.run_bind_ne_panic env doQuery_ne_panic fun responses w' => ?_
    exact Prog.run_bind_ne_panic env (sendResponses_ne_panic _) fun _ _ => by simp

/-- **The outcome of a query survives** the closing behind it exactly when an open transaction leaves the portals
alone, or no portal raises another error. -/
theorem outcome_survives_iff (hs : w.st.state = .readyForQuery) (hd : h.closeDefaults.run env w = (.ok (), w1)) :
    ((h.onQuery query).run env w).1 = ((_onQuery query).run env w1).1 ↔
      ((_onQuery query).run env w1).2.st.transactionStatus ≠ .idle ∨
        ∀ e, closeAllError env ((_onQuery query).run env w1).2 = some e → ((_onQuery query).run env w1).1 = .err e := by
  have hpanic : ((_onQuery query).run env w1).1 ≠ .panic := _onQuery_ne_panic
  rw [onQuery_run hs hd, Prog.run_bind, Prog.run_attempt]
  generalize (_onQuery query).run env w1 = called at hpanic ⊢
  obtain ⟨o, w2⟩ := called
  have hlast : ∀ result : Except PgWireError Unit, ((do
      let client ← Prog.get
      if client.transactionStatus = .idle then PyExtendedHandler.closeAllPortals else pure ()
      Prog.ofExcept result : Proc Unit).run env w2).1 = (match result with | .ok a => .ok a | .error e => .err e) ↔
        w2.st.transactionStatus ≠ .idle ∨ ∀ e, closeAllError env w2 = some e → result = .error e := by
    intro result
    rw [Prog.run_bind, Prog.run_get, Prog.resume_ok]
    by_cases hidle : w2.st.transactionStatus = .idle
    · obtain ⟨w3, hrun, -⟩ := closeAllPortals_run env w2
      rw [if_pos hidle, Prog.run_bind, hrun]
      cases closeAllError env w2 with
      | none => cases result <;> simp [closing]
      | some e => cases result <;> simp [closing, hidle, eq_comm]
    · cases result <;> simp [hidle]
  cases o with
  | ok a => simpa using hlast (.ok a)
  | err e => simpa using hlast (.error e)
  | panic => exact absurd rfl hpanic

theorem outcome_survives_agreeing :
    let h : PyServerSimpleQueryHandler := ⟨.ascii true⟩
    let env := committing (.ok ())
    let w1 := (h.closeDefaults.run env (portalOpen (.ok ()))).2
    ((h.onQuery "SELECT 1").run env (portalOpen (.ok ()))).1 = ((_onQuery "SELECT 1").run env w1).1 := by
  intro h env w1
  have hclosed : closeAllError env ((_onQuery "SELECT 1").run env w1).2 = none := rfl
  refine (outcome_survives_iff rfl rfl).mpr (.inr fun e he => ?_)
  rw [hclosed] at he
  cases he

/-- A query that succeeded, and a client that is told of an error. -/
theorem outcome_lost :
    let h : PyServerSimpleQueryHandler := ⟨.ascii true⟩
    let env := committing (.error closeFailed)
    let w := portalOpen (.error closeFailed)
    let w1 := (h.closeDefaults.run env w).2
    w.st.state = .readyForQuery ∧ h.closeDefaults.run env w = (.ok (), w1) ∧
      ((_onQuery "SELECT 1").run env w1).1 = .ok () ∧
      ((h.onQuery "SELECT 1").run env w).1 ≠ ((_onQuery "SELECT 1").run env w1).1 := by
  intro h env w w1
  have hquery : ((_onQuery "SELECT 1").run env w1).1 = .ok () := rfl
  have hrun : ((h.onQuery "SELECT 1").run env w).1 = .err (pyErrToPywire closeFailed) := rfl
  refine ⟨rfl, rfl, rfl, ?_⟩
  rw [hquery, hrun]
  simp

end PyServerSimpleQueryHandler

end Pywire
