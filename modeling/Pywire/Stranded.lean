import Pywire.Discipline

/-!
# Stranded: a connection that left startup by an error

pgwire answers a startup message that failed like any other: it reports the error, and goes on in the state
`ReadyForQuery`.  The messages that follow are dispatched to the query handlers, but nobody has put the
`PythonPortals` into the session extensions, and no session was opened.  The close routines find nothing to close,
and no portal can be bound; the first statement that a callback returns ends the connection in a panic.

* `PyServerHandlers.onMessage_stranded`: what one message does to such a connection.
-/

namespace Pywire

open Async

/-! ### Startup that was refused -/

/-- A startup message failed, and pgwire went on to queries. -/
def startupRefusal : WireEvent → Bool
  | .called (.processError state _) handled => state.isStartup && handled.state.isSome
  | _ => false

def StartupRefused (log : Log) : Prop := log.any startupRefusal = true

instance (log : Log) : Decidable (StartupRefused log) := inferInstanceAs (Decidable (_ = true))

/-- The `parse_statement` call at `k` returned the statement `name` on `on`. -/
def StatementParsed (log : Log) (k : ℕ) (on : PyInstance) (name : String) : Prop :=
  ∃ sql typeOids, log[k]? = some (.called (.python (.parseStatement on name sql typeOids)) (.ok ()))

/-- A statement was parsed although startup had been refused. -/
def StrandedParse (log : Log) : Prop := ∃ k on name, StatementParsed log k on name ∧ StartupRefused (log.take k)

section Refused

variable {log log' : Log} {e : WireEvent}

theorem not_startupRefused_nil : ¬ StartupRefused [] := by simp [StartupRefused]

theorem startupRefused_concat : StartupRefused (log ++ [e]) ↔ StartupRefused log ∨ startupRefusal e = true := by
  simp [StartupRefused]

theorem StartupRefused.of_prefix (h : StartupRefused log) (hl : log <+: log') : StartupRefused log' := by
  obtain ⟨tail, rfl⟩ := hl
  rw [StartupRefused, List.any_append, show log.any startupRefusal = true from h, Bool.true_or]

/-- Nothing but the report of an error refuses startup. -/
theorem startupRefusal_called {c : Call} {r : c.Reply} (hc : ∀ state e, c ≠ .processError state e) :
    startupRefusal (.called c r) = false := by
  cases c with
  | processError state e => exact absurd rfl (hc state e)
  | _ => rfl

theorem StrandedParse.refused (h : StrandedParse log) : StartupRefused log := by
  obtain ⟨k, on, name, -, hrefused⟩ := h
  exact hrefused.of_prefix (List.take_prefix _ _)

theorem StrandedParse.of_prefix (h : StrandedParse log) (hl : log <+: log') : StrandedParse log' := by
  obtain ⟨k, on, name, ⟨sql, typeOids, hk⟩, hrefused⟩ := h
  obtain ⟨tail, rfl⟩ := hl
  have hlt := (List.getElem?_eq_some_iff.mp hk).1
  refine ⟨k, on, name, ⟨sql, typeOids, ?_⟩, ?_⟩
  · rwa [List.getElem?_append_left hlt]
  · rwa [List.take_append_of_le_length (Nat.le_of_lt hlt)]

/-- The last event parses no statement. -/
theorem StrandedParse.of_concat (he : ∀ on name, (statementAct e) ≠ .opened name on)
    (h : StrandedParse (log ++ [e])) : StrandedParse log := by
  obtain ⟨k, on, name, ⟨sql, typeOids, hk⟩, hrefused⟩ := h
  rcases Nat.lt_or_ge k log.length with hlt | hge
  · rw [List.getElem?_append_left hlt] at hk
    rw [List.take_append_of_le_length (Nat.le_of_lt hlt)] at hrefused
    exact ⟨k, on, name, ⟨sql, typeOids, hk⟩, hrefused⟩
  · rw [List.getElem?_append_right hge] at hk
    obtain rfl := List.mem_singleton.mp (List.mem_of_getElem? hk)
    exact absurd rfl (he on name)

theorem Quiet.opens_nothing (he : Quiet e) (on : PyInstance) (name : String) : statementAct e ≠ .opened name on := by
  intro hact
  have hkeeps := he.2.1
  rw [hact] at hkeeps
  cases hkeeps

end Refused

/-! ### Stranded connections -/

/-- A connection after startup that nothing was installed on. -/
structure Stranded (h : PyExtendedHandler) (w : WireWorld) : Prop where
  inv : Inv h w.st w.log
  fresh : ∀ n, w.st.resources.portals.lookup n = none ∧ w.st.resources.statements.lookup n = none
  pySession : w.st.pySession = none
  missing : w.st.installed = false
  phase : w.st.state.isStartup = false
  refused : StartupRefused w.log
  unparsed : ¬ StrandedParse w.log

/-- `PythonPortals` and the statements of pgwire's store are what they were. -/
structure Undisturbed (c c' : Conn) : Prop where
  resources : c'.resources = c.resources
  stored : c'.store.statements = c.store.statements

theorem Undisturbed.refl (c : Conn) : Undisturbed c c := ⟨rfl, rfl⟩

theorem Undisturbed.trans {c c' c'' : Conn} (h : Undisturbed c c') (h' : Undisturbed c' c'') : Undisturbed c c'' :=
  ⟨h'.resources.trans h.resources, h'.stored.trans h.stored⟩

/-- A stranded connection after a routine that stored nothing. -/
structure Stays (h : PyExtendedHandler) (w w' : WireWorld) : Prop where
  stranded : Stranded h w'
  undisturbed : Undisturbed w.st w'.st

/-- A stranded connection after an empty query was parsed, under a name that is free or the unnamed one. -/
structure EmptyStored (h : PyExtendedHandler) (message : Parse) (w w' : WireWorld) : Prop where
  stranded : Stranded h w'
  resources : w'.st.resources = w.st.resources
  empty : isEmptyQuery message.query = true
  free : message.name.getD defaultName = defaultName ∨
    w.st.store.statements.lookup (message.name.getD defaultName) = none
  stored : w'.st.store.statements = w.st.store.statements.insert (message.name.getD defaultName) .empty

/-- The panic of a connection without its resources: at most a statement was received. -/
inductive Wrecked (h : PyExtendedHandler) : WireWorld → Prop where
  | bind {w : WireWorld} (hw : Stranded h w) : Wrecked h w
  | parse {w : WireWorld} (hw : Stranded h w) (on : PyInstance) (name sql : String) (typeOids : List UInt32)
      (hfree : heldStatements w.log name = none) :
      Wrecked h (w.called (.python (.parseStatement on name sql typeOids)) (.ok ()))

section Stranded

variable {h : PyExtendedHandler} {w : WireWorld} {C : WireWorld → Call → Prop}

theorem Stranded.quiet {c : Call} {r : c.Reply} (hw : Stranded h w) (he : Quiet (.called c r)) :
    Stranded h (w.called c r) :=
  ⟨hw.inv.quiet he, hw.fresh, hw.pySession, hw.missing, hw.phase, hw.refused.of_prefix (List.prefix_append _ _),
    fun hp => hw.unparsed (hp.of_concat he.opens_nothing)⟩

theorem Stranded.congr {c : Conn} (hw : Stranded h w) (hr : c.resources = w.st.resources) (hs : c.store = w.st.store)
    (hp : c.pySession = w.st.pySession) (hi : c.installed = w.st.installed) (hphase : c.state.isStartup = false) :
    Stranded h ⟨c, w.log⟩ :=
  ⟨hw.inv.congr hr hs hp, fun n => by rw [hr]; exact hw.fresh n, hp.trans hw.pySession, hi.trans hw.missing, hphase,
    hw.refused, hw.unparsed⟩

theorem Wrecked.refused (hw : Wrecked h w) : StartupRefused w.log := by
  cases hw with
  | bind hw => exact hw.refused
  | parse hw => exact hw.refused.of_prefix (List.prefix_append _ _)

theorem Wrecked.stranded (hw : Wrecked h w) : ∃ log, Stranded h ⟨w.st, log⟩ := by
  cases hw with
  | bind hw => exact ⟨_, hw⟩
  | parse hw => exact ⟨_, hw⟩

theorem Stranded.stays (hw : Stranded h w) : Stays h w w := ⟨hw, .refl _⟩

/-- The connection changed where nothing is stored. -/
theorem Stranded.stays_modify {f : Conn → Conn} (hw : Stranded h w) (hr : (f w.st).resources = w.st.resources)
    (hs : (f w.st).store = w.st.store) (hp : (f w.st).pySession = w.st.pySession)
    (hi : (f w.st).installed = w.st.installed) (hphase : (f w.st).state.isStartup = false) : Stays h w (w.modify f) :=
  ⟨hw.congr hr hs hp hi hphase, hr, by rw [World.modify_st, hs]⟩

theorem Stays.trans {w' w'' : WireWorld} (hi : Stays h w w') (hi' : Stays h w' w'') : Stays h w w'' :=
  ⟨hi'.stranded, hi.undisturbed.trans hi'.undisturbed⟩

theorem Stranded.stays_quiet {c : Call} {r : c.Reply} (hw : Stranded h w) (he : Quiet (.called c r)) :
    Stays h w (w.called c r) := ⟨hw.quiet he, .refl _⟩

theorem Stranded.rmPortal (hw : Stranded h w) (n : String) : Stays h w (w.modify (Conn.rmPortal n)) :=
  ⟨⟨hw.inv.rmPortal (hw.fresh n).1, hw.fresh, hw.pySession, hw.missing, hw.phase, hw.refused, hw.unparsed⟩, rfl, rfl⟩

theorem Stranded.not_value (hw : Stranded h w) (n : String) (st : StoredStatement) :
    w.st.store.statements.lookup n ≠ some (.value st) := by
  intro hst
  cases hw.inv.statement n with
  | absent py stored => rw [stored] at hst; cases hst
  | empty py stored => rw [stored] at hst; cases hst
  | value st' i py => rw [(hw.fresh n).2] at py; cases py

theorem Stranded.no_statement (hw : Stranded h w) (n : String) : statementObject w.log n = none := by
  cases hw.inv.statement n with
  | absent py stored object => exact object
  | empty py stored object => exact object
  | value st i py => rw [(hw.fresh n).2] at py; cases py

theorem Stranded.no_portal (hw : Stranded h w) (n : String) :
    portalObject w.log n = none ∧ w.st.store.portals.lookup n = none :=
  portalObject_none_of_py hw.inv (hw.fresh n).1

/-- An empty statement takes the place of nothing, or of another empty one. -/
theorem Stranded.putEmptyStatement (hw : Stranded h w) (n : String) :
    Stranded h (w.modify (Conn.putEmptyStatement n)) := by
  have hstored : ∀ m, (Conn.putEmptyStatement n w.st).store.statements.lookup m =
      if m = n then some .empty else w.st.store.statements.lookup m := fun m => StrMap.lookup_insert_eq_if _ _ _ _
  have hinv : Inv h (Conn.putEmptyStatement n w.st) w.log := by
    refine ⟨hw.inv.unlocked, fun m => ?_, fun m => ?_, hw.inv.session, hw.inv.opened, hw.inv.pySession⟩
    · exact .absent (hw.fresh m).1 (hw.no_portal m).2 (hw.no_portal m).1
    · by_cases hm : m = n
      · exact .empty (hw.fresh m).2 (by rw [hstored, if_pos hm]) (hw.no_statement m)
      · exact (hw.inv.statement m).transport rfl (by rw [hstored, if_neg hm]) rfl rfl
  exact ⟨hinv, hw.fresh, hw.pySession, hw.missing, hw.phase, hw.refused, hw.unparsed⟩

/-! ### The close routines have nothing to do -/

theorem sat_closePortal_missing (hi : w.st.installed = false) (n : String)
    {Q : Outcome PgWireError Unit → WireWorld → Prop} :
    Prog.Sat C (PyExtendedHandler.closePortal n) w Q ↔ Q (.ok ()) w := by
  simp only [PyExtendedHandler.closePortal, Prog.sat_bind, Prog.sat_get, Prog.after_ok, hi, Bool.false_eq_true,
    if_false, Prog.sat_pure]

theorem sat_closeStatement_missing (hi : w.st.installed = false) (n : String)
    {Q : Outcome PgWireError Unit → WireWorld → Prop} :
    Prog.Sat C (h.closeStatement n) w Q ↔ Q (.ok ()) w := by
  simp only [PyExtendedHandler.closeStatement, Prog.sat_bind, Prog.sat_get, Prog.after_ok, hi, Bool.false_eq_true,
    if_false, Prog.sat_pure]

theorem sat_closeAllPortals_missing (hi : w.st.installed = false) {Q : Outcome PgWireError Unit → WireWorld → Prop} :
    Prog.Sat C PyExtendedHandler.closeAllPortals w Q ↔ Q (.ok ()) (w.modify (Conn.rmPortal defaultName)) := by
  simp only [PyExtendedHandler.closeAllPortals, PyExtendedHandler.portalNames, PyExtendedHandler.closeEach,
    Prog.sat_bind, Prog.sat_get, Prog.after_ok, hi, Bool.false_eq_true, if_false, Prog.sat_pure, Prog.sat_modify]

theorem sat_expectResources_missing (hi : w.st.installed = false) {Q : Outcome PgWireError Unit → WireWorld → Prop} :
    Prog.Sat C PyExtendedHandler.expectResources w Q ↔ Q .panic w := by
  simp only [PyExtendedHandler.expectResources, Prog.sat_bind, Prog.sat_get, Prog.after_ok, hi, Bool.false_eq_true,
    if_false, Prog.sat_panic]

theorem portalFor_missing {c : Conn} (hi : c.installed = false) (n : String) :
    PyExtendedHandler.portalFor c n = .err (.portalNotFound n) := by
  rw [PyExtendedHandler.portalFor, hi]
  rfl

/-! ### The handlers -/

/-- A callback of a stranded connection; no session serves it. -/
theorem Stranded.callback {c : Call} {on : PyInstance} (hw : Stranded h w) (hp : Permitted w.log c)
    (hon : c.on = some on) (hc : c.isClose = false) : AtCall h none w c :=
  hw.inv.callback hw.pySession hp hon (by simp) hc

theorem Stranded.send_sat (hw : Stranded h w) (m : PgWireBackendMessage)
    {Q : Outcome PgWireError Unit → WireWorld → Prop} (hQ : ∀ w', Stays h w w' → Q (.ok ()) w') :
    Prog.Sat (AtCall h none) (send m) w Q := by
  simp only [Prog.sat_await]
  exact ⟨atCall_of_plain hw.inv rfl, fun r => hQ _ (hw.stays_quiet (quiet_of_plain rfl))⟩

/-- How a message ends on a stranded connection. -/
def Halts (h : PyExtendedHandler) (w : WireWorld) (ok : WireWorld → Prop) :
    Outcome PgWireError Unit → WireWorld → Prop
  | .ok _, w' => ok w'
  | .err _, w' => Stays h w w'
  | .panic, w' => Wrecked h w' ∧ Undisturbed w.st w'.st

theorem Halts.of_ends {ok : WireWorld → Prop} {o : Outcome PgWireError Unit} {w' : WireWorld}
    (ho : Ends (Stays h w) (Stays h w) o w') (hok : Stays h w w' → ok w') : Halts h w ok o w' := by
  cases o with
  | ok u => exact hok ho
  | err e => exact ho
  | panic => exact ho.elim

/-- **One routine after another**, on a stranded connection. -/
theorem stays_seq {α β : Type} {t : Proc α} {f : α → Proc β}
    (ht : Prog.Sat (AtCall h none) t w (Ends (Stays h w) (Stays h w)))
    (hf : ∀ a w', Stranded h w' → Prog.Sat (AtCall h none) (f a) w' (Ends (Stays h w') (Stays h w'))) :
    Prog.Sat (AtCall h none) (t >>= f) w (Ends (Stays h w) (Stays h w)) := by
  refine sat_seq ht (fun a w1 h1 => ?_) fun _ h1 => h1
  exact (hf a w1 h1.stranded).post fun _ _ ho => ho.imp h1.trans h1.trans

theorem storeParsed_stranded (hw : Stranded h w) {message : Parse}
    (hfree : message.name.getD defaultName = defaultName ∨
      w.st.store.statements.lookup (message.name.getD defaultName) = none) :
    Prog.Sat (AtCall h none) (h.storeParsed (message.name.getD defaultName) message) w
      (Halts h w (EmptyStored h message w)) := by
  unfold PyExtendedHandler.storeParsed
  split
  · rename_i hempty
    simp only [Prog.sat_bind, Prog.sat_modify, Prog.after_ok]
    refine (hw.putEmptyStatement _).send_sat .parseComplete fun w' hw' => ?_
    exact ⟨hw'.stranded, hw'.undisturbed.resources, hempty, hfree, hw'.undisturbed.stored⟩
  · simp only [Prog.sat_bind, Prog.sat_get, Prog.after_ok]
    cases hi : h.instanceFor w.st with
    | none =>
      simp only [PyExtendedHandler.parseStatement, Prog.sat_fail, Prog.after_err]
      exact hw.stays
    | some i =>
      simp only [PyExtendedHandler.parseStatement, sat_callPythonRef]
      have hheld := Ledger.object_eq_none.mp (hw.no_statement (message.name.getD defaultName))
      refine ⟨hw.callback hheld rfl rfl, fun r => ?_, fun e => ?_⟩
      · -- the resources that startup should have installed are not there
        simp only [Prog.after_ok, Outcome.expect_some, Prog.sat_bind, Prog.sat_ofOutcome]
        exact (sat_expectResources_missing (w := w.called _ _) hw.missing).mpr
          ⟨.parse hw i _ message.query message.typeOids hheld, .refl _⟩
      · exact hw.stays_quiet (quiet_of_on rfl rfl rfl)

theorem onParse_stranded (hw : Stranded h w) (message : Parse) :
    Prog.Sat (AtCall h none) (h.onParse message) w (Halts h w (EmptyStored h message w)) := by
  simp only [PyExtendedHandler.onParse, Prog.sat_bind, Prog.sat_get, Prog.after_ok]
  split
  · rename_i hname
    rw [Prog.sat_bind, sat_closeStatement_missing hw.missing, Prog.after_ok]
    exact storeParsed_stranded hw (.inl hname)
  split
  · exact hw.stays
  · rename_i hfree
    exact storeParsed_stranded hw (.inr (by simpa using hfree))

/-- No portal can be bound. -/
theorem onBind_stranded (hw : Stranded h w) (message : Bind) :
    Prog.Sat (AtCall h none) (h.onBind message) w (Halts h w fun _ => False) := by
  simp only [PyExtendedHandler.onBind, Prog.sat_bind, Prog.sat_get, Prog.after_ok]
  generalize message.statementName.getD defaultName = statementName
  split
  · exact hw.stays
  split
  · exact hw.stays
  split
  · rename_i statement hst
    exact absurd hst (hw.not_value statementName statement)
  · split
    · exact hw.stays
    rw [Prog.sat_bind, sat_closePortal_missing hw.missing, Prog.after_ok, Prog.sat_bind, Prog.sat_modify, Prog.after_ok,
      Prog.sat_bind]
    have hw1 := hw.rmPortal (message.portalName.getD defaultName)
    exact (sat_expectResources_missing hw1.stranded.missing).mpr ⟨.bind hw1.stranded, hw1.undisturbed⟩
  · exact hw.stays

theorem onSync_stranded (hw : Stranded h w) :
    Prog.Sat (AtCall h none) PyExtendedHandler.onSync w (Ends (Stays h w) (Stays h w)) := by
  have answer : ∀ {w' : WireWorld}, Stays h w w' → Prog.Sat (AtCall h none)
      (do
        let client ← Prog.get
        send (.readyForQuery client.transactionStatus)
        await .flush) w' (Ends (Stays h w) (Stays h w)) := by
    intro w' hw'
    simp only [Prog.sat_bind, Prog.sat_get, Prog.after_ok]
    refine hw'.stranded.send_sat _ fun w1 hw1 => ?_
    simp only [Prog.after_ok, Prog.sat_await]
    have hstays := hw'.trans hw1
    exact ⟨atCall_of_plain hstays.stranded.inv rfl, fun r =>
      hstays.trans (hstays.stranded.stays_quiet (quiet_of_plain rfl))⟩
  simp only [PyExtendedHandler.onSync, Prog.sat_bind, Prog.sat_get, Prog.after_ok]
  split
  · rw [Prog.sat_bind, sat_closeAllPortals_missing hw.missing, Prog.after_ok]
    exact answer (hw.rmPortal _)
  · exact answer hw.stays

theorem onClose_stranded (hw : Stranded h w) (message : Target) :
    Prog.Sat (AtCall h none) (h.onClose message) w (Ends (Stays h w) (Stays h w)) := by
  simp only [PyExtendedHandler.onClose]
  split
  · rw [Prog.sat_bind, sat_closeStatement_missing hw.missing, Prog.after_ok]
    exact hw.send_sat _ fun _ hw' => hw'
  split
  · rw [Prog.sat_bind, sat_closePortal_missing hw.missing, Prog.after_ok, Prog.sat_bind, Prog.sat_modify, Prog.after_ok]
    have hw1 := hw.rmPortal (message.name.getD defaultName)
    exact hw1.stranded.send_sat _ fun _ hw' => hw1.trans hw'
  · exact hw.stays

theorem onDescribe_stranded (hw : Stranded h w) (message : Target) :
    Prog.Sat (AtCall h none) (h.onDescribe message) w (Ends (Stays h w) (Stays h w)) := by
  simp only [PyExtendedHandler.onDescribe, Prog.sat_bind, Prog.sat_get, Prog.after_ok]
  split
  · split
    · rename_i statement hst
      exact absurd hst (hw.not_value _ statement)
    · rw [Prog.sat_bind]
      refine hw.send_sat _ fun w1 hw1 => ?_
      exact hw1.stranded.send_sat _ fun _ hw2 => hw1.trans hw2
    · exact hw.stays
  split
  · have hnone := (hw.no_portal (message.name.getD defaultName)).2
    split
    · rename_i hst
      rw [hnone] at hst
      cases hst
    · rename_i hst
      rw [hnone] at hst
      cases hst
    · exact hw.stays
  · exact hw.stays

theorem sendResponses_stranded (hw : Stranded h w) (responses : List Response) :
    Prog.Sat (AtCall h none) (PyExtendedHandler.sendResponses responses) w (Ends (Stays h w) (Stays h w)) := by
  simp only [PyExtendedHandler.sendResponses, Prog.sat_bind, Prog.sat_await, Prog.after_ok, Prog.sat_modify,
    Prog.sat_ofExcept]
  refine ⟨atCall_of_plain hw.inv rfl, fun r => ?_⟩
  have hw1 : Stays h w (w.called (.sendResponses responses) r) := hw.stays_quiet (quiet_of_plain rfl)
  have hw2 := hw1.trans (hw1.stranded.stays_modify
    (f := fun client => { client with transactionStatus := r.transactionStatus }) rfl rfl rfl rfl hw.phase)
  exact ⟨fun _ _ => hw2, fun _ _ => hw2⟩

theorem onExecute_stranded (hw : Stranded h w) (message : Execute) :
    Prog.Sat (AtCall h none) (h.onExecute message) w (Ends (Stays h w) (Stays h w)) := by
  simp only [PyExtendedHandler.onExecute, Prog.sat_bind, Prog.sat_get, Prog.after_ok,
    (hw.no_portal (message.name.getD defaultName)).2, Prog.sat_fail]
  exact hw.stays

theorem doQuery_stranded (hw : Stranded h w) (portal : Portal) (maxRows : ℕ) :
    Prog.Sat (AtCall h none) (h.doQuery portal maxRows) w fun o w' => (∃ e, o = .err e) ∧ w' = w := by
  simp only [PyExtendedHandler.doQuery, Prog.sat_bind, Prog.sat_get, Prog.after_ok]
  cases h.instanceFor w.st with
  | none => exact ⟨⟨_, rfl⟩, rfl⟩
  | some i =>
    rw [Prog.sat_bind, Prog.sat_ofOutcome, portalFor_missing hw.missing, Prog.after_err]
    exact ⟨⟨_, rfl⟩, rfl⟩

theorem simpleDoQuery_stranded (hw : Stranded h w) (query : String) :
    Prog.Sat (AtCall h none) (PyServerSimpleQueryHandler.doQuery query) w (Ends (Stays h w) (Stays h w)) := by
  simp only [PyServerSimpleQueryHandler.doQuery, Prog.sat_bind, Prog.sat_get, Prog.after_ok, sat_callPython]
  refine ⟨hw.callback trivial rfl rfl, fun r => ?_, fun e => ?_⟩
  · have hw1 : Stays h w (w.called (.python (.simpleDoQuery _ query)) (.ok r)) :=
      hw.stays_quiet (quiet_of_on rfl rfl rfl)
    split
    · rw [Prog.sat_bind, sat_closeAllPortals_missing hw1.stranded.missing, Prog.after_ok]
      exact hw1.trans (hw1.stranded.rmPortal _)
    · exact hw1
  · exact hw.stays_quiet (quiet_of_on rfl rfl rfl)

theorem innerOnQuery_stranded (hw : Stranded h w) (query : String) :
    Prog.Sat (AtCall h none) (PyServerSimpleQueryHandler._onQuery query) w (Ends (Stays h w) (Stays h w)) := by
  have finish : ∀ {w' : WireWorld}, Stranded h w' → Prog.Sat (AtCall h none)
      (do
        Prog.modify fun client => { client with state := .readyForQuery }
        let client ← Prog.get
        send (.readyForQuery client.transactionStatus)) w' (Ends (Stays h w') (Stays h w')) := by
    intro w' hw'
    simp only [Prog.sat_bind, Prog.sat_modify, Prog.after_ok, Prog.sat_get]
    have hw1 : Stays h w' (w'.modify fun client => { client with state := .readyForQuery }) :=
      hw'.stays_modify rfl rfl rfl rfl rfl
    exact hw1.stranded.send_sat _ fun _ hw2 => hw1.trans hw2
  simp only [PyServerSimpleQueryHandler._onQuery, Prog.sat_bind, Prog.sat_modify, Prog.after_ok, Prog.sat_await]
  have hw1 : Stays h w (w.modify fun client => { client with state := .queryInProgress }) :=
    hw.stays_modify rfl rfl rfl rfl rfl
  refine ⟨atCall_of_plain hw1.stranded.inv rfl, fun r => ?_⟩
  have hw2 := hw1.trans (hw1.stranded.stays_quiet (c := .isEmptySimpleQuery query) (r := r) (quiet_of_plain rfl))
  have back : ∀ {o : Outcome PgWireError Unit} {w' : WireWorld}, Ends (Stays h _) (Stays h _) o w' →
      Ends (Stays h w) (Stays h w) o w' := fun ho => ho.imp hw2.trans hw2.trans
  split
  · exact (stays_seq (sendResponses_stranded hw2.stranded _) fun _ _ hw3 => finish hw3).post fun _ _ => back
  · refine Prog.Sat.post ?_ fun _ _ => back
    refine stays_seq (simpleDoQuery_stranded hw2.stranded query) fun _ w3 hw3 => ?_
    exact stays_seq (sendResponses_stranded hw3 _) fun _ _ hw4 => finish hw4

theorem PyServerSimpleQueryHandler.onQuery_stranded (hs : PyServerSimpleQueryHandler) (hw : Stranded h w) (query : String) :
    Prog.Sat (AtCall h none) (hs.onQuery query) w (Ends (Stays h w) (Stays h w)) := by
  have finish : ∀ {w' : WireWorld} (result : Except PgWireError Unit), Stays h w w' → Prog.Sat (AtCall h none)
      (do
        let client ← Prog.get
        if client.transactionStatus = .idle then PyExtendedHandler.closeAllPortals else pure ()
        Prog.ofExcept result) w' (Ends (Stays h w) (Stays h w)) := by
    intro w' result hw'
    simp only [Prog.sat_bind, Prog.sat_get, Prog.after_ok]
    split
    · rw [Prog.sat_bind, sat_closeAllPortals_missing hw'.stranded.missing, Prog.after_ok, Prog.sat_ofExcept]
      have hw1 := hw'.trans (hw'.stranded.rmPortal defaultName)
      exact ⟨fun _ _ => hw1, fun _ _ => hw1⟩
    · exact (Prog.sat_ofExcept _).mpr ⟨fun _ _ => hw', fun _ _ => hw'⟩
  simp only [PyServerSimpleQueryHandler.onQuery, Prog.sat_bind, Prog.sat_get, Prog.after_ok]
  split
  · exact hw.stays
  have hw1 := hw.rmPortal defaultName
  rw [Prog.sat_bind, sat_closePortal_missing hw.missing, Prog.after_ok, Prog.sat_bind, Prog.sat_modify, Prog.after_ok,
    Prog.sat_bind, sat_closeStatement_missing hw1.stranded.missing, Prog.after_ok, Prog.sat_bind, Prog.sat_attempt]
  refine (innerOnQuery_stranded hw1.stranded query).post ?_
  rintro (_ | e | _) w3 hw3
  · exact finish _ (hw1.trans hw3)
  · exact finish _ (hw1.trans hw3)
  · exact hw3.elim

/-- What a message that is handled stores on a stranded connection: nothing, or an empty statement. -/
inductive Stored (h : PyExtendedHandler) (w : WireWorld) : PgWireFrontendMessage → WireWorld → Prop where
  | nothing {message : PgWireFrontendMessage} {w' : WireWorld} (hparse : ∀ p, message ≠ .parse p)
      (hbind : ∀ p, message ≠ .bind p) (hw : Stays h w w') : Stored h w message w'
  | empty {message : Parse} {w' : WireWorld} (hw : EmptyStored h message w w') :
      Stored h w (.parse message) w'

theorem Stored.stranded {message : PgWireFrontendMessage} {w' : WireWorld} (hs : Stored h w message w') :
    Stranded h w' := by
  cases hs with
  | nothing _ _ hw => exact hw.stranded
  | empty hw => exact hw.stranded

/-- **One message** on a stranded connection. -/
theorem PyServerHandlers.onMessage_stranded {x : PyServerHandlers} (hw : Stranded h w) (hx : x.extendedQuery = h)
    (message : PgWireFrontendMessage) :
    Prog.Sat (AtCall h none) (x.onMessage message) w (Halts h w (Stored h w message)) := by
  subst hx
  have nothing : ∀ {message : PgWireFrontendMessage} {o : Outcome PgWireError Unit} {w' : WireWorld},
      (∀ p, message ≠ .parse p) → (∀ p, message ≠ .bind p) →
        Ends (Stays x.extendedQuery w) (Stays x.extendedQuery w) o w' →
          Halts x.extendedQuery w (Stored x.extendedQuery w message) o w' :=
    fun hparse hbind ho => .of_ends ho (.nothing hparse hbind)
  cases message with
  | query query => exact (x.simpleQuery.onQuery_stranded hw query).post fun _ _ ho => nothing (by simp) (by simp) ho
  | parse message =>
    refine (onParse_stranded hw message).post ?_
    rintro (_ | e | _) w' ho
    · exact Stored.empty ho
    · exact ho
    · exact ho
  | bind message =>
    refine (onBind_stranded hw message).post ?_
    rintro (_ | e | _) w' ho
    · exact ho.elim
    · exact ho
    · exact ho
  | describe message => exact (onDescribe_stranded hw message).post fun _ _ ho => nothing (by simp) (by simp) ho
  | execute message => exact (onExecute_stranded hw message).post fun _ _ ho => nothing (by simp) (by simp) ho
  | close message => exact (onClose_stranded hw message).post fun _ _ ho => nothing (by simp) (by simp) ho
  | sync => exact (onSync_stranded hw).post fun _ _ ho => nothing (by simp) (by simp) ho
  | startup message => exact Stored.nothing (by simp) (by simp) hw.stays
  | passwordMessageFamily message => exact Stored.nothing (by simp) (by simp) hw.stays
  | other => exact Stored.nothing (by simp) (by simp) hw.stays

end Stranded

end Pywire
