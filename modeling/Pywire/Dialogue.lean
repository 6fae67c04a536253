import Pywire.Lib.Maintain
import Pywire.Server

/-!
# Dialogue: what a client that is ready hears

What the log of a connection says about queries is read as a list of `Report`s: what a query callback returned, what
was sent to the client, and which requests were refused.  `Answers` is the reply to a request that is served, and
`Failing` what may precede the refusal of one that is not.

* `onMessage_replies`: a handler that returns has answered its message, with what Python returned.
* `Closing.closePortal`, `Closing.closeAllPortals`, `Closing.closeStatement`: what the close routines maintain.
* `PyServerHandlers.processSocket_hears`: **Main result** — a client that is ready hears the answers to its messages,
  each as a whole and in their order, and one refusal for each message that fails.
-/

namespace Pywire

open Async Scram

/-! ### The two kinds of calls -/

/-- The calls of the startup handlers. -/
def Call.ofStartup : Call → Bool
  | .python (.getScramVerifier _) => true
  | .python (.openSession _) => true
  | .send (.authenticationSasl _) => true
  | .send (.authenticationSaslContinue _) => true
  | .send (.authenticationSaslFinal _) => true
  | .send .authenticationOk => true
  | .send (.readyForQuery _) => true
  | .randomNonce => true
  | .generatePid => true
  | .protocolNegotiation _ => true
  | .authStep _ => true
  | .announce => true
  | _ => false

/-- The calls of the query handlers. -/
def Call.ofQuery : Call → Bool
  | .python (.simpleDoQuery _ _) => true
  | .python (.parseStatement _ _ _ _) => true
  | .python (.bindPortal _ _ _ _ _ _) => true
  | .python (.describeStatement _ _) => true
  | .python (.describePortal _ _) => true
  | .python (.doQuery _ _ _) => true
  | .python (.closePortal _ _) => true
  | .python (.closeStatement _ _) => true
  | .send .parseComplete => true
  | .send .bindComplete => true
  | .send .closeComplete => true
  | .send (.parameterDescription _) => true
  | .send (.rowDescription _) => true
  | .send (.readyForQuery _) => true
  | .flush => true
  | .lockClosing => true
  | .hashOrder _ => true
  | .turn => true
  | .tryNewPortal _ => true
  | .resumesPortal _ => true
  | .isEmptySimpleQuery _ => true
  | .sendResponses _ => true
  | _ => false

/-- The calls of the loop over the messages. -/
def Call.ofLoop : Call → Bool
  | .receive => true
  | .processError _ _ => true
  | _ => false

/-- Messages that are given to no handler after startup. -/
def PgWireFrontendMessage.isIgnored : PgWireFrontendMessage → Bool
  | .startup _ => true
  | .passwordMessageFamily _ => true
  | .other => true
  | _ => false

/-- Messages that run a query. -/
def PgWireFrontendMessage.runs : PgWireFrontendMessage → Bool
  | .query _ => true
  | .execute _ => true
  | _ => false

/-! ### Reports -/

inductive Report where
  /-- The responses `do_query` returned for a simple query. -/
  | ran (query : String) (responses : List PyResponse)
  /-- The response `do_query` returned for a portal. -/
  | executed (maxRows : ℕ) (response : PyResponse)
  | describedStatement (description : StatementDescription)
  | describedPortal (fields : List PyFieldInfo)
  | sent (message : PgWireBackendMessage)
  | wrote (responses : List Response)
  /-- pgwire reports an error. -/
  | refused (error : PgWireError)

def report : WireEvent → Option Report
  | .called (.python (.simpleDoQuery _ query)) (.ok responses) => some (.ran query responses)
  | .called (.python (.doQuery _ _ maxRows)) (.ok response) => some (.executed maxRows response)
  | .called (.python (.describeStatement _ _)) (.ok description) => some (.describedStatement description)
  | .called (.python (.describePortal _ _)) (.ok fields) => some (.describedPortal fields)
  | .called (.send message) _ => some (.sent message)
  | .called (.sendResponses responses) _ => some (.wrote responses)
  | .called (.processError _ error) _ => some (.refused error)
  | _ => none

/-- The reply to a message that is served. -/
inductive Answers : PgWireFrontendMessage → List Report → Prop where
  | parse (message : Parse) : Answers (.parse message) [.sent .parseComplete]
  | bind (message : Bind) : Answers (.bind message) [.sent .bindComplete]
  | close (message : Target) : Answers (.close message) [.sent .closeComplete]
  | statement (message : Target) (d : StatementDescription) : Answers (.describe message)
      [.describedStatement d, .sent (.parameterDescription (d.parameterTypes.map pgType)),
        .sent (.rowDescription (d.fields.map PyFieldInfo.into))]
  | noStatement (message : Target) : Answers (.describe message)
      [.sent (.parameterDescription []), .sent (.rowDescription [])]
  | portal (message : Target) (fields : List PyFieldInfo) : Answers (.describe message)
      [.describedPortal fields, .sent (.rowDescription (fields.map PyFieldInfo.into))]
  | noPortal (message : Target) : Answers (.describe message) [.sent (.rowDescription [])]
  | execute (message : Execute) (r : PyResponse) : Answers (.execute message)
      [.executed message.maxRows r, .wrote [r.intoPg]]
  /-- pgwire goes on with a suspended portal. -/
  | resume (message : Execute) : Answers (.execute message) [.wrote []]
  | emptyPortal (message : Execute) : Answers (.execute message) [.wrote [.emptyQuery]]
  | query (query : String) (rs : List PyResponse) (status : TransactionStatus) : Answers (.query query)
      [.ran query rs, .wrote (rs.map PyResponse.intoPg), .sent (.readyForQuery status)]
  | emptyQuery (query : String) (status : TransactionStatus) : Answers (.query query)
      [.wrote [.emptyQuery], .sent (.readyForQuery status)]
  | sync (status : TransactionStatus) : Answers .sync [.sent (.readyForQuery status)]
  | ignored (message : PgWireFrontendMessage) (h : message.isIgnored = true) : Answers message []

/-- What may have been reported of a message that fails: the beginning of an answer if it ran something. -/
def Failing (message : PgWireFrontendMessage) (rs : List Report) : Prop :=
  rs = [] ∨ message.runs = true ∧ ∃ full, Answers message full ∧ rs <+: full

theorem failing_nil (message : PgWireFrontendMessage) : Failing message [] := .inl rfl

/-- What a handler of the message reports, by its outcome. -/
def Replied {α : Type} (message : PgWireFrontendMessage) : Outcome PgWireError α → List Report → Prop
  | .ok _ => Answers message
  | _ => Failing message

/-- A call of a query that reports nothing. -/
structure Call.Silent (c : Call) : Prop where
  query : c.ofQuery = true
  silent : ∀ r, report (.called c r) = none

/-! ### What startup settles -/

structure Admission where
  secure : Bool
  host : String
  metadata : StrMap String
  pySession : Option PyInstance
  installed : Bool
  /-- The session that cleanup will close. -/
  session : Option PyInstance
  scram : ScramState
  pidAndSecretKey : Option (ℕ × Bytes)
  registered : Bool

def Conn.admission (c : Conn) : Admission :=
  ⟨c.secure, c.host, c.metadata, c.pySession, c.installed, c.resources.session, c.scram, c.pidAndSecretKey, c.registered⟩

/-- The client was admitted as `a` says. -/
structure Conn.Ready (a : Admission) (c : Conn) : Prop where
  admission : c.admission = a
  ready : c.state.isStartup = false

section Closing

variable {I : Conn → Prop} {C : Call → Prop} {name : String}

theorem maintains_callPython {c : PyCall} (hc : C (.python c)) : Prog.Maintains I C (callPython c) := by
  refine Prog.Maintains.bind (Prog.maintains_await hc) fun r => ?_
  cases r with
  | error e => exact Prog.maintains_fail _
  | ok r => exact Prog.maintains_pure _

theorem maintains_callPythonRef {c : PyCall} (hc : C (.python c)) : Prog.Maintains I C (callPythonRef c) := by
  refine Prog.Maintains.bind (Prog.maintains_awaitAt hc) fun r => ?_
  obtain ⟨ref, r⟩ := r
  cases r with
  | error e => exact Prog.maintains_fail _
  | ok r => exact Prog.maintains_pure _

/-- The portal is in `PythonPortals`. -/
def Conn.HasPortal (c : Conn) (n : String) (e : PortalEntry) : Prop := c.resources.portals.lookup n = some e

/-- What is kept where portals are closed, and by the calls that read the stores. -/
structure Closing (I : Conn → Prop) (C : Call → Prop) : Prop where
  lock : C .lockClosing
  order : ∀ keys, C (.hashOrder keys)
  frame : ∀ c c' : Conn, c'.admission = c.admission → c'.state = c.state →
    (∀ n e, c'.HasPortal n e → c.HasPortal n e) → I c → I c'

namespace Closing

open PyExtendedHandler

theorem modify (hc : Closing I C) {f : Conn → Conn} (hadmission : ∀ c, (f c).admission = c.admission)
    (hstate : ∀ c, (f c).state = c.state) (hportals : ∀ c n e, (f c).HasPortal n e → c.HasPortal n e) :
    Prog.Maintains I C (Prog.modify f : Proc Unit) :=
  Prog.maintains_modify fun c => hc.frame c (f c) (hadmission c) (hstate c) (hportals c)

theorem withClosing (hc : Closing I C) {t : Proc Unit} (ht : Prog.Maintains I C t) :
    Prog.Maintains I C (PyExtendedHandler.withClosing t) := by
  have hlock : Prog.Maintains I C (Prog.modify Conn.lockClosing : Proc Unit) :=
    hc.modify (fun _ => rfl) (fun _ => rfl) fun _ _ _ => id
  refine (Prog.maintains_await hc.lock).bind fun _ => Prog.Maintains.andFinally (hlock.bind fun _ => ht) ?_
  exact fun c => hc.frame c c.unlockClosing rfl rfl fun _ _ => id

theorem hasPortal_of_removePortal {c : Conn} {n : String} {e : PortalEntry}
    (h : (Conn.removePortal name c).HasPortal n e) : c.HasPortal n e := by
  have hlookup : (c.resources.portals.erase name).lookup n = some e := h
  rw [StrMap.lookup_erase_eq_if] at hlookup
  split at hlookup
  · cases hlookup
  · exact hlookup

/-- A portal is closed if it is there. -/
theorem closePortal (hc : Closing I C)
    (hclose : ∀ c e, I c → c.HasPortal name e → ∀ on, C (.python (.closePortal on name))) :
    Prog.Maintains I C (PyExtendedHandler.closePortal name) := by
  have hremove : Prog.Maintains I C (Prog.modify (Conn.removePortal name) : Proc Unit) :=
    hc.modify (fun _ => rfl) (fun _ => rfl) fun _ _ _ => hasPortal_of_removePortal
  refine Prog.Maintains.get_bind fun c _ => Prog.Maintains.ite (fun _ => ?_) fun _ => Prog.maintains_pure _
  refine hc.withClosing (Prog.Maintains.get_bind fun c hI => ?_)
  cases hentry : c.resources.portals.lookup name with
  | none => exact hremove
  | some e =>
    dsimp only [Option.bind_some]
    cases e.bound with
    | none => exact hremove
    | some bound => exact (maintains_callPython (hclose c e hI hentry bound.inst)).bind fun _ => hremove

theorem rmPortal (hc : Closing I C) (name : String) :
    Prog.Maintains I C (Prog.modify (Conn.rmPortal name) : Proc Unit) :=
  hc.modify (fun _ => rfl) (fun _ => rfl) fun _ _ _ => id

theorem closeEach (hc : Closing I C) (names : List String)
    (hclose : ∀ n ∈ names, ∀ on, C (.python (.closePortal on n))) :
    Prog.Maintains I C (PyExtendedHandler.closeEach names) := by
  induction names with
  | nil => exact Prog.maintains_pure _
  | cons name names ih =>
    obtain ⟨hname, hnames⟩ := List.forall_mem_cons.mp hclose
    exact (hc.closePortal fun _ _ _ _ on => hname on).bind fun _ => (hc.rmPortal name).bind fun _ => ih hnames

/-- The names are those of portals that are there. -/
theorem portalNames_bind {α : Type} (hc : Closing I C) (p : PortalEntry → Bool) {f : List String → Proc α}
    (hf : ∀ names, (∀ n ∈ names, ∃ c e, I c ∧ c.HasPortal n e ∧ p e = true) → Prog.Maintains I C (f names)) :
    Prog.Maintains I C (PyExtendedHandler.portalNames p >>= f) := by
  intro w hw
  simp only [portalNames, Prog.sat_bind, Prog.sat_get, Prog.after_ok]
  split
  · simp only [Prog.sat_bind, Prog.sat_await, Prog.after_ok, Prog.sat_pure]
    refine ⟨⟨hw, hc.order _⟩, fun r => hf r.1 (fun n hn => ?_) _ hw⟩
    obtain ⟨⟨m, e⟩, he, rfl⟩ := List.mem_map.mp (r.2.mem_iff.mp hn)
    obtain ⟨hentry, hp⟩ := List.mem_filter.mp he
    exact ⟨w.st, e, hw, AList.mem_lookup_iff.mpr hentry, hp⟩
  · simp only [Prog.sat_pure, Prog.after_ok]
    exact hf [] (fun n hn => by cases hn) w hw

theorem closeAllPortals (hc : Closing I C)
    (hclose : ∀ n c e, I c → c.HasPortal n e → ∀ on, C (.python (.closePortal on n))) :
    Prog.Maintains I C PyExtendedHandler.closeAllPortals := by
  refine hc.portalNames_bind _ fun names hnames => (hc.closeEach names fun n hn on => ?_).bind fun _ => hc.rmPortal _
  obtain ⟨c, e, hI, hentry, -⟩ := hnames n hn
  exact hclose n c e hI hentry on

theorem closeStatement (hc : Closing I C) (h : PyExtendedHandler)
    (hclose : ∀ n c e, I c → c.HasPortal n e → e.statementName = name → ∀ on, C (.python (.closePortal on n)))
    (hstatement : ∀ on, C (.python (.closeStatement on name))) : Prog.Maintains I C (h.closeStatement name) := by
  have hremove : Prog.Maintains I C (do
      Prog.modify (Conn.removeStatement name)
      Prog.modify (Conn.rmStatement name) : Proc Unit) :=
    (hc.modify (f := Conn.removeStatement name) (fun _ => rfl) (fun _ => rfl) fun _ _ _ => id).bind fun _ =>
      hc.modify (f := Conn.rmStatement name) (fun _ => rfl) (fun _ => rfl) fun _ _ _ => id
  refine Prog.Maintains.get_bind fun c _ => Prog.Maintains.ite (fun _ => ?_) fun _ => Prog.maintains_pure _
  refine hc.portalNames_bind _ fun names hnames => (hc.closeEach names fun n hn on => ?_).bind fun _ => ?_
  · obtain ⟨c, e, hI, hentry, hname⟩ := hnames n hn
    exact hclose n c e hI hentry (by simpa using hname) on
  refine hc.withClosing (Prog.Maintains.get_bind fun c _ => ?_)
  cases c.store.statements.lookup name with
  | none => exact hremove
  | some entry =>
    cases entry with
    | empty => exact hremove
    | value s =>
      dsimp only
      cases h.instanceFor c with
      | none => exact hremove
      | some inst => exact (maintains_callPython (hstatement inst)).bind fun _ => hremove

end Closing

end Closing

section Queries

variable {a : Admission}

/-- A routine of the query handlers that reports nothing. -/
abbrev Working {α : Type} (a : Admission) (t : Proc α) : Prop := Prog.Maintains (Conn.Ready a) Call.Silent t

theorem working_await {c : Call} (hc : c.Silent) : Working a (await c) := Prog.maintains_await hc

theorem working_callPythonRef {c : PyCall} (hc : Call.Silent (.python c)) : Working a (callPythonRef c) :=
  maintains_callPythonRef hc

theorem working_closing : Closing (Conn.Ready a) Call.Silent := by
  refine ⟨⟨rfl, fun _ => rfl⟩, fun _ => ⟨rfl, fun _ => rfl⟩, fun c c' hadmission hstate _ hc => ⟨?_, ?_⟩⟩
  · rw [hadmission]
    exact hc.admission
  · rw [hstate]
    exact hc.ready

/-- An update of the stores. -/
theorem working_modify {f : Conn → Conn} (hadmission : ∀ c, (f c).admission = c.admission)
    (hstate : ∀ c, (f c).state.isStartup = c.state.isStartup) : Working a (Prog.modify f) :=
  Prog.maintains_modify fun c h => ⟨(hadmission c).trans h.admission, (hstate c).trans h.ready⟩

/-- What a routine of a query handler reports, wherever it is started, and what comes of it. -/
def Reports {α : Type} (a : Admission) (t : Proc α) (Q : Outcome PgWireError α → List Report → Prop) : Prop :=
  ∀ w : WireWorld, w.st.Ready a → Prog.Sat (fun _ _ => True) t w fun o w' => w'.st.Ready a ∧
    ∃ new, w'.log = w.log ++ new ∧ Prog.Only (fun c => c.ofQuery = true) new ∧ Q o (new.filterMap report)

section Rules

variable {α β : Type} {t : Proc α} {f : α → Proc β} {Q Q' : Outcome PgWireError α → List Report → Prop}
  {R : Outcome PgWireError β → List Report → Prop} {message : PgWireFrontendMessage} {pre : List Report}

theorem Reports.mono (h : Reports a t Q) (hQ : ∀ o rs, Q o rs → Q' o rs) : Reports a t Q' := by
  intro w hw
  refine (h w hw).post ?_
  rintro o w' ⟨hready, new, hnew, honly, hreport⟩
  exact ⟨hready, new, hnew, honly, hQ _ _ hreport⟩

/-- **Sequencing**. -/
theorem Reports.bind (ht : Reports a t Q)
    (hok : ∀ x rs, Q (.ok x) rs → Reports a (f x) fun o rs' => R o (rs ++ rs'))
    (herr : ∀ e rs, Q (.err e) rs → R (.err e) rs) (hpanic : ∀ rs, Q .panic rs → R .panic rs) :
    Reports a (t >>= f) R := by
  intro w hw
  rw [Prog.sat_bind]
  refine (ht w hw).post ?_
  rintro o w1 ⟨hw1, new, hnew, honly, hreport⟩
  cases o with
  | ok x =>
    refine (hok x _ hreport w1 hw1).post ?_
    rintro o w2 ⟨hw2, new2, hnew2, honly2, hreport2⟩
    refine ⟨hw2, new ++ new2, by rw [hnew2, hnew, List.append_assoc], honly.append honly2, ?_⟩
    rw [List.filterMap_append]
    exact hreport2
  | err e => exact ⟨hw1, new, hnew, honly, herr e _ hreport⟩
  | panic => exact ⟨hw1, new, hnew, honly, hpanic _ hreport⟩

theorem Working.reports (ht : Working a t) : Reports a t fun _ rs => rs = [] := by
  intro w hw
  refine (ht.concat hw).anywhere.post ?_
  rintro o w' ⟨hw', new, hnew, honly⟩
  refine ⟨hw', new, hnew, honly.mono fun c hc => hc.query, List.filterMap_eq_nil_iff.mpr fun e he => ?_⟩
  cases e with
  | called c r => exact (honly c r he).silent r
  | noted n => rfl

/-- Something that reports nothing comes first. -/
theorem Working.then (ht : Working a t) (herr : ∀ e, R (.err e) []) (hpanic : R .panic [])
    (hf : ∀ x, Reports a (f x) R) : Reports a (t >>= f) R := by
  refine ht.reports.bind (fun x rs hrs => ?_) (fun e rs hrs => ?_) fun rs hrs => ?_
  · subst hrs
    exact hf x
  · subst hrs
    exact herr e
  · subst hrs
    exact hpanic

theorem only_ofQuery {c : Call} (hc : c.ofQuery = true) (r : c.Reply) :
    Prog.Only (fun c => c.ofQuery = true) ([.called c r] : List WireEvent) :=
  Prog.only_called (C := fun c : Call => c.ofQuery = true) hc r

/-- A call that is not reported. -/
theorem reports_silent {c : Call} (hc : c.Silent) : Reports a (await c) fun o rs => (∃ r, o = .ok r) ∧ rs = [] := by
  intro w hw
  refine ⟨trivial, fun r => ⟨hw, [.called c r], rfl, only_ofQuery hc.query r, ⟨r, rfl⟩, ?_⟩⟩
  rw [List.filterMap_cons, hc.silent r, List.filterMap_nil]

/-- A call that is reported. -/
theorem reports_await {c : Call} {x : c.Reply → Report} (hc : c.ofQuery = true)
    (hx : ∀ r, report (.called c r) = some (x r)) :
    Reports a (await c) fun o rs => ∃ r, o = .ok r ∧ rs = [x r] := by
  intro w hw
  refine ⟨trivial, fun r => ⟨hw, [.called c r], rfl, only_ofQuery hc r, r, rfl, ?_⟩⟩
  rw [List.filterMap_cons, hx r, List.filterMap_nil]

/-- A callback whose result is reported. -/
theorem reports_callPython {c : PyCall} {x : c.Ret → Report} (hc : Call.ofQuery (.python c) = true)
    (hok : ∀ r, report (.called (.python c) (.ok r)) = some (x r))
    (herror : ∀ e, report (.called (.python c) (.error e)) = none) :
    Reports a (callPython c) fun o rs => (∃ r, o = .ok r ∧ rs = [x r]) ∨ (∃ e, o = .err e) ∧ rs = [] := by
  intro w hw
  rw [sat_callPython]
  refine ⟨trivial, fun r => ⟨hw, [.called (.python c) (.ok r)], rfl, only_ofQuery hc _, .inl ⟨r, rfl, ?_⟩⟩,
    fun e => ⟨hw, [.called (.python c) (.error e)], rfl, only_ofQuery hc _, .inr ⟨⟨_, rfl⟩, ?_⟩⟩⟩
  · rw [List.filterMap_cons, hok r, List.filterMap_nil]
  · rw [List.filterMap_cons, herror e, List.filterMap_nil]

/-- The rest of a handler, after the reports `pre`. -/
abbrev Replies (a : Admission) (message : PgWireFrontendMessage) (pre : List Report) (t : Proc α) : Prop :=
  Reports a t fun o rs => Replied message o (pre ++ rs)

theorem err_ne_ok (e : PgWireError) (v : α) : (.err e : Outcome PgWireError α) ≠ .ok v := fun h => by cases h

theorem panic_ne_ok (v : α) : (.panic : Outcome PgWireError α) ≠ .ok v := fun h => by cases h

theorem reports_pure (x : α) (hQ : Q (.ok x) []) : Reports a (pure x) Q :=
  fun _ hw => ⟨hw, [], (List.append_nil _).symm, Prog.only_nil, hQ⟩

theorem reports_fail (e : PgWireError) (hQ : Q (.err e) []) : Reports a (.fail e) Q :=
  fun _ hw => ⟨hw, [], (List.append_nil _).symm, Prog.only_nil, hQ⟩

/-- A callback whose result is reported, and what is made of it. -/
theorem reports_callPython_bind {c : PyCall} {x : c.Ret → Report} {f : c.Ret → Proc β}
    (hc : Call.ofQuery (.python c) = true) (hok : ∀ r, report (.called (.python c) (.ok r)) = some (x r))
    (herror : ∀ e, report (.called (.python c) (.error e)) = none) (herr : ∀ e, R (.err e) [])
    (hf : ∀ r, Reports a (f r) fun o rs => R o (x r :: rs)) : Reports a (callPython c >>= f) R := by
  refine (reports_callPython hc hok herror).bind ?_ ?_ ?_
  · rintro r rs (⟨r', hr, rfl⟩ | ⟨⟨e, he⟩, -⟩)
    · cases hr
      exact hf r
    · cases he
  · rintro e rs (⟨r', hr, -⟩ | ⟨-, rfl⟩)
    · cases hr
    · exact herr e
  · rintro rs (⟨r', hr, -⟩ | ⟨⟨e, he⟩, -⟩)
    · cases hr
    · cases he

theorem replies_fail (e : PgWireError) : Replies a message [] (.fail e : Proc α) := reports_fail e (failing_nil message)

theorem Working.replies (ht : Working a t) (hpre : Failing message pre) (hf : ∀ x, Replies a message pre (f x)) :
    Replies a message pre (t >>= f) :=
  ht.then (fun _ => by rw [List.append_nil]; exact hpre) (by rw [List.append_nil]; exact hpre) hf

theorem replies_send {m : PgWireBackendMessage} (hm : Call.ofQuery (.send m) = true)
    (hanswers : Answers message (pre ++ [.sent m])) : Replies a message pre (send m) := by
  refine (reports_await (x := fun _ => .sent m) hm fun _ => rfl).mono ?_
  rintro o rs ⟨r, rfl, rfl⟩
  exact hanswers

theorem replies_send_bind {m : PgWireBackendMessage} {f : Unit → Proc β} (hm : Call.ofQuery (.send m) = true)
    (hf : Replies a message (pre ++ [.sent m]) (f ())) : Replies a message pre (send m >>= f) := by
  refine (reports_await (x := fun _ => .sent m) hm fun _ => rfl).bind ?_ ?_ ?_
  · rintro x rs ⟨-, -, rfl⟩
    refine hf.mono fun o rs' h => ?_
    rw [← List.append_assoc]
    exact h
  · rintro e rs ⟨r, hr, -⟩
    cases hr
  · rintro rs ⟨r, hr, -⟩
    cases hr

/-- What `attempt` makes of an outcome. -/
def Attempted (Q : Outcome PgWireError α → List Report → Prop) :
    Outcome PgWireError (Except PgWireError α) → List Report → Prop
  | .ok (.ok x) => Q (.ok x)
  | .ok (.error e) => Q (.err e)
  | .err _ => fun _ => False
  | .panic => Q .panic

theorem Reports.attempt (ht : Reports a t Q) : Reports a t.attempt (Attempted Q) := by
  intro w hw
  rw [Prog.sat_attempt]
  refine (ht w hw).post ?_
  rintro (x | e | _) w' h'
  · exact h'
  · exact h'
  · exact h'

/-- Returns `x₀`, or what is made of a result that is reported. -/
def Relays {δ : Type} (x : δ → Report) (g : δ → α) (x₀ : α) (o : Outcome PgWireError α) (rs : List Report) : Prop :=
  (o = .ok x₀ ∧ rs = []) ∨ (∃ y, o = .ok (g y) ∧ rs = [x y]) ∨ (∀ v, o ≠ .ok v) ∧ rs = []

theorem Relays.bind {δ : Type} {x : δ → Report} {g : δ → α} {x₀ : α} (ht : Reports a t (Relays x g x₀))
    (hnone : Replies a message [] (f x₀)) (hsome : ∀ y, Replies a message [x y] (f (g y))) :
    Replies a message [] (t >>= f) := by
  refine Reports.bind ht ?_ ?_ ?_
  · rintro v rs (⟨ho, rfl⟩ | ⟨y, ho, rfl⟩ | ⟨hne, -⟩)
    · cases ho
      exact hnone
    · cases ho
      exact hsome y
    · exact absurd rfl (hne v)
  · rintro e rs (⟨ho, -⟩ | ⟨y, ho, -⟩ | ⟨-, rfl⟩)
    · cases ho
    · cases ho
    · exact failing_nil message
  · rintro rs (⟨ho, -⟩ | ⟨y, ho, -⟩ | ⟨-, rfl⟩)
    · cases ho
    · cases ho
    · exact failing_nil message

/-- Returns what is made of a result that is reported; it may fail before and after the report. -/
def Runs {δ : Type} (x : δ → Report) (g : δ → α) (o : Outcome PgWireError α) (rs : List Report) : Prop :=
  (∃ y, o = .ok (g y) ∧ rs = [x y]) ∨ (∀ v, o ≠ .ok v) ∧ (rs = [] ∨ ∃ y, rs = [x y])

theorem Runs.bind {δ : Type} {x : δ → Report} {g : δ → α} (ht : Reports a t (Runs x g))
    (hfailing : ∀ y, Failing message [x y]) (hf : ∀ y, Replies a message [x y] (f (g y))) :
    Replies a message [] (t >>= f) := by
  have hstop : ∀ rs, (rs = [] ∨ ∃ y, rs = [x y]) → Failing message rs := by
    rintro rs (rfl | ⟨y, rfl⟩)
    · exact failing_nil message
    · exact hfailing y
  refine Reports.bind ht ?_ ?_ ?_
  · rintro v rs (⟨y, ho, rfl⟩ | ⟨hne, -⟩)
    · cases ho
      exact hf y
    · exact absurd rfl (hne v)
  · rintro e rs (⟨y, ho, -⟩ | ⟨-, hrs⟩)
    · cases ho
    · exact hstop rs hrs
  · rintro rs (⟨y, ho, -⟩ | ⟨-, hrs⟩)
    · cases ho
    · exact hstop rs hrs

theorem Reports.ite {p : Prop} [Decidable p] {t t' : Proc α} (ht : p → Reports a t Q) (ht' : ¬ p → Reports a t' Q) :
    Reports a (if p then t else t') Q := by
  by_cases hp : p
  · rw [if_pos hp]
    exact ht hp
  · rw [if_neg hp]
    exact ht' hp

/-- The state that is read. -/
theorem Reports.get_bind {f : Conn → Proc β} (hf : ∀ c, c.Ready a → Reports a (f c) R) : Reports a (Prog.get >>= f) R :=
  fun w hw => hf w.st hw w hw

end Rules

namespace PyExtendedHandler

variable (h : PyExtendedHandler)

theorem rmPortal_working (name : String) : Working a (Prog.modify (Conn.rmPortal name)) :=
  working_closing.rmPortal name

theorem closePortal_working (name : String) : Working a (closePortal name) :=
  working_closing.closePortal fun _ _ _ _ _ => ⟨rfl, fun _ => rfl⟩

theorem closeAllPortals_working : Working a closeAllPortals :=
  working_closing.closeAllPortals fun _ _ _ _ _ _ => ⟨rfl, fun _ => rfl⟩

theorem closeStatement_working (name : String) : Working a (h.closeStatement name) :=
  working_closing.closeStatement h (fun _ _ _ _ _ _ _ => ⟨rfl, fun _ => rfl⟩) fun _ => ⟨rfl, fun _ => rfl⟩

theorem expectResources_working : Working a expectResources :=
  Prog.Maintains.get_bind fun _ _ => Prog.Maintains.ite (fun _ => Prog.maintains_pure _) fun _ => Prog.maintains_panic

theorem storeParsed_replies (name : String) (message : Parse) :
    Replies a (.parse message) [] (h.storeParsed name message) := by
  have hsend : Replies a (.parse message) [] (send .parseComplete) := replies_send rfl (.parse message)
  refine Reports.ite (fun _ => ?_) fun _ => Reports.get_bind fun c _ => ?_
  · have hput : Working a (Prog.modify (Conn.putEmptyStatement name)) := working_modify (fun _ => rfl) fun _ => rfl
    exact hput.replies (failing_nil _) fun _ => hsend
  · have hparse : Working a (parseStatement (h.instanceFor c) name message.query message.typeOids) := by
      cases h.instanceFor c with
      | none => exact Prog.maintains_fail _
      | some inst => exact working_callPythonRef ⟨rfl, fun _ => rfl⟩
    have hexpect : Working a (Prog.ofOutcome (.expect (h.instanceFor c))) := Prog.maintains_ofOutcome _
    refine hparse.replies (failing_nil _) fun statement => hexpect.replies (failing_nil _) fun inst => ?_
    have hinsert : Working a (Prog.modify (Conn.insertStatement name inst)) := working_modify (fun _ => rfl) fun _ => rfl
    refine Working.replies expectResources_working (failing_nil _) fun _ => hinsert.replies (failing_nil _) fun _ => ?_
    exact Working.replies (working_modify (fun _ => rfl) fun _ => rfl) (failing_nil _) fun _ => hsend

theorem onParse_replies (message : Parse) : Replies a (.parse message) [] (h.onParse message) := by
  refine Reports.get_bind fun c _ => Reports.ite (fun _ => ?_) fun _ => ?_
  · exact (h.closeStatement_working _).replies (failing_nil _) fun _ => h.storeParsed_replies _ message
  · exact Reports.ite (fun _ => replies_fail _) fun _ => h.storeParsed_replies _ message

theorem onBind_replies (message : Bind) : Replies a (.bind message) [] (h.onBind message) := by
  have hstore : ∀ f g : Conn → Conn, (∀ c, (f c).admission = c.admission) →
      (∀ c, (f c).state.isStartup = c.state.isStartup) → (∀ c, (g c).admission = c.admission) →
      (∀ c, (g c).state.isStartup = c.state.isStartup) →
      Replies a (.bind message) [] (do expectResources; Prog.modify f; Prog.modify g; send .bindComplete) := by
    intro f g hf hf' hg hg'
    refine Working.replies expectResources_working (failing_nil _) fun _ => ?_
    refine Working.replies (working_modify hf hf') (failing_nil _) fun _ => ?_
    exact Working.replies (working_modify hg hg') (failing_nil _) fun _ => replies_send rfl (.bind message)
  have hclose : ∀ rest : Proc Unit, Replies a (.bind message) [] rest → Replies a (.bind message) [] (do
      closePortal (message.portalName.getD defaultName)
      Prog.modify (Conn.rmPortal (message.portalName.getD defaultName))
      rest) := fun rest hrest =>
    (closePortal_working _).replies (failing_nil _) fun _ => (rmPortal_working _).replies (failing_nil _) fun _ => hrest
  refine Reports.get_bind fun c _ => Reports.ite (fun _ => replies_fail _) fun _ => ?_
  cases bindFormatError message with
  | some e => exact replies_fail _
  | none =>
    dsimp only
    cases c.store.statements.lookup (message.statementName.getD defaultName) with
    | none => exact replies_fail _
    | some entry =>
      cases entry with
      | empty =>
        dsimp only
        cases h.bindEmptyError message (message.statementName.getD defaultName) with
        | some e => exact replies_fail _
        | none => exact hclose _ (hstore _ _ (fun _ => rfl) (fun _ => rfl) (fun _ => rfl) fun _ => rfl)
      | value statement =>
        have hnew : Working a (portalTryNew message statement) := by
          have hawait : Working a (await (.tryNewPortal message)) := working_await ⟨rfl, fun _ => rfl⟩
          exact hawait.bind fun r => (Prog.maintains_ofExcept r).bind fun _ => Prog.maintains_pure _
        refine hnew.replies (failing_nil _) fun portal => ?_
        refine Working.replies (Prog.maintains_ofOutcome _) (failing_nil _) fun inst => hclose _ ?_
        have hbind : Working a (bindPortal inst portal) := working_callPythonRef ⟨rfl, fun _ => rfl⟩
        exact hbind.replies (failing_nil _) fun _ => hstore _ _ (fun _ => rfl) (fun _ => rfl) (fun _ => rfl) fun _ => rfl

theorem onSync_replies : Replies a .sync [] onSync := by
  have hready : Replies a .sync [] (do
      let client ← Prog.get
      send (.readyForQuery client.transactionStatus)
      await .flush) := by
    refine Reports.get_bind fun c _ => replies_send_bind rfl ?_
    refine (reports_silent (c := .flush) ⟨rfl, fun _ => rfl⟩).mono ?_
    rintro o rs ⟨⟨r, rfl⟩, rfl⟩
    exact .sync c.transactionStatus
  exact Reports.get_bind fun c _ =>
    Reports.ite (fun _ => closeAllPortals_working.replies (failing_nil _) fun _ => hready) fun _ => hready

theorem onClose_replies (message : Target) : Replies a (.close message) [] (h.onClose message) := by
  have hsend : Replies a (.close message) [] (send .closeComplete) := replies_send rfl (.close message)
  refine Reports.ite (fun _ => ?_) fun _ => Reports.ite (fun _ => ?_) fun _ => replies_fail _
  · exact (h.closeStatement_working _).replies (failing_nil _) fun _ => hsend
  · exact (closePortal_working _).replies (failing_nil _) fun _ =>
      (rmPortal_working _).replies (failing_nil _) fun _ => hsend

theorem doDescribeStatement_reports (target : StoredStatement) : Reports a (h.doDescribeStatement target)
    (Relays .describedStatement (fun d => (d.parameterTypes.map pgType, d.fields.map PyFieldInfo.into)) ([], [])) := by
  refine Reports.get_bind fun c _ => ?_
  cases h.instanceFor c with
  | none => exact reports_pure _ (.inl ⟨rfl, rfl⟩)
  | some inst =>
    refine reports_callPython_bind rfl (fun _ => rfl) (fun _ => rfl) (fun e => .inr (.inr ⟨err_ne_ok e, rfl⟩)) fun d => ?_
    exact reports_pure _ (.inr (.inl ⟨d, rfl, rfl⟩))

theorem doDescribePortal_reports (target : Portal) : Reports a (h.doDescribePortal target)
    (Relays .describedPortal (fun fields => fields.map PyFieldInfo.into) []) := by
  refine Reports.get_bind fun c _ => ?_
  cases h.instanceFor c with
  | none => exact reports_pure _ (.inl ⟨rfl, rfl⟩)
  | some inst =>
    refine Working.then (Prog.maintains_ofOutcome _) (fun e => .inr (.inr ⟨err_ne_ok e, rfl⟩)) (.inr (.inr ⟨panic_ne_ok, rfl⟩))
      fun portal => ?_
    refine reports_callPython_bind rfl (fun _ => rfl) (fun _ => rfl) (fun e => .inr (.inr ⟨err_ne_ok e, rfl⟩)) fun fields => ?_
    exact reports_pure _ (.inr (.inl ⟨fields, rfl, rfl⟩))

/-- The client hears of a statement or portal what Python said. -/
theorem onDescribe_replies (message : Target) : Replies a (.describe message) [] (h.onDescribe message) := by
  refine Reports.get_bind fun c _ => Reports.ite (fun _ => ?_) fun _ => Reports.ite (fun _ => ?_) fun _ => replies_fail _
  · have hnone : Replies a (.describe message) [] (do
        send (.parameterDescription [])
        send (.rowDescription [])) := replies_send_bind rfl (replies_send rfl (.noStatement message))
    cases c.store.statements.lookup (message.name.getD defaultName) with
    | none => exact replies_fail _
    | some entry =>
      cases entry with
      | empty => exact hnone
      | value statement =>
        refine Relays.bind (h.doDescribeStatement_reports statement) hnone fun d => ?_
        exact replies_send_bind rfl (replies_send rfl (.statement message d))
  · have hnone : Replies a (.describe message) [] (send (.rowDescription [])) := replies_send rfl (.noPortal message)
    cases c.store.portals.lookup (message.name.getD defaultName) with
    | none => exact replies_fail _
    | some entry =>
      cases entry with
      | empty => exact hnone
      | value portal =>
        refine Relays.bind (h.doDescribePortal_reports portal) hnone fun fields => ?_
        exact replies_send rfl (.portal message fields)

theorem sendResponses_reports (responses : List Response) :
    Reports a (sendResponses responses) fun _ rs => rs = [.wrote responses] := by
  have hsettle : ∀ settled : Settled, Reports a (do
      Prog.modify fun client : Conn => { client with transactionStatus := settled.transactionStatus }
      Prog.ofExcept settled.result) fun _ rs => rs = [] := fun settled =>
    Working.reports (Prog.Maintains.bind (Prog.maintains_modify fun c hc => ⟨hc.admission, hc.ready⟩) fun _ =>
      Prog.maintains_ofExcept _)
  have hawait : Reports a (await (.sendResponses responses)) fun o rs => ∃ r, o = .ok r ∧ rs = [.wrote responses] :=
    reports_await (x := fun _ => .wrote responses) rfl fun _ => rfl
  unfold sendResponses
  refine Reports.bind hawait (fun settled rs hrs => ?_) ?_ ?_
  · obtain ⟨-, -, rfl⟩ := hrs
    refine (hsettle settled).mono fun o rs' hrs' => ?_
    rw [hrs']
    rfl
  · rintro e rs ⟨r, hr, -⟩
    cases hr
  · rintro rs ⟨r, hr, -⟩
    cases hr

/-- The responses are the rest of the answer, or of what is left of one. -/
theorem sendResponses_replies {message : PgWireFrontendMessage} {pre : List Report} {responses : List Response}
    (hruns : message.runs = true) (hanswers : Answers message (pre ++ [.wrote responses])) :
    Replies a message pre (sendResponses responses) := by
  refine (sendResponses_reports responses).mono fun o rs hrs => ?_
  subst hrs
  cases o with
  | ok u => exact hanswers
  | err e => exact .inr ⟨hruns, _, hanswers, List.prefix_rfl⟩
  | panic => exact .inr ⟨hruns, _, hanswers, List.prefix_rfl⟩

theorem doQuery_reports (portal : Portal) (maxRows : ℕ) :
    Reports a (h.doQuery portal maxRows) (Runs (.executed maxRows) PyResponse.intoPg) := by
  refine Reports.get_bind fun c _ => ?_
  cases h.instanceFor c with
  | none => exact reports_fail _ (.inr ⟨err_ne_ok _, .inl rfl⟩)
  | some inst =>
    refine Working.then (Prog.maintains_ofOutcome _) (fun e => .inr ⟨err_ne_ok e, .inl rfl⟩)
      (.inr ⟨panic_ne_ok, .inl rfl⟩) fun pyPortal => ?_
    refine reports_callPython_bind rfl (fun _ => rfl) (fun _ => rfl) (fun e => .inr ⟨err_ne_ok e, .inl rfl⟩) fun r => ?_
    refine Reports.ite (fun _ => ?_) fun _ => reports_pure _ (.inl ⟨r, rfl, rfl⟩)
    refine Working.then closeAllPortals_working (fun e => .inr ⟨err_ne_ok e, .inr ⟨r, rfl⟩⟩)
      (.inr ⟨panic_ne_ok, .inr ⟨r, rfl⟩⟩) fun _ => ?_
    exact reports_pure _ (.inl ⟨r, rfl, rfl⟩)

/-- The client hears what Python returned for the portal. -/
theorem onExecute_replies (message : Execute) : Replies a (.execute message) [] (h.onExecute message) := by
  refine Reports.get_bind fun c _ => ?_
  cases c.store.portals.lookup (message.name.getD defaultName) with
  | none => exact replies_fail _
  | some entry =>
    cases entry with
    | empty => exact sendResponses_replies rfl (.emptyPortal message)
    | value portal =>
      have hawait : Working a (await (.resumesPortal (message.name.getD defaultName))) :=
        working_await ⟨rfl, fun _ => rfl⟩
      refine hawait.replies (failing_nil _) fun resumes => Reports.ite (fun _ => ?_) fun _ => ?_
      · exact sendResponses_replies rfl (.resume message)
      · refine Runs.bind (h.doQuery_reports portal message.maxRows) (fun r => ?_) fun r => ?_
        · exact .inr ⟨rfl, _, .execute message r, [.wrote [r.intoPg]], rfl⟩
        · have hanswers : Answers (.execute message) ([.executed message.maxRows r] ++ [.wrote [r.intoPg]]) :=
            .execute message r
          exact sendResponses_replies rfl hanswers

end PyExtendedHandler

namespace PyServerSimpleQueryHandler

open PyExtendedHandler (closeAllPortals_working closePortal_working rmPortal_working sendResponses_reports)

variable (h : PyServerSimpleQueryHandler)

theorem doQuery_reports (query : String) :
    Reports a (doQuery query) (Runs (.ran query) fun rs => rs.map PyResponse.intoPg) := by
  refine Reports.get_bind fun c _ => ?_
  refine reports_callPython_bind rfl (fun _ => rfl) (fun _ => rfl) (fun e => .inr ⟨err_ne_ok e, .inl rfl⟩) fun rs => ?_
  refine Reports.ite (fun _ => ?_) fun _ => reports_pure _ (.inl ⟨rs, rfl, rfl⟩)
  refine Working.then closeAllPortals_working (fun e => .inr ⟨err_ne_ok e, .inr ⟨rs, rfl⟩⟩)
    (.inr ⟨panic_ne_ok, .inr ⟨rs, rfl⟩⟩) fun _ => ?_
  exact reports_pure _ (.inl ⟨rs, rfl, rfl⟩)

/-- The responses are written, and the client is told that it may go on. -/
theorem respond_replies {query : String} {pre : List Report} {responses : List Response}
    (hanswers : ∀ status, Answers (.query query) (pre ++ [.wrote responses, .sent (.readyForQuery status)])) :
    Replies a (.query query) pre (do
      PyExtendedHandler.sendResponses responses
      Prog.modify fun client : Conn => { client with state := .readyForQuery }
      let client ← Prog.get
      send (.readyForQuery client.transactionStatus)) := by
  have hpre : ∀ rs, rs <+: [.wrote responses, .sent (.readyForQuery .idle)] → Failing (.query query) (pre ++ rs) :=
    fun rs hrs => .inr ⟨rfl, _, hanswers .idle, (List.prefix_append_right_inj pre).mpr hrs⟩
  have hwrote : Failing (.query query) (pre ++ [.wrote responses]) := hpre _ ⟨[.sent (.readyForQuery .idle)], rfl⟩
  have hend : Replies a (.query query) (pre ++ [.wrote responses]) (do
      Prog.modify fun client : Conn => { client with state := .readyForQuery }
      let client ← Prog.get
      send (.readyForQuery client.transactionStatus)) := by
    refine Working.replies (Prog.maintains_modify fun c hc => ⟨hc.admission, rfl⟩) hwrote fun _ => ?_
    refine Reports.get_bind fun c _ => replies_send rfl ?_
    rw [List.append_assoc]
    exact hanswers c.transactionStatus
  refine Reports.bind (sendResponses_reports responses) (fun u rs hrs => ?_) (fun e rs hrs => ?_) fun rs hrs => ?_
  · subst hrs
    refine hend.mono fun o rs h => ?_
    rw [List.append_assoc] at h
    exact h
  · subst hrs
    exact hwrote
  · subst hrs
    exact hwrote

theorem _onQuery_replies (query : String) : Replies a (.query query) [] (_onQuery query) := by
  have hawait : Working a (await (.isEmptySimpleQuery query)) := working_await ⟨rfl, fun _ => rfl⟩
  refine Working.replies (Prog.maintains_modify fun c hc => ⟨hc.admission, rfl⟩) (failing_nil _) fun _ => ?_
  refine hawait.replies (failing_nil _) fun empty => Reports.ite (fun _ => ?_) fun _ => ?_
  · exact respond_replies (.emptyQuery query)
  · refine Runs.bind (doQuery_reports query) (fun rs => ?_) fun rs => respond_replies (.query query rs)
    exact .inr ⟨rfl, _, .query query rs .idle, [.wrote (rs.map PyResponse.intoPg), .sent (.readyForQuery .idle)], rfl⟩

/-- The client hears what Python returned for the query. -/
theorem onQuery_replies (query : String) : Replies a (.query query) [] (h.onQuery query) := by
  refine Reports.get_bind fun c _ => Reports.ite (fun _ => replies_fail _) fun _ => ?_
  refine (closePortal_working _).replies (failing_nil _) fun _ => (rmPortal_working _).replies (failing_nil _) fun _ => ?_
  refine (h.extended.closeStatement_working _).replies (failing_nil _) fun _ => ?_
  -- an answer that was sent is part of what is left of the request if its portals cannot be closed
  have hpart : ∀ rs, Answers (.query query) rs → Failing (.query query) rs := fun rs hrs =>
    .inr ⟨rfl, rs, hrs, List.prefix_rfl⟩
  have hrest : ∀ (result : Except PgWireError Unit) (rs : List Report), Failing (.query query) rs →
      (result = .ok () → Answers (.query query) rs) → Replies a (.query query) rs (do
        let client ← Prog.get
        if client.transactionStatus = .idle then PyExtendedHandler.closeAllPortals else pure ()
        Prog.ofExcept result) := by
    intro result rs hfailing hanswers
    have hresult : Replies a (.query query) rs (Prog.ofExcept result) := by
      cases result with
      | ok u => exact reports_pure u (by rw [List.append_nil]; exact hanswers rfl)
      | error e => exact reports_fail e (by rw [List.append_nil]; exact hfailing)
    exact Reports.get_bind fun c _ =>
      Reports.ite (fun _ => closeAllPortals_working.replies hfailing fun _ => hresult) fun _ => hresult
  refine Reports.bind (_onQuery_replies query).attempt (fun result rs hrs => ?_) (fun e rs hrs => ?_) fun rs hrs => ?_
  · cases result with
    | ok u => exact hrest (.ok u) rs (hpart rs hrs) fun _ => hrs
    | error e => exact hrest (.error e) rs hrs fun hno => by cases hno
  · exact hrs.elim
  · exact hrs

end PyServerSimpleQueryHandler

/-- **A handler that returns has answered**, with what Python returned; one that does not has sent the beginning of an
answer, if it ran a query, and else nothing. -/
theorem onMessage_replies (h : PyServerHandlers) (message : PgWireFrontendMessage) :
    Replies a message [] (h.onMessage message) := by
  cases message with
  | query query => exact h.simpleQuery.onQuery_replies query
  | parse message => exact h.extendedQuery.onParse_replies message
  | bind message => exact h.extendedQuery.onBind_replies message
  | describe message => exact h.extendedQuery.onDescribe_replies message
  | execute message => exact h.extendedQuery.onExecute_replies message
  | close message => exact h.extendedQuery.onClose_replies message
  | sync => exact PyExtendedHandler.onSync_replies
  | startup message => exact reports_pure _ (.ignored _ rfl)
  | passwordMessageFamily message => exact reports_pure _ (.ignored _ rfl)
  | other => exact reports_pure _ (.ignored _ rfl)

/-! ### The loop -/

/-- What a client hears that sends these messages, by the outcome of the loop: each message is answered as a whole, or
refused; the loop ends on an error that ends the connection, and breaks off where a handler panics. -/
inductive Dialogue (o : Outcome PgWireError Unit) : List PgWireFrontendMessage → List Report → Prop where
  | nil (ho : o = .ok ()) : Dialogue o [] []
  | answered {m : PgWireFrontendMessage} {ms : List PgWireFrontendMessage} {rs rest : List Report} (h : Answers m rs)
      (later : Dialogue o ms rest) : Dialogue o (m :: ms) (rs ++ rest)
  | refused {m : PgWireFrontendMessage} {ms : List PgWireFrontendMessage} {rs rest : List Report} (h : Failing m rs)
      (e : PgWireError) (later : Dialogue o ms rest) : Dialogue o (m :: ms) (rs ++ .refused e :: rest)
  | ended {m : PgWireFrontendMessage} {ms : List PgWireFrontendMessage} {rs : List Report} (h : Failing m rs)
      (e : PgWireError) (ho : o = .ok ()) : Dialogue o (m :: ms) (rs ++ [.refused e])
  | broken {m : PgWireFrontendMessage} {ms : List PgWireFrontendMessage} {rs : List Report} (h : Failing m rs)
      (ho : o = .panic) : Dialogue o (m :: ms) rs

/-- An error of startup is reported. -/
def Call.reportsStartup : Call → Bool
  | .processError state _ => state.isStartup
  | _ => false

/-- The calls of a connection that has left startup. -/
def Call.Later (c : Call) : Prop := c.ofQuery = true ∨ c.ofLoop = true ∧ c.reportsStartup = false

/-- The world `w'` is ready, and its log has more than that of `w`: calls of queries, and reports that satisfy `Q`. -/
def Hears (a : Admission) (w w' : WireWorld) (Q : List Report → Prop) : Prop :=
  w'.st.Ready a ∧ ∃ new, w'.log = w.log ++ new ∧ Prog.Only Call.Later new ∧ Q (new.filterMap report)

theorem Hears.mono {w w' : WireWorld} {Q Q' : List Report → Prop} (h : Hears a w w' Q) (hQ : ∀ rs, Q rs → Q' rs) :
    Hears a w w' Q' := by
  obtain ⟨hready, new, hnew, honly, hreport⟩ := h
  exact ⟨hready, new, hnew, honly, hQ _ hreport⟩

/-- What startup settled stays when an error is reported. -/
theorem Conn.Ready.afterError {c : Conn} (hc : c.Ready a) (handled : ErrorHandled) : (c.afterError handled).Ready a :=
  ⟨hc.admission, Conn.isStartup_afterError hc.ready handled⟩

/-- A call of the loop comes first. -/
theorem Hears.after {w w' : WireWorld} {Q : List Report → Prop} {c : Call} {r : c.Reply}
    (h : Hears a (w.called c r) w' Q) (hc : c.Later) :
    Hears a w w' fun rs => ∃ rest, rs = [Event.called c r].filterMap report ++ rest ∧ Q rest := by
  obtain ⟨hready, new, hnew, honly, hreport⟩ := h
  refine ⟨hready, [.called c r] ++ new, ?_, (Prog.only_called hc r).append honly, new.filterMap report, ?_, hreport⟩
  · rw [hnew, World.called_log, List.append_assoc]
  · rw [List.filterMap_append]

theorem Hears.trans {w w1 w2 : WireWorld} {Q Q' : List Report → Prop} (h : Hears a w w1 Q) (h' : Hears a w1 w2 Q') :
    Hears a w w2 fun rs => ∃ rs1 rs2, rs = rs1 ++ rs2 ∧ Q rs1 ∧ Q' rs2 := by
  obtain ⟨-, new1, hnew1, honly1, hreport1⟩ := h
  obtain ⟨hready, new2, hnew2, honly2, hreport2⟩ := h'
  refine ⟨hready, new1 ++ new2, ?_, honly1.append honly2, _, _, ?_, hreport1, hreport2⟩
  · rw [hnew2, hnew1, List.append_assoc]
  · rw [List.filterMap_append]

theorem Hears.refl {w : WireWorld} (hw : w.st.Ready a) : Hears a w w (· = []) :=
  ⟨hw, [], (List.append_nil _).symm, Prog.only_nil, rfl⟩

namespace PyServerHandlers

variable (K : Crypto) (h : PyServerHandlers)

/-- **A message of a client that is ready** is answered or fails, and what startup settled stays. -/
theorem processMessage_hears (message : PgWireFrontendMessage) {w : WireWorld} (hw : w.st.Ready a) :
    Prog.Sat (fun _ _ => True) (h.processMessage K message) w fun o w' => Hears a w w' (Replied message o) := by
  have hturn : Replies a message [] (do
      let turn ← await .turn
      Prog.modify fun client : Conn => { client with state := turn.1.1, transactionStatus := turn.2 }
      h.onMessage message) := by
    refine Working.replies (t := await .turn) (working_await ⟨rfl, fun _ => rfl⟩) (failing_nil _) fun turn => ?_
    refine Working.replies (Prog.maintains_modify fun c hc => ⟨hc.admission, turn.1.2⟩) (failing_nil _) fun _ => ?_
    exact onMessage_replies h message
  rw [processMessage, Prog.sat_bind, Prog.sat_get, Prog.after_ok, if_neg (by rw [hw.ready]; decide)]
  refine (hturn w hw).post ?_
  rintro o w' ⟨hready, new, hnew, honly, hreplied⟩
  exact ⟨hready, new, hnew, honly.mono fun c hc => .inl hc, hreplied⟩

/-- **The dialogue**: the client hears the answers to its messages in their order. -/
theorem processSocket_hears (messages : List PgWireFrontendMessage) {w : WireWorld} (hw : w.st.Ready a) :
    Prog.Sat (fun _ _ => True) (h.processSocket K messages) w fun o w' =>
      Hears a w w' (Dialogue o messages) := by
  have hreceive : Call.Later .receive := .inr ⟨rfl, rfl⟩
  induction messages generalizing w with
  | nil =>
    have hnil : Hears a w w (Dialogue (.ok ()) []) := by
      refine (Hears.refl hw).mono fun rs hrs => ?_
      subst hrs
      exact .nil rfl
    exact hnil
  | cons message messages ih =>
    simp only [processSocket, Prog.sat_bind, Prog.sat_await, Prog.after_ok, Prog.sat_attempt]
    refine ⟨trivial, fun r => (h.processMessage_hears K message (w := w.called .receive r) hw).post ?_⟩
    intro o w1 hears
    cases o with
    | ok u =>
      refine (ih hears.1).post fun o w2 hears2 => ((hears.trans hears2).after hreceive).mono ?_
      rintro rs ⟨rest, rfl, rs1, rs2, rfl, hanswers, hlater⟩
      exact .answered hanswers hlater
    | err e =>
      simp only [Prog.caught_err, Prog.after_ok, processError, Prog.sat_bind, Prog.sat_get, Prog.sat_await,
        Prog.sat_modify, Prog.sat_pure]
      refine ⟨trivial, fun handled => ?_⟩
      have hready : ((w1.called (.processError w1.st.state e) handled).modify (Conn.afterError handled)).st.Ready a :=
        hears.1.afterError handled
      have hreported : Hears a w1 ((w1.called (.processError w1.st.state e) handled).modify (Conn.afterError handled))
          (· = [.refused e]) := ⟨hready, _, rfl, Prog.only_called (.inr ⟨rfl, hears.1.ready⟩) handled, rfl⟩
      by_cases hends : handled.ends = true
      · rw [if_pos hends, Prog.sat_pure]
        refine ((hears.trans hreported).after hreceive).mono ?_
        rintro rs ⟨rest, rfl, rs1, rs2, rfl, hfailing, rfl⟩
        exact .ended hfailing e rfl
      · rw [if_neg hends]
        refine (ih hready).post fun o w2 hears2 => ((hears.trans (hreported.trans hears2)).after hreceive).mono ?_
        rintro rs ⟨rest, rfl, rs1, rs2, rfl, hfailing, rs3, rest2, rfl, rfl, hlater⟩
        exact .refused hfailing e hlater
    | panic =>
      have hpanic : Hears a w w1 (Dialogue .panic (message :: messages)) := by
        refine (hears.after hreceive).mono ?_
        rintro rs ⟨rest, rfl, hfailing⟩
        exact .broken hfailing rfl
      exact hpanic

end PyServerHandlers

end Queries

end Pywire
