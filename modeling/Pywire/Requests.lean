import Pywire.Upkeep

/-!
# Requests: Python is asked for what the client asked for

A callback is given names, texts and parameters that come from the message that is handled, and objects that other
callbacks returned.  Which objects those are is settled by the catalogue of the client: a Bind passes on the
statement that was made for the Parse under its name, a Describe or an Execute the portal that was bound for the Bind.

* `Holds.openedAt`: the Python portal under a name was bound for the Bind that the catalogue has there.
* `onMessage_asks`: what a handler asks Python for.
* `PyServerHandlers.callbacks_asked`: **Main result** — every callback of a connection that is ready is asked for by the
  message that is handled, with what its catalogue has under the names in the message.
-/

namespace Pywire

open Async Scram

/-! ### What a message asks for -/

/-- The Python portal at `portal` was bound for the Bind, from the statement made for the Parse that it names. -/
def Catalogue.OpenedAt (k : Catalogue) (log : Log) (portal : PyRef) (b : Bind) : Prop :=
  ∃ on p st, k.statements (key b.statementName) = some p ∧ p.MadeAt log st.statement ∧
    BindCall log portal on (PyExtendedHandler.portalOf b st)

/-- The message may close the portal: the client has prepared it, and the message is about it, about the statement it
was bound from, or ends the transaction. -/
def Catalogue.Closes (k : Catalogue) (message : PgWireFrontendMessage) (n : String) : Prop :=
  (k.portals n).isSome = true ∧
    n ∈ k.closedPortals message (message.closesWhenIdle = true ∨ message.runsQueries = true)

/-- The message asks for the callback, on what the catalogue has. -/
def Catalogue.Asked (k : Catalogue) (message : PgWireFrontendMessage) (log : Log) : PyCall → Prop
  | .simpleDoQuery _ query => message = .query query
  | .parseStatement _ name query typeOids => ∃ p, message = .parse p ∧ name = key p.name ∧ query = p.query ∧
      typeOids = p.typeOids
  | .bindPortal _ name statement parameters formats resultFormats => ∃ b p, message = .bind b ∧
      k.statements (key b.statementName) = some p ∧ p.MadeAt log statement ∧ name = key b.portalName ∧
      parameters = b.parameters ∧ formats = formatCodes (.fromCodes b.parameterFormatCodes) b.parameters.length ∧
      resultFormats = resultFormatCodes (.fromCodes b.resultColumnFormatCodes)
  | .describeStatement _ statement => ∃ t p, message = .describe t ∧ t.targetType = targetTypeByteStatement ∧
      k.statements (key t.name) = some p ∧ p.MadeAt log statement
  | .describePortal _ portal => ∃ t b, message = .describe t ∧ t.targetType = targetTypeBytePortal ∧
      k.portals (key t.name) = some b ∧ k.OpenedAt log portal b
  | .doQuery _ portal maxRows => ∃ e b, message = .execute e ∧ maxRows = e.maxRows ∧
      k.portals (key e.name) = some b ∧ k.OpenedAt log portal b
  | .closePortal _ name => k.Closes message name
  | .closeStatement _ name => message.closedStatement = some name
  | _ => False

/-- What is asked for where a call is made. -/
def Catalogue.Asks (k : Catalogue) (message : PgWireFrontendMessage) (w : WireWorld) (c : Call) : Prop :=
  ∀ call, c = .python call → k.Asked message w.log call

section Objects

variable {h : PyExtendedHandler} {s : Option PyInstance} {k : Catalogue} {w : WireWorld} {log : Log} {n : String}

/-- A stored statement was made for the Parse of its name. -/
theorem Holds.madeAt (hk : Holds k w) {st : StoredStatement}
    (hst : w.st.store.statements.lookup n = some (.value st)) :
    ∃ p, k.statements n = some p ∧ p.MadeAt w.log st.statement := by
  obtain ⟨p, hp⟩ := Option.isSome_iff_exists.mp (hk.statement_found hst)
  obtain ⟨-, entry, hentry, hstored⟩ := hk.statement n p hp
  rw [hst] at hentry
  obtain rfl := Option.some.inj hentry
  cases hstored with
  | value st hempty hmade => exact ⟨p, hp, hmade⟩

/-- **A Python portal** was bound for the Bind of its name. -/
theorem Holds.openedAt (hk : Holds k w) (hw : Inv h w.st w.log) {p : Portal} {bound : BoundPortal}
    (hp : w.st.store.portals.lookup n = some (.value p))
    (hbound : (w.st.resources.portals.lookup n).bind (·.bound) = some bound) :
    ∃ b, k.portals n = some b ∧ k.OpenedAt w.log bound.portal b := by
  obtain ⟨b, hb⟩ := Option.isSome_iff_exists.mp (hk.portal_found hp)
  obtain ⟨rfl, hstored⟩ := hk.portal n b hb
  refine ⟨b, hb, ?_⟩
  obtain ⟨st, hst⟩ : ∃ st, p = PyExtendedHandler.portalOf b st := by
    rcases hstored.stored with hempty | ⟨st, hst⟩
    · rw [hp] at hempty
      cases hempty
    · rw [hp] at hst
      exact ⟨st, Entry.value.inj (Option.some.inj hst)⟩
  obtain ⟨bound', hentry⟩ := hstored.entry
  cases hw.portal (key b.portalName) with
  | absent py stored => rw [py] at hentry; cases hentry
  | empty s py stored => rw [hp] at stored; cases stored
  | bound s b' p' py stored object statement name call inst =>
    rw [hp] at stored
    cases stored
    rw [py] at hbound hentry
    cases hbound
    cases hentry
    obtain ⟨q, hq, hmade⟩ := hk.madeAt statement
    subst hst
    exact ⟨_, q, st, hq, hmade, call⟩

end Objects

/-! ### Handlers that look at no object -/

/-- The message asks for the call, whatever was called before. -/
def Call.AskedBy (k : Catalogue) (message : PgWireFrontendMessage) (c : Call) : Prop :=
  ∀ call, c = .python call → ∀ log : Log, k.Asked message log call

/-- The catalogue has the portals of the connection, with the statements they were bound from. -/
def Conn.Among (k : Catalogue) (c : Conn) : Prop := ∀ n e, c.HasPortal n e → n ∈ k.boundFrom e.statementName

/-- A routine that is asked for. -/
abbrev Asking {α : Type} (k : Catalogue) (message : PgWireFrontendMessage) (t : Proc α) : Prop :=
  Prog.Maintains (Conn.Among k) (Call.AskedBy k message) t

theorem Holds.among {h : PyExtendedHandler} {k : Catalogue} {w : WireWorld} (hk : Holds k w) (hw : Inv h w.st w.log) :
    w.st.Among k := fun _ e he => (hk.mem_boundFrom hw).mpr ⟨e, he, rfl⟩

theorem Catalogue.isSome_of_mem_boundFrom {k : Catalogue} {n statement : String} (hn : n ∈ k.boundFrom statement) :
    (k.portals n).isSome = true := by
  obtain ⟨b, hb, -⟩ := hn
  rw [hb]
  rfl

section Routines

variable {h : PyExtendedHandler} {k : Catalogue} {w : WireWorld} {message : PgWireFrontendMessage} {α : Type}
  {t : Proc α}

theorem askedBy_plain {c : Call} (hc : c.plain = true) : c.AskedBy k message := by
  intro call hcall
  rw [hcall] at hc
  cases hc

theorem askedBy_python {call : PyCall} (hcall : ∀ log : Log, k.Asked message log call) :
    Call.AskedBy k message (.python call) := by
  intro call' heq
  cases heq
  exact hcall

theorem asks_plain {c : Call} (hc : c.plain = true) : k.Asks message w c :=
  fun call hcall => askedBy_plain hc call hcall w.log

theorem asks_python {call : PyCall} (hcall : k.Asked message w.log call) : k.Asks message w (.python call) := by
  intro call' heq
  cases heq
  exact hcall

theorem Asking.sat (ht : Asking k message t) (hw : w.st.Among k) : Prog.Sat (k.Asks message) t w fun _ _ => True :=
  (ht w hw).mono (fun w _ hc call hcall => hc.2 call hcall w.log) fun _ _ _ => trivial

/-- One routine after another, on a longer log. -/
theorem Asking.seq (ht : Asking k message t) (hw : w.st.Among k) {β : Type} {f : α → Proc β}
    (hf : ∀ a w', w'.st.Among k → w.log <+: w'.log → Prog.Sat (k.Asks message) (f a) w' fun _ _ => True) :
    Prog.Sat (k.Asks message) t w (Prog.After (k.Asks message) (fun _ _ => True) f) := by
  refine (((ht w hw).mono (fun w _ hc call hcall => hc.2 call hcall w.log) fun _ _ ho => ho).both
    (Prog.sat_log t w).anywhere).post ?_
  rintro (a | e | _) w' ⟨hamong, hlog⟩
  · exact hf a w' hamong hlog
  · trivial
  · trivial

theorem asking_await {c : Call} (hc : c.plain = true) : Asking k message (await c) :=
  Prog.maintains_await (askedBy_plain hc)

/-- An update that adds no portal. -/
theorem asking_modify {f : Conn → Conn} (hf : ∀ c n e, (f c).HasPortal n e → c.HasPortal n e) :
    Asking k message (Prog.modify f : Proc Unit) :=
  Prog.maintains_modify fun c hc n e he => hc n e (hf c n e he)

theorem asking_closing : Closing (Conn.Among k) (Call.AskedBy k message) :=
  ⟨askedBy_plain rfl, fun _ => askedBy_plain rfl, fun _ _ _ _ hportals hc n e he => hc n e (hportals n e he)⟩

/-- A portal that is there is closed if the message is about it. -/
theorem asking_closePortal {n : String}
    (hn : (k.portals n).isSome = true →
      n ∈ k.closedPortals message (message.closesWhenIdle = true ∨ message.runsQueries = true)) :
    Asking k message (PyExtendedHandler.closePortal n) := by
  refine asking_closing.closePortal fun c e hc he on => askedBy_python fun _ => ?_
  have hsome := Catalogue.isSome_of_mem_boundFrom (hc n e he)
  exact ⟨hsome, hn hsome⟩

/-- All portals are closed where a transaction may end. -/
theorem asking_closeAllPortals (hall : message.closesWhenIdle = true ∨ message.runsQueries = true) :
    Asking k message PyExtendedHandler.closeAllPortals :=
  asking_closing.closeAllPortals fun n _ e hc he _ => askedBy_python fun _ =>
    ⟨Catalogue.isSome_of_mem_boundFrom (hc n e he), .inr (.inr hall)⟩

theorem asking_closeStatement {n : String} (hn : message.closedStatement = some n) :
    Asking k message (h.closeStatement n) := by
  refine asking_closing.closeStatement h (fun m c e hc he hname on => askedBy_python fun _ => ?_) fun _ =>
    askedBy_python fun _ => hn
  have hm := hc m e he
  rw [hname] at hm
  exact ⟨Catalogue.isSome_of_mem_boundFrom hm, .inr (.inl ⟨n, hn, hm⟩)⟩

theorem asking_expectResources : Asking k message PyExtendedHandler.expectResources :=
  Prog.Maintains.get_bind fun _ _ => Prog.Maintains.ite (fun _ => Prog.maintains_pure _) fun _ => Prog.maintains_panic

theorem asking_sendResponses (responses : List Response) :
    Asking k message (PyExtendedHandler.sendResponses responses) :=
  (asking_await rfl).bind fun _ => Prog.Maintains.bind (asking_modify fun _ _ _ => id) fun _ => Prog.maintains_ofExcept _

theorem storeParsed_asking (message : Parse) : Asking k (.parse message) (h.storeParsed (key message.name) message) := by
  refine Prog.Maintains.ite (fun _ => ?_) fun _ => Prog.Maintains.get_bind fun c _ => ?_
  · exact Prog.Maintains.bind (asking_modify fun _ _ _ => id) fun _ => asking_await rfl
  · have hparse : Asking k (.parse message) (PyExtendedHandler.parseStatement (h.instanceFor c) (key message.name)
        message.query message.typeOids) := by
      cases h.instanceFor c with
      | none => exact Prog.maintains_fail _
      | some i => exact maintains_callPythonRef (askedBy_python fun _ => ⟨message, rfl, rfl, rfl, rfl⟩)
    refine hparse.bind fun statement => (Prog.maintains_ofOutcome _).bind fun i => ?_
    refine asking_expectResources.bind fun _ => Prog.Maintains.bind (asking_modify fun _ _ _ => id) fun _ => ?_
    exact Prog.Maintains.bind (asking_modify fun _ _ _ => id) fun _ => asking_await rfl

theorem onParse_asking (message : Parse) : Asking k (.parse message) (h.onParse message) := by
  refine Prog.Maintains.get_bind fun c _ => Prog.Maintains.ite (fun hname => ?_) fun _ => ?_
  · have hclosed : PgWireFrontendMessage.closedStatement (.parse message) = some (key message.name) :=
      (if_pos hname).trans (congrArg some hname.symm)
    exact (asking_closeStatement hclosed).bind fun _ => storeParsed_asking message
  · exact Prog.Maintains.ite (fun _ => Prog.maintains_fail _) fun _ => storeParsed_asking message

theorem onClose_asking (message : Target) : Asking k (.close message) (h.onClose message) := by
  refine Prog.Maintains.ite (fun hstatement => ?_) fun _ => Prog.Maintains.ite (fun hportal => ?_) fun _ => ?_
  · have hclosed : PgWireFrontendMessage.closedStatement (.close message) = some (key message.name) := if_pos hstatement
    exact (asking_closeStatement hclosed).bind fun _ => asking_await rfl
  · have hclosed : PgWireFrontendMessage.closedPortal (.close message) = some (key message.name) := if_pos hportal
    refine (asking_closePortal fun _ => .inl hclosed).bind fun _ => ?_
    exact Prog.Maintains.bind (asking_modify fun _ _ _ => id) fun _ => asking_await rfl
  · exact Prog.maintains_fail _

theorem onSync_asking : Asking k .sync PyExtendedHandler.onSync := by
  have hrest : Asking k .sync (do
      let client ← Prog.get
      send (.readyForQuery client.transactionStatus)
      await .flush) :=
    Prog.Maintains.get_bind fun c _ => (asking_await rfl).bind fun _ => asking_await rfl
  refine Prog.Maintains.get_bind fun c _ => Prog.Maintains.ite (fun _ => ?_) fun _ => hrest
  exact (asking_closeAllPortals (.inl rfl)).bind fun _ => hrest

theorem simpleDoQuery_asking (query : String) : Asking k (.query query) (PyServerSimpleQueryHandler.doQuery query) := by
  refine Prog.Maintains.get_bind fun c _ => Prog.Maintains.bind (maintains_callPython ?_) fun responses => ?_
  · exact askedBy_python fun _ => rfl
  · refine Prog.Maintains.ite (fun _ => ?_) fun _ => Prog.maintains_pure _
    exact (asking_closeAllPortals (.inr rfl)).bind fun _ => Prog.maintains_pure _

theorem innerOnQuery_asking (query : String) : Asking k (.query query) (PyServerSimpleQueryHandler._onQuery query) := by
  have hrest : Asking k (.query query) (do
      Prog.modify fun client : Conn => { client with state := .readyForQuery }
      let client ← Prog.get
      send (.readyForQuery client.transactionStatus)) :=
    Prog.Maintains.bind (asking_modify fun _ _ _ => id) fun _ => Prog.Maintains.get_bind fun c _ => asking_await rfl
  refine Prog.Maintains.bind (asking_modify fun _ _ _ => id) fun _ => (asking_await rfl).bind fun empty => ?_
  refine Prog.Maintains.ite (fun _ => (asking_sendResponses _).bind fun _ => hrest) fun _ => ?_
  exact (simpleDoQuery_asking query).bind fun rs => (asking_sendResponses rs).bind fun _ => hrest

theorem onQuery_asking {hs : PyServerSimpleQueryHandler} (query : String) : Asking k (.query query) (hs.onQuery query) := by
  refine Prog.Maintains.get_bind fun c _ => Prog.Maintains.ite (fun _ => Prog.maintains_fail _) fun _ => ?_
  refine (asking_closePortal fun _ => .inl rfl).bind fun _ => Prog.Maintains.bind (asking_modify fun _ _ _ => id) fun _ => ?_
  refine (asking_closeStatement rfl).bind fun _ => ?_
  refine (innerOnQuery_asking query).attempt.bind fun r => ?_
  refine Prog.Maintains.get_bind fun c _ => Prog.Maintains.ite (fun _ => ?_) fun _ => Prog.maintains_ofExcept _
  exact (asking_closeAllPortals (.inl rfl)).bind fun _ => Prog.maintains_ofExcept _

end Routines

/-! ### Handlers that look at an object -/

section Handlers

variable {h : PyExtendedHandler} {s : Option PyInstance} {k : Catalogue} {w : WireWorld}

/-- The portal is stored, which asks Python for nothing. -/
theorem storeBound_asks (message : Bind) (entry : PortalEntry) (put : Conn → Conn) :
    Prog.Sat (k.Asks (.bind message)) (do
      PyExtendedHandler.expectResources
      Prog.modify (Conn.insertPortal (key message.portalName) entry)
      Prog.modify put
      send .bindComplete) w fun _ _ => True := by
  simp only [PyExtendedHandler.expectResources, Prog.sat_bind, Prog.sat_get, Prog.after_ok]
  split
  · simp only [Prog.sat_pure, Prog.after_ok, Prog.sat_bind, Prog.sat_modify, Prog.sat_await]
    exact ⟨asks_plain rfl, fun _ => trivial⟩
  · trivial

theorem onBind_asks (hk : Holds k w) (hw : Inv h w.st w.log) (message : Bind) :
    Prog.Sat (k.Asks (.bind message)) (h.onBind message) w fun _ _ => True := by
  simp only [PyExtendedHandler.onBind, Prog.sat_bind, Prog.sat_get, Prog.after_ok]
  split
  · trivial
  rename_i hunused
  have hclose : Asking k (.bind message) (PyExtendedHandler.closePortal (key message.portalName)) := by
    refine asking_closePortal fun hsome => ?_
    by_cases hname : key message.portalName = defaultName
    · rw [hname]
      exact .inl (if_pos hname)
    · have hfree : w.st.store.portals.lookup (key message.portalName) = none := by simpa [hname] using hunused
      rw [hk.portals_none.mpr hfree] at hsome
      cases hsome
  split
  · trivial
  split
  · rename_i statement hst
    obtain ⟨p, hp, hmade⟩ := hk.madeAt hst
    simp only [PyExtendedHandler.portalTryNew, Prog.sat_bind, Prog.sat_await, Prog.after_ok, Prog.sat_ofExcept,
      Prog.sat_pure, Prog.sat_ofOutcome, Prog.after_err]
    refine ⟨asks_plain rfl, fun r => ⟨fun _ _ => ?_, fun _ _ => trivial⟩⟩
    cases h.instanceFor w.st with
    | none => trivial
    | some i =>
      simp only [Outcome.okOr_some, Prog.after_ok, Prog.sat_bind]
      have hamong : (w.called (.tryNewPortal message) r).st.Among k := hk.among hw
      refine hclose.seq hamong fun _ w2 _ hlog => ?_
      rw [Prog.sat_bind, Prog.sat_modify, Prog.after_ok, Prog.sat_bind, PyExtendedHandler.bindPortal, sat_callPythonRef]
      refine ⟨asks_python ?_, fun r' => storeBound_asks message _ _, fun e => trivial⟩
      exact ⟨message, p, rfl, hp, hmade.later ((List.prefix_append _ _).trans hlog), rfl, rfl, rfl, rfl⟩
  · split
    · trivial
    · simp only [Prog.sat_bind]
      exact hclose.seq (hk.among hw) fun _ w2 _ _ => storeBound_asks message _ _
  · trivial

/-- The portal that is described or run. -/
theorem portalFor_eq_ok {client : Conn} {name : String} {portal : PyRef}
    (hp : PyExtendedHandler.portalFor client name = .ok portal) :
    ∃ bound, (client.resources.portals.lookup name).bind (·.bound) = some bound ∧ bound.portal = portal := by
  unfold PyExtendedHandler.portalFor at hp
  by_cases hi : client.installed = true
  · rw [if_pos hi] at hp
    cases hb : (client.resources.portals.lookup name).bind (·.bound) with
    | none => rw [hb] at hp; cases hp
    | some bound =>
      rw [hb] at hp
      exact ⟨bound, rfl, Outcome.ok.inj hp⟩
  · rw [if_neg hi] at hp
    cases hp

/-- The name of a stored portal is the one it is stored under. -/
theorem Inv.portal_name (hw : Inv h w.st w.log) {n : String} {p : Portal}
    (hp : w.st.store.portals.lookup n = some (.value p)) : p.name = n := by
  cases hw.portal n with
  | absent py stored => rw [hp] at stored; cases stored
  | empty s py stored => rw [hp] at stored; cases stored
  | bound s b p' py stored object statement name =>
    rw [hp] at stored
    cases stored
    exact name

theorem onDescribe_asks (hk : Holds k w) (hw : Inv h w.st w.log) (message : Target) :
    Prog.Sat (k.Asks (.describe message)) (h.onDescribe message) w fun _ _ => True := by
  have hsend : ∀ m : PgWireBackendMessage, Asking k (.describe message) (send m) := fun m => asking_await rfl
  have hamong := hk.among hw
  simp only [PyExtendedHandler.onDescribe, Prog.sat_bind, Prog.sat_get, Prog.after_ok]
  by_cases hstatement : message.targetType = targetTypeByteStatement
  · rw [if_pos hstatement]
    cases hst : w.st.store.statements.lookup (message.name.getD defaultName) with
    | none => trivial
    | some entry =>
      cases entry with
      | empty => exact Asking.sat ((hsend _).bind fun _ => hsend _) hamong
      | value statement =>
        obtain ⟨p, hp, hmade⟩ := hk.madeAt hst
        simp only [PyExtendedHandler.doDescribeStatement, Prog.sat_bind, Prog.sat_get, Prog.after_ok]
        cases h.instanceFor w.st with
        | none => exact Asking.sat ((hsend _).bind fun _ => hsend _) hamong
        | some i =>
          simp only [Prog.sat_bind, sat_callPython, Prog.after_ok, Prog.sat_pure]
          refine ⟨asks_python ⟨message, p, rfl, hstatement, hp, hmade⟩, fun r => ?_, fun e => trivial⟩
          exact Asking.sat ((hsend _).bind fun _ => hsend _) hamong
  · rw [if_neg hstatement]
    by_cases hportal : message.targetType = targetTypeBytePortal
    · rw [if_pos hportal]
      cases hst : w.st.store.portals.lookup (message.name.getD defaultName) with
      | none => trivial
      | some entry =>
        cases entry with
        | empty => exact (hsend _).sat hamong
        | value portal =>
          have hname := hw.portal_name hst
          simp only [PyExtendedHandler.doDescribePortal, Prog.sat_bind, Prog.sat_get, Prog.after_ok]
          cases h.instanceFor w.st with
          | none => exact (hsend _).sat hamong
          | some i =>
            simp only [Prog.sat_bind, Prog.sat_ofOutcome]
            cases hp : PyExtendedHandler.portalFor w.st portal.name with
            | err e => trivial
            | panic => trivial
            | ok pyPortal =>
              rw [hname] at hp
              obtain ⟨bound, hbound, rfl⟩ := portalFor_eq_ok hp
              obtain ⟨b, hb, hopened⟩ := hk.openedAt hw hst hbound
              simp only [Prog.after_ok, Prog.sat_bind, sat_callPython, Prog.sat_pure]
              refine ⟨asks_python ⟨message, b, rfl, hportal, hb, hopened⟩, fun r => (hsend _).sat hamong, fun e => trivial⟩
    · rw [if_neg hportal]
      trivial

/-- A portal is run; the portals that are left are still those of the catalogue. -/
theorem doQuery_asks (hk : Holds k w) (hw : Inv h w.st w.log) (message : Execute) {portal : Portal}
    (hst : w.st.store.portals.lookup (key message.name) = some (.value portal)) :
    Prog.Sat (k.Asks (.execute message)) (h.doQuery portal message.maxRows) w fun _ w' => w'.st.Among k := by
  have hamong := hk.among hw
  rw [PyExtendedHandler.doQuery, Prog.sat_bind, Prog.sat_get, Prog.after_ok]
  cases h.instanceFor w.st with
  | none => exact hamong
  | some i =>
    simp only [Prog.sat_bind, Prog.sat_ofOutcome]
    cases hp : PyExtendedHandler.portalFor w.st portal.name with
    | err e => exact hamong
    | panic => exact hamong
    | ok pyPortal =>
      rw [hw.portal_name hst] at hp
      obtain ⟨bound, hbound, rfl⟩ := portalFor_eq_ok hp
      obtain ⟨b, hb, hopened⟩ := hk.openedAt hw hst hbound
      rw [Prog.after_ok, Prog.sat_bind, sat_callPython]
      refine ⟨asks_python ⟨message, b, rfl, rfl, hb, hopened⟩, fun r => ?_, fun e => hamong⟩
      have hrest : Asking k (.execute message) (do
          if r.intoPg.isTransactionEnd then PyExtendedHandler.closeAllPortals else pure ()
          return r.intoPg) :=
        Prog.Maintains.ite (fun _ => (asking_closeAllPortals (.inr rfl)).bind fun _ => Prog.maintains_pure _)
          fun _ => Prog.maintains_pure _
      exact (hrest (w.called (.python (.doQuery i bound.portal message.maxRows)) (.ok r)) hamong).mono
        (fun w _ hc call hcall => hc.2 call hcall w.log) fun _ _ ho => ho

theorem onExecute_asks (hk : Holds k w) (hw : Inv h w.st w.log) (message : Execute) :
    Prog.Sat (k.Asks (.execute message)) (h.onExecute message) w fun _ _ => True := by
  have hamong := hk.among hw
  rw [PyExtendedHandler.onExecute, Prog.sat_bind, Prog.sat_get, Prog.after_ok]
  cases hst : w.st.store.portals.lookup (message.name.getD defaultName) with
  | none => trivial
  | some entry =>
    cases entry with
    | empty => exact (asking_sendResponses _).sat hamong
    | value portal =>
      dsimp only
      rw [Prog.sat_bind, Prog.sat_await]
      refine ⟨asks_plain rfl, fun resumes => ?_⟩
      rw [Prog.after_ok]
      by_cases hresumes : resumes = true
      · rw [if_pos hresumes]
        exact (asking_sendResponses _).sat hamong
      · rw [if_neg hresumes, Prog.sat_bind]
        have hw1 : Inv h _ (w.called (.resumesPortal (message.name.getD defaultName)) resumes).log :=
          hw.quiet (quiet_of_plain rfl)
        have hk1 : Holds k (w.called (.resumesPortal (message.name.getD defaultName)) resumes) :=
          hk.same rfl (List.prefix_append _ _)
        refine (doQuery_asks hk1 hw1 message hst).post ?_
        rintro (response | e | _) w2 ho
        · exact (asking_sendResponses _).sat ho
        · trivial
        · trivial

/-- **A handler asks** Python for what its message asks for. -/
theorem onMessage_asks {h : PyServerHandlers} (hk : Holds k w) (hw : Inv h.extendedQuery w.st w.log)
    (message : PgWireFrontendMessage) : Prog.Sat (k.Asks message) (h.onMessage message) w fun _ _ => True := by
  have hamong := hk.among hw
  cases message with
  | query query => exact (onQuery_asking query).sat hamong
  | parse message => exact (onParse_asking message).sat hamong
  | bind message => exact onBind_asks hk hw message
  | describe message => exact onDescribe_asks hk hw message
  | execute message => exact onExecute_asks hk hw message
  | close message => exact (onClose_asking message).sat hamong
  | sync => exact onSync_asking.sat hamong
  | startup message => trivial
  | passwordMessageFamily message => trivial
  | other => trivial

theorem processMessage_asks {K : Crypto} {h : PyServerHandlers} (hq : Quiescent h w)
    (hready : w.st.state.isStartup = false) (hk : Holds k w) (message : PgWireFrontendMessage) :
    Prog.Sat (k.Asks message) (h.processMessage K message) (w.called .receive ()) fun _ _ => True := by
  refine (sat_processMessage hready).mpr ⟨asks_plain rfl, fun turn => ?_⟩
  have hw : Inv h.extendedQuery (w.handedOver turn).st (w.handedOver turn).log := by
    rcases hq.departed hready with ⟨s, hl⟩ | hw
    · exact (hl.handedOver turn).inv
    · exact (hw.handedOver turn).inv
  exact onMessage_asks (hk.handedOver turn) hw message

end Handlers

/-! ### Every callback of a connection that is ready -/

namespace PyServerHandlers

variable {K : Crypto} {h : PyServerHandlers} {env : WireEnv}

/-- **Python is asked for what the client asked for.** -/
theorem callbacks_asked {configureCertificate : Bytes → Except PgWireError Unit} {config : HandlerConfig}
    (hb : config.build configureCertificate = .ok h) {turns : List Catalogue.Turn} {w : WireWorld}
    (hruns : (h.rounds K env).Runs turns ⟨w, true⟩) (hready : w.st.state.isStartup = false)
    (message : PgWireFrontendMessage) :
    ∃ k, Catalogue.system.Runs turns k ∧ Holds k w ∧ ∀ j call r, w.log.length ≤ j →
      ((h.processMessage K message).final env (w.called .receive ())).log[j]? = some (.called (.python call) r) →
        k.Asked message (((h.processMessage K message).final env (w.called .receive ())).log.take j) call := by
  obtain ⟨k, hk, hq, hholds⟩ := (simulates_rounds (HandlerConfig.wired hb)).runs hruns
  refine ⟨k, hk, hholds, fun j call r hj he => ?_⟩
  -- only the calls from the message on are what it asks for
  let D : Log → Call → Prop := fun log c => w.log.length ≤ log.length → ∀ call, c = .python call → k.Asked message log call
  have hearlier : Prog.Allowed D w.log := by
    intro p c r s hs hlen
    rw [hs, List.length_append, List.length_cons] at hlen
    omega
  have hreceived : Prog.Allowed D (w.called .receive ()).log :=
    Prog.allowed_concat.mpr ⟨hearlier, fun c r hcall _ call hpython => by subst hpython; cases hcall⟩
  have hasks := (processMessage_asks (K := K) hq hready hholds message).allowed (fun _ _ hc _ => hc) hreceived
  have hallowed : Prog.Allowed D ((h.processMessage K message).final env (w.called .receive ())).log := (hasks.run env).2
  have hlt := (List.getElem?_eq_some_iff.mp he).1
  refine hallowed.at he ?_ call rfl
  rw [List.length_take]
  omega

/-- A client that has parsed the unnamed statement binds the unnamed portal. -/
theorem callbacks_asked_bind : ∃ turns k, ((trusting false).rounds default agreeable).Runs turns ⟨trustedParsed, true⟩ ∧
    Catalogue.system.Runs turns k ∧ Holds k trustedParsed ∧ ∀ j call r, trustedParsed.log.length ≤ j →
      (((trusting false).processMessage default (.bind ⟨none, none, [], [], []⟩)).final agreeable
        (trustedParsed.called .receive ())).log[j]? = some (.called (.python call) r) →
      k.Asked (.bind ⟨none, none, [], [], []⟩)
        ((((trusting false).processMessage default (.bind ⟨none, none, [], [], []⟩)).final agreeable
          (trustedParsed.called .receive ())).log.take j) call := by
  have hstart : ((trusting false).rounds default agreeable).Runs [] ⟨freshWorld false "127.0.0.1", true⟩ :=
    .start ⟨false, "127.0.0.1", rfl⟩
  have hready : ((trusting false).rounds default agreeable).Runs _ ⟨trustedReady, true⟩ :=
    hstart.step (.handled (.startup ⟨[("user", "alice")]⟩) rfl)
  have hparsed : ((trusting false).rounds default agreeable).Runs _ ⟨trustedParsed, true⟩ :=
    hready.step (.handled (.parse ⟨none, "SELECT 1", []⟩) rfl)
  obtain ⟨k, hk, hholds, hasked⟩ := callbacks_asked (trusting_build false) hparsed rfl (.bind ⟨none, none, [], [], []⟩)
  exact ⟨_, k, hparsed, hk, hholds, hasked⟩

end PyServerHandlers

end Pywire
