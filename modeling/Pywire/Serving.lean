import Pywire.Sweep
import Pywire.CloseErrors

/-!
# Serving: the four maps at every message of every connection

`Serving` is every world in which a connection calls one of its query handlers: a message was dispatched to it, or
`on_query` or `on_execute` has come to its call of `do_query`.  The connection has left startup by then, as it should
or by an error; on a stranded one no portal is ever stored, and nothing is closed.

* `PyServerHandlers.portals_end_with_transaction`: **Main result** — no portal outlives its transaction.
* `PyServerHandlers.errors_only_remove`: **Main result** — a handler that fails has only removed what was closed.
-/

namespace Pywire

open Async Scram

/-! ### Where handlers are called -/

namespace PyServerHandlers

variable (K : Crypto) (h : PyServerHandlers) (env : WireEnv)

/-- A message after startup is handed to its handler, on a connection whose task has not panicked. -/
def Dispatched (w : WireWorld) : Prop :=
  ∃ secure host messages,
    ((h.processSocket K messages).run env (freshWorld secure host)).1 = .ok () ∧
      ((h.processSocket K messages).final env (freshWorld secure host)).st.state.isStartup = false ∧
        w = h.dispatched K env secure host messages

/-- The world in which `_on_query` has heard that its query is not empty. -/
def queryStarted (query : String) (w : WireWorld) : WireWorld :=
  (w.modify fun client => { client with state := .queryInProgress }).called (.isEmptySimpleQuery query) false

/-- A query handler is called. -/
inductive Serving : WireWorld → Prop where
  | message {w : WireWorld} (hw : h.Dispatched K env w) : Serving w
  | inQuery {w w1 : WireWorld} (query : String) (hw : h.Dispatched K env w) (hs : w.st.state = .readyForQuery)
      (hd : h.simpleQuery.closeDefaults.run env w = (.ok (), w1))
      (hr : env w1.log (.isEmptySimpleQuery query) = false) : Serving (queryStarted query w1)
  | inExecute {w : WireWorld} {portal : Portal} (name : String) (hw : h.Dispatched K env w)
      (hstored : w.st.store.portals.lookup name = some (.value portal)) (hr : env w.log (.resumesPortal name) = false) :
      Serving (w.called (.resumesPortal name) false)

end PyServerHandlers

section Reached

variable {K : Crypto} {h : PyServerHandlers} {env : WireEnv} {w w' : WireWorld}

/-- A connection after startup: everything is installed, or it is stranded. -/
def Departed (h : PyExtendedHandler) (w : WireWorld) : Prop := (∃ s, Live h s w) ∨ Stranded h w

/-- A connection between two messages has left startup, as it should or by an error. -/
theorem Quiescent.departed (hq : Quiescent h w) (hready : w.st.state.isStartup = false) : Departed h.extendedQuery w := by
  cases hq with
  | starting hw hs =>
    rw [hready] at hs
    cases hs
  | ready s hl hg => exact .inl ⟨s, hl⟩
  | stranded hw => exact .inr hw

theorem Departed.quiet {x : PyExtendedHandler} {c : Call} {r : c.Reply} (hd : Departed x w)
    (he : Quiet (.called c r)) : Departed x (w.called c r) := by
  rcases hd with ⟨s, hl⟩ | hw
  · exact .inl ⟨s, hl.quiet he⟩
  · exact .inr (hw.quiet he)

/-- The connection changed where nothing is stored. -/
theorem Departed.congr {x : PyExtendedHandler} {c : Conn} (hd : Departed x w) (hr : c.resources = w.st.resources)
    (hs : c.store = w.st.store) (hp : c.pySession = w.st.pySession) (hi : c.installed = w.st.installed)
    (hphase : c.state.isStartup = false) : Departed x ⟨c, w.log⟩ := by
  rcases hd with ⟨s, hl⟩ | hw
  · exact .inl ⟨s, hl.congr hr hs hp hi hphase⟩
  · exact .inr (hw.congr hr hs hp hi hphase)

theorem PyServerHandlers.Dispatched.departed (hw : h.Dispatched K env w) (hwired : h.Wired) :
    Departed h.extendedQuery w := by
  obtain ⟨secure, host, messages, hreturns, hready, rfl⟩ := hw
  have hsocket := (processSocket_sat (K := K) (quiescent_freshWorld h secure host) hwired messages).run env
  have hq : Quiescent h ((h.processSocket K messages).final env (freshWorld secure host)) := by
    rw [hreturns] at hsocket
    exact hsocket
  have hreceived := (hq.departed hready).quiet (c := .receive) (r := ()) (quiet_of_plain rfl)
  have hturn : ∀ turned, Departed h.extendedQuery _ := fun turned =>
    hreceived.quiet (c := .turn) (r := turned) (quiet_of_plain rfl)
  exact (hturn _).congr rfl rfl rfl rfl (env _ .turn).1.2

theorem PyServerSimpleQueryHandler.closeDefaults_sat {hs : PyServerSimpleQueryHandler} {s : Option PyInstance}
    (hl : Live hs.extended s w) :
    Prog.Sat (AtCall hs.extended s) hs.closeDefaults w (Keeps hs.extended s) := by
  refine sat_seq (closePortal_sat hl _) (fun _ w1 hc => ?_) fun _ hc => hc.live
  rw [Prog.sat_bind, Prog.sat_modify, Prog.after_ok]
  exact (closeStatement_sat hc.live _).post fun _ _ ho => ho.imp (fun hc2 => hc2.live) fun hc2 => hc2.live

theorem PyServerSimpleQueryHandler.closeDefaults_stranded {hs : PyServerSimpleQueryHandler}
    (hw : Stranded hs.extended w) {C : WireWorld → Call → Prop} :
    Prog.Sat C hs.closeDefaults w fun o w' => o = .ok () ∧ Stays hs.extended w w' := by
  have hw1 := hw.rmPortal defaultName
  rw [PyServerSimpleQueryHandler.closeDefaults, Prog.sat_bind, sat_closePortal_missing hw.missing, Prog.after_ok,
    Prog.sat_bind, Prog.sat_modify, Prog.after_ok, sat_closeStatement_missing hw1.stranded.missing]
  exact ⟨rfl, hw1⟩

/-- **Every handler is called on a connection that has left startup**. -/
theorem PyServerHandlers.Serving.departed (hw : h.Serving K env w) (hwired : h.Wired) :
    Departed h.extendedQuery w := by
  cases hw with
  | message hw => exact hw.departed hwired
  | @inQuery w0 w1 query hw hs hd hr =>
    have hclosed : Departed h.extendedQuery w1 := by
      rcases hw.departed hwired with ⟨s, hl⟩ | hstranded
      · have hsimple : Live h.simpleQuery.extended s _ := hwired.extended ▸ hl
        have hrun := (PyServerSimpleQueryHandler.closeDefaults_sat hsimple).run env
        rw [hd, hwired.extended] at hrun
        exact .inl ⟨s, hrun⟩
      · have hsimple : Stranded h.simpleQuery.extended w0 := hwired.extended ▸ hstranded
        have hrun := (PyServerSimpleQueryHandler.closeDefaults_stranded hsimple
          (C := fun _ _ => True)).run env
        rw [hd, hwired.extended] at hrun
        exact .inr hrun.2.stranded
    exact (hclosed.congr (c := { w1.st with state := .queryInProgress }) rfl rfl rfl rfl rfl).quiet (quiet_of_plain rfl)
  | inExecute name hw hstored hr => exact (hw.departed hwired).quiet (quiet_of_plain rfl)

/-! ### The end of a transaction -/

/-- The statement `n` is what it was, in both maps. -/
def SameStatement (c c' : Conn) (n : String) : Prop :=
  c'.resources.statements.lookup n = c.resources.statements.lookup n ∧
    c'.store.statements.lookup n = c.store.statements.lookup n

/-- No portal is left, and an Execute finds none. -/
structure PortalsGone (h : PyExtendedHandler) (env : WireEnv) (w : WireWorld) : Prop where
  both : NoPortals w.st
  execute : ∀ message : Execute,
    (h.onExecute message).run env w = (.err (.portalNotFound (message.name.getD defaultName)), w)

theorem NoPortals.gone {h : PyExtendedHandler} (hw : NoPortals w.st) : PortalsGone h env w := by
  refine ⟨hw, fun message => ?_⟩
  have hnone : w.st.store.portals.lookup (message.name.getD defaultName) = none := by
    rw [hw.2]
    exact AList.lookup_empty _
  rw [PyExtendedHandler.onExecute, Prog.run_bind, Prog.run_get, Prog.resume_ok, hnone]
  rfl

/-- A statement outside the sweep is what it was. -/
theorem Swept.sameStatement {P S : String → Prop} {n : String} (hswept : Swept P S w w') (hn : ¬ S n) :
    SameStatement w.st w'.st n := by
  rcases hswept.statements n with hsame | ⟨hS, -⟩
  · exact ⟨congrArg Prod.fst hsame, congrArg Prod.snd hsame⟩
  · exact absurd hS hn

/-- The end of a transaction in `do_query`, on either path. -/
theorem Queried.gone {α : Type} {x : PyExtendedHandler} {s : Option PyInstance} {ends : α → Prop} {a : α}
    (hq : Queried x s ends w (.ok a) w') (hends : ends a) :
    PortalsGone x env w' ∧ ∀ n, SameStatement w.st w'.st n :=
  ⟨(hq.2 a rfl hends).gone, fun _ => hq.1.2.sameStatement id⟩

/-- On a stranded connection there are no portals to begin with. -/
theorem Stranded.noPortals {x : PyExtendedHandler} (hw : Stranded x w) : NoPortals w.st :=
  ⟨StrMap.eq_empty _ fun n => (hw.fresh n).1, StrMap.eq_empty _ fun n => (hw.no_portal n).2⟩

theorem Stays.gone {x : PyExtendedHandler} (hs : Stays x w w') :
    PortalsGone x env w' ∧ ∀ n, SameStatement w.st w'.st n := by
  refine ⟨hs.stranded.noPortals.gone, fun n => ⟨?_, ?_⟩⟩
  · rw [hs.undisturbed.resources]
  · rw [hs.undisturbed.stored]

/-- A Sync inside a transaction changes nothing. -/
theorem onSync_open (hopen : w.st.transactionStatus ≠ .idle) :
    Prog.Sat (fun _ _ => True) PyExtendedHandler.onSync w fun _ w' => w'.st = w.st := by
  simp only [PyExtendedHandler.onSync, Prog.sat_bind, Prog.sat_get, Prog.after_ok, if_neg hopen, Prog.sat_await]
  exact ⟨trivial, fun _ => ⟨trivial, fun _ => rfl⟩⟩

/-- **Main result**: no portal outlives its transaction, wherever it ends, and no statement goes with it. -/
theorem PyServerHandlers.portals_end_with_transaction (K : Crypto)
    {configureCertificate : Bytes → Except PgWireError Unit} {config : HandlerConfig} {h : PyServerHandlers}
    (hb : config.build configureCertificate = .ok h) {env : WireEnv} {w : WireWorld} (hw : h.Serving K env w) :
    (∀ w', PyExtendedHandler.onSync.run env w = (.ok (), w') → w'.st.transactionStatus = .idle →
      PortalsGone h.extendedQuery env w' ∧ ∀ n, SameStatement w.st w'.st n) ∧
    (w.st.transactionStatus ≠ .idle → (PyExtendedHandler.onSync.run env w).2.st = w.st) ∧
    (∀ query responses w', (PyServerSimpleQueryHandler.doQuery query).run env w = (.ok responses, w') →
      (∃ response ∈ responses, response.isTransactionEnd = true) →
        PortalsGone h.extendedQuery env w' ∧ ∀ n, SameStatement w.st w'.st n) ∧
    (∀ portal maxRows response w', (h.extendedQuery.doQuery portal maxRows).run env w = (.ok response, w') →
      response.isTransactionEnd = true →
        PortalsGone h.extendedQuery env w' ∧ ∀ n, SameStatement w.st w'.st n) ∧
    ∀ query w', (h.simpleQuery.onQuery query).run env w = (.ok (), w') → w'.st.transactionStatus = .idle →
      PortalsGone h.extendedQuery env w' ∧ ∀ n, n ≠ defaultName → SameStatement w.st w'.st n := by
  have hwired := HandlerConfig.wired hb
  rcases hw.departed hwired with ⟨s, hl⟩ | hw
  · refine ⟨fun w' hrun hidle => ?_, fun hopen => (onSync_open hopen).run env, fun query responses w' hrun hend => ?_,
      fun portal maxRows response w' hrun hend => ?_, fun query w' hrun hidle => ?_⟩
    · have hsync := (onSync_swept hl).run env
      rw [hrun] at hsync
      have hnone : NoPortals w'.st := hsync.2.2.2 hidle
      exact ⟨hnone.gone, fun _ => hsync.2.1.sameStatement id⟩
    · have hquery := (simpleDoQuery_swept hl query).run env
      rw [hrun] at hquery
      exact hquery.gone (List.any_eq_true.mpr hend)
    · have hquery := (doQuery_swept hl portal maxRows).run env
      rw [hrun] at hquery
      exact hquery.gone hend
    · have hsimple : Live h.simpleQuery.extended s w := hwired.extended ▸ hl
      have hquery := (onQuery_swept hsimple query).run env
      rw [hrun] at hquery
      have hnone : NoPortals w'.st := hquery.2.2 hidle
      exact ⟨hnone.gone, fun n hn => hquery.2.1.sameStatement hn⟩
  · refine ⟨fun w' hrun _ => ?_, fun hopen => (onSync_open hopen).run env, fun query responses w' hrun _ => ?_,
      fun portal maxRows response w' hrun _ => ?_, fun query w' hrun _ => ?_⟩
    · have hsync := (onSync_stranded hw).run env
      rw [hrun] at hsync
      exact Stays.gone hsync
    · have hquery := (simpleDoQuery_stranded hw query).run env
      rw [hrun] at hquery
      exact Stays.gone hquery
    · have hquery := (doQuery_stranded hw portal maxRows).run env
      rw [hrun] at hquery
      obtain ⟨⟨e, he⟩, -⟩ := hquery
      cases he
    · have hquery := (h.simpleQuery.onQuery_stranded hw query).run env
      rw [hrun] at hquery
      have hgone : PortalsGone h.extendedQuery env w' ∧ ∀ n, SameStatement w.st w'.st n := Stays.gone hquery
      exact ⟨hgone.1, fun n _ => hgone.2 n⟩

end Reached

theorem portalOpen_serving (closed : Except PyErr Unit) :
    (trusting false).Serving default (committing closed) (portalOpen closed) :=
  .message ⟨false, "127.0.0.1", _, rfl, rfl, rfl⟩

/-- A Sync closes the portal of a trusted client. -/
theorem portals_end_with_transaction_sync :
    PortalsGone (.ascii true) (committing (.ok ()))
      (PyExtendedHandler.onSync.final (committing (.ok ())) (portalOpen (.ok ()))) :=
  ((PyServerHandlers.portals_end_with_transaction default (trusting_build false) (portalOpen_serving (.ok ()))).1 _ rfl
    rfl).1

/-! ### Errors -/

section Errors

variable {K : Crypto} {env : WireEnv} {w w' : WireWorld}

/-- Entries were removed and nothing else happened to the four maps: each of them had no Python object, or its own
close callback returned `Ok` in between. -/
abbrev OnlyRemoved (w w' : WireWorld) : Prop := Swept (fun _ => True) (fun _ => True) w w'

/-- How a handler ends that removes only what was closed when it fails. -/
def FailsClean {α : Type} (w : WireWorld) (o : Outcome PgWireError α) (w' : WireWorld) : Prop :=
  ∀ e, o = .err e → OnlyRemoved w w'

theorem FailsClean.of_ends {α : Type} {ok err : WireWorld → Prop} {o : Outcome PgWireError α} (ho : Ends ok err o w')
    (herr : err w' → OnlyRemoved w w') : FailsClean w o w' := by
  rintro e rfl
  exact herr ho

theorem Swept.onlyRemoved {P S : String → Prop} (hswept : Swept P S w w') : OnlyRemoved w w' :=
  hswept.mono (fun _ _ => trivial) fun _ _ => trivial

/-- A Describe leaves the connection alone. -/
theorem onDescribe_spares (h : PyExtendedHandler) (message : Target) :
    Prog.Spares (fun c : Conn => c) (h.onDescribe message) := by
  have statement : ∀ target, Prog.Spares (fun c : Conn => c) (h.doDescribeStatement target) := by
    refine fun target => Prog.spares_get.bind fun client => ?_
    cases h.instanceFor client with
    | none => exact Prog.spares_pure _
    | some i => exact (callPython_spares _ _).bind fun _ => Prog.spares_pure _
  have portal : ∀ target, Prog.Spares (fun c : Conn => c) (h.doDescribePortal target) := by
    refine fun target => Prog.spares_get.bind fun client => ?_
    cases h.instanceFor client with
    | none => exact Prog.spares_pure _
    | some i =>
      exact (Prog.spares_ofOutcome _).bind fun _ => (callPython_spares _ _).bind fun _ => Prog.spares_pure _
  refine Prog.spares_get.bind fun client => ?_
  by_cases hstatement : message.targetType = targetTypeByteStatement
  · rw [if_pos hstatement]
    cases client.store.statements.lookup (message.name.getD defaultName) with
    | none => exact Prog.spares_fail _
    | some entry =>
      cases entry with
      | empty => exact (Prog.spares_await _).bind fun _ => Prog.spares_await _
      | value target =>
        exact (statement target).bind fun _ => (Prog.spares_await _).bind fun _ => Prog.spares_await _
  · rw [if_neg hstatement]
    by_cases hportal : message.targetType = targetTypeBytePortal
    · rw [if_pos hportal]
      cases client.store.portals.lookup (message.name.getD defaultName) with
      | none => exact Prog.spares_fail _
      | some entry =>
        cases entry with
        | empty => exact Prog.spares_await _
        | value target => exact (portal target).bind fun _ => Prog.spares_await _
    · rw [if_neg hportal]
      exact Prog.spares_fail _

/-- A Describe sweeps nothing. -/
theorem onDescribe_swept {P S : String → Prop} (h : PyExtendedHandler) (message : Target) :
    Prog.Sat (fun _ _ => True) (h.onDescribe message) w fun _ w' => Swept P S w w' := by
  refine ((onDescribe_spares h message w).and (Prog.sat_log _ w)).mono (fun _ _ _ => trivial) ?_
  rintro o w' ⟨hspared, hlog⟩
  have hst : w'.st = w.st := hspared
  exact .of_stores (by rw [hst]) (by rw [hst]) (by rw [hst]) hlog

/-- **Every message** removes only what was closed if it fails. -/
theorem onMessage_failsClean {h : PyServerHandlers} {s : Option PyInstance} (hl : Live h.extendedQuery s w)
    (hwired : h.Wired) (message : PgWireFrontendMessage) :
    Prog.Sat (AtCall h.extendedQuery s) (h.onMessage message) w (FailsClean w) := by
  cases message with
  | query query =>
    have hsimple : Live h.simpleQuery.extended s w := hwired.extended ▸ hl
    have hquery := onQuery_swept hsimple query
    rw [hwired.extended] at hquery
    exact hquery.post fun o w' ho => .of_ends ho fun he => he.2.onlyRemoved
  | parse message => exact (onParse_swept hl message).post fun o w' ho => .of_ends ho fun he => he.2.onlyRemoved
  | bind message => exact (onBind_swept hl message).post fun o w' ho => .of_ends ho fun he => he.2.onlyRemoved
  | describe message =>
    exact ((onDescribe_sat hl message).both (onDescribe_swept _ message)).post fun o w' ho e _ => ho.2
  | execute message => exact (onExecute_swept hl message).post fun o w' ho => .of_ends ho fun he => he.2.onlyRemoved
  | close message => exact (onClose_swept hl message).post fun o w' ho => .of_ends ho fun he => he.2.onlyRemoved
  | sync => exact (onSync_swept hl).post fun o w' ho => .of_ends ho fun he => he.2.1.onlyRemoved
  | _ => exact fun e he => by cases he

/-- A routine that stores nothing on a stranded connection removes nothing. -/
theorem Stays.onlyRemoved {x : PyExtendedHandler} (hw : Stranded x w) (hs : Stays x w w') (hl : w.log <+: w'.log) :
    OnlyRemoved w w' := by
  refine ⟨hl, fun n => .inl ?_, fun n => .inl ?_⟩
  · simp only [Kind.portals, hs.undisturbed.resources, hw.noPortals.2, hs.stranded.noPortals.2]
  · simp only [Kind.statements, hs.undisturbed.resources, hs.undisturbed.stored]

theorem onMessage_stranded_failsClean {h : PyServerHandlers} (hw : Stranded h.extendedQuery w)
    (message : PgWireFrontendMessage) :
    Prog.Sat (AtCall h.extendedQuery none) (h.onMessage message) w (FailsClean w) := by
  refine ((PyServerHandlers.onMessage_stranded hw rfl message).both (Prog.sat_log _ w).anywhere).post ?_
  rintro o w' ⟨ho, hl⟩ e rfl
  exact Stays.onlyRemoved hw ho hl

/-- `on_bind` does not take the message: the portal exists, the number of format codes is wrong, one of them is
invalid, the statement is unknown, or it is empty and there are parameters or several result formats. -/
inductive BindInvalid (c : Conn) (message : Bind) : Prop where
  | duplicate (hname : message.portalName.getD defaultName ≠ defaultName)
      (hused : message.portalName.getD defaultName ∈ c.store.portals)
  | formatCount (hmany : message.parameterFormatCodes.length > 1)
      (hcount : message.parameterFormatCodes.length ≠ message.parameters.length)
  | formatCode (code : Int16) (hmem : code ∈ message.parameterFormatCodes ++ message.resultColumnFormatCodes)
      (hcode : code ≠ 0 ∧ code ≠ 1)
  | unknown (hfree : message.statementName.getD defaultName ∉ c.store.statements)
  | empty (hempty : c.store.statements.lookup (message.statementName.getD defaultName) = some .empty)
      (hasks : message.parameters ≠ [] ∨ message.resultColumnFormatCodes.length > 1)

theorem bindFormatError_of_count {message : Bind} (hmany : message.parameterFormatCodes.length > 1)
    (hcount : message.parameterFormatCodes.length ≠ message.parameters.length) :
    PyExtendedHandler.bindFormatError message ≠ none := by
  simp [PyExtendedHandler.bindFormatError, hmany, hcount]

theorem bindFormatError_of_code {message : Bind} {code : Int16}
    (hmem : code ∈ message.parameterFormatCodes ++ message.resultColumnFormatCodes) (hcode : code ≠ 0 ∧ code ≠ 1) :
    PyExtendedHandler.bindFormatError message ≠ none := by
  intro hnone
  rw [PyExtendedHandler.bindFormatError] at hnone
  split at hnone
  · cases hnone
  · split at hnone
    · cases hnone
    · rename_i hfind
      exact List.find?_eq_none.mp hfind code hmem (by simpa using hcode)

theorem bindEmptyError_of_asks {x : PyExtendedHandler} {message : Bind} (n : String)
    (hasks : message.parameters ≠ [] ∨ message.resultColumnFormatCodes.length > 1) :
    x.bindEmptyError message n ≠ none := by
  rw [PyExtendedHandler.bindEmptyError]
  by_cases hformats : message.resultColumnFormatCodes.length > 1
  · simp [hformats]
  · simp [hformats, hasks.resolve_right hformats]

/-- **A Bind that is rejected** leaves no trace. -/
theorem onBind_rejects {message : Bind} (h : PyExtendedHandler) (hinvalid : BindInvalid w.st message) :
    ∃ e, (h.onBind message).run env w = (.err e, w) := by
  rw [PyExtendedHandler.onBind, Prog.run_bind, Prog.run_get, Prog.resume_ok]
  by_cases hduplicate : message.portalName.getD defaultName ≠ defaultName ∧
      (w.st.store.portals.lookup (message.portalName.getD defaultName)).isSome
  · rw [if_pos hduplicate]
    exact ⟨_, rfl⟩
  rw [if_neg hduplicate]
  -- each check that passes rules one kind of message out
  cases hformat : PyExtendedHandler.bindFormatError message with
  | some e => exact ⟨e, rfl⟩
  | none =>
    cases hstored : w.st.store.statements.lookup (message.statementName.getD defaultName) with
    | none => exact ⟨_, rfl⟩
    | some entry =>
      have hknown : message.statementName.getD defaultName ∈ w.st.store.statements :=
        AList.lookup_isSome.mp (by rw [hstored]; rfl)
      cases hinvalid with
      | duplicate hname hused => exact absurd ⟨hname, AList.lookup_isSome.mpr hused⟩ hduplicate
      | formatCount hmany hcount => exact absurd hformat (bindFormatError_of_count hmany hcount)
      | formatCode code hmem hcode => exact absurd hformat (bindFormatError_of_code hmem hcode)
      | unknown hfree => exact absurd hknown hfree
      | empty hempty hasks =>
        rw [hstored] at hempty
        cases hempty
        dsimp only
        cases he : h.bindEmptyError message (message.statementName.getD defaultName) with
        | some e => exact ⟨e, rfl⟩
        | none => exact absurd he (bindEmptyError_of_asks _ hasks)

/-- **Main result**: a handler that fails has only removed entries that were closed or had no Python object, and a
Bind that is rejected has removed nothing. -/
theorem PyServerHandlers.errors_only_remove (K : Crypto)
    {configureCertificate : Bytes → Except PgWireError Unit} {config : HandlerConfig} {h : PyServerHandlers}
    (hb : config.build configureCertificate = .ok h) {env : WireEnv} {w : WireWorld} (hw : h.Serving K env w) :
    (∀ message e w', (h.onMessage message).run env w = (.err e, w') → OnlyRemoved w w') ∧
    (∀ query e w', (PyServerSimpleQueryHandler.doQuery query).run env w = (.err e, w') → OnlyRemoved w w') ∧
    (∀ portal maxRows e w', (h.extendedQuery.doQuery portal maxRows).run env w = (.err e, w') → OnlyRemoved w w') ∧
    ∀ message, BindInvalid w.st message → ∃ e, (h.extendedQuery.onBind message).run env w = (.err e, w) := by
  rcases hw.departed (HandlerConfig.wired hb) with ⟨s, hl⟩ | hw
  · refine ⟨fun message e w' hrun => ?_, fun query e w' hrun => ?_, fun portal maxRows e w' hrun => ?_,
      fun message hinvalid => onBind_rejects _ hinvalid⟩
    · have hmessage := (onMessage_failsClean hl (HandlerConfig.wired hb) message).run env
      rw [hrun] at hmessage
      exact hmessage e rfl
    · have hquery := (simpleDoQuery_swept hl query).run env
      rw [hrun] at hquery
      exact hquery.1.2.onlyRemoved
    · have hquery := (doQuery_swept hl portal maxRows).run env
      rw [hrun] at hquery
      exact hquery.1.2.onlyRemoved
  · refine ⟨fun message e w' hrun => ?_, fun query e w' hrun => ?_, fun portal maxRows e w' hrun => ?_,
      fun message hinvalid => onBind_rejects _ hinvalid⟩
    · have hmessage := (onMessage_stranded_failsClean hw message).run env
      rw [hrun] at hmessage
      exact hmessage e rfl
    · have hquery := ((simpleDoQuery_stranded hw query).both (Prog.sat_log _ w).anywhere).run env
      rw [hrun] at hquery
      exact Stays.onlyRemoved hw hquery.1 hquery.2
    · have hquery := (doQuery_stranded hw portal maxRows).run env
      rw [hrun] at hquery
      obtain ⟨-, rfl⟩ := hquery
      exact .refl w'

end Errors

/-- A Sync that cannot close the portal of a trusted client. -/
theorem errors_only_remove_sync :
    OnlyRemoved (portalOpen (.error closeFailed))
      (PyExtendedHandler.onSync.final (committing (.error closeFailed)) (portalOpen (.error closeFailed))) :=
  (PyServerHandlers.errors_only_remove default (trusting_build false) (portalOpen_serving (.error closeFailed))).1 .sync
    (pyErrToPywire closeFailed) _ rfl

end Pywire
