import Pywire.Catalogue
import Pywire.Dialogue

/-!
# Upkeep: every message does to the stores what the catalogue says

pywire keeps what a client prepared in four maps, two of pgwire and two of its own, and closes entries on Parse, Bind,
Close, Sync, simple queries and the end of a transaction, with a callback for each that may fail.  A message that is
answered leaves in all four exactly what `Catalogue.Step` says; one that is refused may have closed a part of that.

* `transactionEnded_iff`: a transaction ends where a query is reported that ends it.
* `onParse_follows`, `onBind_follows`, `onClose_follows`, `onSync_follows`, `onDescribe_follows`, `onExecute_follows`,
  `onQuery_follows`: each message has its step.
* `PyServerHandlers.simulates_rounds`: the catalogue takes a step for every message of a connection.
* `PyServerHandlers.catalogue_kept`: **Main result** — a connection holds what the messages so far make of an empty
  catalogue, whatever the callbacks do, unless it ends in a panic.
-/

namespace Pywire

open Async Scram

/-! ### The end of a transaction -/

/-- The query that is reported ended its transaction. -/
def Report.Ends : Report → Prop
  | .ran _ responses => ∃ r ∈ responses, r.EndsTransaction
  | .executed _ response => response.EndsTransaction
  | _ => False

theorem commitAt_iff {log : Log} {j : ℕ} :
    CommitAt log j ↔ ∃ e rep, log[j]? = some e ∧ report e = some rep ∧ rep.Ends := by
  constructor
  · rintro (⟨on, query, responses, he, hend⟩ | ⟨on, portal, maxRows, response, he, hend⟩)
    · exact ⟨_, _, he, rfl, hend⟩
    · exact ⟨_, _, he, rfl, hend⟩
  · rintro ⟨e, rep, he, hrep, hend⟩
    unfold report at hrep
    split at hrep
    · cases hrep
      exact .inl ⟨_, _, _, he, hend⟩
    · cases hrep
      exact .inr ⟨_, _, _, _, he, hend⟩
    all_goals
      cases hrep
      try exact hend.elim

section Transaction

variable {w w1 w' : WireWorld} {l : List WireEvent}

/-- **A transaction ended** if a query was reported that ended it. -/
theorem transactionEnded_iff (hnew : w'.log = w.log ++ l) :
    TransactionEnded w w' ↔ ∃ rep ∈ l.filterMap report, rep.Ends := by
  constructor
  · rintro ⟨j, hj, hcommit⟩
    obtain ⟨e, rep, he, hrep, hend⟩ := commitAt_iff.mp hcommit
    rw [hnew, List.getElem?_append_right hj] at he
    exact ⟨rep, List.mem_filterMap.mpr ⟨e, List.mem_of_getElem? he, hrep⟩, hend⟩
  · rintro ⟨rep, hmem, hend⟩
    obtain ⟨e, he, hrep⟩ := List.mem_filterMap.mp hmem
    obtain ⟨j, hj⟩ := List.getElem?_of_mem he
    refine ⟨w.log.length + j, Nat.le_add_right _ _, commitAt_iff.mpr ⟨e, rep, ?_, hrep, hend⟩⟩
    rw [hnew, List.getElem?_append_right (Nat.le_add_right _ _), Nat.add_sub_cancel_left]
    exact hj

theorem transactionEnded_trans (hlog : w.log <+: w1.log) (hlog' : w1.log <+: w'.log) :
    TransactionEnded w w' ↔ TransactionEnded w w1 ∨ TransactionEnded w1 w' := by
  obtain ⟨pre, hpre⟩ := hlog
  obtain ⟨new, hnew⟩ := hlog'
  rw [transactionEnded_iff (l := pre ++ new) (by rw [← hnew, ← hpre, List.append_assoc]),
    transactionEnded_iff hpre.symm, transactionEnded_iff hnew.symm, List.filterMap_append]
  simp only [List.mem_append, or_and_right, exists_or]

/-- What reports no query ends no transaction. -/
theorem not_transactionEnded (hnew : w'.log = w.log ++ l) (hquiet : ∀ rep ∈ l.filterMap report, ¬ rep.Ends) :
    ¬ TransactionEnded w w' := by
  rw [transactionEnded_iff hnew]
  rintro ⟨rep, hmem, hend⟩
  exact hquiet rep hmem hend

theorem not_transactionEnded_called {c : Call} {r : c.Reply} (hc : report (.called c r) = none) :
    ¬ TransactionEnded w (w.called c r) := by
  refine not_transactionEnded (l := [.called c r]) rfl ?_
  rw [List.filterMap_cons, hc]
  simp

/-- A routine that reports no query. -/
theorem Reports.ends {a : Admission} {α : Type} {t : Proc α} {Q : Outcome PgWireError α → List Report → Prop}
    (ht : Reports a t Q) (hquiet : ∀ o rs, Q o rs → ∀ rep ∈ rs, ¬ rep.Ends) (hw : w.st.Ready a) :
    Prog.Sat (fun _ _ => True) t w fun _ w' => w.log <+: w'.log ∧ ¬ TransactionEnded w w' := by
  refine (ht w hw).post ?_
  rintro o w' ⟨-, new, hnew, -, hrs⟩
  exact ⟨hnew ▸ List.prefix_append _ _, not_transactionEnded hnew (hquiet o _ hrs)⟩

theorem Working.ends {a : Admission} {α : Type} {t : Proc α} (ht : Working a t) (hw : w.st.Ready a) :
    Prog.Sat (fun _ _ => True) t w fun _ w' => w.log <+: w'.log ∧ ¬ TransactionEnded w w' :=
  ht.reports.ends (fun _ rs hrs rep hmem => by rw [hrs] at hmem; cases hmem) hw

/-- No portal is left. -/
def Vacated (w : WireWorld) : Prop := ∀ n, Kind.portals.slot w.st n = Kind.portals.vacant

theorem NoPortals.vacated (h : NoPortals w.st) : Vacated w := by
  intro n
  simp [Kind.portals, h.1, h.2]

theorem Kind.Swept.vacant {κ : Kind} {P : String → Prop} {n : String} (h : κ.Swept P w w')
    (hn : κ.slot w.st n = κ.vacant) : κ.slot w'.st n = κ.vacant := by
  rcases h n with hsame | ⟨-, hemptied⟩
  · exact hsame.trans hn
  · exact hemptied.vacant

theorem Swept.vacated {P S : String → Prop} (h : Swept P S w w') (hw : Vacated w) : Vacated w' :=
  fun n => h.portals.vacant (hw n)

end Transaction

section Handlers

variable {h : PyExtendedHandler} {s : Option PyInstance} {w w' : WireWorld}

theorem Live.ready (hl : Live h s w) : w.st.Ready w.st.admission := ⟨rfl, hl.phase⟩

/-- How a query ends that ended its transaction. -/
def Commits {α : Type} (w : WireWorld) (o : Outcome PgWireError α) (w' : WireWorld) : Prop :=
  ∀ a, o = .ok a → TransactionEnded w w' → Vacated w'

/-- A query that has closed all portals if its response ends the transaction. -/
theorem commits_of_queried {α δ : Type} {t : Proc α} {ends : α → Prop} {x : δ → Report} {g : δ → α} (hl : Live h s w)
    (hquery : Prog.Sat (AtCall h s) t w (Queried h s ends w))
    (hreports : Reports w.st.admission t (Runs x g)) (hends : ∀ y, (x y).Ends → ends (g y)) :
    Prog.Sat (AtCall h s) t w fun o w' => Queried h s ends w o w' ∧ Commits w o w' := by
  refine (hquery.both (hreports w hl.ready)).post ?_
  rintro o w' ⟨hq, -, new, hnew, -, hruns⟩
  refine ⟨hq, ?_⟩
  rintro a rfl hended
  rcases hruns with ⟨y, hy, hrs⟩ | ⟨hne, -⟩
  · cases hy
    obtain ⟨rep, hmem, hend⟩ := (transactionEnded_iff hnew).mp hended
    rw [hrs] at hmem
    cases List.mem_singleton.mp hmem
    exact (hq.2 _ rfl (hends y hend)).vacated
  · exact absurd rfl (hne a)

theorem doQuery_commits (hl : Live h s w) (portal : Portal) (maxRows : ℕ) :
    Prog.Sat (AtCall h s) (h.doQuery portal maxRows) w fun o w' =>
      Queried h s (fun response : Response => response.isTransactionEnd = true) w o w' ∧ Commits w o w' :=
  commits_of_queried hl (doQuery_swept hl portal maxRows) (h.doQuery_reports portal maxRows)
    fun r hr => r.isTransactionEnd_intoPg.mpr hr

theorem simpleDoQuery_commits (hl : Live h s w) (query : String) :
    Prog.Sat (AtCall h s) (PyServerSimpleQueryHandler.doQuery query) w fun o w' =>
      Queried h s (fun responses : List Response => responses.any Response.isTransactionEnd = true) w o w' ∧
        Commits w o w' := by
  refine commits_of_queried hl (simpleDoQuery_swept hl query) (PyServerSimpleQueryHandler.doQuery_reports query) ?_
  rintro responses ⟨r, hr, hend⟩
  exact List.any_eq_true.mpr ⟨_, List.mem_map_of_mem hr, r.isTransactionEnd_intoPg.mpr hend⟩

/-- Writing the responses of a query does not end its transaction. -/
theorem sendResponses_commits {w1 : WireWorld} (hl : Live h s w1) (hlog : w.log <+: w1.log)
    (hw1 : TransactionEnded w w1 → Vacated w1) (responses : List Response) :
    Prog.Sat (AtCall h s) (PyExtendedHandler.sendResponses responses) w1
      (fun o w' => Ends (Live h s) (Live h s) o w' ∧ w1.log <+: w'.log ∧ (TransactionEnded w w' → Vacated w')) := by
  have hquiet : ∀ (o : Outcome PgWireError Unit) rs, rs = [Report.wrote responses] → ∀ rep ∈ rs, ¬ rep.Ends := by
    rintro o rs rfl rep hmem
    cases List.mem_singleton.mp hmem
    exact id
  have hsweep := (sendResponses_swept (P := Nothing) (S := Nothing) hl responses).both
    ((PyExtendedHandler.sendResponses_reports responses).ends hquiet hl.ready)
  refine hsweep.post ?_
  rintro o w' ⟨hswept, hlog', hnot⟩
  have hvacated : TransactionEnded w w' → Swept Nothing Nothing w1 w' → Vacated w' := fun hended hsw =>
    hsw.vacated (hw1 (((transactionEnded_trans hlog hlog').mp hended).resolve_right hnot))
  cases o with
  | ok u => exact ⟨hswept.1, hlog', fun hended => hvacated hended hswept.2⟩
  | err e => exact ⟨hswept.1, hlog', fun hended => hvacated hended hswept.2⟩
  | panic => exact hswept.elim

theorem onExecute_commits (hl : Live h s w) (message : Execute) :
    Prog.Sat (AtCall h s) (h.onExecute message) w (Commits w) := by
  have hstart : TransactionEnded w w → Vacated w := fun hended =>
    absurd hended (not_transactionEnded (l := []) (List.append_nil _).symm fun rep hmem => by cases hmem)
  simp only [PyExtendedHandler.onExecute, Prog.sat_bind, Prog.sat_get, Prog.after_ok]
  cases w.st.store.portals.lookup (message.name.getD defaultName) with
  | none => exact fun a ha => by cases ha
  | some entry =>
    cases entry with
    | empty => exact (sendResponses_commits hl (List.prefix_refl _) hstart _).post fun _ _ ho _ _ => ho.2.2
    | value portal =>
      simp only [Prog.sat_bind, Prog.sat_await, Prog.after_ok]
      refine ⟨atCall_of_plain hl.inv rfl, fun r => ?_⟩
      have hl1 : Live h s (w.called (.resumesPortal (message.name.getD defaultName)) r) := hl.quiet (quiet_of_plain rfl)
      have hnot : ¬ TransactionEnded w (w.called (.resumesPortal (message.name.getD defaultName)) r) :=
        not_transactionEnded_called rfl
      have hlog : w.log <+: (w.called (.resumesPortal (message.name.getD defaultName)) r).log := List.prefix_append _ _
      generalize w.called (.resumesPortal (message.name.getD defaultName)) r = w1 at hl1 hnot hlog
      by_cases hresumes : r = true
      · rw [if_pos hresumes]
        exact (sendResponses_commits hl1 hlog (fun hended => absurd hended hnot) _).post fun _ _ ho _ _ => ho.2.2
      · rw [if_neg hresumes, Prog.sat_bind]
        refine (doQuery_commits hl1 portal message.maxRows).post ?_
        rintro (response | e | _) w2 ⟨hq, hcommits⟩
        · have hlive : Live h s w2 := hq.1.1
          have hlog2 : w1.log <+: w2.log := hq.1.2.log
          refine (sendResponses_commits hlive (hlog.trans hlog2) (fun hended => ?_) _).post fun _ _ ho _ _ => ho.2.2
          exact hcommits _ rfl (((transactionEnded_trans hlog hlog2).mp hended).resolve_left hnot)
        · exact fun a ha => by cases ha
        · exact fun a ha => by cases ha

/-- The end of a simple query: its responses are written, and the client may go on. -/
theorem respond_commits {w1 : WireWorld} (hl : Live h s w1) (hlog : w.log <+: w1.log)
    (hw1 : TransactionEnded w w1 → Vacated w1) (responses : List Response) :
    Prog.Sat (AtCall h s) (do
        PyExtendedHandler.sendResponses responses
        Prog.modify fun client : Conn => { client with state := .readyForQuery }
        let client ← Prog.get
        send (.readyForQuery client.transactionStatus)) w1 (Commits w) := by
  rw [Prog.sat_bind]
  refine (sendResponses_commits hl hlog hw1 responses).post ?_
  rintro (_ | e | _) w2 ⟨hlive, hlog2, hw2⟩
  · simp only [Prog.after_ok, Prog.sat_bind, Prog.sat_modify, Prog.sat_get, Prog.sat_await]
    have hl2 : Live h s (w2.modify fun client => { client with state := .readyForQuery }) :=
      Live.congr hlive rfl rfl rfl rfl rfl
    refine ⟨atCall_of_plain hl2.inv rfl, fun r a _ hended => ?_⟩
    have hnot : ¬ TransactionEnded w2 ((w2.modify fun client => { client with state := .readyForQuery }).called
        (.send (.readyForQuery w2.st.transactionStatus)) r) := not_transactionEnded (l := [_]) rfl (by simp [report, Report.Ends])
    exact hw2 (((transactionEnded_trans (hlog.trans hlog2) (List.prefix_append _ _)).mp hended).resolve_right hnot)
  · exact fun a ha => by cases ha
  · exact fun a ha => by cases ha

theorem innerOnQuery_commits (hl : Live h s w) (query : String) :
    Prog.Sat (AtCall h s) (PyServerSimpleQueryHandler._onQuery query) w (Commits w) := by
  unfold PyServerSimpleQueryHandler._onQuery
  rw [Prog.sat_bind, Prog.sat_modify, Prog.after_ok, Prog.sat_bind, Prog.sat_await]
  have hl1 : Live h s (w.modify fun client => { client with state := .queryInProgress }) :=
    hl.congr rfl rfl rfl rfl rfl
  refine ⟨atCall_of_plain hl1.inv rfl, fun r => ?_⟩
  have hl2 := hl1.quiet (c := .isEmptySimpleQuery query) (r := r) (quiet_of_plain rfl)
  have hnot : ¬ TransactionEnded w ((w.modify fun client => { client with state := .queryInProgress }).called
      (.isEmptySimpleQuery query) r) := not_transactionEnded (l := [_]) rfl (by simp [report])
  have hlog : w.log <+: ((w.modify fun client => { client with state := .queryInProgress }).called
      (.isEmptySimpleQuery query) r).log := List.prefix_append _ _
  rw [Prog.after_ok]
  generalize (w.modify fun client => { client with state := .queryInProgress }).called (.isEmptySimpleQuery query) r = w1
    at hl2 hnot hlog
  by_cases hempty : r = true
  · simp only [if_pos hempty]
    exact respond_commits hl2 hlog (fun hended => absurd hended hnot) _
  · simp only [if_neg hempty]
    rw [Prog.sat_bind]
    refine (simpleDoQuery_commits hl2 query).post ?_
    rintro (responses | e | _) w2 ⟨hq, hcommits⟩
    · have hlive : Live h s w2 := hq.1.1
      have hlog2 : w1.log <+: w2.log := hq.1.2.log
      refine respond_commits hlive (hlog.trans hlog2) (fun hended => ?_) _
      exact hcommits _ rfl (((transactionEnded_trans hlog hlog2).mp hended).resolve_left hnot)
    · exact fun a ha => by cases ha
    · exact fun a ha => by cases ha

end Handlers

/-! ### What was closed -/

section Cleared

variable {h : PyExtendedHandler} {s : Option PyInstance} {w w1 w' : WireWorld} {n : String}

theorem Cleared.congr {P P' S S' : Set String} (h : Cleared P S w w') (hP : ∀ n, n ∈ P ↔ n ∈ P')
    (hS : ∀ n, n ∈ S ↔ n ∈ S') : Cleared P' S' w w' := by
  rwa [← Set.ext hP, ← Set.ext hS]

/-- A sweep that left nothing of what it was for. -/
theorem Swept.exactly {P S : String → Prop} (h : Swept P S w w')
    (hP : ∀ n, P n → Kind.portals.slot w'.st n = Kind.portals.vacant)
    (hS : ∀ n, S n → Kind.statements.slot w'.st n = Kind.statements.vacant) : Cleared {n | P n} {n | S n} w w' :=
  ⟨h.log, hP, fun n hn => (h.portals n).resolve_right fun hout => hn hout.1, hS,
    fun n hn => (h.statements n).resolve_right fun hout => hn hout.1⟩

theorem Closed.vacant {names : List String} (hc : Closed h s w names w') (hn : n ∈ names) :
    Kind.portals.slot w'.st n = Kind.portals.vacant :=
  Prod.ext (hc.gone n hn) (portalObject_none_of_py hc.live.inv (hc.gone n hn)).2

theorem Inv.vacant_of_store {c : Conn} {log : Log} (hw : Inv h c log) (hn : c.store.portals.lookup n = none) :
    Kind.portals.slot c n = Kind.portals.vacant := by
  refine Prod.ext ?_ hn
  cases hw.portal n with
  | absent py stored => exact py
  | empty s py stored => rw [stored] at hn; cases hn
  | bound s b p py stored => rw [stored] at hn; cases hn

theorem StatementGone.vacant (hg : StatementGone h s n w') : Kind.statements.slot w'.st n = Kind.statements.vacant := by
  refine Prod.ext ?_ hg.gone
  cases hg.live.inv.statement n with
  | absent py stored => exact py
  | empty py stored => exact py
  | value st i py stored =>
    have hgone := hg.gone
    rw [stored] at hgone
    cases hgone

/-- A portal whose statement is not there any more. -/
theorem vacant_of_boundOn {P S : String → Prop} (hw : Inv h w'.st w'.log) (hswept : Swept P S w w')
    (hgone : w'.st.store.statements.lookup n = none) {m : String} (hm : BoundOn w.st n m) :
    Kind.portals.slot w'.st m = Kind.portals.vacant := by
  rcases hswept.portals m with hsame | ⟨-, hemptied⟩
  · obtain ⟨e, he, hname⟩ := hm
    have he' : w'.st.resources.portals.lookup m = some e := (congrArg Prod.fst hsame).trans he
    exact absurd hname (hw.not_referenced hgone he')
  · exact hemptied.vacant

/-- **A statement is closed** with exactly its portals. -/
theorem StatementGone.cleared (hg : StatementGone h s n w') (hswept : Swept (BoundOn w.st n) (· = n) w w') :
    Cleared {m | BoundOn w.st n m} {n} w w' := by
  refine hswept.exactly (fun m hm => vacant_of_boundOn hg.live.inv hswept hg.gone hm) ?_
  rintro m rfl
  exact hg.vacant

end Cleared

/-! ### One message -/

/-- A message closes all portals: it found the connection idle, or its query ended the transaction. -/
def ClosesAll (message : PgWireFrontendMessage) (w w' : WireWorld) : Prop :=
  (message.closesWhenIdle = true ∧ w'.st.transactionStatus = .idle) ∨
    message.runsQueries = true ∧ TransactionEnded w w'

theorem not_closesAll {message : PgWireFrontendMessage} {w w' : WireWorld} (hidle : message.closesWhenIdle = false)
    (hruns : message.runsQueries = false) : ¬ ClosesAll message w w' := by
  rintro (⟨hno, -⟩ | ⟨hno, -⟩)
  · rw [hidle] at hno
    cases hno
  · rw [hruns] at hno
    cases hno

/-- What became of a message after startup. -/
def Catalogue.Turn.of (message : PgWireFrontendMessage) (all : Prop) : Outcome PgWireError Unit → Catalogue.Turn
  | .ok _ => .handled message all
  | _ => .refused message all

/-- What became of a message after a startup that failed. -/
def Catalogue.Turn.ofStranded (message : PgWireFrontendMessage) : Outcome PgWireError Unit → Catalogue.Turn
  | .ok _ => .stranded message
  | _ => .refused message False

/-- The catalogue has a step for what became of the message. -/
def Catalogue.Follows (k : Catalogue) (message : PgWireFrontendMessage) (w : WireWorld) (o : Outcome PgWireError Unit)
    (w' : WireWorld) : Prop :=
  ∃ k', Catalogue.Step k (.of message (ClosesAll message w w') o) k' ∧ Holds k' w'

section Rules

variable {h : PyExtendedHandler} {s : Option PyInstance} {k : Catalogue} {w w1 w' : WireWorld}
  {message : PgWireFrontendMessage}

/-- A message that enters nothing. -/
theorem Catalogue.Follows.handled (hk : Holds k w) (hadmits : k.Admits message) (henter : ∀ k' : Catalogue, k'.enter message = k')
    (hc : Cleared (k.closedPortals message (ClosesAll message w w')) (Catalogue.closedStatements message) w w') :
    k.Follows message w (.ok ()) w' := by
  refine ⟨_, .handled k message _ hadmits, ?_⟩
  rw [henter]
  exact hk.without hc

/-- A message that was refused. -/
theorem Catalogue.Follows.refused {P S : String → Prop} (hk : Holds k w) (hw : Inv h w.st w.log) (hw' : Inv h w'.st w'.log)
    (hswept : Swept P S w w')
    (hP : ∀ n, P n → Kind.portals.slot w.st n ≠ Kind.portals.vacant → n ∈ k.closedPortals message (ClosesAll message w w'))
    (hS : ∀ n, S n → Kind.statements.slot w.st n ≠ Kind.statements.vacant → n ∈ Catalogue.closedStatements message)
    (e : PgWireError) : k.Follows message w (.err e) w' := by
  obtain ⟨P', S', hP', hS', hc⟩ := hswept.cleared
  refine ⟨_, .refused k message _ P' S' (fun n hn => hP n (hP' n hn).1 (hP' n hn).2)
    (fun n hn => hS n (hS' n hn).1 (hS' n hn).2) (fun n hn m hm => ?_), hk.without hc⟩
  -- a statement that is gone has no portals left
  by_contra hm'
  obtain ⟨e, he, hname⟩ := (hk.mem_boundFrom hw).mp hm
  have he' : w'.st.resources.portals.lookup m = some e := (congrArg Prod.fst (hc.portal m hm')).trans he
  exact hw'.not_referenced (congrArg Prod.snd (hc.noStatement n hn)) he' hname

end Rules

/-! ### Parse and Bind -/

section Handlers

variable {h : PyExtendedHandler} {s : Option PyInstance} {k : Catalogue} {w w' : WireWorld}

theorem Holds.statement_found (hk : Holds k w) {n : String} {entry : Entry StoredStatement}
    (hentry : w.st.store.statements.lookup n = some entry) : (k.statements n).isSome = true := by
  by_contra hnone
  rw [Option.not_isSome_iff_eq_none, hk.statements_none, hentry] at hnone
  cases hnone

theorem Holds.portal_found (hk : Holds k w) {n : String} {entry : Entry Portal}
    (hentry : w.st.store.portals.lookup n = some entry) : (k.portals n).isSome = true := by
  by_contra hnone
  rw [Option.not_isSome_iff_eq_none, hk.portals_none, hentry] at hnone
  cases hnone

theorem storeParsed_holds (hl : Live h s w) (hk : Holds k w) (message : Parse) :
    Prog.Sat (fun _ _ => True) (h.storeParsed (key message.name) message) w
      (Ends (Holds (k.enter (.parse message))) fun _ => True) := by
  unfold PyExtendedHandler.storeParsed
  by_cases hempty : isEmptyQuery message.query = true
  · simp only [if_pos hempty, Prog.sat_bind, Prog.sat_modify, Prog.after_ok, Prog.sat_await, true_and]
    intro r
    refine hk.parsed (List.prefix_append _ _) (fun n => rfl) (fun n hn => ?_) ⟨.empty, ?_, .empty hempty⟩
    · exact AList.lookup_insert_ne hn
    · exact AList.lookup_insert _
  · simp only [if_neg hempty, Prog.sat_bind, Prog.sat_get, Prog.after_ok]
    cases hi : h.instanceFor w.st with
    | none => exact trivial
    | some i =>
      simp only [PyExtendedHandler.parseStatement, sat_callPythonRef, true_and]
      refine ⟨fun r => ?_, fun e => trivial⟩
      simp only [Prog.after_ok, Outcome.expect_some, Prog.sat_bind, Prog.sat_ofOutcome,
        PyExtendedHandler.expectResources, Prog.sat_get, World.called_st, hl.installed, if_true, Prog.sat_pure,
        Prog.sat_modify, Prog.sat_await, true_and]
      intro r'
      let types := message.typeOids.map fun oid => if oid = 0 then none else some (pgType oid)
      refine hk.parsed ?_ (fun n => rfl) (fun n hn => ?_)
        ⟨.value ⟨key message.name, w.log.length, types⟩, ?_, .value _ (by simpa using hempty) ⟨i, ?_⟩⟩
      · simp
      · exact AList.lookup_insert_ne hn
      · exact AList.lookup_insert _
      · simp

theorem onParse_follows (hl : Live h s w) (hk : Holds k w) (message : Parse) :
    Prog.Sat (AtCall h s) (h.onParse message) w (k.Follows (.parse message) w) := by
  have hnot : ∀ w', ¬ ClosesAll (.parse message) w w' := fun _ => not_closesAll rfl rfl
  have hstep : Prog.Sat (fun _ _ => True) (h.onParse message) w
      (Ends (fun w' => k.Follows (.parse message) w (.ok ()) w')
        (fun w' => key message.name ≠ defaultName → Swept Nothing Nothing w w')) := by
    unfold PyExtendedHandler.onParse
    rw [Prog.sat_bind, Prog.sat_get, Prog.after_ok]
    by_cases hname : key message.name = defaultName
    · have hclosed : PgWireFrontendMessage.closedStatement (.parse message) = some (key message.name) := by
        simp [PgWireFrontendMessage.closedStatement, hname]
      simp only [if_pos hname]
      refine sat_seq (closeStatement_swept hl _).anywhere (fun _ w1 hc => ?_) fun _ _ hne => absurd hname hne
      have hholds := hk.without (hc.1.cleared hc.2)
      refine (storeParsed_holds hc.1.live hholds message).post fun _ w' ho => ho.imp (fun hnew => ?_)
        fun _ hne => absurd hname hne
      refine ⟨_, .handled k (.parse message) _ (fun hne => absurd hname hne), ?_⟩
      rw [Catalogue.closedPortals_of_statement rfl hclosed (hnot w'), Catalogue.closedStatements_of_some hclosed,
        hk.boundFrom_eq hl.inv]
      exact hnew
    · have hclosed : PgWireFrontendMessage.closedStatement (.parse message) = none := by
        simp [PgWireFrontendMessage.closedStatement, hname]
      simp only [if_neg hname]
      by_cases hused : (w.st.store.statements.lookup (key message.name)).isSome = true
      · rw [if_pos hused]
        exact fun _ => .refl w
      · rw [if_neg hused]
        have hfree : w.st.store.statements.lookup (key message.name) = none := by simpa using hused
        have hstored := (storeParsed_holds hl hk message).both (storeParsed_swept hl hfree message).anywhere
        refine hstored.post fun _ w' ho => (ho.1.both ho.2).imp (fun hnew => ?_) fun hswept _ => hswept.2.2
        refine ⟨_, .handled k (.parse message) _ (fun _ => hk.statements_none.mpr hfree), ?_⟩
        rw [Catalogue.closedPortals_of_none rfl hclosed (hnot w'), Catalogue.closedStatements_of_none hclosed,
          Catalogue.without_empty]
        exact hnew.1
  refine ((onParse_swept hl message).both hstep).post ?_
  rintro (_ | e | _) w' ⟨hswept, hstep⟩
  · exact hstep
  · by_cases hname : key message.name = defaultName
    · have hclosed : PgWireFrontendMessage.closedStatement (.parse message) = some (key message.name) := by
        simp [PgWireFrontendMessage.closedStatement, hname]
      refine .refused hk hl.inv hswept.1.inv hswept.2 (fun n hn _ => ?_) (fun n hn _ => ?_) e
      · rw [Catalogue.closedPortals_of_statement rfl hclosed (hnot w'), hk.boundFrom_eq hl.inv]
        exact hn.2
      · rw [Catalogue.closedStatements_of_some hclosed]
        exact hn
    · exact .refused hk hl.inv hswept.1.inv (hstep hname) (fun n => False.elim) (fun n => False.elim) e
  · exact hswept.elim

/-- The portal is the only one of its name, and goes. -/
theorem closePortal_cleared (hl : Live h s w) (n : String) :
    Prog.Sat (AtCall h s) (PyExtendedHandler.closePortal n) w
      (Ends (fun w' => Live h s (w'.modify (Conn.rmPortal n)) ∧ Cleared {n} ∅ w (w'.modify (Conn.rmPortal n)))
        (fun w' => Live h s w' ∧ Swept (· = n) Nothing w w')) := by
  refine (closePortal_swept hl n).post fun _ w' ho => ho.imp (fun hc => ⟨hc.1.live, ?_⟩) fun hc => ⟨hc.1.live, hc.2⟩
  refine hc.2.exactly ?_ fun m hm => hm.elim
  rintro m rfl
  exact hc.1.vacant (List.mem_singleton_self m)

/-- A Bind that stores its portal. -/
theorem onBind_holds (hl : Live h s w) (hk : Holds k w) (message : Bind) :
    Prog.Sat (fun _ _ => True) (h.onBind message) w
      (Ends (fun w' => k.Admits (.bind message) ∧ Holds (k.enter (.bind message)) w')
        (fun w' => key message.portalName ≠ defaultName →
          (w.st.store.portals.lookup (key message.portalName)).isSome = true → w' = w)) := by
  simp only [PyExtendedHandler.onBind, Prog.sat_bind, Prog.sat_get, Prog.after_ok]
  split
  · exact fun _ _ => rfl
  rename_i hfree
  have hadmits : ∀ entry, w.st.store.statements.lookup (key message.statementName) = some entry →
      k.Admits (.bind message) := by
    intro entry hentry
    refine ⟨fun hname => hk.portals_none.mpr ?_, hk.statement_found hentry⟩
    by_contra hused
    exact hfree ⟨hname, Option.isSome_iff_ne_none.mpr hused⟩
  have hrefused : ∀ w' : WireWorld, key message.portalName ≠ defaultName →
      (w.st.store.portals.lookup (key message.portalName)).isSome = true → w' = w :=
    fun _ hname hused => absurd ⟨hname, hused⟩ hfree
  split
  · exact hrefused w
  split
  · rename_i statement hst
    simp only [PyExtendedHandler.portalTryNew, Prog.sat_bind, Prog.sat_await, Prog.after_ok, Prog.sat_ofExcept,
      Prog.sat_pure, Prog.sat_ofOutcome, Prog.after_err, true_and]
    refine fun r => ⟨fun _ _ => ?_, fun _ _ => hrefused _⟩
    have hl1 : Live h s (w.called (.tryNewPortal message) r) := hl.quiet (quiet_of_plain rfl)
    have hk1 : Holds k (w.called (.tryNewPortal message) r) := hk.same rfl (List.prefix_append _ _)
    cases hi : h.instanceFor w.st with
    | none => exact hrefused _
    | some i =>
      simp only [Outcome.okOr_some, Prog.after_ok, Prog.sat_bind]
      refine (closePortal_cleared hl1 _).anywhere.post ?_
      rintro (_ | e | _) w2 hc
      · replace hc := (ends_ok _).mp hc
        simp only [Prog.after_ok, Prog.sat_bind, Prog.sat_modify, PyExtendedHandler.bindPortal, sat_callPythonRef,
          true_and]
        have hk3 := hk1.without hc.2
        generalize w2.modify (Conn.rmPortal (message.portalName.getD defaultName)) = w3 at hc hk3 ⊢
        refine ⟨fun r' => ?_, fun e => hrefused _⟩
        simp only [Prog.after_ok, PyExtendedHandler.expectResources, Prog.sat_bind, Prog.sat_get, World.called_st,
          hc.1.installed, if_true, Prog.sat_pure, Prog.sat_modify, Prog.sat_await, true_and]
        intro r''
        refine ⟨hadmits _ hst, ?_⟩
        rw [← Catalogue.enter_bind_without (le_refl {key message.portalName})]
        refine hk3.bound ?_ rfl (fun n hn => Prod.ext ?_ ?_) ⟨⟨_, AList.lookup_insert _⟩, .inr ⟨statement, ?_⟩⟩
        · simp
        · exact AList.lookup_insert_ne hn
        · exact AList.lookup_insert_ne hn
        · exact AList.lookup_insert _
      · exact hrefused _
      · exact hc
  · rename_i hst
    split
    · exact hrefused _
    simp only [Prog.sat_bind]
    refine (closePortal_cleared hl _).anywhere.post ?_
    rintro (_ | e | _) w2 hc
    · replace hc := (ends_ok _).mp hc
      simp only [Prog.after_ok, Prog.sat_bind, Prog.sat_modify]
      have hk3 := hk.without hc.2
      generalize w2.modify (Conn.rmPortal (message.portalName.getD defaultName)) = w3 at hc hk3 ⊢
      simp only [PyExtendedHandler.expectResources, Prog.sat_bind, Prog.sat_get, Prog.after_ok,
        hc.1.installed, if_true, Prog.sat_pure, Prog.sat_modify, Prog.sat_await, true_and]
      intro r
      refine ⟨hadmits _ hst, ?_⟩
      rw [← Catalogue.enter_bind_without (le_refl {key message.portalName})]
      refine hk3.bound ?_ rfl (fun n hn => Prod.ext ?_ ?_) ⟨⟨_, AList.lookup_insert _⟩, .inl ?_⟩
      · simp
      · exact AList.lookup_insert_ne hn
      · exact AList.lookup_insert_ne hn
      · exact AList.lookup_insert _
    · exact hrefused _
    · exact hc
  · exact hrefused _

theorem onBind_follows (hl : Live h s w) (hk : Holds k w) (message : Bind) :
    Prog.Sat (AtCall h s) (h.onBind message) w (k.Follows (.bind message) w) := by
  have hnot : ∀ w', ¬ ClosesAll (.bind message) w w' := fun _ => not_closesAll rfl rfl
  have hclosed : ∀ w', k.closedPortals (.bind message) (ClosesAll (.bind message) w w') =
      if key message.portalName = defaultName then {defaultName} else ∅ := by
    intro w'
    split
    · rename_i hname
      exact Catalogue.closedPortals_of_portal (if_pos hname) rfl (hnot w')
    · rename_i hname
      exact Catalogue.closedPortals_of_none (if_neg hname) rfl (hnot w')
  refine ((onBind_swept hl message).both (onBind_holds hl hk message)).post ?_
  rintro (_ | e | _) w' ⟨hswept, hholds⟩
  · refine ⟨_, .handled k (.bind message) _ hholds.1, ?_⟩
    rw [hclosed, Catalogue.closedStatements_of_none rfl, Catalogue.enter_bind_without]
    · exact hholds.2
    · split
      · rename_i hname
        rw [hname]
      · exact Set.empty_subset _
  · by_cases hname : key message.portalName = defaultName
    · refine .refused hk hl.inv hswept.1.inv hswept.2 (fun n hn _ => ?_) (fun n => False.elim) e
      rw [hclosed, if_pos hname, ← hname]
      exact hn
    · cases hused : w.st.store.portals.lookup (key message.portalName) with
      | none =>
        refine .refused hk hl.inv hswept.1.inv hswept.2 (fun n hn hne => ?_) (fun n => False.elim) e
        rw [show n = key message.portalName from hn] at hne
        exact absurd (hl.inv.vacant_of_store hused) hne
      | some entry =>
        -- a name that is in use is refused before anything is closed
        have hsame : w' = w := hholds hname (by rw [hused]; rfl)
        exact .refused hk hl.inv hswept.1.inv (by rw [hsame]; exact .refl w) (fun n => False.elim) (fun n => False.elim) e
  · exact hswept.elim

/-! ### Close and Sync -/

theorem onClose_cleared (hl : Live h s w) (hk : Holds k w) (message : Target) :
    Prog.Sat (fun _ _ => True) (h.onClose message) w
      (Ends (fun w' => k.Admits (.close message) ∧ ∀ all, ¬ all →
          Cleared (k.closedPortals (.close message) all) (Catalogue.closedStatements (.close message)) w w')
        fun _ => True) := by
  unfold PyExtendedHandler.onClose
  dsimp only
  by_cases hstatement : message.targetType = targetTypeByteStatement
  · have hclosed : PgWireFrontendMessage.closedStatement (.close message) = some (key message.name) := if_pos hstatement
    have hportal : PgWireFrontendMessage.closedPortal (.close message) = none := by
      refine if_neg fun hportal => ?_
      rw [hstatement] at hportal
      cases hportal
    rw [if_pos hstatement]
    refine sat_seq (closeStatement_swept hl _).anywhere (fun _ w1 hc => ?_) fun _ _ => trivial
    rw [Prog.sat_await]
    refine ⟨trivial, fun r => ⟨.inl hstatement, fun all hall => ?_⟩⟩
    rw [Catalogue.closedPortals_of_statement hportal hclosed hall, Catalogue.closedStatements_of_some hclosed,
      hk.boundFrom_eq hl.inv]
    exact (hc.1.cleared hc.2).later rfl (List.prefix_append _ _)
  · have hclosed : PgWireFrontendMessage.closedStatement (.close message) = none := if_neg hstatement
    rw [if_neg hstatement]
    by_cases hportal : message.targetType = targetTypeBytePortal
    · have hname : PgWireFrontendMessage.closedPortal (.close message) = some (key message.name) := if_pos hportal
      rw [if_pos hportal]
      refine sat_seq (closePortal_cleared hl _).anywhere (fun _ w1 hc => ?_) fun _ _ => trivial
      rw [Prog.sat_bind, Prog.sat_modify, Prog.after_ok, Prog.sat_await]
      refine ⟨trivial, fun r => ⟨.inr hportal, fun all hall => ?_⟩⟩
      rw [Catalogue.closedPortals_of_portal hname hclosed hall, Catalogue.closedStatements_of_none hclosed]
      exact hc.2.later rfl (List.prefix_append _ _)
    · rw [if_neg hportal]
      exact trivial

theorem onClose_follows (hl : Live h s w) (hk : Holds k w) (message : Target) :
    Prog.Sat (AtCall h s) (h.onClose message) w (k.Follows (.close message) w) := by
  have hnot : ∀ w', ¬ ClosesAll (.close message) w w' := fun _ => not_closesAll rfl rfl
  refine ((onClose_swept hl message).both (onClose_cleared hl hk message)).post ?_
  rintro (_ | e | _) w' ⟨hswept, hcleared⟩
  · exact .handled hk hcleared.1 (fun _ => rfl) (hcleared.2 _ (hnot w'))
  · refine .refused hk hl.inv hswept.1.inv hswept.2 (fun n hn _ => ?_) (fun n hn _ => ?_) e
    · rw [Target.Portals] at hn
      by_cases hstatement : message.targetType = targetTypeByteStatement
      · rw [if_pos hstatement] at hn
        exact .inr (.inl ⟨_, if_pos hstatement, (hk.mem_boundFrom hl.inv).mpr hn⟩)
      · rw [if_neg hstatement] at hn
        exact .inl (by rw [hn.2]; exact if_pos hn.1)
    · obtain ⟨hstatement, rfl⟩ := hn
      exact if_pos hstatement
  · exact hswept.elim

/-- The portals that are closed at the end of a transaction are all of them. -/
theorem Swept.cleared_all {P : String → Prop} (hswept : Swept P Nothing w w') (hvacated : Vacated w') :
    Cleared Set.univ ∅ w w' :=
  ⟨hswept.log, fun n _ => hvacated n, fun n hn => absurd (Set.mem_univ n) hn, fun n hn => absurd hn (Set.notMem_empty n),
    fun n _ => (hswept.statements n).resolve_right fun hout => hout.1⟩

theorem Swept.cleared_none {P : String → Prop} (hswept : Swept P Nothing w w') (hP : ∀ n, ¬ P n) : Cleared ∅ ∅ w w' :=
  (hswept.exactly (fun n hn => absurd hn (hP n)) fun _ => False.elim).congr (fun n => ⟨fun hn => hP n hn, False.elim⟩)
    fun _ => Iff.rfl

/-- A message that may close all portals, and nothing else. -/
theorem Catalogue.Follows.all {message : PgWireFrontendMessage} {P : String → Prop} (hk : Holds k w)
    (hadmits : k.Admits message) (henter : ∀ k' : Catalogue, k'.enter message = k')
    (hportal : message.closedPortal = none) (hstatement : message.closedStatement = none) (hswept : Swept P Nothing w w')
    (hall : ClosesAll message w w' → Vacated w') (hnone : ¬ ClosesAll message w w' → ∀ n, ¬ P n) :
    k.Follows message w (.ok ()) w' := by
  refine .handled hk hadmits henter ?_
  rw [closedStatements_of_none hstatement]
  by_cases hcloses : ClosesAll message w w'
  · rw [closedPortals_of_all hcloses]
    exact hswept.cleared_all (hall hcloses)
  · rw [closedPortals_of_none hportal hstatement hcloses]
    exact hswept.cleared_none (hnone hcloses)

theorem onSync_follows (hl : Live h s w) (hk : Holds k w) :
    Prog.Sat (AtCall h s) PyExtendedHandler.onSync w (k.Follows .sync w) := by
  have hcloses : ∀ {w' : WireWorld}, ClosesAll .sync w w' ↔ w'.st.transactionStatus = .idle := by
    intro w'
    simp [ClosesAll, PgWireFrontendMessage.closesWhenIdle, PgWireFrontendMessage.runsQueries]
  refine ((onSync_swept hl).both (onSync_spares w)).post ?_
  rintro (_ | e | _) w' ⟨hswept, hstatus⟩
  · obtain ⟨-, hswept, -, hnone⟩ := hswept
    refine .all hk trivial (fun _ => rfl) rfl rfl hswept (fun hall => (hnone (hcloses.mp hall)).vacated) fun hnot n hidle => ?_
    exact hnot (hcloses.mpr (hstatus.trans hidle))
  · refine .refused hk hl.inv hswept.1.inv hswept.2.1 (fun n hn _ => ?_) (fun n => False.elim) e
    exact .inr (.inr (hcloses.mpr (hstatus.trans hn)))
  · exact hswept.elim

/-! ### Describe and Execute -/

/-- What a Describe asks about is there. -/
theorem onDescribe_admitted (hk : Holds k w) (message : Target) :
    Prog.Sat (fun _ _ => True) (h.onDescribe message) w fun o _ => o = .ok () → k.Admits (.describe message) := by
  have hany : ∀ t : Proc Unit, k.Admits (.describe message) →
      Prog.Sat (fun _ _ => True) t w fun o _ => o = .ok () → k.Admits (.describe message) := fun t hadmits =>
    (Prog.sat_log t w).mono (fun _ _ _ => trivial) fun _ _ _ _ => hadmits
  simp only [PyExtendedHandler.onDescribe, Prog.sat_bind, Prog.sat_get, Prog.after_ok]
  by_cases hstatement : message.targetType = targetTypeByteStatement
  · rw [if_pos hstatement]
    cases hentry : w.st.store.statements.lookup (message.name.getD defaultName) with
    | none => exact fun ho => by cases ho
    | some entry => exact hany _ (.inl ⟨hstatement, hk.statement_found hentry⟩)
  · rw [if_neg hstatement]
    by_cases hportal : message.targetType = targetTypeBytePortal
    · rw [if_pos hportal]
      cases hentry : w.st.store.portals.lookup (message.name.getD defaultName) with
      | none => exact fun ho => by cases ho
      | some entry => exact hany _ (.inr ⟨hportal, hk.portal_found hentry⟩)
    · rw [if_neg hportal]
      exact fun ho => by cases ho

/-- What an Execute runs is there. -/
theorem onExecute_admitted (hk : Holds k w) (message : Execute) :
    Prog.Sat (fun _ _ => True) (h.onExecute message) w fun o _ => o = .ok () → k.Admits (.execute message) := by
  simp only [PyExtendedHandler.onExecute, Prog.sat_bind, Prog.sat_get, Prog.after_ok]
  cases hentry : w.st.store.portals.lookup (message.name.getD defaultName) with
  | none => exact fun ho => by cases ho
  | some entry =>
    have hadmits : k.Admits (.execute message) := hk.portal_found hentry
    exact (Prog.sat_log _ w).mono (fun _ _ _ => trivial) fun _ _ _ _ => hadmits

theorem onDescribe_follows (hl : Live h s w) (hk : Holds k w) (message : Target) :
    Prog.Sat (AtCall h s) (h.onDescribe message) w (k.Follows (.describe message) w) := by
  have hnot : ∀ w', ¬ ClosesAll (.describe message) w w' := fun _ => not_closesAll rfl rfl
  have hswept := ((onDescribe_sat hl message).both (onDescribe_swept (P := Nothing) (S := Nothing) h message)).both
    (onDescribe_admitted hk message)
  refine hswept.post ?_
  rintro (_ | e | _) w' ⟨⟨hlive, hswept⟩, hadmits⟩
  · exact .all hk (hadmits rfl) (fun _ => rfl) rfl rfl hswept (fun hall => absurd hall (hnot w')) fun _ _ => id
  · exact .refused hk hl.inv (Live.inv hlive) hswept (fun _ => False.elim) (fun _ => False.elim) e
  · exact hlive.elim

theorem onExecute_follows (hl : Live h s w) (hk : Holds k w) (message : Execute) :
    Prog.Sat (AtCall h s) (h.onExecute message) w (k.Follows (.execute message) w) := by
  have hcloses : ∀ {w' : WireWorld}, ClosesAll (.execute message) w w' ↔ TransactionEnded w w' := by
    intro w'
    simp [ClosesAll, PgWireFrontendMessage.closesWhenIdle, PgWireFrontendMessage.runsQueries]
  have hswept := ((onExecute_swept hl message).both (onExecute_commits hl message).anywhere).both
    (onExecute_admitted hk message)
  refine hswept.post ?_
  rintro (_ | e | _) w' ⟨⟨hswept, hcommits⟩, hadmits⟩
  · exact .all hk (hadmits rfl) (fun _ => rfl) rfl rfl hswept.2 (fun hall => hcommits () rfl (hcloses.mp hall))
      fun hnot n hended => hnot (hcloses.mpr hended)
  · exact .refused hk hl.inv hswept.1.inv hswept.2 (fun n hn _ => .inr (.inr (hcloses.mpr hn))) (fun _ => False.elim) e
  · exact hswept.elim

/-! ### Simple queries -/

/-- What is closed when a simple query was answered: the unnamed objects, and all portals if the transaction is over. -/
structure QueryCloses (w w' : WireWorld) : Prop where
  portal : Kind.portals.slot w'.st defaultName = Kind.portals.vacant
  bound : ∀ n, BoundOn w.st defaultName n → Kind.portals.slot w'.st n = Kind.portals.vacant
  statement : Kind.statements.slot w'.st defaultName = Kind.statements.vacant
  ended : TransactionEnded w w' → Vacated w'

/-- The unnamed objects are closed before the query runs. -/
structure Unnamed (h : PyExtendedHandler) (s : Option PyInstance) (w w' : WireWorld) : Prop where
  live : Live h s w'
  log : w.log <+: w'.log
  portal : Kind.portals.slot w'.st defaultName = Kind.portals.vacant
  bound : ∀ n, BoundOn w.st defaultName n → Kind.portals.slot w'.st n = Kind.portals.vacant
  statement : Kind.statements.slot w'.st defaultName = Kind.statements.vacant
  running : ¬ TransactionEnded w w'

theorem closeUnnamed (hl : Live h s w) {rest : Proc Unit} {ok : WireWorld → Prop}
    (hrest : ∀ w', Unnamed h s w w' → Prog.Sat (AtCall h s) rest w' (Ends ok fun _ => True)) :
    Prog.Sat (AtCall h s) (do
        PyExtendedHandler.closePortal defaultName
        Prog.modify (Conn.rmPortal defaultName)
        h.closeStatement defaultName
        rest) w (Ends ok fun _ => True) := by
  rw [Prog.sat_bind]
  refine ((closePortal_cleared hl defaultName).both ((PyExtendedHandler.closePortal_working _).ends hl.ready)).post ?_
  rintro (_ | e | _) w1 ⟨hc, hlog1, hrunning1⟩
  · rw [Prog.after_ok, Prog.sat_bind, Prog.sat_modify, Prog.after_ok, Prog.sat_bind]
    replace hc := (ends_ok _).mp hc
    replace hlog1 : w.log <+: (w1.modify (Conn.rmPortal defaultName)).log := hlog1
    replace hrunning1 : ¬ TransactionEnded w (w1.modify (Conn.rmPortal defaultName)) := hrunning1
    generalize w1.modify (Conn.rmPortal defaultName) = w1 at hc hlog1 hrunning1
    have hportal1 : Kind.portals.slot w1.st defaultName = Kind.portals.vacant := hc.2.noPortal _ (Set.mem_singleton _)
    refine ((closeStatement_swept hc.1 defaultName).both ((h.closeStatement_working _).ends hc.1.ready)).post ?_
    rintro (_ | e | _) w2 ⟨hc2, hlog2, hrunning2⟩
    · replace hc2 := (ends_ok _).mp hc2
      refine hrest w2 ⟨hc2.1.live, hlog1.trans hlog2, hc2.2.portals.vacant hportal1, fun n hn => ?_, hc2.1.vacant, ?_⟩
      · -- the portals of the unnamed statement are the ones that were bound from it at first, less the unnamed one
        by_cases hname : n = defaultName
        · rw [hname]
          exact hc2.2.portals.vacant hportal1
        · have hsame := hc.2.portal n hname
          obtain ⟨e, he, hbound⟩ := hn
          exact vacant_of_boundOn hc2.1.live.inv hc2.2 hc2.1.gone ⟨e, (congrArg Prod.fst hsame).trans he, hbound⟩
      · rw [transactionEnded_trans hlog1 hlog2]
        exact fun hended => hended.elim hrunning1 hrunning2
    · exact trivial
    · exact hc2
  · exact trivial
  · exact hc

theorem onQuery_closes {hs : PyServerSimpleQueryHandler} (hl : Live hs.extended s w) (query : String) :
    Prog.Sat (AtCall hs.extended s) (hs.onQuery query) w (Ends (QueryCloses w) fun _ => True) := by
  unfold PyServerSimpleQueryHandler.onQuery
  rw [Prog.sat_bind, Prog.sat_get, Prog.after_ok]
  by_cases hready : w.st.state ≠ .readyForQuery
  · rw [if_pos hready]
    exact trivial
  rw [if_neg hready]
  refine closeUnnamed hl fun w2 hw2 => ?_
  rw [Prog.sat_bind, Prog.sat_attempt]
  refine ((innerOnQuery_swept hw2.live query).both (innerOnQuery_commits hw2.live query).anywhere).post ?_
  have hrest : ∀ (result : Except PgWireError Unit) (w3 : WireWorld), Live hs.extended s w3 →
      Swept (fun _ => TransactionEnded w2 w3) Nothing w2 w3 →
      (result = .ok () → TransactionEnded w2 w3 → Vacated w3) →
      Prog.Sat (AtCall hs.extended s) (do
        let client ← Prog.get
        if client.transactionStatus = .idle then PyExtendedHandler.closeAllPortals else pure ()
        Prog.ofExcept result) w3 (Ends (QueryCloses w) fun _ => True) := by
    intro result w3 hl3 hswept hcommits
    have hstatement : Kind.statements.slot w3.st defaultName = Kind.statements.vacant :=
      hswept.statements.vacant hw2.statement
    rw [Prog.sat_bind, Prog.sat_get, Prog.after_ok]
    by_cases hidle : w3.st.transactionStatus = .idle
    · rw [if_pos hidle, Prog.sat_bind]
      refine (closeAllPortals_swept hl3).post ?_
      rintro (_ | e | _) w4 hc
      · rw [Prog.after_ok, Prog.sat_ofExcept]
        have hvacated : Vacated w4 := hc.1.2.vacated
        exact ⟨fun _ _ => ⟨hvacated _, fun n _ => hvacated n, hc.2.statements.vacant hstatement, fun _ => hvacated⟩,
          fun _ _ => trivial⟩
      · exact trivial
      · exact hc
    · rw [if_neg hidle, Prog.sat_ofExcept]
      refine ⟨fun u hu => ⟨hswept.portals.vacant hw2.portal, fun n hn => hswept.portals.vacant (hw2.bound n hn), hstatement,
        fun hended => ?_⟩, fun _ _ => trivial⟩
      exact hcommits hu (((transactionEnded_trans hw2.log hswept.log).mp hended).resolve_left hw2.running)
  rintro (_ | e | _) w3 ⟨hc, hcommits⟩
  · exact hrest (.ok ()) w3 hc.1 hc.2 fun _ => hcommits () rfl
  · exact hrest (.error e) w3 hc.1 hc.2 fun hno => by cases hno
  · exact hc

theorem onQuery_follows {hs : PyServerSimpleQueryHandler} (hl : Live hs.extended s w) (hk : Holds k w) (query : String) :
    Prog.Sat (AtCall hs.extended s) (hs.onQuery query) w (k.Follows (.query query) w) := by
  have hcloses : ∀ {w' : WireWorld}, ClosesAll (.query query) w w' ↔
      w'.st.transactionStatus = .idle ∨ TransactionEnded w w' := by
    intro w'
    simp [ClosesAll, PgWireFrontendMessage.closesWhenIdle, PgWireFrontendMessage.runsQueries]
  have hmem : ∀ {w' : WireWorld} {n : String}, n ∈ k.closedPortals (.query query) (ClosesAll (.query query) w w') ↔
      QueryPortals w w' n := by
    intro w' n
    have hbound : n ∈ k.boundFrom defaultName ↔ BoundOn w.st defaultName n := hk.mem_boundFrom hl.inv
    simp [Catalogue.closedPortals, PgWireFrontendMessage.closedPortal, PgWireFrontendMessage.closedStatement, hbound,
      hcloses, QueryPortals, eq_comm]
  have hstatements : Catalogue.closedStatements (.query query) = {n | n = defaultName} :=
    Catalogue.closedStatements_of_some rfl
  refine ((onQuery_swept hl query).both (onQuery_closes hl query).anywhere).post ?_
  rintro (_ | e | _) w' ⟨hswept, hcloses'⟩
  · refine .handled hk trivial (fun _ => rfl) ?_
    rw [hstatements, show k.closedPortals (.query query) _ = {n | QueryPortals w w' n} from Set.ext fun n => hmem]
    refine hswept.2.1.exactly (fun n hn => ?_) ?_
    · rcases hn with rfl | hbound | hidle | hended
      · exact hcloses'.portal
      · exact hcloses'.bound n hbound
      · exact (hswept.2.2 hidle).vacated n
      · exact hcloses'.ended hended n
    · rintro n rfl
      exact hcloses'.statement
  · refine .refused hk hl.inv hswept.1.inv hswept.2 (fun n hn _ => hmem.mpr hn) (fun n hn _ => ?_) e
    rw [hstatements]
    exact hn
  · exact hswept.elim

end Handlers

/-! ### Every message -/

section Messages

variable {K : Crypto} {h : PyServerHandlers} {s : Option PyInstance} {k : Catalogue} {w w' : WireWorld}

/-- **Every message** does to the stores what the catalogue says. -/
theorem onMessage_follows (hl : Live h.extendedQuery s w) (hwired : h.Wired) (hk : Holds k w)
    (message : PgWireFrontendMessage) :
    Prog.Sat (AtCall h.extendedQuery s) (h.onMessage message) w (k.Follows message w) := by
  have ignored : ∀ message : PgWireFrontendMessage, k.Admits message → (∀ k' : Catalogue, k'.enter message = k') →
      message.closedPortal = none → message.closedStatement = none → (∀ w', ¬ ClosesAll message w w') →
      k.Follows message w (.ok ()) w := fun message hadmits henter hportal hstatement hnot =>
    .all hk hadmits henter hportal hstatement (.refl w) (fun hall => absurd hall (hnot w)) fun _ _ => id
  cases message with
  | query query =>
    have hsimple : Live h.simpleQuery.extended s w := hwired.extended ▸ hl
    have hquery := onQuery_follows hsimple hk query
    rwa [hwired.extended] at hquery
  | parse message => exact onParse_follows hl hk message
  | bind message => exact onBind_follows hl hk message
  | describe message => exact onDescribe_follows hl hk message
  | execute message => exact onExecute_follows hl hk message
  | close message => exact onClose_follows hl hk message
  | sync => exact onSync_follows hl hk
  | startup message => exact ignored _ trivial (fun _ => rfl) rfl rfl fun w' => not_closesAll rfl rfl
  | passwordMessageFamily message => exact ignored _ trivial (fun _ => rfl) rfl rfl fun w' => not_closesAll rfl rfl
  | other => exact ignored _ trivial (fun _ => rfl) rfl rfl fun w' => not_closesAll rfl rfl

/-- A stranded connection answers a message that makes sense. -/
theorem onMessage_admitted_stranded (hw : Stranded h.extendedQuery w) (hk : Holds k w) (message : PgWireFrontendMessage) :
    Prog.Sat (fun _ _ => True) (h.onMessage message) w fun o _ => o = .ok () → k.Admits message := by
  have hany : ∀ message : PgWireFrontendMessage, k.Admits message →
      Prog.Sat (fun _ _ => True) (h.onMessage message) w fun o _ => o = .ok () → k.Admits message :=
    fun message hadmits => (Prog.sat_log _ w).mono (fun _ _ _ => trivial) fun _ _ _ _ => hadmits
  cases message with
  | parse message =>
    refine (onParse_stranded hw message).anywhere.post fun o w' ho hok hname => ?_
    subst hok
    exact hk.statements_none.mpr (EmptyStored.free ho |>.resolve_left hname)
  | bind message =>
    refine (onBind_stranded hw message).anywhere.post fun o w' ho hok => ?_
    subst hok
    exact ho.elim
  | describe message => exact onDescribe_admitted hk message
  | execute message => exact onExecute_admitted hk message
  | close message =>
    by_cases htype : message.targetType = targetTypeByteStatement ∨ message.targetType = targetTypeBytePortal
    · exact hany _ htype
    · obtain ⟨hstatement, hportal⟩ := not_or.mp htype
      simp only [PyServerHandlers.onMessage, PyExtendedHandler.onClose, if_neg hstatement, if_neg hportal, Prog.sat_fail]
      exact fun hno => by cases hno
  | query query => exact hany _ trivial
  | sync => exact hany _ trivial
  | startup message => exact hany _ trivial
  | passwordMessageFamily message => exact hany _ trivial
  | other => exact hany _ trivial

/-- What is stored stays. -/
theorem Holds.stays {x : PyExtendedHandler} (hk : Holds k w) (hw : Stranded x w) (hs : Stays x w w')
    (hlog : w.log <+: w'.log) : Holds k w' := by
  have hportals : w'.st.store.portals = w.st.store.portals := hs.stranded.noPortals.2.trans hw.noPortals.2.symm
  have hstore : w'.st.store = w.st.store := congrArg₂ PortalStore.mk hs.undisturbed.stored hportals
  refine hk.same ?_ hlog
  rw [Conn.stores, Conn.stores, hs.undisturbed.resources, hstore]

/-- An empty statement enters the catalogue. -/
theorem Holds.emptyStored {x : PyExtendedHandler} (hk : Holds k w) (hw : Stranded x w) {message : Parse}
    (he : EmptyStored x message w w') (hlog : w.log <+: w'.log) : Holds (k.enter (.parse message)) w' := by
  refine hk.parsed hlog (fun n => ?_) (fun n hn => ?_) ⟨.empty, ?_, .empty he.empty⟩
  · have hportal := hw.samePortal he.stranded.noPortals n
    exact Prod.ext hportal.1 hportal.2
  · rw [he.stored, StrMap.lookup_insert_eq_if, if_neg hn]
  · rw [he.stored, StrMap.lookup_insert_eq_if, if_pos rfl]

/-- **Every message of a stranded connection** does to the stores what the catalogue says. -/
theorem onMessage_follows_stranded (hw : Stranded h.extendedQuery w) (hk : Holds k w) (message : PgWireFrontendMessage) :
    Prog.Sat (fun _ _ => True) (h.onMessage message) w fun o w' => o ≠ .panic →
      ∃ k', Catalogue.Step k (.ofStranded message o) k' ∧ Holds k' w' := by
  have hmessage := ((PyServerHandlers.onMessage_stranded hw rfl message).anywhere.both
    (onMessage_admitted_stranded hw hk message)).and (Prog.sat_log _ w)
  refine hmessage.mono (fun _ _ _ => trivial) ?_
  rintro (_ | e | _) w' ⟨⟨ho, hadmits⟩, hlog⟩ hgoes
  · refine ⟨_, .stranded k message (hadmits rfl), ?_⟩
    cases ho with
    | nothing hparse hbind hstays =>
      have henter : k.enter message = k := by
        cases message with
        | parse p => exact absurd rfl (hparse p)
        | bind p => exact absurd rfl (hbind p)
        | _ => rfl
      rw [henter]
      exact hk.stays hw hstays hlog
    | empty hempty => exact hk.emptyStored hw hempty hlog
  · refine ⟨_, .refused k message False ∅ ∅ (Set.empty_subset _) (Set.empty_subset _)
      (fun n hn => absurd hn (Set.notMem_empty n)), ?_⟩
    rw [Catalogue.without_empty]
    exact hk.stays hw ho hlog
  · exact absurd rfl hgoes

/-- What came before the handler closed nothing. -/
theorem Catalogue.Follows.earlier {message : PgWireFrontendMessage} {o : Outcome PgWireError Unit} {w1 : WireWorld}
    (hf : k.Follows message w1 o w') (hlog : w.log <+: w1.log) (hnot : ¬ TransactionEnded w w1)
    (hlog' : w1.log <+: w'.log) : k.Follows message w o w' := by
  have hsame : ClosesAll message w1 w' = ClosesAll message w w' := by
    rw [ClosesAll, ClosesAll, transactionEnded_trans hlog hlog', or_iff_right hnot]
  rwa [Follows, ← hsame]

/-- The connection that a handler finds: pgwire sets its state and transaction status when a message comes in. -/
def WireWorld.handedOver (w : WireWorld) (turn : Call.turn.Reply) : WireWorld :=
  ((w.called .receive ()).called .turn turn).modify fun client =>
    { client with state := turn.1.1, transactionStatus := turn.2 }

theorem WireWorld.handedOver_log (turn : Call.turn.Reply) :
    (w.handedOver turn).log = w.log ++ [.called .receive (), .called .turn turn] :=
  List.append_assoc ..

theorem Live.handedOver {h : PyExtendedHandler} (hl : Live h s w) (turn : Call.turn.Reply) : Live h s (w.handedOver turn) := by
  have hquiet := (hl.quiet (c := .receive) (r := ()) (quiet_of_plain rfl)).quiet (c := .turn) (r := turn) (quiet_of_plain rfl)
  exact hquiet.congr rfl rfl rfl rfl turn.1.2

theorem Holds.handedOver (hk : Holds k w) (turn : Call.turn.Reply) : Holds k (w.handedOver turn) :=
  hk.same rfl (by rw [WireWorld.handedOver_log]; exact List.prefix_append _ _)

/-- After startup a message goes to its handler. -/
theorem sat_processMessage (hready : w.st.state.isStartup = false) {message : PgWireFrontendMessage}
    {C : WireWorld → Call → Prop} {Q : Outcome PgWireError Unit → WireWorld → Prop} :
    Prog.Sat C (h.processMessage K message) (w.called .receive ()) Q ↔
      C (w.called .receive ()) .turn ∧ ∀ turn, Prog.Sat C (h.onMessage message) (w.handedOver turn) Q := by
  rw [PyServerHandlers.processMessage, Prog.sat_bind, Prog.sat_get, Prog.after_ok,
    if_neg (by rw [World.called_st, hready]; decide), Prog.sat_bind, Prog.sat_await]
  rfl

theorem Stranded.handedOver {h : PyExtendedHandler} (hw : Stranded h w) (turn : Call.turn.Reply) :
    Stranded h (w.handedOver turn) := by
  have hquiet := (hw.quiet (c := .receive) (r := ()) (quiet_of_plain rfl)).quiet (c := .turn) (r := turn) (quiet_of_plain rfl)
  exact hquiet.congr rfl rfl rfl rfl turn.1.2

/-- What became of a message that found the connection in `w`. -/
def Catalogue.Turn.at (message : PgWireFrontendMessage) (w : WireWorld) (o : Outcome PgWireError Unit) (w' : WireWorld) :
    Catalogue.Turn :=
  if w.st.state.isStartup = true then .startup
  else if w.st.installed = true then .of message (ClosesAll message w w') o
  else .ofStranded message o

theorem processMessage_follows (hq : Quiescent h w) (hready : w.st.state.isStartup = false) (hwired : h.Wired)
    (hk : Holds k w) (message : PgWireFrontendMessage) :
    Prog.Sat (fun _ _ => True) (h.processMessage K message) (w.called .receive ()) fun o w' => o ≠ .panic →
      ∃ k', Catalogue.Step k (.at message w o w') k' ∧ Holds k' w' := by
  refine (sat_processMessage hready).mpr ⟨trivial, fun turn => ?_⟩
  rcases hq.departed hready with ⟨s, hl⟩ | hw
  · have hnot : ¬ TransactionEnded w (w.handedOver turn) :=
      not_transactionEnded (WireWorld.handedOver_log turn) (by simp [report])
    have hlog : w.log <+: (w.handedOver turn).log := by
      rw [WireWorld.handedOver_log]
      exact List.prefix_append _ _
    have hmessage := (onMessage_follows (hl.handedOver turn) hwired (hk.handedOver turn) message).and (Prog.sat_log _ _)
    refine hmessage.mono (fun _ _ _ => trivial) fun o w' ho _ => ?_
    rw [Catalogue.Turn.at, if_neg (by rw [hready]; decide), if_pos hl.installed]
    exact ho.1.earlier hlog hnot ho.2
  · refine (onMessage_follows_stranded (hw.handedOver turn) (hk.handedOver turn) message).post fun o w' ho hgoes => ?_
    rw [Catalogue.Turn.at, if_neg (by rw [hready]; decide), if_neg (by rw [hw.missing]; decide)]
    exact ho hgoes

/-- A message of the startup leaves the catalogue alone. -/
theorem processMessage_waits (hwait : w.st.state.isStartup = true) (hk : Holds k w) (message : PgWireFrontendMessage) :
    Prog.Sat (fun _ _ => True) (h.processMessage K message) (w.called .receive ()) fun _ w' => Holds k w' := by
  rw [PyServerHandlers.processMessage, Prog.sat_bind, Prog.sat_get, Prog.after_ok, World.called_st, if_pos hwait]
  have hstartup := (onStartup_spares (K := K) h.startup message (w.called .receive ())).and (Prog.sat_log _ _)
  refine hstartup.mono (fun _ _ _ => trivial) fun o w' ho => ?_
  exact hk.same ho.1 ((List.prefix_append _ _).trans ho.2)

end Messages

/-! ### Rounds -/

/-- `process_socket` between two messages. -/
structure Socket where
  world : WireWorld
  goesOn : Bool

namespace PyServerHandlers

variable (K : Crypto) (h : PyServerHandlers) (env : WireEnv)

/-- A message is taken and handled, or its error is reported. -/
inductive Round : Socket → Catalogue.Turn → Socket → Prop where
  | handled {w w' : WireWorld} (message : PgWireFrontendMessage)
      (hrun : (h.processMessage K message).run env (w.called .receive ()) = (.ok (), w')) :
      Round ⟨w, true⟩ (.at message w (.ok ()) w') ⟨w', true⟩
  | failed {w w' w'' : WireWorld} {e : PgWireError} {ends : Bool} (message : PgWireFrontendMessage)
      (hrun : (h.processMessage K message).run env (w.called .receive ()) = (.err e, w'))
      (hreport : (processError e).run env w' = (.ok ends, w'')) :
      Round ⟨w, true⟩ (.at message w (.err e) w') ⟨w'', !ends⟩

/-- `process_socket`, message by message. -/
def rounds : System Socket Catalogue.Turn :=
  ⟨fun s => ∃ secure host, s = ⟨freshWorld secure host, true⟩, h.Round K env⟩

variable {K h env}

/-- One message at a time. -/
theorem follows_at {w w' : WireWorld} {k : Catalogue} {o : Outcome PgWireError Unit} (hq : Quiescent h w)
    (hwired : h.Wired) (hk : Holds k w) {message : PgWireFrontendMessage} (hgoes : o ≠ .panic)
    (hrun : (h.processMessage K message).run env (w.called .receive ()) = (o, w')) :
    Quiescent h w' ∧ ∃ k', Catalogue.Step k (.at message w o w') k' ∧ Holds k' w' := by
  have hq' := hq.quiet (c := .receive) (r := ()) rfl
  have hends := (processMessage_sat (K := K) hq' hwired message).run env
  rw [hrun] at hends
  have hquiescent : Quiescent h w' := by
    cases o with
    | ok u => exact hends
    | err e => exact hends
    | panic => exact absurd rfl hgoes
  refine ⟨hquiescent, ?_⟩
  cases hwait : w.st.state.isStartup with
  | true =>
    have hholds := (processMessage_waits (K := K) (h := h) hwait hk message).run env
    rw [hrun] at hholds
    rw [Catalogue.Turn.at, if_pos hwait]
    exact ⟨k, .startup k, hholds⟩
  | false =>
    have hfollows := (processMessage_follows (K := K) hq hwait hwired hk message).run env
    rw [hrun] at hfollows
    exact hfollows hgoes

/-- **The catalogue simulates the connection**. -/
theorem simulates_rounds (hwired : h.Wired) :
    Simulates (h.rounds K env) Catalogue.system fun s k => Quiescent h s.world ∧ Holds k s.world := by
  refine ⟨?_, ?_⟩
  · rintro s ⟨secure, host, rfl⟩
    refine ⟨.empty, rfl, quiescent_freshWorld h secure host, fun _ _ => rfl, fun n p hp => ?_, fun _ _ => rfl, fun n b hb => ?_⟩
    · cases hp
    · cases hb
  · rintro s k t s' ⟨hq, hk⟩ hround
    cases hround with
    | handled message hrun =>
      obtain ⟨hq', k', hstep, hk'⟩ := follows_at hq hwired hk (by simp) hrun
      exact ⟨k', hstep, hq', hk'⟩
    | @failed w w' w'' e ends message hrun hreport =>
      obtain ⟨hq', k', hstep, hk'⟩ := follows_at hq hwired hk (by simp) hrun
      have hreported := (processError_sat hq' e).run env
      obtain ⟨-, rfl⟩ := Prod.mk.inj ((processError_run env w' e).symm.trans hreport)
      exact ⟨k', hstep, hreported.2, hk'.same rfl (List.prefix_append _ _)⟩

/-- These are the states of `process_socket`, unless its task panics. -/
theorem rounds_processSocket (messages : List PgWireFrontendMessage) {turns : List Catalogue.Turn} {w : WireWorld}
    (hw : (h.rounds K env).Runs turns ⟨w, true⟩) (hgoes : ((h.processSocket K messages).run env w).1 ≠ .panic) :
    ∃ turns' goesOn, (h.rounds K env).Runs turns' ⟨(h.processSocket K messages).final env w, goesOn⟩ := by
  induction messages generalizing turns w with
  | nil => exact ⟨turns, true, hw⟩
  | cons message messages ih =>
    simp only [processSocket, Prog.final, Prog.run_bind, Prog.run_await, Prog.resume_ok, Prog.run_attempt] at hgoes ⊢
    rcases hrun : (h.processMessage K message).run env (w.called .receive ()) with ⟨u | e | _, w1⟩
    · rw [hrun] at hgoes
      exact ih (hw.step (.handled message hrun)) hgoes
    · rw [hrun] at hgoes
      simp only [Prog.resume_ok, Prog.run_bind] at hgoes ⊢
      have hreport := processError_run env w1 e
      have hstep := hw.step (Round.failed message hrun hreport)
      rw [hreport] at hgoes ⊢
      cases hends : (env w1.log (.processError w1.st.state e)).ends with
      | true =>
        rw [hends] at hstep
        exact ⟨_, _, hstep⟩
      | false =>
        rw [hends] at hstep hgoes
        exact ih hstep hgoes
    · rw [hrun] at hgoes
      exact absurd rfl hgoes

/-- The log grows. -/
theorem Round.log_prefix {s s' : Socket} {t : Catalogue.Turn} (hr : h.Round K env s t s') :
    s.world.log <+: s'.world.log := by
  have hmessage : ∀ {w w' : WireWorld} {o : Outcome PgWireError Unit} {message : PgWireFrontendMessage},
      (h.processMessage K message).run env (w.called .receive ()) = (o, w') → w.log <+: w'.log := by
    intro w w' o message hrun
    have hlog := (Prog.sat_log (h.processMessage K message) (w.called .receive ())).run env
    rw [hrun] at hlog
    exact (List.prefix_append _ _).trans hlog
  cases hr with
  | handled message hrun => exact hmessage hrun
  | @failed w w' w'' e ends message hrun hreport =>
    obtain ⟨-, rfl⟩ := Prod.mk.inj ((processError_run env w' e).symm.trans hreport)
    exact (hmessage hrun).trans (List.prefix_append _ _)

/-- Only a connection whose startup was refused is stranded. -/
theorem Round.refused_of_stranded {s s' : Socket} {message : PgWireFrontendMessage} (hq : Quiescent h s.world)
    (hr : h.Round K env s (.stranded message) s') : StartupRefused s.world.log := by
  have hat : ∀ {w w' : WireWorld} {o : Outcome PgWireError Unit} {m : PgWireFrontendMessage}, Quiescent h w →
      Catalogue.Turn.stranded message = .at m w o w' → StartupRefused w.log := by
    intro w w' o m hw ht
    unfold Catalogue.Turn.at at ht
    split at ht
    · cases ht
    rename_i hready
    split at ht
    · cases o <;> cases ht
    rename_i hmissing
    rcases hw.departed (by simpa using hready) with ⟨session, hl⟩ | hstranded
    · exact absurd hl.installed hmissing
    · exact hstranded.refused
  generalize ht : Catalogue.Turn.stranded message = t at hr
  cases hr with
  | handled m hrun => exact hat hq ht
  | failed m hrun hreport => exact hat hq ht

theorem refused_of_stranded (hwired : h.Wired) {turns : List Catalogue.Turn} {s : Socket}
    (hs : (h.rounds K env).Runs turns s) {message : PgWireFrontendMessage} (hm : .stranded message ∈ turns) :
    StartupRefused s.world.log := by
  induction hs with
  | start => cases hm
  | @step turns t s s' hs hround ih =>
    obtain ⟨k, -, hq, -⟩ := (simulates_rounds hwired).runs hs
    rcases List.mem_append.mp hm with hearlier | hlast
    · exact StartupRefused.of_prefix (ih hearlier) (Round.log_prefix hround)
    · obtain rfl := List.mem_singleton.mp hlast
      exact StartupRefused.of_prefix (Round.refused_of_stranded hq hround) (Round.log_prefix hround)

/-- **The catalogue is kept**, and what a client is served is reached so. -/
theorem catalogue_kept (env : WireEnv) {configureCertificate : Bytes → Except PgWireError Unit} {config : HandlerConfig}
    (hb : config.build configureCertificate = .ok h) :
    (∀ secure host messages, ((h.processSocket K messages).run env (freshWorld secure host)).1 ≠ .panic →
      ∃ turns goesOn, (h.rounds K env).Runs turns
        ⟨(h.processSocket K messages).final env (freshWorld secure host), goesOn⟩) ∧
    ∀ turns s, (h.rounds K env).Runs turns s →
      (∃ k, Catalogue.system.Runs turns k ∧ k.Coherent ∧ Holds k s.world) ∧
        ∀ message, .stranded message ∈ turns → StartupRefused s.world.log := by
  have hwired := HandlerConfig.wired hb
  refine ⟨fun secure host messages hgoes => ?_, fun turns s hs => ⟨?_, fun _ => refused_of_stranded hwired hs⟩⟩
  · have hstart : (h.rounds K env).Runs [] ⟨freshWorld secure host, true⟩ := .start ⟨secure, host, rfl⟩
    exact rounds_processSocket messages hstart hgoes
  · obtain ⟨k, hk, -, hholds⟩ := (simulates_rounds hwired).runs hs
    exact ⟨k, hk, Catalogue.coherent hk, hholds⟩

/-- A client parses a statement, binds a portal and runs it. -/
theorem catalogue_kept_alice : ∃ turns goesOn k, Catalogue.system.Runs turns k ∧ k.Coherent ∧
    ((trusting true).rounds default agreeable).Runs turns ⟨((trusting true).processSocket default
      [.startup ⟨[("user", "alice")]⟩, .parse ⟨some "s", "SELECT 1", []⟩, .bind ⟨some "p", some "s", [], [], []⟩,
        .execute ⟨some "p", 0⟩]).final agreeable (freshWorld false "127.0.0.1"), goesOn⟩ := by
  obtain ⟨hreached, hkept⟩ := catalogue_kept (K := default) agreeable (trusting_build true)
  obtain ⟨turns, goesOn, hruns⟩ := hreached false "127.0.0.1" [.startup ⟨[("user", "alice")]⟩,
    .parse ⟨some "s", "SELECT 1", []⟩, .bind ⟨some "p", some "s", [], [], []⟩, .execute ⟨some "p", 0⟩]
    (fun hpanic => by cases hpanic)
  obtain ⟨⟨k, hk, hcoherent, -⟩, -⟩ := hkept turns _ hruns
  exact ⟨turns, goesOn, k, hk, hcoherent, hruns⟩

end PyServerHandlers

end Pywire
