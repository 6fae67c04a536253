import Pywire.Extended
import Pywire.Lib.Ledger

/-!
# Books: what the log says about the stores

The log of a connection is read as two ledgers, one of the Python portals and one of the Python statements.
`Permitted` is the discipline the handlers keep when they make a call.  `Inv` ties the four maps of a connection
to each other and to the two ledgers, slot by slot; the lemmas below it say how each update of the stores keeps
it together with the event that goes with the update.
-/

namespace Pywire

open Async

abbrev Log := List (WireEvent)

/-! ### Two ledgers -/

def succeeded {α : Type} : Except PyErr α → Bool
  | .ok _ => true
  | .error _ => false

/-- What an event does to the Python portals. -/
def portalAct : WireEvent → Ledger.Act String PyInstance
  | .called (.python (.bindPortal on name _ _ _ _)) (.ok _) => .opened name on
  | .called (.python (.closePortal on name)) r => .closed name on (succeeded r)
  | .called (.python (.describePortal on portal)) _ => .used portal on
  | .called (.python (.doQuery on portal _)) _ => .used portal on
  | _ => .other

/-- What an event does to the Python statements. -/
def statementAct : WireEvent → Ledger.Act String PyInstance
  | .called (.python (.parseStatement on name _ _)) (.ok _) => .opened name on
  | .called (.python (.closeStatement on name)) r => .closed name on (succeeded r)
  | .called (.python (.bindPortal on _ statement _ _ _)) _ => .used statement on
  | .called (.python (.describeStatement on statement)) _ => .used statement on
  | _ => .other

def heldPortals (log : Log) : String → Option (Ledger.Holding PyInstance) := Ledger.held (log.map portalAct)
def heldStatements (log : Log) : String → Option (Ledger.Holding PyInstance) := Ledger.held (log.map statementAct)

theorem heldPortals_concat (log : Log) (e : WireEvent) :
    heldPortals (log ++ [e]) = Ledger.step (heldPortals log) log.length (portalAct e) := by
  simp [heldPortals]

theorem heldStatements_concat (log : Log) (e : WireEvent) :
    heldStatements (log ++ [e]) = Ledger.step (heldStatements log) log.length (statementAct e) := by
  simp [heldStatements]

/-- The portal opened at position `k` was bound from the statement `statement`. -/
def BoundFrom (log : Log) (k : ℕ) (statement : PyRef) : Prop :=
  ∃ on name parameters pf rf r,
    log[k]? = some (.called (.python (.bindPortal on name statement parameters pf rf)) r)

/-- Every portal still open from the statement has seen a close. -/
def PortalsTried (log : Log) (statement : PyRef) : Prop :=
  ∀ n x, heldPortals log n = some x → BoundFrom log x.pos statement → x.tried = true

/-- The discipline of the callbacks: an object is opened under a free name, and used or closed only while it is
open and on the instance that created it; a statement is closed only after its portals. -/
def Permitted (log : Log) : Call → Prop
  | .python (.parseStatement _ name _ _) => heldStatements log name = none
  | .python (.bindPortal on name statement _ _ _) =>
    heldPortals log name = none ∧ ∃ n x, heldStatements log n = some x ∧ x.pos = statement ∧ x.owner = on
  | .python (.describeStatement on statement) =>
    ∃ n x, heldStatements log n = some x ∧ x.pos = statement ∧ x.owner = on
  | .python (.describePortal on portal) => ∃ n x, heldPortals log n = some x ∧ x.pos = portal ∧ x.owner = on
  | .python (.doQuery on portal _) => ∃ n x, heldPortals log n = some x ∧ x.pos = portal ∧ x.owner = on
  | .python (.closePortal on name) => ∃ x, heldPortals log name = some x ∧ x.owner = on
  | .python (.closeStatement on name) =>
    ∃ x, heldStatements log name = some x ∧ x.owner = on ∧ PortalsTried log x.pos
  | _ => True

/-- **The discipline makes both ledgers orderly**. -/
theorem orderly_of_allowed {log : Log} (h : Prog.Allowed Permitted log) :
    Ledger.Orderly (log.map portalAct) ∧ Ledger.Orderly (log.map statementAct) := by
  induction log using List.reverseRecOn with
  | nil => exact ⟨Ledger.orderly_nil, Ledger.orderly_nil⟩
  | append_singleton log e ih =>
    obtain ⟨h, he⟩ := Prog.allowed_concat.mp h
    obtain ⟨hp, hs⟩ := ih h
    rw [List.map_append, List.map_append]
    refine ⟨Ledger.orderly_concat.mpr ⟨hp, ?_⟩, Ledger.orderly_concat.mpr ⟨hs, ?_⟩⟩
    · rcases e with ⟨⟨c⟩, r⟩ | n
      case called.python =>
        have hc := he _ _ rfl
        cases c with
        | bindPortal on name statement parameters pf rf =>
          cases r with
          | error e => trivial
          | ok u => exact hc.1
        | describePortal on portal => exact hc
        | doQuery on portal maxRows => exact hc
        | closePortal on name => exact hc
        | _ => trivial
      all_goals trivial
    · rcases e with ⟨⟨c⟩, r⟩ | n
      case called.python =>
        have hc := he _ _ rfl
        cases c with
        | parseStatement on name sql typeOids =>
          cases r with
          | error e => trivial
          | ok u => exact hc
        | bindPortal on name statement parameters pf rf => exact hc.2
        | describeStatement on statement => exact hc
        | closeStatement on name =>
          obtain ⟨x, hx, howner, -⟩ := hc
          exact ⟨x, hx, howner⟩
        | _ => trivial
      all_goals trivial

/-! ### The invariant -/

/-- The Python portal open under a name, and the instance that created it. -/
def portalObject (log : Log) : String → Option (PyRef × PyInstance) := Ledger.object (log.map portalAct)

/-- The Python statement open under a name, and the instance that created it. -/
def statementObject (log : Log) : String → Option (PyRef × PyInstance) := Ledger.object (log.map statementAct)

/-- The session opened by the call at position `k`. -/
def SessionOpened (log : Log) (k : ℕ) : Prop :=
  ∃ login, log[k]? = some (.called (.python (.openSession login)) (.ok ()))

/-- The `bind_portal` call at position `k` that created the Python side of `portal` on `on`. -/
def BindCall (log : Log) (k : ℕ) (on : PyInstance) (portal : Portal) : Prop :=
  log[k]? = some (.called (.python (.bindPortal on portal.name portal.statement.statement portal.parameters
    (formatCodes portal.parameterFormat portal.parameters.length)
    (resultFormatCodes portal.resultColumnFormat))) (.ok ()))

/-- What the two stores and the log hold under one portal name. -/
inductive PortalSlot (h : PyExtendedHandler) (c : Conn) (log : Log) (n : String) : Prop where
  | absent (py : c.resources.portals.lookup n = none) (stored : c.store.portals.lookup n = none)
      (object : portalObject log n = none)
  | empty (s : String) (py : c.resources.portals.lookup n = some ⟨s, none⟩)
      (stored : c.store.portals.lookup n = some .empty) (object : portalObject log n = none)
      (statement : c.store.statements.lookup s = some .empty)
  | bound (s : String) (b : BoundPortal) (p : Portal) (py : c.resources.portals.lookup n = some ⟨s, some b⟩)
      (stored : c.store.portals.lookup n = some (.value p)) (object : portalObject log n = some (b.portal, b.inst))
      (statement : c.store.statements.lookup s = some (.value p.statement)) (name : p.name = n)
      (call : BindCall log b.portal b.inst p) (inst : h.instanceFor c = some b.inst)

/-- What the two stores and the log hold under one statement name. -/
inductive StatementSlot (h : PyExtendedHandler) (c : Conn) (log : Log) (n : String) : Prop where
  | absent (py : c.resources.statements.lookup n = none) (stored : c.store.statements.lookup n = none)
      (object : statementObject log n = none)
  | empty (py : c.resources.statements.lookup n = none) (stored : c.store.statements.lookup n = some .empty)
      (object : statementObject log n = none)
  | value (st : StoredStatement) (i : PyInstance) (py : c.resources.statements.lookup n = some i)
      (stored : c.store.statements.lookup n = some (.value st)) (object : statementObject log n = some (st.statement, i))
      (id : st.id = n) (inst : h.instanceFor c = some i)

/-- **The invariant** of a connection outside its critical sections. -/
structure Inv (h : PyExtendedHandler) (c : Conn) (log : Log) : Prop where
  unlocked : c.resources.closing = false
  portal : ∀ n, PortalSlot h c log n
  statement : ∀ n, StatementSlot h c log n
  session : ∀ k, SessionOpened log k ↔ c.resources.session = some (.session k)
  opened : ∀ on, c.resources.session = some on → ∃ k, on = .session k
  pySession : c.pySession = c.resources.session

/-! ### One more event -/

/-- An event that opens and closes nothing. -/
def Quiet (e : WireEvent) : Prop :=
  (portalAct e).keeps = true ∧ (statementAct e).keeps = true ∧
    ∀ login, e ≠ .called (.python (.openSession login)) (.ok ())

section Events

variable {h : PyExtendedHandler} {c : Conn} {log : Log} {n : String}

theorem getElem?_concat {k : ℕ} {e e' : WireEvent} (hk : log[k]? = some e) : (log ++ [e'])[k]? = some e := by
  obtain ⟨hlt, -⟩ := List.getElem?_eq_some_iff.mp hk
  rwa [List.getElem?_append_left hlt]

theorem BindCall.concat {k : ℕ} {on : PyInstance} {p : Portal} {e : WireEvent} (hb : BindCall log k on p) :
    BindCall (log ++ [e]) k on p := getElem?_concat hb

theorem portalObject_concat {e : WireEvent} (he : (portalAct e).keeps = true) :
    portalObject (log ++ [e]) n = portalObject log n := by
  rw [portalObject, List.map_append]
  exact Ledger.object_concat_of_keeps he

theorem statementObject_concat {e : WireEvent} (he : (statementAct e).keeps = true) :
    statementObject (log ++ [e]) n = statementObject log n := by
  rw [statementObject, List.map_append]
  exact Ledger.object_concat_of_keeps he

theorem sessionOpened_concat {e : WireEvent} (k : ℕ) :
    SessionOpened (log ++ [e]) k ↔ SessionOpened log k ∨
      k = log.length ∧ ∃ login, e = .called (.python (.openSession login)) (.ok ()) := by
  constructor
  · rintro ⟨login, hk⟩
    rcases Nat.lt_trichotomy k log.length with hlt | rfl | hgt
    · rw [List.getElem?_append_left hlt] at hk
      exact .inl ⟨login, hk⟩
    · exact .inr ⟨rfl, login, by simpa using hk⟩
    · rw [List.getElem?_eq_none (by simp; omega)] at hk
      cases hk
  · rintro (⟨login, hk⟩ | ⟨rfl, login, rfl⟩)
    · exact ⟨login, getElem?_concat hk⟩
    · exact ⟨login, by simp⟩

theorem sessionOpened_quiet {e : WireEvent} (he : ∀ login, e ≠ .called (.python (.openSession login)) (.ok ()))
    (k : ℕ) : SessionOpened (log ++ [e]) k ↔ SessionOpened log k := by
  rw [sessionOpened_concat]
  constructor
  · rintro (hk | ⟨-, login, hl⟩)
    · exact hk
    · exact absurd hl (he login)
  · exact .inl

/-- A slot that nothing has touched. -/
theorem PortalSlot.transport {c' : Conn} {log' : Log} (hs : PortalSlot h c log n)
    (hpy : c'.resources.portals.lookup n = c.resources.portals.lookup n)
    (hstored : c'.store.portals.lookup n = c.store.portals.lookup n)
    (hobject : portalObject log' n = portalObject log n)
    (hstatement : ∀ e, c.resources.portals.lookup n = some e →
      c'.store.statements.lookup e.statementName = c.store.statements.lookup e.statementName)
    (hcall : ∀ k on p, BindCall log k on p → BindCall log' k on p)
    (hinst : h.instanceFor c' = h.instanceFor c) : PortalSlot h c' log' n := by
  cases hs with
  | absent py stored object => exact .absent (hpy.trans py) (hstored.trans stored) (hobject.trans object)
  | empty s py stored object statement =>
    exact .empty s (hpy.trans py) (hstored.trans stored) (hobject.trans object)
      ((hstatement _ py).trans statement)
  | bound s b p py stored object statement name call inst =>
    exact .bound s b p (hpy.trans py) (hstored.trans stored) (hobject.trans object)
      ((hstatement _ py).trans statement) name (hcall _ _ _ call) (hinst.trans inst)

theorem StatementSlot.transport {c' : Conn} {log' : Log} (hs : StatementSlot h c log n)
    (hpy : c'.resources.statements.lookup n = c.resources.statements.lookup n)
    (hstored : c'.store.statements.lookup n = c.store.statements.lookup n)
    (hobject : statementObject log' n = statementObject log n)
    (hinst : h.instanceFor c' = h.instanceFor c) : StatementSlot h c' log' n := by
  cases hs with
  | absent py stored object => exact .absent (hpy.trans py) (hstored.trans stored) (hobject.trans object)
  | empty py stored object => exact .empty (hpy.trans py) (hstored.trans stored) (hobject.trans object)
  | value st i py stored object id inst =>
    exact .value st i (hpy.trans py) (hstored.trans stored) (hobject.trans object) id (hinst.trans inst)

theorem Inv.quiet {e : WireEvent} (hw : Inv h c log) (he : Quiet e) : Inv h c (log ++ [e]) where
  unlocked := hw.unlocked
  portal n := (hw.portal n).transport rfl rfl (portalObject_concat he.1) (fun _ _ => rfl)
    (fun _ _ _ hb => hb.concat) rfl
  statement n := (hw.statement n).transport rfl rfl (statementObject_concat he.2.1) rfl
  session k := (sessionOpened_quiet he.2.2 k).trans (hw.session k)
  opened := hw.opened
  pySession := hw.pySession

/-- The invariant looks at the stores and the session only. -/
theorem Inv.congr {c' : Conn} (hw : Inv h c log) (hr : c'.resources = c.resources) (hs : c'.store = c.store)
    (hp : c'.pySession = c.pySession) : Inv h c' log where
  unlocked := by rw [hr]; exact hw.unlocked
  portal n := (hw.portal n).transport (by rw [hr]) (by rw [hs]) rfl (fun _ _ => by rw [hs]) (fun _ _ _ => id)
    (by rw [PyExtendedHandler.instanceFor, hp]; rfl)
  statement n := (hw.statement n).transport (by rw [hr]) (by rw [hs]) rfl
    (by rw [PyExtendedHandler.instanceFor, hp]; rfl)
  session k := by rw [hr]; exact hw.session k
  opened on := by rw [hr]; exact hw.opened on
  pySession := by rw [hp, hr]; exact hw.pySession

/-! ### Updates of the stores -/

theorem portalObject_none_of_py (hw : Inv h c log) (hpy : c.resources.portals.lookup n = none) :
    portalObject log n = none ∧ c.store.portals.lookup n = none := by
  cases hw.portal n with
  | absent py stored object => exact ⟨object, stored⟩
  | empty s py => rw [py] at hpy; cases hpy
  | bound s b p py => rw [py] at hpy; cases hpy

/-- An entry's statement is in pgwire's store. -/
theorem Inv.referential (hw : Inv h c log) {e : PortalEntry} (hpy : c.resources.portals.lookup n = some e) :
    ∃ st, c.store.statements.lookup e.statementName = some st ∧ st.isValue = e.bound.isSome := by
  cases hw.portal n with
  | absent py => rw [py] at hpy; cases hpy
  | empty s py stored object statement =>
    rw [py] at hpy
    cases hpy
    exact ⟨_, statement, rfl⟩
  | bound s b p py stored object statement =>
    rw [py] at hpy
    cases hpy
    exact ⟨_, statement, rfl⟩

/-- A portal leaves both stores, and the books if it was in them. -/
theorem Inv.dropPortal {log' : Log} (hw : Inv h c log)
    (hcall : ∀ k on p, BindCall log k on p → BindCall log' k on p)
    (hport : ∀ m, portalObject log' m = if m = n then none else portalObject log m)
    (hst : ∀ m, statementObject log' m = statementObject log m)
    (hses : ∀ k, SessionOpened log' k ↔ SessionOpened log k) :
    Inv h (Conn.rmPortal n (Conn.removePortal n c)) log' := by
  have hpy : ∀ m, (Conn.rmPortal n (Conn.removePortal n c)).resources.portals.lookup m =
      if m = n then none else c.resources.portals.lookup m := fun m => StrMap.lookup_erase_eq_if _ _ _
  have hstored : ∀ m, (Conn.rmPortal n (Conn.removePortal n c)).store.portals.lookup m =
      if m = n then none else c.store.portals.lookup m := fun m => StrMap.lookup_erase_eq_if _ _ _
  refine ⟨hw.unlocked, fun m => ?_, fun m => ?_, fun k => (hses k).trans (hw.session k), hw.opened,
    hw.pySession⟩
  · by_cases hm : m = n
    · exact .absent (by rw [hpy, if_pos hm]) (by rw [hstored, if_pos hm]) (by rw [hport, if_pos hm])
    · exact (hw.portal m).transport (by rw [hpy, if_neg hm]) (by rw [hstored, if_neg hm])
        (by rw [hport, if_neg hm]) (fun _ _ => rfl) hcall rfl
  · exact (hw.statement m).transport rfl rfl (hst m) rfl

/-- The close callback of a portal returned: the portal leaves both stores. -/
theorem Inv.portalClosed (hw : Inv h c log) (on : PyInstance) :
    Inv h (Conn.rmPortal n (Conn.removePortal n c))
      (log ++ [.called (.python (.closePortal on n)) (.ok ())]) := by
  refine hw.dropPortal (fun _ _ _ hb => hb.concat) (fun m => ?_) (fun m => statementObject_concat rfl)
    (sessionOpened_quiet fun login he => by cases he)
  rw [portalObject, List.map_append]
  exact Ledger.object_concat_closed n on

/-- A portal without a Python object leaves both stores. -/
theorem Inv.portalRemoved (hw : Inv h c log) (hn : (c.resources.portals.lookup n).bind (·.bound) = none) :
    Inv h (Conn.rmPortal n (Conn.removePortal n c)) log := by
  have hobj : portalObject log n = none := by
    cases hw.portal n with
    | absent py stored object => exact object
    | empty s py stored object => exact object
    | bound s b p py =>
      rw [py] at hn
      cases hn
  refine hw.dropPortal (fun _ _ _ => id) (fun m => ?_) (fun m => rfl) fun k => Iff.rfl
  split
  · rename_i hm
    rw [hm, hobj]
  · rfl

/-- A statement that no portal refers to leaves both stores, and the books if it was in them. -/
theorem Inv.dropStatement {log' : Log} (hw : Inv h c log)
    (hfree : ∀ m e, c.resources.portals.lookup m = some e → e.statementName ≠ n)
    (hcall : ∀ k on p, BindCall log k on p → BindCall log' k on p)
    (hport : ∀ m, portalObject log' m = portalObject log m)
    (hst : ∀ m, statementObject log' m = if m = n then none else statementObject log m)
    (hses : ∀ k, SessionOpened log' k ↔ SessionOpened log k) :
    Inv h (Conn.rmStatement n (Conn.removeStatement n c)) log' := by
  have hpy : ∀ m, (Conn.rmStatement n (Conn.removeStatement n c)).resources.statements.lookup m =
      if m = n then none else c.resources.statements.lookup m := fun m => StrMap.lookup_erase_eq_if _ _ _
  have hstored : ∀ m, (Conn.rmStatement n (Conn.removeStatement n c)).store.statements.lookup m =
      if m = n then none else c.store.statements.lookup m := fun m => StrMap.lookup_erase_eq_if _ _ _
  refine ⟨hw.unlocked, fun m => ?_, fun m => ?_, fun k => (hses k).trans (hw.session k), hw.opened,
    hw.pySession⟩
  · exact (hw.portal m).transport rfl rfl (hport m) (fun e he => by rw [hstored, if_neg (hfree m e he)]) hcall rfl
  · by_cases hm : m = n
    · exact .absent (by rw [hpy, if_pos hm]) (by rw [hstored, if_pos hm]) (by rw [hst, if_pos hm])
    · exact (hw.statement m).transport (by rw [hpy, if_neg hm]) (by rw [hstored, if_neg hm])
        (by rw [hst, if_neg hm]) rfl

/-- The close callback of a statement returned: the statement leaves both stores. -/
theorem Inv.statementClosed (hw : Inv h c log) (on : PyInstance)
    (hfree : ∀ m e, c.resources.portals.lookup m = some e → e.statementName ≠ n) :
    Inv h (Conn.rmStatement n (Conn.removeStatement n c))
      (log ++ [.called (.python (.closeStatement on n)) (.ok ())]) := by
  refine hw.dropStatement hfree (fun _ _ _ hb => hb.concat) (fun m => portalObject_concat rfl) (fun m => ?_)
    (sessionOpened_quiet fun login he => by cases he)
  rw [statementObject, List.map_append]
  exact Ledger.object_concat_closed n on

/-- A statement without a Python object leaves both stores. -/
theorem Inv.statementRemoved (hw : Inv h c log) (hn : ∀ st, c.store.statements.lookup n ≠ some (.value st))
    (hfree : ∀ m e, c.resources.portals.lookup m = some e → e.statementName ≠ n) :
    Inv h (Conn.rmStatement n (Conn.removeStatement n c)) log := by
  have hobj : statementObject log n = none := by
    cases hw.statement n with
    | absent py stored object => exact object
    | empty py stored object => exact object
    | value st i py stored => exact absurd stored (hn st)
  refine hw.dropStatement hfree (fun _ _ _ => id) (fun m => rfl) (fun m => ?_) fun k => Iff.rfl
  split
  · rename_i hm
    rw [hm, hobj]
  · rfl

/-- The event of a `bind_portal` call that returned. -/
def bindEvent (i : PyInstance) (p : Portal) : WireEvent :=
  .called (.python (.bindPortal i p.name p.statement.statement p.parameters
    (formatCodes p.parameterFormat p.parameters.length) (resultFormatCodes p.resultColumnFormat))) (.ok ())

/-- The bind callback returned: the portal enters both stores. -/
theorem Inv.portalBound (hw : Inv h c log) {p : Portal} {s : String} {i : PyInstance}
    (hst : c.store.statements.lookup s = some (.value p.statement)) (hi : h.instanceFor c = some i) :
    Inv h (Conn.putPortal p (Conn.insertPortal p.name ⟨s, some ⟨i, log.length⟩⟩ c)) (log ++ [bindEvent i p]) := by
  have hpy : ∀ m, (Conn.putPortal p (Conn.insertPortal p.name ⟨s, some ⟨i, log.length⟩⟩ c)).resources.portals.lookup
      m = if m = p.name then some ⟨s, some ⟨i, log.length⟩⟩ else c.resources.portals.lookup m :=
    fun m => StrMap.lookup_insert_eq_if _ _ _ _
  have hstored : ∀ m, (Conn.putPortal p (Conn.insertPortal p.name ⟨s, some ⟨i, log.length⟩⟩ c)).store.portals.lookup
      m = if m = p.name then some (.value p) else c.store.portals.lookup m :=
    fun m => StrMap.lookup_insert_eq_if _ _ _ _
  have hobj : ∀ m, portalObject (log ++ [bindEvent i p]) m =
      if m = p.name then some (log.length, i) else portalObject log m := by
    intro m
    rw [portalObject, List.map_append]
    have hopened : Ledger.object (log.map portalAct ++ [.opened p.name i]) m = _ := Ledger.object_concat_opened p.name i
    rwa [List.length_map] at hopened
  refine ⟨hw.unlocked, fun m => ?_, fun m => ?_,
    fun k => (sessionOpened_quiet (fun login he => by cases he) k).trans (hw.session k), hw.opened, hw.pySession⟩
  · by_cases hm : m = p.name
    · exact .bound s ⟨i, log.length⟩ p (by rw [hpy, if_pos hm]) (by rw [hstored, if_pos hm])
        (by rw [hobj, if_pos hm]) hst hm.symm (by simp [BindCall, bindEvent]) hi
    · exact (hw.portal m).transport (by rw [hpy, if_neg hm]) (by rw [hstored, if_neg hm])
        (by rw [hobj, if_neg hm]) (fun _ _ => rfl) (fun _ _ _ hb => hb.concat) rfl
  · exact (hw.statement m).transport rfl rfl (statementObject_concat rfl) rfl

/-- A portal of an empty statement enters both stores. -/
theorem Inv.portalEmpty (hw : Inv h c log) {s : String} (hfree : c.resources.portals.lookup n = none)
    (hst : c.store.statements.lookup s = some .empty) :
    Inv h (Conn.putEmptyPortal n (Conn.insertPortal n ⟨s, none⟩ c)) log := by
  have hpy : ∀ m, (Conn.putEmptyPortal n (Conn.insertPortal n ⟨s, none⟩ c)).resources.portals.lookup m =
      if m = n then some ⟨s, none⟩ else c.resources.portals.lookup m := fun m => StrMap.lookup_insert_eq_if _ _ _ _
  have hstored : ∀ m, (Conn.putEmptyPortal n (Conn.insertPortal n ⟨s, none⟩ c)).store.portals.lookup m =
      if m = n then some .empty else c.store.portals.lookup m := fun m => StrMap.lookup_insert_eq_if _ _ _ _
  refine ⟨hw.unlocked, fun m => ?_, fun m => ?_, hw.session, hw.opened, hw.pySession⟩
  · by_cases hm : m = n
    · exact .empty s (by rw [hpy, if_pos hm]) (by rw [hstored, if_pos hm])
        (hm ▸ (portalObject_none_of_py hw hfree).1) hst
    · exact (hw.portal m).transport (by rw [hpy, if_neg hm]) (by rw [hstored, if_neg hm]) rfl (fun _ _ => rfl)
        (fun _ _ _ => id) rfl
  · exact (hw.statement m).transport rfl rfl rfl rfl

/-- No portal refers to a statement name that is free in pgwire's store. -/
theorem Inv.not_referenced (hw : Inv h c log) (hfree : c.store.statements.lookup n = none) {m : String}
    {e : PortalEntry} (he : c.resources.portals.lookup m = some e) : e.statementName ≠ n := by
  rintro rfl
  obtain ⟨st, hst, -⟩ := hw.referential he
  rw [hfree] at hst
  cases hst

/-- The parse callback returned: the statement enters both stores. -/
theorem Inv.statementParsed (hw : Inv h c log) {i : PyInstance} {sql : String} {typeOids : List UInt32}
    (types : List (Option PgType)) (hfree : c.store.statements.lookup n = none)
    (hi : h.instanceFor c = some i) :
    Inv h (Conn.putStatement ⟨n, log.length, types⟩ (Conn.insertStatement n i c))
      (log ++ [.called (.python (.parseStatement i n sql typeOids)) (.ok ())]) := by
  have hpy : ∀ m, (Conn.putStatement ⟨n, log.length, types⟩ (Conn.insertStatement n i c)).resources.statements.lookup
      m = if m = n then some i else c.resources.statements.lookup m := fun m => StrMap.lookup_insert_eq_if _ _ _ _
  have hstored : ∀ m, (Conn.putStatement ⟨n, log.length, types⟩ (Conn.insertStatement n i c)).store.statements.lookup
      m = if m = n then some (.value ⟨n, log.length, types⟩) else c.store.statements.lookup m :=
    fun m => StrMap.lookup_insert_eq_if _ _ _ _
  have hobj : ∀ m, statementObject (log ++ [.called (.python (.parseStatement i n sql typeOids)) (.ok ())]) m =
      if m = n then some (log.length, i) else statementObject log m := by
    intro m
    rw [statementObject, List.map_append]
    have hopened : Ledger.object (log.map statementAct ++ [.opened n i]) m = _ := Ledger.object_concat_opened n i
    rwa [List.length_map] at hopened
  refine ⟨hw.unlocked, fun m => ?_, fun m => ?_,
    fun k => (sessionOpened_quiet (fun login he => by cases he) k).trans (hw.session k), hw.opened, hw.pySession⟩
  · exact (hw.portal m).transport rfl rfl (portalObject_concat rfl)
      (fun e he => by rw [hstored, if_neg (hw.not_referenced hfree he)]) (fun _ _ _ hb => hb.concat) rfl
  · by_cases hm : m = n
    · exact .value ⟨n, log.length, types⟩ i (by rw [hpy, if_pos hm]) (by rw [hstored, if_pos hm])
        (by rw [hobj, if_pos hm]) hm.symm hi
    · exact (hw.statement m).transport (by rw [hpy, if_neg hm]) (by rw [hstored, if_neg hm])
        (by rw [hobj, if_neg hm]) rfl

/-- An empty statement enters pgwire's store. -/
theorem Inv.statementEmpty (hw : Inv h c log) (hfree : c.store.statements.lookup n = none) :
    Inv h (Conn.putEmptyStatement n c) log := by
  have hstored : ∀ m, (Conn.putEmptyStatement n c).store.statements.lookup m =
      if m = n then some .empty else c.store.statements.lookup m := fun m => StrMap.lookup_insert_eq_if _ _ _ _
  have hslot : c.resources.statements.lookup n = none ∧ statementObject log n = none := by
    cases hw.statement n with
    | absent py stored object => exact ⟨py, object⟩
    | empty py stored object => exact ⟨py, object⟩
    | value st i py stored => rw [stored] at hfree; cases hfree
  refine ⟨hw.unlocked, fun m => ?_, fun m => ?_, hw.session, hw.opened, hw.pySession⟩
  · exact (hw.portal m).transport rfl rfl rfl
      (fun e he => by rw [hstored, if_neg (hw.not_referenced hfree he)]) (fun _ _ _ => id) rfl
  · by_cases hm : m = n
    · subst hm
      exact .empty hslot.1 (by rw [hstored, if_pos rfl]) hslot.2
    · exact (hw.statement m).transport rfl (by rw [hstored, if_neg hm]) rfl rfl

/-- The session is opened before anything else is. -/
theorem Inv.sessionOpened (hw : Inv h c log) {login : PyLoginInfo} (hnone : c.resources.session = none)
    (hfresh : ∀ n, c.resources.portals.lookup n = none ∧ c.resources.statements.lookup n = none) :
    Inv h { c with resources := { c.resources with session := some (.session log.length) },
                   pySession := some (.session log.length) }
      (log ++ [.called (.python (.openSession login)) (.ok ())]) := by
  refine ⟨hw.unlocked, fun m => ?_, fun m => ?_, fun k => ?_, fun on hon => ⟨_, (Option.some.inj hon).symm⟩, rfl⟩
  · obtain ⟨hobj, hstored⟩ := portalObject_none_of_py hw (hfresh m).1
    exact .absent (hfresh m).1 hstored ((portalObject_concat rfl).trans hobj)
  · cases hw.statement m with
    | absent py stored object => exact .absent py stored ((statementObject_concat rfl).trans object)
    | empty py stored object => exact .empty py stored ((statementObject_concat rfl).trans object)
    | value st i py => rw [(hfresh m).2] at py; cases py
  · have hold : ¬ SessionOpened log k := fun hk => by
      have := (hw.session k).mp hk
      rw [hnone] at this
      cases this
    rw [sessionOpened_concat]
    constructor
    · rintro (hk | ⟨rfl, -⟩)
      · exact absurd hk hold
      · rfl
    · intro hk
      injection hk with hk
      injection hk with hk
      exact .inr ⟨hk.symm, login, rfl⟩

end Events

end Pywire
