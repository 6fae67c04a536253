import Pywire.Cleanup

/-!
# Sweep: what a message does to the four maps

The two maps of portals hold one slot for each name, and so do the two maps of statements.  `Swept` says that
slots were emptied and nothing else changed: each of them had no Python object, or its close callback returned
`Ok` meanwhile.  `Confined` says that only some names were touched, in whatever way.  Every handler confines
itself to the names its message is about; one that fails has only swept.

* `closeAllPortals_swept`, `closeStatement_swept`: the closes.
* `onParse_swept` to `onQuery_swept`: the handlers.
-/

namespace Pywire

open Async

/-! ### Slots -/

/-- A kind of object that is kept under names in two maps and closed by a callback. -/
structure Kind where
  Slot : Type
  /-- What the two maps hold under a name. -/
  slot : Conn → String → Slot
  vacant : Slot
  /-- Nothing in the slot stands for a Python object. -/
  Bare : Slot → Prop
  /-- The event at a position is the close callback for the object in the slot, and it returned `Ok`. -/
  Closed : Slot → String → Log → ℕ → Prop
  closed_of_prefix : ∀ {x : Slot} {n : String} {log log' : Log} {j : ℕ},
    log <+: log' → Closed x n log j → Closed x n log' j

theorem getElem?_of_prefix {log log' : Log} (h : log <+: log') {j : ℕ} {e : WireEvent} (hj : log[j]? = some e) :
    log'[j]? = some e := by
  obtain ⟨t, rfl⟩ := h
  obtain ⟨hlt, -⟩ := List.getElem?_eq_some_iff.mp hj
  rwa [List.getElem?_append_left hlt]

abbrev PortalHeld := Option PortalEntry × Option (Entry Portal)
abbrev StatementHeld := Option PyInstance × Option (Entry StoredStatement)

def PortalHeldClosed (x : PortalHeld) (n : String) (log : Log) (j : ℕ) : Prop :=
  ∃ b, x.1.bind (·.bound) = some b ∧ PortalClose log j b.inst n (.ok ())

def StatementHeldClosed (x : StatementHeld) (n : String) (log : Log) (j : ℕ) : Prop :=
  ∃ i, x.1 = some i ∧ StatementClose log j i n (.ok ())

theorem portalHeldClosed_of_prefix {x : PortalHeld} {n : String} {log log' : Log} {j : ℕ} (h : log <+: log')
    (hj : PortalHeldClosed x n log j) : PortalHeldClosed x n log' j := by
  obtain ⟨b, hb, hclose⟩ := hj
  exact ⟨b, hb, getElem?_of_prefix h hclose⟩

theorem statementHeldClosed_of_prefix {x : StatementHeld} {n : String} {log log' : Log} {j : ℕ} (h : log <+: log')
    (hj : StatementHeldClosed x n log j) : StatementHeldClosed x n log' j := by
  obtain ⟨i, hi, hclose⟩ := hj
  exact ⟨i, hi, getElem?_of_prefix h hclose⟩

/-- Portals: `PythonPortals.portals` and pgwire's portals. -/
def Kind.portals : Kind where
  Slot := PortalHeld
  slot c n := (c.resources.portals.lookup n, c.store.portals.lookup n)
  vacant := (none, none)
  Bare x := x.1.bind (·.bound) = none ∧ ∀ p, x.2 ≠ some (.value p)
  Closed := PortalHeldClosed
  closed_of_prefix := portalHeldClosed_of_prefix

/-- Statements: `PythonPortals.statements` and pgwire's statements. -/
def Kind.statements : Kind where
  Slot := StatementHeld
  slot c n := (c.resources.statements.lookup n, c.store.statements.lookup n)
  vacant := (none, none)
  Bare x := x.1 = none ∧ ∀ st, x.2 ≠ some (.value st)
  Closed := StatementHeldClosed
  closed_of_prefix := statementHeldClosed_of_prefix

namespace Kind

variable {κ : Kind} {P P' : String → Prop} {w w1 w2 : WireWorld} {n : String}

/-- A slot was emptied, and rightly so. -/
structure Emptied (κ : Kind) (w w' : WireWorld) (n : String) : Prop where
  vacant : κ.slot w'.st n = κ.vacant
  closed : κ.Bare (κ.slot w.st n) ∨ ∃ j, w.log.length ≤ j ∧ κ.Closed (κ.slot w.st n) n w'.log j

/-- Slots of the names in `P` were emptied, and the others are what they were. -/
def Swept (κ : Kind) (P : String → Prop) (w w' : WireWorld) : Prop :=
  ∀ n, κ.slot w'.st n = κ.slot w.st n ∨ P n ∧ κ.Emptied w w' n

/-- Some slots were emptied, and the others are what they were. -/
def Shrinks (κ : Kind) (w w' : WireWorld) : Prop :=
  ∀ n, κ.slot w'.st n = κ.slot w.st n ∨ κ.slot w'.st n = κ.vacant

/-- Only the slots of the names in `P` were touched. -/
def Confined (κ : Kind) (P : String → Prop) (w w' : WireWorld) : Prop :=
  ∀ n, κ.slot w'.st n = κ.slot w.st n ∨ P n

/-- What was emptied stays empty. -/
theorem Emptied.later (h : κ.Emptied w w1 n) (hlog : w1.log <+: w2.log) (hvacant : κ.slot w2.st n = κ.vacant) :
    κ.Emptied w w2 n := by
  refine ⟨hvacant, ?_⟩
  rcases h.closed with hbare | ⟨j, hj, hclosed⟩
  · exact .inl hbare
  · exact .inr ⟨j, hj, κ.closed_of_prefix hlog hclosed⟩

/-- What is emptied now was not touched before. -/
theorem Emptied.earlier (h : κ.Emptied w1 w2 n) (hlog : w.log <+: w1.log) (hsame : κ.slot w1.st n = κ.slot w.st n) :
    κ.Emptied w w2 n := by
  refine ⟨h.vacant, ?_⟩
  rcases h.closed with hbare | ⟨j, hj, hclosed⟩
  · rw [hsame] at hbare
    exact .inl hbare
  · rw [hsame] at hclosed
    exact .inr ⟨j, Nat.le_trans hlog.length_le hj, hclosed⟩

theorem Swept.mono (h : κ.Swept P w w1) (hP : ∀ n, P n → P' n) : κ.Swept P' w w1 :=
  fun n => (h n).imp id fun hn => ⟨hP n hn.1, hn.2⟩

theorem Swept.trans (h : κ.Swept P w w1) (h' : κ.Swept P w1 w2) (hlog : w.log <+: w1.log) (hlog' : w1.log <+: w2.log) :
    κ.Swept P w w2 := by
  intro n
  rcases h n with hsame | ⟨hP, hemptied⟩
  · rcases h' n with hsame' | ⟨hP', hemptied'⟩
    · exact .inl (hsame'.trans hsame)
    · exact .inr ⟨hP', hemptied'.earlier hlog hsame⟩
  · right
    rcases h' n with hsame' | ⟨-, hemptied'⟩
    · exact ⟨hP, hemptied.later hlog' (hsame'.trans hemptied.vacant)⟩
    · exact ⟨hP, hemptied.later hlog' hemptied'.vacant⟩

theorem Swept.shrinks (h : κ.Swept P w w1) : κ.Shrinks w w1 := fun n => (h n).imp id fun hn => hn.2.vacant

theorem Shrinks.keep (h : κ.Shrinks w w1) (h' : κ.Confined (fun _ => False) w1 w2) : κ.Shrinks w w2 := by
  intro n
  have hsame : κ.slot w2.st n = κ.slot w1.st n := (h' n).resolve_right id
  rw [hsame]
  exact h n

theorem Swept.confined (h : κ.Swept P w w1) : κ.Confined P w w1 := fun n => (h n).imp id And.left

/-- One slot was emptied. -/
theorem swept_of_slot (hslot : ∀ m, κ.slot w1.st m = if m = n then κ.vacant else κ.slot w.st m)
    (hclosed : κ.Bare (κ.slot w.st n) ∨ ∃ j, w.log.length ≤ j ∧ κ.Closed (κ.slot w.st n) n w1.log j) :
    κ.Swept (· = n) w w1 := by
  intro m
  have hm := hslot m
  by_cases he : m = n
  · subst he
    rw [if_pos rfl] at hm
    exact .inr ⟨rfl, hm, hclosed⟩
  · rw [if_neg he] at hm
    exact .inl hm

/-- One slot was touched. -/
theorem confined_of_slot (hslot : ∀ m, m ≠ n → κ.slot w1.st m = κ.slot w.st m) : κ.Confined (· = n) w w1 := by
  intro m
  by_cases hm : m = n
  · exact .inr hm
  · exact .inl (hslot m hm)

theorem Confined.mono (h : κ.Confined P w w1) (hP : ∀ n, P n → P' n) : κ.Confined P' w w1 :=
  fun n => (h n).imp id (hP n)

theorem Confined.trans (h : κ.Confined P w w1) (h' : κ.Confined P w1 w2) : κ.Confined P w w2 := by
  intro n
  rcases h n with hsame | hP
  · exact (h' n).imp (fun hsame' => hsame'.trans hsame) id
  · exact .inr hP

end Kind

/-! ### The four maps -/

/-- Portals in `P` and statements in `S` were closed, or had no Python object. -/
structure Swept (P S : String → Prop) (w w' : WireWorld) : Prop where
  log : w.log <+: w'.log
  portals : Kind.portals.Swept P w w'
  statements : Kind.statements.Swept S w w'

/-- Outside `P` and `S` nothing was touched. -/
structure Confined (P S : String → Prop) (w w' : WireWorld) : Prop where
  portals : Kind.portals.Confined P w w'
  statements : Kind.statements.Confined S w w'

section Maps

variable {P P' S S' : String → Prop} {w w1 w2 : WireWorld}

/-- Neither store changed. -/
theorem Swept.of_stores (hportals : w1.st.resources.portals = w.st.resources.portals)
    (hstatements : w1.st.resources.statements = w.st.resources.statements) (hstore : w1.st.store = w.st.store)
    (hlog : w.log <+: w1.log) : Swept P S w w1 := by
  refine ⟨hlog, fun n => .inl ?_, fun n => .inl ?_⟩
  · simp only [Kind.portals, hportals, hstore]
  · simp only [Kind.statements, hstatements, hstore]

theorem Swept.refl (w : WireWorld) : Swept P S w w := .of_stores rfl rfl rfl (List.prefix_refl _)

theorem Swept.called (w : WireWorld) (c : Call) (r : c.Reply) : Swept P S w (w.called c r) :=
  .of_stores rfl rfl rfl (List.prefix_append _ _)

theorem Swept.mono (h : Swept P S w w1) (hP : ∀ n, P n → P' n) (hS : ∀ n, S n → S' n) : Swept P' S' w w1 :=
  ⟨h.log, h.portals.mono hP, h.statements.mono hS⟩

theorem Swept.trans (h : Swept P S w w1) (h' : Swept P S w1 w2) : Swept P S w w2 :=
  ⟨h.log.trans h'.log, h.portals.trans h'.portals h.log h'.log, h.statements.trans h'.statements h.log h'.log⟩

theorem Swept.confined (h : Swept P S w w1) : Confined P S w w1 := ⟨h.portals.confined, h.statements.confined⟩

theorem Confined.mono (h : Confined P S w w1) (hP : ∀ n, P n → P' n) (hS : ∀ n, S n → S' n) : Confined P' S' w w1 :=
  ⟨h.portals.mono hP, h.statements.mono hS⟩

theorem Confined.trans (h : Confined P S w w1) (h' : Confined P S w1 w2) : Confined P S w w2 :=
  ⟨h.portals.trans h'.portals, h.statements.trans h'.statements⟩

end Maps

/-! ### Close routines -/

/-- Nothing is in `P`. -/
abbrev Nothing : String → Prop := fun _ => False

/-- The portals bound from the statement `name`. -/
def BoundOn (c : Conn) (name n : String) : Prop :=
  ∃ e, c.resources.portals.lookup n = some e ∧ e.statementName = name

section Close

variable {h : PyExtendedHandler} {s : Option PyInstance} {w : WireWorld}

/-- A portal slot of two maps, one erased after the other. -/
theorem slot_rmPortal (c : Conn) (n m : String) : Kind.portals.slot (Conn.rmPortal n (Conn.removePortal n c)) m =
    if m = n then Kind.portals.vacant else Kind.portals.slot c m := by
  have hpy : (Conn.rmPortal n (Conn.removePortal n c)).resources.portals.lookup m =
      if m = n then none else c.resources.portals.lookup m := StrMap.lookup_erase_eq_if _ _ _
  have hstored : (Conn.rmPortal n (Conn.removePortal n c)).store.portals.lookup m =
      if m = n then none else c.store.portals.lookup m := StrMap.lookup_erase_eq_if _ _ _
  simp only [Kind.portals, hpy, hstored]
  split <;> rfl

theorem slot_rmStatement (c : Conn) (n m : String) :
    Kind.statements.slot (Conn.rmStatement n (Conn.removeStatement n c)) m =
      if m = n then Kind.statements.vacant else Kind.statements.slot c m := by
  have hpy : (Conn.rmStatement n (Conn.removeStatement n c)).resources.statements.lookup m =
      if m = n then none else c.resources.statements.lookup m := StrMap.lookup_erase_eq_if _ _ _
  have hstored : (Conn.rmStatement n (Conn.removeStatement n c)).store.statements.lookup m =
      if m = n then none else c.store.statements.lookup m := StrMap.lookup_erase_eq_if _ _ _
  simp only [Kind.statements, hpy, hstored]
  split <;> rfl

/-- A portal leaves both maps. -/
theorem swept_portal {w' : WireWorld} {n : String} (hst : w'.st = Conn.rmPortal n (Conn.removePortal n w.st))
    (hlog : w.log <+: w'.log)
    (hclosed : Kind.portals.Bare (Kind.portals.slot w.st n) ∨
      ∃ j, w.log.length ≤ j ∧ Kind.portals.Closed (Kind.portals.slot w.st n) n w'.log j) :
    Swept (· = n) Nothing w w' := by
  refine ⟨hlog, Kind.swept_of_slot (fun m => ?_) hclosed, fun m => .inl ?_⟩
  · rw [hst]
    exact slot_rmPortal w.st n m
  · rw [hst]
    rfl

/-- A statement leaves both maps. -/
theorem swept_statement {w' : WireWorld} {n : String}
    (hst : w'.st = Conn.rmStatement n (Conn.removeStatement n w.st)) (hlog : w.log <+: w'.log)
    (hclosed : Kind.statements.Bare (Kind.statements.slot w.st n) ∨
      ∃ j, w.log.length ≤ j ∧ Kind.statements.Closed (Kind.statements.slot w.st n) n w'.log j) :
    Swept Nothing (· = n) w w' := by
  refine ⟨hlog, fun m => .inl ?_, Kind.swept_of_slot (fun m => ?_) hclosed⟩
  · rw [hst]
    rfl
  · rw [hst]
    exact slot_rmStatement w.st n m

theorem Inv.portal_bare {c : Conn} {log : Log} {n : String} (hw : Inv h c log)
    (hn : (c.resources.portals.lookup n).bind (·.bound) = none) : Kind.portals.Bare (Kind.portals.slot c n) := by
  refine ⟨hn, fun p hp => ?_⟩
  have hstored : c.store.portals.lookup n = some (.value p) := hp
  cases hw.portal n with
  | absent py stored => rw [stored] at hstored; cases hstored
  | empty s py stored => rw [stored] at hstored; cases hstored
  | bound s b p py => rw [py] at hn; cases hn

theorem Inv.statement_bare {c : Conn} {log : Log} {n : String} (hw : Inv h c log)
    (hn : ∀ st, c.store.statements.lookup n ≠ some (.value st)) :
    Kind.statements.Bare (Kind.statements.slot c n) := by
  refine ⟨?_, hn⟩
  show c.resources.statements.lookup n = none
  cases hw.statement n with
  | absent py => exact py
  | empty py => exact py
  | value st i py stored => exact absurd stored (hn st)

theorem closePortal_swept (hl : Live h s w) (n : String) :
    Prog.Sat (AtCall h s) (PyExtendedHandler.closePortal n) w
      (Ends (fun w' => Closed h s w [n] (w'.modify (Conn.rmPortal n)) ∧
          Swept (· = n) Nothing w (w'.modify (Conn.rmPortal n)))
        (fun w' => Closed h s w [] w' ∧ Swept (· = n) Nothing w w')) := by
  have hsweep : Prog.Sat (fun _ _ => True) (PyExtendedHandler.closePortal n) w
      (Ends (fun w' => Swept (· = n) Nothing w (w'.modify (Conn.rmPortal n))) (Swept (· = n) Nothing w)) := by
    simp only [PyExtendedHandler.closePortal, PyExtendedHandler.withClosing, Prog.sat_bind, Prog.sat_get,
      Prog.after_ok, hl.installed, if_true, Prog.sat_await, Prog.sat_andFinally, Prog.sat_modify, true_and]
    intro r
    cases hb : (w.st.resources.portals.lookup n).bind (·.bound) with
    | none =>
      simp only [Conn.lockClosing, World.modify_st, World.called_st, hb, Prog.sat_modify, ends_ok]
      refine swept_portal ?_ (List.prefix_append _ _) (.inl (hl.inv.portal_bare hb))
      exact congrArg (Conn.rmPortal n) (unlock_removePortal hl.inv.unlocked)
    | some b =>
      simp only [Conn.lockClosing, World.modify_st, World.called_st, hb, Prog.sat_bind, sat_callPython,
        Prog.after_ok, Prog.after_err, Prog.sat_modify, ends_ok, ends_err, true_and]
      refine ⟨fun r' => swept_portal ?_ ?_ (.inr ⟨w.log.length + 1, by omega, b, hb, ?_⟩), fun e => ?_⟩
      · exact congrArg (Conn.rmPortal n) (unlock_removePortal hl.inv.unlocked)
      · simp
      · simp [PortalClose]
      · exact .of_stores rfl rfl rfl (by simp)
  exact ((closePortal_sat hl n).both hsweep).post fun _ _ ho => ho.1.both ho.2

theorem closeEach_swept (hl : Live h s w) (names : List String) :
    Prog.Sat (AtCall h s) (PyExtendedHandler.closeEach names) w
      (Ends (fun w' => Closed h s w names w' ∧ Swept (· ∈ names) Nothing w w')
        (fun w' => Closed h s w [] w' ∧ Swept (· ∈ names) Nothing w w')) := by
  induction names generalizing w with
  | nil => exact ⟨hl.closed, .refl w⟩
  | cons n names ih =>
    have hfirst : ∀ m, m = n → m ∈ n :: names := by
      rintro m rfl
      exact List.mem_cons_self ..
    refine sat_seq (closePortal_swept hl n) (fun _ w1 hc => ?_) fun _ hc => ⟨hc.1, hc.2.mono hfirst fun _ => id⟩
    rw [Prog.sat_bind, Prog.sat_modify, Prog.after_ok]
    have hswept : ∀ {w2 : WireWorld}, Swept (· ∈ names) Nothing (w1.modify (Conn.rmPortal n)) w2 →
        Swept (· ∈ n :: names) Nothing w w2 :=
      fun hswept2 => (hc.2.mono hfirst fun _ => id).trans (hswept2.mono (fun _ => .tail n) fun _ => id)
    refine (ih hc.1.live).post fun _ _ ho => ho.imp (fun hc' => ?_) fun hc' => ?_
    · exact ⟨hc.1.trans hc'.1, hswept hc'.2⟩
    · exact ⟨(hc.1.trans hc'.1).nil, hswept hc'.2⟩

/-- The names that are listed are those of the portals that satisfy `p`. -/
theorem portalNames_swept (hl : Live h s w) (p : PortalEntry → Bool)
    {Q : Outcome PgWireError (List String) → WireWorld → Prop}
    (hQ : ∀ names w', Closed h s w [] w' → Swept Nothing Nothing w w' →
      (∀ n, n ∈ names ↔ ∃ e, w.st.resources.portals.lookup n = some e ∧ p e = true) → Q (.ok names) w') :
    Prog.Sat (AtCall h s) (PyExtendedHandler.portalNames p) w Q := by
  have hnames : Prog.Sat (fun _ _ => True) (PyExtendedHandler.portalNames p) w (fun o w' => ∃ names, o = .ok names ∧
      Swept Nothing Nothing w w' ∧ ∀ n, n ∈ names ↔ ∃ e, w.st.resources.portals.lookup n = some e ∧ p e = true) := by
    simp only [PyExtendedHandler.portalNames, Prog.sat_bind, Prog.sat_get, Prog.after_ok, hl.installed, if_true,
      Prog.sat_await, Prog.sat_pure, true_and]
    refine fun r => ⟨r.1, rfl, .called w _ r, fun n => ?_⟩
    rw [r.2.mem_iff, List.mem_map]
    constructor
    · rintro ⟨⟨n, e⟩, he, rfl⟩
      obtain ⟨hmem, hp⟩ := List.mem_filter.mp he
      exact ⟨e, AList.mem_lookup_iff.mpr hmem, hp⟩
    · rintro ⟨e, he, hp⟩
      exact ⟨⟨n, e⟩, List.mem_filter.mpr ⟨AList.mem_lookup_iff.mp he, hp⟩, rfl⟩
  have hlive : Prog.Sat (AtCall h s) (PyExtendedHandler.portalNames p) w fun _ w' => Closed h s w [] w' :=
    portalNames_sat hl p fun names w' hc _ => hc
  refine (hlive.both hnames).post ?_
  rintro o w' ⟨hc, names, rfl, hswept, hmem⟩
  exact hQ names w' hc hswept hmem

/-- No portal is left in either map. -/
def NoPortals (c : Conn) : Prop := c.resources.portals = ∅ ∧ c.store.portals = ∅

/-- Removing a name that is free changes nothing. -/
theorem Swept.rmPortal {P S : String → Prop} {n : String} (hl : Live h s w)
    (hn : w.st.resources.portals.lookup n = none) : Swept P S w (w.modify (Conn.rmPortal n)) := by
  refine ⟨List.prefix_refl _, fun m => .inl (Prod.ext rfl ?_), fun m => .inl rfl⟩
  show (Conn.rmPortal n w.st).store.portals.lookup m = w.st.store.portals.lookup m
  rw [show (Conn.rmPortal n w.st).store.portals.lookup m = _ from StrMap.lookup_erase_eq_if _ _ _]
  by_cases hm : m = n
  · rw [if_pos hm, hm, (portalObject_none_of_py hl.inv hn).2]
  · rw [if_neg hm]

theorem Live.noPortals (hl : Live h s w) (hnone : ∀ n, w.st.resources.portals.lookup n = none) : NoPortals w.st :=
  ⟨StrMap.eq_empty _ hnone, StrMap.eq_empty _ fun n => (portalObject_none_of_py hl.inv (hnone n)).2⟩

/-- **All portals go**, from both maps. -/
theorem closeAllPortals_swept (hl : Live h s w) :
    Prog.Sat (AtCall h s) PyExtendedHandler.closeAllPortals w
      (Ends (fun w' => (Live h s w' ∧ NoPortals w'.st) ∧ Swept (fun _ => True) Nothing w w')
        (fun w' => Live h s w' ∧ Swept (fun _ => True) Nothing w w')) := by
  rw [PyExtendedHandler.closeAllPortals, Prog.sat_bind]
  refine portalNames_swept hl _ fun names w1 hc1 hswept1 hmem => ?_
  replace hswept1 : Swept (fun _ => True) Nothing w w1 := hswept1.mono (fun _ _ => trivial) fun _ => id
  rw [Prog.after_ok]
  refine sat_seq (closeEach_swept hc1.live names) (fun _ w2 hc2 => ?_)
    fun _ hc2 => ⟨hc2.1.live, hswept1.trans (hc2.2.mono (fun _ _ => trivial) fun _ => id)⟩
  have hswept : Swept (fun _ => True) Nothing w w2 := hswept1.trans (hc2.2.mono (fun _ _ => trivial) fun _ => id)
  have hnone : ∀ n, w2.st.resources.portals.lookup n = none := by
    intro n
    by_cases hn : n ∈ names
    · exact hc2.1.gone n hn
    · have hbefore : w.st.resources.portals.lookup n = none := by
        cases he : w.st.resources.portals.lookup n with
        | none => rfl
        | some e => exact absurd ((hmem n).mpr ⟨e, he, rfl⟩) hn
      rcases hswept.portals n with hsame | ⟨-, hemptied⟩
      · exact (congrArg Prod.fst hsame).trans hbefore
      · exact congrArg Prod.fst hemptied.vacant
  have hlast := hc2.1.live.rmPortal (hnone defaultName)
  exact ⟨⟨hlast.live, hlast.live.noPortals hnone⟩, hswept.trans (.rmPortal hc2.1.live (hnone defaultName))⟩

/-- **A statement goes after its portals**, and nothing else goes. -/
theorem closeStatement_swept (hl : Live h s w) (n : String) :
    Prog.Sat (AtCall h s) (h.closeStatement n) w
      (Ends (fun w' => StatementGone h s n w' ∧ Swept (BoundOn w.st n) (· = n) w w')
        (fun w' => Live h s w' ∧ Swept (BoundOn w.st n) (· = n) w w')) := by
  have hsweep : Prog.Sat (fun _ _ => True) (h.closeStatement n) w
      (Ends (Swept (BoundOn w.st n) (· = n) w) (Swept (BoundOn w.st n) (· = n) w)) := by
    simp only [PyExtendedHandler.closeStatement, Prog.sat_bind, Prog.sat_get, Prog.after_ok, hl.installed, if_true]
    refine (portalNames_swept hl _ fun names w1 hc1 hswept1 hmem => ?_).anywhere
    have hbound : ∀ m, m ∈ names → BoundOn w.st n m := by
      intro m hm
      obtain ⟨e, he, hname⟩ := (hmem m).mp hm
      exact ⟨e, he, of_decide_eq_true hname⟩
    replace hswept1 : Swept (BoundOn w.st n) (· = n) w w1 := hswept1.mono (fun _ => False.elim) fun _ => False.elim
    simp only [Prog.after_ok, Prog.sat_bind]
    refine (closeEach_swept hc1.live names).anywhere.post ?_
    rintro (_ | e | _) w2 hc2
    · have hl2 := hc2.1.live
      have hswept2 : Swept (BoundOn w.st n) (· = n) w w2 := hswept1.trans (hc2.2.mono hbound fun _ => False.elim)
      have gone : ∀ {w3 : WireWorld},
          w3.st = (Conn.rmStatement n (Conn.removeStatement n w2.st.lockClosing)).unlockClosing → w2.log <+: w3.log →
          (Kind.statements.Bare (Kind.statements.slot w2.st n) ∨
            ∃ j, w2.log.length ≤ j ∧ Kind.statements.Closed (Kind.statements.slot w2.st n) n w3.log j) →
          Swept (BoundOn w.st n) (· = n) w w3 := by
        intro w3 hst hlog hclosed
        rw [unlock_rmStatement hl2.inv.unlocked] at hst
        exact hswept2.trans ((swept_statement hst hlog hclosed).mono (fun _ => False.elim) fun _ => id)
      simp only [Prog.after_ok, PyExtendedHandler.withClosing, Prog.sat_bind, Prog.sat_await, Prog.sat_andFinally,
        Prog.sat_modify, Prog.sat_get, true_and]
      intro r
      cases hst : w2.st.store.statements.lookup n with
      | none =>
        simp only [Conn.lockClosing, World.modify_st, World.called_st, hst]
        exact gone rfl (List.prefix_append _ _) (.inl (hl2.inv.statement_bare fun st => by simp [hst]))
      | some entry =>
        cases entry with
        | empty =>
          simp only [Conn.lockClosing, World.modify_st, World.called_st, hst]
          exact gone rfl (List.prefix_append _ _) (.inl (hl2.inv.statement_bare fun st => by simp [hst]))
        | value st =>
          obtain ⟨i, hi, hpy⟩ : ∃ i, h.instanceFor w2.st = some i ∧ w2.st.resources.statements.lookup n = some i := by
            cases hl2.inv.statement n with
            | absent py stored => rw [stored] at hst; cases hst
            | empty py stored => rw [stored] at hst; cases hst
            | value st' i py stored object id inst => exact ⟨i, inst, py⟩
          have hi' : h.instanceFor { w2.st with resources := { w2.st.resources with closing := true } } = some i := hi
          simp only [Conn.lockClosing, World.modify_st, World.called_st, hst, hi', Prog.sat_bind, sat_callPython,
            Prog.after_ok, Prog.after_err, Prog.sat_modify, ends_ok, ends_err, true_and]
          refine ⟨fun r' => gone rfl ?_ (.inr ⟨w2.log.length + 1, by omega, i, hpy, ?_⟩), fun e => ?_⟩
          · simp
          · simp [StatementClose]
          · exact hswept2.trans (.of_stores rfl rfl rfl (by simp))
    · exact hswept1.trans (hc2.2.mono hbound fun _ => False.elim)
    · exact hc2
  refine ((closeStatement_sat hl n).both hsweep).post fun _ _ ho => (ho.1.both ho.2).imp id fun hc => ?_
  exact ⟨hc.1.live, hc.2⟩

end Close

/-! ### Parse and Bind -/

section Handlers

variable {h : PyExtendedHandler} {s : Option PyInstance} {w : WireWorld}

/-- A statement enters the maps. -/
theorem confined_statement {w' : WireWorld} {name : String} (hportals : w'.st.resources.portals = w.st.resources.portals)
    (hstored : w'.st.store.portals = w.st.store.portals)
    (hslot : ∀ m, m ≠ name → Kind.statements.slot w'.st m = Kind.statements.slot w.st m) :
    Confined Nothing (· = name) w w' := by
  refine ⟨fun m => .inl ?_, Kind.confined_of_slot hslot⟩
  simp only [Kind.portals, hportals, hstored]

/-- A portal enters the maps. -/
theorem confined_portal {w' : WireWorld} {name : String}
    (hstatements : w'.st.resources.statements = w.st.resources.statements)
    (hstored : w'.st.store.statements = w.st.store.statements)
    (hslot : ∀ m, m ≠ name → Kind.portals.slot w'.st m = Kind.portals.slot w.st m) :
    Confined (· = name) Nothing w w' := by
  refine ⟨Kind.confined_of_slot hslot, fun m => .inl ?_⟩
  simp only [Kind.statements, hstatements, hstored]

/-- The statement kept under a name is new: no call before this message created it. -/
def NewStatement (name : String) (w w' : WireWorld) : Prop :=
  ∃ entry, w'.st.store.statements.lookup name = some entry ∧ ∀ st, entry = .value st → w.log.length ≤ st.statement

/-- The portal kept under a name is new, and made from the statement `statementName`. -/
def NewPortal (name statementName : String) (w w' : WireWorld) : Prop :=
  ∃ e, w'.st.resources.portals.lookup name = some e ∧ e.statementName = statementName ∧
    ∀ b, e.bound = some b → w.log.length ≤ b.portal

theorem storeParsed_swept (hl : Live h s w) {name : String} (hfree : w.st.store.statements.lookup name = none)
    (message : Parse) : Prog.Sat (AtCall h s) (h.storeParsed name message) w
      (Ends (fun w' => Live h s w' ∧ Confined Nothing (· = name) w w' ∧ NewStatement name w w')
        (fun w' => Live h s w' ∧ Swept Nothing Nothing w w')) := by
  have hsweep : Prog.Sat (fun _ _ => True) (h.storeParsed name message) w
      (Ends (fun w' => Confined Nothing (· = name) w w' ∧ NewStatement name w w') (Swept Nothing Nothing w)) := by
    unfold PyExtendedHandler.storeParsed
    by_cases hempty : isEmptyQuery message.query = true
    · simp only [if_pos hempty, Prog.sat_bind, Prog.sat_modify, Prog.after_ok, Prog.sat_await, true_and]
      intro r
      refine ⟨confined_statement rfl rfl fun m hm => Prod.ext rfl ?_, .empty, ?_, fun st he => by cases he⟩
      · exact AList.lookup_insert_ne hm
      · exact AList.lookup_insert _
    · simp only [if_neg hempty, Prog.sat_bind, Prog.sat_get, Prog.after_ok]
      cases hi : h.instanceFor w.st with
      | none =>
        simp only [PyExtendedHandler.parseStatement, Prog.sat_fail, Prog.after_err]
        exact Swept.refl w
      | some i =>
        simp only [PyExtendedHandler.parseStatement, sat_callPythonRef, true_and]
        refine ⟨fun r => ?_, fun e => Swept.called w _ _⟩
        simp only [Prog.after_ok, Outcome.expect_some, Prog.sat_bind, Prog.sat_ofOutcome,
          PyExtendedHandler.expectResources, Prog.sat_get, World.called_st, hl.installed, if_true, Prog.sat_pure,
          Prog.sat_modify, Prog.sat_await, true_and]
        intro r'
        let types := message.typeOids.map fun oid => if oid = 0 then none else some (pgType oid)
        refine ⟨confined_statement rfl rfl fun m hm => Prod.ext ?_ ?_, .value ⟨name, w.log.length, types⟩, ?_, ?_⟩
        · exact AList.lookup_insert_ne hm
        · exact AList.lookup_insert_ne hm
        · exact AList.lookup_insert _
        · rintro st ⟨⟩
          exact Nat.le_refl _
  exact ((storeParsed_sat hl hfree message).both hsweep).post fun _ _ ho => Ends.both ho.1 ho.2

/-- The portals that a Parse closes: those of the unnamed statement, if that is replaced. -/
def ReplacedBy (c : Conn) (name n : String) : Prop := name = defaultName ∧ BoundOn c name n

theorem onParse_swept (hl : Live h s w) (message : Parse) :
    Prog.Sat (AtCall h s) (h.onParse message) w
      (Ends (fun w' => Live h s w' ∧
          Confined (ReplacedBy w.st (message.name.getD defaultName)) (· = message.name.getD defaultName) w w' ∧
          Kind.portals.Shrinks w w' ∧ NewStatement (message.name.getD defaultName) w w')
        (fun w' => Live h s w' ∧
          Swept (ReplacedBy w.st (message.name.getD defaultName)) (· = message.name.getD defaultName) w w')) := by
  simp only [PyExtendedHandler.onParse, Prog.sat_bind, Prog.sat_get, Prog.after_ok]
  generalize message.name.getD defaultName = name
  by_cases hname : name = defaultName
  · have hreplaced : ∀ n, BoundOn w.st name n → ReplacedBy w.st name n := fun n hn => ⟨hname, hn⟩
    simp only [if_pos hname]
    refine sat_seq (closeStatement_swept hl name) (fun _ w1 hc => ?_)
      fun _ hc => ⟨hc.1, hc.2.mono hreplaced fun _ => id⟩
    have hswept := hc.2.mono hreplaced fun _ => id
    refine (storeParsed_swept hc.1.live hc.1.gone message).post fun _ _ ho => ho.imp (fun hp => ?_) fun hp => ?_
    · obtain ⟨entry, hentry, hnew⟩ := hp.2.2
      exact ⟨hp.1, hswept.confined.trans (hp.2.1.mono (fun _ => False.elim) fun _ => id),
        hswept.portals.shrinks.keep hp.2.1.portals, entry, hentry,
        fun st hst => Nat.le_trans hc.2.log.length_le (hnew st hst)⟩
    · exact ⟨hp.1, hswept.trans (hp.2.mono (fun _ => False.elim) fun _ => False.elim)⟩
  · simp only [if_neg hname]
    by_cases hused : (w.st.store.statements.lookup name).isSome = true
    · simp only [if_pos hused, Prog.sat_fail]
      exact ⟨hl, .refl w⟩
    · simp only [if_neg hused]
      refine (storeParsed_swept hl (by simpa using hused) message).post fun _ _ ho => ho.imp (fun hp => ?_) fun hp => ?_
      · exact ⟨hp.1, hp.2.1.mono (fun _ => False.elim) fun _ => id, fun n => .inl ((hp.2.1.portals n).resolve_right id),
          hp.2.2⟩
      · exact ⟨hp.1, hp.2.mono (fun _ => False.elim) fun _ => False.elim⟩

theorem onBind_swept (hl : Live h s w) (message : Bind) :
    Prog.Sat (AtCall h s) (h.onBind message) w
      (Ends (fun w' => Live h s w' ∧ Confined (· = message.portalName.getD defaultName) Nothing w w' ∧
          NewPortal (message.portalName.getD defaultName) (message.statementName.getD defaultName) w w')
        (fun w' => Live h s w' ∧ Swept (· = message.portalName.getD defaultName) Nothing w w')) := by
  have hsweep : Prog.Sat (fun _ _ => True) (h.onBind message) w
      (Ends (fun w' => Confined (· = message.portalName.getD defaultName) Nothing w w' ∧
          NewPortal (message.portalName.getD defaultName) (message.statementName.getD defaultName) w w')
        (Swept (· = message.portalName.getD defaultName) Nothing w)) := by
    simp only [PyExtendedHandler.onBind, Prog.sat_bind, Prog.sat_get, Prog.after_ok]
    generalize message.statementName.getD defaultName = statementName
    split
    · exact Swept.refl w
    split
    · exact Swept.refl w
    split
    · rename_i statement hst
      simp only [PyExtendedHandler.portalTryNew, Prog.sat_bind, Prog.sat_await, Prog.after_ok, Prog.sat_ofExcept,
        Prog.sat_pure, Prog.sat_ofOutcome, Prog.after_err, true_and]
      refine fun r => ⟨fun _ _ => ?_, fun _ _ => Swept.called w _ r⟩
      have hl1 : Live h s (w.called (.tryNewPortal message) r) := hl.quiet (quiet_of_plain rfl)
      cases hi : h.instanceFor w.st with
      | none => exact Swept.called w _ r
      | some i =>
        simp only [Outcome.okOr_some, Prog.after_ok, Prog.sat_bind]
        refine (closePortal_swept hl1 _).anywhere.post ?_
        rintro (_ | e | _) w2 hc
        · replace hc := (ends_ok _).mp hc
          simp only [Prog.after_ok, Prog.sat_bind, Prog.sat_modify, PyExtendedHandler.bindPortal, sat_callPythonRef,
            true_and]
          generalize w2.modify (Conn.rmPortal (message.portalName.getD defaultName)) = w3 at hc ⊢
          have hswept := (Swept.called w (.tryNewPortal message) r).trans hc.2
          refine ⟨fun r' => ?_, fun e => hswept.trans (.called w3 _ _)⟩
          simp only [Prog.after_ok, PyExtendedHandler.expectResources, Prog.sat_bind, Prog.sat_get, World.called_st,
            hc.1.live.installed, if_true, Prog.sat_pure, Prog.sat_modify, Prog.sat_await, true_and]
          intro r''
          refine ⟨hswept.confined.trans (confined_portal rfl rfl fun m hm => Prod.ext ?_ ?_),
            ⟨statementName, some ⟨i, w3.log.length⟩⟩, ?_, rfl, ?_⟩
          · exact AList.lookup_insert_ne hm
          · exact AList.lookup_insert_ne hm
          · exact AList.lookup_insert _
          · rintro b ⟨⟩
            exact hswept.log.length_le
        · exact (Swept.called w _ r).trans hc.2
        · exact hc
    · split
      · exact Swept.refl w
      simp only [Prog.sat_bind]
      refine (closePortal_swept hl _).anywhere.post ?_
      rintro (_ | e | _) w2 hc
      · replace hc := (ends_ok _).mp hc
        simp only [Prog.after_ok, Prog.sat_bind, Prog.sat_modify]
        generalize w2.modify (Conn.rmPortal (message.portalName.getD defaultName)) = w3 at hc ⊢
        simp only [PyExtendedHandler.expectResources, Prog.sat_bind, Prog.sat_get, Prog.after_ok,
          hc.1.live.installed, if_true, Prog.sat_pure, Prog.sat_modify, Prog.sat_await, true_and]
        intro r
        refine ⟨hc.2.confined.trans (confined_portal rfl rfl fun m hm => Prod.ext ?_ ?_), ⟨statementName, none⟩, ?_,
          rfl, fun b hb => by cases hb⟩
        · exact AList.lookup_insert_ne hm
        · exact AList.lookup_insert_ne hm
        · exact AList.lookup_insert _
      · exact hc.2
      · exact hc
    · exact Swept.refl w
  exact ((onBind_sat hl message).both hsweep).post fun _ _ ho => Ends.both ho.1 ho.2

/-! ### Sync and Close -/

theorem onSync_swept (hl : Live h s w) : Prog.Sat (AtCall h s) PyExtendedHandler.onSync w
    (Ends (fun w' => Live h s w' ∧ Swept (fun _ => w.st.transactionStatus = .idle) Nothing w w' ∧
        (w.st.transactionStatus ≠ .idle → w'.st = w.st) ∧ (w'.st.transactionStatus = .idle → NoPortals w'.st))
      (fun w' => Live h s w' ∧ Swept (fun _ => w.st.transactionStatus = .idle) Nothing w w' ∧
        (w.st.transactionStatus ≠ .idle → w'.st = w.st))) := by
  have answer : ∀ {w' : WireWorld} {Q : Outcome PgWireError Unit → WireWorld → Prop}, Live h s w' →
      (∀ w'', Live h s w'' → w''.st = w'.st → w'.log <+: w''.log → Q (.ok ()) w'') → Prog.Sat (AtCall h s)
      (do
        let client ← Prog.get
        send (.readyForQuery client.transactionStatus)
        await .flush) w' Q := by
    intro w' Q hl' hQ
    simp only [Prog.sat_bind, Prog.sat_get, Prog.after_ok, Prog.sat_await]
    refine ⟨atCall_of_plain hl'.inv rfl, fun r => ?_⟩
    have hl1 : Live h s (w'.called (.send (.readyForQuery w'.st.transactionStatus)) r) := hl'.quiet (quiet_of_plain rfl)
    refine ⟨atCall_of_plain hl1.inv rfl, fun r' => hQ _ (hl1.quiet (quiet_of_plain rfl)) rfl ?_⟩
    simp
  simp only [PyExtendedHandler.onSync, Prog.sat_bind, Prog.sat_get, Prog.after_ok]
  by_cases hidle : w.st.transactionStatus = .idle
  · simp only [if_pos hidle]
    refine sat_seq (closeAllPortals_swept hl) (fun _ w1 hc => ?_)
      fun _ hc => ⟨hc.1, hc.2.mono (fun _ _ => hidle) fun _ => id, fun hne => absurd hidle hne⟩
    refine answer hc.1.1 fun w2 hl2 hst hlog => ?_
    have hend : Swept (fun _ => True) Nothing w1 w2 := .of_stores (by rw [hst]) (by rw [hst]) (by rw [hst]) hlog
    exact ⟨hl2, (hc.2.trans hend).mono (fun _ _ => hidle) fun _ => id, fun hne => absurd hidle hne,
      fun _ => by rw [hst]; exact hc.1.2⟩
  · simp only [if_neg hidle]
    refine answer hl fun w2 hl2 hst hlog => ?_
    exact ⟨hl2, .of_stores (by rw [hst]) (by rw [hst]) (by rw [hst]) hlog, fun _ => hst,
      fun h => absurd (hst ▸ h) hidle⟩

/-- The portals that a Close of the target closes. -/
def Target.Portals (message : Target) (c : Conn) (n : String) : Prop :=
  if message.targetType = targetTypeByteStatement then BoundOn c (message.name.getD defaultName) n
  else message.targetType = targetTypeBytePortal ∧ n = message.name.getD defaultName

/-- The statements that a Close of the target closes. -/
def Target.Statements (message : Target) (n : String) : Prop :=
  message.targetType = targetTypeByteStatement ∧ n = message.name.getD defaultName

theorem onClose_swept (hl : Live h s w) (message : Target) :
    Prog.Sat (AtCall h s) (h.onClose message) w
      (Ends (fun w' => Live h s w' ∧ Swept (message.Portals w.st) message.Statements w w')
        (fun w' => Live h s w' ∧ Swept (message.Portals w.st) message.Statements w w')) := by
  have complete : ∀ {w' : WireWorld}, Live h s w' → Swept (message.Portals w.st) message.Statements w w' →
      Prog.Sat (AtCall h s) (send .closeComplete) w'
        (Ends (fun w'' => Live h s w'' ∧ Swept (message.Portals w.st) message.Statements w w'')
          (fun w'' => Live h s w'' ∧ Swept (message.Portals w.st) message.Statements w w'')) := by
    intro w' hl' hswept
    rw [Prog.sat_await]
    exact ⟨atCall_of_plain hl'.inv rfl, fun r => ⟨hl'.quiet (quiet_of_plain rfl), hswept.trans (.called w' _ r)⟩⟩
  simp only [PyExtendedHandler.onClose]
  by_cases hstatement : message.targetType = targetTypeByteStatement
  · have hP : ∀ n, BoundOn w.st (message.name.getD defaultName) n → message.Portals w.st n := by
      intro n hn
      rwa [Target.Portals, if_pos hstatement]
    have hS : ∀ n, n = message.name.getD defaultName → message.Statements n := fun n hn => ⟨hstatement, hn⟩
    rw [if_pos hstatement]
    exact sat_seq (closeStatement_swept hl _) (fun _ w1 hc => complete hc.1.live (hc.2.mono hP hS))
      fun _ hc => ⟨hc.1, hc.2.mono hP hS⟩
  · rw [if_neg hstatement]
    by_cases hportal : message.targetType = targetTypeBytePortal
    · have hP : ∀ n, n = message.name.getD defaultName → message.Portals w.st n := by
        intro n hn
        rw [Target.Portals, if_neg hstatement]
        exact ⟨hportal, hn⟩
      rw [if_pos hportal]
      refine sat_seq (closePortal_swept hl _) (fun _ w1 hc => ?_)
        fun _ hc => ⟨hc.1.live, hc.2.mono hP fun _ => False.elim⟩
      rw [Prog.sat_bind, Prog.sat_modify, Prog.after_ok]
      exact complete hc.1.live (hc.2.mono hP fun _ => False.elim)
    · rw [if_neg hportal]
      exact ⟨hl, .refl w⟩

/-! ### Queries -/

/-- The event at `j` is a query whose responses end the transaction. -/
def CommitAt (log : Log) (j : ℕ) : Prop :=
  (∃ on query responses, log[j]? = some (.called (.python (.simpleDoQuery on query)) (.ok responses)) ∧
    ∃ r ∈ responses, r.EndsTransaction) ∨
  ∃ on portal maxRows response, log[j]? = some (.called (.python (.doQuery on portal maxRows)) (.ok response)) ∧
    response.EndsTransaction

/-- A query ended the transaction between two states. -/
def TransactionEnded (w w' : WireWorld) : Prop := ∃ j, w.log.length ≤ j ∧ CommitAt w'.log j

theorem TransactionEnded.later {w1 w2 : WireWorld} (h : TransactionEnded w w1) (hlog : w1.log <+: w2.log) :
    TransactionEnded w w2 := by
  obtain ⟨j, hj, ⟨on, query, responses, he, hend⟩ | ⟨on, portal, maxRows, response, he, hend⟩⟩ := h
  · exact ⟨j, hj, .inl ⟨on, query, responses, getElem?_of_prefix hlog he, hend⟩⟩
  · exact ⟨j, hj, .inr ⟨on, portal, maxRows, response, getElem?_of_prefix hlog he, hend⟩⟩

theorem TransactionEnded.earlier {w1 w2 : WireWorld} (h : TransactionEnded w1 w2) (hlog : w.log <+: w1.log) :
    TransactionEnded w w2 := by
  obtain ⟨j, hj, hcommit⟩ := h
  exact ⟨j, Nat.le_trans hlog.length_le hj, hcommit⟩

/-- How a query ends: only the end of a transaction closes portals, and then it closes them all. -/
def Queried {α : Type} (h : PyExtendedHandler) (s : Option PyInstance) (ends : α → Prop) (w : WireWorld)
    (o : Outcome PgWireError α) (w' : WireWorld) : Prop :=
  Ends (fun w' => Live h s w' ∧ Swept (fun _ => TransactionEnded w w') Nothing w w')
    (fun w' => Live h s w' ∧ Swept (fun _ => TransactionEnded w w') Nothing w w') o w' ∧
      ∀ a, o = .ok a → ends a → NoPortals w'.st

/-- The closing of the portals behind a response that may end the transaction. -/
theorem closeEnded_swept {α : Type} (hl : Live h s w) (a : α) {ends : α → Prop} {closes : Bool} {w0 : WireWorld}
    (hw : Swept Nothing Nothing w0 w) (hends : ends a → closes = true) (hcommit : closes = true → TransactionEnded w0 w) :
    Prog.Sat (AtCall h s) (do
      if closes = true then PyExtendedHandler.closeAllPortals else pure ()
      return a : Proc α) w (Queried h s ends w0) := by
  have hstart : ∀ {P : String → Prop}, Swept P Nothing w0 w := hw.mono (fun _ => False.elim) fun _ => id
  by_cases hcloses : closes = true
  · rw [if_pos hcloses, Prog.sat_bind]
    refine (closeAllPortals_swept hl).post ?_
    rintro (_ | e | _) w1 hc
    · have hended : TransactionEnded w0 w1 := (hcommit hcloses).later hc.2.log
      exact ⟨⟨hc.1.1, hstart.trans (hc.2.mono (fun _ _ => hended) fun _ => id)⟩, fun _ _ _ => hc.1.2⟩
    · have hended : TransactionEnded w0 w1 := (hcommit hcloses).later hc.2.log
      exact ⟨⟨hc.1, hstart.trans (hc.2.mono (fun _ _ => hended) fun _ => id)⟩, by simp⟩
    · exact hc.elim
  · rw [if_neg hcloses]
    refine ⟨⟨hl, hstart⟩, ?_⟩
    rintro _ ⟨⟩ hends'
    exact absurd (hends hends') hcloses

theorem simpleDoQuery_swept (hl : Live h s w) (query : String) :
    Prog.Sat (AtCall h s) (PyServerSimpleQueryHandler.doQuery query) w
      (Queried h s (fun responses : List Response => responses.any Response.isTransactionEnd = true) w) := by
  simp only [PyServerSimpleQueryHandler.doQuery, Prog.sat_bind, Prog.sat_get, Prog.after_ok, sat_callPython,
    Prog.after_err]
  refine ⟨hl.callback trivial rfl (fun session hs => by rw [hl.pySession, hs]) rfl, fun r => ?_, fun e => ?_⟩
  · refine closeEnded_swept (hl.quiet (quiet_of_on rfl rfl rfl)) _ (.called w _ _) id fun hend => ?_
    obtain ⟨_, hmem, hresponse⟩ := List.any_eq_true.mp hend
    obtain ⟨response, hr, rfl⟩ := List.mem_map.mp hmem
    refine ⟨w.log.length, Nat.le_refl _, .inl ⟨_, query, r, by simp, response, hr, ?_⟩⟩
    exact response.isTransactionEnd_intoPg.mp hresponse
  · exact ⟨⟨hl.quiet (quiet_of_on rfl rfl rfl), .called w _ _⟩, by simp⟩

theorem doQuery_swept (hl : Live h s w) (portal : Portal) (maxRows : ℕ) :
    Prog.Sat (AtCall h s) (h.doQuery portal maxRows) w
      (Queried h s (fun response : Response => response.isTransactionEnd = true) w) := by
  simp only [PyExtendedHandler.doQuery, Prog.sat_bind, Prog.sat_get, Prog.after_ok]
  cases hi : h.instanceFor w.st with
  | none => exact ⟨⟨hl, .refl w⟩, by simp⟩
  | some i =>
    simp only [Prog.sat_bind, Prog.sat_ofOutcome]
    cases hp : PyExtendedHandler.portalFor w.st portal.name with
    | ok py =>
      simp only [Prog.after_ok, Prog.sat_bind, sat_callPython, Prog.after_err]
      refine ⟨hl.callback (portalFor_open hl.inv hp hi) rfl (instanceFor_session hi hl.pySession) rfl,
        fun r => ?_, fun e => ?_⟩
      · refine closeEnded_swept (hl.quiet (quiet_of_on rfl rfl rfl)) _ (.called w _ _) id fun hend => ?_
        exact ⟨w.log.length, Nat.le_refl _, .inr ⟨i, py, maxRows, r, by simp, r.isTransactionEnd_intoPg.mp hend⟩⟩
      · exact ⟨⟨hl.quiet (quiet_of_on rfl rfl rfl), .called w _ _⟩, by simp⟩
    | err e => exact ⟨⟨hl, .refl w⟩, by simp⟩
    | panic => exact absurd hp (portalFor_ne_panic _ _)

/-- Responses are written and the transaction status changes; the maps do not. -/
theorem sendResponses_swept {P S : String → Prop} (hl : Live h s w) (responses : List Response) :
    Prog.Sat (AtCall h s) (PyExtendedHandler.sendResponses responses) w
      (Ends (fun w' => Live h s w' ∧ Swept P S w w') (fun w' => Live h s w' ∧ Swept P S w w')) := by
  have hsweep : Prog.Sat (fun _ _ => True) (PyExtendedHandler.sendResponses responses) w
      (Ends (Swept P S w) (Swept P S w)) := by
    simp only [PyExtendedHandler.sendResponses, Prog.sat_bind, Prog.sat_await, Prog.after_ok, Prog.sat_modify,
      Prog.sat_ofExcept, true_and]
    intro r
    have hswept : Swept P S w ⟨{ w.st with transactionStatus := r.transactionStatus }, _⟩ :=
      .of_stores rfl rfl rfl (List.prefix_append w.log [.called (.sendResponses responses) r])
    exact ⟨fun _ _ => hswept, fun _ _ => hswept⟩
  exact ((sendResponses_sat hl responses).both hsweep).post fun _ _ ho => Ends.both ho.1 ho.2

/-- A query that touched the maps, and then only wrote. -/
theorem Swept.ended {w1 w2 : WireWorld} (h : Swept (fun _ => TransactionEnded w w1) Nothing w w1)
    (h' : Swept Nothing Nothing w1 w2) : Swept (fun _ => TransactionEnded w w2) Nothing w w2 :=
  (h.mono (fun _ hn => hn.later h'.log) fun _ => id).trans (h'.mono (fun _ => False.elim) fun _ => id)

/-- Something that left the maps alone, and then a query. -/
theorem Swept.ending {w1 w2 : WireWorld} (h : Swept Nothing Nothing w w1)
    (h' : Swept (fun _ => TransactionEnded w1 w2) Nothing w1 w2) : Swept (fun _ => TransactionEnded w w2) Nothing w w2 :=
  (h.mono (fun _ => False.elim) fun _ => id).trans (h'.mono (fun _ hn => hn.earlier h.log) fun _ => id)

/-- The responses of a query are written. -/
theorem sendResponses_ended {w1 : WireWorld} (hl : Live h s w1)
    (hswept : Swept (fun _ => TransactionEnded w w1) Nothing w w1) (responses : List Response) :
    Prog.Sat (AtCall h s) (PyExtendedHandler.sendResponses responses) w1
      (Ends (fun w' => Live h s w' ∧ Swept (fun _ => TransactionEnded w w') Nothing w w')
        (fun w' => Live h s w' ∧ Swept (fun _ => TransactionEnded w w') Nothing w w')) := by
  refine (sendResponses_swept (P := Nothing) (S := Nothing) hl responses).post fun _ _ ho => ho.imp ?_ ?_
  · exact fun hc => ⟨hc.1, hswept.ended hc.2⟩
  · exact fun hc => ⟨hc.1, hswept.ended hc.2⟩

theorem onExecute_swept (hl : Live h s w) (message : Execute) :
    Prog.Sat (AtCall h s) (h.onExecute message) w
      (Ends (fun w' => Live h s w' ∧ Swept (fun _ => TransactionEnded w w') Nothing w w')
        (fun w' => Live h s w' ∧ Swept (fun _ => TransactionEnded w w') Nothing w w')) := by
  simp only [PyExtendedHandler.onExecute, Prog.sat_bind, Prog.sat_get, Prog.after_ok]
  cases hstored : w.st.store.portals.lookup (message.name.getD defaultName) with
  | none => exact ⟨hl, .refl w⟩
  | some entry =>
    cases entry with
    | empty =>
      exact sendResponses_ended hl (.refl w) _
    | value portal =>
      simp only [Prog.sat_bind, Prog.sat_await, Prog.after_ok]
      refine ⟨atCall_of_plain hl.inv rfl, fun r => ?_⟩
      have hl1 : Live h s (w.called (.resumesPortal (message.name.getD defaultName)) r) := hl.quiet (quiet_of_plain rfl)
      have hstart : Swept Nothing Nothing w (w.called (.resumesPortal (message.name.getD defaultName)) r) := .called w _ r
      by_cases hresumes : r = true
      · rw [if_pos hresumes]
        exact sendResponses_ended hl1 (hstart.mono (fun _ => False.elim) fun _ => id) _
      · rw [if_neg hresumes, Prog.sat_bind]
        refine (doQuery_swept hl1 portal message.maxRows).post ?_
        rintro (response | e | _) w1 ⟨hc, -⟩
        · exact sendResponses_ended hc.1 (hstart.ending hc.2) _
        · exact ⟨hc.1, hstart.ending hc.2⟩
        · exact hc

theorem innerOnQuery_swept (hl : Live h s w) (query : String) :
    Prog.Sat (AtCall h s) (PyServerSimpleQueryHandler._onQuery query) w
      (Ends (fun w' => Live h s w' ∧ Swept (fun _ => TransactionEnded w w') Nothing w w')
        (fun w' => Live h s w' ∧ Swept (fun _ => TransactionEnded w w') Nothing w w')) := by
  have finish : ∀ {w' : WireWorld}, Live h s w' → Swept (fun _ => TransactionEnded w w') Nothing w w' →
      Prog.Sat (AtCall h s)
        (do
          Prog.modify fun client => { client with state := .readyForQuery }
          let client ← Prog.get
          send (.readyForQuery client.transactionStatus)) w'
        (Ends (fun w'' => Live h s w'' ∧ Swept (fun _ => TransactionEnded w w'') Nothing w w'')
          (fun w'' => Live h s w'' ∧ Swept (fun _ => TransactionEnded w w'') Nothing w w'')) := by
    intro w' hl' hswept
    have hl1 : Live h s (w'.modify fun client => { client with state := .readyForQuery }) :=
      hl'.congr rfl rfl rfl rfl rfl
    simp only [Prog.sat_bind, Prog.sat_modify, Prog.after_ok, Prog.sat_get, Prog.sat_await]
    refine ⟨atCall_of_plain hl1.inv rfl, fun r => ⟨hl1.quiet (quiet_of_plain rfl), hswept.ended ?_⟩⟩
    exact .of_stores rfl rfl rfl (List.prefix_append _ _)
  simp only [PyServerSimpleQueryHandler._onQuery, Prog.sat_bind, Prog.sat_modify, Prog.after_ok, Prog.sat_await]
  have hl1 : Live h s (w.modify fun client => { client with state := .queryInProgress }) :=
    hl.congr rfl rfl rfl rfl rfl
  refine ⟨atCall_of_plain hl1.inv rfl, fun r => ?_⟩
  have hl2 := hl1.quiet (c := .isEmptySimpleQuery query) (r := r) (quiet_of_plain rfl)
  have hstart : Swept Nothing Nothing w ((w.modify fun client => { client with state := .queryInProgress }).called
      (.isEmptySimpleQuery query) r) := .of_stores rfl rfl rfl (List.prefix_append _ _)
  by_cases hempty : r = true
  · rw [if_pos hempty]
    exact sat_seq (sendResponses_ended hl2 (hstart.mono (fun _ => False.elim) fun _ => id) _)
      (fun _ w3 hc => finish hc.1 hc.2) fun _ hc => hc
  · rw [if_neg hempty]
    simp only [Prog.sat_bind]
    refine (simpleDoQuery_swept hl2 query).post ?_
    rintro (responses | e | _) w3 ⟨hc, -⟩
    · exact sat_seq (sendResponses_ended hc.1 (hstart.ending hc.2) responses) (fun _ w4 hc' => finish hc'.1 hc'.2)
        fun _ hc' => hc'
    · exact ⟨hc.1, hstart.ending hc.2⟩
    · exact hc

/-- Closing portals leaves the transaction status alone. -/
theorem closePortal_spares (n : String) :
    Prog.Spares Conn.transactionStatus (PyExtendedHandler.closePortal n) := by
  refine Prog.spares_get.bind fun client => ?_
  by_cases hi : client.installed = true
  · rw [if_pos hi]
    have hremove : Prog.Spares Conn.transactionStatus (Prog.modify (Conn.removePortal n) : Proc Unit) :=
      Prog.spares_modify (f := Conn.removePortal n) fun _ => rfl
    refine (Prog.spares_await _).bind fun _ => Prog.Spares.andFinally ?_ fun _ => rfl
    refine (Prog.spares_modify (f := Conn.lockClosing) fun _ => rfl).bind fun _ => Prog.spares_get.bind fun client => ?_
    cases (client.resources.portals.lookup n).bind (·.bound) with
    | none => exact hremove
    | some bound => exact (callPython_spares _ _).bind fun _ => hremove
  · rw [if_neg hi]
    exact Prog.spares_pure _

theorem closeAllPortals_spares : Prog.Spares Conn.transactionStatus PyExtendedHandler.closeAllPortals := by
  have each : ∀ names, Prog.Spares Conn.transactionStatus (PyExtendedHandler.closeEach names) := by
    intro names
    induction names with
    | nil => exact Prog.spares_pure _
    | cons n names ih =>
      exact (closePortal_spares n).bind fun _ =>
        (Prog.spares_modify (f := Conn.rmPortal n) fun _ => rfl).bind fun _ => ih
  refine Prog.Spares.bind ?_ fun names => (each names).bind fun _ => Prog.spares_modify fun _ => rfl
  refine Prog.spares_get.bind fun client => ?_
  by_cases hi : client.installed = true
  · rw [if_pos hi]
    exact (Prog.spares_await _).bind fun _ => Prog.spares_pure _
  · rw [if_neg hi]
    exact Prog.spares_pure _

/-- The portals that a simple query closes: the unnamed one, those of the unnamed statement, and all of them at
the end of a transaction. -/
def QueryPortals (w w' : WireWorld) (n : String) : Prop :=
  n = defaultName ∨ BoundOn w.st defaultName n ∨ w'.st.transactionStatus = .idle ∨ TransactionEnded w w'

theorem onQuery_swept {hs : PyServerSimpleQueryHandler} (hl : Live hs.extended s w) (query : String) :
    Prog.Sat (AtCall hs.extended s) (hs.onQuery query) w
      (Ends (fun w' => Live hs.extended s w' ∧ Swept (QueryPortals w w') (· = defaultName) w w' ∧
          (w'.st.transactionStatus = .idle → NoPortals w'.st))
        (fun w' => Live hs.extended s w' ∧ Swept (QueryPortals w w') (· = defaultName) w w')) := by
  have finish : ∀ {w' : WireWorld} (result : Except PgWireError Unit), Live hs.extended s w' →
      Swept (QueryPortals w w') (· = defaultName) w w' →
      Prog.Sat (AtCall hs.extended s)
        (do
          let client ← Prog.get
          if client.transactionStatus = .idle then PyExtendedHandler.closeAllPortals else pure ()
          Prog.ofExcept result) w'
        (Ends (fun w'' => Live hs.extended s w'' ∧ Swept (QueryPortals w w'') (· = defaultName) w w'' ∧
            (w''.st.transactionStatus = .idle → NoPortals w''.st))
          (fun w'' => Live hs.extended s w'' ∧ Swept (QueryPortals w w'') (· = defaultName) w w'')) := by
    intro w' result hl' hswept
    simp only [Prog.sat_bind, Prog.sat_get, Prog.after_ok]
    by_cases hidle : w'.st.transactionStatus = .idle
    · have hall : ∀ {w'' : WireWorld}, w''.st.transactionStatus = w'.st.transactionStatus →
          Swept (fun _ => True) Nothing w' w'' → Swept (QueryPortals w w'') (· = defaultName) w w'' := by
        intro w'' hstatus hswept'
        have hn : ∀ n, QueryPortals w w'' n := fun n => .inr (.inr (.inl (hstatus.trans hidle)))
        exact (hswept.mono (fun n _ => hn n) fun _ => id).trans (hswept'.mono (fun n _ => hn n) fun _ => False.elim)
      rw [if_pos hidle, Prog.sat_bind]
      refine ((closeAllPortals_swept hl').both (closeAllPortals_spares w')).post ?_
      rintro (_ | e | _) w1 ⟨hc, hstatus⟩
      · rw [Prog.after_ok, Prog.sat_ofExcept]
        exact ⟨fun _ _ => ⟨hc.1.1, hall hstatus hc.2, fun _ => hc.1.2⟩, fun _ _ => ⟨hc.1.1, hall hstatus hc.2⟩⟩
      · exact ⟨hc.1, hall hstatus hc.2⟩
      · exact hc
    · rw [if_neg hidle, Prog.sat_ofExcept]
      exact ⟨fun _ _ => ⟨hl', hswept, fun h => absurd h hidle⟩, fun _ _ => ⟨hl', hswept⟩⟩
  simp only [PyServerSimpleQueryHandler.onQuery, Prog.sat_bind, Prog.sat_get, Prog.after_ok]
  by_cases hready : w.st.state ≠ .readyForQuery
  · rw [if_pos hready]
    exact ⟨hl, .refl w⟩
  rw [if_neg hready]
  refine sat_seq (closePortal_swept hl _) (fun _ w1 hc => ?_)
    fun _ hc => ⟨hc.1.live, hc.2.mono (fun n hn => .inl hn) fun _ => False.elim⟩
  rw [Prog.sat_bind, Prog.sat_modify, Prog.after_ok]
  generalize w1.modify (Conn.rmPortal defaultName) = w1 at hc ⊢
  have hbound : ∀ n, BoundOn w1.st defaultName n → BoundOn w.st defaultName n := by
    rintro n ⟨e, he, hname⟩
    rcases hc.2.portals n with hsame | ⟨-, hemptied⟩
    · exact ⟨e, (congrArg Prod.fst hsame).symm.trans he, hname⟩
    · have hnone : w1.st.resources.portals.lookup n = none := congrArg Prod.fst hemptied.vacant
      rw [hnone] at he
      cases he
  have hswept2 : ∀ {w2 w' : WireWorld}, Swept (BoundOn w1.st defaultName) (· = defaultName) w1 w2 →
      Swept (QueryPortals w w') (· = defaultName) w w2 := by
    intro w2 w' hswept
    exact (hc.2.mono (fun n hn => .inl hn) fun _ => False.elim).trans
      (hswept.mono (fun n hn => .inr (.inl (hbound n hn))) fun _ => id)
  refine sat_seq (closeStatement_swept hc.1.live _) (fun _ w2 hc2 => ?_) fun _ hc2 => ⟨hc2.1, hswept2 hc2.2⟩
  have hquery : ∀ {w3 : WireWorld}, Swept (fun _ => TransactionEnded w2 w3) Nothing w2 w3 →
      Swept (QueryPortals w w3) (· = defaultName) w w3 := by
    intro w3 h3
    refine (hswept2 hc2.2).trans (h3.mono (fun n hn => .inr (.inr (.inr (hn.earlier ?_)))) fun _ => False.elim)
    exact hc.2.log.trans hc2.2.log
  rw [Prog.sat_bind, Prog.sat_attempt]
  refine (innerOnQuery_swept hc2.1.live query).post ?_
  rintro (_ | e | _) w3 h3
  · exact finish _ h3.1 (hquery h3.2)
  · exact finish _ h3.1 (hquery h3.2)
  · exact h3

end Handlers

end Pywire
