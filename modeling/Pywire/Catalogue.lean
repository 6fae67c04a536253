import Mathlib.Data.Set.Insert
import Pywire.Lib.Simulation
import Pywire.WireNames

/-!
# Catalogue: what a client has prepared

A client that uses the extended protocol keeps a catalogue in mind: under each statement name the Parse that was
accepted for it, under each portal name the Bind.  `Catalogue.system` says what every message makes of it; a message
that is refused may have closed some of what it was about to close, and a connection whose startup failed closes
nothing.  `Holds` relates the catalogue to a connection.

* `Catalogue.coherent`: every portal was bound from a statement that is still there.
* `Swept.cleared`: closing portals and statements clears as many entries of the catalogue.
* `Holds.parsed`, `Holds.bound`: what Parse and Bind store is what the catalogue enters.
-/

namespace Pywire

open Async

/-! ### The catalogue -/

structure Catalogue where
  /-- The Parse that a statement was made for. -/
  statements : String → Option Parse
  /-- The Bind that a portal was made for. -/
  portals : String → Option Bind

namespace PgWireFrontendMessage

/-- The statement that a message closes, with the portals bound from it. -/
def closedStatement : PgWireFrontendMessage → Option String
  | .parse message => if key message.name = defaultName then some defaultName else none
  | .close message => if message.targetType = targetTypeByteStatement then some (key message.name) else none
  | .query _ => some defaultName
  | _ => none

/-- The portal that a message closes. -/
def closedPortal : PgWireFrontendMessage → Option String
  | .bind message => if key message.portalName = defaultName then some defaultName else none
  | .close message => if message.targetType = targetTypeBytePortal then some (key message.name) else none
  | .query _ => some defaultName
  | _ => none

end PgWireFrontendMessage

namespace Catalogue

def empty : Catalogue := ⟨fun _ => none, fun _ => none⟩

/-- The portals bound from a statement. -/
def boundFrom (k : Catalogue) (statement : String) : Set String :=
  {n | ∃ b, k.portals n = some b ∧ key b.statementName = statement}

open Classical in
/-- The catalogue without the portals in `P` and the statements in `S`. -/
noncomputable def without (k : Catalogue) (P S : Set String) : Catalogue where
  statements n := if n ∈ S then none else k.statements n
  portals n := if n ∈ P then none else k.portals n

/-- What a message adds. -/
def enter (k : Catalogue) : PgWireFrontendMessage → Catalogue
  | .parse message => { k with statements := Function.update k.statements (key message.name) (some message) }
  | .bind message => { k with portals := Function.update k.portals (key message.portalName) (some message) }
  | _ => k

/-- The portals that a message closes; `all` if the transaction is over. -/
def closedPortals (k : Catalogue) (message : PgWireFrontendMessage) (all : Prop) : Set String :=
  {n | message.closedPortal = some n ∨ (∃ s, message.closedStatement = some s ∧ n ∈ k.boundFrom s) ∨ all}

def closedStatements (message : PgWireFrontendMessage) : Set String := {n | message.closedStatement = some n}

/-- The messages that make sense: nothing is prepared twice under a name, and what a message refers to is there. -/
def Admits (k : Catalogue) : PgWireFrontendMessage → Prop
  | .parse message => key message.name ≠ defaultName → k.statements (key message.name) = none
  | .bind message => (key message.portalName ≠ defaultName → k.portals (key message.portalName) = none) ∧
      (k.statements (key message.statementName)).isSome = true
  | .describe message => (message.targetType = targetTypeByteStatement ∧ (k.statements (key message.name)).isSome = true) ∨
      message.targetType = targetTypeBytePortal ∧ (k.portals (key message.name)).isSome = true
  | .execute message => (k.portals (key message.name)).isSome = true
  | .close message => message.targetType = targetTypeByteStatement ∨ message.targetType = targetTypeBytePortal
  | _ => True

/-- Every portal was bound from a statement that is there. -/
def Coherent (k : Catalogue) : Prop :=
  ∀ n b, k.portals n = some b → (k.statements (key b.statementName)).isSome = true

/-- What became of a message. -/
inductive Turn where
  /-- The client was not admitted yet. -/
  | startup
  | handled (message : PgWireFrontendMessage) (all : Prop)
  /-- It was answered on a connection that has no `PythonPortals`. -/
  | stranded (message : PgWireFrontendMessage)
  | refused (message : PgWireFrontendMessage) (all : Prop)

inductive Step : Catalogue → Turn → Catalogue → Prop where
  | startup (k : Catalogue) : Step k .startup k
  | handled (k : Catalogue) (message : PgWireFrontendMessage) (all : Prop) (h : k.Admits message) :
      Step k (.handled message all) ((k.without (k.closedPortals message all) (closedStatements message)).enter message)
  | stranded (k : Catalogue) (message : PgWireFrontendMessage) (h : k.Admits message) :
      Step k (.stranded message) (k.enter message)
  | refused (k : Catalogue) (message : PgWireFrontendMessage) (all : Prop) (P S : Set String)
      (hP : P ⊆ k.closedPortals message all) (hS : S ⊆ closedStatements message)
      (hcoherent : ∀ n ∈ S, k.boundFrom n ⊆ P) : Step k (.refused message all) (k.without P S)

/-- The catalogue of a client, message by message. -/
def system : System Catalogue Turn := ⟨(· = empty), Step⟩

section Abstract

variable {k k' : Catalogue} {P S : Set String} {n : String} {message : PgWireFrontendMessage}

theorem without_statements_of_mem (hn : n ∈ S) : (k.without P S).statements n = none := if_pos hn

theorem without_statements_of_notMem (hn : n ∉ S) : (k.without P S).statements n = k.statements n := if_neg hn

theorem without_portals_of_mem (hn : n ∈ P) : (k.without P S).portals n = none := if_pos hn

theorem without_portals_of_notMem (hn : n ∉ P) : (k.without P S).portals n = k.portals n := if_neg hn

theorem without_empty : k.without ∅ ∅ = k := by
  unfold without
  simp

/-- A message that closes a statement. -/
theorem closedPortals_of_statement {all : Prop} {s : String} (hp : message.closedPortal = none)
    (hs : message.closedStatement = some s) (hall : ¬ all) : k.closedPortals message all = k.boundFrom s := by
  ext n
  simp [closedPortals, hp, hs, hall]

/-- A message that closes a portal. -/
theorem closedPortals_of_portal {all : Prop} (hp : message.closedPortal = some n)
    (hs : message.closedStatement = none) (hall : ¬ all) : k.closedPortals message all = {n} := by
  ext m
  simp [closedPortals, hp, hs, hall, eq_comm]

/-- A message that closes nothing. -/
theorem closedPortals_of_none {all : Prop} (hp : message.closedPortal = none) (hs : message.closedStatement = none)
    (hall : ¬ all) : k.closedPortals message all = ∅ := by
  ext m
  simp [closedPortals, hp, hs, hall]

theorem closedPortals_of_all {all : Prop} (hall : all) : k.closedPortals message all = Set.univ := by
  ext m
  simp [closedPortals, hall]

theorem closedStatements_of_some {s : String} (hs : message.closedStatement = some s) : closedStatements message = {s} := by
  ext n
  simp [closedStatements, hs, eq_comm]

theorem closedStatements_of_none (hs : message.closedStatement = none) : closedStatements message = ∅ := by
  ext n
  simp [closedStatements, hs]

/-- Statements go with their portals. -/
theorem Coherent.without (hk : k.Coherent) (h : ∀ n ∈ S, k.boundFrom n ⊆ P) : (k.without P S).Coherent := by
  intro n b hb
  by_cases hn : n ∈ P
  · rw [without_portals_of_mem hn] at hb
    cases hb
  · rw [without_portals_of_notMem hn] at hb
    have hs : key b.statementName ∉ S := fun hs => hn (h _ hs ⟨b, hb, rfl⟩)
    rw [without_statements_of_notMem hs]
    exact hk n b hb

/-- What a message closes goes with its portals. -/
theorem boundFrom_subset {all : Prop} (hn : n ∈ closedStatements message) :
    k.boundFrom n ⊆ k.closedPortals message all :=
  fun _ hm => .inr (.inl ⟨n, hn, hm⟩)

@[simp] theorem enter_parse_portals (p : Parse) : (k.enter (.parse p)).portals = k.portals := rfl

@[simp] theorem enter_bind_statements (b : Bind) : (k.enter (.bind b)).statements = k.statements := rfl

theorem enter_parse_statements (p : Parse) :
    (k.enter (.parse p)).statements n = if n = key p.name then some p else k.statements n :=
  Function.update_apply ..

theorem enter_bind_portals (b : Bind) :
    (k.enter (.bind b)).portals n = if n = key b.portalName then some b else k.portals n :=
  Function.update_apply ..

/-- A Bind replaces the portal of its name. -/
theorem enter_bind_without {b : Bind} (hP : P ⊆ {key b.portalName}) :
    (k.without P ∅).enter (.bind b) = k.enter (.bind b) := by
  have hportals : ((k.without P ∅).enter (.bind b)).portals = (k.enter (.bind b)).portals := by
    funext n
    rw [enter_bind_portals, enter_bind_portals]
    split
    · rfl
    · rename_i hn
      exact without_portals_of_notMem fun hmem => hn (hP hmem)
  have hstatements : ((k.without P ∅).enter (.bind b)).statements = (k.enter (.bind b)).statements := by
    funext n
    exact without_statements_of_notMem (P := P) (Set.notMem_empty n)
  exact congrArg₂ Catalogue.mk hstatements hportals

theorem Coherent.enter (hk : k.Coherent)
    (h : ∀ b, message = .bind b → (k.statements (key b.statementName)).isSome = true) : (k.enter message).Coherent := by
  cases message with
  | parse p =>
    intro n b hb
    rw [enter_parse_statements]
    split
    · rfl
    · exact hk n b hb
  | bind m =>
    intro n b hb
    rw [enter_bind_portals] at hb
    split at hb
    · cases hb
      exact h m rfl
    · exact hk n b hb
  | _ => exact hk

/-- A step keeps the catalogue coherent. -/
theorem Step.coherent {t : Turn} (hs : Step k t k') (hk : k.Coherent) : k'.Coherent := by
  cases hs with
  | startup => exact hk
  | handled message all h =>
    refine (hk.without fun n hn => boundFrom_subset hn).enter ?_
    rintro b rfl
    have hb : key b.statementName ∉ closedStatements (.bind b) := by
      intro hmem
      cases hmem
    rw [without_statements_of_notMem hb]
    exact h.2
  | stranded message h => exact hk.enter fun b hb => by subst hb; exact h.2
  | refused message all P S hP hS hcoherent => exact hk.without hcoherent

/-- **Every portal has its statement**, after any messages. -/
theorem coherent {turns : List Turn} (h : system.Runs turns k) : k.Coherent := by
  refine h.invariant ?_ fun k t k' hk (hs : Step k t k') => hs.coherent hk
  rintro k rfl n b hb
  cases hb

end Abstract

end Catalogue

/-! ### The catalogue of a connection -/

/-- The Python statement at `statement` was made for the Parse. -/
def Parse.MadeAt (message : Parse) (log : Log) (statement : PyRef) : Prop :=
  ∃ on, log[statement]? = some (.called (.python (.parseStatement on (key message.name) message.query message.typeOids))
    (.ok ()))

/-- What pgwire stores for an accepted Parse. -/
inductive Parse.Stored (message : Parse) (log : Log) : Entry StoredStatement → Prop where
  | empty (hempty : isEmptyQuery message.query = true) : Stored message log .empty
  | value (st : StoredStatement) (hempty : isEmptyQuery message.query = false) (hmade : message.MadeAt log st.statement) :
      Stored message log (.value st)

/-- What the two maps of portals hold for an accepted Bind. -/
structure Bind.Stored (message : Bind) (c : Conn) : Prop where
  entry : ∃ bound, c.resources.portals.lookup (key message.portalName) = some ⟨key message.statementName, bound⟩
  stored : c.store.portals.lookup (key message.portalName) = some .empty ∨
    ∃ st, c.store.portals.lookup (key message.portalName) = some (.value (PyExtendedHandler.portalOf message st))

/-- The connection holds what the catalogue says. -/
structure Holds (k : Catalogue) (w : WireWorld) : Prop where
  noStatement : ∀ n, k.statements n = none → w.st.store.statements.lookup n = none
  statement : ∀ n p, k.statements n = some p → key p.name = n ∧
    ∃ entry, w.st.store.statements.lookup n = some entry ∧ p.Stored w.log entry
  noPortal : ∀ n, k.portals n = none → w.st.store.portals.lookup n = none
  portal : ∀ n b, k.portals n = some b → key b.portalName = n ∧ b.Stored w.st

/-- The portals in `P` and the statements in `S` were emptied, and nothing else changed. -/
structure Cleared (P S : Set String) (w w' : WireWorld) : Prop where
  log : w.log <+: w'.log
  noPortal : ∀ n ∈ P, Kind.portals.slot w'.st n = Kind.portals.vacant
  portal : ∀ n ∉ P, Kind.portals.slot w'.st n = Kind.portals.slot w.st n
  noStatement : ∀ n ∈ S, Kind.statements.slot w'.st n = Kind.statements.vacant
  statement : ∀ n ∉ S, Kind.statements.slot w'.st n = Kind.statements.slot w.st n

section Holds

variable {k : Catalogue} {P P' S S' : Set String} {w w1 w2 w' : WireWorld}

theorem Parse.MadeAt.later {p : Parse} {log log' : Log} {n : PyRef} (h : p.MadeAt log n) (hlog : log <+: log') :
    p.MadeAt log' n := by
  obtain ⟨on, he⟩ := h
  exact ⟨on, getElem?_of_prefix hlog he⟩

theorem Parse.Stored.later {p : Parse} {log log' : Log} {entry : Entry StoredStatement} (h : p.Stored log entry)
    (hlog : log <+: log') : p.Stored log' entry := by
  cases h with
  | empty hempty => exact .empty hempty
  | value st hempty hmade => exact .value st hempty (hmade.later hlog)

/-- Statements without a name are the ones the connection does not have. -/
theorem Holds.statements_none (hk : Holds k w) {n : String} :
    k.statements n = none ↔ w.st.store.statements.lookup n = none := by
  refine ⟨hk.noStatement n, fun hnone => ?_⟩
  by_contra hsome
  obtain ⟨p, hp⟩ := Option.ne_none_iff_exists'.mp hsome
  obtain ⟨-, entry, hentry, -⟩ := hk.statement n p hp
  rw [hnone] at hentry
  cases hentry

theorem Holds.portals_none (hk : Holds k w) {n : String} :
    k.portals n = none ↔ w.st.store.portals.lookup n = none := by
  refine ⟨hk.noPortal n, fun hnone => ?_⟩
  by_contra hsome
  obtain ⟨b, hb⟩ := Option.ne_none_iff_exists'.mp hsome
  obtain ⟨rfl, hstored⟩ := hk.portal n b hb
  rcases hstored.stored with hempty | ⟨st, hvalue⟩
  · rw [hnone] at hempty
    cases hempty
  · rw [hnone] at hvalue
    cases hvalue

/-- The portals bound from a statement are those of its entry. -/
theorem Holds.mem_boundFrom {h : PyExtendedHandler} (hk : Holds k w) (hw : Inv h w.st w.log) {s n : String} :
    n ∈ k.boundFrom s ↔ BoundOn w.st s n := by
  constructor
  · rintro ⟨b, hb, rfl⟩
    obtain ⟨rfl, hstored⟩ := hk.portal n b hb
    obtain ⟨bound, he⟩ := hstored.entry
    exact ⟨_, he, rfl⟩
  · rintro ⟨e, he, rfl⟩
    cases hb : k.portals n with
    | none =>
      -- the two maps hold portals of the same names
      have hstored : w.st.store.portals.lookup n = none := hk.noPortal n hb
      cases hw.portal n with
      | absent py stored => rw [py] at he; cases he
      | empty s py stored => rw [stored] at hstored; cases hstored
      | bound s b p py stored => rw [stored] at hstored; cases hstored
    | some b =>
      obtain ⟨rfl, hstored⟩ := hk.portal n b hb
      obtain ⟨bound, he'⟩ := hstored.entry
      rw [he'] at he
      cases he
      exact ⟨b, hb, rfl⟩

theorem Holds.boundFrom_eq {h : PyExtendedHandler} (hk : Holds k w) (hw : Inv h w.st w.log) {s : String} :
    k.boundFrom s = {n | BoundOn w.st s n} :=
  Set.ext fun _ => hk.mem_boundFrom hw

/-- The maps are what they were. -/
theorem Cleared.of_stores (hstores : w'.st.stores = w.st.stores) (hlog : w.log <+: w'.log) : Cleared ∅ ∅ w w' := by
  have hpy : w'.st.resources.portals = w.st.resources.portals := congrArg Prod.fst hstores
  have hst : w'.st.resources.statements = w.st.resources.statements := congrArg (·.2.1) hstores
  have hpg : w'.st.store = w.st.store := congrArg (·.2.2) hstores
  refine ⟨hlog, fun n hn => absurd hn (Set.notMem_empty n), fun n _ => ?_, fun n hn => absurd hn (Set.notMem_empty n),
    fun n _ => ?_⟩
  · simp only [Kind.portals, hpy, hpg]
  · simp only [Kind.statements, hst, hpg]

/-- What follows leaves the maps alone. -/
theorem Cleared.later (h : Cleared P S w w1) (hstores : w2.st.stores = w1.st.stores) (hlog : w1.log <+: w2.log) :
    Cleared P S w w2 := by
  have hsame : Cleared ∅ ∅ w1 w2 := .of_stores hstores hlog
  exact ⟨h.log.trans hlog, fun n hn => (hsame.portal n (Set.notMem_empty n)).trans (h.noPortal n hn),
    fun n hn => (hsame.portal n (Set.notMem_empty n)).trans (h.portal n hn),
    fun n hn => (hsame.statement n (Set.notMem_empty n)).trans (h.noStatement n hn),
    fun n hn => (hsame.statement n (Set.notMem_empty n)).trans (h.statement n hn)⟩

/-- **A sweep clears** some of what it may clear. -/
theorem Swept.cleared {P S : String → Prop} (h : Swept P S w w') :
    ∃ P' S' : Set String, (∀ n ∈ P', P n ∧ Kind.portals.slot w.st n ≠ Kind.portals.vacant) ∧
      (∀ n ∈ S', S n ∧ Kind.statements.slot w.st n ≠ Kind.statements.vacant) ∧ Cleared P' S' w w' := by
  refine ⟨{n | Kind.portals.slot w'.st n ≠ Kind.portals.slot w.st n},
    {n | Kind.statements.slot w'.st n ≠ Kind.statements.slot w.st n}, fun n hn => ?_, fun n hn => ?_, h.log, fun n hn => ?_,
    fun n hn => not_not.mp hn, fun n hn => ?_, fun n hn => not_not.mp hn⟩
  · obtain ⟨hP, hemptied⟩ := (h.portals n).resolve_left hn
    exact ⟨hP, fun hvacant => hn (hemptied.vacant.trans hvacant.symm)⟩
  · obtain ⟨hS, hemptied⟩ := (h.statements n).resolve_left hn
    exact ⟨hS, fun hvacant => hn (hemptied.vacant.trans hvacant.symm)⟩
  · exact ((h.portals n).resolve_left hn).2.vacant
  · exact ((h.statements n).resolve_left hn).2.vacant

/-- A portal whose slot has not changed. -/
theorem Bind.Stored.same {b : Bind} {c c' : Conn} (h : b.Stored c)
    (hslot : Kind.portals.slot c' (key b.portalName) = Kind.portals.slot c (key b.portalName)) : b.Stored c' := by
  obtain ⟨⟨bound, hentry⟩, hstored⟩ := h
  have hpy : c'.resources.portals.lookup (key b.portalName) = c.resources.portals.lookup (key b.portalName) :=
    congrArg Prod.fst hslot
  have hpg : c'.store.portals.lookup (key b.portalName) = c.store.portals.lookup (key b.portalName) :=
    congrArg Prod.snd hslot
  exact ⟨⟨bound, hpy.trans hentry⟩, by rw [hpg]; exact hstored⟩

/-- **What is cleared** leaves the catalogue. -/
theorem Holds.without (hk : Holds k w) (hc : Cleared P S w w') : Holds (k.without P S) w' := by
  have hstatement : ∀ n ∉ S, w'.st.store.statements.lookup n = w.st.store.statements.lookup n :=
    fun n hn => congrArg Prod.snd (hc.statement n hn)
  refine ⟨fun n hn => ?_, fun n p hp => ?_, fun n hn => ?_, fun n b hb => ?_⟩
  · by_cases hS : n ∈ S
    · exact congrArg Prod.snd (hc.noStatement n hS)
    · rw [Catalogue.without_statements_of_notMem hS] at hn
      rw [hstatement n hS]
      exact hk.noStatement n hn
  · by_cases hS : n ∈ S
    · rw [Catalogue.without_statements_of_mem hS] at hp
      cases hp
    · rw [Catalogue.without_statements_of_notMem hS] at hp
      obtain ⟨hname, entry, hentry, hstored⟩ := hk.statement n p hp
      exact ⟨hname, entry, (hstatement n hS).trans hentry, hstored.later hc.log⟩
  · by_cases hP : n ∈ P
    · exact congrArg Prod.snd (hc.noPortal n hP)
    · rw [Catalogue.without_portals_of_notMem hP] at hn
      exact (congrArg Prod.snd (hc.portal n hP)).trans (hk.noPortal n hn)
  · by_cases hP : n ∈ P
    · rw [Catalogue.without_portals_of_mem hP] at hb
      cases hb
    · rw [Catalogue.without_portals_of_notMem hP] at hb
      obtain ⟨rfl, hstored⟩ := hk.portal n b hb
      exact ⟨rfl, hstored.same (hc.portal _ hP)⟩

/-- Where the maps are what they were, the catalogue is. -/
theorem Holds.same (hk : Holds k w) (hstores : w'.st.stores = w.st.stores) (hlog : w.log <+: w'.log) : Holds k w' := by
  have hholds := hk.without (.of_stores hstores hlog)
  rwa [Catalogue.without_empty] at hholds

/-- **A Parse** enters the catalogue with what it stored. -/
theorem Holds.parsed (hk : Holds k w) {p : Parse} (hlog : w.log <+: w'.log)
    (hportals : ∀ n, Kind.portals.slot w'.st n = Kind.portals.slot w.st n)
    (hothers : ∀ n, n ≠ key p.name → w'.st.store.statements.lookup n = w.st.store.statements.lookup n)
    (hnew : ∃ entry, w'.st.store.statements.lookup (key p.name) = some entry ∧ p.Stored w'.log entry) :
    Holds (k.enter (.parse p)) w' := by
  refine ⟨fun n hn => ?_, fun n q hq => ?_, fun n hn => ?_, fun n b hb => ?_⟩
  · rw [Catalogue.enter_parse_statements] at hn
    by_cases hname : n = key p.name
    · rw [if_pos hname] at hn
      cases hn
    · rw [if_neg hname] at hn
      rw [hothers n hname]
      exact hk.noStatement n hn
  · rw [Catalogue.enter_parse_statements] at hq
    by_cases hname : n = key p.name
    · rw [if_pos hname] at hq
      cases hq
      subst hname
      exact ⟨rfl, hnew⟩
    · rw [if_neg hname] at hq
      obtain ⟨hkey, entry, hentry, hstored⟩ := hk.statement n q hq
      exact ⟨hkey, entry, (hothers n hname).trans hentry, hstored.later hlog⟩
  · exact (congrArg Prod.snd (hportals n)).trans (hk.noPortal n hn)
  · obtain ⟨rfl, hstored⟩ := hk.portal n b hb
    exact ⟨rfl, hstored.same (hportals _)⟩

/-- **A Bind** enters the catalogue with what it stored. -/
theorem Holds.bound (hk : Holds k w) {b : Bind} (hlog : w.log <+: w'.log)
    (hstatements : w'.st.store.statements = w.st.store.statements)
    (hothers : ∀ n, n ≠ key b.portalName → Kind.portals.slot w'.st n = Kind.portals.slot w.st n)
    (hnew : b.Stored w'.st) : Holds (k.enter (.bind b)) w' := by
  refine ⟨fun n hn => ?_, fun n p hp => ?_, fun n hn => ?_, fun n m hm => ?_⟩
  · rw [hstatements]
    exact hk.noStatement n hn
  · obtain ⟨hkey, entry, hentry, hstored⟩ := hk.statement n p hp
    exact ⟨hkey, entry, by rw [hstatements]; exact hentry, hstored.later hlog⟩
  · rw [Catalogue.enter_bind_portals] at hn
    by_cases hname : n = key b.portalName
    · rw [if_pos hname] at hn
      cases hn
    · rw [if_neg hname] at hn
      exact (congrArg Prod.snd (hothers n hname)).trans (hk.noPortal n hn)
  · rw [Catalogue.enter_bind_portals] at hm
    by_cases hname : n = key b.portalName
    · rw [if_pos hname] at hm
      cases hm
      exact ⟨hname.symm, hnew⟩
    · rw [if_neg hname] at hm
      obtain ⟨rfl, hstored⟩ := hk.portal n m hm
      exact ⟨rfl, hstored.same (hothers _ hname)⟩

end Holds

end Pywire
