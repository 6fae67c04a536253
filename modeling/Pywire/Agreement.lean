import Pywire.Lifecycle

/-!
# Agreement: the two stores of a connection over whole runs

* `PyServerHandlers.stores_agree`: **Main result** — after every message of every connection, whatever the
  callbacks and pgwire answer, `PythonPortals` and pgwire's portal store hold the same names, every portal's statement is
  stored, and every Python portal is the one made for the portal that pgwire stores.
-/

namespace Pywire

open Async Scram

/-- The two stores of a connection agree with each other and with the log. -/
structure Agreement (c : Conn) (log : Log) : Prop where
  portalNames : ∀ n, n ∈ c.resources.portals ↔ n ∈ c.store.portals
  portalKinds : ∀ n e st, c.resources.portals.lookup n = some e → c.store.portals.lookup n = some st →
    (e.bound.isSome = true ↔ st.isValue = true)
  statementNames : ∀ n, n ∈ c.resources.statements ↔ ∃ st, c.store.statements.lookup n = some (.value st)
  references : ∀ n e, c.resources.portals.lookup n = some e →
    ∃ st, c.store.statements.lookup e.statementName = some st ∧ (st.isValue = true ↔ e.bound.isSome = true)
  /-- The Python portal came from the call that was made for pgwire's portal, the last one under this name. -/
  objects : ∀ n e b, c.resources.portals.lookup n = some e → e.bound = some b →
    ∃ p, c.store.portals.lookup n = some (.value p) ∧ p.name = n ∧ BindCall log b.portal b.inst p ∧
      ∀ k > b.portal, ∀ on statement parameters pf rf,
        log[k]? ≠ some (.called (.python (.bindPortal on n statement parameters pf rf)) (.ok ()))

theorem Inv.agreement {h : PyExtendedHandler} {c : Conn} {log : Log} (hw : Inv h c log) : Agreement c log where
  portalNames n := by
    rw [← AList.lookup_isSome, ← AList.lookup_isSome]
    cases hw.portal n with
    | absent py stored => rw [py, stored]; rfl
    | empty s py stored => rw [py, stored]; rfl
    | bound s b p py stored => rw [py, stored]; rfl
  portalKinds n e st he hst := by
    cases hw.portal n with
    | absent py => rw [py] at he; cases he
    | empty s py stored => rw [py] at he; rw [stored] at hst; cases he; cases hst; rfl
    | bound s b p py stored => rw [py] at he; rw [stored] at hst; cases he; cases hst; simp
  statementNames n := by
    rw [← AList.lookup_isSome]
    cases hw.statement n with
    | absent py stored => simp [py, stored]
    | empty py stored => simp [py, stored]
    | value st i py stored => simp [py, stored]
  references n e he := by
    obtain ⟨st, hst, hkind⟩ := hw.referential he
    exact ⟨st, hst, by rw [hkind]⟩
  objects n e b he hb := by
    cases hw.portal n with
    | absent py => rw [py] at he; cases he
    | empty s py => rw [py] at he; cases he; cases hb
    | bound s b' p py stored object statement name call =>
      rw [py] at he
      cases he
      cases hb
      refine ⟨p, stored, name, call, fun k hk on st parameters pf rf hlog => ?_⟩
      obtain ⟨x, hx, hpos, -⟩ := Ledger.object_eq_some.mp object
      refine ((Ledger.held_eq_some hx).2 k (hpos ▸ hk) on).1 ?_
      rw [List.getElem?_map, hlog]
      rfl

/-- Without portals and without statements that a callback returned, the stores agree whatever the log says. -/
theorem Stranded.agreement {h : PyExtendedHandler} {w : WireWorld} (hw : Stranded h w) (log : Log) :
    Agreement w.st log where
  portalNames n := by
    rw [← AList.lookup_isSome, ← AList.lookup_isSome, (hw.fresh n).1, (hw.no_portal n).2]
    rfl
  portalKinds n e st he := by rw [(hw.fresh n).1] at he; cases he
  statementNames n := by
    rw [← AList.lookup_isSome, (hw.fresh n).2]
    simp [hw.not_value n]
  references n e he := by rw [(hw.fresh n).1] at he; cases he
  objects n e b he := by rw [(hw.fresh n).1] at he; cases he

theorem PyServerHandlers.Concluded.agreement {h : PyServerHandlers} {o : Outcome PgWireError Unit} {w : WireWorld}
    (hc : h.Concluded o w) : Agreement w.st w.log := by
  rcases o with _ | e | _
  · exact (Quiescent.inv hc).agreement
  · exact hc.elim
  · cases hc with
    | bind hw => exact hw.agreement _
    | parse hw => exact hw.agreement _

/-- **Main result**: after every message the stores agree. -/
theorem PyServerHandlers.stores_agree (K : Crypto) {configureCertificate : Bytes → Except PgWireError Unit}
    {config : HandlerConfig} {h : PyServerHandlers} (hb : config.build configureCertificate = .ok h) (env : WireEnv)
    (secure : Bool) (host : String) (messages : List PgWireFrontendMessage) :
    Agreement ((h.processSocket K messages).final env (freshWorld secure host)).st
      ((h.processSocket K messages).final env (freshWorld secure host)).log :=
  ((processSocket_sat (K := K) (quiescent_freshWorld h secure host) (HandlerConfig.wired hb) messages).run
    env).agreement

/-- One statement and one portal on a connection that trusts its client. -/
theorem stores_agree_parse_bind :
    Agreement
      (((trusting false).processSocket default [.startup ⟨[("user", "alice")]⟩, .parse ⟨some "s", "SELECT 1", []⟩,
        .bind ⟨some "p", some "s", [], [], []⟩]).final agreeable (freshWorld false "127.0.0.1")).st
      (((trusting false).processSocket default [.startup ⟨[("user", "alice")]⟩, .parse ⟨some "s", "SELECT 1", []⟩,
        .bind ⟨some "p", some "s", [], [], []⟩]).final agreeable (freshWorld false "127.0.0.1")).log :=
  PyServerHandlers.stores_agree default (trusting_build false) agreeable false "127.0.0.1" _

end Pywire
