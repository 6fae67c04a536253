import Pywire.Lifecycle

/-!
# SessionGate: callbacks run on the session that was opened

With a session factory, a ready connection should have a session and every callback should run on it.  The
verifier handler opens the session before it tells the client of success.  The other authentication methods
publish `ReadyForQuery` first: when `open` then raises an error that is not FATAL, the connection goes on without
a session, and its queries run on the process-wide handlers.  A connection that leaves startup by an error, of any
startup handler, goes on in the same way.

* `PyServerHandlers.runs_on_session`: the gate holds wherever startup was not refused, for the verifier handler, and
  for the others if no `open` raised.
* `gate_left_open`: a trusted client whose session was refused, served by the process-wide query handler.
-/

namespace Pywire

open Async Scram

/-- A ready connection has the session its factory opened, and every callback ran on it. -/
structure SessionGate (w : WireWorld) : Prop where
  ready : w.st.state = .readyForQuery → ∃ k, SessionOpened w.log k ∧ w.st.pySession = some (.session k)
  callbacks : ∀ i c r on, w.log[i]? = some (.called c r) → c.on = some on →
    ∃ k < i, SessionOpened w.log k ∧ on = .session k

def openFailure : WireEvent → Bool
  | .called (.python (.openSession _)) (.error _) => true
  | _ => false

theorem openFailed_iff {log : Log} : OpenFailed log ↔ log.any openFailure = true := by
  rw [List.any_eq_true]
  constructor
  · rintro ⟨login, e, hmem⟩
    exact ⟨_, hmem, rfl⟩
  · rintro ⟨event, hmem, he⟩
    unfold openFailure at he
    split at he
    · exact ⟨_, _, hmem⟩
    · cases he

theorem SessionOpened.of_take {log : Log} {i k : ℕ} (hk : SessionOpened (log.take i) k) :
    k < i ∧ SessionOpened log k := by
  obtain ⟨login, hk⟩ := hk
  have hlt : k < i := by
    have := (List.getElem?_eq_some_iff.mp hk).1
    rw [List.length_take] at this
    omega
  rw [List.getElem?_take_of_lt hlt] at hk
  exact ⟨hlt, login, hk⟩

/-- A session that is served was opened by the factory. -/
theorem Inv.sessionOpened_of_pySession {h : PyExtendedHandler} {c : Conn} {log : Log} (hw : Inv h c log)
    {on : PyInstance} (hp : c.pySession = some on) : ∃ k, SessionOpened log k ∧ on = .session k := by
  rw [hw.pySession] at hp
  obtain ⟨k, rfl⟩ := hw.opened on hp
  exact ⟨k, (hw.session k).mpr hp, rfl⟩

namespace PyServerHandlers

variable {K : Crypto} {h : PyServerHandlers}

/-- What the gate lets through: callbacks on a session, and all others where it stands open. -/
def Served (h : PyServerHandlers) (log : Log) (c : Call) : Prop :=
  ∀ on, c.on = some on → (∃ k, SessionOpened log k ∧ on = .session k) ∨ h.Gate none log ∨ StartupRefused log

theorem served_of_onWire {w : WireWorld} {c : Call} (hc : OnWire h w c) : h.Served w.log c := by
  intro on hon
  cases hc with
  | handler s hcall hg =>
    obtain ⟨hp, hs⟩ := hcall.onSession on hon
    cases s with
    | none => exact .inr (hg (by rw [hon]; simp))
    | some session =>
      obtain ⟨k, hk, rfl⟩ := hcall.inv.sessionOpened_of_pySession hp
      exact .inl ⟨k, hk, hs _ rfl⟩
  | report state e hw hc =>
    subst hc
    cases hon

/-- **The gate holds** on every connection whose startup was not refused, if the verifier handler opens the session or
no `open` raised. -/
theorem runs_on_session (K : Crypto) {configureCertificate : Bytes → Except PgWireError Unit}
    {config : HandlerConfig} (hb : config.build configureCertificate = .ok h) (hf : config.sessionFactory = true)
    (env : WireEnv) (secure : Bool) (host : String) (messages : List PgWireFrontendMessage)
    (hstarted : ¬ StartupRefused ((h.processSocket K messages).final env (freshWorld secure host)).log)
    (hopen : config.authMethod = .scramVerifier ∨
      ¬ OpenFailed ((h.processSocket K messages).final env (freshWorld secure host)).log) :
    SessionGate ((h.processSocket K messages).final env (freshWorld secure host)) := by
  have hsat := processSocket_sat (K := K) (quiescent_freshWorld h secure host) (HandlerConfig.wired hb) messages
  obtain ⟨hq, hserved⟩ := (hsat.allowed (fun _ _ => served_of_onWire) (Prog.allowed_nil _)).run env
  change h.Concluded _ ((h.processSocket K messages).final env (freshWorld secure host)) at hq
  change Prog.Allowed h.Served ((h.processSocket K messages).final env (freshWorld secure host)).log at hserved
  generalize (h.processSocket K messages).final env (freshWorld secure host) = w at hq hserved hstarted hopen ⊢
  have hshut : ∀ {log : Log}, log <+: w.log → ¬ h.Gate none log := by
    intro log hle hg
    obtain ⟨inner, hi, rfl⟩ := HandlerConfig.build_eq_ok hb
    obtain ⟨⟨login, e, hmem⟩, hno⟩ := hg hf rfl
    rcases hopen with hm | hopen
    · rcases HandlerConfig.buildStartup_eq_ok hi with ⟨hne, -⟩ | ⟨-, verifier, -, rfl⟩
      · exact hne hm
      · rw [PyStartupInner.opensSession, hf] at hno
        cases hno
    · exact hopen ⟨login, e, hle.subset hmem⟩
  refine ⟨fun hready => ?_, fun i c r on hi hon => ?_⟩
  · cases hq.quiescent hstarted with
    | starting hw hs => rw [hready] at hs; cases hs
    | ready s hl hg =>
      cases s with
      | none => exact absurd hg (hshut (List.prefix_refl _))
      | some session =>
        obtain ⟨k, hk, rfl⟩ := hl.inv.sessionOpened_of_pySession hl.pySession
        exact ⟨k, hk, hl.pySession⟩
    | stranded hw => exact absurd hw.refused hstarted
  · rcases hserved.at hi on hon with ⟨k, hk, rfl⟩ | hg | hrefused
    · obtain ⟨hlt, hk⟩ := hk.of_take
      exact ⟨k, hlt, hk, rfl⟩
    · exact absurd hg (hshut (List.take_prefix _ _))
    · exact absurd (hrefused.of_prefix (List.take_prefix _ _)) hstarted

theorem runs_on_session_opened :
    SessionGate (((trusting true).processSocket default [.startup ⟨[("user", "alice")]⟩, .query "SELECT 1"]).final
      agreeable (freshWorld false "127.0.0.1")) :=
  runs_on_session default (trusting_build true) rfl agreeable false "127.0.0.1" _ (by decide) (.inr (by
    rw [openFailed_iff]
    decide))

end PyServerHandlers

/-- A session factory that turns every client away with an error that is not FATAL. -/
def refusing : WireEnv := fun log call =>
  match call with
  | .python (.openSession _) => .error ⟨⟨"builtins", "RuntimeError"⟩, [], "no session for you"⟩
  | call => agreeable log call

/-- A trusted client without a session is ready, and its query runs on the process-wide handler. -/
theorem gate_left_open :
    (trustingConfig true).build (fun _ => .ok ()) = .ok (trusting true) ∧
      ¬ SessionGate (((trusting true).processSocket default
        [.startup ⟨[("user", "alice")]⟩, .query "SELECT 1"]).final refusing (freshWorld false "127.0.0.1")) := by
  refine ⟨rfl, fun hg => ?_⟩
  obtain ⟨k, -, -, hk⟩ := hg.callbacks 13 (.python (.simpleDoQuery .simple "SELECT 1")) _ .simple rfl rfl
  cases hk

end Pywire
