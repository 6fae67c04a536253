import Pywire.Stranded

/-!
# Lifecycle: startup and the loop over the messages of a client

A connection starts without statements and portals and without a session.  It leaves startup with the session
its factory opened, or without one, and from then on the session stays what it is; or it leaves startup by an error,
and is stranded.  `Quiescent` says what holds between two messages.

* `PyServerHandlers.processSocket_sat`: every call of a whole connection obeys the discipline, and every
  message leaves the connection quiescent, except for the panic of a stranded one.
-/

namespace Pywire

open Async Scram

/-- A connection during startup with the session `s`: no statement and no portal exists. -/
structure Starting (h : PyExtendedHandler) (s : Option PyInstance) (w : WireWorld) : Prop where
  inv : Inv h w.st w.log
  fresh : ∀ n, w.st.resources.portals.lookup n = none ∧ w.st.resources.statements.lookup n = none
  pySession : w.st.pySession = s

/-- A call of the session factory raised. -/
def OpenFailed (log : Log) : Prop := ∃ login e, .called (.python (.openSession login)) (.error e) ∈ log

/-- The session factory is asked by the verifier handler. -/
def PyStartupInner.opensSession : PyStartupInner → Bool
  | .scramVerifier inner => inner.sessionFactory
  | _ => false

/-- A session is missing only where none is opened, or where one was refused after the client was let in. -/
def PyServerHandlers.Gate (h : PyServerHandlers) (s : Option PyInstance) (log : Log) : Prop :=
  h.startup.sessionFactory = true → s = none → OpenFailed log ∧ h.startup.inner.opensSession = false

theorem PyServerHandlers.Gate.of_prefix {h : PyServerHandlers} {s : Option PyInstance} {log log' : Log}
    (hg : h.Gate s log) (hl : log <+: log') : h.Gate s log' := by
  intro hf hs
  obtain ⟨⟨login, e, hmem⟩, hno⟩ := hg hf hs
  exact ⟨⟨login, e, hl.subset hmem⟩, hno⟩

/-- What holds where a startup handler makes a call, which is never one of the query handlers' callbacks. -/
structure AtStartup (h : PyExtendedHandler) (w : WireWorld) (c : Call) : Prop where
  inv : Inv h w.st w.log
  keepsSession : ∀ on, c ≠ .python (.closeSession on)
  on : c.on = none
  reportsNothing : ∀ state e, c ≠ .processError state e

/-- What holds where a handler of a connection makes a call, and where an error is reported. -/
inductive OnWire (h : PyServerHandlers) (w : WireWorld) (c : Call) : Prop where
  | handler (s : Option PyInstance) (hc : AtCall h.extendedQuery s w c)
      (hg : c.on ≠ none → h.Gate s w.log ∨ StartupRefused w.log)
  | report (state : PgWireConnectionState) (e : PgWireError) (hw : Inv h.extendedQuery w.st w.log)
      (hc : c = .processError state e)

theorem atStartup_of_plain {h : PyExtendedHandler} {w : WireWorld} {c : Call} (hw : Inv h w.st w.log)
    (hc : c.plain = true) : AtStartup h w c :=
  ⟨hw, keepsSession_of_plain hc, on_of_plain hc, reportsNothing_of_plain hc⟩

theorem AtStartup.onWire {h : PyServerHandlers} {w : WireWorld} {c : Call} (hc : AtStartup h.extendedQuery w c) :
    OnWire h w c :=
  .handler none (atCall_of_inv hc.inv hc.keepsSession hc.on hc.reportsNothing) fun hon => absurd hc.on hon

section OnWire

variable {h : PyServerHandlers} {w : WireWorld} {c : Call}

theorem OnWire.permitted (hc : OnWire h w c) : Permitted w.log c := by
  cases hc with
  | handler s hc => exact hc.permitted
  | report state e hw hc =>
    subst hc
    trivial

theorem OnWire.keepsSession (hc : OnWire h w c) (on : PyInstance) : c ≠ .python (.closeSession on) := by
  cases hc with
  | handler s hc => exact hc.keepsSession on
  | report state e hw hc => simp [hc]

theorem OnWire.locked (hc : OnWire h w c) : w.st.resources.closing = c.isClose := by
  cases hc with
  | handler s hc => exact hc.locked
  | report state e hw hc =>
    subst hc
    exact hw.unlocked

theorem OnWire.inv (hc : OnWire h w c) : Inv h.extendedQuery w.st.unlockClosing w.log := by
  cases hc with
  | handler s hc => exact hc.inv
  | report state e hw hc => rwa [unlock_of_unlocked hw.unlocked]

end OnWire

/-- What holds between two messages. -/
inductive Quiescent (h : PyServerHandlers) (w : WireWorld) : Prop where
  | starting (hw : Starting h.extendedQuery none w) (hs : w.st.state.isStartup = true) (hi : w.st.installed = false)
      (hu : ¬ StartupRefused w.log)
  | ready (s : Option PyInstance) (hl : Live h.extendedQuery s w) (hg : h.Gate s w.log) (hu : ¬ StartupRefused w.log)
  | stranded (hw : Stranded h.extendedQuery w)

theorem Quiescent.inv {h : PyServerHandlers} {w : WireWorld} (hq : Quiescent h w) :
    Inv h.extendedQuery w.st w.log := by
  cases hq with
  | starting hw => exact hw.inv
  | ready s hl => exact hl.inv
  | stranded hw => exact hw.inv

theorem starting_freshWorld (h : PyExtendedHandler) (secure : Bool) (host : String) :
    Starting h none (freshWorld secure host) := by
  refine ⟨⟨rfl, fun n => .absent rfl rfl rfl, fun n => .absent rfl rfl rfl,
    fun k => ⟨?_, by simp [freshWorld, Conn.accept]⟩, by simp [freshWorld, Conn.accept], rfl⟩,
    fun n => ⟨rfl, rfl⟩, rfl⟩
  rintro ⟨login, hk⟩
  cases hk

theorem quiescent_freshWorld (h : PyServerHandlers) (secure : Bool) (host : String) :
    Quiescent h (freshWorld secure host) :=
  .starting (starting_freshWorld _ _ _) rfl rfl not_startupRefused_nil

/-! ### What startup leaves alone -/

/-- The four maps. -/
def Conn.stores (c : Conn) : StrMap PortalEntry × StrMap PyInstance × PortalStore :=
  (c.resources.portals, c.resources.statements, c.store)

/-- The four maps, and whether the session extensions hold the `PythonPortals`. -/
def Conn.equipment (c : Conn) := (c.stores, c.installed)

section Spares

variable {K : Crypto}

theorem initializePythonSession_spares : Prog.Spares Conn.equipment initializePythonSession := by
  refine Prog.spares_get.bind fun client => Prog.Spares.bind ?_ fun inst => ?_
  · refine (Prog.spares_awaitAt _).bind fun reply => ?_
    rcases reply with ⟨ref, r⟩
    cases r with
    | ok a => exact Prog.spares_pure _
    | error e => exact Prog.spares_fail _
  · refine Prog.Spares.bind ?_ fun _ => ?_
    · exact Prog.spares_modify fun _ => rfl
    · exact Prog.spares_modify fun _ => rfl

theorem finishAuthentication_spares : Prog.Spares Conn.equipment finishAuthentication := by
  refine (Prog.spares_await _).bind fun _ => (Prog.spares_await _).bind fun _ => Prog.Spares.bind ?_ fun _ =>
    Prog.spares_await _
  exact Prog.spares_modify fun _ => rfl

theorem pgwireOnStartup_spares (message : PgWireFrontendMessage) :
    Prog.Spares Conn.equipment (pgwireOnStartup message) := by
  refine (Prog.spares_await _).bind fun step => ?_
  have finish : Prog.Spares Conn.equipment (do
      if ← Prog.ofExcept step.result then finishAuthentication else pure ()) := by
    refine (Prog.spares_ofExcept _).bind fun done => ?_
    cases done with
    | true => exact finishAuthentication_spares
    | false => exact Prog.spares_pure ()
  have challenge : Prog.Spares Conn.equipment (do
      if step.challenges then
        Prog.modify fun client => { client with state := .authenticationInProgress }
      else pure ()
      if ← Prog.ofExcept step.result then finishAuthentication else pure ()) := by
    by_cases hchallenges : step.challenges = true
    · rw [if_pos hchallenges]
      refine Prog.Spares.bind ?_ fun _ => finish
      exact Prog.spares_modify fun _ => rfl
    · rw [if_neg hchallenges]
      exact finish
  cases message with
  | startup startup =>
    by_cases hsaves : step.savesParameters = true
    · simp only [if_pos hsaves]
      refine Prog.Spares.bind ?_ fun _ => challenge
      exact Prog.spares_modify fun _ => rfl
    · simp only [if_neg hsaves]
      exact challenge
  | _ => exact challenge

theorem start_spares (x : ScramVerifierStartupHandler) (mechanism : String) (data : Option Bytes) :
    Prog.Spares Conn.equipment (x.start K mechanism data) := by
  refine (Prog.spares_ofOutcome _).bind fun data => (Prog.spares_ofOutcome _).bind fun first => ?_
  refine Prog.spares_get.bind fun client => (Prog.spares_ofOutcome _).bind fun cbindData => ?_
  refine (callPython_spares _ _).bind fun found => (Prog.spares_await _).bind fun nonce => ?_
  exact Prog.spares_pure _

theorem scramOnStartup_spares (x : ScramVerifierStartupHandler) (message : PgWireFrontendMessage) :
    Prog.Spares Conn.equipment (x.onStartup K message) := by
  cases message with
  | startup startup =>
    refine (Prog.spares_await _).bind fun _ => (Prog.spares_ofExcept _).bind fun _ => Prog.Spares.bind ?_ fun _ => ?_
    · exact Prog.spares_modify fun _ => rfl
    refine Prog.Spares.bind ?_ fun _ => Prog.spares_get.bind fun _ => Prog.spares_await _
    exact Prog.spares_modify fun _ => rfl
  | passwordMessageFamily message =>
    have take : Prog.Spares Conn.equipment ScramVerifierStartupHandler.takeState := by
      refine Prog.spares_get.bind fun _ => Prog.Spares.bind ?_ fun _ => Prog.spares_pure _
      exact Prog.spares_modify fun _ => rfl
    refine take.bind fun state => ?_
    cases state with
    | initial =>
      refine (Prog.spares_ofExcept _).bind fun initial => (start_spares x _ _).bind fun exchange => ?_
      refine Prog.Spares.bind ?_ fun _ => Prog.spares_await _
      exact Prog.spares_modify fun _ => rfl
    | serverFirstSent exchange =>
      refine (Prog.spares_ofExcept _).bind fun response => Prog.Spares.bind ?_ fun serverFinal => ?_
      · exact (Prog.spares_mark _).bind fun _ => Prog.spares_ofOutcome _
      have finish : Prog.Spares Conn.equipment (do
          send (.authenticationSaslFinal (Text.utf8 serverFinal))
          let pid ← await .generatePid
          Prog.modify fun client => { client with pidAndSecretKey := some pid }
          Prog.modify fun client => { client with registered := true }
          finishAuthentication) := by
        refine (Prog.spares_await _).bind fun _ => (Prog.spares_await _).bind fun pid => Prog.Spares.bind ?_ fun _ => ?_
        · exact Prog.spares_modify fun _ => rfl
        refine Prog.Spares.bind ?_ fun _ => finishAuthentication_spares
        exact Prog.spares_modify fun _ => rfl
      by_cases hfactory : x.sessionFactory = true
      · simp only [if_pos hfactory]
        exact initializePythonSession_spares.bind fun _ => finish
      · simp only [if_neg hfactory]
        exact finish
    | done => exact Prog.spares_fail _
  | _ => exact Prog.spares_pure ()

theorem innerOnStartup_spares (x : PyStartupHandler) (message : PgWireFrontendMessage) :
    Prog.Spares Conn.equipment (x.innerOnStartup K message) := by
  rw [PyStartupHandler.innerOnStartup]
  cases x.inner with
  | scramVerifier y => exact scramOnStartup_spares y message
  | _ => exact pgwireOnStartup_spares message

/-- **Startup** leaves the four maps alone. -/
theorem onStartup_spares (x : PyStartupHandler) (message : PgWireFrontendMessage) :
    Prog.Spares Conn.stores (x.onStartup K message) := by
  have inner : Prog.Spares Conn.stores (x.innerOnStartup K message) := (innerOnStartup_spares x message).comp Prod.fst
  have openSession : Prog.Spares Conn.stores (do
      let client ← Prog.get
      if client.state = .readyForQuery ∧ client.pySession.isNone then
        if x.sessionFactory then initializePythonSession else pure ()
      else pure ()) := by
    refine Prog.spares_get.bind fun client => ?_
    split
    · split
      · exact initializePythonSession_spares.comp Prod.fst
      · exact Prog.spares_pure ()
    · exact Prog.spares_pure ()
  refine Prog.spares_get.bind fun client => ?_
  split
  · exact Prog.spares_fail _
  refine inner.bind fun _ => Prog.spares_get.bind fun client => ?_
  by_cases hinstalls : client.state = .readyForQuery ∧ ¬ client.installed = true
  · simp only [if_pos hinstalls]
    refine Prog.Spares.bind ?_ fun _ => openSession
    exact Prog.spares_modify fun _ => rfl
  · simp only [if_neg hinstalls]
    exact openSession

end Spares

/-! ### Startup -/

section Startup

variable {h : PyExtendedHandler} {s : Option PyInstance} {w : WireWorld}

theorem Starting.quiet {c : Call} {r : c.Reply} (hw : Starting h s w) (he : Quiet (.called c r)) :
    Starting h s (w.called c r) :=
  ⟨hw.inv.quiet he, hw.fresh, hw.pySession⟩

theorem Starting.noted (hw : Starting h s w) (n : Verified) : Starting h s (w.noted n) :=
  ⟨hw.inv.quiet ⟨rfl, rfl, fun login he => by cases he⟩, hw.fresh, hw.pySession⟩

theorem Starting.congr {c : Conn} (hw : Starting h s w) (hr : c.resources = w.st.resources)
    (hs : c.store = w.st.store) (hp : c.pySession = w.st.pySession) : Starting h s ⟨c, w.log⟩ :=
  ⟨hw.inv.congr hr hs hp, fun n => by rw [hr]; exact hw.fresh n, hp.trans hw.pySession⟩

theorem Starting.live (hw : Starting h s w) (hi : w.st.installed = true) (hs : w.st.state.isStartup = false) :
    Live h s w :=
  ⟨hw.inv, hi, hs, hw.pySession⟩

/-- The session enters both places at once, or neither. -/
theorem initializePythonSession_sat (hw : Starting h none w) {Q : Outcome PgWireError Unit → WireWorld → Prop}
    (hok : ∀ k w', Starting h (some (.session k)) w' → w'.st.state = w.st.state →
      w'.st.installed = w.st.installed → Q (.ok ()) w')
    (herr : ∀ e w', Starting h none w' → OpenFailed w'.log → w'.st = w.st → Q (.err e) w') :
    Prog.Sat (AtStartup h) initializePythonSession w Q := by
  simp only [initializePythonSession, Prog.sat_bind, Prog.sat_get, Prog.after_ok, sat_callPythonRef, Prog.sat_modify,
    Prog.after_err]
  refine ⟨⟨hw.inv, by simp, rfl, by simp⟩, fun r => ?_, fun e => ?_⟩
  · refine hok w.log.length _ ⟨?_, hw.fresh, rfl⟩ rfl rfl
    exact hw.inv.sessionOpened (hw.inv.pySession.symm.trans hw.pySession) hw.fresh
  · refine herr _ _ (hw.quiet ⟨rfl, rfl, fun login he => by cases he⟩) ⟨w.st.loginInfo, e, ?_⟩ rfl
    exact List.mem_append_right _ (List.mem_singleton.mpr rfl)

theorem finishAuthentication_sat (hw : Starting h s w) {Q : Outcome PgWireError Unit → WireWorld → Prop}
    (hQ : ∀ w', Starting h s w' → w'.st.state = .readyForQuery → Q (.ok ()) w') :
    Prog.Sat (AtStartup h) finishAuthentication w Q := by
  simp only [finishAuthentication, Prog.sat_bind, Prog.sat_await, Prog.after_ok, Prog.sat_modify]
  refine ⟨atStartup_of_plain hw.inv rfl, fun r => ?_⟩
  have hw1 : Starting h s (w.called (.send .authenticationOk) r) := hw.quiet (quiet_of_plain rfl)
  refine ⟨atStartup_of_plain hw1.inv rfl, fun r' => ?_⟩
  have hw2 := hw1.quiet (c := .announce) (r := r') (quiet_of_plain rfl)
  have hw3 : Starting h s ⟨{ w.st with state := .readyForQuery }, _⟩ := hw2.congr rfl rfl rfl
  exact ⟨atStartup_of_plain hw3.inv rfl, fun r'' => hQ _ (hw3.quiet (quiet_of_plain rfl)) rfl⟩

/-- How a startup handler ends that opens a session if `opens` says so. -/
def Started (h : PyExtendedHandler) (opens : Bool) : Outcome PgWireError Unit → WireWorld → Prop :=
  Ends
    (fun w => Starting h none w ∧ w.st.state.isStartup = true ∨
      ∃ s, Starting h s w ∧ w.st.state = .readyForQuery ∧ (opens = true → s ≠ none))
    (fun w => Starting h none w ∧ w.st.state.isStartup = true)

theorem pgwireOnStartup_sat (hw : Starting h none w) (hs : w.st.state.isStartup = true)
    (message : PgWireFrontendMessage) :
    Prog.Sat (AtStartup h) (pgwireOnStartup message) w (Started h false) := by
  simp only [pgwireOnStartup, Prog.sat_bind, Prog.sat_await]
  refine ⟨atStartup_of_plain hw.inv rfl, fun step => ?_⟩
  have finish : ∀ {w' : WireWorld}, Starting h none w' → w'.st.state.isStartup = true → Prog.Sat (AtStartup h)
      (do if ← Prog.ofExcept step.result then finishAuthentication else pure ()) w' (Started h false) := by
    intro w' hw' hs'
    simp only [Prog.sat_bind, Prog.sat_ofExcept, Prog.after_ok, Prog.after_err]
    refine ⟨fun b _ => ?_, fun _ _ => ⟨hw', hs'⟩⟩
    split
    · exact finishAuthentication_sat hw' fun w'' hw'' hs'' => .inr ⟨none, hw'', hs'', by simp⟩
    · exact .inl ⟨hw', hs'⟩
  have challenge : ∀ {w' : WireWorld}, Starting h none w' → w'.st.state.isStartup = true → Prog.Sat (AtStartup h)
      (do
        if step.challenges then
          Prog.modify fun client => { client with state := .authenticationInProgress }
        else pure ()
        if ← Prog.ofExcept step.result then finishAuthentication else pure ()) w' (Started h false) := by
    intro w' hw' hs'
    split
    · rw [Prog.sat_bind, Prog.sat_modify]
      exact finish (hw'.congr rfl rfl rfl) rfl
    · exact finish hw' hs'
  have hw1 : Starting h none (w.called (.authStep message) step) := hw.quiet (quiet_of_plain rfl)
  rw [Prog.after_ok]
  split
  · split
    · rw [Prog.sat_bind, Prog.sat_modify]
      exact challenge (hw1.congr rfl rfl rfl) hs
    · exact challenge hw1 hs
  · exact challenge hw1 hs

/-! ### The verifier handler -/

/-- Only the log grew, or nothing did. -/
def Kept {α : Type} (h : PyExtendedHandler) (s : Option PyInstance) (c : Conn) :
    Outcome PgWireError α → WireWorld → Prop :=
  Ends (fun w => Starting h s w ∧ w.st = c) (fun w => Starting h s w ∧ w.st = c)

theorem ofOutcome_sat {α : Type} {C : WireWorld → Call → Prop} (hw : Starting h s w) {o : Outcome PgWireError α}
    (ho : o ≠ .panic) : Prog.Sat C (Prog.ofOutcome o) w (Kept h s w.st) := by
  rw [Prog.sat_ofOutcome]
  cases o with
  | ok a => exact ⟨hw, rfl⟩
  | err e => exact ⟨hw, rfl⟩
  | panic => exact absurd rfl ho

/-- **What `start` does**: it parses, negotiates, looks the user up and draws a nonce. -/
theorem start_spec (K : Crypto) (hs : ScramVerifierStartupHandler) {mechanism : String} {data : Option Bytes}
    {C : WireWorld → Call → Prop} {Q : Outcome PgWireError Exchange → WireWorld → Prop}
    (hcall : C w (.python (.getScramVerifier w.st.loginInfo)))
    (hdraw : ∀ found, C (w.called (.python (.getScramVerifier w.st.loginInfo)) (.ok found)) .randomNonce)
    (herr : ∀ e, Q (.err e) w)
    (hraise : ∀ e, Q (.err (pyErrToPywire e)) (w.called (.python (.getScramVerifier w.st.loginInfo)) (.error e)))
    (hok : ∀ d first cbindData found nonce verifier mock, data = some d →
      (decodeUtf8 d >>= ClientFirst.parse) = .ok first →
      negotiate mechanism first.cbindFlag (hs.certificate w.st) = .ok cbindData →
      (mock = false → found = some verifier) →
      Q (.ok (.new first cbindData (Base64.encode nonce.1) (w.st.loginInfo.user.getD "") verifier mock))
        ((w.called (.python (.getScramVerifier w.st.loginInfo)) (.ok found)).called .randomNonce nonce)) :
    Prog.Sat C (hs.start K mechanism data) w Q := by
  simp only [ScramVerifierStartupHandler.start, Prog.sat_bind, Prog.sat_ofOutcome]
  cases data with
  | none => exact herr _
  | some data =>
    simp only [Outcome.okOr_some, Prog.after_ok, Prog.sat_bind, Prog.sat_ofOutcome]
    cases hparse : (decodeUtf8 data >>= ClientFirst.parse) with
    | panic =>
      exact absurd hparse (Outcome.bind_ne_panic (decodeUtf8_ne_panic data) fun text _ =>
        ClientFirst.parse_ne_panic text)
    | err e => exact herr e
    | ok first =>
      simp only [Prog.after_ok, Prog.sat_bind, Prog.sat_get, Prog.sat_ofOutcome]
      cases hneg : negotiate mechanism first.cbindFlag (hs.certificate w.st) with
      | panic => exact absurd hneg (negotiate_ne_panic _ _ _)
      | err e => exact herr e
      | ok cbindData =>
        simp only [Prog.after_ok, Prog.sat_bind, ScramVerifierStartupHandler.lookup, sat_callPython, Prog.after_err,
          Prog.sat_await, Prog.sat_pure]
        refine ⟨hcall, fun found => ⟨hdraw found, fun nonce => ?_⟩, hraise⟩
        cases found with
        | none => exact hok data first cbindData none nonce _ true rfl hparse hneg (by simp)
        | some verifier => exact hok data first cbindData _ nonce verifier false rfl hparse hneg fun _ => rfl

theorem start_sat (K : Crypto) (hs : ScramVerifierStartupHandler) (hw : Starting h s w) (mechanism : String)
    (data : Option Bytes) : Prog.Sat (AtStartup h) (hs.start K mechanism data) w (Kept h s w.st) := by
  have hlookup : ∀ r, Starting h s (w.called (.python (.getScramVerifier w.st.loginInfo)) r) :=
    fun r => hw.quiet ⟨rfl, rfl, fun login he => by cases he⟩
  refine start_spec K hs ⟨hw.inv, by simp, rfl, by simp⟩ (fun found => atStartup_of_plain (hlookup _).inv rfl) (fun e => ⟨hw, rfl⟩)
    (fun e => ⟨hlookup _, rfl⟩) fun d first cbindData found nonce verifier mock _ _ _ _ => ⟨?_, rfl⟩
  exact (hlookup _).quiet (quiet_of_plain rfl)

/-- **The session is open before the client hears of success**. -/
theorem scramOnStartup_sat (K : Crypto) (hs : ScramVerifierStartupHandler) (hw : Starting h none w)
    (hphase : w.st.state.isStartup = true) (message : PgWireFrontendMessage) :
    Prog.Sat (AtStartup h) (hs.onStartup K message) w (Started h hs.sessionFactory) := by
  cases message with
  | startup startup =>
    simp only [ScramVerifierStartupHandler.onStartup, Prog.sat_bind, Prog.sat_await, Prog.after_ok, Prog.sat_ofExcept,
      Prog.sat_modify, Prog.sat_get, Prog.after_err]
    refine ⟨atStartup_of_plain hw.inv rfl, fun r => ?_⟩
    have hw1 : Starting h none (w.called (.protocolNegotiation startup) r) := hw.quiet (quiet_of_plain rfl)
    refine ⟨fun _ _ => ?_, fun _ _ => ⟨hw1, hphase⟩⟩
    have hw2 : Starting h none ⟨{ Conn.saveStartupParameters startup w.st with state := .authenticationInProgress }, _⟩ :=
      hw1.congr rfl rfl rfl
    exact ⟨atStartup_of_plain hw2.inv rfl, fun r' => .inl ⟨hw2.quiet (quiet_of_plain rfl), rfl⟩⟩
  | passwordMessageFamily message =>
    simp only [ScramVerifierStartupHandler.onStartup, ScramVerifierStartupHandler.takeState, Prog.sat_bind,
      Prog.sat_get, Prog.after_ok, Prog.sat_modify, Prog.sat_pure]
    -- from here on the handler's state is `done` until it is put back
    have hw1 : Starting h none (w.modify fun client => { client with scram := .done }) := hw.congr rfl rfl rfl
    split
    · simp only [Prog.sat_bind, Prog.sat_ofExcept, Prog.after_ok, Prog.after_err]
      refine ⟨fun initial _ => ?_, fun _ _ => ⟨hw1, hphase⟩⟩
      refine (start_sat K hs hw1 _ _).post ?_
      rintro (x | e | _) w2 hw2
      · simp only [Prog.after_ok, Prog.sat_bind, Prog.sat_modify, Prog.sat_await]
        have hw3 : Starting h none ⟨{ w2.st with scram := .serverFirstSent x }, _⟩ := hw2.1.congr rfl rfl rfl
        refine ⟨atStartup_of_plain hw3.inv rfl, fun r => .inl ⟨hw3.quiet (quiet_of_plain rfl), ?_⟩⟩
        exact (congrArg (fun c : Conn => c.state.isStartup) hw2.2).trans hphase
      · exact ⟨hw2.1, (congrArg (fun c : Conn => c.state.isStartup) hw2.2).trans hphase⟩
      · exact hw2
    · rename_i x _
      simp only [Prog.sat_bind, Prog.sat_ofExcept, Prog.after_ok, Prog.after_err, ScramVerifierStartupHandler.verify,
        Prog.sat_mark]
      refine ⟨fun response _ => ?_, fun _ _ => ⟨hw1, hphase⟩⟩
      have hw2 := hw1.noted ⟨x, response, x.verify K response⟩
      refine (ofOutcome_sat hw2 (x.verify_ne_panic response)).post ?_
      rintro (serverFinal | e | _) w3 hw3
      · have finish : ∀ {s' : Option PyInstance} {w' : WireWorld}, Starting h s' w' →
            (hs.sessionFactory = true → s' ≠ none) → Prog.Sat (AtStartup h)
              (do
                send (.authenticationSaslFinal (Text.utf8 serverFinal))
                let pid ← await .generatePid
                Prog.modify fun client => { client with pidAndSecretKey := some pid }
                Prog.modify fun client => { client with registered := true }
                finishAuthentication) w' (Started h hs.sessionFactory) := by
          intro s' w' hw' hs'
          simp only [Prog.sat_bind, Prog.sat_await, Prog.after_ok, Prog.sat_modify]
          refine ⟨atStartup_of_plain hw'.inv rfl, fun r => ?_⟩
          have hw4 : Starting h s' (w'.called (.send (.authenticationSaslFinal (Text.utf8 serverFinal))) r) :=
            hw'.quiet (quiet_of_plain rfl)
          refine ⟨atStartup_of_plain hw4.inv rfl, fun pid => ?_⟩
          have hw5 := hw4.quiet (c := .generatePid) (r := pid) (quiet_of_plain rfl)
          have hw6 : Starting h s' ⟨{ w'.st with pidAndSecretKey := some pid, registered := true }, _⟩ :=
            hw5.congr rfl rfl rfl
          exact finishAuthentication_sat hw6 fun w7 hw7 hs7 => .inr ⟨s', hw7, hs7, hs'⟩
        have hphase3 : w3.st.state.isStartup = true :=
          (congrArg (fun c : Conn => c.state.isStartup) hw3.2).trans hphase
        rw [Prog.after_ok]
        split
        · rw [Prog.sat_bind]
          refine initializePythonSession_sat hw3.1 (fun k w4 hw4 _ _ => finish hw4 (by simp)) fun e w4 hw4 _ hst => ?_
          exact ⟨hw4, (congrArg (fun c : Conn => c.state.isStartup) hst).trans hphase3⟩
        · rename_i hno
          exact finish hw3.1 fun hyes => absurd hyes hno
      · exact ⟨hw3.1, (congrArg (fun c : Conn => c.state.isStartup) hw3.2).trans hphase⟩
      · exact hw3
    · exact ⟨hw1, hphase⟩
  | _ => exact .inl ⟨hw, hphase⟩

end Startup

/-! ### The handlers of one configuration -/

/-- What the handlers of one configuration have in common. -/
structure PyServerHandlers.Wired (h : PyServerHandlers) : Prop where
  extended : h.simpleQuery.extended = h.extendedQuery
  sessionFactory : ∀ inner, h.startup.inner = .scramVerifier inner → inner.sessionFactory = h.startup.sessionFactory

theorem HandlerConfig.build_eq_ok {configureCertificate : Bytes → Except PgWireError Unit} {self : HandlerConfig}
    {h : PyServerHandlers} (hb : self.build configureCertificate = .ok h) :
    ∃ inner, self.buildStartup configureCertificate = .ok inner ∧
      h = ⟨⟨self.extendedQuery⟩, ⟨inner, self.requireTls, self.sessionFactory⟩, self.extendedQuery⟩ := by
  unfold HandlerConfig.build at hb
  cases hi : self.buildStartup configureCertificate with
  | ok inner =>
    rw [hi] at hb
    cases hb
    exact ⟨inner, rfl, rfl⟩
  | err e => rw [hi] at hb; cases hb
  | panic => rw [hi] at hb; cases hb

/-- The inner handler for an authentication method. -/
theorem HandlerConfig.buildStartup_eq_ok {configureCertificate : Bytes → Except PgWireError Unit}
    {self : HandlerConfig} {inner : PyStartupInner} (hb : self.buildStartup configureCertificate = .ok inner) :
    (self.authMethod ≠ .scramVerifier ∧ inner.opensSession = false ∧ ∀ v, inner ≠ .scramVerifier v) ∨
      self.authMethod = .scramVerifier ∧ ∃ config, self.scramVerifier = some config ∧
        inner = .scramVerifier ⟨config, self.sessionFactory⟩ := by
  unfold HandlerConfig.buildStartup at hb
  cases hm : self.authMethod with
  | trust =>
    rw [hm] at hb
    cases hb
    exact .inl ⟨by simp [*], rfl, by simp⟩
  | cleartext =>
    cases ha : self.auth with
    | none => rw [hm, ha] at hb; cases hb
    | some auth =>
      rw [hm, ha] at hb
      cases hb
      exact .inl ⟨by simp [*], rfl, by simp⟩
  | scram =>
    cases ha : self.auth with
    | none => rw [hm, ha] at hb; cases hb
    | some auth =>
      simp only [hm, ha, Outcome.expect_some, Outcome.ok_bind] at hb
      split at hb
      · split at hb
        · cases hb
          exact .inl ⟨by simp [*], rfl, by simp⟩
        · cases hb
      · cases hb
        exact .inl ⟨by simp [*], rfl, by simp⟩
  | scramVerifier =>
    cases hc : self.scramVerifier with
    | none => rw [hm, hc] at hb; cases hb
    | some config =>
      rw [hm, hc] at hb
      cases hb
      exact .inr ⟨rfl, config, rfl, rfl⟩

theorem HandlerConfig.wired {configureCertificate : Bytes → Except PgWireError Unit} {self : HandlerConfig}
    {h : PyServerHandlers} (hb : self.build configureCertificate = .ok h) : h.Wired := by
  obtain ⟨inner, hi, rfl⟩ := build_eq_ok hb
  refine ⟨rfl, ?_⟩
  rintro v rfl
  rcases buildStartup_eq_ok hi with ⟨-, -, hno⟩ | ⟨-, config, -, he⟩
  · exact absurd rfl (hno v)
  · cases he
    rfl

theorem Quiescent.quiet {h : PyServerHandlers} {w : WireWorld} {c : Call} {r : c.Reply} (hq : Quiescent h w)
    (hc : c.plain = true) : Quiescent h (w.called c r) := by
  have hstill : ∀ {log : Log}, ¬ StartupRefused log → ¬ StartupRefused (log ++ [.called c r]) := by
    intro log hu hrefused
    rcases startupRefused_concat.mp hrefused with hrefused | he
    · exact hu hrefused
    · rw [startupRefusal_called (reportsNothing_of_plain hc)] at he
      cases he
  cases hq with
  | starting hw hs hi hu => exact .starting (hw.quiet (quiet_of_plain hc)) hs hi (hstill hu)
  | ready s hl hg hu =>
    exact .ready s (hl.quiet (quiet_of_plain hc)) (hg.of_prefix (List.prefix_append _ _)) (hstill hu)
  | stranded hw => exact .stranded (hw.quiet (quiet_of_plain hc))

/-- A handler refuses no startup. -/
theorem sat_unrefused {α : Type} {C : WireWorld → Call → Prop} {t : Proc α} {w : WireWorld}
    {Q : Outcome PgWireError α → WireWorld → Prop} (h : Prog.Sat C t w Q)
    (hC : ∀ w c, C w c → ∀ state e, c ≠ .processError state e) (hu : ¬ StartupRefused w.log) :
    Prog.Sat C t w fun o w' => Q o w' ∧ ¬ StartupRefused w'.log := by
  refine h.keep (I := fun log => ¬ StartupRefused log) ?_ ?_ hu
  · intro w c r hc hu hrefused
    rcases startupRefused_concat.mp hrefused with hrefused | he
    · exact hu hrefused
    · rw [startupRefusal_called (hC w c hc)] at he
      cases he
  · intro log n hu hrefused
    rcases startupRefused_concat.mp hrefused with hrefused | he
    · exact hu hrefused
    · cases he

/-! ### The loop over the messages -/

namespace PyServerHandlers

variable {K : Crypto} {h : PyServerHandlers} {w : WireWorld}

theorem innerOnStartup_sat (hw : Starting h.extendedQuery none w) (hphase : w.st.state.isStartup = true)
    (message : PgWireFrontendMessage) :
    Prog.Sat (AtStartup h.extendedQuery) (h.startup.innerOnStartup K message) w
      (Started h.extendedQuery h.startup.inner.opensSession) := by
  unfold PyStartupHandler.innerOnStartup
  cases h.startup.inner with
  | noop => exact pgwireOnStartup_sat hw hphase message
  | cleartext => exact pgwireOnStartup_sat hw hphase message
  | scram iterations certificate => exact pgwireOnStartup_sat hw hphase message
  | scramVerifier inner => exact scramOnStartup_sat K inner hw hphase message

/-- A connection that waits for the next startup message, or has everything installed. -/
def Admits (h : PyServerHandlers) (w : WireWorld) : Prop :=
  (Starting h.extendedQuery none w ∧ w.st.state.isStartup = true ∧ w.st.installed = false) ∨
    ∃ s, Live h.extendedQuery s w ∧ h.Gate s w.log

theorem Admits.quiescent (ha : h.Admits w) (hu : ¬ StartupRefused w.log) : Quiescent h w := by
  rcases ha with ⟨hw, hs, hi⟩ | ⟨s, hl, hg⟩
  · exact .starting hw hs hi hu
  · exact .ready s hl hg hu

/-- The resources are installed, and a session that is still missing is opened. -/
theorem startup_onStartup_sat (hw : Starting h.extendedQuery none w) (hphase : w.st.state.isStartup = true)
    (hi : w.st.installed = false) (message : PgWireFrontendMessage) :
    Prog.Sat (AtStartup h.extendedQuery) (h.startup.onStartup K message) w (Ends h.Admits h.Admits) := by
  simp only [PyStartupHandler.onStartup, Prog.sat_bind, Prog.sat_get, Prog.after_ok]
  split
  · exact Or.inl ⟨hw, hphase, hi⟩
  have openSession : ∀ {s : Option PyInstance} {w' : WireWorld}, Starting h.extendedQuery s w' →
      w'.st.state = .readyForQuery → w'.st.installed = true → (h.startup.inner.opensSession = true → s ≠ none) →
      Prog.Sat (AtStartup h.extendedQuery)
        (do
          let client ← Prog.get
          if client.state = .readyForQuery ∧ client.pySession.isNone then
            if h.startup.sessionFactory then initializePythonSession else pure ()
          else pure ()) w' (Ends h.Admits h.Admits) := by
    intro s w' hw' hs' hi' hopens
    have hready : w'.st.state.isStartup = false := by rw [hs']; rfl
    simp only [Prog.sat_bind, Prog.sat_get, Prog.after_ok]
    split
    · rename_i hc
      have hnone : s = none := by
        rw [← hw'.pySession]
        exact Option.isNone_iff_eq_none.mp hc.2
      subst hnone
      have hclosed : h.startup.inner.opensSession = false := by
        by_contra hne
        exact hopens (by simpa using hne) rfl
      split
      · refine initializePythonSession_sat hw' (fun k w'' hw'' hs'' hi'' => ?_) fun e w'' hw'' hf hst => ?_
        · exact .inr ⟨_, hw''.live (hi''.trans hi') (by rw [hs'', hready]), fun _ hs => by cases hs⟩
        · exact .inr ⟨_, hw''.live (by rw [hst, hi']) (by rw [hst, hready]), fun _ _ => ⟨hf, hclosed⟩⟩
      · rename_i hfactory
        exact .inr ⟨_, hw'.live hi' hready, fun hyes => absurd hyes hfactory⟩
    · rename_i hc
      refine .inr ⟨s, hw'.live hi' hready, fun _ hnone => absurd ⟨hs', ?_⟩ hc⟩
      rw [hw'.pySession, hnone]
      rfl
  rw [Prog.sat_bind]
  have hspared : Prog.Spares Conn.installed (h.startup.innerOnStartup K message) :=
    (innerOnStartup_spares h.startup message).comp Prod.snd
  refine ((innerOnStartup_sat hw hphase message).both (hspared w)).post ?_
  rintro (_ | e | _) w1 ⟨hw1, hi1⟩
  · simp only [Prog.after_ok, Prog.sat_bind, Prog.sat_get]
    rcases hw1 with ⟨hw1, hs1⟩ | ⟨s, hw1, hs1, hopens⟩
    · have hno : w1.st.state ≠ .readyForQuery := by
        intro he
        rw [he] at hs1
        cases hs1
      simp only [hno, false_and, if_false, Prog.sat_bind, Prog.sat_get, Prog.sat_pure, Prog.after_ok]
      exact Or.inl ⟨hw1, hs1, hi1.trans hi⟩
    · split
      · rw [Prog.sat_bind, Prog.sat_modify]
        exact openSession (hw1.congr rfl rfl rfl) hs1 rfl hopens
      · rename_i hc
        refine openSession hw1 hs1 ?_ hopens
        by_contra hi
        exact hc ⟨hs1, hi⟩
  · exact .inl ⟨hw1.1, hw1.2, hi1.trans hi⟩
  · exact hw1

theorem onMessage_sat {s : Option PyInstance} (hl : Live h.extendedQuery s w) (hwired : h.Wired)
    (message : PgWireFrontendMessage) :
    Prog.Sat (AtCall h.extendedQuery s) (h.onMessage message) w (Keeps h.extendedQuery s) := by
  cases message with
  | query query =>
    have hsimple : Live h.simpleQuery.extended s w := hwired.extended ▸ hl
    have hquery := onQuery_sat hsimple query
    rwa [hwired.extended] at hquery
  | parse message => exact onParse_sat hl message
  | bind message => exact onBind_sat hl message
  | describe message => exact onDescribe_sat hl message
  | execute message => exact onExecute_sat hl message
  | close message => exact onClose_sat hl message
  | sync => exact onSync_sat hl
  | _ => exact hl

/-- How a message ends: the connection is quiescent, or wrecked. -/
def Concludes (h : PyServerHandlers) : Outcome PgWireError Unit → WireWorld → Prop
  | .ok _, w => Quiescent h w
  | .err _, w => Quiescent h w
  | .panic, w => Wrecked h.extendedQuery w

/-- **One message** leaves the connection quiescent. -/
theorem processMessage_sat (hq : Quiescent h w) (hwired : h.Wired) (message : PgWireFrontendMessage) :
    Prog.Sat (OnWire h) (h.processMessage K message) w h.Concludes := by
  cases hq with
  | starting hw hs hi hu =>
    simp only [processMessage, Prog.sat_bind, Prog.sat_get, Prog.after_ok, hs, if_true]
    refine (sat_unrefused (startup_onStartup_sat hw hs hi message) (fun _ _ hc => hc.reportsNothing) hu).mono
      (fun _ _ hc => hc.onWire) ?_
    rintro (_ | e | _) w' ⟨ha, hu'⟩
    · exact ha.quiescent hu'
    · exact ha.quiescent hu'
    · exact ha.elim
  | ready s hl hg hu =>
    have hsat : Prog.Sat (AtCall h.extendedQuery s) (h.processMessage K message) w (Keeps h.extendedQuery s) := by
      simp only [processMessage, Prog.sat_bind, Prog.sat_get, Prog.after_ok, hl.phase, Bool.false_eq_true, if_false,
        Prog.sat_await, Prog.sat_modify]
      refine ⟨atCall_of_plain hl.inv rfl, fun turn => ?_⟩
      have hl1 := hl.quiet (c := .turn) (r := turn) (quiet_of_plain rfl)
      have hl2 : Live h.extendedQuery s ⟨{ w.st with state := turn.1.1, transactionStatus := turn.2 }, _⟩ :=
        hl1.congr rfl rfl rfl rfl turn.1.2
      exact onMessage_sat hl2 hwired message
    refine ((sat_unrefused hsat (fun _ _ hc => hc.reportsNothing) hu).and (Prog.sat_log _ w)).mono
      (fun w' c hc => .handler s hc.1 fun _ => .inl (hg.of_prefix hc.2)) ?_
    rintro (_ | e | _) w' ⟨⟨hl', hu'⟩, hle⟩
    · exact .ready s hl' (hg.of_prefix hle) hu'
    · exact .ready s hl' (hg.of_prefix hle) hu'
    · exact hl'.elim
  | stranded hw =>
    have hsat : Prog.Sat (AtCall h.extendedQuery none) (h.processMessage K message) w h.Concludes := by
      simp only [processMessage, Prog.sat_bind, Prog.sat_get, Prog.after_ok, hw.phase, Bool.false_eq_true, if_false,
        Prog.sat_await, Prog.sat_modify]
      refine ⟨atCall_of_plain hw.inv rfl, fun turn => ?_⟩
      have hw1 := hw.quiet (c := .turn) (r := turn) (quiet_of_plain rfl)
      have hw2 : Stranded h.extendedQuery ⟨{ w.st with state := turn.1.1, transactionStatus := turn.2 }, _⟩ :=
        hw1.congr rfl rfl rfl rfl turn.1.2
      refine (onMessage_stranded hw2 rfl message).post ?_
      rintro (_ | e | _) w' ho
      · exact .stranded (Stored.stranded ho)
      · exact .stranded (Stays.stranded ho)
      · exact ho.1
    refine (hsat.and (Prog.sat_log _ w)).mono (fun w' c hc => .handler none hc.1 fun _ => .inr ?_) fun _ _ ho => ho.1
    exact hw.refused.of_prefix hc.2

/-- **An error that is reported** leaves the connection quiescent; one that is reported during startup strands it. -/
theorem processError_sat (hq : Quiescent h w) (e : PgWireError) :
    Prog.Sat (OnWire h) (processError e) w fun o w' => (∃ ends, o = .ok ends) ∧ Quiescent h w' := by
  simp only [processError, Prog.sat_bind, Prog.sat_get, Prog.after_ok, Prog.sat_await, Prog.sat_modify, Prog.sat_pure]
  refine ⟨.report w.st.state e hq.inv rfl, fun handled => ⟨⟨_, rfl⟩, ?_⟩⟩
  have hquiet : Quiet (.called (.processError w.st.state e) handled) := ⟨rfl, rfl, fun login he => by cases he⟩
  have hstate : ((w.called (.processError w.st.state e) handled).modify (Conn.afterError handled)).st.state =
      (handled.state.map Subtype.val).getD w.st.state := rfl
  have hrefusal : startupRefusal (.called (.processError w.st.state e) handled) =
      (w.st.state.isStartup && handled.state.isSome) := rfl
  cases hq with
  | starting hw hs hi hu =>
    have hw1 : Starting h.extendedQuery none _ := (hw.quiet hquiet).congr (c := Conn.afterError handled w.st) rfl rfl rfl
    cases hset : handled.state with
    | none =>
      refine .starting hw1 ?_ hi fun hrefused => ?_
      · rw [hstate, hset]
        exact hs
      · rcases startupRefused_concat.mp hrefused with hrefused | he
        · exact hu hrefused
        · rw [hrefusal, hset, hs] at he
          cases he
    | some state =>
      -- the connection goes on to queries with nothing installed
      have hrefused : StartupRefused (w.log ++ [.called (.processError w.st.state e) handled]) :=
        startupRefused_concat.mpr (.inr (by rw [hrefusal, hset, hs]; rfl))
      refine .stranded ⟨hw1.inv, hw1.fresh, hw1.pySession, hi, ?_, hrefused, fun hp => ?_⟩
      · rw [hstate, hset]
        exact state.2
      · exact hu (hp.of_concat hquiet.opens_nothing).refused
  | ready s hl hg hu =>
    refine .ready s ((hl.quiet hquiet).congr (c := Conn.afterError handled w.st) rfl rfl rfl rfl
      (Conn.isStartup_afterError hl.phase handled)) (hg.of_prefix (List.prefix_append _ _)) fun hrefused => ?_
    rcases startupRefused_concat.mp hrefused with hrefused | he
    · exact hu hrefused
    · rw [hrefusal, hl.phase] at he
      cases he
  | stranded hw =>
    exact .stranded ((hw.quiet hquiet).congr (c := Conn.afterError handled w.st) rfl rfl rfl rfl
      (Conn.isStartup_afterError hw.phase handled))

/-- How a whole connection ends: it returns, or it is wrecked. -/
def Concluded (h : PyServerHandlers) : Outcome PgWireError Unit → WireWorld → Prop
  | .ok _, w => Quiescent h w
  | .err _, _ => False
  | .panic, w => Wrecked h.extendedQuery w

theorem Concluded.returns {o : Outcome PgWireError Unit} (hc : h.Concluded o w) (ho : o ≠ .panic) : Quiescent h w := by
  rcases o with _ | e | _
  · exact hc
  · exact hc.elim
  · exact absurd rfl ho

/-- A connection whose startup was not refused returns. -/
theorem Concluded.quiescent {o : Outcome PgWireError Unit} (hc : h.Concluded o w) (hu : ¬ StartupRefused w.log) :
    Quiescent h w := by
  refine hc.returns ?_
  rintro rfl
  exact hu (Wrecked.refused hc)

/-- However a connection ends, it holds the session that was opened. -/
theorem Concluded.session {o : Outcome PgWireError Unit} (hc : h.Concluded o w) (k : ℕ) :
    SessionOpened w.log k ↔ w.st.resources.session = some (.session k) := by
  rcases o with _ | e | _
  · exact (Quiescent.inv hc).session k
  · exact hc.elim
  · cases hc with
    | bind hw => exact hw.inv.session k
    | parse hw => exact (sessionOpened_concat k).trans ((or_iff_left (by simp)).trans (hw.inv.session k))

/-- **A whole connection**: it ends without an error, and quiescent unless it was stranded and panicked. -/
theorem processSocket_sat (hq : Quiescent h w) (hwired : h.Wired) (messages : List PgWireFrontendMessage) :
    Prog.Sat (OnWire h) (h.processSocket K messages) w h.Concluded := by
  induction messages generalizing w with
  | nil => exact hq
  | cons message messages ih =>
    simp only [processSocket, Prog.sat_bind, Prog.sat_await, Prog.after_ok, Prog.sat_attempt]
    refine ⟨(atStartup_of_plain hq.inv rfl).onWire, fun r => ?_⟩
    refine (processMessage_sat (hq.quiet (c := .receive) (r := r) rfl) hwired message).post ?_
    rintro (_ | e | _) w1 hq1
    · exact ih hq1
    · simp only [Prog.caught_err, Prog.after_ok, Prog.sat_bind]
      refine (processError_sat hq1 e).post ?_
      rintro o w2 ⟨⟨ends, rfl⟩, hq2⟩
      rw [Prog.after_ok]
      split
      · exact hq2
      · exact ih hq2
    · exact hq1

end PyServerHandlers

end Pywire
