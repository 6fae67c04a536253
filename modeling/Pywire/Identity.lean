import Pywire.Phases
import Pywire.ScramGate

/-!
# Identity: a session is opened for the user who was asked about

The verifier of a user is asked for, and the session of a user opened, with the `LoginInfo` of the connection, which
follows from the parameters of its Startup messages.  pgwire reads Startup messages until one is accepted, and no
more after that.

* `PyServerHandlers.one_identity`: **Main result** — every lookup of a verifier and every opening of a session on a
  connection are given the same login.  (`get_password` is given one inside the authentication step of pgwire.)
-/

namespace Pywire

open Async Scram

/-- The user a callback is told about. -/
def Call.login : Call → Option PyLoginInfo
  | .python (.getScramVerifier login) => some login
  | .python (.openSession login) => some login
  | _ => none

/-- The call is about nobody else. -/
def Call.About (login : PyLoginInfo) (c : Call) : Prop := ∀ login', c.login = some login' → login' = login

def Call.Anonymous (c : Call) : Prop := c.login = none

theorem Call.Anonymous.about {c : Call} (hc : c.Anonymous) (login : PyLoginInfo) : c.About login := by
  intro login' h
  rw [hc] at h
  cases h

theorem Call.Later.anonymous {c : Call} (hc : c.Later) : c.Anonymous := by
  cases c with
  | python call =>
    cases call with
    | getScramVerifier login => exact absurd hc (by simp [Call.Later, Call.ofQuery, Call.ofLoop])
    | openSession login => exact absurd hc (by simp [Call.Later, Call.ofQuery, Call.ofLoop])
    | _ => rfl
  | _ => rfl

/-! ### Startup handlers -/

section Startup

variable {login : PyLoginInfo}

/-- A routine that leaves the login alone, and tells callbacks about no other. -/
abbrev Identifies {α : Type} (login : PyLoginInfo) (t : Proc α) : Prop :=
  Prog.Maintains (fun c : Conn => c.loginInfo = login) (Call.About login) t

/-- A routine that tells callbacks about nobody. -/
abbrev Nameless {α : Type} (t : Proc α) : Prop := Prog.Maintains (fun _ : Conn => True) Call.Anonymous t

theorem identifies_await {c : Call} (hc : c.Anonymous) : Identifies login (await c) :=
  Prog.maintains_await (hc.about login)

theorem identifies_modify {g : Conn → Conn} (hg : ∀ c, (g c).loginInfo = c.loginInfo) :
    Identifies login (Prog.modify g) :=
  Prog.maintains_modify fun c hc => (hg c).trans hc

theorem nameless_await {c : Call} (hc : c.Anonymous) : Nameless (await c) := Prog.maintains_await hc

theorem nameless_modify (g : Conn → Conn) : Nameless (Prog.modify g) := Prog.maintains_modify fun _ _ => trivial

theorem Call.Anonymous.only {c : Call} (hc : c.Anonymous) (r : c.Reply) :
    Prog.Only Call.Anonymous ([.called c r] : List WireEvent) := Prog.only_called hc r

theorem about_send (m : PgWireBackendMessage) : Call.About login (.send m) :=
  Call.Anonymous.about (c := .send m) rfl login

theorem about_announce : Call.About login .announce := Call.Anonymous.about (c := .announce) rfl login

theorem about_openSession {c : Conn} (hc : c.loginInfo = login) : Call.About login (.python (.openSession c.loginInfo)) := by
  intro login' h
  rw [← hc]
  exact (Option.some.inj h).symm

theorem identifies_initializePythonSession : Identifies login initializePythonSession :=
  maintains_initializePythonSession (fun _ hc => about_openSession hc) (fun _ _ => id) fun _ _ => id

section

variable {I : Conn → Prop} {C : Call → Prop}

theorem maintains_finishAuthentication (hC : ∀ m, C (.send m)) (hannounce : C .announce)
    (hstate : ∀ c st, I c → I { c with state := st }) : Prog.Maintains I C finishAuthentication :=
  Prog.Maintains.bind (Prog.maintains_await (hC _)) fun _ =>
    Prog.Maintains.bind (Prog.maintains_await hannounce) fun _ =>
      Prog.Maintains.bind (Prog.maintains_modify fun c hc => hstate c _ hc) fun _ => Prog.maintains_await (hC _)

/-- What pgwire's own handlers maintain. -/
theorem maintains_pgwireOnStartup {message : PgWireFrontendMessage} (hstep : C (.authStep message))
    (hC : ∀ m, C (.send m)) (hannounce : C .announce) (hstate : ∀ c st, I c → I { c with state := st })
    (hsave : ∀ startup, message = .startup startup → ∀ c, I c → I (Conn.saveStartupParameters startup c)) :
    Prog.Maintains I C (pgwireOnStartup message) := by
  refine Prog.Maintains.bind (Prog.maintains_await hstep) fun step => ?_
  have hresult : Prog.Maintains I C (do if ← Prog.ofExcept step.result then finishAuthentication else pure ()) :=
    Prog.Maintains.bind (Prog.maintains_ofExcept step.result) fun done =>
      Prog.Maintains.ite (fun _ => maintains_finishAuthentication hC hannounce hstate) fun _ => Prog.maintains_pure _
  have hrest : Prog.Maintains I C (do
      if step.challenges then Prog.modify fun client : Conn => { client with state := .authenticationInProgress }
      else pure ()
      if ← Prog.ofExcept step.result then finishAuthentication else pure ()) :=
    Prog.Maintains.ite
      (fun _ => Prog.Maintains.bind (Prog.maintains_modify fun c hc => hstate c _ hc) fun _ => hresult) fun _ => hresult
  cases message with
  | startup startup =>
    refine Prog.Maintains.ite (fun _ => Prog.Maintains.bind ?_ fun _ => hrest) fun _ => hrest
    exact Prog.maintains_modify fun c hc => hsave startup rfl c hc
  | _ => exact hrest

end

/-- A message that is no Startup. -/
theorem identifies_pgwireOnStartup {message : PgWireFrontendMessage} (hm : message.isStartup = false) :
    Identifies login (pgwireOnStartup message) := by
  have hstep : Call.About login (.authStep message) := Call.Anonymous.about (c := .authStep message) rfl login
  refine maintains_pgwireOnStartup hstep about_send about_announce (fun _ _ => id) fun startup hstartup => ?_
  rw [hstartup] at hm
  cases hm

theorem nameless_pgwireOnStartup (message : PgWireFrontendMessage) : Nameless (pgwireOnStartup message) :=
  maintains_pgwireOnStartup rfl (fun _ => rfl) rfl (fun _ _ => id) fun _ _ _ => id

namespace ScramVerifierStartupHandler

variable (K : Crypto) (h : ScramVerifierStartupHandler)

theorem identifies_start (mechanism : String) (data : Option Bytes) : Identifies login (h.start K mechanism data) := by
  refine Prog.Maintains.bind (Prog.maintains_ofOutcome _) fun data => ?_
  refine Prog.Maintains.bind (Prog.maintains_ofOutcome _) fun first => Prog.Maintains.get_bind fun client hclient => ?_
  refine Prog.Maintains.bind (Prog.maintains_ofOutcome _) fun cbindData => ?_
  have hlookup : Identifies login (lookup client.loginInfo) := by
    refine maintains_callPython fun login' h => ?_
    rw [← hclient]
    exact (Option.some.inj h).symm
  refine hlookup.bind fun found => ?_
  exact Prog.Maintains.bind (identifies_await rfl) fun serverNonce => Prog.maintains_pure _

theorem identifies_onStartup {message : PgWireFrontendMessage} (hm : message.isStartup = false) :
    Identifies login (h.onStartup K message) := by
  cases message with
  | startup startup => cases hm
  | passwordMessageFamily message =>
    have htake : Identifies login takeState :=
      Prog.Maintains.get_bind fun _ _ =>
        Prog.Maintains.bind (identifies_modify fun _ => rfl) fun _ => Prog.maintains_pure _
    refine htake.bind fun state => ?_
    cases state with
    | initial =>
      refine Prog.Maintains.bind (Prog.maintains_ofExcept _) fun initial => ?_
      refine Prog.Maintains.bind (h.identifies_start K _ _) fun exchange => ?_
      exact Prog.Maintains.bind (identifies_modify fun _ => rfl) fun _ => identifies_await rfl
    | serverFirstSent exchange =>
      have hrest : ∀ serverFinal : Str, Identifies login (do
          send (.authenticationSaslFinal (Text.utf8 serverFinal))
          let pid ← await .generatePid
          Prog.modify fun client : Conn => { client with pidAndSecretKey := some pid }
          Prog.modify fun client : Conn => { client with registered := true }
          finishAuthentication) := by
        intro serverFinal
        refine Prog.Maintains.bind (identifies_await rfl) fun _ => ?_
        refine Prog.Maintains.bind (t := await .generatePid) (identifies_await rfl) fun pid => ?_
        refine Prog.Maintains.bind (identifies_modify fun _ => rfl) fun _ => ?_
        exact Prog.Maintains.bind (identifies_modify fun _ => rfl) fun _ =>
          maintains_finishAuthentication about_send about_announce fun _ _ => id
      have hverify : ∀ response, Identifies login (verify K exchange response) := fun response =>
        Prog.Maintains.bind (Prog.maintains_mark _) fun _ => Prog.maintains_ofOutcome _
      refine Prog.Maintains.bind (Prog.maintains_ofExcept _) fun response => ?_
      refine Prog.Maintains.bind (hverify response) fun serverFinal => Prog.Maintains.ite (fun _ => ?_) fun _ => hrest _
      exact Prog.Maintains.bind identifies_initializePythonSession fun _ => hrest serverFinal
    | done => exact Prog.maintains_fail _
  | _ => exact Prog.maintains_pure _

theorem nameless_onStartup (startup : Startup) : Nameless (h.onStartup K (.startup startup)) := by
  refine Prog.Maintains.bind (nameless_await rfl) fun r => ?_
  refine Prog.Maintains.bind (Prog.maintains_ofExcept r) fun _ => Prog.Maintains.bind (nameless_modify _) fun _ => ?_
  exact Prog.Maintains.bind (nameless_modify _) fun _ => Prog.Maintains.get_bind fun client _ => nameless_await rfl

end ScramVerifierStartupHandler

namespace PyStartupHandler

variable (K : Crypto) (h : PyStartupHandler)

theorem finish_identifies (st : PgWireConnectionState) :
    Prog.Maintains (fun c : Conn => c.loginInfo = login ∧ c.state = st) (Call.About login) h.finish :=
  h.maintains_finish (fun _ hc => about_openSession hc.1) (fun _ _ => id) (fun _ _ => id) fun _ => id

theorem identifies_onStartup {message : PgWireFrontendMessage} (hm : message.isStartup = false) :
    Identifies login (h.onStartup K message) := by
  have hinner : Identifies login (h.innerOnStartup K message) := by
    rw [innerOnStartup]
    cases h.inner with
    | scramVerifier inner => exact inner.identifies_onStartup K hm
    | _ => exact identifies_pgwireOnStartup hm
  rw [onStartup_eq]
  exact Prog.Maintains.get_bind fun c _ => Prog.Maintains.ite (fun _ => Prog.maintains_fail _) fun _ =>
    hinner.bind fun _ =>
      h.maintains_finish (fun _ hc => about_openSession hc) (fun _ _ => id) (fun _ _ => id) fun _ => id

end PyStartupHandler

end Startup

/-! ### Runs -/

/-- All callbacks were told about the user of the connection. -/
def Known (w : WireWorld) : Prop := Prog.Only (Call.About w.st.loginInfo) w.log

/-- So far; a client that waits has not been asked about. -/
structure Unasked (w : WireWorld) : Prop where
  known : Known w
  waiting : w.st.Waiting → Prog.Only Call.Anonymous w.log

section Runs

variable {w w' : WireWorld} {K : Crypto} {h : PyServerHandlers}

/-- Everything that is added is about the user, and the user is the same. -/
theorem Known.append (hw : Known w) (hlogin : w'.st.loginInfo = w.st.loginInfo) {new : List WireEvent}
    (hnew : w'.log = w.log ++ new) (honly : Prog.Only (Call.About w.st.loginInfo) new) : Known w' := by
  rw [Known, hnew, hlogin]
  exact Prog.Only.append hw honly

theorem Known.called (hw : Known w) {c : Call} (hc : c.Anonymous) (r : c.Reply) : Known (w.called c r) :=
  hw.append rfl rfl (Prog.only_called (hc.about _) r)

theorem Known.reported (hw : Known w) (e : PgWireError) (handled : ErrorHandled) :
    Known ((w.called (.processError w.st.state e) handled).modify (Conn.afterError handled)) :=
  Known.called hw (c := .processError w.st.state e) rfl handled

/-- A message that is no Startup, or finds the client ready. -/
theorem processMessage_known (hw : Known w) {message : PgWireFrontendMessage}
    (hm : message.isStartup = false ∨ w.st.state.isStartup = false) :
    Prog.Sat (fun _ _ => True) (h.processMessage K message) w fun _ w' =>
      Known w' ∧ (w.st.state.isStartup = false → w'.st.state.isStartup = false) := by
  cases hphase : w.st.state.isStartup with
  | false =>
    refine (h.processMessage_hears K message ⟨rfl, hphase⟩).post ?_
    rintro o w' ⟨hready, new, hnew, honly, -⟩
    have hlogin : w'.st.loginInfo = w.st.loginInfo := by
      have hmetadata : w'.st.metadata = w.st.metadata := congrArg Admission.metadata hready.admission
      have hhost : w'.st.host = w.st.host := congrArg Admission.host hready.admission
      rw [Conn.loginInfo, Conn.loginInfo, hmetadata, hhost]
    exact ⟨hw.append hlogin hnew (honly.mono fun c hc => hc.anonymous.about _), fun _ => hready.ready⟩
  | true =>
    rw [hphase] at hm
    have hm' : message.isStartup = false := hm.resolve_right (by decide)
    rw [PyServerHandlers.processMessage, Prog.sat_bind, Prog.sat_get, Prog.after_ok, if_pos hphase]
    refine ((h.startup.identifies_onStartup K hm').concat rfl).anywhere.post ?_
    rintro o w' ⟨hlogin, new, hnew, honly⟩
    exact ⟨hw.append hlogin hnew honly, fun hwait => absurd hwait (by decide)⟩

/-- A Startup while the client waits: the user may be another now, but none was asked about. -/
theorem onStartup_unasked (hw : Prog.Only Call.Anonymous w.log) (startup : Startup) :
    Prog.Sat (fun _ _ => True) (h.startup.onStartup K (.startup startup)) w fun _ w' => Unasked w' := by
  have hnone : ∀ {w : WireWorld}, Prog.Only Call.Anonymous w.log → Unasked w := fun hw =>
    ⟨hw.mono fun c hc => hc.about _, fun _ => hw⟩
  have hinner : Nameless (h.startup.innerOnStartup K (.startup startup)) := by
    rw [PyStartupHandler.innerOnStartup]
    cases h.startup.inner with
    | scramVerifier inner => exact inner.nameless_onStartup K startup
    | _ => exact nameless_pgwireOnStartup _
  rw [PyStartupHandler.onStartup_eq, Prog.sat_bind, Prog.sat_get, Prog.after_ok]
  split
  · exact hnone hw
  · rw [Prog.sat_bind]
    refine (hinner.concat trivial).anywhere.post ?_
    rintro o w1 ⟨-, new, hnew, honly⟩
    have hw1 : Prog.Only Call.Anonymous w1.log := by
      rw [hnew]
      exact hw.append honly
    cases o with
    | ok u =>
      by_cases hready : w1.st.state = .readyForQuery
      · refine ((h.startup.finish_identifies w1.st.state).concat ⟨rfl, rfl⟩).anywhere.post ?_
        rintro o w2 ⟨⟨hlogin, hstate⟩, new2, hnew2, honly2⟩
        refine ⟨Known.append (hnone hw1).known hlogin hnew2 honly2, fun hwait => ?_⟩
        rw [Conn.Waiting, hstate, hready] at hwait
        cases hwait
      · simp only [PyStartupHandler.finish, Prog.after_ok, Prog.sat_bind, Prog.sat_get, hready, false_and, if_false]
        exact hnone hw1
    | err e => exact hnone hw1
    | panic => exact hnone hw1

namespace PyServerHandlers

variable (K : Crypto) (h : PyServerHandlers)

/-- The rule of the loop: what its own calls and every message keep, whatever comes of the message. -/
theorem processSocket_keeps {J : WireWorld → Prop} {M : PgWireFrontendMessage → Prop}
    (hreceive : ∀ w, J w → J (w.called .receive ()))
    (hreport : ∀ w e handled, J w →
      J ((w.called (.processError w.st.state e) handled).modify (Conn.afterError handled)))
    (hmessage : ∀ w message, M message → J w →
      Prog.Sat (fun _ _ => True) (h.processMessage K message) w fun _ w' => J w') {messages : List PgWireFrontendMessage}
    (hM : ∀ m ∈ messages, M m) {w : WireWorld} (hw : J w) :
    Prog.Sat (fun _ _ => True) (h.processSocket K messages) w fun _ w' => J w' := by
  induction messages generalizing w with
  | nil => exact hw
  | cons message messages ih =>
    obtain ⟨hm, hM⟩ := List.forall_mem_cons.mp hM
    simp only [processSocket, Prog.sat_bind, Prog.sat_await, Prog.after_ok, Prog.sat_attempt]
    refine ⟨trivial, fun r => (hmessage _ message hm (hreceive w hw)).post ?_⟩
    intro o w1 hw1
    cases o with
    | ok u => exact ih hM hw1
    | err e =>
      simp only [Prog.caught_err, Prog.after_ok, processError, Prog.sat_bind, Prog.sat_get, Prog.sat_await,
        Prog.sat_modify, Prog.sat_pure]
      refine ⟨trivial, fun handled => ?_⟩
      have hw2 := hreport w1 e handled hw1
      by_cases hends : handled.ends = true
      · rw [if_pos hends, Prog.sat_pure]
        exact hw2
      · rw [if_neg hends]
        exact ih hM hw2
    | panic => exact hw1

/-- **One identity.**  Whatever the callbacks answer: the verifier that the client's proof is checked against and the
session that its queries run on were asked for with the same login, the one that the connection ends with. -/
theorem one_identity (env : WireEnv) (secure : Bool) (host : String) (startups later : List PgWireFrontendMessage)
    (hstartups : ∀ m ∈ startups, m.isStartup = true) (hlater : ∀ m ∈ later, m.isStartup = false) :
    Known ((h.processSocket K (startups ++ later)).final env (freshWorld secure host)) := by
  have hreceive : ∀ w : WireWorld, Unasked w → Unasked (w.called .receive ()) := fun w hw =>
    ⟨hw.known.called (c := .receive) rfl (), fun hwait =>
      (hw.waiting hwait).append (Call.Anonymous.only (c := .receive) rfl ())⟩
  have hreport : ∀ (w : WireWorld) (e : PgWireError) (handled : ErrorHandled), Unasked w →
      Unasked ((w.called (.processError w.st.state e) handled).modify (Conn.afterError handled)) := by
    intro w e handled hw
    refine ⟨hw.known.reported e handled, fun hwait => ?_⟩
    refine (hw.waiting ?_).append (Call.Anonymous.only (c := .processError w.st.state e) rfl handled)
    by_contra hphase
    rw [Conn.Waiting, Bool.not_eq_true] at hphase
    exact absurd ((Conn.isStartup_afterError hphase handled).symm.trans hwait) (by decide)
  have hmessage : ∀ (w : WireWorld) (message : PgWireFrontendMessage), message.isStartup = true → Unasked w →
      Prog.Sat (fun _ _ => True) (h.processMessage K message) w fun _ w' => Unasked w' := by
    intro w message hm hw
    cases hphase : w.st.state.isStartup with
    | true =>
      rw [processMessage, Prog.sat_bind, Prog.sat_get, Prog.after_ok, if_pos hphase]
      cases message with
      | startup startup => exact onStartup_unasked (hw.waiting hphase) startup
      | _ => cases hm
    | false =>
      refine (processMessage_known hw.known (.inr hphase)).post fun o w' ho => ⟨ho.1, fun hwait => ?_⟩
      exact absurd ((ho.2 hphase).symm.trans hwait) (by decide)
  have hfresh : Unasked (freshWorld secure host) := ⟨Prog.only_nil, fun _ => Prog.only_nil⟩
  have hstart : Unasked ((h.processSocket K startups).final env (freshWorld secure host)) :=
    (h.processSocket_keeps K hreceive hreport hmessage hstartups hfresh).run env
  rcases h.final_append K env startups later (freshWorld secure host) with hend | hgoes
  · rw [hend]
    exact hstart.known
  · rw [hgoes]
    refine (h.processSocket_keeps K (J := Known) (fun w hw => ?_) (fun w e handled hw => hw.reported e handled)
      (fun w m hm hw => ?_) hlater hstart.known).run env
    · exact Known.called hw (c := .receive) rfl ()
    · exact (processMessage_known hw (.inl hm)).post fun o w' ho => ho.1

/-- Alice is looked up, and then a session is opened for her. -/
theorem one_identity_alice :
    let w := (verifying.processSocket default
      ([.startup ⟨[("user", "alice")]⟩] ++ KnownUser.messages.tail)).final KnownUser.env (freshWorld false "127.0.0.1")
    Known w ∧ w.st.loginInfo.user = some "alice" ∧ w.log.countP isLookup = 1 ∧ w.log.countP isOpen = 1 := by
  refine ⟨one_identity default verifying KnownUser.env false "127.0.0.1" _ _ ?_ ?_, ?_⟩
  · simp [PgWireFrontendMessage.isStartup]
  · simp [PgWireFrontendMessage.isStartup, KnownUser.messages]
  · decide +kernel

end PyServerHandlers

end Runs

end Pywire
