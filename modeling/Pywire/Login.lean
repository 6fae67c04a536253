import Pywire.Lib.Returns
import Pywire.Replay
import Pywire.Scram.Client

/-!
# Login: a client that knows its password gets in

The client of `Scram.Client` on a connection: it introduces itself, reads the challenge off the wire and answers it.
What the callbacks keep of the user is a verifier; between the messages the exchange lies in the state of the handler,
under the wrapper that watches over TLS and the session.

* `Client.respond_verified`: what the client answers is what the exchange accepts.
* `processMessage_introduced`, `processMessage_challenged`, `processMessage_letIn`: the three messages.
* `PyServerHandlers.login_admitted`: **Main result** — the server lets the client in, and signs as the client insists.
-/

namespace Pywire

open Async Scram
open Text (utf8)

/-- What a client hears of an event of the startup; some of it pgwire sends on its own. -/
def heard : WireEvent → List PgWireBackendMessage
  | .called (.send message) _ => [message]
  | .called (.protocolNegotiation _) (.ok negotiated) => negotiated
  | .called (.authStep _) step => step.sent
  | .called .announce announced => announced
  | _ => []

/-- What a connection was sent. -/
def sent (log : Log) : List PgWireBackendMessage := log.flatMap heard

theorem sent_concat {log : Log} {e : WireEvent} : sent (log ++ [e]) = sent log ++ heard e := by
  rw [sent, List.flatMap_append, List.flatMap_singleton, sent]

/-- The login of a client that introduces itself. -/
def Startup.login (startup : Startup) (c : Conn) : PyLoginInfo := (c.saveStartupParameters startup).loginInfo

/-- Callbacks that know this user by a verifier, and open a session where one is wanted. -/
structure Knows (env : WireEnv) (startup : Startup) (login : PyLoginInfo) (verifier : PyScramVerifier)
    (sessionFactory : Bool) : Prop where
  protocolNegotiation : ∀ log, ∃ negotiated, env log (.protocolNegotiation startup) = .ok negotiated
  lookup : ∀ log, env log (.python (.getScramVerifier login)) = .ok (some verifier)
  openSession : sessionFactory = true → ∀ log, env log (.python (.openSession login)) = .ok ()

/-- Where a connection stands on its way in. -/
structure Standing (login : PyLoginInfo) (secure : Bool) (state : PgWireConnectionState) (scram : ScramState)
    (out : List PgWireBackendMessage) (w : WireWorld) : Prop where
  login : w.st.loginInfo = login
  secure : w.st.secure = secure
  state : w.st.state = state
  scram : w.st.scram = scram
  session : w.st.pySession = none
  sent : sent w.log = out

/-- A connection that was let in, and was sent `out` before. -/
structure LetIn (env : WireEnv) (login : PyLoginInfo) (sessionFactory : Bool) (out : List PgWireBackendMessage)
    (w : WireWorld) : Prop where
  login : w.st.loginInfo = login
  state : w.st.state = .readyForQuery
  session : w.st.pySession.isSome = sessionFactory
  key : w.st.pidAndSecretKey.isSome = true
  registered : w.st.registered = true
  /-- Between `AuthenticationOk` and `ReadyForQuery` pgwire announces the parameters and the cancel key. -/
  sent : ∃ log, sent w.log = out ++ .authenticationOk :: env log .announce ++ [.readyForQuery .idle]

/-! ### The client's answer -/

namespace Scram

variable {K : Crypto} {hi : Bytes → Bytes → ℕ → Bytes} {c : Client} {verifier : PyScramVerifier} {first : ClientFirst}
  {serverNonce : Str} {user : String}

/-- The verifier was made from the client's password. -/
structure Client.Enrolled (K : Crypto) (hi : Bytes → Bytes → ℕ → Bytes) (c : Client) (verifier : PyScramVerifier) :
    Prop where
  storedKey : verifier.storedKey = c.storedKey K hi verifier.salt verifier.iterations.toNat
  serverKey : verifier.serverKey = c.serverKey K hi verifier.salt verifier.iterations.toNat

/-- What both sides sign. -/
def Client.signed (c : Client) (x : Exchange) : Bytes :=
  utf8 (x.authPrefix ++ ",".toList ++ c.withoutProof x.nonce)

theorem Client.nonce_free (hparse : ClientFirst.parse c.clientFirst = .ok first) (hnonce : ',' ∉ serverNonce) :
    ',' ∉ (Exchange.new first c.cbindData serverNonce user verifier false).nonce := by
  obtain ⟨-, -, -, -, -, -, hfirst, -⟩ := ClientFirst.parse_eq_ok hparse
  simp [Exchange.new, hfirst, hnonce]

/-- The client reads the challenge and signs what the server will check. -/
theorem Client.respond_eq (hparse : ClientFirst.parse c.clientFirst = .ok first) (hnonce : ',' ∉ serverNonce)
    (he : c.Enrolled K hi verifier) {x : Exchange}
    (hx : x = Exchange.new first c.cbindData serverNonce user verifier false) :
    c.respond K hi x.serverFirst = some {
      clientFinal := c.withoutProof x.nonce ++ ",p=".toList ++
        Base64.encode (xorBytes (c.clientKey K hi verifier.salt verifier.iterations.toNat)
          (K.hmac verifier.storedKey (c.signed x)))
      serverFinal := "v=".toList ++ Base64.encode (K.hmac verifier.serverKey (c.signed x)) } := by
  obtain ⟨-, -, -, -, -, -, hfirst, -⟩ := ClientFirst.parse_eq_ok hparse
  have hmessage : c.authMessage x.serverFirst x.nonce = c.signed x := by
    rw [Client.authMessage, Client.signed, Client.bare_eq hparse, hx]
    rfl
  have hread := ServerFirst.read_serverFirst hfirst hnonce c.cbindData user verifier false
  rw [← hx] at hread
  have hpre : first.nonce <+: first.nonce ++ serverNonce := List.prefix_append _ _
  have hn : x.nonce = first.nonce ++ serverNonce := by rw [hx]; rfl
  rw [← hn] at hread hpre
  rw [Client.respond, Client.nonce_eq hparse, hread]
  simp only [Option.bind_eq_bind, Option.bind_some, if_pos hpre, hmessage, he.storedKey, he.serverKey]

theorem Client.respond_verified (hparse : ClientFirst.parse c.clientFirst = .ok first) (hnonce : ',' ∉ serverNonce)
    (hext : ∀ e ∈ c.extensions, ',' ∉ e) (he : c.Enrolled K hi verifier) {x : Exchange}
    (hx : x = Exchange.new first c.cbindData serverNonce user verifier false) :
    ∃ reply, c.respond K hi x.serverFirst = some reply ∧
      x.verify K (utf8 reply.clientFinal) = .ok reply.serverFinal := by
  refine ⟨_, Client.respond_eq hparse hnonce he hx, ?_⟩
  have hlength : (c.clientKey K hi verifier.salt verifier.iterations.toNat).length =
      (K.hmac verifier.storedKey (c.signed x)).length := by
    rw [Client.clientKey, K.hmac_length, K.hmac_length]
  have hproof := (xorBytes_length hlength).trans (K.hmac_length _ _)
  have hcb : ',' ∉ x.channelBinding := by
    rw [hx]
    exact Base64.notMem_encode (by decide) _
  have hfree : ',' ∉ x.nonce := by
    rw [hx]
    exact Client.nonce_free hparse hnonce
  have hwithout : c.withoutProof x.nonce =
      "c=".toList ++ x.channelBinding ++ ",r=".toList ++ x.nonce ++ c.extensions.flatMap (',' :: ·) := by
    rw [Client.withoutProof, Client.gs2Header_eq hparse, hx]
    rfl
  have hverifier : x.verifier = verifier := by rw [hx]; rfl
  have hmock : x.mock = false := by rw [hx]; rfl
  -- the proof, signed once more, is the client key
  have hkey : K.digest (xorBytes (xorBytes (c.clientKey K hi verifier.salt verifier.iterations.toNat)
      (K.hmac verifier.storedKey (c.signed x))) (K.hmac verifier.storedKey (c.signed x))) = verifier.storedKey := by
    rw [xorBytes_cancel hlength]
    exact he.storedKey.symm
  have hverify := Exchange.verify_fields (K := K) hcb hfree hext hproof hwithout
  rw [hverifier] at hverify
  exact hverify.trans (if_pos ⟨hkey, hmock⟩)

end Scram

/-! ### Callbacks -/

section Callbacks

variable {env : WireEnv} {w : WireWorld}

theorem returns_callPython {c : PyCall} {r : c.Ret} (h : env w.log (.python c) = .ok r)
    {Q : c.Ret → WireWorld → Prop} :
    @Prog.Returns Call Conn Verified PgWireError (no_index c.Ret) Call.Reply env (callPython c) w Q ↔
      Q r (w.called (.python c) (.ok r)) := by
  rw [callPython, Prog.returns_bind, Prog.returns_awaitIs h]
  exact Prog.returns_pure r

/-- The session of this login is opened. -/
theorem initializePythonSession_returns (h : env w.log (.python (.openSession w.st.loginInfo)) = .ok ()) :
    Prog.Returns env initializePythonSession w fun _ w' =>
      (∃ resources session, w'.st = { w.st with resources := resources, pySession := some session }) ∧
        sent w'.log = sent w.log := by
  simp only [initializePythonSession, callPythonRef, Prog.returns_bind, Prog.returns_get, Prog.returns_awaitAt, h,
    Prog.returns_pure, Prog.returns_modify]
  refine ⟨⟨_, _, rfl⟩, ?_⟩
  simp only [World.modify_log, World.called_log, sent_concat, heard, List.append_nil]

/-- pgwire lets the client in, and adds its own announcements. -/
theorem finishAuthentication_returns : Prog.Returns env finishAuthentication w fun _ w' =>
    w'.st = { w.st with state := .readyForQuery } ∧
      ∃ log, sent w'.log = sent w.log ++ .authenticationOk :: env log .announce ++ [.readyForQuery .idle] := by
  simp only [finishAuthentication, Prog.returns_bind, Prog.returns_await, Prog.returns_modify]
  refine ⟨rfl, (w.called (.send .authenticationOk) (env w.log (.send .authenticationOk))).log, ?_⟩
  simp only [World.called_log, World.modify_log, sent_concat, heard]
  simp only [List.append_assoc, List.cons_append, List.nil_append]

end Callbacks

/-! ### The verifier handler -/

namespace ScramVerifierStartupHandler

variable {K : Crypto} {hs : ScramVerifierStartupHandler} {env : WireEnv} {startup : Startup} {login : PyLoginInfo}
  {verifier : PyScramVerifier} {secure : Bool} {w : WireWorld} {out : List PgWireBackendMessage}
  {state : PgWireConnectionState} {sessionFactory : Bool}

theorem onStartup_introduced (hk : Knows env startup login verifier sessionFactory)
    (hlogin : startup.login w.st = login) (hw : Standing w.st.loginInfo secure state .initial out w) :
    Prog.Returns env (hs.onStartup K (.startup startup)) w fun _ w' => ∃ negotiated,
      (∃ log, env log (.protocolNegotiation startup) = .ok negotiated) ∧
        Standing login secure .authenticationInProgress .initial
          (out ++ negotiated ++ [.authenticationSasl (hs.mechanisms w.st)]) w' := by
  obtain ⟨negotiated, hnegotiated⟩ := hk.protocolNegotiation w.log
  simp only [onStartup, Prog.returns_bind, Prog.returns_awaitIs hnegotiated, Prog.returns_await,
    Prog.returns_ofExcept rfl, Prog.returns_modify, Prog.returns_get]
  refine ⟨negotiated, ⟨_, hnegotiated⟩, hlogin, hw.secure, rfl, hw.scram, hw.session, ?_⟩
  simp only [World.called_log, World.modify_log, sent_concat, heard, hw.sent]
  rfl

theorem start_returns (hk : Knows env startup login verifier sessionFactory) (hlogin : w.st.loginInfo = login)
    {c : Client} {first : ClientFirst} {mechanism : String} (hparse : ClientFirst.parse c.clientFirst = .ok first)
    (hneg : negotiate mechanism first.cbindFlag (hs.certificate w.st) = .ok c.cbindData) :
    Prog.Returns env (hs.start K mechanism (some (Text.utf8 c.clientFirst))) w fun x w' =>
      (∃ bytes, x = .new first c.cbindData (Base64.encode bytes) (login.user.getD "") verifier false) ∧
        w'.st = w.st ∧ sent w'.log = sent w.log := by
  have hread : (decodeUtf8 (Text.utf8 c.clientFirst) >>= ClientFirst.parse) = .ok first := by
    rw [decodeUtf8, Text.fromUtf8_utf8]
    exact hparse
  subst hlogin
  simp only [start, Outcome.okOr_some, Prog.returns_bind, Prog.returns_ofOutcome rfl, Prog.returns_ofOutcome hread,
    Prog.returns_get, Prog.returns_ofOutcome hneg, lookup, returns_callPython (hk.lookup _), Prog.returns_await,
    Prog.returns_pure]
  refine ⟨⟨_, rfl⟩, rfl, ?_⟩
  simp only [World.called_log, sent_concat, heard, List.append_nil]

theorem onStartup_challenged (hk : Knows env startup login verifier sessionFactory) {c : Client}
    {first : ClientFirst} {mechanism : String} (hparse : ClientFirst.parse c.clientFirst = .ok first)
    (hneg : negotiate mechanism first.cbindFlag (hs.certificate w.st) = .ok c.cbindData)
    (hw : Standing login secure state .initial out w) (later : Except PgWireError Bytes) :
    Prog.Returns env (hs.onStartup K
        (.passwordMessageFamily ⟨.ok ⟨mechanism, some (Text.utf8 c.clientFirst)⟩, later⟩)) w fun _ w' => ∃ bytes x,
      x = Exchange.new first c.cbindData (Base64.encode bytes) (login.user.getD "") verifier false ∧
        Standing login secure state (.serverFirstSent x)
          (out ++ [.authenticationSaslContinue (Text.utf8 x.serverFirst)]) w' := by
  simp only [onStartup, takeState, Prog.returns_bind, Prog.returns_get, Prog.returns_modify, Prog.returns_pure,
    hw.scram, Prog.returns_ofExcept rfl]
  refine (start_returns (w := w.modify fun client => { client with scram := .done }) hk hw.login hparse hneg).mono ?_
  rintro x w1 ⟨⟨bytes, hx⟩, hst, hsent⟩
  rw [Prog.returns_await]
  refine ⟨bytes, x, hx, ?_, ?_, ?_, rfl, ?_, ?_⟩
  · rw [World.called_st, World.modify_st, hst]
    exact hw.login
  · rw [World.called_st, World.modify_st, hst]
    exact hw.secure
  · rw [World.called_st, World.modify_st, hst]
    exact hw.state
  · rw [World.called_st, World.modify_st, hst]
    exact hw.session
  · simp only [World.called_log, World.modify_log, sent_concat, heard, hsent, hw.sent]

/-- What follows an accepted message, once there is a session or none is wanted. -/
theorem finish_returns {d : Bytes} (hlogin : w.st.loginInfo = login)
    (hsession : w.st.pySession.isSome = sessionFactory) (hout : sent w.log = out) :
    Prog.Returns env (do
        send (.authenticationSaslFinal d)
        let pid ← await .generatePid
        Prog.modify fun client => { client with pidAndSecretKey := some pid }
        Prog.modify fun client => { client with registered := true }
        finishAuthentication) w fun _ w' =>
      LetIn env login sessionFactory (out ++ [.authenticationSaslFinal d]) w' := by
  simp only [Prog.returns_bind, Prog.returns_await, Prog.returns_modify]
  refine finishAuthentication_returns.mono ?_
  rintro - w' ⟨hst, log, hsent⟩
  refine ⟨?_, ?_, ?_, ?_, ?_, log, ?_⟩
  · rw [hst]
    exact hlogin
  · rw [hst]
  · rw [hst]
    exact hsession
  · rw [hst]
    rfl
  · rw [hst]
    rfl
  · simp only [hsent, World.called_log, World.modify_log, sent_concat, heard, List.append_nil, hout]

theorem onStartup_admitted (hk : Knows env startup login verifier hs.sessionFactory) {x : Exchange}
    {response : Bytes} {serverFinal : Str} (hverify : x.verify K response = .ok serverFinal)
    (hw : Standing login secure state (.serverFirstSent x) out w) (initial : Except PgWireError SASLInitialResponse) :
    Prog.Returns env (hs.onStartup K (.passwordMessageFamily ⟨initial, .ok response⟩)) w fun _ w' =>
      LetIn env login hs.sessionFactory (out ++ [.authenticationSaslFinal (Text.utf8 serverFinal)]) w' := by
  simp only [onStartup, takeState, Prog.returns_bind, Prog.returns_get, Prog.returns_modify, Prog.returns_pure,
    hw.scram, Prog.returns_ofExcept rfl, verify, Prog.returns_mark, hverify,
    Prog.returns_ofOutcome rfl]
  generalize hw1 : (w.modify fun client => { client with scram := .done }).noted ⟨x, response, .ok serverFinal⟩ = w1
  have hst : w1.st = { w.st with scram := .done } := by
    rw [← hw1]
    rfl
  have hsent : sent w1.log = out := by
    simp only [← hw1, World.noted_log, World.modify_log, sent_concat, heard, List.append_nil, hw.sent]
  have hlogin : w1.st.loginInfo = login := by
    rw [hst]
    exact hw.login
  cases hsession : hs.sessionFactory with
  | false =>
    refine finish_returns hlogin ?_ hsent
    rw [hst, hw.session]
    rfl
  | true =>
    have hopen : env w1.log (.python (.openSession w1.st.loginInfo)) = .ok () := by
      rw [hlogin]
      exact hk.openSession hsession _
    rw [if_pos rfl, Prog.returns_bind]
    refine (initializePythonSession_returns hopen).mono ?_
    rintro - w2 ⟨⟨resources, session, hst2⟩, hsent2⟩
    refine finish_returns ?_ ?_ (hsent2.trans hsent)
    · rw [hst2]
      exact hlogin
    · rw [hst2]
      rfl

end ScramVerifierStartupHandler

/-! ### The connection -/

section Connection

variable {K : Crypto} {h : PyServerHandlers} {inner : ScramVerifierStartupHandler} {env : WireEnv} {w : WireWorld}
  {login : PyLoginInfo} {secure : Bool} {state : PgWireConnectionState} {scram : ScramState}
  {out : List PgWireBackendMessage} {message : PgWireFrontendMessage} {messages : List PgWireFrontendMessage}
  {Q : Unit → WireWorld → Prop}

/-- Waiting for a message changes nothing that a client hears of. -/
theorem Standing.receive (hw : Standing login secure state scram out w) :
    Standing login secure state scram out (w.called .receive ()) := by
  refine ⟨hw.login, hw.secure, hw.state, hw.scram, hw.session, ?_⟩
  simp only [World.called_log, sent_concat, heard, List.append_nil, hw.sent]

/-- The wrapper, while the client is not ready. -/
theorem PyStartupHandler.onStartup_waits {h : PyStartupHandler} (hinner : h.inner = .scramVerifier inner)
    (htls : ¬ (h.requireTls ∧ message.isStartup ∧ ¬ w.st.secure))
    (ht : Prog.Returns env (inner.onStartup K message) w Q) (hQ : ∀ w', Q () w' → w'.st.state ≠ .readyForQuery) :
    Prog.Returns env (h.onStartup K message) w Q := by
  simp only [onStartup, Prog.returns_bind, Prog.returns_get, if_neg htls, innerOnStartup, hinner]
  refine ht.mono ?_
  rintro ⟨⟩ w' hw'
  have hready : ¬ w'.st.state = .readyForQuery := hQ w' hw'
  simpa [hready] using hw'

/-- The wrapper, once the client is ready. -/
theorem PyStartupHandler.onStartup_letIn {h : PyStartupHandler} (hinner : h.inner = .scramVerifier inner)
    (hf : inner.sessionFactory = h.sessionFactory) (hm : message.isStartup = false)
    (ht : Prog.Returns env (inner.onStartup K message) w fun _ => LetIn env login inner.sessionFactory out) :
    Prog.Returns env (h.onStartup K message) w fun _ => LetIn env login h.sessionFactory out := by
  have htls : ¬ (h.requireTls ∧ message.isStartup ∧ ¬ w.st.secure) := by simp [hm]
  simp only [onStartup, Prog.returns_bind, Prog.returns_get, if_neg htls, innerOnStartup, hinner]
  refine ht.mono ?_
  rintro - w1 hw1
  rw [hf] at hw1
  have hsession : ∀ w2, LetIn env login h.sessionFactory out w2 → Prog.Returns env (do
      let client ← Prog.get
      if client.state = .readyForQuery ∧ client.pySession.isNone then
        if h.sessionFactory then initializePythonSession else pure ()
      else pure ()) w2 fun _ => LetIn env login h.sessionFactory out := by
    intro w2 hw2
    rw [Prog.returns_bind, Prog.returns_get]
    split
    · rename_i hnone
      have hno : ¬ h.sessionFactory = true := by
        rw [← hw2.session]
        simpa using hnone.2
      rw [if_neg hno]
      exact (Prog.returns_pure ()).mpr hw2
    · exact (Prog.returns_pure ()).mpr hw2
  split
  · exact hsession (w1.modify fun client => { client with installed := true })
      ⟨hw1.login, hw1.state, hw1.session, hw1.key, hw1.registered, hw1.sent⟩
  · exact hsession w1 hw1

/-- A message of a client that is not ready. -/
theorem PyServerHandlers.processMessage_startup_returns (hstate : w.st.state.isStartup = true) :
    Prog.Returns env (h.processMessage K message) w Q ↔ Prog.Returns env (h.startup.onStartup K message) w Q := by
  rw [processMessage, Prog.returns_bind, Prog.returns_get, if_pos hstate]

/-- A message that is handled, and those after it. -/
theorem PyServerHandlers.processSocket_returns {S : WireWorld → Prop}
    (hm : Prog.Returns env (h.processMessage K message) (w.called .receive ()) fun _ => S)
    (hrest : ∀ w', S w' → Prog.Returns env (h.processSocket K messages) w' Q) :
    Prog.Returns env (h.processSocket K (message :: messages)) w Q := by
  rw [processSocket, Prog.returns_bind, Prog.returns_await, Prog.returns_bind]
  refine hm.attempt.mono ?_
  rintro r w' ⟨-, rfl, hw'⟩
  exact hrest w' hw'

end Connection

namespace PyServerHandlers

section Steps

variable {K : Crypto} {h : PyServerHandlers} {inner : ScramVerifierStartupHandler} {env : WireEnv} {w : WireWorld}
  {startup : Startup} {login : PyLoginInfo} {verifier : PyScramVerifier} {secure sessionFactory : Bool} {host : String}
  {out : List PgWireBackendMessage}

/-- The client introduces itself. -/
theorem processMessage_introduced (hinner : h.startup.inner = .scramVerifier inner)
    (htls : h.startup.requireTls = true → secure = true)
    (hk : Knows env startup (startup.login (.accept secure host)) verifier sessionFactory) :
    Prog.Returns env (h.processMessage K (.startup startup)) ((freshWorld secure host).called .receive ()) fun _ w =>
      ∃ negotiated, (∃ log, env log (.protocolNegotiation startup) = .ok negotiated) ∧
        Standing (startup.login (.accept secure host)) secure .authenticationInProgress .initial
          (negotiated ++ [.authenticationSasl (inner.mechanisms (.accept secure host))]) w := by
  have hfresh : Standing (freshWorld secure host).st.loginInfo secure .awaitingStartup .initial []
      (freshWorld secure host) := ⟨rfl, rfl, rfl, rfl, rfl, rfl⟩
  rw [processMessage_startup_returns rfl]
  refine PyStartupHandler.onStartup_waits hinner ?_
    (inner.onStartup_introduced (w := (freshWorld secure host).called .receive ()) hk rfl hfresh.receive) ?_
  · rintro ⟨htls', -, hinsecure⟩
    exact hinsecure (htls htls')
  · rintro w' ⟨negotiated, -, hw'⟩ hready
    rw [hw'.state] at hready
    cases hready

/-- The server challenges the client. -/
theorem processMessage_challenged (hinner : h.startup.inner = .scramVerifier inner)
    (hk : Knows env startup login verifier sessionFactory) {c : Client} {first : ClientFirst}
    (hparse : ClientFirst.parse c.clientFirst = .ok first) {mechanism : String}
    (hneg : negotiate mechanism first.cbindFlag (inner.certificate (.accept secure host)) = .ok c.cbindData)
    (unread : Except PgWireError Bytes) (hw : Standing login secure .authenticationInProgress .initial out w) :
    Prog.Returns env (h.processMessage K
        (.passwordMessageFamily ⟨.ok ⟨mechanism, some (utf8 c.clientFirst)⟩, unread⟩)) (w.called .receive ())
      fun _ w' => ∃ bytes x,
        x = Exchange.new first c.cbindData (Base64.encode bytes) (login.user.getD "") verifier false ∧
          Standing login secure .authenticationInProgress (.serverFirstSent x)
            (out ++ [.authenticationSaslContinue (utf8 x.serverFirst)]) w' := by
  have hcertificate : inner.certificate (w.called .receive ()).st = inner.certificate (.accept secure host) := by
    rw [ScramVerifierStartupHandler.certificate, hw.receive.secure]
    rfl
  rw [processMessage_startup_returns (by rw [hw.receive.state]; rfl)]
  have htls : ¬ (h.startup.requireTls ∧ (PgWireFrontendMessage.passwordMessageFamily
      ⟨.ok ⟨mechanism, some (utf8 c.clientFirst)⟩, unread⟩).isStartup ∧ ¬ (w.called .receive ()).st.secure) := by
    simp [PgWireFrontendMessage.isStartup]
  refine PyStartupHandler.onStartup_waits hinner htls
    (inner.onStartup_challenged hk hparse (hcertificate ▸ hneg) hw.receive unread) ?_
  rintro w' ⟨bytes, x, -, hw'⟩ hready
  rw [hw'.state] at hready
  cases hready

/-- The server lets the client in. -/
theorem processMessage_letIn (hinner : h.startup.inner = .scramVerifier inner)
    (hf : inner.sessionFactory = h.startup.sessionFactory)
    (hk : Knows env startup login verifier inner.sessionFactory) {x : Exchange} {response : Bytes} {serverFinal : Str}
    (hverify : x.verify K response = .ok serverFinal)
    (unread : Except PgWireError SASLInitialResponse)
    (hw : Standing login secure .authenticationInProgress (.serverFirstSent x) out w) :
    Prog.Returns env (h.processMessage K (.passwordMessageFamily ⟨unread, .ok response⟩)) (w.called .receive ())
      fun _ => LetIn env login h.startup.sessionFactory (out ++ [.authenticationSaslFinal (utf8 serverFinal)]) := by
  rw [processMessage_startup_returns (by rw [hw.receive.state]; rfl)]
  exact PyStartupHandler.onStartup_letIn hinner hf rfl (inner.onStartup_admitted hk hverify hw.receive unread)

end Steps

/-- The messages of a client that asks to be let in. -/
def askingMessages (startup : Startup) (c : Client) (mechanism : String) (unread : Except PgWireError Bytes) :
    List PgWireFrontendMessage :=
  [.startup startup, .passwordMessageFamily ⟨.ok ⟨mechanism, some (utf8 c.clientFirst)⟩, unread⟩]

/-- **Completeness of the login**: a client that knows its password is let in where the callbacks know it by a verifier,
and hears the signature it insists on.  What pgwire sends on its own comes before the offered mechanisms and after
`AuthenticationOk`. -/
theorem login_admitted (K : Crypto) (hi : Bytes → Bytes → ℕ → Bytes)
    {configureCertificate : Bytes → Except PgWireError Unit} {config : HandlerConfig} {h : PyServerHandlers}
    (hb : config.build configureCertificate = .ok h) {inner : ScramVerifierStartupHandler}
    (hinner : h.startup.inner = .scramVerifier inner) (env : WireEnv) (secure : Bool) (host : String)
    (htls : config.requireTls = true → secure = true) (startup : Startup) (c : Client) (first : ClientFirst)
    (hparse : ClientFirst.parse c.clientFirst = .ok first) (hext : ∀ e ∈ c.extensions, ',' ∉ e) (mechanism : String)
    (hneg : negotiate mechanism first.cbindFlag (inner.certificate (.accept secure host)) = .ok c.cbindData)
    (verifier : PyScramVerifier) (he : c.Enrolled K hi verifier)
    (hk : Knows env startup (startup.login (.accept secure host)) verifier config.sessionFactory)
    (unread : Except PgWireError Bytes) (unread' : Except PgWireError SASLInitialResponse) :
    let offer : PgWireBackendMessage := .authenticationSasl (inner.mechanisms (.accept secure host))
    ∃ negotiated serverFirst reply,
      (∃ log, env log (.protocolNegotiation startup) = .ok negotiated) ∧
      Prog.Returns env (h.processSocket K (askingMessages startup c mechanism unread)) (freshWorld secure host)
        (fun _ w => sent w.log = negotiated ++ [offer, .authenticationSaslContinue (utf8 serverFirst)]) ∧
      c.respond K hi serverFirst = some reply ∧
      Prog.Returns env (h.processSocket K (askingMessages startup c mechanism unread ++
          [.passwordMessageFamily ⟨unread', .ok (utf8 reply.clientFinal)⟩])) (freshWorld secure host)
        fun _ => LetIn env (startup.login (.accept secure host)) config.sessionFactory (negotiated ++
          [offer, .authenticationSaslContinue (utf8 serverFirst), .authenticationSaslFinal (utf8 reply.serverFinal)]) := by
  intro offer
  obtain ⟨hrequire, hsession⟩ : h.startup.requireTls = config.requireTls ∧
      h.startup.sessionFactory = config.sessionFactory := by
    obtain ⟨_, -, rfl⟩ := HandlerConfig.build_eq_ok hb
    exact ⟨rfl, rfl⟩
  have hf := (HandlerConfig.wired hb).sessionFactory inner hinner
  rw [← hsession, ← hf] at hk
  obtain ⟨⟨⟩, w1, hrun1, negotiated, hnegotiated, hw1⟩ :=
    processMessage_introduced (K := K) hinner (hrequire ▸ htls) hk
  obtain ⟨⟨⟩, w2, hrun2, bytes, x, hx, hw2⟩ := processMessage_challenged (K := K) hinner hk hparse hneg unread hw1
  have hfree : ',' ∉ Base64.encode bytes := Base64.notMem_encode (by decide) bytes
  obtain ⟨reply, hrespond, hverify⟩ := Client.respond_verified hparse hfree hext he hx
  have hin := processMessage_letIn hinner hf hk hverify unread' hw2
  rw [hsession, List.append_assoc, List.append_assoc] at hin
  have hasked : ∀ {messages : List PgWireFrontendMessage} {Q : Unit → WireWorld → Prop},
      Prog.Returns env (h.processSocket K messages) w2 Q →
        Prog.Returns env (h.processSocket K (askingMessages startup c mechanism unread ++ messages))
          (freshWorld secure host) Q := by
    intro messages Q hmessages
    refine processSocket_returns (S := (· = w1)) ((Prog.returns_of_run hrun1).mpr rfl) ?_
    rintro _ rfl
    refine processSocket_returns (S := (· = w2)) ((Prog.returns_of_run hrun2).mpr rfl) ?_
    rintro _ rfl
    exact hmessages
  refine ⟨negotiated, x.serverFirst, reply, hnegotiated, ?_, hrespond, hasked ?_⟩
  · have hnothing : Prog.Returns env (h.processSocket K []) w2
        fun _ w => sent w.log = negotiated ++ [offer, .authenticationSaslContinue (utf8 x.serverFirst)] := by
      refine (Prog.returns_pure ()).mpr ?_
      rw [hw2.sent, List.append_assoc]
      rfl
    exact hasked hnothing
  · exact processSocket_returns hin fun w3 hw3 => (Prog.returns_pure ()).mpr hw3

end PyServerHandlers

namespace KnownUser

open Scram.Sesame

def client : Client := ⟨[], "n,,n=,r=open".toList, [], []⟩

theorem client_enrolled : client.Enrolled default (fun _ _ _ => []) verifier := ⟨rfl, rfl⟩

theorem env_knows (login : PyLoginInfo) (startup : Startup) : Knows env startup login verifier true :=
  ⟨fun _ => ⟨_, rfl⟩, fun _ => rfl, fun _ _ => rfl⟩

end KnownUser

/-- The user of `KnownUser` on a server that checks its clients. -/
theorem login_admitted_alice :
    ∃ negotiated serverFirst reply,
      (∃ log, KnownUser.env log (.protocolNegotiation ⟨[("user", "alice")]⟩) = .ok negotiated) ∧
      Prog.Returns KnownUser.env
        (verifying.processSocket default (PyServerHandlers.askingMessages ⟨[("user", "alice")]⟩ KnownUser.client
          scramSha256 (.ok []))) (freshWorld false "127.0.0.1")
        (fun _ w => sent w.log =
          negotiated ++ [.authenticationSasl [scramSha256], .authenticationSaslContinue (utf8 serverFirst)]) ∧
      KnownUser.client.respond default (fun _ _ _ => []) serverFirst = some reply ∧
      Prog.Returns KnownUser.env
        (verifying.processSocket default (PyServerHandlers.askingMessages ⟨[("user", "alice")]⟩ KnownUser.client
          scramSha256 (.ok []) ++ [.passwordMessageFamily ⟨.error .invalidSASLState, .ok (utf8 reply.clientFinal)⟩]))
        (freshWorld false "127.0.0.1")
        fun _ => LetIn KnownUser.env ((⟨[("user", "alice")]⟩ : Startup).login (.accept false "127.0.0.1")) true
          (negotiated ++ [.authenticationSasl [scramSha256], .authenticationSaslContinue (utf8 serverFirst),
            .authenticationSaslFinal (utf8 reply.serverFinal)]) :=
  PyServerHandlers.login_admitted default (fun _ _ _ => []) verifying_build rfl KnownUser.env false "127.0.0.1"
    (by decide) ⟨[("user", "alice")]⟩ KnownUser.client Sesame.first (by decide +kernel) (by decide) scramSha256
    (by decide) Sesame.verifier KnownUser.client_enrolled (KnownUser.env_knows _ _) (.ok []) (.error .invalidSASLState)

end Pywire
