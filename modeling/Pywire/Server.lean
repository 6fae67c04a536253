import Pywire.Extended

/-!
# Server: simple queries, startup, and the life of a connection

`src/server.rs` and the startup half of `src/scram_verifier.rs`: the simple query handler, the startup
handlers with the session they open, and the handlers of one connection.  `processSocket` is pgwire's loop
over the messages of one client: it hands them to the startup handler until the connection has left startup,
as it should or by an error that pgwire goes on from, and to the query handlers from then on.
-/

namespace Pywire

open Async Scram

/-! ### Simple queries -/

structure PyServerSimpleQueryHandler where
  extended : PyExtendedHandler

namespace PyServerSimpleQueryHandler

variable (h : PyServerSimpleQueryHandler)

def doQuery (query : String) : Proc (List Response) := do
  let client ← Prog.get
  let inst :=
    match client.pySession with
    | some session => session
    | none => .simple
  let pyResponses ← callPython (.simpleDoQuery inst query)
  let responses := pyResponses.map PyResponse.intoPg
  if responses.any Response.isTransactionEnd then PyExtendedHandler.closeAllPortals else pure ()
  return responses

/-- pgwire's own part of a simple query. -/
def _onQuery (query : String) : Proc Unit := do
  Prog.modify fun client => { client with state := .queryInProgress }
  if ← await (.isEmptySimpleQuery query) then
    PyExtendedHandler.sendResponses [.emptyQuery]
  else do
    let responses ← doQuery query
    PyExtendedHandler.sendResponses responses
  Prog.modify fun client => { client with state := .readyForQuery }
  let client ← Prog.get
  send (.readyForQuery client.transactionStatus)

def onQuery (query : String) : Proc Unit := do
  let client ← Prog.get
  if client.state ≠ .readyForQuery then .fail .notReadyForQuery
  else do
    PyExtendedHandler.closePortal defaultName
    Prog.modify (Conn.rmPortal defaultName)
    h.extended.closeStatement defaultName
    let result ← (_onQuery query).attempt
    let client ← Prog.get
    if client.transactionStatus = .idle then PyExtendedHandler.closeAllPortals else pure ()
    Prog.ofExcept result

end PyServerSimpleQueryHandler

/-! ### Startup -/

def initializePythonSession : Proc Unit := do
  let client ← Prog.get
  let inst ← callPythonRef (.openSession client.loginInfo)
  Prog.modify fun client =>
    { client with resources := { client.resources with session := some (.session inst) } }
  Prog.modify fun client => { client with pySession := some (.session inst) }

/-- `save_startup_parameters_to_metadata`. -/
def Conn.saveStartupParameters (message : Startup) (c : Conn) : Conn :=
  { c with metadata := message.parameters.foldl (fun m (key, value) => m.insert key value) c.metadata }

/-- pgwire's `finish_authentication`. -/
def finishAuthentication : Proc Unit := do
  send .authenticationOk
  let _ ← await .announce
  Prog.modify fun client => { client with state := .readyForQuery }
  send (.readyForQuery .idle)

/-- One message to a startup handler of pgwire. -/
def pgwireOnStartup (message : PgWireFrontendMessage) : Proc Unit := do
  let step ← await (.authStep message)
  match message with
  | .startup startup =>
    if step.savesParameters then Prog.modify (Conn.saveStartupParameters startup) else pure ()
  | _ => pure ()
  if step.challenges then
    Prog.modify fun client => { client with state := .authenticationInProgress }
  else pure ()
  if ← Prog.ofExcept step.result then finishAuthentication else pure ()

/-- Shared, per-server configuration of the verifier handler. -/
structure ScramVerifierConfig where
  certificate : Option Bytes
  mockSecret : Bytes
  mockIterations : UInt32
  mockIterations_ne : mockIterations ≠ 0

structure ScramVerifierStartupHandler where
  config : ScramVerifierConfig
  sessionFactory : Bool

namespace ScramVerifierStartupHandler

variable (K : Crypto) (h : ScramVerifierStartupHandler)

/-- The certificate hash, on a TLS connection. -/
def certificate (client : Conn) : Option Bytes := h.config.certificate.filter fun _ => client.secure

/-- The mechanisms offered to the client. -/
def mechanisms (client : Conn) : List String :=
  [scramSha256] ++ if (h.certificate client).isSome then [scramSha256Plus] else []

def takeState : Proc ScramState := do
  let client ← Prog.get
  Prog.modify fun client => { client with scram := .done }
  return client.scram

def lookup (login : PyLoginInfo) : Proc (Option PyScramVerifier) := callPython (.getScramVerifier login)

def start (mechanism : String) (data : Option Bytes) : Proc Exchange := do
  let data ← Prog.ofOutcome (.okOr (invalid "empty SCRAM client-first-message") data)
  let first ← Prog.ofOutcome (decodeUtf8 data >>= ClientFirst.parse)
  let client ← Prog.get
  let cbindData ← Prog.ofOutcome (negotiate mechanism first.cbindFlag (h.certificate client))
  let login := client.loginInfo
  let user := login.user.getD ""
  let found ← lookup login
  let (verifier, mock) :=
    match found with
    | some verifier => (verifier, false)
    | none => (mockVerifier K h.config.mockSecret user h.config.mockIterations h.config.mockIterations_ne, true)
  let serverNonce ← await .randomNonce
  return .new first cbindData (Base64.encode serverNonce.1) user verifier mock

/-- Evaluates `verify` and leaves a note of it in the log. -/
def verify (exchange : Exchange) (message : Bytes) : Proc Str := do
  Prog.mark ⟨exchange, message, exchange.verify K message⟩
  Prog.ofOutcome (exchange.verify K message)

def onStartup (message : PgWireFrontendMessage) : Proc Unit :=
  match message with
  | .startup startup => do
    let _ ← Prog.ofExcept (← await (.protocolNegotiation startup))
    Prog.modify (Conn.saveStartupParameters startup)
    Prog.modify fun client => { client with state := .authenticationInProgress }
    let client ← Prog.get
    send (.authenticationSasl (h.mechanisms client))
  | .passwordMessageFamily message => do
    match ← takeState with
    | .initial => do
      let initial ← Prog.ofExcept message.intoSaslInitialResponse
      let exchange ← h.start K initial.authMethod initial.data
      Prog.modify fun client => { client with scram := .serverFirstSent exchange }
      send (.authenticationSaslContinue (Text.utf8 exchange.serverFirst))
    | .serverFirstSent exchange => do
      let response ← Prog.ofExcept message.intoSaslResponse
      let serverFinal ← verify K exchange response
      if h.sessionFactory then initializePythonSession else pure ()
      send (.authenticationSaslFinal (Text.utf8 serverFinal))
      let pid ← await .generatePid
      Prog.modify fun client => { client with pidAndSecretKey := some pid }
      Prog.modify fun client => { client with registered := true }
      finishAuthentication
    | .done => .fail .invalidSASLState
  | _ => pure ()

end ScramVerifierStartupHandler

inductive PyStartupInner where
  | noop
  | cleartext
  | scram (iterations : ℕ) (certificate : Option Bytes)
  | scramVerifier (h : ScramVerifierStartupHandler)

structure PyStartupHandler where
  inner : PyStartupInner
  requireTls : Bool
  sessionFactory : Bool

namespace PyStartupHandler

variable (K : Crypto) (h : PyStartupHandler)

def innerOnStartup (message : PgWireFrontendMessage) : Proc Unit :=
  match h.inner with
  | .noop => pgwireOnStartup message
  | .cleartext => pgwireOnStartup message
  | .scram _ _ => pgwireOnStartup message
  | .scramVerifier inner => inner.onStartup K message

def onStartup (message : PgWireFrontendMessage) : Proc Unit := do
  let client ← Prog.get
  if h.requireTls ∧ message.isStartup ∧ ¬ client.secure then
    .fail (userError "FATAL" "28000" "TLS is required")
  else do
    h.innerOnStartup K message
    let client ← Prog.get
    if client.state = .readyForQuery ∧ ¬ client.installed then
      Prog.modify fun client => { client with installed := true }
    else pure ()
    let client ← Prog.get
    if client.state = .readyForQuery ∧ client.pySession.isNone then
      if h.sessionFactory then initializePythonSession else pure ()
    else pure ()

end PyStartupHandler

/-! ### The handlers of a server -/

structure PyServerHandlers where
  simpleQuery : PyServerSimpleQueryHandler
  startup : PyStartupHandler
  extendedQuery : PyExtendedHandler

inductive AuthMethod where
  | trust
  | cleartext
  | scram
  | scramVerifier
  deriving DecidableEq

structure HandlerConfig where
  extendedQuery : PyExtendedHandler
  /-- The `AuthSource`. -/
  auth : Option PyObj
  authMethod : AuthMethod
  requireTls : Bool
  scramIterations : ℕ
  tlsCertificatePem : Option Bytes
  /-- A session factory is configured. -/
  sessionFactory : Bool
  scramVerifier : Option ScramVerifierConfig

/-- The startup handler for the authentication method; `configureCertificate` is pgwire's. -/
def HandlerConfig.buildStartup (configureCertificate : Bytes → Except PgWireError Unit) (self : HandlerConfig) :
    Outcome PgWireError PyStartupInner :=
  match self.authMethod with
  | .trust => .ok .noop
  | .cleartext => do
    let _ ← .expect self.auth
    return .cleartext
  | .scram => do
    let _ ← .expect self.auth
    match self.tlsCertificatePem with
    | some certificate =>
      match configureCertificate certificate with
      | .ok () => return .scram self.scramIterations (some certificate)
      | .error e => .err e
    | none => return .scram self.scramIterations none
  | .scramVerifier => do
    let config ← .expect self.scramVerifier
    return .scramVerifier ⟨config, self.sessionFactory⟩

def HandlerConfig.build (configureCertificate : Bytes → Except PgWireError Unit) (self : HandlerConfig) :
    Outcome PgWireError PyServerHandlers := do
  let startup ← self.buildStartup configureCertificate
  return { simpleQuery := ⟨self.extendedQuery⟩
           startup := ⟨startup, self.requireTls, self.sessionFactory⟩
           extendedQuery := self.extendedQuery }

/-! ### The life of a connection -/

namespace PyServerHandlers

variable (K : Crypto) (h : PyServerHandlers)

/-- pgwire's dispatch of a message after startup. -/
def onMessage (message : PgWireFrontendMessage) : Proc Unit :=
  match message with
  | .query query => h.simpleQuery.onQuery query
  | .parse message => h.extendedQuery.onParse message
  | .bind message => h.extendedQuery.onBind message
  | .describe message => h.extendedQuery.onDescribe message
  | .execute message => h.extendedQuery.onExecute message
  | .close message => h.extendedQuery.onClose message
  | .sync => PyExtendedHandler.onSync
  | _ => pure ()

/-- pgwire's dispatch of a message by the state of the connection. -/
def processMessage (message : PgWireFrontendMessage) : Proc Unit := do
  let client ← Prog.get
  if client.state.isStartup then h.startup.onStartup K message
  else do
    let turn ← await .turn
    Prog.modify fun client => { client with state := turn.1.1, transactionStatus := turn.2 }
    h.onMessage message

/-- `process_error`: the error is reported, and pgwire sets the state in which it goes on, also during startup. -/
def processError (error : PgWireError) : Proc Bool := do
  let client ← Prog.get
  let handled ← await (.processError client.state error)
  Prog.modify (Conn.afterError handled)
  return handled.ends

/-- `process_socket`: a message that failed is reported, and unless that ends the connection the next one follows. -/
def processSocket : List PgWireFrontendMessage → Proc Unit
  | [] => pure ()
  | message :: messages => do
    await .receive
    match ← (h.processMessage K message).attempt with
    | .ok () => processSocket messages
    | .error e =>
      if ← processError e then pure () else processSocket messages

end PyServerHandlers

/-- A connection that was just accepted. -/
def Conn.accept (secure : Bool) (host : String) : Conn := { secure := secure, host := host }

/-- The world of a connection that was just accepted. -/
def freshWorld (secure : Bool) (host : String) : WireWorld := ⟨.accept secure host, []⟩

/-! ### A server that trusts its clients -/

/-- An extended query handler whose texts are of ASCII. -/
def PyExtendedHandler.ascii (configured : Bool) : PyExtendedHandler := ⟨configured, fun _ => false⟩

def trustingConfig (sessionFactory : Bool) : HandlerConfig where
  extendedQuery := .ascii true
  auth := none
  authMethod := .trust
  requireTls := false
  scramIterations := 4096
  tlsCertificatePem := none
  sessionFactory := sessionFactory
  scramVerifier := none

def trusting (sessionFactory : Bool) : PyServerHandlers :=
  ⟨⟨.ascii true⟩, ⟨.noop, false, sessionFactory⟩, .ascii true⟩

theorem trusting_build (sessionFactory : Bool) :
    (trustingConfig sessionFactory).build (fun _ => .ok ()) = .ok (trusting sessionFactory) := rfl

/-! ### A server that checks its clients -/

theorem iterations_ne : (4096 : UInt32) ≠ 0 := by decide

/-- The clients are checked against stored verifiers. -/
def verifyingConfig : HandlerConfig :=
  { trustingConfig true with
    authMethod := .scramVerifier
    scramVerifier := some ⟨none, [], 4096, iterations_ne⟩ }

def verifying : PyServerHandlers :=
  ⟨⟨.ascii true⟩, ⟨.scramVerifier ⟨⟨none, [], 4096, iterations_ne⟩, true⟩, false, true⟩, .ascii true⟩

theorem verifying_build : verifyingConfig.build (fun _ => .ok ()) = .ok verifying := rfl

/-! ### Environments -/

/-- Callbacks that all succeed. -/
def agreeablePython : (call : PyCall) → call.Ret
  | .getScramVerifier _ => none
  | .openSession _ => ()
  | .simpleDoQuery _ _ => []
  | .parseStatement _ _ _ _ => ()
  | .bindPortal _ _ _ _ _ _ => ()
  | .describeStatement _ _ => ⟨[], []⟩
  | .describePortal _ _ => []
  | .doQuery _ _ _ => .empty
  | .closePortal _ _ => ()
  | .closeStatement _ _ => ()
  | .closeSession _ => ()

/-- An environment in which everything succeeds. -/
def agreeable : WireEnv := fun _ call =>
  match call with
  | .python call => .ok (agreeablePython call)
  | .hasClose _ => true
  | .send _ => ()
  | .flush => ()
  | .lockClosing => ()
  | .receive => ()
  | .hashOrder keys => ⟨keys, .refl _⟩
  | .randomNonce => ⟨List.replicate 18 0, rfl⟩
  | .generatePid => (0, [])
  | .turn => (⟨.readyForQuery, rfl⟩, .idle)
  | .protocolNegotiation _ => .ok []
  | .authStep _ => ⟨true, [], false, .ok true⟩
  | .tryNewPortal _ => .ok ()
  | .resumesPortal _ => false
  | .isEmptySimpleQuery _ => false
  | .sendResponses _ => ⟨.idle, .ok ()⟩
  | .announce => [.parameterStatus "client_encoding" "UTF8", .backendKeyData 0 []]
  | .processError _ _ => ⟨some ⟨.readyForQuery, rfl⟩, false⟩

end Pywire
