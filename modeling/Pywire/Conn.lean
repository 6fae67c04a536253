import Mathlib.Data.List.AList
import Pywire.Lib.Prog
import Pywire.Query
import Pywire.Scram.Exchange

/-!
# Conn: one connection and the calls its handlers make

`Conn` is what the handlers share: pgwire's client (state, metadata, portal store, session extensions), the
`PythonPortals` of the connection, and the state of its startup handler.  `Call` lists everything whose
outcome the handlers do not control: the Python callbacks, the sends, the `closing` mutex, hash orders, random
values, and the decisions pgwire takes on its own.  A Python object is known by the position in the log of the
call that returned it.
-/

namespace Pywire

open Async Scram

/-- `DEFAULT_NAME`: the name the unnamed statement and the unnamed portal are stored under. -/
def defaultName : String := "POSTGRESQL_DEFAULT_NAME"

/-! ### Messages -/

structure Startup where
  parameters : List (String × String)

structure SASLInitialResponse where
  authMethod : String
  data : Option Bytes

/-- A password-family message: what pgwire makes of its bytes as either SASL message. -/
structure PasswordMessageFamily where
  intoSaslInitialResponse : Except PgWireError SASLInitialResponse
  intoSaslResponse : Except PgWireError Bytes

structure Parse where
  name : Option String
  query : String
  typeOids : List UInt32

structure Bind where
  portalName : Option String
  statementName : Option String
  parameterFormatCodes : List Int16
  parameters : List (Option Bytes)
  resultColumnFormatCodes : List Int16

/-- The target of a Close or a Describe. -/
structure Target where
  targetType : UInt8
  name : Option String

def targetTypeBytePortal : UInt8 := 80
def targetTypeByteStatement : UInt8 := 83

structure Execute where
  name : Option String
  maxRows : ℕ

inductive PgWireFrontendMessage where
  | startup (message : Startup)
  | passwordMessageFamily (message : PasswordMessageFamily)
  | query (query : String)
  | parse (message : Parse)
  | bind (message : Bind)
  | describe (message : Target)
  | execute (message : Execute)
  | close (message : Target)
  | sync
  | other

/-- `matches!(message, PgWireFrontendMessage::Startup(_))`. -/
def PgWireFrontendMessage.isStartup : PgWireFrontendMessage → Bool
  | .startup _ => true
  | _ => false

inductive TransactionStatus where
  | idle
  | transaction
  | error
  deriving DecidableEq

inductive PgWireBackendMessage where
  | negotiateProtocolVersion (minor : ℕ) (unsupported : List String)
  | authenticationCleartextPassword
  | authenticationSasl (mechanisms : List String)
  | authenticationSaslContinue (data : Bytes)
  | authenticationSaslFinal (data : Bytes)
  | authenticationOk
  | parameterStatus (name value : String)
  | backendKeyData (pid : ℕ) (secretKey : Bytes)
  | parseComplete
  | bindComplete
  | closeComplete
  | parameterDescription (types : List PgType)
  | rowDescription (fields : List PgFieldInfo)
  | readyForQuery (status : TransactionStatus)
  deriving DecidableEq

/-! ### Python objects and callbacks -/

/-- A Python object, by the position in the log of the call that returned it. -/
abbrev PyRef := ℕ

/-- The objects callbacks run on: the two process-wide handlers, or a session of the factory. -/
inductive PyInstance where
  | simple
  | extended
  | session (ref : PyRef)
  deriving DecidableEq

structure PyLoginInfo where
  user : Option String
  database : Option String
  host : String
  deriving DecidableEq

inductive PyCall where
  | getScramVerifier (login : PyLoginInfo)
  | openSession (login : PyLoginInfo)
  | simpleDoQuery (on : PyInstance) (query : String)
  | parseStatement (on : PyInstance) (name sql : String) (typeOids : List UInt32)
  | bindPortal (on : PyInstance) (name : String) (statement : PyRef) (parameters : List (Option Bytes))
      (parameterFormats resultFormats : List Int16)
  | describeStatement (on : PyInstance) (statement : PyRef)
  | describePortal (on : PyInstance) (portal : PyRef)
  | doQuery (on : PyInstance) (portal : PyRef) (maxRows : ℕ)
  | closePortal (on : PyInstance) (name : String)
  | closeStatement (on : PyInstance) (name : String)
  | closeSession (on : PyInstance)
  deriving DecidableEq

/-- `DescribeStatementResult`, as the code reads it. -/
structure StatementDescription where
  parameterTypes : List UInt32
  fields : List PyFieldInfo

/-- What the code extracts from the result of a callback; an object it only keeps is known by its position. -/
@[reducible] def PyCall.Ret : PyCall → Type
  | .getScramVerifier _ => Option PyScramVerifier
  | .openSession _ => Unit
  | .simpleDoQuery _ _ => List PyResponse
  | .parseStatement _ _ _ _ => Unit
  | .bindPortal _ _ _ _ _ _ => Unit
  | .describeStatement _ _ => StatementDescription
  | .describePortal _ _ => List PyFieldInfo
  | .doQuery _ _ _ => PyResponse
  | .closePortal _ _ => Unit
  | .closeStatement _ _ => Unit
  | .closeSession _ => Unit

/-! ### The stores -/

inductive Format where
  | unifiedText
  | unifiedBinary
  | individual (codes : List Int16)
  deriving DecidableEq

/-- pgwire's `Format` for a list of codes. -/
def Format.fromCodes : List Int16 → Format
  | [] => .unifiedText
  | [0] => .unifiedText
  | [1] => .unifiedBinary
  | codes => .individual codes

structure StoredStatement where
  id : String
  statement : PyRef
  parameterTypes : List (Option PgType)
  deriving DecidableEq

structure Portal where
  name : String
  statement : StoredStatement
  parameterFormat : Format
  parameters : List (Option Bytes)
  resultColumnFormat : Format
  deriving DecidableEq

inductive Entry (α : Type) where
  | value (a : α)
  | empty

namespace Entry

variable {α : Type}

def isValue : Entry α → Bool
  | .value _ => true
  | .empty => false

@[simp] theorem isValue_value (a : α) : (Entry.value a).isValue = true := rfl
@[simp] theorem isValue_empty : (Entry.empty : Entry α).isValue = false := rfl

end Entry

/-- A finite map with string keys. -/
abbrev StrMap (α : Type) := AList fun _ : String => α

namespace StrMap

variable {α : Type} (m : StrMap α) (k n : String) (a : α)

theorem lookup_insert_eq_if : (m.insert k a).lookup n = if n = k then some a else m.lookup n := by
  by_cases hn : n = k
  · subst hn
    simp
  · simp [hn]

theorem lookup_erase_eq_if : (m.erase k).lookup n = if n = k then none else m.lookup n := by
  by_cases hn : n = k
  · subst hn
    simp
  · simp [hn]

theorem eq_empty (h : ∀ n, m.lookup n = none) : m = ∅ := by
  have hentries : m.entries = [] := by
    cases he : m.entries with
    | nil => rfl
    | cons e es =>
      exfalso
      have hmem : e.2 ∈ m.lookup e.1 := AList.mem_lookup_iff.mpr (by rw [he]; exact List.mem_cons_self ..)
      rw [h e.1] at hmem
      cases hmem
  exact AList.ext hentries

theorem eq_empty_of_keys (h : m.keys = []) : m = ∅ := by
  refine m.eq_empty fun n => AList.lookup_eq_none.mpr ?_
  rw [AList.mem_keys, h]
  exact List.not_mem_nil

end StrMap

/-- pgwire's portal store. -/
structure PortalStore where
  statements : StrMap (Entry StoredStatement) := ∅
  portals : StrMap (Entry Portal) := ∅

structure BoundPortal where
  inst : PyInstance
  portal : PyRef
  deriving DecidableEq

structure PortalEntry where
  statementName : String
  bound : Option BoundPortal
  deriving DecidableEq

/-- `PythonPortals`; `closing` is set while a protocol handler holds the mutex. -/
structure PythonPortals where
  portals : StrMap PortalEntry := ∅
  statements : StrMap PyInstance := ∅
  session : Option PyInstance := none
  closing : Bool := false

inductive PgWireConnectionState where
  | awaitingStartup
  | authenticationInProgress
  | readyForQuery
  | queryInProgress
  | copyInProgress
  | awaitingSync
  deriving DecidableEq

/-- The states in which pgwire hands messages to the startup handler. -/
def PgWireConnectionState.isStartup : PgWireConnectionState → Bool
  | .awaitingStartup => true
  | .authenticationInProgress => true
  | _ => false

/-- `State` of the SCRAM verifier handler. -/
inductive ScramState where
  | initial
  | serverFirstSent (exchange : Exchange)
  | done
  deriving DecidableEq

structure Conn where
  secure : Bool
  host : String
  metadata : StrMap String := ∅
  state : PgWireConnectionState := .awaitingStartup
  transactionStatus : TransactionStatus := .idle
  /-- `PySession` in the session extensions. -/
  pySession : Option PyInstance := none
  /-- The session extensions hold the connection's `PythonPortals`. -/
  installed : Bool := false
  resources : PythonPortals := {}
  store : PortalStore := {}
  scram : ScramState := .initial
  pidAndSecretKey : Option (ℕ × Bytes) := none
  /-- The connection is registered with the connection manager. -/
  registered : Bool := false

/-- `LoginInfo::from_client_info`, as Python sees it. -/
def Conn.loginInfo (c : Conn) : PyLoginInfo :=
  ⟨c.metadata.lookup "user", c.metadata.lookup "database", c.host⟩

/-! ### Calls -/

/-- What pgwire's own startup handlers make of a message. -/
structure AuthStep where
  savesParameters : Bool
  /-- What they send, before they finish the authentication. -/
  sent : List PgWireBackendMessage
  challenges : Bool
  /-- Whether the client is authenticated now. -/
  result : Except PgWireError Bool

/-- What is left after pgwire has written the responses of a query. -/
structure Settled where
  transactionStatus : TransactionStatus
  result : Except PgWireError Unit

/-- What pgwire does about a message that failed. -/
structure ErrorHandled where
  /-- The state that it sets, if it sets one; no connection goes back to startup. -/
  state : Option { state : PgWireConnectionState // state.isStartup = false }
  /-- The connection ends, as it does after a FATAL error. -/
  ends : Bool

/-- pgwire has set the state in which the connection goes on after an error. -/
def Conn.afterError (handled : ErrorHandled) (c : Conn) : Conn :=
  { c with state := (handled.state.map Subtype.val).getD c.state }

/-- No error takes a connection back to startup. -/
theorem Conn.isStartup_afterError {c : Conn} (hc : c.state.isStartup = false) (handled : ErrorHandled) :
    (c.afterError handled).state.isStartup = false := by
  cases hset : handled.state with
  | none => simpa [Conn.afterError, hset] using hc
  | some state => simpa [Conn.afterError, hset] using state.2

inductive Call where
  | python (call : PyCall)
  /-- `hasattr(instance, "close")`. -/
  | hasClose (on : PyInstance)
  | send (message : PgWireBackendMessage)
  | flush
  | lockClosing
  /-- The next message of the client. -/
  | receive
  /-- The order in which a hash map is iterated over. -/
  | hashOrder (keys : List String)
  | randomNonce
  | generatePid
  /-- The state pgwire is in when it dispatches a message after startup. -/
  | turn
  | protocolNegotiation (message : Startup)
  | authStep (message : PgWireFrontendMessage)
  | tryNewPortal (message : Bind)
  /-- Whether an Execute continues a suspended portal instead of running it. -/
  | resumesPortal (name : String)
  | isEmptySimpleQuery (query : String)
  | sendResponses (responses : List Response)
  /-- pgwire tells an authenticated client of the server: parameters and the key for a cancel request. -/
  | announce
  /-- `process_error`, for a message that was dispatched on a connection in the state `state`. -/
  | processError (state : PgWireConnectionState) (error : PgWireError)

@[reducible] def Call.Reply : Call → Type
  | .python call => Except PyErr call.Ret
  | .hasClose _ => Bool
  | .send _ => Unit
  | .flush => Unit
  | .lockClosing => Unit
  | .receive => Unit
  | .hashOrder keys => { names : List String // names.Perm keys }
  | .randomNonce => { bytes : Bytes // bytes.length = 18 }
  | .generatePid => ℕ × Bytes
  | .turn => { state : PgWireConnectionState // state.isStartup = false } × TransactionStatus
  | .protocolNegotiation _ => Except PgWireError (List PgWireBackendMessage)
  | .authStep _ => AuthStep
  | .tryNewPortal _ => Except PgWireError Unit
  | .resumesPortal _ => Bool
  | .isEmptySimpleQuery _ => Bool
  | .sendResponses _ => Settled
  | .announce => List PgWireBackendMessage
  | .processError _ _ => ErrorHandled

/-- The calls a handler waits for; the others return in the same poll. -/
def Call.isAwait : Call → Bool
  | .python (.closeSession _) => false
  | .python _ => true
  | .send _ => true
  | .flush => true
  | .lockClosing => true
  | .receive => true
  | .protocolNegotiation _ => true
  | .authStep _ => true
  | .sendResponses _ => true
  | .announce => true
  | .processError _ _ => true
  | _ => false

/-- `Exchange::verify` was evaluated. -/
structure Verified where
  exchange : Exchange
  message : Bytes
  result : Outcome PgWireError Str

/-- Asynchronous code of the server. -/
abbrev Proc := Prog Conn Call.Reply Verified PgWireError

abbrev WireEvent := Event Call.Reply Verified
abbrev WireWorld := World Conn Call.Reply Verified
abbrev WireEnv := Prog.Env Call.Reply Verified

abbrev await (c : Call) : Proc c.Reply := Prog.await c

/-- The reply of a call together with the call's position in the log. -/
abbrev awaitAt (c : Call) : Proc (ℕ × c.Reply) := Prog.awaitAt c

/-- Awaits a callback; a raised exception is translated. -/
def callPython (c : PyCall) : Proc c.Ret := do
  match ← await (.python c) with
  | .ok r => pure r
  | .error e => .fail (pyErrToPywire e)

/-- As `callPython`, with the name of the object the callback returned. -/
def callPythonRef (c : PyCall) : Proc PyRef := do
  match ← awaitAt (.python c) with
  | (ref, .ok _) => pure ref
  | (_, .error e) => .fail (pyErrToPywire e)

abbrev send (m : PgWireBackendMessage) : Proc Unit := await (.send m)

section Rules

variable {C : WireWorld → Call → Prop} {w : WireWorld} {c : PyCall}

@[simp] theorem sat_callPython {Q : Outcome PgWireError c.Ret → WireWorld → Prop} :
    @Prog.Sat Call Conn Verified PgWireError (no_index c.Ret) Call.Reply C (callPython c) w Q ↔ C w (.python c) ∧
      (∀ r, Q (.ok r) (w.called (.python c) (.ok r))) ∧ ∀ e, Q (.err (pyErrToPywire e)) (w.called (.python c) (.error e)) := by
  rw [callPython, Prog.sat_bind, Prog.sat_await]
  refine and_congr_right fun _ => ⟨fun h => ⟨fun r => h (.ok r), fun e => h (.error e)⟩, fun h r => ?_⟩
  cases r with
  | error e => exact h.2 e
  | ok r => exact h.1 r

@[simp] theorem sat_callPythonRef {Q : Outcome PgWireError PyRef → WireWorld → Prop} :
    Prog.Sat C (callPythonRef c) w Q ↔ C w (.python c) ∧
      (∀ r, Q (.ok w.log.length) (w.called (.python c) (.ok r))) ∧
      ∀ e, Q (.err (pyErrToPywire e)) (w.called (.python c) (.error e)) := by
  rw [callPythonRef, Prog.sat_bind, Prog.sat_awaitAt]
  refine and_congr_right fun _ => ⟨fun h => ⟨fun r => h (.ok r), fun e => h (.error e)⟩, fun h r => ?_⟩
  cases r with
  | error e => exact h.2 e
  | ok r => exact h.1 r

/-- A callback does not touch the connection. -/
theorem callPython_spares {γ : Type} (g : Conn → γ) (c : PyCall) : Prog.Spares g (callPython c) := by
  refine (Prog.spares_await _).bind fun r => ?_
  cases r with
  | ok a => exact Prog.spares_pure a
  | error e => exact Prog.spares_fail _

end Rules

end Pywire
