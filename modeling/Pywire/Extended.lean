import Pywire.Conn

/-!
# Extended: the extended query protocol

`src/extended.rs`, function by function: the close routines, the message handlers of `PyExtendedHandler`, and
the cleanup of `PythonPortals`.  pgwire's dispatch of Describe and Execute over its portal store stands at the
end.
-/

namespace Pywire

open Async

structure PyExtendedHandler where
  /-- An `ExtendedQueryHandler` is configured. -/
  configured : Bool
  /-- What `{:?}` escapes, see `debugChar`. -/
  escapes : Char → Bool

/-- The `instance` of the handler. -/
def PyExtendedHandler.inst (h : PyExtendedHandler) : Option PyInstance :=
  if h.configured then some .extended else none

/-! ### Updates of the stores -/

namespace Conn

def lockClosing (c : Conn) : Conn := { c with resources := { c.resources with closing := true } }
def unlockClosing (c : Conn) : Conn := { c with resources := { c.resources with closing := false } }

/-- `portals.portals.lock().insert(name, entry)`. -/
def insertPortal (name : String) (entry : PortalEntry) (c : Conn) : Conn :=
  { c with resources := { c.resources with portals := c.resources.portals.insert name entry } }

/-- `portals.portals.lock().remove(name)`. -/
def removePortal (name : String) (c : Conn) : Conn :=
  { c with resources := { c.resources with portals := c.resources.portals.erase name } }

/-- `portals.statements.lock().insert(name, instance)`. -/
def insertStatement (name : String) (inst : PyInstance) (c : Conn) : Conn :=
  { c with resources := { c.resources with statements := c.resources.statements.insert name inst } }

/-- `portals.statements.lock().remove(name)`. -/
def removeStatement (name : String) (c : Conn) : Conn :=
  { c with resources := { c.resources with statements := c.resources.statements.erase name } }

/-- `portal_store().put_portal(portal)`. -/
def putPortal (portal : Portal) (c : Conn) : Conn :=
  { c with store := { c.store with portals := c.store.portals.insert portal.name (.value portal) } }

/-- `portal_store().put_empty_portal(name)`. -/
def putEmptyPortal (name : String) (c : Conn) : Conn :=
  { c with store := { c.store with portals := c.store.portals.insert name .empty } }

/-- `portal_store().rm_portal(name)`. -/
def rmPortal (name : String) (c : Conn) : Conn :=
  { c with store := { c.store with portals := c.store.portals.erase name } }

/-- `portal_store().put_statement(statement)`. -/
def putStatement (statement : StoredStatement) (c : Conn) : Conn :=
  { c with store := { c.store with statements := c.store.statements.insert statement.id (.value statement) } }

/-- `portal_store().put_empty_statement(name)`. -/
def putEmptyStatement (name : String) (c : Conn) : Conn :=
  { c with store := { c.store with statements := c.store.statements.insert name .empty } }

/-- `portal_store().rm_statement(name)`. -/
def rmStatement (name : String) (c : Conn) : Conn :=
  { c with store := { c.store with statements := c.store.statements.erase name } }

end Conn

/-! ### Formats and types -/

def formatCodes (format : Format) (len : ℕ) : List Int16 :=
  match format with
  | .unifiedText => List.replicate len 0
  | .unifiedBinary => List.replicate len 1
  | .individual codes => codes

def resultFormatCodes : Format → List Int16
  | .individual codes => codes
  | .unifiedBinary => [1]
  | .unifiedText => []

def pgType (oid : UInt32) : PgType := if oid = 0 then .unknown else .ofOid oid

/-- `char::is_ascii_whitespace`. -/
def isAsciiWhitespace (c : Char) : Bool := c = ' ' ∨ c = '\t' ∨ c = '\n' ∨ c = '\x0c' ∨ c = '\r'

/-- Where `is_empty_query` stands: outside comments, in a line comment, or in block comments of a depth.  A query of
a message has fewer than 2^31 bytes, so the depth does not leave `i32`. -/
inductive Scan where
  | top
  | line
  | block (depth : ℕ)

def isEmptyQueryFrom : Scan → List Char → Bool
  | .top, [] => true
  | .top, '-' :: '-' :: cs => isEmptyQueryFrom .line cs
  | .top, '/' :: '*' :: cs => isEmptyQueryFrom (.block 1) cs
  | .top, c :: cs => if isAsciiWhitespace c ∨ c = ';' then isEmptyQueryFrom .top cs else false
  | .line, [] => true
  | .line, c :: cs => if c = '\n' ∨ c = '\r' then isEmptyQueryFrom .top cs else isEmptyQueryFrom .line cs
  | .block _, [] => false
  | .block depth, '/' :: '*' :: cs => isEmptyQueryFrom (.block (depth + 1)) cs
  | .block depth, '*' :: '/' :: cs =>
    if depth = 1 then isEmptyQueryFrom .top cs else isEmptyQueryFrom (.block (depth - 1)) cs
  | .block depth, _ :: cs => isEmptyQueryFrom (.block depth) cs

def isEmptyQuery (sql : String) : Bool := isEmptyQueryFrom .top sql.toList

namespace PyExtendedHandler

variable (h : PyExtendedHandler)

def instanceFor (client : Conn) : Option PyInstance := client.pySession.or h.inst

/-- `portal_for`: the Python portal kept for a name. -/
def portalFor (client : Conn) (name : String) : Outcome PgWireError PyRef :=
  if client.installed then
    .okOr (.portalNotFound name) (((client.resources.portals.lookup name).bind (·.bound)).map (·.portal))
  else .err (.portalNotFound name)

/-! ### Close routines -/

/-- Runs `t` with the `closing` mutex held; the guard is dropped on every way out. -/
def withClosing (t : Proc Unit) : Proc Unit := do
  await .lockClosing
  Prog.andFinally (do Prog.modify Conn.lockClosing; t) Conn.unlockClosing

def closePortal (name : String) : Proc Unit := do
  let client ← Prog.get
  if client.installed then
    withClosing do
      let client ← Prog.get
      match (client.resources.portals.lookup name).bind (·.bound) with
      | some bound => callPython (.closePortal bound.inst name)
      | none => pure ()
      Prog.modify (Conn.removePortal name)
  else pure ()

/-- The loop of `close_all_portals` and `close_statement`. -/
def closeEach : List String → Proc Unit
  | [] => pure ()
  | portalName :: portalNames => do
    closePortal portalName
    Prog.modify (Conn.rmPortal portalName)
    closeEach portalNames

/-- The names of the portals that satisfy `p`, in the order of the hash map. -/
def portalNames (p : PortalEntry → Bool) : Proc (List String) := do
  let client ← Prog.get
  if client.installed then do
    let names ← await
      (.hashOrder ((client.resources.portals.entries.filter fun e => p e.2).map (·.1)))
    return names.1
  else return []

def closeAllPortals : Proc Unit := do
  let portalNames ← portalNames fun _ => true
  closeEach portalNames
  Prog.modify (Conn.rmPortal defaultName)

def closeStatement (name : String) : Proc Unit := do
  let client ← Prog.get
  if client.installed then do
    let portalNames ← portalNames fun entry => entry.statementName = name
    closeEach portalNames
    withClosing do
      let client ← Prog.get
      match client.store.statements.lookup name with
      | some (.value _) =>
        match h.instanceFor client with
        | some inst => callPython (.closeStatement inst name)
        | none => pure ()
      | _ => pure ()
      Prog.modify (Conn.removeStatement name)
      Prog.modify (Conn.rmStatement name)
  else pure ()

/-! ### Parse and Bind -/

def parseStatement (inst : Option PyInstance) (name sql : String) (typeOids : List UInt32) : Proc PyRef :=
  match inst with
  | none => .fail (.apiError "extended query callback is not configured")
  | some inst => callPythonRef (.parseStatement inst name sql typeOids)

/-- `expect("startup installed connection resources")`. -/
def expectResources : Proc Unit := do
  let client ← Prog.get
  if client.installed then pure () else .panic

/-- The second half of `on_parse`: the statement enters the stores under a free name. -/
def storeParsed (name : String) (message : Parse) : Proc Unit :=
  if isEmptyQuery message.query then do
    Prog.modify (Conn.putEmptyStatement name)
    send .parseComplete
  else do
    let types := message.typeOids.map fun oid => if oid = 0 then none else some (pgType oid)
    let client ← Prog.get
    let inst := h.instanceFor client
    let statement ← parseStatement inst name message.query message.typeOids
    let inst ← Prog.ofOutcome (.expect inst)
    expectResources
    Prog.modify (Conn.insertStatement name inst)
    Prog.modify (Conn.putStatement ⟨name, statement, types⟩)
    send .parseComplete

def onParse (message : Parse) : Proc Unit := do
  let name := message.name.getD defaultName
  let client ← Prog.get
  if name = defaultName then do
    h.closeStatement name
    h.storeParsed name message
  else if (client.store.statements.lookup name).isSome then
    .fail (userError "ERROR" "42P05" ("prepared statement " ++ debugStr h.escapes name ++ " already exists"))
  else h.storeParsed name message

/-- The checks of `on_bind` that look at neither statement. -/
def bindFormatError (message : Bind) : Option PgWireError :=
  let formatCount := message.parameterFormatCodes.length
  if formatCount > 1 ∧ formatCount ≠ message.parameters.length then
    some (userError "ERROR" "08P01" ("bind message supplies " ++ toString formatCount ++
      " parameter format codes for " ++ toString message.parameters.length ++ " parameters"))
  else
    match (message.parameterFormatCodes ++ message.resultColumnFormatCodes).find?
        fun code => code ≠ 0 ∧ code ≠ 1 with
    | some code => some (userError "ERROR" "08P01" ("bind message has invalid format code " ++
        toString code.toInt))
    | none => none

/-- The checks of `on_bind` for an empty statement. -/
def bindEmptyError (message : Bind) (statementName : String) : Option PgWireError :=
  if message.resultColumnFormatCodes.length > 1 then
    some (userError "ERROR" "08P01" ("bind message supplies " ++
      toString message.resultColumnFormatCodes.length ++ " result format codes for 0 columns"))
  else if message.parameters ≠ [] then
    some (userError "ERROR" "08P01" ("bind message supplies " ++ toString message.parameters.length ++
      " parameters, but prepared statement " ++ debugStr h.escapes statementName ++ " requires 0"))
  else none

/-- The portal a Bind asks for. -/
def portalOf (message : Bind) (statement : StoredStatement) : Portal where
  name := message.portalName.getD defaultName
  statement := statement
  parameterFormat := .fromCodes message.parameterFormatCodes
  parameters := message.parameters
  resultColumnFormat := .fromCodes message.resultColumnFormatCodes

/-- `Portal::try_new`. -/
def portalTryNew (message : Bind) (statement : StoredStatement) : Proc Portal := do
  Prog.ofExcept (← await (.tryNewPortal message))
  return portalOf message statement

def bindPortal (inst : PyInstance) (portal : Portal) : Proc PyRef :=
  callPythonRef (.bindPortal inst portal.name portal.statement.statement portal.parameters
    (formatCodes portal.parameterFormat portal.parameters.length) (resultFormatCodes portal.resultColumnFormat))

def onBind (message : Bind) : Proc Unit := do
  let statementName := message.statementName.getD defaultName
  let portalName := message.portalName.getD defaultName
  let client ← Prog.get
  if portalName ≠ defaultName ∧ (client.store.portals.lookup portalName).isSome then
    .fail (userError "ERROR" "42P03" ("portal " ++ debugStr h.escapes portalName ++ " already exists"))
  else
    match bindFormatError message with
    | some e => .fail e
    | none =>
      match client.store.statements.lookup statementName with
      | some (.value statement) => do
        let portal ← portalTryNew message statement
        let inst ← Prog.ofOutcome
          (.okOr (.apiError "extended query callback is not configured") (h.instanceFor client))
        closePortal portalName
        Prog.modify (Conn.rmPortal portalName)
        let pyPortal ← bindPortal inst portal
        expectResources
        Prog.modify (Conn.insertPortal portalName ⟨statementName, some ⟨inst, pyPortal⟩⟩)
        Prog.modify (Conn.putPortal portal)
        send .bindComplete
      | some .empty =>
        match h.bindEmptyError message statementName with
        | some e => .fail e
        | none => do
          closePortal portalName
          Prog.modify (Conn.rmPortal portalName)
          expectResources
          Prog.modify (Conn.insertPortal portalName ⟨statementName, none⟩)
          Prog.modify (Conn.putEmptyPortal portalName)
          send .bindComplete
      | none => .fail (.statementNotFound statementName)

/-! ### Sync and Close -/

def onSync : Proc Unit := do
  let client ← Prog.get
  if client.transactionStatus = .idle then closeAllPortals else pure ()
  let client ← Prog.get
  send (.readyForQuery client.transactionStatus)
  await .flush

def onClose (message : Target) : Proc Unit := do
  let name := message.name.getD defaultName
  if message.targetType = targetTypeByteStatement then
    h.closeStatement name
    send .closeComplete
  else if message.targetType = targetTypeBytePortal then
    closePortal name
    Prog.modify (Conn.rmPortal name)
    send .closeComplete
  else .fail (.invalidTargetType message.targetType)

/-! ### Describe and Execute -/

def doDescribeStatement (target : StoredStatement) : Proc (List PgType × List PgFieldInfo) := do
  let client ← Prog.get
  match h.instanceFor client with
  | none => return ([], [])
  | some inst => do
    let result ← callPython (.describeStatement inst target.statement)
    return (result.parameterTypes.map pgType, result.fields.map PyFieldInfo.into)

def doDescribePortal (target : Portal) : Proc (List PgFieldInfo) := do
  let client ← Prog.get
  match h.instanceFor client with
  | none => return []
  | some inst => do
    let portal ← Prog.ofOutcome (portalFor client target.name)
    let fields ← callPython (.describePortal inst portal)
    return fields.map PyFieldInfo.into

def doQuery (portal : Portal) (maxRows : ℕ) : Proc Response := do
  let client ← Prog.get
  match h.instanceFor client with
  | some inst => do
    let pyPortal ← Prog.ofOutcome (portalFor client portal.name)
    let response ← callPython (.doQuery inst pyPortal maxRows)
    let response := response.intoPg
    if response.isTransactionEnd then closeAllPortals else pure ()
    return response
  | none => .fail (.apiError "extended query callback is not configured")

/-- pgwire's dispatch of Describe over its portal store. -/
def onDescribe (message : Target) : Proc Unit := do
  let name := message.name.getD defaultName
  let client ← Prog.get
  if message.targetType = targetTypeByteStatement then
    match client.store.statements.lookup name with
    | some (.value statement) => do
      let (types, fields) ← h.doDescribeStatement statement
      send (.parameterDescription types)
      send (.rowDescription fields)
    | some .empty => do
      send (.parameterDescription [])
      send (.rowDescription [])
    | none => .fail (.statementNotFound name)
  else if message.targetType = targetTypeBytePortal then
    match client.store.portals.lookup name with
    | some (.value portal) => do
      let fields ← h.doDescribePortal portal
      send (.rowDescription fields)
    | some .empty => send (.rowDescription [])
    | none => .fail (.portalNotFound name)
  else .fail (.invalidTargetType message.targetType)

/-- pgwire writes responses; what they do to the transaction status is its own. -/
def sendResponses (responses : List Response) : Proc Unit := do
  let settled ← await (.sendResponses responses)
  Prog.modify fun client => { client with transactionStatus := settled.transactionStatus }
  Prog.ofExcept settled.result

/-- pgwire's dispatch of Execute over its portal store. -/
def onExecute (message : Execute) : Proc Unit := do
  let name := message.name.getD defaultName
  let client ← Prog.get
  match client.store.portals.lookup name with
  | some (.value portal) => do
    if ← await (.resumesPortal name) then
      sendResponses []
    else do
      let response ← h.doQuery portal message.maxRows
      sendResponses [response]
  | some .empty => sendResponses [.emptyQuery]
  | none => .fail (.portalNotFound name)

end PyExtendedHandler

/-! ### Cleanup -/

def cleanupPortals (portals : StrMap PortalEntry) : List String → Proc Unit
  | [] => pure ()
  | name :: names => do
    match (portals.lookup name).bind (·.bound) with
    | some bound => do
      let _ ← (callPython (.closePortal bound.inst name)).attempt
    | none => pure ()
    cleanupPortals portals names

def cleanupStatements (statements : StrMap PyInstance) : List String → Proc Unit
  | [] => pure ()
  | name :: names => do
    match statements.lookup name with
    | some inst => do
      let _ ← (callPython (.closeStatement inst name)).attempt
    | none => pure ()
    cleanupStatements statements names

/-- `cleanup_entries`: closes what was taken, whatever the callbacks answer. -/
def cleanupEntries (portals : StrMap PortalEntry) (statements : StrMap PyInstance)
    (session : Option PyInstance) : Proc Unit := do
  let names ← await (.hashOrder portals.keys)
  cleanupPortals portals names.1
  let names ← await (.hashOrder statements.keys)
  cleanupStatements statements names.1
  match session with
  | some inst => do
    if ← await (.hasClose inst) then do
      let _ ← (callPython (.closeSession inst)).attempt
    else pure ()
  | none => pure ()

/-- The resources with everything taken out of them. -/
def Conn.takeResources (c : Conn) : Conn :=
  { c with resources := { c.resources with portals := ∅, statements := ∅, session := none } }

namespace PythonPortals

def cleanup : Proc Unit := do
  let client ← Prog.get
  Prog.modify Conn.takeResources
  cleanupEntries client.resources.portals client.resources.statements client.resources.session

/-- `Drop`: nothing to do once everything is taken. -/
def drop : Proc Unit := do
  let client ← Prog.get
  Prog.modify Conn.takeResources
  if client.resources.portals.keys = [] ∧ client.resources.statements.keys = [] ∧
      client.resources.session = none then pure ()
  else cleanupEntries client.resources.portals client.resources.statements client.resources.session

end PythonPortals

end Pywire
