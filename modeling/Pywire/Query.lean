import Pywire.Errors

/-!
# Query: the responses a Python handler returns

`PyResponse` is what `Response.empty`, `execution`, `query`, `stream` and `error` build;
`PyResponse.intoPg` turns it into pgwire's `Response`.  An object that the code only passes on, such as the
row iterable of a stream, is an opaque `PyObj`.
-/

namespace Pywire

/-- A Python object the code never looks into. -/
structure PyObj where
  id : ℕ
  deriving DecidableEq

/-! ### Columns -/

/-- `FieldInfo`: the constructor admits the formats 0 (text) and 1 (binary) only. -/
structure PyFieldInfo where
  name : String
  typeId : UInt32
  format : Int16
  format_ok : format = 0 ∨ format = 1
  deriving DecidableEq

def PyFieldInfo.new (name : String) (typeId : UInt32) (format : Int16) : Except String PyFieldInfo :=
  if h : format = 0 ∨ format = 1 then .ok ⟨name, typeId, format, h⟩
  else .error "format must be 0 (text) or 1 (binary)"

inductive FieldFormat where
  | text
  | binary
  deriving DecidableEq

/-- A `postgres_types::Type`, of which only the OID reaches the wire. -/
structure PgType where
  oid : UInt32
  deriving DecidableEq

/-- `Type::UNKNOWN`. -/
def PgType.unknown : PgType := ⟨705⟩

/-- `pywire`'s type lookup for a field: a built-in or a placeholder that carries the caller's OID. -/
def PgType.ofOid (oid : UInt32) : PgType := ⟨oid⟩

structure PgFieldInfo where
  name : String
  datatype : PgType
  format : FieldFormat
  deriving DecidableEq

/-- `From<PyFieldInfo> for PgFieldInfo`. -/
def PyFieldInfo.into (f : PyFieldInfo) : PgFieldInfo :=
  ⟨f.name, .ofOid f.typeId, if f.format = 1 then .binary else .text⟩

/-! ### Rows -/

/-- One cell of a row; `none` is SQL NULL. -/
abbrev Cell := Option Bytes

/-- `BufMut::put_i32`: the low 32 bits of `n`, big-endian. -/
def putI32 (n : Int32) : Bytes :=
  let u := n.toUInt32.toNat
  [UInt8.ofNat (u / 16777216), UInt8.ofNat (u / 65536), UInt8.ofNat (u / 256), UInt8.ofNat u]

structure DataRow where
  data : Bytes
  fieldCount : Int16
  deriving DecidableEq

/-- One cell on the wire; `bytes.len() as i32` keeps the low 32 bits of the length. -/
def encodeCell : Cell → Bytes
  | none => putI32 (-1)
  | some bytes => putI32 (Int32.ofNat bytes.length) ++ bytes

/-- `encode_data_row`; `cells.len() as i16` keeps the low 16 bits of the count. -/
def encodeDataRow (cells : List Cell) : DataRow :=
  ⟨cells.flatMap encodeCell, Int16.ofNat cells.length⟩

/-! ### Responses -/

inductive TransactionEffect where
  | start
  | stop
  deriving DecidableEq

/-- `Response`, as the Python factories build it. -/
inductive PyResponse where
  | empty
  | execution (command : String) (oid : Option UInt32) (rows : Option ℕ) (transaction : Option TransactionEffect)
  | query (fields : List PyFieldInfo) (rows : List (List Cell)) (commandTag : String)
  | stream (fields : List PyFieldInfo) (rows : PyObj) (commandTag : String)
  | error (info : ErrorInfo)
  deriving DecidableEq

/-- The `transaction` argument of `Response.execution`. -/
def TransactionEffect.parse (escapes : Char → Bool) : Option String → Except String (Option TransactionEffect)
  | none => .ok none
  | some "start" => .ok (some .start)
  | some "end" => .ok (some .stop)
  | some value => .error ("transaction must be 'start' or 'end', got " ++ debugStr escapes value)

/-- `Response.execution`. -/
def PyResponse.mkExecution (escapes : Char → Bool) (command : String) (oid : Option UInt32) (rows : Option ℕ)
    (transaction : Option String) : Except String PyResponse := do
  return .execution command oid rows (← TransactionEffect.parse escapes transaction)

structure Tag where
  command : String
  oid : Option UInt32 := none
  rows : Option ℕ := none
  deriving DecidableEq

/-- Where the rows of a response come from: encoded beforehand, or pulled from a Python iterable. -/
inductive RowStream where
  | iter (rows : List (Except PgWireError DataRow))
  | unfold (rows : PyObj)

structure QueryResponse where
  rowSchema : List PgFieldInfo
  dataRows : RowStream
  commandTag : String

/-- `pgwire::api::results::Response`. -/
inductive Response where
  | emptyQuery
  | query (response : QueryResponse)
  | execution (tag : Tag)
  | transactionStart (tag : Tag)
  | transactionEnd (tag : Tag)
  | error (info : ErrorInfo)

def Response.isTransactionEnd : Response → Bool
  | .transactionEnd _ => true
  | _ => false

/-- `PyResponse::into_pg`. -/
def PyResponse.intoPg : PyResponse → Response
  | .empty => .emptyQuery
  | .execution command oid rows transaction =>
    let tag : Tag := { command := command, oid := oid, rows := rows }
    match transaction with
    | some .start => .transactionStart tag
    | some .stop => .transactionEnd tag
    | none => .execution tag
  | .query fields rows commandTag =>
    .query ⟨fields.map PyFieldInfo.into, .iter (rows.map fun cells => .ok (encodeDataRow cells)), commandTag⟩
  | .stream fields rows commandTag => .query ⟨fields.map PyFieldInfo.into, .unfold rows, commandTag⟩
  | .error info => .error info

/-- The response was built with `transaction="end"`. -/
def PyResponse.EndsTransaction : PyResponse → Prop
  | .execution _ _ _ (some .stop) => True
  | _ => False

/-- Exactly the responses built with `transaction="end"` become `TransactionEnd`. -/
theorem PyResponse.isTransactionEnd_intoPg (r : PyResponse) :
    r.intoPg.isTransactionEnd = true ↔ r.EndsTransaction := by
  rcases r with _ | ⟨command, oid, rows, _ | ⟨_ | _⟩⟩ | _ | _ | _ <;>
    simp [intoPg, Response.isTransactionEnd, EndsTransaction]

end Pywire
