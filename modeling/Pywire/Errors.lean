import Mathlib.Data.List.Basic
import Mathlib.Data.Int.Notation

/-!
# Errors: pgwire's error type and the translation of Python exceptions

`PgWireError` has the variants that `src/errors.rs` names.  A Python exception is its class (with the
ancestors of the class, nearest first) and the text of `str(exc)`; `pyErrToPywire` is the translation every
callback error goes through.
-/

namespace Pywire

/-- Raw bytes of the wire. -/
abbrev Bytes := List UInt8

/-- The fields of an ErrorResponse; `ErrorInfo` of pgwire and of `pywire.errors` carry the same ones. -/
structure ErrorInfo where
  severity : String
  code : String
  message : String
  detail : Option String := none
  hint : Option String := none
  position : Option String := none
  internalPosition : Option String := none
  internalQuery : Option String := none
  whereContext : Option String := none
  fileName : Option String := none
  line : Option ℕ := none
  routine : Option String := none
  severityNonlocalized : Option String := none
  schema : Option String := none
  table : Option String := none
  column : Option String := none
  datatype : Option String := none
  constraint : Option String := none
  deriving DecidableEq

/-- `pgwire::error::PgWireError`; a boxed error is its text. -/
inductive PgWireError where
  | unsupportedProtocolVersion (major minor : UInt16)
  | invalidCancelRequest
  | invalidSecretKey
  | invalidMessageType (tag : UInt8)
  | messageTooLarge (size limit : ℕ)
  | invalidElementCount (count size limit : ℕ)
  | invalidTargetType (tag : UInt8)
  | invalidTransactionStatus (tag : UInt8)
  | invalidSSLRequestMessage
  | invalidGssEncRequestMessage
  | invalidStartupMessage
  | invalidAuthenticationMessageCode (code : ℤ)
  | failedToCoercePasswordMessage
  | invalidSASLState
  | unsupportedSASLAuthMethod (method : String)
  | ioError (text : String)
  | portalNotFound (name : String)
  | portalNotStarted
  | statementNotFound (name : String)
  | parameterIndexOutOfBound (index : ℕ)
  | invalidRustTypeForParameter (type : String)
  | failedToParseParameter (text : String)
  | invalidScramMessage (text : String)
  | invalidPassword (user : String)
  | unsupportedCertificateSignatureAlgorithm
  | userNameRequired
  | notReadyForQuery
  | queryCanceled
  | invalidOptionValue (value : String)
  | invalidOauthMessage (text : String)
  | oAuthAuthenticationFailed (text : String)
  | oAuthValidationError (text : String)
  | oauthAuthzIdError (text : String)
  | apiError (text : String)
  | userError (info : ErrorInfo)
  deriving DecidableEq

/-- An `ERROR` or `FATAL` report with a SQLSTATE and a message, as pywire builds them. -/
def userError (severity code message : String) : PgWireError :=
  .userError { severity := severity, code := code, message := message }

/-! ### Rust string helpers -/

/-- `str::strip_prefix`. -/
def stripPrefix (pre s : String) : Option String := (s.toList.dropPrefix? pre.toList).map String.ofList

/-- One character of `{:?}` for a string.  `escapes` are the characters that are not printable or extend a grapheme, by
the tables of the standard library. -/
def debugChar (escapes : Char → Bool) (c : Char) : List Char :=
  if c = '"' then ['\\', '"']
  else if c = '\\' then ['\\', '\\']
  else if c = '\n' then ['\\', 'n']
  else if c = '\r' then ['\\', 'r']
  else if c = '\t' then ['\\', 't']
  else if c.toNat = 0 then ['\\', '0']
  else if c.toNat < 32 ∨ (127 ≤ c.toNat ∧ c.toNat < 160) ∨ escapes c = true then
    ['\\', 'u', '\x7b'] ++ Nat.toDigits 16 c.toNat ++ ['\x7d']
  else [c]

/-- `{:?}` of a string. -/
def debugStr (escapes : Char → Bool) (s : String) : String :=
  String.ofList (['"'] ++ s.toList.flatMap (debugChar escapes) ++ ['"'])

/-! ### Python exceptions -/

/-- A Python class: the module it is defined in and its qualified name. -/
structure PyClass where
  module : String
  qualname : String
  deriving DecidableEq

/-- A raised Python exception. -/
structure PyErr where
  type : PyClass
  /-- The other classes of the method resolution order, nearest first. -/
  bases : List PyClass
  /-- `str(exc)`. -/
  str : String
  deriving DecidableEq

/-- The class of the exception and the classes it derives from, nearest first. -/
def PyErr.mro (err : PyErr) : List PyClass := err.type :: err.bases

def PyErr.isInstance (err : PyErr) (c : PyClass) : Bool := c ∈ err.mro

def PyClass.stopAsyncIteration : PyClass := ⟨"builtins", "StopAsyncIteration"⟩

/-- What a plain exception class derives from. -/
def PyClass.exceptionBases : List PyClass :=
  [⟨"builtins", "Exception"⟩, ⟨"builtins", "BaseException"⟩, ⟨"builtins", "object"⟩]

/-- `PyErr`'s `Display`. -/
def PyErr.display (err : PyErr) : String := err.type.qualname ++ ": " ++ err.str

/-- `py_err_to_pywire`. -/
def pyErrToPywire (err : PyErr) : PgWireError :=
  let name := err.type.qualname
  let msg := err.display
  let payload := (stripPrefix (name ++ ": ") msg).getD msg
  match name with
  | "InvalidCancelRequest" => .invalidCancelRequest
  | "InvalidSecretKey" => .invalidSecretKey
  | "InvalidSSLRequestMessage" => .invalidSSLRequestMessage
  | "InvalidGssEncRequestMessage" => .invalidGssEncRequestMessage
  | "InvalidStartupMessage" => .invalidStartupMessage
  | "FailedToCoercePasswordMessage" => .failedToCoercePasswordMessage
  | "InvalidSASLState" => .invalidSASLState
  | "UnsupportedCertificateSignatureAlgorithm" => .unsupportedCertificateSignatureAlgorithm
  | "UserNameRequired" => .userNameRequired
  | "NotReadyForQuery" => .notReadyForQuery
  | "QueryCanceled" => .queryCanceled
  | "PortalNotStarted" => .portalNotStarted
  | "UnsupportedSASLAuthMethod" => .unsupportedSASLAuthMethod payload
  | "PortalNotFound" => .portalNotFound payload
  | "StatementNotFound" => .statementNotFound payload
  | "InvalidRustTypeForParameter" => .invalidRustTypeForParameter payload
  | "InvalidScramMessage" => .invalidScramMessage payload
  | "InvalidPassword" => .invalidPassword payload
  | "InvalidOptionValue" => .invalidOptionValue payload
  | "InvalidOauthMessage" => .invalidOauthMessage payload
  | "OAuthAuthenticationFailed" => .oAuthAuthenticationFailed payload
  | "OAuthValidationError" => .oAuthValidationError payload
  | "OauthAuthzIdError" => .oauthAuthzIdError payload
  | _ => .apiError msg

end Pywire
