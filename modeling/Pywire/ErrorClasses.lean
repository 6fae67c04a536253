import Mathlib.Logic.Function.Iterate
import Pywire.Errors

/-!
# ErrorClasses: the two translations of errors

`pyErrToPywire` goes by the qualified name of an exception's class, and `pywireToPyErr` puts the whole message of an
error into the exception that it raises.

* `classified_iff`: **Main result** — an exception gets the variant of its nearest `pywire.errors` class exactly when
  the name of its own class names that variant; `subclass_misclassified` is an exception that does not.
* `crossing_string`: a single-string error comes back with its message in place of its payload.
* `crossings_keep_iff`: **Main result** — errors keep their payload exactly if they have none or their message is the
  payload; `password_not_kept` is an error that does not.
-/

namespace Pywire

/-! ### The variants that exceptions are mapped to -/

/-- The unit variants and the single-string variants that `py_err_to_pywire` produces. -/
inductive MappedVariant where
  | invalidCancelRequest
  | invalidSecretKey
  | invalidSSLRequestMessage
  | invalidGssEncRequestMessage
  | invalidStartupMessage
  | failedToCoercePasswordMessage
  | invalidSASLState
  | unsupportedCertificateSignatureAlgorithm
  | userNameRequired
  | notReadyForQuery
  | queryCanceled
  | portalNotStarted
  | unsupportedSASLAuthMethod
  | portalNotFound
  | statementNotFound
  | invalidRustTypeForParameter
  | invalidScramMessage
  | invalidPassword
  | invalidOptionValue
  | invalidOauthMessage
  | oAuthAuthenticationFailed
  | oAuthValidationError
  | oauthAuthzIdError
  deriving DecidableEq

namespace MappedVariant

/-- The variant with a payload, of which the unit variants have none. -/
def toError : MappedVariant → String → PgWireError
  | invalidCancelRequest, _ => .invalidCancelRequest
  | invalidSecretKey, _ => .invalidSecretKey
  | invalidSSLRequestMessage, _ => .invalidSSLRequestMessage
  | invalidGssEncRequestMessage, _ => .invalidGssEncRequestMessage
  | invalidStartupMessage, _ => .invalidStartupMessage
  | failedToCoercePasswordMessage, _ => .failedToCoercePasswordMessage
  | invalidSASLState, _ => .invalidSASLState
  | unsupportedCertificateSignatureAlgorithm, _ => .unsupportedCertificateSignatureAlgorithm
  | userNameRequired, _ => .userNameRequired
  | notReadyForQuery, _ => .notReadyForQuery
  | queryCanceled, _ => .queryCanceled
  | portalNotStarted, _ => .portalNotStarted
  | unsupportedSASLAuthMethod, payload => .unsupportedSASLAuthMethod payload
  | portalNotFound, payload => .portalNotFound payload
  | statementNotFound, payload => .statementNotFound payload
  | invalidRustTypeForParameter, payload => .invalidRustTypeForParameter payload
  | invalidScramMessage, payload => .invalidScramMessage payload
  | invalidPassword, payload => .invalidPassword payload
  | invalidOptionValue, payload => .invalidOptionValue payload
  | invalidOauthMessage, payload => .invalidOauthMessage payload
  | oAuthAuthenticationFailed, payload => .oAuthAuthenticationFailed payload
  | oAuthValidationError, payload => .oAuthValidationError payload
  | oauthAuthzIdError, payload => .oauthAuthzIdError payload

def isUnit : MappedVariant → Bool
  | invalidCancelRequest | invalidSecretKey | invalidSSLRequestMessage | invalidGssEncRequestMessage
  | invalidStartupMessage | failedToCoercePasswordMessage | invalidSASLState
  | unsupportedCertificateSignatureAlgorithm | userNameRequired | notReadyForQuery | queryCanceled
  | portalNotStarted => true
  | _ => false

def all : List MappedVariant :=
  [invalidCancelRequest, invalidSecretKey, invalidSSLRequestMessage, invalidGssEncRequestMessage,
    invalidStartupMessage, failedToCoercePasswordMessage, invalidSASLState, unsupportedCertificateSignatureAlgorithm,
    userNameRequired, notReadyForQuery, queryCanceled, portalNotStarted, unsupportedSASLAuthMethod, portalNotFound,
    statementNotFound, invalidRustTypeForParameter, invalidScramMessage, invalidPassword, invalidOptionValue,
    invalidOauthMessage, oAuthAuthenticationFailed, oAuthValidationError, oauthAuthzIdError]

end MappedVariant

/-- `_test_py_err_to_pywire_tag` names a variant by the class that is mapped to it. -/
def PgWireError.tag : PgWireError → String
  | .invalidCancelRequest => "InvalidCancelRequest"
  | .invalidSecretKey => "InvalidSecretKey"
  | .invalidSSLRequestMessage => "InvalidSSLRequestMessage"
  | .invalidGssEncRequestMessage => "InvalidGssEncRequestMessage"
  | .invalidStartupMessage => "InvalidStartupMessage"
  | .failedToCoercePasswordMessage => "FailedToCoercePasswordMessage"
  | .invalidSASLState => "InvalidSASLState"
  | .unsupportedCertificateSignatureAlgorithm => "UnsupportedCertificateSignatureAlgorithm"
  | .userNameRequired => "UserNameRequired"
  | .notReadyForQuery => "NotReadyForQuery"
  | .queryCanceled => "QueryCanceled"
  | .portalNotStarted => "PortalNotStarted"
  | .unsupportedSASLAuthMethod _ => "UnsupportedSASLAuthMethod"
  | .portalNotFound _ => "PortalNotFound"
  | .statementNotFound _ => "StatementNotFound"
  | .invalidRustTypeForParameter _ => "InvalidRustTypeForParameter"
  | .invalidScramMessage _ => "InvalidScramMessage"
  | .invalidPassword _ => "InvalidPassword"
  | .invalidOptionValue _ => "InvalidOptionValue"
  | .invalidOauthMessage _ => "InvalidOauthMessage"
  | .oAuthAuthenticationFailed _ => "OAuthAuthenticationFailed"
  | .oAuthValidationError _ => "OAuthValidationError"
  | .oauthAuthzIdError _ => "OauthAuthzIdError"
  | _ => "ApiError"

namespace MappedVariant

/-- The class of `pywire.errors` that is mapped to the variant. -/
def className (v : MappedVariant) : String := (v.toError "").tag

def ofClassName (name : String) : Option MappedVariant := all.find? fun v => v.className = name

theorem mem_all (v : MappedVariant) : v ∈ all := by
  cases v <;> decide

theorem className_injective : Function.Injective className := by
  have hall : ∀ v ∈ all, ∀ w ∈ all, v.className = w.className → v = w := by decide +kernel
  exact fun v w h => hall v (mem_all v) w (mem_all w) h

theorem className_ne_apiError (v : MappedVariant) : v.className ≠ "ApiError" := by
  cases v <;> decide

@[simp] theorem tag_toError (v : MappedVariant) (payload : String) : (v.toError payload).tag = v.className := by
  cases v <;> rfl

theorem className_of_ofClassName {name : String} {v : MappedVariant} (h : ofClassName name = some v) :
    v.className = name := by
  have hfound := List.find?_some (p := fun v : MappedVariant => decide (v.className = name)) h
  exact of_decide_eq_true hfound

theorem ofClassName_eq_some {name : String} {v : MappedVariant} : ofClassName name = some v ↔ v.className = name := by
  refine ⟨className_of_ofClassName, ?_⟩
  rintro rfl
  rcases hfind : ofClassName v.className with _ | w
  · exact absurd (List.find?_eq_none.mp hfind v (mem_all v)) (by simp)
  · rw [className_injective (className_of_ofClassName hfind)]

/-- A variant with its payload is made by one variant only. -/
theorem toError_injective {v w : MappedVariant} {p q : String} (h : v.toError p = w.toError q) : v = w := by
  have htag := congrArg PgWireError.tag h
  rw [tag_toError, tag_toError] at htag
  exact className_injective htag

theorem toError_ne_apiError (v : MappedVariant) (p text : String) : v.toError p ≠ .apiError text := by
  intro h
  have htag := congrArg PgWireError.tag h
  rw [tag_toError] at htag
  exact v.className_ne_apiError htag

theorem toError_of_isUnit {v : MappedVariant} (h : v.isUnit) (p q : String) : v.toError p = v.toError q := by
  cases v <;> first | rfl | cases h

theorem toError_inj_of_not_isUnit {v : MappedVariant} (h : ¬ v.isUnit) {p q : String} :
    v.toError p = v.toError q ↔ p = q := by
  cases v <;> simp [isUnit, toError] at h ⊢

end MappedVariant

open MappedVariant

/-! ### Exceptions become errors -/

theorem stripPrefix_append (pre s : String) : stripPrefix pre (pre ++ s) = some s := by
  rw [stripPrefix, String.toList_append]
  have hdrop : (pre.toList ++ s.toList).dropPrefix? pre.toList = some s.toList :=
    List.dropPrefix?_append_of_beq _ (BEq.refl _)
  rw [hdrop]
  simp

/-- The prefix that `Display` adds is stripped again. -/
theorem PyErr.payload_eq (err : PyErr) :
    (stripPrefix (err.type.qualname ++ ": ") err.display).getD err.display = err.str := by
  rw [PyErr.display, stripPrefix_append, Option.getD_some]

/-- The translation is a lookup of the qualified name. -/
theorem pyErrToPywire_eq (err : PyErr) :
    pyErrToPywire err =
      match ofClassName err.type.qualname with
      | some v => v.toError err.str
      | none => .apiError err.display := by
  have hpayload := err.payload_eq
  unfold pyErrToPywire
  dsimp only
  rw [hpayload]
  generalize err.type.qualname = name
  split <;> try rfl
  -- the last arm is left, where the name is none of the others
  have hnone : ofClassName name = none := by
    refine List.find?_eq_none.mpr fun v _ hv => ?_
    have hname : v.className = name := of_decide_eq_true hv
    subst hname
    cases v <;> exact absurd rfl ‹_›
  rw [hnone]

/-! ### Classification -/

/-- The variant that a class of `pywire.errors` is mapped to. -/
def PyClass.variant (c : PyClass) : Option MappedVariant :=
  if c.module = "pywire.errors" then ofClassName c.qualname else none

/-- The variant of the nearest class of `pywire.errors` that is mapped to one. -/
def PyErr.nearest (err : PyErr) : Option MappedVariant := err.mro.findSome? PyClass.variant

/-- The exception becomes the variant of its nearest class with its text, and `ApiError` without such a class. -/
def ClassifiedByClass (err : PyErr) : Prop :=
  (∀ v, err.nearest = some v → pyErrToPywire err = v.toError err.str) ∧
    (err.nearest = none → ∃ text, pyErrToPywire err = .apiError text)

/-- **Classes and names.**  An exception is classified by its class exactly when the name of its own class, wherever
it is defined, names the variant of its nearest class. -/
theorem classified_iff (err : PyErr) : ClassifiedByClass err ↔ ofClassName err.type.qualname = err.nearest := by
  have heq := pyErrToPywire_eq err
  rcases hname : ofClassName err.type.qualname with _ | w
  · rw [hname] at heq
    rcases hnearest : err.nearest with _ | v
    · exact iff_of_true ⟨fun v hv => by simp [hnearest] at hv, fun _ => ⟨_, heq⟩⟩ rfl
    · refine iff_of_false (fun h => ?_) (by simp)
      exact v.toError_ne_apiError _ _ ((h.1 v hnearest).symm.trans heq)
  · rw [hname] at heq
    rcases hnearest : err.nearest with _ | v
    · refine iff_of_false (fun h => ?_) (by simp)
      obtain ⟨text, htext⟩ := h.2 hnearest
      exact w.toError_ne_apiError _ _ (heq.symm.trans htext)
    · constructor
      · intro h
        rw [toError_injective (heq.symm.trans (h.1 v hnearest))]
      · rintro ⟨⟩
        refine ⟨fun u hu => ?_, fun hnone => by simp [hnearest] at hnone⟩
        obtain rfl := Option.some.inj (hnearest.symm.trans hu)
        exact heq

/-! ### Errors become exceptions -/

def PyClass.ofErrors (name : String) : PyClass := ⟨"pywire.errors", name⟩

/-- `new_err` of a class that derives from `Error`, `ProtocolError` or `AuthError`. -/
def newError (name msg : String) : PyErr :=
  ⟨.ofErrors name, .ofErrors "Error" :: PyClass.exceptionBases, msg⟩

def newProtocolError (name msg : String) : PyErr :=
  ⟨.ofErrors name, .ofErrors "ProtocolError" :: .ofErrors "Error" :: PyClass.exceptionBases, msg⟩

def newAuthError (name msg : String) : PyErr :=
  ⟨.ofErrors name, .ofErrors "AuthError" :: .ofErrors "Error" :: PyClass.exceptionBases, msg⟩

/-- `pywire_to_py_err`; `display` is pgwire's `to_string`. -/
def pywireToPyErr (display : PgWireError → String) (err : PgWireError) : PyErr :=
  let msg := display err
  match err with
  | .unsupportedProtocolVersion _ _ => newProtocolError "UnsupportedProtocolVersion" msg
  | .invalidCancelRequest => newProtocolError "InvalidCancelRequest" msg
  | .invalidSecretKey => newProtocolError "InvalidSecretKey" msg
  | .invalidMessageType _ => newProtocolError "InvalidMessageType" msg
  | .messageTooLarge _ _ => newProtocolError "MessageTooLarge" msg
  | .invalidElementCount _ _ _ => newProtocolError "InvalidElementCount" msg
  | .invalidTargetType _ => newProtocolError "InvalidTargetType" msg
  | .invalidTransactionStatus _ => newProtocolError "InvalidTransactionStatus" msg
  | .invalidSSLRequestMessage => newProtocolError "InvalidSSLRequestMessage" msg
  | .invalidGssEncRequestMessage => newProtocolError "InvalidGssEncRequestMessage" msg
  | .invalidStartupMessage => newProtocolError "InvalidStartupMessage" msg
  | .invalidAuthenticationMessageCode _ => newProtocolError "InvalidAuthenticationMessageCode" msg
  | .failedToCoercePasswordMessage => newAuthError "FailedToCoercePasswordMessage" msg
  | .invalidSASLState => newAuthError "InvalidSASLState" msg
  | .unsupportedSASLAuthMethod _ => newAuthError "UnsupportedSASLAuthMethod" msg
  | .ioError text => ⟨⟨"builtins", "OSError"⟩, PyClass.exceptionBases, text⟩
  | .portalNotFound _ => newError "PortalNotFound" msg
  | .portalNotStarted => newError "PortalNotStarted" msg
  | .statementNotFound _ => newError "StatementNotFound" msg
  | .parameterIndexOutOfBound _ => newError "ParameterIndexOutOfBound" msg
  | .invalidRustTypeForParameter _ => newError "InvalidRustTypeForParameter" msg
  | .failedToParseParameter _ => newError "FailedToParseParameter" msg
  | .invalidScramMessage _ => newAuthError "InvalidScramMessage" msg
  | .invalidPassword _ => newAuthError "InvalidPassword" msg
  | .unsupportedCertificateSignatureAlgorithm => newAuthError "UnsupportedCertificateSignatureAlgorithm" msg
  | .userNameRequired => newAuthError "UserNameRequired" msg
  | .notReadyForQuery => newProtocolError "NotReadyForQuery" msg
  | .queryCanceled => newError "QueryCanceled" msg
  | .invalidOptionValue _ => newProtocolError "InvalidOptionValue" msg
  | .invalidOauthMessage _ => newAuthError "InvalidOauthMessage" msg
  | .oAuthAuthenticationFailed _ => newAuthError "OAuthAuthenticationFailed" msg
  | .oAuthValidationError _ => newAuthError "OAuthValidationError" msg
  | .oauthAuthzIdError _ => newAuthError "OauthAuthzIdError" msg
  | .apiError _ => newError "ApiError" msg
  | .userError _ => newError "UserError" msg

/-- A subclass of `InvalidPassword` that an application defines. -/
def wrongPin : PyErr :=
  { newAuthError "InvalidPassword" "alice" with
    type := ⟨"app", "WrongPin"⟩
    bases := .ofErrors "InvalidPassword" :: (newAuthError "InvalidPassword" "alice").bases }

/-- A subclass of `InvalidPassword` with a name of its own is no `InvalidPassword`. -/
theorem subclass_misclassified : ¬ ∀ err, ClassifiedByClass err := by
  intro h
  have hvariant := (h wrongPin).1 .invalidPassword (by decide)
  exact absurd hvariant (by decide)

/-! ### Errors cross the boundary -/

/-- How a message shows its payload: between two texts, as it is or with `{:?}`. -/
structure Message where
  before : String
  quoted : Bool
  after : String

def Message.render (m : Message) (escapes : Char → Bool) (payload : String) : String :=
  m.before ++ (if m.quoted then debugStr escapes payload else payload) ++ m.after

/-- The message is its payload. -/
def Message.Bare (m : Message) : Prop := m = ⟨"", false, ""⟩

/-- pgwire's `Display`: the message of each single-string variant, with the payload inserted. -/
structure PgWireDisplay where
  /-- What `{:?}` escapes. -/
  escapes : Char → Bool
  display : PgWireError → String
  message : MappedVariant → Message
  display_eq : ∀ v, ¬ v.isUnit → ∀ payload, display (v.toError payload) = (message v).render escapes payload
  message_invalidPassword : message .invalidPassword = ⟨"Password authentication failed for user \"", false, "\""⟩

/-- To Python and back. -/
def PgWireDisplay.crossing (d : PgWireDisplay) (err : PgWireError) : PgWireError :=
  pyErrToPywire (pywireToPyErr d.display err)

/-- The error comes back as it was, from one crossing and from any number of them. -/
def RoundTrips (d : PgWireDisplay) (v : MappedVariant) (payload : String) : Prop :=
  d.crossing (v.toError payload) = v.toError payload ∧ ∀ n, d.crossing^[n] (v.toError payload) = v.toError payload

theorem pywireToPyErr_toError (display : PgWireError → String) (v : MappedVariant) (payload : String) :
    (pywireToPyErr display (v.toError payload)).type.qualname = v.className ∧
      (pywireToPyErr display (v.toError payload)).str = display (v.toError payload) := by
  cases v <;> exact ⟨rfl, rfl⟩

/-- The variant survives, and the whole message becomes the payload. -/
theorem crossing_toError (d : PgWireDisplay) (v : MappedVariant) (payload : String) :
    d.crossing (v.toError payload) = v.toError (d.display (v.toError payload)) := by
  obtain ⟨hname, hstr⟩ := pywireToPyErr_toError d.display v payload
  rw [PgWireDisplay.crossing, pyErrToPywire_eq, hname, ofClassName_eq_some.mpr rfl, hstr]

theorem crossing_string (d : PgWireDisplay) {v : MappedVariant} (hv : ¬ v.isUnit) (payload : String) :
    d.crossing (v.toError payload) = v.toError ((d.message v).render d.escapes payload) := by
  rw [crossing_toError, d.display_eq v hv]

theorem length_debugChar_pos (escapes : Char → Bool) (c : Char) : 1 ≤ (debugChar escapes c).length := by
  unfold debugChar
  split_ifs <;> simp

/-- Quoting lengthens a text. -/
theorem length_debugStr (escapes : Char → Bool) (s : String) : s.length + 2 ≤ (debugStr escapes s).length := by
  have hflat : ∀ cs : List Char, cs.length ≤ (cs.flatMap (debugChar escapes)).length := by
    intro cs
    induction cs with
    | nil => exact Nat.le_refl 0
    | cons c cs ih =>
      rw [List.flatMap_cons, List.length_append, List.length_cons]
      have := length_debugChar_pos escapes c
      omega
  have hs := hflat s.toList
  rw [String.length_toList] at hs
  rw [debugStr, String.length_ofList]
  simp only [List.length_append, List.length_singleton]
  omega

/-- Only a bare message is its payload, for any payload. -/
theorem Message.render_eq_self_iff (m : Message) (escapes : Char → Bool) (payload : String) :
    m.render escapes payload = payload ↔ m.Bare := by
  obtain ⟨before, quoted, after⟩ := m
  constructor
  · intro h
    have hlen := congrArg String.length h
    rw [Message.render, String.length_append, String.length_append] at hlen
    have hquoted : quoted = false := by
      by_contra hq
      have hlong := length_debugStr escapes payload
      simp only [Bool.not_eq_false] at hq
      simp only [hq, if_true] at hlen
      omega
    subst hquoted
    simp only [Bool.false_eq_true, if_false] at hlen
    have hbefore : before = "" := String.length_eq_zero_iff.mp (by omega)
    have hafter : after = "" := String.length_eq_zero_iff.mp (by omega)
    rw [Message.Bare, hbefore, hafter]
  · rintro ⟨⟩
    simp [Message.render]

/-- **Crossings.**  An error keeps its payload exactly if it has none or its message is its payload. -/
theorem crossings_keep_iff (d : PgWireDisplay) (v : MappedVariant) (payload : String) :
    RoundTrips d v payload ↔ v.isUnit ∨ (d.message v).Bare := by
  have honce : RoundTrips d v payload ↔ d.crossing (v.toError payload) = v.toError payload :=
    ⟨And.left, fun h => ⟨h, fun n => Function.iterate_fixed h n⟩⟩
  rw [honce]
  by_cases hv : v.isUnit
  · rw [crossing_toError]
    exact iff_of_true (toError_of_isUnit hv _ _) (.inl hv)
  · rw [crossing_string d hv, toError_inj_of_not_isUnit hv, Message.render_eq_self_iff]
    simp [hv]

/-- The text of a single-string variant. -/
def PgWireError.text : PgWireError → String
  | .unsupportedSASLAuthMethod text | .portalNotFound text | .statementNotFound text
  | .invalidRustTypeForParameter text | .invalidScramMessage text | .invalidPassword text | .invalidOptionValue text
  | .invalidOauthMessage text | .oAuthAuthenticationFailed text | .oAuthValidationError text
  | .oauthAuthzIdError text => text
  | _ => ""

/-- Messages in the manner of pgwire's: the OAuth errors show their payload bare. -/
def sampleMessage (name : String) : Message :=
  if name = "InvalidPassword" then ⟨"Password authentication failed for user \"", false, "\""⟩
  else if name ∈ ["InvalidOauthMessage", "OAuthAuthenticationFailed", "OAuthValidationError", "OauthAuthzIdError"] then
    ⟨"", false, ""⟩
  else ⟨name ++ ": ", false, ""⟩

def sampleDisplay : PgWireDisplay where
  escapes _ := false
  display err := (sampleMessage err.tag).render (fun _ => false) err.text
  message v := sampleMessage v.className
  display_eq v hv payload := by
    have htext : (v.toError payload).text = payload := by
      cases v <;> first | rfl | exact absurd rfl hv
    rw [tag_toError, htext]
  message_invalidPassword := rfl

/-- `alice` comes back as the whole message. -/
theorem password_not_kept : ¬ ∀ d v payload, RoundTrips d v payload := by
  intro h
  have hback := (h sampleDisplay .invalidPassword "alice").1
  rw [crossing_string _ (by decide), toError_inj_of_not_isUnit (by decide)] at hback
  exact absurd hback (by decide)

end Pywire
