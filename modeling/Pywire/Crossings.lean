import Mathlib.Order.Monotone.Basic
import Pywire.ErrorClasses

/-!
# Crossings: what becomes of an error that crosses the boundary again and again

An error of pgwire becomes an exception and an exception becomes an error of pgwire.  From the first crossing on the
variant is settled: a variant that exceptions are mapped to stays, and every other error is an `ApiError`.

* `crossings_settle`: **Main result** — the variant is settled by the first crossing, and an error that one crossing
  changes is never the same again.
-/

namespace Pywire

open MappedVariant

/-! ### Errors that no class is mapped to -/

/-- The variant and the payload, if exceptions are mapped to the variant. -/
def PgWireError.mapped : PgWireError → Option (MappedVariant × String)
  | .invalidCancelRequest => some (.invalidCancelRequest, "")
  | .invalidSecretKey => some (.invalidSecretKey, "")
  | .invalidSSLRequestMessage => some (.invalidSSLRequestMessage, "")
  | .invalidGssEncRequestMessage => some (.invalidGssEncRequestMessage, "")
  | .invalidStartupMessage => some (.invalidStartupMessage, "")
  | .failedToCoercePasswordMessage => some (.failedToCoercePasswordMessage, "")
  | .invalidSASLState => some (.invalidSASLState, "")
  | .unsupportedCertificateSignatureAlgorithm => some (.unsupportedCertificateSignatureAlgorithm, "")
  | .userNameRequired => some (.userNameRequired, "")
  | .notReadyForQuery => some (.notReadyForQuery, "")
  | .queryCanceled => some (.queryCanceled, "")
  | .portalNotStarted => some (.portalNotStarted, "")
  | .unsupportedSASLAuthMethod method => some (.unsupportedSASLAuthMethod, method)
  | .portalNotFound name => some (.portalNotFound, name)
  | .statementNotFound name => some (.statementNotFound, name)
  | .invalidRustTypeForParameter type => some (.invalidRustTypeForParameter, type)
  | .invalidScramMessage text => some (.invalidScramMessage, text)
  | .invalidPassword user => some (.invalidPassword, user)
  | .invalidOptionValue value => some (.invalidOptionValue, value)
  | .invalidOauthMessage text => some (.invalidOauthMessage, text)
  | .oAuthAuthenticationFailed text => some (.oAuthAuthenticationFailed, text)
  | .oAuthValidationError text => some (.oAuthValidationError, text)
  | .oauthAuthzIdError text => some (.oauthAuthzIdError, text)
  | _ => none

theorem toError_of_mapped {err : PgWireError} {v : MappedVariant} {payload : String}
    (h : err.mapped = some (v, payload)) : err = v.toError payload := by
  cases err <;> first
    | cases h; rfl
    | cases h

theorem mapped_toError (v : MappedVariant) (payload : String) :
    ∃ p, (v.toError payload).mapped = some (v, p) ∧ v.toError p = v.toError payload := by
  cases v <;> exact ⟨_, rfl, rfl⟩

/-- The exception for any other error has a name that is not looked up. -/
theorem ofClassName_of_not_mapped (display : PgWireError → String) {err : PgWireError} (h : err.mapped = none) :
    ofClassName (pywireToPyErr display err).type.qualname = none := by
  have hnames : ∀ name ∈ ["UnsupportedProtocolVersion", "InvalidMessageType", "MessageTooLarge", "InvalidElementCount",
      "InvalidTargetType", "InvalidTransactionStatus", "InvalidAuthenticationMessageCode", "OSError",
      "ParameterIndexOutOfBound", "FailedToParseParameter", "ApiError", "UserError"], ofClassName name = none := by
    decide +kernel
  cases err <;> first
    | (cases h; done)
    | exact hnames _ (by simp [pywireToPyErr, newError, newProtocolError, PyClass.ofErrors])

theorem crossing_of_not_mapped (d : PgWireDisplay) {err : PgWireError} (h : err.mapped = none) :
    ∃ text, d.crossing err = .apiError text := by
  rw [PgWireDisplay.crossing, pyErrToPywire_eq, ofClassName_of_not_mapped d.display h]
  exact ⟨_, rfl⟩

/-! ### Payloads -/

/-- A message is no shorter than its payload, and longer unless it is bare. -/
theorem Message.length_lt_render {m : Message} (hm : ¬ m.Bare) (escapes : Char → Bool) (payload : String) :
    payload.length < (m.render escapes payload).length := by
  obtain ⟨before, quoted, after⟩ := m
  rw [Message.render, String.length_append, String.length_append]
  cases quoted with
  | true =>
    have hquoted := length_debugStr escapes payload
    simp only [if_true]
    omega
  | false =>
    simp only [Bool.false_eq_true, if_false]
    by_contra hle
    have hbefore : before = "" := String.length_eq_zero_iff.mp (by omega)
    have hafter : after = "" := String.length_eq_zero_iff.mp (by omega)
    exact hm (by rw [Message.Bare, hbefore, hafter])

theorem crossings_toError (d : PgWireDisplay) (v : MappedVariant) (payload : String) (n : ℕ) :
    d.crossing^[n] (v.toError payload) = v.toError ((fun p => d.display (v.toError p))^[n] payload) := by
  induction n generalizing payload with
  | zero => rfl
  | succ n ih => rw [Function.iterate_succ_apply, Function.iterate_succ_apply, crossing_toError, ih]

/-- **A text that grows is never the same again**. -/
theorem crossings_injective (d : PgWireDisplay) {v : MappedVariant} (hv : ¬ v.isUnit) (hm : ¬ (d.message v).Bare)
    (payload : String) : Function.Injective fun n => d.crossing^[n] (v.toError payload) := by
  have hgrows : StrictMono fun n => ((fun p => d.display (v.toError p))^[n] payload).length := by
    refine strictMono_nat_of_lt_succ fun n => ?_
    rw [Function.iterate_succ_apply', d.display_eq v hv]
    exact Message.length_lt_render hm _ _
  intro n n' h
  dsimp only at h
  rw [crossings_toError, crossings_toError, toError_inj_of_not_isUnit hv] at h
  exact hgrows.injective (congrArg String.length h)

/-- **Crossings settle.**  An error of a variant that exceptions are mapped to keeps its variant, and comes back the
same from every crossing or different from every crossing; any other error is an `ApiError` from the first one on. -/
theorem crossings_settle (d : PgWireDisplay) (err : PgWireError) :
    (∃ v : MappedVariant, (∀ n, ∃ p, d.crossing^[n] err = v.toError p) ∧
      ((∀ n, d.crossing^[n] err = err) ∨ Function.Injective fun n => d.crossing^[n] err)) ∨
    ((∀ v p, err ≠ MappedVariant.toError v p) ∧ ∀ n, ∃ text, d.crossing^[n + 1] err = .apiError text) := by
  cases hmapped : err.mapped with
  | some vp =>
    obtain ⟨v, payload⟩ := vp
    obtain rfl := toError_of_mapped hmapped
    refine .inl ⟨v, fun n => ⟨_, crossings_toError d v payload n⟩, ?_⟩
    by_cases hv : v.isUnit
    · exact .inl fun n => by rw [crossings_toError, toError_of_isUnit hv _ payload]
    · by_cases hm : (d.message v).Bare
      · refine .inl fun n => Function.iterate_fixed ?_ n
        rw [crossing_string d hv, (Message.render_eq_self_iff _ _ _).mpr hm]
      · exact .inr (crossings_injective d hv hm payload)
  | none =>
    refine .inr ⟨fun v p he => ?_, fun n => ?_⟩
    · obtain ⟨p', hp', -⟩ := mapped_toError v p
      rw [he, hp'] at hmapped
      cases hmapped
    · rw [Function.iterate_succ_apply]
      obtain ⟨text, htext⟩ := crossing_of_not_mapped d hmapped
      rw [htext]
      clear htext
      induction n generalizing text with
      | zero => exact ⟨text, rfl⟩
      | succ n ih =>
        have hmapped : (PgWireError.apiError text).mapped = none := rfl
        obtain ⟨text', htext'⟩ := crossing_of_not_mapped d hmapped
        rw [Function.iterate_succ_apply, htext']
        exact ih text'

/-- The text of an OAuth error comes back as it was; a user name is wrapped anew at every crossing. -/
theorem crossings_settle_samples :
    (∀ n, sampleDisplay.crossing^[n] (.oAuthValidationError "expired") = .oAuthValidationError "expired") ∧
      Function.Injective fun n => sampleDisplay.crossing^[n] (.invalidPassword "alice") := by
  refine ⟨?_, ?_⟩
  · rcases crossings_settle sampleDisplay (.oAuthValidationError "expired") with ⟨v, -, hfixed | hinjective⟩ | ⟨hno, -⟩
    · exact hfixed
    · have honce : sampleDisplay.crossing (.oAuthValidationError "expired") = .oAuthValidationError "expired" := by
        decide +kernel
      exact absurd (@hinjective 1 0 honce) (by decide)
    · exact absurd rfl (hno .oAuthValidationError "expired")
  · rcases crossings_settle sampleDisplay (.invalidPassword "alice") with ⟨v, -, hfixed | hinjective⟩ | ⟨hno, -⟩
    · exact absurd (hfixed 1) (by decide +kernel)
    · exact hinjective
    · exact absurd rfl (hno .invalidPassword "alice")

end Pywire
