import Pywire.CloseErrors

/-!
# BindFormats: the format codes from the client to Python

A format code travels as the list of the Bind message, as pgwire's `Format` and as the list handed to the Python
callback.  `formatAt` is PostgreSQL's rule for such a list.

* `bind_formats`: **Main result** — the lists Python is handed mean what the client's lists mean, and `on_bind`
  turns away exactly the messages whose lists mean nothing.
-/

namespace Pywire

open Async

/-! ### The rule -/

/-- The format that a list of codes assigns to item `i` of `n`: text without codes, the one code for all of them,
or one code each. -/
def formatAt (codes : List Int16) (n i : ℕ) : Option Int16 :=
  match codes with
  | [] => if i < n then some 0 else none
  | [code] => if i < n then some code else none
  | codes => if codes.length = n then codes[i]? else none

def ValidCode (code : Int16) : Prop := code = 0 ∨ code = 1

/-- The codes of a Bind assign no formats: too many or too few of them, or one that is no format. -/
def Bind.Malformed (message : Bind) : Prop :=
  (2 ≤ message.parameterFormatCodes.length ∧ message.parameterFormatCodes.length ≠ message.parameters.length) ∨
    ∃ code ∈ message.parameterFormatCodes ++ message.resultColumnFormatCodes, ¬ ValidCode code

theorem formatAt_many {codes : List Int16} (h : 2 ≤ codes.length) (i : ℕ) :
    formatAt codes codes.length i = codes[i]? := by
  rcases codes with _ | ⟨a, _ | ⟨b, codes⟩⟩
  · simp at h
  · simp at h
  · simp [formatAt]

@[simp] theorem Format.fromCodes_nil : fromCodes [] = .unifiedText := rfl
@[simp] theorem Format.fromCodes_text : fromCodes [0] = .unifiedText := rfl
@[simp] theorem Format.fromCodes_binary : fromCodes [1] = .unifiedBinary := rfl

/-- pgwire keeps the codes of a list of two or more as they are. -/
theorem Format.fromCodes_many {codes : List Int16} (h : 2 ≤ codes.length) : fromCodes codes = .individual codes := by
  unfold fromCodes
  split
  · simp at h
  · simp at h
  · simp at h
  · rfl

/-- **Parameters**: as many codes as parameters, each the one the rule assigns. -/
theorem formatCodes_fromCodes {codes : List Int16} {n : ℕ} (hvalid : ∀ code ∈ codes, ValidCode code)
    (hcount : codes.length < 2 ∨ codes.length = n) (i : ℕ) :
    (formatCodes (.fromCodes codes) n).length = n ∧
      (formatCodes (.fromCodes codes) n)[i]? = formatAt codes n i := by
  rcases codes with _ | ⟨a, _ | ⟨b, codes⟩⟩
  · simp [formatCodes, formatAt, List.getElem?_replicate]
  · rcases hvalid a (List.mem_singleton_self a) with rfl | rfl
    · simp [formatCodes, formatAt, List.getElem?_replicate]
    · simp [formatCodes, formatAt, List.getElem?_replicate]
  · have hmany : 2 ≤ (a :: b :: codes).length := by simp
    obtain rfl : (a :: b :: codes).length = n := hcount.resolve_left (by omega)
    rw [Format.fromCodes_many hmany, formatAt_many hmany]
    exact ⟨rfl, rfl⟩

/-- **Result columns**: whatever their number, the list means the same. -/
theorem resultFormatCodes_fromCodes {codes : List Int16} (hvalid : ∀ code ∈ codes, ValidCode code) (n i : ℕ) :
    formatAt (resultFormatCodes (.fromCodes codes)) n i = formatAt codes n i := by
  rcases codes with _ | ⟨a, _ | ⟨b, codes⟩⟩
  · rfl
  · rcases hvalid a (List.mem_singleton_self a) with rfl | rfl
    · rfl
    · rfl
  · rw [Format.fromCodes_many (by simp), resultFormatCodes]

/-! ### The checks of `on_bind` -/

theorem bindFormatError_eq_none {message : Bind} :
    PyExtendedHandler.bindFormatError message = none ↔ ¬ message.Malformed := by
  have hcode : ∀ code : Int16, decide (code ≠ 0 ∧ code ≠ 1) = true ↔ ¬ ValidCode code := by
    intro code
    simp [ValidCode]
  rw [PyExtendedHandler.bindFormatError, Bind.Malformed, not_or]
  by_cases hcount : message.parameterFormatCodes.length > 1 ∧
      message.parameterFormatCodes.length ≠ message.parameters.length
  · rw [if_pos hcount]
    have hmany : 2 ≤ message.parameterFormatCodes.length := hcount.1
    simp [hmany, hcount.2]
  · rw [if_neg hcount]
    have hright : ¬ (2 ≤ message.parameterFormatCodes.length ∧
        message.parameterFormatCodes.length ≠ message.parameters.length) := hcount
    cases hfind : (message.parameterFormatCodes ++ message.resultColumnFormatCodes).find?
        fun code => code ≠ 0 ∧ code ≠ 1 with
    | some code =>
      have hmem := List.mem_of_find?_eq_some hfind
      have hbad : ¬ ValidCode code := (hcode code).mp (by simpa using List.find?_some hfind)
      simp only [reduceCtorEq, false_iff, not_and, not_not]
      exact fun _ => ⟨code, hmem, hbad⟩
    | none =>
      simp only [true_iff]
      refine ⟨hright, ?_⟩
      rintro ⟨code, hmem, hbad⟩
      exact List.find?_eq_none.mp hfind code hmem ((hcode code).mpr hbad)

/-- Every error of the checks is a protocol violation. -/
theorem bindFormatError_code {message : Bind} {e : PgWireError}
    (he : PyExtendedHandler.bindFormatError message = some e) : ∃ text, e = userError "ERROR" "08P01" text := by
  rw [PyExtendedHandler.bindFormatError] at he
  split at he
  · exact ⟨_, (Option.some.inj he).symm⟩
  · split at he
    · exact ⟨_, (Option.some.inj he).symm⟩
    · cases he

/-! ### Every run of `on_bind` -/

section Runs

variable {h : PyExtendedHandler} {message : Bind} {w : WireWorld}

/-- The formats handed to the callback are the ones the Bind asks for. -/
structure FormatsAsked (message : Bind) (parameters : List (Option Bytes))
    (parameterFormats resultFormats : List Int16) : Prop where
  codes : ∀ code ∈ message.parameterFormatCodes ++ message.resultColumnFormatCodes, ValidCode code
  parameters : parameters = message.parameters
  count : parameterFormats.length = message.parameters.length
  parameterFormat : ∀ i < message.parameters.length,
    parameterFormats[i]? = formatAt message.parameterFormatCodes message.parameters.length i
  resultFormat : ∀ columns i, formatAt resultFormats columns i = formatAt message.resultColumnFormatCodes columns i

/-- A call that hands formats to Python hands over those of the message. -/
def HandsFormats (message : Bind) : Call → Prop
  | .python (.bindPortal _ _ _ parameters parameterFormats resultFormats) =>
    FormatsAsked message parameters parameterFormats resultFormats
  | _ => True

theorem closePortal_handsFormats (name : String) :
    Prog.Sat (fun _ c => HandsFormats message c) (PyExtendedHandler.closePortal name) w fun _ _ => True := by
  simp only [PyExtendedHandler.closePortal, PyExtendedHandler.withClosing, Prog.sat_bind, Prog.sat_get, Prog.after_ok]
  split
  · simp only [Prog.sat_bind, Prog.sat_await, Prog.after_ok, Prog.sat_andFinally, Prog.sat_modify, Prog.sat_get]
    refine ⟨trivial, fun _ => ?_⟩
    split
    · simp [HandsFormats]
    · simp
  · exact trivial

/-- Every call of `on_bind` hands over what the message asks for. -/
theorem onBind_handsFormats : Prog.Sat (fun _ c => HandsFormats message c) (h.onBind message) w fun _ _ => True := by
  have expected : ∀ w : WireWorld, Prog.Sat (fun _ c => HandsFormats message c) PyExtendedHandler.expectResources w
      fun _ _ => True := by
    intro w
    simp only [PyExtendedHandler.expectResources, Prog.sat_bind, Prog.sat_get, Prog.after_ok]
    split
    · trivial
    · trivial
  simp only [PyExtendedHandler.onBind, Prog.sat_bind, Prog.sat_get, Prog.after_ok]
  split
  · trivial
  cases hformats : PyExtendedHandler.bindFormatError message with
  | some e => trivial
  | none =>
    have hgood := bindFormatError_eq_none.mp hformats
    obtain ⟨hcount, hvalid⟩ := not_or.mp hgood
    push Not at hcount hvalid
    have hlength : message.parameterFormatCodes.length < 2 ∨
        message.parameterFormatCodes.length = message.parameters.length :=
      (Nat.lt_or_ge _ _).imp id hcount
    have hparameters : ∀ code ∈ message.parameterFormatCodes, ValidCode code :=
      fun code hc => hvalid code (List.mem_append_left _ hc)
    have hresults : ∀ code ∈ message.resultColumnFormatCodes, ValidCode code :=
      fun code hc => hvalid code (List.mem_append_right _ hc)
    cases w.st.store.statements.lookup (message.statementName.getD defaultName) with
    | none => trivial
    | some entry =>
      cases entry with
      | empty =>
        dsimp only
        split
        · trivial
        · rw [Prog.sat_bind]
          refine (closePortal_handsFormats _).seq fun _ w' => ?_
          simp only [Prog.sat_bind, Prog.sat_modify, Prog.after_ok]
          refine (expected _).seq fun _ w' => ?_
          simp only [Prog.sat_bind, Prog.sat_modify, Prog.after_ok, Prog.sat_await]
          exact ⟨trivial, fun _ => trivial⟩
      | value statement =>
        simp only [PyExtendedHandler.portalTryNew, Prog.sat_bind, Prog.sat_await, Prog.after_ok, Prog.sat_ofExcept,
          Prog.sat_pure, Prog.sat_ofOutcome, Prog.after_err]
        refine ⟨trivial, fun r => ⟨fun _ _ => ?_, fun _ _ => trivial⟩⟩
        cases h.instanceFor w.st with
        | none => trivial
        | some inst =>
          simp only [Outcome.okOr_some, Prog.after_ok, Prog.sat_bind]
          refine (closePortal_handsFormats _).seq fun _ w' => ?_
          simp only [Prog.sat_bind, Prog.sat_modify, Prog.after_ok, PyExtendedHandler.bindPortal, sat_callPythonRef]
          refine ⟨⟨hvalid, rfl, ?_, fun i _ => ?_, fun columns i => ?_⟩, fun r => ?_, fun e => trivial⟩
          · exact (formatCodes_fromCodes hparameters hlength 0).1
          · exact (formatCodes_fromCodes hparameters hlength i).2
          · exact resultFormatCodes_fromCodes hresults columns i
          · refine (expected _).seq fun _ w' => ?_
            simp only [Prog.sat_bind, Prog.sat_modify, Prog.after_ok, Prog.sat_await]
            exact ⟨trivial, fun _ => trivial⟩

/-- `on_bind` turns the message away by itself: it fails before it has called anything. -/
def TurnedAway (h : PyExtendedHandler) (env : WireEnv) (w : WireWorld) (message : Bind) : Prop :=
  ∃ text, (h.onBind message).run env w = (.err (userError "ERROR" "08P01" text), w)

/-- A well-formed Bind to a statement that is not empty gets as far as `Portal::try_new`. -/
theorem onBind_tries {statement : StoredStatement} (env : WireEnv) (hgood : ¬ message.Malformed)
    (hfree : ¬ (message.portalName.getD defaultName ≠ defaultName ∧
      (w.st.store.portals.lookup (message.portalName.getD defaultName)).isSome))
    (hst : w.st.store.statements.lookup (message.statementName.getD defaultName) = some (.value statement)) :
    w.log.length < ((h.onBind message).run env w).2.log.length := by
  rw [PyExtendedHandler.onBind, Prog.run_bind, Prog.run_get, Prog.resume_ok, if_neg hfree,
    bindFormatError_eq_none.mpr hgood]
  simp only [hst]
  refine Nat.lt_of_lt_of_le ?_ (Prog.log_prefix_bind env _ _ _).length_le
  refine Nat.lt_of_lt_of_le ?_ (Prog.log_prefix_bind env _ _ _).length_le
  simp

/-- **Formats.**  Whatever `on_bind` passes on to `bind_portal` carries the formats that the client asked for; to
a statement that is not empty, under a free name, it turns away exactly the messages that ask for none. -/
theorem bind_formats (h : PyExtendedHandler) (env : WireEnv) (w : WireWorld) (message : Bind) :
    (∀ i on name statement parameters parameterFormats resultFormats r, w.log.length ≤ i →
      ((h.onBind message).final env w).log[i]? = some (.called
        (.python (.bindPortal on name statement parameters parameterFormats resultFormats)) r) →
      FormatsAsked message parameters parameterFormats resultFormats) ∧
    ∀ statement, w.st.store.statements.lookup (message.statementName.getD defaultName) = some (.value statement) →
      (message.portalName.getD defaultName = defaultName ∨
        w.st.store.portals.lookup (message.portalName.getD defaultName) = none) →
      (TurnedAway h env w message ↔ message.Malformed) := by
  refine ⟨fun i on name statement parameters parameterFormats resultFormats r hi hcall => ?_,
    fun statement hst hname => ?_⟩
  · by_contra hbad
    have hsat : Prog.Sat (fun _ c => HandsFormats message c) (h.onBind message) w fun _ _ => True := onBind_handsFormats
    have hold := hsat.old (P := fun c => ¬ HandsFormats message c) fun _ _ hc hn => hn hc
    have hlog := (hold.run env).2 i _ r hcall hbad
    rw [List.getElem?_eq_none hi] at hlog
    cases hlog
  · have hfree : ¬ (message.portalName.getD defaultName ≠ defaultName ∧
        (w.st.store.portals.lookup (message.portalName.getD defaultName)).isSome) := by
      rcases hname with hname | hname
      · simp [hname]
      · simp [hname]
    constructor
    · rintro ⟨text, hrun⟩
      by_contra hgood
      have hlt := onBind_tries (h := h) env hgood hfree hst
      rw [hrun] at hlt
      exact Nat.lt_irrefl _ hlt
    · intro hbad
      obtain ⟨e, he⟩ := Option.ne_none_iff_exists'.mp fun hnone => bindFormatError_eq_none.mp hnone hbad
      obtain ⟨text, rfl⟩ := bindFormatError_code he
      refine ⟨text, ?_⟩
      rw [PyExtendedHandler.onBind, Prog.run_bind, Prog.run_get, Prog.resume_ok, if_neg hfree, he]
      rfl

/-- One code for two parameters, and two codes for the columns. -/
theorem bind_formats_one_for_all :
    let message : Bind := ⟨some "q", some "s", [1], [some [0, 0, 0, 7], none], [0, 1]⟩
    FormatsAsked message [some [0, 0, 0, 7], none] [1, 1] [0, 1] ∧
      (TurnedAway (.ascii true) (committing (.ok ())) (portalOpen (.ok ())) message ↔ message.Malformed) := by
  have hall := bind_formats (.ascii true) (committing (.ok ())) (portalOpen (.ok ()))
    ⟨some "q", some "s", [1], [some [0, 0, 0, 7], none], [0, 1]⟩
  refine ⟨hall.1 ((portalOpen (.ok ())).log.length + 2) .extended "q" _ _ _ _ (.ok ()) (by omega) rfl,
    hall.2 _ rfl (.inr rfl)⟩

end Runs

end Pywire
