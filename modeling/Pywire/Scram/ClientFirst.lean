import Pywire.Scram.Exchange

/-!
# ClientFirst: the client-first messages that are parsed

`ClientFirstForm` is the grammar of a client-first message.  `ClientFirst.parse` finds the fields by nested splits
at commas and the header by the byte length of what follows it; the two agree on every message.

* `ClientFirst.parse_grammar`: **Main result** — `parse` accepts exactly the messages of the grammar, which are of
  it in one way only, and returns their parts.
-/

namespace Pywire.Scram

open Async (Outcome)

/-! ### The grammar -/

/-- The parts of a client-first message. -/
structure ClientFirstForm where
  flag : Str
  authzid : Str
  user : Str
  nonce : Str
  /-- The text after the comma behind the nonce. -/
  extensions : Option Str
  flag_free : ',' ∉ flag
  authzid_free : ',' ∉ authzid
  authzid_form : authzid = [] ∨ "a=".toList <+: authzid
  user_free : ',' ∉ user
  nonce_free : ',' ∉ nonce
  nonce_ne : nonce ≠ []

namespace ClientFirstForm

variable (g g' : ClientFirstForm)

def gs2Header : Str := g.flag ++ ',' :: g.authzid ++ [',']

/-- What follows the nonce. -/
def tail : Str := (g.extensions.map (',' :: ·)).getD []

def bare : Str := "n=".toList ++ g.user ++ ',' :: "r=".toList ++ g.nonce ++ g.tail

def message : Str := g.gs2Header ++ g.bare

/-- What `parse` keeps of the message. -/
def first : ClientFirst := ⟨g.flag, g.gs2Header, g.bare, g.nonce⟩

theorem message_eq : g.message = g.flag ++ ',' :: (g.authzid ++ ',' :: g.bare) := by
  simp [message, gs2Header]

theorem bare_eq : g.bare = ("n=".toList ++ g.user) ++ ',' :: ("r=".toList ++ g.nonce ++ g.tail) := by
  simp [bare]

/-! ### One way only -/

theorem tail_unique (h : g.nonce ++ g.tail = g'.nonce ++ g'.tail) :
    g.nonce = g'.nonce ∧ g.extensions = g'.extensions := by
  have hn := g.nonce_free
  have hn' := g'.nonce_free
  rw [tail, tail] at h
  cases he : g.extensions with
  | none =>
    cases he' : g'.extensions with
    | none =>
      simp only [he, he', Option.map_none, Option.getD_none, List.append_nil] at h
      exact ⟨h, rfl⟩
    | some e' =>
      simp only [he, he', Option.map_none, Option.map_some, Option.getD_none, Option.getD_some, List.append_nil] at h
      exact absurd (by simp [h]) hn
  | some e =>
    cases he' : g'.extensions with
    | none =>
      simp only [he, he', Option.map_none, Option.map_some, Option.getD_none, Option.getD_some, List.append_nil] at h
      exact absurd (by simp [← h]) hn'
    | some e' =>
      simp only [he, he', Option.map_some, Option.getD_some] at h
      obtain ⟨hnonce, rfl⟩ := Text.cut_unique hn hn' h
      exact ⟨hnonce, rfl⟩

/-- **Uniqueness**: a message determines its parts. -/
theorem message_injective : Function.Injective message := by
  intro g g' h
  rw [message_eq, message_eq] at h
  obtain ⟨hflag, h⟩ := Text.cut_unique g.flag_free g'.flag_free h
  obtain ⟨hauthzid, h⟩ := Text.cut_unique g.authzid_free g'.authzid_free h
  rw [bare_eq, bare_eq] at h
  obtain ⟨huser, h⟩ := Text.cut_unique (by simpa using g.user_free) (by simpa using g'.user_free) h
  simp only [List.append_assoc] at huser h
  obtain ⟨hnonce, hext⟩ := tail_unique g g' (List.append_cancel_left h)
  have huser' := List.append_cancel_left huser
  cases g
  cases g'
  simp_all

/-! ### Both directions -/

/-- Every message of the grammar is parsed into its parts. -/
theorem parse_message : ClientFirst.parse g.message = .ok g.first := by
  have hflag : Text.splitOnce ',' g.message = some (g.flag, g.authzid ++ ',' :: g.bare) := by
    rw [message_eq]
    exact Text.splitOnce_append g.flag_free
  have hauthzid : Text.splitOnce ',' (g.authzid ++ ',' :: g.bare) = some (g.authzid, g.bare) :=
    Text.splitOnce_append g.authzid_free
  obtain ⟨rest, hrest⟩ : ∃ rest, ("r=".toList ++ g.nonce ++ g.tail).splitOn ',' = ("r=".toList ++ g.nonce) :: rest := by
    have hfree : ',' ∉ "r=".toList ++ g.nonce := by simpa using g.nonce_free
    cases he : g.extensions with
    | none => exact ⟨[], by simp only [tail, he, Option.map_none, Option.getD_none, List.append_nil,
        List.splitOn_eq_singleton hfree]⟩
    | some e => exact ⟨e.splitOn ',', by simp only [tail, he, Option.map_some, Option.getD_some,
        List.splitOn_append_cons_self_of_not_mem hfree]⟩
  have hfields : g.bare.splitOn ',' = ("n=".toList ++ g.user) :: ("r=".toList ++ g.nonce) :: rest := by
    have hfree : ',' ∉ "n=".toList ++ g.user := by simpa using g.user_free
    rw [bare_eq, List.splitOn_append_cons_self_of_not_mem hfree, hrest]
  obtain ⟨hn, hr⟩ := fields_eq_some.mpr ⟨rest, hfields⟩
  have hslice : Text.sliceTo (Text.byteLen g.message - Text.byteLen g.bare) g.message = some g.gs2Header :=
    sliceTo_bare g.gs2Header g.bare
  simp only [ClientFirst.parse, hflag, hauthzid, Outcome.okOr_some, Outcome.ok_bind, hn, hr, hslice]
  rw [if_neg (not_not.mpr g.authzid_form), if_pos g.nonce_ne]
  rfl

end ClientFirstForm

namespace ClientFirst

variable {message : Str} {first : ClientFirst}

/-- An accepted message has an empty authorization identity or one after `a=`. -/
theorem authzid_form {flag authzid bare : Str} (hflag : ',' ∉ flag) (hauthzid : ',' ∉ authzid)
    (h : parse (flag ++ ',' :: (authzid ++ ',' :: bare)) = .ok first) : authzid = [] ∨ "a=".toList <+: authzid := by
  by_contra hform
  simp only [parse, Text.splitOnce_append hflag, Text.splitOnce_append hauthzid, Outcome.okOr_some,
    Outcome.ok_bind] at h
  rw [if_pos hform] at h
  cases h

/-- The extension text that is split into fields at its commas. -/
def extensionText : List Str → Option Str
  | [] => none
  | e :: es => some (e ++ es.flatMap (',' :: ·))

theorem tail_extensionText (exts : List Str) :
    ((extensionText exts).map (',' :: ·)).getD [] = exts.flatMap (',' :: ·) := by
  cases exts with
  | nil => rfl
  | cons e es => rfl

/-- What is parsed is a message of the grammar. -/
theorem exists_form (h : parse message = .ok first) : ∃ g : ClientFirstForm, g.message = message ∧ g.first = first := by
  obtain ⟨authzid, user, exts, hflag, hauthzid, huser, hnonce, hne, hgs2, hbare, -, hmessage⟩ := parse_eq_ok h
  have hform : authzid = [] ∨ "a=".toList <+: authzid := by
    have hparts : parse (first.cbindFlag ++ ',' :: (authzid ++ ',' :: first.bare)) = .ok first := by
      rw [← h, hmessage, hgs2]
      simp
    exact authzid_form hflag hauthzid hparts
  let g : ClientFirstForm := ⟨first.cbindFlag, authzid, user, first.nonce, extensionText exts, hflag, hauthzid, hform,
    huser, hnonce, hne⟩
  have htail : g.tail = exts.flatMap (',' :: ·) := tail_extensionText exts
  have hgs2' : g.gs2Header = first.gs2Header := hgs2.symm
  have hbare' : g.bare = first.bare := by
    rw [ClientFirstForm.bare, htail, hbare]
  refine ⟨g, ?_, ?_⟩
  · rw [ClientFirstForm.message, hgs2', hbare', hmessage]
  · rw [ClientFirstForm.first, hgs2', hbare']

/-- There is one way to fail. -/
theorem parse_eq_err {e : PgWireError} (h : parse message = .err e) :
    e = invalid "malformed SCRAM client-first-message" := by
  simp only [parse] at h
  cases h1 : Text.splitOnce ',' message with
  | none =>
    simp only [h1, Outcome.okOr_none, Outcome.err_bind, Outcome.err.injEq] at h
    exact h.symm
  | some p1 =>
    cases h2 : Text.splitOnce ',' p1.2 with
    | none =>
      simp only [h1, h2, Outcome.okOr_some, Outcome.okOr_none, Outcome.ok_bind, Outcome.err_bind,
        Outcome.err.injEq] at h
      exact h.symm
    | some p2 =>
      simp only [h1, h2, Outcome.okOr_some, Outcome.ok_bind] at h
      split at h
      · exact (Outcome.err.inj h).symm
      split at h
      · split at h
        · cases hs : Text.sliceTo (Text.byteLen message - Text.byteLen p2.2) message with
          | none => simp [hs] at h
          | some header => simp [hs] at h
        · exact (Outcome.err.inj h).symm
      · exact (Outcome.err.inj h).symm

/-- **Parsing** accepts exactly the messages of the grammar and returns their parts, a message is of the grammar in
one way only, and the slice that cuts off the header ends where the rest begins. -/
theorem parse_grammar (message : Str) :
    (∀ first, parse message = .ok first ↔ ∃ g : ClientFirstForm, g.message = message ∧ g.first = first) ∧
    (∀ g g' : ClientFirstForm, g.message = message → g'.message = message → g = g') ∧
    ((¬ ∃ g : ClientFirstForm, g.message = message) →
      parse message = .err (invalid "malformed SCRAM client-first-message")) ∧
    ∀ first, parse message = .ok first → first.gs2Header ++ first.bare = message ∧
      Text.byteLen first.bare ≤ Text.byteLen message ∧
      Text.sliceTo (Text.byteLen message - Text.byteLen first.bare) message = some first.gs2Header := by
  refine ⟨fun first => ⟨exists_form, ?_⟩, fun g g' hg hg' => ClientFirstForm.message_injective (hg.trans hg'.symm),
    fun hnone => ?_, fun first h => ?_⟩
  · rintro ⟨g, rfl, rfl⟩
    exact g.parse_message
  · cases hp : parse message with
    | ok first =>
      obtain ⟨g, hg, -⟩ := exists_form hp
      exact absurd ⟨g, hg⟩ hnone
    | err e => rw [parse_eq_err hp]
    | panic => exact absurd hp (parse_ne_panic message)
  · obtain ⟨g, rfl, rfl⟩ := exists_form h
    refine ⟨rfl, ?_, sliceTo_bare g.gs2Header g.bare⟩
    rw [ClientFirstForm.message, Text.byteLen_append]
    exact Nat.le_add_left _ _

/-- A message with characters of several bytes. -/
theorem parse_grammar_multibyte :
    parse "y,a=é,n=ü,r=ñ1,x".toList = .ok ⟨"y".toList, "y,a=é,".toList, "n=ü,r=ñ1,x".toList, "ñ1".toList⟩ ∧
      Text.sliceTo (19 - 12) "y,a=é,n=ü,r=ñ1,x".toList = some "y,a=é,".toList := by
  let g : ClientFirstForm := ⟨"y".toList, "a=é".toList, "ü".toList, "ñ1".toList, some "x".toList, by decide, by decide,
    .inr (by decide), by decide, by decide, by decide⟩
  have hall := parse_grammar "y,a=é,n=ü,r=ñ1,x".toList
  have hparse : parse "y,a=é,n=ü,r=ñ1,x".toList = .ok g.first := (hall.1 g.first).mpr ⟨g, rfl, rfl⟩
  exact ⟨hparse, (hall.2.2.2 g.first hparse).2.2⟩

end ClientFirst

end Pywire.Scram
