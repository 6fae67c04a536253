import Mathlib.Algebra.BigOperators.Group.List.Basic
import Mathlib.Tactic.Linarith
import Pywire.Extended

/-!
# EmptyQuery: what `is_empty_query` recognises

`EmptyText` says what an empty query is without a scanner: white space, semicolons, line comments and block
comments, one after the other.  A block comment is read as a list of marks, left to right and without overlap,
and ends where the balance of its opening and closing marks returns to zero for the first time.

* `isEmptyQuery_iff`: **Main result** — `is_empty_query` recognises exactly the empty texts.
-/

namespace Pywire

/-! ### Empty texts -/

/-- What a block comment is made of. -/
inductive Mark where
  | opening
  | closing
  | other (c : Char)

/-- The marks of a text, from left to right and without overlap. -/
def marks : List Char → List Mark
  | '/' :: '*' :: cs => .opening :: marks cs
  | '*' :: '/' :: cs => .closing :: marks cs
  | c :: cs => .other c :: marks cs
  | [] => []

def Mark.weight : Mark → ℤ
  | .opening => 1
  | .closing => -1
  | .other _ => 0

/-- The balance of some marks. -/
def balance (ms : List Mark) : ℤ := (ms.map Mark.weight).sum

/-- Below `depth` open comments, the balance of the text returns to zero at its end and not before. -/
def Closes (depth : ℕ) (text : List Char) : Prop :=
  depth + balance (marks text) = 0 ∧ ∀ ms, ms <+: marks text → ms ≠ marks text → 0 < depth + balance ms

def IsNewline (c : Char) : Prop := c = '\n' ∨ c = '\r'

def IsBlank (c : Char) : Prop := c = ' ' ∨ c = '\t' ∨ c = '\n' ∨ c = '\x0c' ∨ c = '\r' ∨ c = ';'

/-- What stands in an empty query. -/
inductive Piece : List Char → Prop where
  | blank (c : Char) (hc : IsBlank c) : Piece [c]
  | line (body : List Char) (c : Char) (hbody : ∀ b ∈ body, ¬ IsNewline b) (hc : IsNewline c) :
      Piece ('-' :: '-' :: (body ++ [c]))
  | block (body : List Char) (hbody : Closes 1 body) : Piece ('/' :: '*' :: body)

/-- A line comment that the end of the query ends. -/
def OpenLine (text : List Char) : Prop := ∃ body, text = '-' :: '-' :: body ∧ ∀ b ∈ body, ¬ IsNewline b

/-- An empty query: pieces, and possibly a line comment behind them. -/
def EmptyText (text : List Char) : Prop :=
  ∃ (pieces : List (List Char)) (last : List Char), text = pieces.flatten ++ last ∧ (∀ p ∈ pieces, Piece p) ∧
    (last = [] ∨ OpenLine last)

theorem EmptyText.nil : EmptyText [] := ⟨[], [], rfl, by simp, .inl rfl⟩

theorem EmptyText.openLine {text : List Char} (h : OpenLine text) : EmptyText text :=
  ⟨[], text, rfl, by simp, .inr h⟩

theorem EmptyText.cons {p text : List Char} (hp : Piece p) (h : EmptyText text) : EmptyText (p ++ text) := by
  obtain ⟨pieces, last, rfl, hpieces, hlast⟩ := h
  refine ⟨p :: pieces, last, by simp, ?_, hlast⟩
  intro q hq
  rcases List.mem_cons.mp hq with rfl | hq
  · exact hp
  · exact hpieces q hq

/-! ### The balance of a block comment -/

section Balance

variable {depth : ℕ} {cs : List Char}

@[simp] theorem balance_nil : balance [] = 0 := rfl

@[simp] theorem balance_cons (m : Mark) (ms : List Mark) : balance (m :: ms) = m.weight + balance ms := by
  simp [balance]

/-- One mark, and what is left to close behind it. -/
theorem closes_cons {m : Mark} {text : List Char} {depth' : ℕ} (hmarks : marks text = m :: marks cs)
    (hdepth : 0 < depth) (hweight : (depth : ℤ) + m.weight = depth') : Closes depth text ↔ Closes depth' cs := by
  rw [Closes, Closes, hmarks, balance_cons, ← add_assoc, hweight]
  refine and_congr_right fun hsum => ⟨fun h ms hms hne => ?_, fun h ms hms hne => ?_⟩
  · have := h (m :: ms) (List.cons_prefix_cons.mpr ⟨rfl, hms⟩) (by simpa using hne)
    rwa [balance_cons, ← add_assoc, hweight] at this
  · cases ms with
    | nil => simpa using hdepth
    | cons m' ms =>
      obtain ⟨rfl, hprefix⟩ := List.cons_prefix_cons.mp hms
      have := h ms hprefix (by simpa using hne)
      rwa [balance_cons, ← add_assoc, hweight]

theorem not_closes_nil (hdepth : 0 < depth) : ¬ Closes depth [] := by
  rintro ⟨h, -⟩
  simp [marks] at h
  omega

/-- A comment closes with a mark of two characters. -/
theorem Closes.two_le {text : List Char} (hdepth : 0 < depth) (h : Closes depth text) :
    ∃ c d rest, text = c :: d :: rest := by
  rcases text with _ | ⟨c, _ | ⟨d, rest⟩⟩
  · exact absurd h (not_closes_nil hdepth)
  · have hsum := h.1
    have hmarks : marks [c] = [.other c] := by simp [marks]
    simp [hmarks, Mark.weight] at hsum
    omega
  · exact ⟨c, d, rest, rfl⟩

/-- At depth zero there is nothing left to close. -/
theorem closes_zero : Closes 0 cs ↔ cs = [] := by
  constructor
  · rintro ⟨-, h⟩
    cases cs with
    | nil => rfl
    | cons c cs =>
      have := h [] (List.nil_prefix) (by unfold marks; split <;> simp_all)
      simp at this
  · rintro rfl
    exact ⟨by simp [marks], by simp [marks]⟩

theorem closes_opening (hdepth : 0 < depth) : Closes depth ('/' :: '*' :: cs) ↔ Closes (depth + 1) cs :=
  closes_cons (m := .opening) rfl hdepth (by simp [Mark.weight])

theorem closes_closing (hdepth : 0 < depth) : Closes depth ('*' :: '/' :: cs) ↔ Closes (depth - 1) cs :=
  closes_cons (m := .closing) rfl hdepth (by simp [Mark.weight]; omega)

theorem closes_other {c : Char} (hdepth : 0 < depth) (hopen : ∀ cs', c = '/' → cs ≠ '*' :: cs')
    (hclose : ∀ cs', c = '*' → cs ≠ '/' :: cs') : Closes depth (c :: cs) ↔ Closes depth cs := by
  refine closes_cons (m := .other c) ?_ hdepth (by simp [Mark.weight])
  rw [marks]
  · exact hopen
  · exact hclose

end Balance

/-! ### The scanner -/

/-- A line comment runs to the next newline, or to the end. -/
theorem isEmptyQueryFrom_line {cs : List Char} :
    isEmptyQueryFrom .line cs = true ↔ (∀ b ∈ cs, ¬ IsNewline b) ∨
      ∃ body c rest, cs = body ++ c :: rest ∧ (∀ b ∈ body, ¬ IsNewline b) ∧ IsNewline c ∧
        isEmptyQueryFrom .top rest = true := by
  induction cs with
  | nil => simp [isEmptyQueryFrom]
  | cons c cs ih =>
    by_cases hc : IsNewline c
    · have hscan : isEmptyQueryFrom .line (c :: cs) = isEmptyQueryFrom .top cs := by
        rw [isEmptyQueryFrom, if_pos (show c = '\n' ∨ c = '\r' from hc)]
      rw [hscan]
      constructor
      · intro h
        exact .inr ⟨[], c, cs, rfl, by simp, hc, h⟩
      · rintro (h | ⟨body, c', rest, heq, hbody, hc', h⟩)
        · exact absurd hc (h c (List.mem_cons_self ..))
        · cases body with
          | nil =>
            obtain ⟨rfl, rfl⟩ := List.cons.inj heq
            exact h
          | cons b body =>
            obtain ⟨rfl, -⟩ := List.cons.inj heq
            exact absurd hc (hbody c (List.mem_cons_self ..))
    · have hscan : isEmptyQueryFrom .line (c :: cs) = isEmptyQueryFrom .line cs := by
        rw [isEmptyQueryFrom, if_neg (show ¬ (c = '\n' ∨ c = '\r') from hc)]
      rw [hscan, ih]
      constructor
      · rintro (h | ⟨body, c', rest, rfl, hbody, hc', h⟩)
        · exact .inl (by simpa using ⟨hc, h⟩)
        · exact .inr ⟨c :: body, c', rest, rfl, by simpa using ⟨hc, hbody⟩, hc', h⟩
      · rintro (h | ⟨body, c', rest, heq, hbody, hc', h⟩)
        · exact .inl fun b hb => h b (List.mem_cons_of_mem _ hb)
        · cases body with
          | nil =>
            obtain ⟨rfl, rfl⟩ := List.cons.inj heq
            exact absurd hc' hc
          | cons b body =>
            obtain ⟨rfl, rfl⟩ := List.cons.inj heq
            exact .inr ⟨body, c', rest, rfl, fun b hb => hbody b (List.mem_cons_of_mem _ hb), hc', h⟩

/-- A block comment runs to where its balance returns to zero. -/
theorem isEmptyQueryFrom_block : ∀ {cs : List Char} {depth : ℕ}, 0 < depth →
    (isEmptyQueryFrom (.block depth) cs = true ↔ ∃ body rest, cs = body ++ rest ∧ Closes depth body ∧
      isEmptyQueryFrom .top rest = true) := by
  intro cs
  induction cs using marks.induct with
  | case1 cs ih =>
    intro depth hdepth
    have hscan : isEmptyQueryFrom (.block depth) ('/' :: '*' :: cs) = isEmptyQueryFrom (.block (depth + 1)) cs := by
      rw [isEmptyQueryFrom]
    rw [hscan, ih (Nat.succ_pos depth)]
    constructor
    · rintro ⟨body, rest, rfl, hbody, hrest⟩
      exact ⟨'/' :: '*' :: body, rest, rfl, (closes_opening hdepth).mpr hbody, hrest⟩
    · rintro ⟨body, rest, heq, hbody, hrest⟩
      obtain ⟨c, d, body, rfl⟩ := hbody.two_le hdepth
      obtain ⟨rfl, htail⟩ := List.cons.inj heq
      obtain ⟨rfl, rfl⟩ := List.cons.inj htail
      exact ⟨body, rest, rfl, (closes_opening hdepth).mp hbody, hrest⟩
  | case2 cs ih =>
    intro depth hdepth
    have hback : (∃ body rest, '*' :: '/' :: cs = body ++ rest ∧ Closes depth body ∧
        isEmptyQueryFrom .top rest = true) ↔ ∃ body rest, cs = body ++ rest ∧ Closes (depth - 1) body ∧
        isEmptyQueryFrom .top rest = true := by
      constructor
      · rintro ⟨body, rest, heq, hbody, hrest⟩
        obtain ⟨c, d, body, rfl⟩ := hbody.two_le hdepth
        obtain ⟨rfl, htail⟩ := List.cons.inj heq
        obtain ⟨rfl, rfl⟩ := List.cons.inj htail
        exact ⟨body, rest, rfl, (closes_closing hdepth).mp hbody, hrest⟩
      · rintro ⟨body, rest, rfl, hbody, hrest⟩
        exact ⟨'*' :: '/' :: body, rest, rfl, (closes_closing hdepth).mpr hbody, hrest⟩
    rw [hback, isEmptyQueryFrom]
    by_cases hone : depth = 1
    · -- the last open comment ends here
      subst hone
      simp [closes_zero]
    · rw [if_neg hone]
      exact ih (by omega)
  | case3 c cs hopen hclose ih =>
    intro depth hdepth
    have hscan : isEmptyQueryFrom (.block depth) (c :: cs) = isEmptyQueryFrom (.block depth) cs := by
      rw [isEmptyQueryFrom]
      · exact hopen
      · exact hclose
    rw [hscan, ih hdepth]
    constructor
    · rintro ⟨body, rest, rfl, hbody, hrest⟩
      refine ⟨c :: body, rest, rfl, (closes_other hdepth ?_ ?_).mpr hbody, hrest⟩
      · rintro cs' rfl rfl
        exact hopen _ rfl rfl
      · rintro cs' rfl rfl
        exact hclose _ rfl rfl
    · rintro ⟨body, rest, heq, hbody, hrest⟩
      obtain ⟨c', d, body, rfl⟩ := hbody.two_le hdepth
      obtain ⟨rfl, rfl⟩ := List.cons.inj heq
      refine ⟨d :: body, rest, rfl, (closes_other hdepth ?_ ?_).mp hbody, hrest⟩
      · rintro cs' rfl heq'
        obtain ⟨rfl, rfl⟩ := List.cons.inj heq'
        exact hopen _ rfl rfl
      · rintro cs' rfl heq'
        obtain ⟨rfl, rfl⟩ := List.cons.inj heq'
        exact hclose _ rfl rfl
  | case4 =>
    intro depth hdepth
    have hscan : isEmptyQueryFrom (.block depth) [] = false := by rw [isEmptyQueryFrom]
    rw [hscan]
    constructor
    · intro h
      cases h
    · rintro ⟨body, rest, heq, hbody, -⟩
      obtain ⟨rfl, -⟩ := List.append_eq_nil_iff.mp heq.symm
      exact absurd hbody (not_closes_nil hdepth)

/-! ### Main result -/

theorem isBlank_iff {c : Char} : IsBlank c ↔ isAsciiWhitespace c = true ∨ c = ';' := by
  simp only [IsBlank, isAsciiWhitespace, decide_eq_true_eq]
  tauto

/-- The scanner accepts a piece in front of a text that it accepts. -/
theorem isEmptyQueryFrom_piece {p rest : List Char} (hp : Piece p) (hrest : isEmptyQueryFrom .top rest = true) :
    isEmptyQueryFrom .top (p ++ rest) = true := by
  cases hp with
  | blank c hc =>
    have hcond := isBlank_iff.mp hc
    have hscan : isEmptyQueryFrom .top (c :: rest) = isEmptyQueryFrom .top rest := by
      rw [isEmptyQueryFrom, if_pos hcond]
      · rintro cs' rfl
        simp [isAsciiWhitespace] at hcond
      · rintro cs' rfl
        simp [isAsciiWhitespace] at hcond
    rw [List.singleton_append, hscan]
    exact hrest
  | line body c hbody hc =>
    show isEmptyQueryFrom .top ('-' :: '-' :: (body ++ [c] ++ rest)) = true
    rw [isEmptyQueryFrom]
    exact isEmptyQueryFrom_line.mpr (.inr ⟨body, c, rest, by simp, hbody, hc, hrest⟩)
  | block body hbody =>
    show isEmptyQueryFrom .top ('/' :: '*' :: (body ++ rest)) = true
    rw [isEmptyQueryFrom]
    exact (isEmptyQueryFrom_block Nat.one_pos).mpr ⟨body, rest, rfl, hbody, hrest⟩

/-- What the scanner accepts begins with a piece, or is a line comment, or is empty. -/
theorem isEmptyQueryFrom_cases {text : List Char} (h : isEmptyQueryFrom .top text = true) :
    text = [] ∨ OpenLine text ∨ ∃ p rest, text = p ++ rest ∧ p ≠ [] ∧ Piece p ∧ isEmptyQueryFrom .top rest = true := by
  unfold isEmptyQueryFrom at h
  split at h
  case h_1 => exact .inl rfl
  case h_2 cs _ =>
    rcases isEmptyQueryFrom_line.mp h with hbody | ⟨body, c, rest, rfl, hbody, hc, hrest⟩
    · exact .inr (.inl ⟨cs, rfl, hbody⟩)
    · exact .inr (.inr ⟨_, rest, by simp, by simp, .line body c hbody hc, hrest⟩)
  case h_3 cs _ =>
    obtain ⟨body, rest, rfl, hbody, hrest⟩ := (isEmptyQueryFrom_block Nat.one_pos).mp h
    exact .inr (.inr ⟨_, rest, rfl, by simp, .block body hbody, hrest⟩)
  case h_4 _ c cs _ _ _ =>
    by_cases hc : isAsciiWhitespace c = true ∨ c = ';'
    · rw [if_pos hc] at h
      exact .inr (.inr ⟨[c], cs, rfl, by simp, .blank c (isBlank_iff.mpr hc), h⟩)
    · rw [if_neg hc] at h
      cases h
  all_goals simp at *

theorem isEmptyQueryFrom_top {text : List Char} : isEmptyQueryFrom .top text = true ↔ EmptyText text := by
  constructor
  · intro h
    induction hn : text.length using Nat.strong_induction_on generalizing text with
    | _ n ih =>
      rcases isEmptyQueryFrom_cases h with rfl | hline | ⟨p, rest, rfl, hne, hp, hrest⟩
      · exact .nil
      · exact .openLine hline
      · have hlen : rest.length < n := by
          have := List.length_pos_iff.mpr hne
          rw [List.length_append] at hn
          omega
        exact .cons hp (ih _ hlen hrest rfl)
  · rintro ⟨pieces, last, rfl, hpieces, hlast⟩
    induction pieces with
    | nil =>
      rcases hlast with rfl | ⟨body, rfl, hbody⟩
      · rfl
      · rw [List.flatten_nil, List.nil_append, isEmptyQueryFrom]
        exact isEmptyQueryFrom_line.mpr (.inl hbody)
    | cons p pieces ih =>
      rw [List.flatten_cons, List.append_assoc]
      refine isEmptyQueryFrom_piece (hpieces p (List.mem_cons_self ..)) (ih ?_)
      exact fun q hq => hpieces q (List.mem_cons_of_mem _ hq)

/-- **Empty queries.**  `is_empty_query` is true of the texts made of white space, semicolons, line comments and
closed block comments, and of no other text. -/
theorem isEmptyQuery_iff (sql : String) : isEmptyQuery sql = true ↔ EmptyText sql.toList :=
  isEmptyQueryFrom_top

end Pywire
