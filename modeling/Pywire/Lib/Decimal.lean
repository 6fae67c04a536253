import Mathlib.Data.List.Induction

/-!
# Decimal: unsigned numbers as they are parsed

`parseUnsigned` reads a decimal number below a bound, with an optional plus sign and any number of leading zeros.

* `parseUnsigned_eq_some`: what it reads as `n` is exactly a spelling of `n`.
-/

namespace Decimal

/-- The number that a nonempty text of digits stands for. -/
def parseDigits (s : List Char) : Option ℕ :=
  if s ≠ [] ∧ s.all Char.isDigit then some (Nat.ofDigitChars 10 s 0) else none

/-- A text without a leading plus sign. -/
def dropPlus : List Char → List Char
  | '+' :: s => s
  | s => s

/-- The unsigned number below `bound` that a text stands for. -/
def parseUnsigned (bound : ℕ) (s : List Char) : Option ℕ :=
  (parseDigits (dropPlus s)).filter (· < bound)

/-- A spelling of a number: a plus sign or none, leading zeros and its digits. -/
def Spells (s : List Char) (n : ℕ) : Prop :=
  ∃ sign zeros, (sign = [] ∨ sign = ['+']) ∧ s = sign ++ List.replicate zeros '0' ++ Nat.toDigits 10 n

theorem spells_toDigits (n : ℕ) : Spells (Nat.toDigits 10 n) n := ⟨[], 0, .inl rfl, by simp⟩

theorem isDigit_of_mem_toDigits {c : Char} {n : ℕ} (h : c ∈ Nat.toDigits 10 n) : c.isDigit :=
  Nat.isDigit_of_mem_toDigits (by omega) (by omega) h

/-- A spelling consists of digits and the sign. -/
theorem Spells.mem {s : List Char} {n : ℕ} {c : Char} (h : Spells s n) (hc : c ∈ s) : c = '+' ∨ c.isDigit := by
  obtain ⟨sign, zeros, hsign, rfl⟩ := h
  simp only [List.mem_append, List.mem_replicate] at hc
  rcases hc with (hc | ⟨-, rfl⟩) | hc
  · rcases hsign with rfl | rfl
    · simp at hc
    · exact .inl (List.mem_singleton.mp hc)
  · exact .inr rfl
  · exact .inr (isDigit_of_mem_toDigits hc)

theorem Spells.notMem {s : List Char} {n : ℕ} {c : Char} (h : Spells s n) (hplus : c ≠ '+') (hdigit : ¬ c.isDigit) :
    c ∉ s :=
  fun hc => (h.mem hc).elim hplus hdigit

/-! ### Digits -/

/-- A digit is the character of a number below ten. -/
theorem eq_digitChar {c : Char} (h : c.isDigit) : ∃ d < 10, c = Nat.digitChar d := by
  have hrange : 48 ≤ c.toNat ∧ c.toNat ≤ 57 := by
    simp only [Char.isDigit, Bool.and_eq_true, decide_eq_true_eq, ge_iff_le] at h
    exact ⟨h.1, h.2⟩
  refine ⟨c.toNat - 48, by omega, Char.toNat_inj.mp ?_⟩
  rw [Nat.toNat_digitChar_of_lt_ten (by omega)]
  omega

theorem ofDigitChars_concat (s : List Char) {d : ℕ} (hd : d < 10) :
    Nat.ofDigitChars 10 (s ++ [Nat.digitChar d]) 0 = 10 * Nat.ofDigitChars 10 s 0 + d := by
  rw [Nat.ofDigitChars_append, Nat.ofDigitChars_cons_digitChar_of_lt_ten hd, Nat.ofDigitChars_nil]

/-- Digits are the digits of the number they stand for, behind leading zeros. -/
theorem eq_zeros_append {s : List Char} (hne : s ≠ []) (h : ∀ c ∈ s, c.isDigit) :
    ∃ zeros, s = List.replicate zeros '0' ++ Nat.toDigits 10 (Nat.ofDigitChars 10 s 0) := by
  induction s using List.reverseRecOn with
  | nil => exact absurd rfl hne
  | append_singleton s c ih =>
    obtain ⟨d, hd, rfl⟩ := eq_digitChar (h c (by simp))
    rw [ofDigitChars_concat s hd]
    by_cases hs : s = []
    · subst hs
      exact ⟨0, by simp [Nat.toDigits_of_lt_base hd]⟩
    · obtain ⟨zeros, hzeros⟩ := ih hs fun c hc => h c (List.mem_append_left _ hc)
      have hdigit : Nat.toDigits 10 d = [Nat.digitChar d] := Nat.toDigits_of_lt_base hd
      rcases Nat.eq_zero_or_pos (Nat.ofDigitChars 10 s 0) with hzero | hpos
      · -- the digits so far are zeros, and the new one stands for the number
        refine ⟨zeros + 1, ?_⟩
        rw [hzero, Nat.toDigits_zero] at hzeros
        rw [hzero, Nat.mul_zero, Nat.zero_add, hdigit, List.replicate_succ', hzeros]
      · refine ⟨zeros, ?_⟩
        rw [← Nat.toDigits_append_toDigits (by omega) hpos hd, hdigit, ← List.append_assoc, ← hzeros]

/-! ### Parsing -/

theorem parseDigits_eq_some {s : List Char} {n : ℕ} :
    parseDigits s = some n ↔ ∃ zeros, s = List.replicate zeros '0' ++ Nat.toDigits 10 n := by
  constructor
  · intro h
    rw [parseDigits] at h
    split_ifs at h with hs
    obtain rfl := Option.some.inj h
    exact eq_zeros_append hs.1 fun c hc => List.all_eq_true.mp hs.2 c hc
  · rintro ⟨zeros, rfl⟩
    have hne : List.replicate zeros '0' ++ Nat.toDigits 10 n ≠ [] := by simp
    have hall : (List.replicate zeros '0' ++ Nat.toDigits 10 n).all Char.isDigit := by
      rw [List.all_eq_true]
      intro c hc
      rcases List.mem_append.mp hc with hc | hc
      · rw [List.eq_of_mem_replicate hc]
        rfl
      · exact isDigit_of_mem_toDigits hc
    rw [parseDigits, if_pos ⟨hne, hall⟩, Nat.ofDigitChars_append, Nat.ofDigitChars_replicate_zero, Nat.mul_zero,
      Nat.ofDigitChars_ten_toDigits]

theorem dropPlus_of_isDigit {s : List Char} (h : ∀ c ∈ s, c.isDigit) : dropPlus s = s := by
  unfold dropPlus
  split
  · exact absurd (h '+' (by simp)) (by decide)
  · rfl

/-- **What is read as `n`** is a spelling of `n`, and every spelling of a number below the bound is read. -/
theorem parseUnsigned_eq_some {bound : ℕ} {s : List Char} {n : ℕ} :
    parseUnsigned bound s = some n ↔ Spells s n ∧ n < bound := by
  rw [parseUnsigned, Option.filter_eq_some_iff, parseDigits_eq_some]
  simp only [decide_eq_true_eq]
  refine and_congr_left fun _ => ⟨?_, ?_⟩
  · rintro ⟨zeros, hzeros⟩
    unfold dropPlus at hzeros
    split at hzeros
    · exact ⟨['+'], zeros, .inr rfl, by rw [hzeros]; rfl⟩
    · exact ⟨[], zeros, .inl rfl, by simpa using hzeros⟩
  · rintro ⟨sign, zeros, rfl | rfl, rfl⟩
    · refine ⟨zeros, dropPlus_of_isDigit fun c hc => ?_⟩
      rcases List.mem_append.mp hc with hc | hc
      · rw [List.eq_of_mem_replicate hc]
        rfl
      · exact isDigit_of_mem_toDigits hc
    · exact ⟨zeros, rfl⟩

end Decimal
