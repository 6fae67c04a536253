import Mathlib.Data.List.Basic

/-!
# Base64: the standard alphabet with canonical padding

`encode` writes three bytes as four digits and pads the last group with `=`.  `decode` is strict: it takes
whole groups only, wants the padding that `encode` writes, and refuses a last digit with unused bits set.

* `decode_encode`: decoding gives back what was encoded.
* `encode_injective`, `mem_encode`: an encoding determines its bytes and consists of digits and `=`.
* `decode_eq_some`: what is decoded is an encoding, so every text has one meaning at most and every meaning one text.
-/

namespace Base64

/-- The digits, in the order of their values. -/
def alphabet : List Char := "ABCDEFGHIJKLMNOPQRSTUVWXYZabcdefghijklmnopqrstuvwxyz0123456789+/".toList

def digit (n : ℕ) : Char := alphabet.getD n '='

def value (c : Char) : Option ℕ := alphabet.idxOf? c

def encode : List UInt8 → List Char
  | [] => []
  | [a] => [digit (a.toNat / 4), digit (a.toNat % 4 * 16), '=', '=']
  | [a, b] =>
    [digit (a.toNat / 4), digit (a.toNat % 4 * 16 + b.toNat / 16), digit (b.toNat % 16 * 4), '=']
  | a :: b :: c :: rest =>
    digit (a.toNat / 4) :: digit (a.toNat % 4 * 16 + b.toNat / 16) ::
      digit (b.toNat % 16 * 4 + c.toNat / 64) :: digit (c.toNat % 64) :: encode rest

/-- The bytes of a group of four characters that is not the last one, or is last without padding. -/
def quad (a b c d : Char) : Option (List UInt8) := do
  let a ← value a
  let b ← value b
  let c ← value c
  let d ← value d
  return [UInt8.ofNat (a * 4 + b / 16), UInt8.ofNat (b % 16 * 16 + c / 4), UInt8.ofNat (c % 4 * 64 + d)]

/-- The bytes of the last group of four characters. -/
def lastQuad (a b c d : Char) : Option (List UInt8) :=
  if d = '=' then
    if c = '=' then do
      let a ← value a
      let b ← value b
      if b % 16 = 0 then some [UInt8.ofNat (a * 4 + b / 16)] else none
    else do
      let a ← value a
      let b ← value b
      let c ← value c
      if c % 4 = 0 then some [UInt8.ofNat (a * 4 + b / 16), UInt8.ofNat (b % 16 * 16 + c / 4)] else none
  else quad a b c d

def decode : List Char → Option (List UInt8)
  | [] => some []
  | [a, b, c, d] => lastQuad a b c d
  | a :: b :: c :: d :: rest => do
    let bytes ← quad a b c d
    return bytes ++ (← decode rest)
  | _ => none

theorem value_digit {n : ℕ} (h : n < 64) : value (digit n) = some n := by
  have all : ∀ n : Fin 64, value (digit n) = some n.val := by decide +kernel
  exact all ⟨n, h⟩

theorem digit_mem {n : ℕ} (h : n < 64) : digit n ∈ alphabet := by
  have hlen : n < alphabet.length := h
  rw [digit, List.getD_eq_getElem?_getD, List.getElem?_eq_getElem hlen]
  exact List.getElem_mem hlen

theorem digit_ne_pad {n : ℕ} (h : n < 64) : digit n ≠ '=' := by
  intro he
  have := digit_mem h
  rw [he] at this
  exact absurd this (by decide)

theorem quad_digits {a b c d : ℕ} (ha : a < 64) (hb : b < 64) (hc : c < 64) (hd : d < 64) :
    quad (digit a) (digit b) (digit c) (digit d) =
      some [UInt8.ofNat (a * 4 + b / 16), UInt8.ofNat (b % 16 * 16 + c / 4), UInt8.ofNat (c % 4 * 64 + d)] := by
  simp [quad, value_digit, ha, hb, hc, hd]

/-- A byte put together from the two parts it was cut into. -/
theorem ofNat_parts {u : UInt8} {n : ℕ} (h : n = u.toNat) : UInt8.ofNat n = u := by
  rw [h, UInt8.ofNat_toNat]

theorem quad_encode (a b c : UInt8) :
    quad (digit (a.toNat / 4)) (digit (a.toNat % 4 * 16 + b.toNat / 16))
      (digit (b.toNat % 16 * 4 + c.toNat / 64)) (digit (c.toNat % 64)) = some [a, b, c] := by
  have ha := a.toNat_lt
  have hb := b.toNat_lt
  have hc := c.toNat_lt
  rw [quad_digits (by omega) (by omega) (by omega) (by omega), ofNat_parts (u := a) (by omega),
    ofNat_parts (u := b) (by omega), ofNat_parts (u := c) (by omega)]

/-- Every group of `encode` is full, so what follows one is empty or again a whole group. -/
theorem decode_cons {a b c d : Char} {rest : List Char} (hd : d ≠ '=') (bytes : List UInt8)
    (h : quad a b c d = some bytes) :
    decode (a :: b :: c :: d :: rest) = (decode rest).map (bytes ++ ·) := by
  rcases rest with _ | ⟨e, rest⟩
  · simp [decode, lastQuad, hd, h]
  · rw [decode, h]
    · cases hr : decode (e :: rest) <;> simp
    · simp

/-- **Round trip**. -/
theorem decode_encode (bytes : List UInt8) : decode (encode bytes) = some bytes := by
  induction bytes using encode.induct with
  | case1 => rfl
  | case2 a =>
    have ha := a.toNat_lt
    simp only [encode, decode, lastQuad, if_true, value_digit (show a.toNat / 4 < 64 by omega),
      value_digit (show a.toNat % 4 * 16 < 64 by omega), Option.bind_eq_bind, Option.bind_some]
    rw [if_pos (by omega), ofNat_parts (u := a) (by omega)]
  | case3 a b =>
    have ha := a.toNat_lt
    have hb := b.toNat_lt
    simp only [encode, decode, lastQuad, if_true, if_neg (digit_ne_pad (show b.toNat % 16 * 4 < 64 by omega)),
      value_digit (show a.toNat / 4 < 64 by omega), value_digit (show b.toNat % 16 * 4 < 64 by omega),
      value_digit (show a.toNat % 4 * 16 + b.toNat / 16 < 64 by omega), Option.bind_eq_bind, Option.bind_some]
    rw [if_pos (by omega), ofNat_parts (u := a) (by omega), ofNat_parts (u := b) (by omega)]
  | case4 a b c rest ih =>
    rw [encode, decode_cons (digit_ne_pad (by omega)) _ (quad_encode a b c), ih]
    rfl

theorem encode_injective : Function.Injective encode := by
  intro a b h
  have := congrArg decode h
  rw [decode_encode, decode_encode] at this
  exact Option.some.inj this

/-- An encoding consists of digits and padding. -/
theorem mem_encode {c : Char} {bytes : List UInt8} (h : c ∈ encode bytes) : c ∈ alphabet ∨ c = '=' := by
  induction bytes using encode.induct with
  | case1 => simp [encode] at h
  | case2 a =>
    have ha := a.toNat_lt
    simp only [encode, List.mem_cons, List.not_mem_nil, or_false] at h
    rcases h with rfl | rfl | rfl | rfl
    · exact .inl (digit_mem (by omega))
    · exact .inl (digit_mem (by omega))
    · exact .inr rfl
    · exact .inr rfl
  | case3 a b =>
    have ha := a.toNat_lt
    have hb := b.toNat_lt
    simp only [encode, List.mem_cons, List.not_mem_nil, or_false] at h
    rcases h with rfl | rfl | rfl | rfl
    · exact .inl (digit_mem (by omega))
    · exact .inl (digit_mem (by omega))
    · exact .inl (digit_mem (by omega))
    · exact .inr rfl
  | case4 a b c rest ih =>
    have ha := a.toNat_lt
    have hb := b.toNat_lt
    have hc := c.toNat_lt
    simp only [encode, List.mem_cons] at h
    rcases h with rfl | rfl | rfl | rfl | h
    · exact .inl (digit_mem (by omega))
    · exact .inl (digit_mem (by omega))
    · exact .inl (digit_mem (by omega))
    · exact .inl (digit_mem (by omega))
    · exact ih h

/-- A character that is neither a digit nor padding occurs in no encoding. -/
theorem notMem_encode {c : Char} (hc : c ∉ alphabet ∧ c ≠ '=') (bytes : List UInt8) : c ∉ encode bytes :=
  fun h => (mem_encode h).elim hc.1 hc.2

theorem length_encode (bytes : List UInt8) : (encode bytes).length = 4 * ((bytes.length + 2) / 3) := by
  induction bytes using encode.induct with
  | case1 => rfl
  | case2 a => simp [encode]
  | case3 a b => simp [encode]
  | case4 a b c rest ih =>
    simp only [encode, List.length_cons, ih]
    omega

/-! ### Canonicity -/

/-- A digit has one value. -/
theorem value_eq_some {c : Char} {n : ℕ} (h : value c = some n) : n < 64 ∧ digit n = c := by
  have hidx : alphabet.idxOf? c = some n := h
  obtain ⟨hlt, hget, -⟩ := List.findIdx?_eq_some_iff_getElem.mp hidx
  refine ⟨hlt, ?_⟩
  rw [digit, List.getD_eq_getElem?_getD, List.getElem?_eq_getElem hlt]
  simpa using hget

theorem toNat_ofNat {n : ℕ} (h : n < 256) : (UInt8.ofNat n).toNat = n := UInt8.toNat_ofNat_of_lt' h

theorem quad_eq_some {a b c d : Char} {bytes : List UInt8} (h : quad a b c d = some bytes) (rest : List UInt8) :
    encode (bytes ++ rest) = a :: b :: c :: d :: encode rest := by
  simp only [quad, Option.bind_eq_bind, Option.bind_eq_some_iff, Option.pure_def, Option.some.injEq] at h
  obtain ⟨va, ha, vb, hb, vc, hc, vd, hd, rfl⟩ := h
  obtain ⟨hva, rfl⟩ := value_eq_some ha
  obtain ⟨hvb, rfl⟩ := value_eq_some hb
  obtain ⟨hvc, rfl⟩ := value_eq_some hc
  obtain ⟨hvd, rfl⟩ := value_eq_some hd
  have h1 : (UInt8.ofNat (va * 4 + vb / 16)).toNat = va * 4 + vb / 16 := toNat_ofNat (by omega)
  have h2 : (UInt8.ofNat (vb % 16 * 16 + vc / 4)).toNat = vb % 16 * 16 + vc / 4 := toNat_ofNat (by omega)
  have h3 : (UInt8.ofNat (vc % 4 * 64 + vd)).toNat = vc % 4 * 64 + vd := toNat_ofNat (by omega)
  have e1 : (va * 4 + vb / 16) / 4 = va := by omega
  have e2 : (va * 4 + vb / 16) % 4 * 16 + (vb % 16 * 16 + vc / 4) / 16 = vb := by omega
  have e3 : (vb % 16 * 16 + vc / 4) % 16 * 4 + (vc % 4 * 64 + vd) / 64 = vc := by omega
  have e4 : (vc % 4 * 64 + vd) % 64 = vd := by omega
  simp only [List.cons_append, List.nil_append, encode, h1, h2, h3, e1, e2, e3, e4]

theorem lastQuad_eq_some {a b c d : Char} {bytes : List UInt8} (h : lastQuad a b c d = some bytes) :
    encode bytes = [a, b, c, d] := by
  unfold lastQuad at h
  by_cases hd : d = '='
  · rw [if_pos hd] at h
    subst hd
    by_cases hc : c = '='
    · rw [if_pos hc] at h
      subst hc
      simp only [Option.bind_eq_bind, Option.bind_eq_some_iff] at h
      obtain ⟨va, ha, vb, hb, h⟩ := h
      obtain ⟨hva, rfl⟩ := value_eq_some ha
      obtain ⟨hvb, rfl⟩ := value_eq_some hb
      split_ifs at h with hunused
      obtain rfl := Option.some.inj h
      have h1 : (UInt8.ofNat (va * 4 + vb / 16)).toNat = va * 4 + vb / 16 := toNat_ofNat (by omega)
      have e1 : (va * 4 + vb / 16) / 4 = va := by omega
      have e2 : (va * 4 + vb / 16) % 4 * 16 = vb := by omega
      simp only [encode, h1, e1, e2]
    · rw [if_neg hc] at h
      simp only [Option.bind_eq_bind, Option.bind_eq_some_iff] at h
      obtain ⟨va, ha, vb, hb, vc, hvc, h⟩ := h
      obtain ⟨hva, rfl⟩ := value_eq_some ha
      obtain ⟨hvb, rfl⟩ := value_eq_some hb
      obtain ⟨hvc, rfl⟩ := value_eq_some hvc
      split_ifs at h with hunused
      obtain rfl := Option.some.inj h
      have h1 : (UInt8.ofNat (va * 4 + vb / 16)).toNat = va * 4 + vb / 16 := toNat_ofNat (by omega)
      have h2 : (UInt8.ofNat (vb % 16 * 16 + vc / 4)).toNat = vb % 16 * 16 + vc / 4 := toNat_ofNat (by omega)
      have e1 : (va * 4 + vb / 16) / 4 = va := by omega
      have e2 : (va * 4 + vb / 16) % 4 * 16 + (vb % 16 * 16 + vc / 4) / 16 = vb := by omega
      have e3 : (vb % 16 * 16 + vc / 4) % 16 * 4 = vc := by omega
      simp only [encode, h1, h2, e1, e2, e3]
  · rw [if_neg hd] at h
    simpa [encode] using quad_eq_some h []

/-- **Canonicity**: a text that decodes is the encoding of what it decodes to. -/
theorem decode_eq_some {text : List Char} {bytes : List UInt8} : decode text = some bytes ↔ text = encode bytes := by
  constructor
  · intro h
    induction text using decode.induct generalizing bytes with
    | case1 =>
      obtain rfl := Option.some.inj h
      rfl
    | case2 a b c d => exact (lastQuad_eq_some h).symm
    | case3 a b c d rest hrest ih =>
      rw [decode] at h
      · simp only [Option.bind_eq_bind, Option.bind_eq_some_iff, Option.pure_def, Option.some.injEq] at h
        obtain ⟨group, hgroup, tail, htail, rfl⟩ := h
        rw [quad_eq_some hgroup, ← ih htail]
      · exact hrest
    | case4 text => simp [decode] at h
  · rintro rfl
    exact decode_encode bytes

end Base64
