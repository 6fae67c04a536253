import Mathlib.Data.List.Basic

/-!
# Text: UTF-8 and text split at delimiters

A text is the list of its characters.  `utf8` is its encoding and `fromUtf8` the checked inverse.  `splitOnce`
splits at the first delimiter, `rsplitOnce` at the last occurrence of a pattern; the split at every delimiter
is `List.splitOn`, the removal of a prefix `List.dropPrefix?`.  `sliceTo` is a slice by byte offset, which
fails off a character boundary.

`header_unique`: texts that end in their `n`-th delimiter form a prefix-free code.
-/

namespace Text

/-! ### Splitting -/

section Split

variable {α : Type} [DecidableEq α] {d : α} {s a b : List α}

/-- The parts before and after the first `d`. -/
def splitOnce (d : α) : List α → Option (List α × List α)
  | [] => none
  | x :: xs => if x = d then some ([], xs) else (splitOnce d xs).map fun (a, b) => (x :: a, b)

theorem splitOnce_eq_some : splitOnce d s = some (a, b) ↔ s = a ++ d :: b ∧ d ∉ a := by
  induction s generalizing a with
  | nil => simp [splitOnce]
  | cons x xs ih =>
    unfold splitOnce
    by_cases hx : x = d
    · rw [if_pos hx]
      subst hx
      constructor
      · rintro ⟨⟩
        simp
      · rintro ⟨h, hd⟩
        rcases a with _ | ⟨y, a⟩
        · simpa using h
        · obtain ⟨rfl, -⟩ := List.cons_eq_cons.mp h
          simp at hd
    · rw [if_neg hx]
      constructor
      · intro h
        obtain ⟨⟨a', b'⟩, h1, h2⟩ := Option.map_eq_some_iff.mp h
        obtain ⟨rfl, rfl⟩ := Prod.mk.inj h2
        obtain ⟨rfl, hd⟩ := ih.mp h1
        exact ⟨rfl, by simp [hd, Ne.symm hx]⟩
      · rintro ⟨h, hd⟩
        rcases a with _ | ⟨y, a⟩
        · exact absurd (List.cons_eq_cons.mp h).1 hx
        · obtain ⟨rfl, rfl⟩ := List.cons_eq_cons.mp h
          rw [ih.mpr ⟨rfl, fun h' => hd (by simp [h'])⟩]
          rfl

theorem splitOnce_append (h : d ∉ a) : splitOnce d (a ++ d :: b) = some (a, b) :=
  splitOnce_eq_some.mpr ⟨rfl, h⟩

/-- Two ways to cut a text at its first `d` are one. -/
theorem cut_unique {a' b' : List α} (ha : d ∉ a) (ha' : d ∉ a') (h : a ++ d :: b = a' ++ d :: b') :
    a = a' ∧ b = b' := by
  have hcut := congrArg (splitOnce d) h
  rw [splitOnce_append ha, splitOnce_append ha'] at hcut
  exact Prod.mk.inj (Option.some.inj hcut)

/-- The parts before and after the last occurrence of the pattern `p`. -/
def rsplitOnce (p : List α) : List α → Option (List α × List α)
  | [] => if p = [] then some ([], []) else none
  | x :: xs =>
    match rsplitOnce p xs with
    | some (a, b) => some (x :: a, b)
    | none => ((x :: xs).dropPrefix? p).map fun b => ([], b)

theorem dropPrefix?_eq_some {p : List α} : s.dropPrefix? p = some b ↔ s = p ++ b := by
  rw [List.dropPrefix?_eq_some_iff]
  constructor
  · rintro ⟨p', rfl, hp⟩
    rw [beq_iff_eq.mp hp]
  · rintro rfl
    exact ⟨p, rfl, by simp⟩

@[simp] theorem dropPrefix?_append (p : List α) : (p ++ b).dropPrefix? p = some b :=
  dropPrefix?_eq_some.mpr rfl

theorem rsplitOnce_eq_append {p : List α} (h : rsplitOnce p s = some (a, b)) : s = a ++ p ++ b := by
  induction s generalizing a with
  | nil =>
    unfold rsplitOnce at h
    split_ifs at h with hp
    cases h
    simp [hp]
  | cons x xs ih =>
    unfold rsplitOnce at h
    cases hr : rsplitOnce p xs with
    | some ab =>
      rw [hr] at h
      cases h
      rw [ih hr]
      rfl
    | none =>
      rw [hr] at h
      obtain ⟨b', hb, h2⟩ := Option.map_eq_some_iff.mp h
      cases h2
      rw [dropPrefix?_eq_some.mp hb]
      rfl

theorem rsplitOnce_eq_none_of_notMem {p : List α} (h : d ∉ s) : rsplitOnce (d :: p) s = none := by
  induction s with
  | nil => rfl
  | cons x xs ih =>
    have hx : d ≠ x := fun hx => h (by simp [hx])
    unfold rsplitOnce
    rw [ih fun h' => h (by simp [h'])]
    cases hp : (x :: xs).dropPrefix? (d :: p) with
    | none => rfl
    | some b => exact absurd (List.cons_eq_cons.mp (dropPrefix?_eq_some.mp hp)).1.symm hx

/-- A pattern that starts with a delimiter occurs last where no delimiter follows. -/
theorem rsplitOnce_append {p : List α} (hp : d ∉ p) (hb : d ∉ b) :
    rsplitOnce (d :: p) (a ++ d :: p ++ b) = some (a, b) := by
  induction a with
  | nil =>
    have htail : rsplitOnce (d :: p) (p ++ b) = none :=
      rsplitOnce_eq_none_of_notMem (by simp [hp, hb])
    have hhead : (d :: (p ++ b)).dropPrefix? (d :: p) = some b := dropPrefix?_append (d :: p)
    simp [rsplitOnce, htail, hhead]
  | cons x a ih =>
    rw [List.cons_append, List.cons_append, rsplitOnce, ih]

/-- Fields free of the delimiter are what splitting their concatenation gives back. -/
theorem splitOn_fields {f : List α} (fs : List (List α)) (hf : d ∉ f) (hfs : ∀ g ∈ fs, d ∉ g) :
    (f ++ fs.flatMap (d :: ·)).splitOn d = f :: fs := by
  have h : f ++ fs.flatMap (d :: ·) = [d].intercalate (f :: fs) := by
    induction fs generalizing f with
    | nil => simp
    | cons g gs ih =>
      rw [List.intercalate_cons_cons, ← ih (hfs g (by simp)) fun x hx => hfs x (by simp [hx])]
      simp
  rw [h]
  exact List.splitOn_intercalate d (by simpa using ⟨hf, hfs⟩) (by simp)

/-- What splitting gives back, put together again. -/
theorem eq_of_splitOn {f : List α} {fs : List (List α)} (h : s.splitOn d = f :: fs) :
    s = f ++ fs.flatMap (d :: ·) := by
  have hj : ∀ (g : List α) (gs : List (List α)), [d].intercalate (g :: gs) = g ++ gs.flatMap (d :: ·) := by
    intro g gs
    induction gs generalizing g with
    | nil => simp
    | cons x xs ih =>
      rw [List.intercalate_cons_cons, ih x]
      simp
  rw [← hj, ← h, List.intercalate_splitOn]

theorem splitOn_ne_nil (s : List α) : s.splitOn d ≠ [] := by
  rw [List.splitOn]
  exact List.splitOnP_ne_nil _ _

/-- Fields contain no delimiter. -/
theorem notMem_of_mem_splitOn {f : List α} (h : f ∈ s.splitOn d) : d ∉ f := by
  induction s generalizing f with
  | nil =>
    simp only [List.splitOn_nil, List.mem_singleton] at h
    simp [h]
  | cons x xs ih =>
    rw [List.splitOn, List.splitOnP_cons_eq_if_modifyHead, ← List.splitOn] at h
    by_cases hx : x = d
    · rw [if_pos (by simpa using hx)] at h
      rcases List.mem_cons.mp h with rfl | h
      · simp
      · exact ih h
    · rw [if_neg (by simpa using hx)] at h
      obtain ⟨g, gs, hg⟩ := List.exists_cons_of_ne_nil (splitOn_ne_nil (d := d) xs)
      rw [hg, List.modifyHead_cons] at h
      rcases List.mem_cons.mp h with rfl | h
      · have := ih (f := g) (by simp [hg])
        simp [this, Ne.symm hx]
      · exact ih (by simp [hg, h])

/-- **Prefix-free headers**: of two texts with equally many delimiters that both end in one, neither is a
proper prefix of the other. -/
theorem header_unique {h h' : List α} (hc : h.count d = h'.count d) (hl : h.getLast? = some d)
    (hl' : h'.getLast? = some d) (he : h ++ a = h' ++ b) : h = h' ∧ a = b := by
  -- the longer header would end in a delimiter the shorter one has already used up
  have key : ∀ (k k' t : List α), k' = k ++ t → k.count d = k'.count d → k'.getLast? = some d →
      t = [] := by
    intro k k' t hk hcount hlast
    by_contra ht
    subst hk
    rw [List.getLast?_append_of_ne_nil _ ht] at hlast
    have hmem : d ∈ t := List.mem_of_getLast? hlast
    have := List.count_pos_iff.mpr hmem
    rw [List.count_append] at hcount
    omega
  rcases List.append_eq_append_iff.mp he with ⟨t, h1, h2⟩ | ⟨t, h1, h2⟩
  · have ht := key h h' t h1 hc hl'
    subst ht
    exact ⟨by simpa using h1.symm, by simpa using h2⟩
  · have ht := key h' h t h1 hc.symm hl
    subst ht
    exact ⟨by simpa using h1, by simpa using h2.symm⟩

end Split

/-! ### UTF-8 -/

section Utf8

/-- The UTF-8 encoding of a text. -/
def utf8 (s : List Char) : List UInt8 := s.flatMap String.utf8EncodeChar

/-- The text of well-formed UTF-8. -/
def fromUtf8 (b : List UInt8) : Option (List Char) := b.toByteArray.utf8Decode?.map Array.toList

@[simp] theorem utf8_nil : utf8 [] = [] := rfl

@[simp] theorem utf8_append (s t : List Char) : utf8 (s ++ t) = utf8 s ++ utf8 t := by
  simp [utf8]

@[simp] theorem fromUtf8_utf8 (s : List Char) : fromUtf8 (utf8 s) = some s := by
  have h : (utf8 s).toByteArray = s.utf8Encode := rfl
  rw [fromUtf8, h, List.utf8Decode?_utf8Encode]
  rfl

theorem fromUtf8_eq_some {b : List UInt8} {s : List Char} : fromUtf8 b = some s ↔ b = utf8 s := by
  constructor
  · intro h
    have hd : b.toByteArray.utf8Decode?.isSome := by
      rw [fromUtf8] at h
      cases hb : b.toByteArray.utf8Decode? with
      | none => simp [hb] at h
      | some _ => rfl
    obtain ⟨m, hm⟩ := ByteArray.isSome_utf8Decode?_iff.mp hd
    have hb : b = utf8 m := List.toByteArray_inj.mp hm
    rw [hb, fromUtf8_utf8] at h
    rw [hb, Option.some.inj h]
  · rintro rfl
    exact fromUtf8_utf8 s

theorem utf8_injective : Function.Injective utf8 := by
  intro s t h
  have := congrArg fromUtf8 h
  simpa using this

/-- A character below 128 is its own byte, and its byte occurs in no other character. -/
theorem count_utf8EncodeChar {d : Char} (hd : d.toNat < 128) (c : Char) :
    (String.utf8EncodeChar c).count (UInt8.ofNat d.toNat) = if c = d then 1 else 0 := by
  have hne : ∀ n, 128 ≤ n → n < 256 → UInt8.ofNat n ≠ UInt8.ofNat d.toNat := by
    intro n h1 h2 h
    have := congrArg UInt8.toNat h
    simp only [UInt8.toNat_ofNat'] at this
    omega
  by_cases hc : c = d
  · subst hc
    have h7 : c.toNat ≤ 127 := by omega
    simp [String.utf8EncodeChar, h7]
  · rw [if_neg hc, List.count_eq_zero]
    have hv : c.val.toNat ≠ d.toNat := fun h => hc (Char.ext (UInt32.toNat_inj.mp h))
    unfold String.utf8EncodeChar
    dsimp only
    split_ifs with h1 h2 h3
    · simp only [List.mem_singleton]
      intro h
      have := congrArg UInt8.toNat h
      simp only [UInt8.toNat_ofNat'] at this
      omega
    · simp only [List.mem_cons, List.not_mem_nil, or_false, not_or]
      exact ⟨(hne _ (by omega) (by omega)).symm, (hne _ (by omega) (by omega)).symm⟩
    · simp only [List.mem_cons, List.not_mem_nil, or_false, not_or]
      exact ⟨(hne _ (by omega) (by omega)).symm, (hne _ (by omega) (by omega)).symm,
        (hne _ (by omega) (by omega)).symm⟩
    · simp only [List.mem_cons, List.not_mem_nil, or_false, not_or]
      exact ⟨(hne _ (by omega) (by omega)).symm, (hne _ (by omega) (by omega)).symm,
        (hne _ (by omega) (by omega)).symm, (hne _ (by omega) (by omega)).symm⟩

theorem count_utf8 {d : Char} (hd : d.toNat < 128) (s : List Char) :
    (utf8 s).count (UInt8.ofNat d.toNat) = s.count d := by
  induction s with
  | nil => rfl
  | cons c s ih =>
    have h : utf8 (c :: s) = String.utf8EncodeChar c ++ utf8 s := rfl
    rw [h, List.count_append, ih, count_utf8EncodeChar hd, List.count_cons]
    by_cases hc : c = d <;> simp [hc, Nat.add_comm]

theorem utf8_singleton {d : Char} (hd : d.toNat < 128) : utf8 [d] = [UInt8.ofNat d.toNat] := by
  have h7 : d.toNat ≤ 127 := by omega
  simp [utf8, String.utf8EncodeChar, h7]

/-- A text that ends in `d` ends in the byte of `d`. -/
theorem getLast?_utf8 {d : Char} (hd : d.toNat < 128) {s : List Char} (h : s.getLast? = some d) :
    (utf8 s).getLast? = some (UInt8.ofNat d.toNat) := by
  obtain ⟨t, rfl⟩ := List.getLast?_eq_some_iff.mp h
  rw [utf8_append, utf8_singleton hd, List.getLast?_append]
  rfl

/-- **Headers stay prefix-free as bytes.** -/
theorem utf8_header_unique {d : Char} (hd : d.toNat < 128) {h h' : List Char} {a b : List UInt8}
    (hc : h.count d = h'.count d) (hl : h.getLast? = some d) (hl' : h'.getLast? = some d)
    (he : utf8 h ++ a = utf8 h' ++ b) : h = h' ∧ a = b := by
  have hcb : (utf8 h).count (UInt8.ofNat d.toNat) = (utf8 h').count (UInt8.ofNat d.toNat) := by
    rw [count_utf8 hd, count_utf8 hd, hc]
  obtain ⟨h1, h2⟩ := header_unique hcb (getLast?_utf8 hd hl) (getLast?_utf8 hd hl') he
  exact ⟨utf8_injective h1, h2⟩

/-! ### Byte offsets -/

/-- The length of a text in bytes. -/
def byteLen (s : List Char) : ℕ := (utf8 s).length

/-- The first `n` bytes of a text, when they end on a character boundary. -/
def sliceTo : ℕ → List Char → Option (List Char)
  | 0, _ => some []
  | _ + 1, [] => none
  | n + 1, c :: s => if c.utf8Size ≤ n + 1 then (sliceTo (n + 1 - c.utf8Size) s).map (c :: ·) else none
  termination_by _ s => s.length

@[simp] theorem byteLen_append (s t : List Char) : byteLen (s ++ t) = byteLen s + byteLen t := by
  simp [byteLen]

theorem byteLen_cons (c : Char) (s : List Char) : byteLen (c :: s) = c.utf8Size + byteLen s := by
  have h : utf8 (c :: s) = String.utf8EncodeChar c ++ utf8 s := rfl
  rw [byteLen, h, List.length_append, String.length_utf8EncodeChar]
  rfl

theorem sliceTo_append (s t : List Char) : sliceTo (byteLen s) (s ++ t) = some s := by
  induction s with
  | nil => simp [byteLen, sliceTo]
  | cons c s ih =>
    have hc : 0 < c.utf8Size := Char.utf8Size_pos c
    rw [byteLen_cons, show c.utf8Size + byteLen s = (c.utf8Size + byteLen s - 1) + 1 by omega,
      List.cons_append, sliceTo, if_pos (by omega),
      show c.utf8Size + byteLen s - 1 + 1 - c.utf8Size = byteLen s by omega, ih]
    rfl

end Utf8

end Text
