import Mathlib.Logic.Equiv.Defs
import Pywire.Lib.Text

/-!
# Wire: codecs that are read back exactly

A `Codec` writes values as bytes and reads them off the front of bytes; what it reads are the values it can write,
and it leaves what stands behind them.  A `Body` reads bytes as a whole.  Codecs are put together from bytes: pairs,
numbers, lists with a count or a terminator, and frames with a tag and a length.

* `Codec.write_unique`: bytes are written in one way only.
* `frame_valid`: a frame can be written exactly if its body can and its length is a 32-bit length.
* `writeAll_unique`: values of several kinds, one after the other, are cut up in one way only.
-/

namespace Wire

variable {α β : Type}

structure Codec (α : Type) where
  /-- The values that can be written and read back. -/
  Valid : α → Prop
  write : α → List UInt8
  read : List UInt8 → Option (α × List UInt8)
  read_eq_some : ∀ {b a rest}, read b = some (a, rest) ↔ Valid a ∧ b = write a ++ rest

structure Body (α : Type) where
  Valid : α → Prop
  write : α → List UInt8
  read : List UInt8 → Option α
  read_eq_some : ∀ {b a}, read b = some a ↔ Valid a ∧ b = write a

namespace Codec

theorem read_write (f : Codec α) {a : α} (h : f.Valid a) (rest : List UInt8) :
    f.read (f.write a ++ rest) = some (a, rest) :=
  f.read_eq_some.mpr ⟨h, rfl⟩

theorem write_unique (f : Codec α) {a a' : α} {rest rest' : List UInt8} (h : f.Valid a) (h' : f.Valid a')
    (heq : f.write a ++ rest = f.write a' ++ rest') : a = a' ∧ rest = rest' := by
  have hread := f.read_write h rest
  rw [heq, f.read_write h'] at hread
  obtain ⟨rfl, rfl⟩ := Prod.mk.inj (Option.some.inj hread)
  exact ⟨rfl, rfl⟩

/-! ### Putting codecs together -/

def byte : Codec UInt8 where
  Valid _ := True
  write b := [b]
  read
    | [] => none
    | b :: rest => some (b, rest)
  read_eq_some := by
    intro b a rest
    cases b with
    | nil => simp
    | cons c b => simp

/-- Bytes that are always the same. -/
def literal (bytes : List UInt8) : Codec Unit where
  Valid _ := True
  write _ := bytes
  read b := (b.dropPrefix? bytes).map fun rest => ((), rest)
  read_eq_some := by
    intro b a rest
    simp [Text.dropPrefix?_eq_some]

def pair (f : Codec α) (g : Codec β) : Codec (α × β) where
  Valid p := f.Valid p.1 ∧ g.Valid p.2
  write p := f.write p.1 ++ g.write p.2
  read b := do
    let (x, b) ← f.read b
    let (y, b) ← g.read b
    return ((x, y), b)
  read_eq_some := by
    rintro b ⟨x, y⟩ rest
    simp only [Option.bind_eq_bind, Option.bind_eq_some_iff, Option.pure_def, Option.some.injEq, Prod.exists,
      f.read_eq_some, g.read_eq_some, Prod.mk.injEq]
    constructor
    · rintro ⟨x, b, ⟨hx, rfl⟩, y, b, ⟨hy, rfl⟩, ⟨rfl, rfl⟩, rfl⟩
      exact ⟨⟨hx, hy⟩, by rw [List.append_assoc]⟩
    · rintro ⟨⟨hx, hy⟩, rfl⟩
      exact ⟨x, _, ⟨hx, by rw [List.append_assoc]⟩, y, _, ⟨hy, rfl⟩, ⟨rfl, rfl⟩, rfl⟩

/-- The same bytes, read as other values. -/
def map (f : Codec α) (e : α ≃ β) : Codec β where
  Valid y := f.Valid (e.symm y)
  write y := f.write (e.symm y)
  read b := (f.read b).map fun p => (e p.1, p.2)
  read_eq_some := by
    intro b y rest
    simp only [Option.map_eq_some_iff, Prod.exists, f.read_eq_some, Prod.mk.injEq]
    constructor
    · rintro ⟨x, b, ⟨hx, rfl⟩, rfl, rfl⟩
      simpa using hx
    · rintro ⟨hy, rfl⟩
      exact ⟨e.symm y, rest, ⟨hy, rfl⟩, e.apply_symm_apply y, rfl⟩

def restrict (f : Codec α) (P : α → Prop) [DecidablePred P] : Codec α where
  Valid x := f.Valid x ∧ P x
  write := f.write
  read b := (f.read b).filter fun p => P p.1
  read_eq_some := by
    intro b x rest
    simp only [Option.filter_eq_some_iff, f.read_eq_some, decide_eq_true_eq]
    tauto

/-- A head that follows from the value, and the value as the head tells. -/
def headed (f : Codec α) (key : β → α) (g : α → Codec β)
    (hkey : ∀ a b, f.Valid a → (g a).Valid b → key b = a) : Codec β where
  Valid y := f.Valid (key y) ∧ (g (key y)).Valid y
  write y := f.write (key y) ++ (g (key y)).write y
  read b := do
    let (x, b) ← f.read b
    (g x).read b
  read_eq_some := by
    intro b y rest
    simp only [Option.bind_eq_bind, Option.bind_eq_some_iff, Prod.exists, f.read_eq_some, (g _).read_eq_some]
    constructor
    · rintro ⟨x, b, ⟨hx, rfl⟩, hy, rfl⟩
      obtain rfl := hkey x y hx hy
      exact ⟨⟨hx, hy⟩, by rw [List.append_assoc]⟩
    · rintro ⟨⟨hx, hy⟩, rfl⟩
      exact ⟨key y, _, ⟨hx, by rw [List.append_assoc]⟩, hy, rfl⟩

/-- A value that has no end of its own, read off `n` bytes. -/
def exactly (n : ℕ) (f : Body α) : Codec α where
  Valid x := f.Valid x ∧ (f.write x).length = n
  write := f.write
  read b := if n ≤ b.length then (f.read (b.take n)).map fun x => (x, b.drop n) else none
  read_eq_some := by
    intro b x rest
    constructor
    · intro h
      split_ifs at h with hn
      simp only [Option.map_eq_some_iff, f.read_eq_some, Prod.mk.injEq] at h
      obtain ⟨x, ⟨hx, htake⟩, rfl, rfl⟩ := h
      rw [← htake, List.length_take, List.take_append_drop]
      exact ⟨⟨hx, by omega⟩, rfl⟩
    · rintro ⟨⟨hx, rfl⟩, rfl⟩
      have hread : f.read (f.write x) = some x := f.read_eq_some.mpr ⟨hx, rfl⟩
      simp [hread]

/-- The codec, with nothing behind the value. -/
def whole (f : Codec α) : Body α where
  Valid := f.Valid
  write := f.write
  read b := do
    let (x, rest) ← f.read b
    if rest = [] then some x else none
  read_eq_some := by
    intro b x
    simp only [Option.bind_eq_bind, Option.bind_eq_some_iff, Prod.exists, f.read_eq_some]
    constructor
    · rintro ⟨x, rest, ⟨hx, rfl⟩, h⟩
      split_ifs at h with hrest
      subst hrest
      obtain rfl := Option.some.inj h
      exact ⟨hx, List.append_nil _⟩
    · rintro ⟨hx, rfl⟩
      exact ⟨x, [], ⟨hx, (List.append_nil _).symm⟩, rfl⟩

end Codec

/-- All bytes there are. -/
def Body.all : Body (List UInt8) where
  Valid _ := True
  write b := b
  read b := some b
  read_eq_some := by simp

/-- A value and what stands behind it. -/
def Codec.andThen (f : Codec α) (g : Body β) : Body (α × β) where
  Valid p := f.Valid p.1 ∧ g.Valid p.2
  write p := f.write p.1 ++ g.write p.2
  read b := do
    let (x, b) ← f.read b
    let y ← g.read b
    return (x, y)
  read_eq_some := by
    rintro b ⟨x, y⟩
    simp only [Option.bind_eq_bind, Option.bind_eq_some_iff, Option.pure_def, Option.some.injEq, Prod.exists,
      f.read_eq_some, g.read_eq_some, Prod.mk.injEq]
    constructor
    · rintro ⟨x, b, ⟨hx, rfl⟩, y, ⟨hy, rfl⟩, rfl, rfl⟩
      exact ⟨⟨hx, hy⟩, rfl⟩
    · rintro ⟨⟨hx, hy⟩, rfl⟩
      exact ⟨x, _, ⟨hx, rfl⟩, y, ⟨hy, rfl⟩, rfl, rfl⟩

namespace Codec

/-! ### Numbers, big-endian -/

def be16Equiv : UInt8 × UInt8 ≃ UInt16 where
  toFun p := .ofNat (p.1.toNat * 256 + p.2.toNat)
  invFun n := (.ofNat (n.toNat / 256), .ofNat n.toNat)
  left_inv := by
    rintro ⟨a, b⟩
    have ha := a.toNat_lt
    have hb := b.toNat_lt
    refine Prod.ext (UInt8.toNat_inj.mp ?_) (UInt8.toNat_inj.mp ?_)
    · simp only [UInt8.toNat_ofNat', UInt16.toNat_ofNat']
      omega
    · simp only [UInt8.toNat_ofNat', UInt16.toNat_ofNat']
      omega
  right_inv := by
    intro n
    have hn := n.toNat_lt
    refine UInt16.toNat_inj.mp ?_
    simp only [UInt8.toNat_ofNat', UInt16.toNat_ofNat']
    omega

def be32Equiv : UInt16 × UInt16 ≃ UInt32 where
  toFun p := .ofNat (p.1.toNat * 65536 + p.2.toNat)
  invFun n := (.ofNat (n.toNat / 65536), .ofNat n.toNat)
  left_inv := by
    rintro ⟨a, b⟩
    have ha := a.toNat_lt
    have hb := b.toNat_lt
    refine Prod.ext (UInt16.toNat_inj.mp ?_) (UInt16.toNat_inj.mp ?_)
    · simp only [UInt16.toNat_ofNat', UInt32.toNat_ofNat']
      omega
    · simp only [UInt16.toNat_ofNat', UInt32.toNat_ofNat']
      omega
  right_inv := by
    intro n
    have hn := n.toNat_lt
    refine UInt32.toNat_inj.mp ?_
    simp only [UInt16.toNat_ofNat', UInt32.toNat_ofNat']
    omega

def signed16 : UInt16 ≃ Int16 := ⟨UInt16.toInt16, Int16.toUInt16, UInt16.toUInt16_toInt16, Int16.toInt16_toUInt16⟩

def signed32 : UInt32 ≃ Int32 := ⟨UInt32.toInt32, Int32.toUInt32, UInt32.toUInt32_toInt32, Int32.toInt32_toUInt32⟩

def u16 : Codec UInt16 := (byte.pair byte).map be16Equiv

def u32 : Codec UInt32 := (u16.pair u16).map be32Equiv

def i16 : Codec Int16 := u16.map signed16

def i32 : Codec Int32 := u32.map signed32

theorem u16_valid (n : UInt16) : u16.Valid n := ⟨trivial, trivial⟩

theorem u32_valid (n : UInt32) : u32.Valid n := ⟨u16_valid _, u16_valid _⟩

theorem i16_valid (n : Int16) : i16.Valid n := u16_valid _

theorem i32_valid (n : Int32) : i32.Valid n := u32_valid _

/-! ### Lists -/

def readTimes (f : Codec α) : ℕ → List UInt8 → Option (List α × List UInt8)
  | 0, b => some ([], b)
  | n + 1, b => do
    let (x, b) ← f.read b
    let (xs, b) ← readTimes f n b
    return (x :: xs, b)

theorem readTimes_eq_some (f : Codec α) {n : ℕ} {b rest : List UInt8} {xs : List α} :
    readTimes f n b = some (xs, rest) ↔
      (xs.length = n ∧ ∀ x ∈ xs, f.Valid x) ∧ b = xs.flatMap f.write ++ rest := by
  induction n generalizing b xs rest with
  | zero =>
    rw [readTimes, Option.some.injEq, Prod.mk.injEq]
    constructor
    · rintro ⟨rfl, rfl⟩
      simp
    · rintro ⟨⟨hlen, -⟩, rfl⟩
      obtain rfl := List.length_eq_zero_iff.mp hlen
      exact ⟨rfl, rfl⟩
  | succ n ih =>
    simp only [readTimes, Option.bind_eq_bind, Option.bind_eq_some_iff, Option.pure_def, Option.some.injEq,
      Prod.exists, Prod.mk.injEq, f.read_eq_some, ih]
    constructor
    · rintro ⟨x, b, ⟨hx, rfl⟩, xs, b, ⟨⟨rfl, hxs⟩, rfl⟩, rfl, rfl⟩
      exact ⟨⟨rfl, List.forall_mem_cons.mpr ⟨hx, hxs⟩⟩, by rw [List.flatMap_cons, List.append_assoc]⟩
    · rintro ⟨⟨hlen, hxs⟩, rfl⟩
      obtain ⟨x, xs, rfl⟩ := List.exists_cons_of_length_eq_add_one hlen
      obtain ⟨hx, hxs⟩ := List.forall_mem_cons.mp hxs
      exact ⟨x, _, ⟨hx, by rw [List.flatMap_cons, List.append_assoc]⟩, xs, rest,
        ⟨⟨Nat.succ.inj hlen, hxs⟩, rfl⟩, rfl, rfl⟩

/-- A list of known length. -/
def times (f : Codec α) (n : ℕ) : Codec (List α) where
  Valid xs := xs.length = n ∧ ∀ x ∈ xs, f.Valid x
  write xs := xs.flatMap f.write
  read := readTimes f n
  read_eq_some := f.readTimes_eq_some

theorem ofNat_of_toNatClampNeg {n : Int16} (h : 0 ≤ n) : Int16.ofNat n.toNatClampNeg = n := by
  have hint : 0 ≤ n.toInt := by
    rw [Int16.le_iff_toInt_le] at h
    exact h
  have hlt := n.toInt_lt
  refine Int16.toInt_inj.mp ?_
  have hclamp : n.toNatClampNeg = n.toInt.toNat := rfl
  rw [Int16.toInt_ofNat_of_lt (by omega)]
  omega

/-- A list behind its length, a signed 16-bit number. -/
def counted (f : Codec α) : Codec (List α) :=
  (i16.restrict (0 ≤ ·)).headed (fun xs => .ofNat xs.length) (fun n => f.times n.toNatClampNeg) fun n xs hn hxs => by
    rw [hxs.1, ofNat_of_toNatClampNeg hn.2]

theorem counted_valid {f : Codec α} {xs : List α} :
    f.counted.Valid xs ↔ xs.length ≤ 32767 ∧ ∀ x ∈ xs, f.Valid x := by
  show (i16.Valid _ ∧ 0 ≤ Int16.ofNat xs.length) ∧ xs.length = (Int16.ofNat xs.length).toNatClampNeg ∧ _ ↔ _
  constructor
  · rintro ⟨-, hlen, hxs⟩
    have hlt := Int16.toNatClampNeg_lt (Int16.ofNat xs.length)
    exact ⟨by omega, hxs⟩
  · rintro ⟨hlen, hxs⟩
    have hint : (Int16.ofNat xs.length).toInt = xs.length := Int16.toInt_ofNat_of_lt (by omega)
    have hnonneg : 0 ≤ Int16.ofNat xs.length := by
      rw [Int16.le_iff_toInt_le, hint]
      exact Int.natCast_nonneg _
    exact ⟨⟨i16_valid _, hnonneg⟩, (Int16.toNatClampNeg_ofNat_of_lt (by omega)).symm, hxs⟩

/-- Values up to a zero byte; `fuel` bounds the number of bytes. -/
def readUntil (f : Codec α) : ℕ → List UInt8 → Option (List α × List UInt8)
  | 0, _ => none
  | fuel + 1, b =>
    if b.head? = some 0 then some ([], b.tail)
    else do
      let (x, b) ← f.read b
      let (xs, b) ← readUntil f fuel b
      return (x :: xs, b)

/-- The value is written as bytes of which the first one is not zero. -/
def Starts (f : Codec α) (x : α) : Prop := ∃ c b, f.write x = c :: b ∧ c ≠ 0

theorem readUntil_eq_some (f : Codec α) (hne : ∀ x, f.Valid x → f.write x ≠ []) {fuel : ℕ} {b rest : List UInt8}
    {xs : List α} (hfuel : b.length ≤ fuel) :
    f.readUntil fuel b = some (xs, rest) ↔
      (∀ x ∈ xs, f.Valid x ∧ f.Starts x) ∧ b = xs.flatMap f.write ++ 0 :: rest := by
  induction fuel generalizing b xs rest with
  | zero =>
    obtain rfl := List.length_eq_zero_iff.mp (Nat.le_zero.mp hfuel)
    simp [readUntil]
  | succ fuel ih =>
    rw [readUntil]
    split_ifs with hzero
    · -- the terminator: no value starts with it
      obtain ⟨b, rfl⟩ : ∃ b', b = 0 :: b' := by
        cases b with
        | nil => simp at hzero
        | cons c b => exact ⟨b, by rw [Option.some.inj hzero]⟩
      rw [Option.some.injEq, Prod.mk.injEq, List.tail_cons]
      constructor
      · rintro ⟨rfl, rfl⟩
        simp
      · rintro ⟨hxs, heq⟩
        cases xs with
        | nil => exact ⟨rfl, (List.cons.inj heq).2⟩
        | cons x xs =>
          obtain ⟨-, c, b', hwrite, hc⟩ := hxs x (List.mem_cons_self ..)
          rw [List.flatMap_cons, hwrite] at heq
          exact absurd (List.cons.inj heq).1.symm hc
    · simp only [Option.bind_eq_bind, Option.bind_eq_some_iff, Option.pure_def, Option.some.injEq, Prod.exists,
        Prod.mk.injEq, f.read_eq_some]
      constructor
      · rintro ⟨x, b, ⟨hx, rfl⟩, xs, b', hread, rfl, rfl⟩
        obtain ⟨c, w, hwrite⟩ := List.exists_cons_of_ne_nil (hne x hx)
        rw [hwrite] at hzero hfuel ⊢
        simp only [List.cons_append, List.length_cons, List.length_append] at hfuel
        obtain ⟨hxs, rfl⟩ := (ih (by omega)).mp hread
        have hstarts : f.Starts x := ⟨c, w, hwrite, fun hc => hzero (by rw [hc]; rfl)⟩
        exact ⟨List.forall_mem_cons.mpr ⟨⟨hx, hstarts⟩, hxs⟩, by rw [List.flatMap_cons, hwrite, List.append_assoc]⟩
      · rintro ⟨hxs, rfl⟩
        cases xs with
        | nil => exact absurd rfl hzero
        | cons x xs =>
          obtain ⟨⟨hx, c, w, hwrite, hc⟩, hxs⟩ := List.forall_mem_cons.mp hxs
          rw [List.flatMap_cons, hwrite] at hfuel
          simp only [List.cons_append, List.length_cons, List.length_append] at hfuel
          refine ⟨x, xs.flatMap f.write ++ 0 :: rest, ⟨hx, ?_⟩, xs, rest, ?_, rfl, rfl⟩
          · rw [List.flatMap_cons, List.append_assoc]
          · refine (ih ?_).mpr ⟨hxs, rfl⟩
            simp only [List.length_append, List.length_cons]
            omega

/-- A list of values, none of which is written as nothing or starts with zero, and a zero byte behind it. -/
def terminated (f : Codec α) (hne : ∀ x, f.Valid x → f.write x ≠ []) : Codec (List α) where
  Valid xs := ∀ x ∈ xs, f.Valid x ∧ f.Starts x
  write xs := xs.flatMap f.write ++ [0]
  read b := f.readUntil b.length b
  read_eq_some := by
    intro b xs rest
    rw [f.readUntil_eq_some hne (Nat.le_refl _), List.append_assoc]
    rfl

/-- A text and a zero byte behind it. -/
def cstring : Codec (List UInt8) := byte.terminated fun _ _ => List.cons_ne_nil _ _

theorem cstring_valid {s : List UInt8} : cstring.Valid s ↔ 0 ∉ s := by
  show (∀ c ∈ s, True ∧ byte.Starts c) ↔ _
  constructor
  · intro h hmem
    obtain ⟨-, c, b, hwrite, hc⟩ := h 0 hmem
    exact hc (List.cons.inj hwrite).1.symm
  · intro h c hmem
    exact ⟨trivial, c, [], rfl, fun hc => h (hc ▸ hmem)⟩

theorem cstring_write (s : List UInt8) : cstring.write s = s ++ [0] := by
  show s.flatMap (fun c => [c]) ++ [0] = _
  rw [List.flatMap_singleton']

/-- A pair starts like its first part, if that is written as anything. -/
theorem starts_pair {f : Codec α} {g : Codec β} {p : α × β} (hne : f.write p.1 ≠ []) :
    (f.pair g).Starts p ↔ f.Starts p.1 := by
  obtain ⟨c, b, hwrite⟩ := List.exists_cons_of_ne_nil hne
  have hpair : (f.pair g).write p = c :: (b ++ g.write p.2) := by
    show f.write p.1 ++ g.write p.2 = _
    rw [hwrite, List.cons_append]
  rw [Starts, Starts, hpair, hwrite]
  simp

/-! ### Frames -/

theorem four_add_toNatClampNeg {n : Int32} (h : 4 ≤ n) : Int32.ofNat (4 + (n.toNatClampNeg - 4)) = n := by
  have hint : 4 ≤ n.toInt := by
    rw [Int32.le_iff_toInt_le] at h
    exact h
  have hlt := n.toInt_lt
  have hclamp : n.toNatClampNeg = n.toInt.toNat := rfl
  refine Int32.toInt_inj.mp ?_
  rw [Int32.toInt_ofNat_of_lt (by omega)]
  omega

/-- A body behind its tag and its length, which counts itself. -/
def frame (tag : List UInt8) (f : Body α) : Codec α :=
  ((literal tag).pair (i32.restrict (4 ≤ ·))).headed (fun x => ((), .ofNat (4 + (f.write x).length)))
    (fun p => exactly (p.2.toNatClampNeg - 4) f) fun p x hp hx => by
      rw [hx.2, four_add_toNatClampNeg hp.2.2]

theorem frame_write (tag : List UInt8) (f : Body α) (x : α) :
    (frame tag f).write x = tag ++ i32.write (.ofNat (4 + (f.write x).length)) ++ f.write x := rfl

theorem frame_valid {tag : List UInt8} {f : Body α} {x : α} :
    (frame tag f).Valid x ↔ f.Valid x ∧ 4 + (f.write x).length ≤ 2147483647 := by
  show (True ∧ i32.Valid _ ∧ 4 ≤ Int32.ofNat (4 + (f.write x).length)) ∧
    f.Valid x ∧ (f.write x).length = (Int32.ofNat (4 + (f.write x).length)).toNatClampNeg - 4 ↔ _
  constructor
  · rintro ⟨⟨-, -, -⟩, hx, hlen⟩
    have hlt := Int32.toNatClampNeg_lt (Int32.ofNat (4 + (f.write x).length))
    exact ⟨hx, by omega⟩
  · rintro ⟨hx, hlen⟩
    have hint : (Int32.ofNat (4 + (f.write x).length)).toInt = (4 + (f.write x).length : ℕ) :=
      Int32.toInt_ofNat_of_lt (by omega)
    have hclamp : (Int32.ofNat (4 + (f.write x).length)).toNatClampNeg = 4 + (f.write x).length :=
      Int32.toNatClampNeg_ofNat_of_lt (by omega)
    refine ⟨⟨trivial, i32_valid _, ?_⟩, hx, by omega⟩
    rw [Int32.le_iff_toInt_le, hint]
    have : (4 : Int32).toInt = 4 := by decide
    omega

/-! ### Frames one after the other -/

section Stream

variable {κ : Type} {γ : κ → Type}

/-- Values of several kinds, one after the other. -/
def writeAll (f : ∀ k, Codec (γ k)) (xs : List (Σ k, γ k)) : List UInt8 := xs.flatMap fun x => (f x.1).write x.2

/-- **Bytes are cut up in one way only**, if the first byte of a value tells its kind. -/
theorem writeAll_unique {f : ∀ k, Codec (γ k)} {tag : κ → UInt8} (htag : Function.Injective tag)
    (hhead : ∀ k x, ∃ b, (f k).write x = tag k :: b) {xs ys : List (Σ k, γ k)}
    (hxs : ∀ x ∈ xs, (f x.1).Valid x.2) (hys : ∀ y ∈ ys, (f y.1).Valid y.2) (h : writeAll f xs = writeAll f ys) :
    xs = ys := by
  have hcons : ∀ (x : Σ k, γ k) (xs : List (Σ k, γ k)), ∃ b, writeAll f (x :: xs) = tag x.1 :: b := by
    intro x xs
    obtain ⟨b, hb⟩ := hhead x.1 x.2
    exact ⟨b ++ writeAll f xs, by rw [writeAll, List.flatMap_cons, hb]; rfl⟩
  induction xs generalizing ys with
  | nil =>
    cases ys with
    | nil => rfl
    | cons y ys =>
      obtain ⟨b, hb⟩ := hcons y ys
      rw [hb] at h
      cases h
  | cons x xs ih =>
    cases ys with
    | nil =>
      obtain ⟨b, hb⟩ := hcons x xs
      rw [hb] at h
      cases h
    | cons y ys =>
      obtain ⟨b, hb⟩ := hcons x xs
      obtain ⟨b', hb'⟩ := hcons y ys
      obtain ⟨hx, htail⟩ := List.forall_mem_cons.mp hxs
      obtain ⟨hy, htail'⟩ := List.forall_mem_cons.mp hys
      have hkind : x.1 = y.1 := by
        rw [hb, hb'] at h
        exact htag (List.cons.inj h).1
      obtain ⟨k, a⟩ := x
      obtain ⟨k', a'⟩ := y
      obtain rfl : k = k' := hkind
      obtain ⟨rfl, hrest⟩ := (f k).write_unique hx hy h
      rw [ih htail htail' hrest]

end Stream

end Codec

end Wire
