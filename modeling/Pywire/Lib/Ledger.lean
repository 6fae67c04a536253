import Mathlib.Data.List.Induction
import Mathlib.Logic.Function.Basic

/-!
# Ledger: named objects that are opened, used and closed

A history of `Act`s over names `ν` and owners `τ`.  An object is known by the position at which it was opened;
a close names it by its name, may fail, and can then be tried again.  `held` is what a history leaves open.

`Orderly` is the discipline: a name is opened only while it is free, and closed or used only by its owner while
it is held.  An orderly history

* `Orderly.closed_final`: never closes or uses an object again once a close of it succeeded;
* `Orderly.tried_or_held`: has tried to close every object it opened, except those it still holds untried.
-/

namespace Ledger

variable {ν τ : Type}

inductive Act (ν τ : Type) where
  | opened (n : ν) (owner : τ)
  | closed (n : ν) (owner : τ) (ok : Bool)
  | used (pos : ℕ) (owner : τ)
  | other
  deriving DecidableEq

/-- An open object: where it was opened, by whom, and whether a close of it has been tried. -/
structure Holding (τ : Type) where
  pos : ℕ
  owner : τ
  tried : Bool

/-! ### Lists that grow at the end -/

theorem getElem?_concat_cases {acts : List (Act ν τ)} {a b : Act ν τ} {i : ℕ} (h : (acts ++ [a])[i]? = some b) :
    i < acts.length ∧ acts[i]? = some b ∨ i = acts.length ∧ b = a := by
  rcases Nat.lt_trichotomy i acts.length with hi | rfl | hi
  · exact .inl ⟨hi, by rwa [List.getElem?_append_left hi] at h⟩
  · exact .inr ⟨rfl, by simpa using h.symm⟩
  · rw [List.getElem?_eq_none (by simp; omega)] at h
    cases h

theorem getElem?_concat_of_some {acts : List (Act ν τ)} {a b : Act ν τ} {i : ℕ} (h : acts[i]? = some b) :
    (acts ++ [a])[i]? = some b := by
  obtain ⟨hi, -⟩ := List.getElem?_eq_some_iff.mp h
  rwa [List.getElem?_append_left hi]

/-! ### Objects held -/

variable [DecidableEq ν]

def step (h : ν → Option (Holding τ)) (pos : ℕ) : Act ν τ → ν → Option (Holding τ)
  | .opened n owner => Function.update h n (some ⟨pos, owner, false⟩)
  | .closed n _ true => Function.update h n none
  | .closed n _ false => Function.update h n ((h n).map fun x => { x with tried := true })
  | .used _ _ => h
  | .other => h

/-- The objects a history leaves open, by name. -/
def held (acts : List (Act ν τ)) : ν → Option (Holding τ) :=
  acts.zipIdx.foldl (fun h a => step h a.2 a.1) fun _ => none

/-- What the discipline asks of one act. -/
def Fits (h : ν → Option (Holding τ)) : Act ν τ → Prop
  | .opened n _ => h n = none
  | .closed n owner _ => ∃ x, h n = some x ∧ x.owner = owner
  | .used pos owner => ∃ n x, h n = some x ∧ x.pos = pos ∧ x.owner = owner
  | .other => True

def Orderly (acts : List (Act ν τ)) : Prop :=
  ∀ i a, acts[i]? = some a → Fits (held (acts.take i)) a

variable {acts : List (Act ν τ)} {a : Act ν τ} {n m : ν} {x : Holding τ} {owner : τ} {k j : ℕ}

@[simp] theorem held_nil : held ([] : List (Act ν τ)) n = none := rfl

@[simp] theorem held_concat (acts : List (Act ν τ)) (a : Act ν τ) :
    held (acts ++ [a]) = step (held acts) acts.length a := by
  simp [held, List.zipIdx_append]

theorem orderly_nil : Orderly ([] : List (Act ν τ)) := by
  intro i a h
  simp at h

theorem orderly_concat : Orderly (acts ++ [a]) ↔ Orderly acts ∧ Fits (held acts) a := by
  constructor
  · intro h
    refine ⟨fun i b hb => ?_, ?_⟩
    · obtain ⟨hi, -⟩ := List.getElem?_eq_some_iff.mp hb
      have := h i b (getElem?_concat_of_some hb)
      rwa [List.take_append_of_le_length (Nat.le_of_lt hi)] at this
    · have := h acts.length a (by simp)
      rwa [List.take_left] at this
  · rintro ⟨h, ha⟩ i b hb
    rcases getElem?_concat_cases hb with ⟨hi, hb⟩ | ⟨rfl, rfl⟩
    · rw [List.take_append_of_le_length (Nat.le_of_lt hi)]
      exact h i b hb
    · rwa [List.take_left]

/-! ### What `held` remembers -/

/-- A held object was opened under its name, and neither opened again nor closed since. -/
theorem held_eq_some (h : held acts n = some x) :
    acts[x.pos]? = some (.opened n x.owner) ∧ ∀ i > x.pos, ∀ owner : τ,
      acts[i]? ≠ some (.opened n owner) ∧ acts[i]? ≠ some (.closed n owner true) := by
  induction acts using List.reverseRecOn generalizing x with
  | nil => cases h
  | append_singleton acts a ih =>
    rw [held_concat] at h
    -- an act that leaves position and owner of `n` alone, and is neither an opening nor a closing of it
    have keep : ∀ y, held acts n = some y → y.pos = x.pos → y.owner = x.owner →
        (∀ owner : τ, a ≠ .opened n owner ∧ a ≠ .closed n owner true) →
        (acts ++ [a])[x.pos]? = some (.opened n x.owner) ∧ ∀ i > x.pos, ∀ owner : τ,
          (acts ++ [a])[i]? ≠ some (.opened n owner) ∧ (acts ++ [a])[i]? ≠ some (.closed n owner true) := by
      intro y hy hpos howner ha
      obtain ⟨h1, h2⟩ := ih hy
      rw [hpos, howner] at h1
      refine ⟨getElem?_concat_of_some h1, fun i hi owner => ⟨fun he => ?_, fun he => ?_⟩⟩
      · rcases getElem?_concat_cases he with ⟨-, he⟩ | ⟨-, rfl⟩
        · exact (h2 i (by omega) owner).1 he
        · exact (ha owner).1 rfl
      · rcases getElem?_concat_cases he with ⟨-, he⟩ | ⟨-, rfl⟩
        · exact (h2 i (by omega) owner).2 he
        · exact (ha owner).2 rfl
    cases a with
    | opened m owner =>
      by_cases hm : n = m
      · subst hm
        obtain rfl : (⟨acts.length, owner, false⟩ : Holding τ) = x := by simpa [step] using h
        refine ⟨by simp, fun i hi owner' => ?_⟩
        have hlen : (acts ++ [Act.opened n owner]).length ≤ i := by
          rw [List.length_append]
          exact hi
        rw [List.getElem?_eq_none hlen]
        simp
      · refine keep x (by simpa [step, hm] using h) rfl rfl fun _ => ⟨fun he => hm ?_, (by simp)⟩
        injection he with he
        exact he.symm
    | closed m owner ok =>
      cases ok with
      | true =>
        by_cases hm : n = m
        · simp [step, hm] at h
        · refine keep x (by simpa [step, hm] using h) rfl rfl fun _ => ⟨(by simp), fun he => hm ?_⟩
          injection he with he
          exact he.symm
      | false =>
        by_cases hm : n = m
        · subst hm
          obtain ⟨y, hy, rfl⟩ : ∃ y, held acts n = some y ∧ { y with tried := true } = x := by
            simpa [step] using h
          exact keep y hy rfl rfl fun _ => ⟨(by simp), (by simp)⟩
        · exact keep x (by simpa [step, hm] using h) rfl rfl fun _ => ⟨(by simp), (by simp)⟩
    | used pos owner => exact keep x h rfl rfl fun _ => ⟨(by simp), (by simp)⟩
    | other => exact keep x h rfl rfl fun _ => ⟨(by simp), (by simp)⟩

/-- The last thing that happened to a held name is no close that succeeded. -/
theorem held_not_closed (h : held acts n = some x) (hj : acts[j]? = some (.closed n owner true)) :
    ∃ i > j, ∃ owner : τ, acts[i]? = some (.opened n owner) := by
  obtain ⟨hopened, hlater⟩ := held_eq_some h
  refine ⟨x.pos, ?_, x.owner, hopened⟩
  by_contra hle
  rcases Nat.lt_or_eq_of_le (Nat.le_of_not_lt hle) with hlt | rfl
  · exact (hlater j hlt owner).2 hj
  · rw [hopened] at hj
    cases hj

/-- A free name stays free until it is opened. -/
theorem step_eq_none {h : ν → Option (Holding τ)} (hn : h n = none) (ha : ∀ owner : τ, a ≠ .opened n owner) (pos : ℕ) :
    step h pos a n = none := by
  cases a with
  | opened m owner =>
    have hm : n ≠ m := by
      rintro rfl
      exact ha owner rfl
    simpa [step, hm] using hn
  | closed m owner ok =>
    by_cases hm : n = m
    · subst hm
      cases ok <;> simp [step, hn]
    · cases ok <;> simpa [step, hm] using hn
  | used pos owner => exact hn
  | other => exact hn

theorem held_pos_lt (h : held acts n = some x) : x.pos < acts.length :=
  (List.getElem?_eq_some_iff.mp (held_eq_some h).1).1

/-- Objects held under two names are two objects. -/
theorem held_pos_inj {y : Holding τ} (hx : held acts n = some x) (hy : held acts m = some y)
    (h : x.pos = y.pos) : n = m := by
  have h1 := (held_eq_some hx).1
  rw [h, (held_eq_some hy).1] at h1
  injection h1 with h1
  injection h1 with h1
  exact h1.symm

/-! ### The objects behind the names -/

/-- Position and owner of the object held under a name. -/
def object (acts : List (Act ν τ)) (n : ν) : Option (ℕ × τ) := (held acts n).map fun x => (x.pos, x.owner)

/-- An act that leaves every object where it is: a use, a failed close, or anything else. -/
def Act.keeps : Act ν τ → Bool
  | .opened _ _ => false
  | .closed _ _ ok => !ok
  | _ => true

theorem object_eq_some : object acts n = some (k, owner) ↔ ∃ x, held acts n = some x ∧ x.pos = k ∧ x.owner = owner := by
  simp [object]

theorem object_eq_none : object acts n = none ↔ held acts n = none := by
  simp [object]

theorem map_owner_held (acts : List (Act ν τ)) (n : ν) :
    (held acts n).map Holding.owner = (object acts n).map Prod.snd := by
  rw [object, Option.map_map]
  rfl

theorem object_concat_of_keeps (ha : a.keeps = true) : object (acts ++ [a]) n = object acts n := by
  rw [object, held_concat]
  cases a with
  | opened m o => cases ha
  | closed m o ok =>
    cases ok with
    | true => cases ha
    | false =>
      by_cases hm : n = m
      · subst hm
        cases hx : held acts n <;> simp [step, object, hx]
      · simp [step, object, hm]
  | used pos o => rfl
  | other => rfl

@[simp] theorem object_concat_opened (m : ν) (o : τ) :
    object (acts ++ [.opened m o]) n = if n = m then some (acts.length, o) else object acts n := by
  by_cases hm : n = m
  · subst hm
    simp [object, step]
  · simp [object, step, hm]

@[simp] theorem object_concat_closed (m : ν) (o : τ) :
    object (acts ++ [.closed m o true]) n = if n = m then none else object acts n := by
  by_cases hm : n = m
  · subst hm
    simp [object, step]
  · simp [object, step, hm]

/-! ### Orderly histories -/

/-- **A close that succeeded is final**: the object is neither used nor closed again, unless its name was opened
anew in between. -/
theorem Orderly.closed_final {owner' : τ} (ho : Orderly acts) (hk : acts[k]? = some (.opened n owner))
    (hkj : k < j) (hj : acts[j]? = some (.closed n owner' true)) (l : ℕ) (hl : j < l) (o : τ) :
    acts[l]? ≠ some (.used k o) ∧
      ∀ ok, acts[l]? = some (.closed n o ok) → ∃ i, j < i ∧ i < l ∧ ∃ o', acts[i]? = some (.opened n o') := by
  have take_of : ∀ {i : ℕ} {b : Act ν τ}, i < l → acts[i]? = some b → (acts.take l)[i]? = some b := by
    intro i b hi hb
    rwa [List.getElem?_take_of_lt hi]
  constructor
  · intro hu
    obtain ⟨m, x, hm, hpos, -⟩ := ho l _ hu
    obtain ⟨h1, h2⟩ := held_eq_some hm
    rw [hpos, take_of (by omega) hk] at h1
    injection h1 with h1
    injection h1 with h1
    subst h1
    exact (h2 j (by omega) owner').2 (take_of hl hj)
  · intro ok hc
    obtain ⟨x, hx, -⟩ := ho l _ hc
    obtain ⟨h1, h2⟩ := held_eq_some hx
    have hlt : x.pos < l := by
      have := held_pos_lt hx
      rw [List.length_take] at this
      omega
    refine ⟨x.pos, ?_, hlt, x.owner, ?_⟩
    · by_contra hle
      rcases Nat.lt_or_eq_of_le (Nat.le_of_not_lt hle) with h3 | h3
      · exact (h2 j h3 owner').2 (take_of hl hj)
      · rw [h3, take_of hl hj] at h1
        cases h1
    · rwa [List.getElem?_take_of_lt hlt] at h1

/-- **Nothing is forgotten**: every object opened has seen a close by its owner, or is still held untried. -/
theorem Orderly.tried_or_held (ho : Orderly acts) (hk : acts[k]? = some (.opened n owner)) :
    (∃ j ok, k < j ∧ acts[j]? = some (.closed n owner ok) ∧
      ∀ i, k < i → i < j → ∀ o, acts[i]? ≠ some (.opened n o)) ∨ held acts n = some ⟨k, owner, false⟩ := by
  induction acts using List.reverseRecOn with
  | nil => simp at hk
  | append_singleton acts a ih =>
    obtain ⟨ho, hfit⟩ := orderly_concat.mp ho
    rcases getElem?_concat_cases hk with ⟨hlt, hk⟩ | ⟨rfl, rfl⟩
    · rcases ih ho hk with ⟨j, ok, hkj, hj, hbetween⟩ | hheld
      · obtain ⟨hjl, -⟩ := List.getElem?_eq_some_iff.mp hj
        refine .inl ⟨j, ok, hkj, getElem?_concat_of_some hj, fun i hki hij o => ?_⟩
        rw [List.getElem?_append_left (by omega)]
        exact hbetween i hki hij o
      · rw [held_concat]
        cases a with
        | opened m o =>
          have hne : n ≠ m := by
            rintro rfl
            rw [Fits, hheld] at hfit
            cases hfit
          exact .inr (by simpa [step, hne] using hheld)
        | closed m o ok =>
          by_cases hm : n = m
          · subst hm
            obtain ⟨x, hx, rfl⟩ := hfit
            obtain rfl : (⟨k, owner, false⟩ : Holding τ) = x := by
              rw [hheld] at hx
              exact Option.some.inj hx
            refine .inl ⟨acts.length, ok, hlt, by simp, fun i hki hij o => ?_⟩
            rw [List.getElem?_append_left hij]
            exact ((held_eq_some hheld).2 i hki o).1
          · refine .inr ?_
            cases ok <;> simpa [step, hm] using hheld
        | used pos o => exact .inr hheld
        | other => exact .inr hheld
    · exact .inr (by simp [step])

/-! ### Closing everything that is held -/

/-- While the names are gone through: only they can hold an untried object, and `owners` knows whose it is. -/
structure Sweep (h : ν → Option (Holding τ)) (owners : ν → Option τ) (names : List ν) : Prop where
  untried : ∀ n x, h n = some x → x.tried = true ∨ n ∈ names
  owner : ∀ n ∈ names, (h n).map Holding.owner = owners n

section Sweep

variable {h : ν → Option (Holding τ)} {owners : ν → Option τ} {names : List ν}

omit [DecidableEq ν] in
/-- A name without an object. -/
theorem Sweep.skip (hs : Sweep h owners (n :: names)) (hn : owners n = none) : Sweep h owners names := by
  refine ⟨fun m x hx => ?_, fun m hm => hs.owner m (List.mem_cons_of_mem _ hm)⟩
  rcases hs.untried m x hx with ht | hm
  · exact .inl ht
  rcases List.mem_cons.mp hm with rfl | hm
  · have := hs.owner m (List.mem_cons_self ..)
    rw [hx, hn] at this
    cases this
  · exact .inr hm

omit [DecidableEq ν] in
theorem Sweep.fits (hs : Sweep h owners (n :: names)) (hn : owners n = some owner) :
    ∃ x, h n = some x ∧ x.owner = owner := by
  have := hs.owner n (List.mem_cons_self ..)
  rw [hn] at this
  exact Option.map_eq_some_iff.mp this

/-- A name whose object was closed, or was tried to be. -/
theorem Sweep.closed (hs : Sweep h owners (n :: names)) (hnd : n ∉ names) (pos : ℕ) (owner : τ) (ok : Bool) :
    Sweep (step h pos (.closed n owner ok)) owners names := by
  have hstep : ∀ m, m ≠ n → step h pos (.closed n owner ok) m = h m := by
    intro m hm
    cases ok <;> simp [step, hm]
  have hself : ∀ x, step h pos (.closed n owner ok) n = some x → x.tried = true := by
    intro x hx
    cases ok with
    | true => simp [step] at hx
    | false =>
      obtain ⟨y, -, rfl⟩ : ∃ y, h n = some y ∧ { y with tried := true } = x := by simpa [step] using hx
      rfl
  refine ⟨fun m x hx => ?_, fun m hm => ?_⟩
  · by_cases hmn : m = n
    · subst hmn
      exact .inl (hself x hx)
    · rw [hstep m hmn] at hx
      rcases hs.untried m x hx with ht | hm
      · exact .inl ht
      · exact .inr ((List.mem_cons.mp hm).resolve_left hmn)
  · have hmn : m ≠ n := fun he => hnd (he ▸ hm)
    rw [hstep m hmn]
    exact hs.owner m (List.mem_cons_of_mem _ hm)

omit [DecidableEq ν] in
theorem Sweep.done (hs : Sweep h owners []) (n : ν) (x : Holding τ) (hx : h n = some x) : x.tried = true :=
  (hs.untried n x hx).resolve_right (List.not_mem_nil)

end Sweep

end Ledger
