import Pywire.Lib.Decimal
import Pywire.Scram.Exchange

/-!
# Verifier: the text form of a stored verifier

`PyScramVerifier.parse` reads the text that PostgreSQL keeps in `pg_authid.rolpassword`, and `verifierText` is that
text.  No separator occurs in a field, so the first matches are the right ones.

* `PyScramVerifier.parse_eq_ok`: what is parsed as a verifier are its texts, one for each spelling of the iterations.
* `PyScramVerifier.parse_roundTrip`: **Main result** — texts and verifiers determine each other.
-/

namespace Pywire.Scram

namespace PyScramVerifier

def invalidText : String := "not a SCRAM-SHA-256$<iterations>:<salt>$<StoredKey>:<ServerKey> verifier"

/-- `map_err(|_| INVALID)`, and the error of a missing field: it never echoes the input. -/
def orInvalid {α : Type} : Option α → Except String α
  | some a => .ok a
  | none => .error invalidText

structure Fields where
  iterations : Str
  salt : Str
  storedKey : Str
  serverKey : Str

/-- The four fields of a text, split at the first separators. -/
def fields (text : Str) : Option Fields := do
  let rest ← strip "SCRAM-SHA-256$" text
  let (params, keys) ← Text.splitOnce '$' rest
  let (iterations, salt) ← Text.splitOnce ':' params
  let (storedKey, serverKey) ← Text.splitOnce ':' keys
  return ⟨iterations, salt, storedKey, serverKey⟩

def parse (text : Str) : Except String PyScramVerifier := do
  let f ← orInvalid (fields text)
  let iterations ← orInvalid (Decimal.parseUnsigned 4294967296 f.iterations)
  let salt ← orInvalid (Base64.decode f.salt)
  let storedKey ← orInvalid (Base64.decode f.storedKey)
  let serverKey ← orInvalid (Base64.decode f.serverKey)
  PyScramVerifier.new (.ofNat iterations) salt storedKey serverKey

/-- The text form of a verifier, with a spelling of its iterations. -/
def verifierText (iterations : Str) (salt storedKey serverKey : Bytes) : Str :=
  "SCRAM-SHA-256$".toList ++ iterations ++ ':' :: Base64.encode salt ++ '$' :: Base64.encode storedKey ++
    ':' :: Base64.encode serverKey

/-! ### The fields -/

/-- Fields without separators are what splitting gives back. -/
theorem fields_eq_some {text iterations salt storedKey serverKey : Str} :
    fields text = some ⟨iterations, salt, storedKey, serverKey⟩ ↔
      text = "SCRAM-SHA-256$".toList ++ iterations ++ ':' :: salt ++ '$' :: storedKey ++ ':' :: serverKey ∧
        ':' ∉ iterations ∧ ':' ∉ storedKey ∧ '$' ∉ iterations ++ ':' :: salt := by
  constructor
  · intro h
    simp only [fields, Option.bind_eq_bind, Option.bind_eq_some_iff, Option.pure_def, Option.some.injEq,
      Fields.mk.injEq] at h
    obtain ⟨rest, hrest, ⟨params, keys⟩, hsplit, ⟨_, _⟩, hparams, ⟨_, _⟩, hkeys, rfl, rfl, rfl, rfl⟩ := h
    obtain ⟨rfl, hparamsFree⟩ := Text.splitOnce_eq_some.mp hsplit
    obtain ⟨rfl, hiterations⟩ := Text.splitOnce_eq_some.mp hparams
    obtain ⟨rfl, hstoredKey⟩ := Text.splitOnce_eq_some.mp hkeys
    rw [strip_eq_some] at hrest
    refine ⟨?_, hiterations, hstoredKey, hparamsFree⟩
    rw [hrest]
    simp
  · rintro ⟨rfl, hiterations, hstoredKey, hparams⟩
    have hstrip : strip "SCRAM-SHA-256$"
        ("SCRAM-SHA-256$".toList ++ iterations ++ ':' :: salt ++ '$' :: storedKey ++ ':' :: serverKey) =
        some ((iterations ++ ':' :: salt) ++ '$' :: (storedKey ++ ':' :: serverKey)) := by
      rw [strip_eq_some]
      simp
    simp only [fields, hstrip, Option.bind_eq_bind, Option.bind_some, Text.splitOnce_append hparams,
      Text.splitOnce_append hiterations, Text.splitOnce_append hstoredKey, Option.pure_def]

@[simp] theorem orInvalid_bind_eq_ok {α β : Type} {o : Option α} {f : α → Except String β} {b : β} :
    (orInvalid o >>= f) = .ok b ↔ ∃ a, o = some a ∧ f a = .ok b := by
  cases o with
  | none => simp [orInvalid, bind, Except.bind]
  | some a => simp [orInvalid, bind, Except.bind]

theorem new_eq_ok_iff {iterations : UInt32} {salt storedKey serverKey : Bytes} {v : PyScramVerifier} :
    PyScramVerifier.new iterations salt storedKey serverKey = .ok v ↔
      v.iterations = iterations ∧ v.salt = salt ∧ v.storedKey = storedKey ∧ v.serverKey = serverKey := by
  constructor
  · intro h
    rw [PyScramVerifier.new] at h
    split_ifs at h
    obtain rfl := Except.ok.inj h
    exact ⟨rfl, rfl, rfl, rfl⟩
  · rintro ⟨rfl, rfl, rfl, rfl⟩
    exact new_eq_ok v.iterations_ne v.salt_ne v.storedKey_length v.serverKey_length

/-! ### Texts and verifiers -/

/-- No separator occurs in a spelling of a number or in an encoding. -/
theorem separators_free {spelling : Str} {n : ℕ} (h : Decimal.Spells spelling n) (salt storedKey : Bytes) :
    ':' ∉ spelling ∧ ':' ∉ Base64.encode storedKey ∧ '$' ∉ spelling ++ ':' :: Base64.encode salt := by
  have hcolon : ':' ∉ spelling := h.notMem (by decide) (by decide)
  have hdollar : '$' ∉ spelling := h.notMem (by decide) (by decide)
  have hsalt : '$' ∉ Base64.encode salt := Base64.notMem_encode (by decide) salt
  exact ⟨hcolon, Base64.notMem_encode (by decide) storedKey, by simp [hdollar, hsalt]⟩

/-- **What is parsed** as a verifier are its texts. -/
theorem parse_eq_ok {text : Str} {v : PyScramVerifier} :
    parse text = .ok v ↔ ∃ spelling, Decimal.Spells spelling v.iterations.toNat ∧
      text = verifierText spelling v.salt v.storedKey v.serverKey := by
  simp only [parse, orInvalid_bind_eq_ok, Decimal.parseUnsigned_eq_some, Base64.decode_eq_some, new_eq_ok_iff]
  constructor
  · rintro ⟨⟨iterations, _, _, _⟩, hfields, n, ⟨hspells, hlt⟩, _, rfl, _, rfl, _, rfl, hv, rfl, rfl, rfl⟩
    obtain ⟨rfl, -⟩ := fields_eq_some.mp hfields
    have hn : v.iterations.toNat = n := by
      rw [hv]
      exact UInt32.toNat_ofNat_of_lt' hlt
    exact ⟨iterations, hn ▸ hspells, rfl⟩
  · rintro ⟨spelling, hspells, rfl⟩
    refine ⟨⟨spelling, _, _, _⟩, fields_eq_some.mpr ⟨rfl, separators_free hspells _ _⟩, v.iterations.toNat,
      ⟨hspells, v.iterations.toNat_lt⟩, _, rfl, _, rfl, _, rfl, ?_, rfl, rfl, rfl⟩
    exact UInt32.ofNat_toNat.symm

/-- **Round trip.**  The text of four values that make a verifier is parsed as these values; what is parsed is a
verifier with its iterations, salt and keys; and two texts of one verifier differ in the spelling of the iterations
only. -/
theorem parse_roundTrip :
    (∀ (iterations : UInt32) (salt storedKey serverKey : Bytes), iterations ≠ 0 → salt ≠ [] →
      storedKey.length = 32 → serverKey.length = 32 →
      ∃ v, parse (verifierText (Nat.toDigits 10 iterations.toNat) salt storedKey serverKey) = .ok v ∧
        v.iterations = iterations ∧ v.salt = salt ∧ v.storedKey = storedKey ∧ v.serverKey = serverKey) ∧
    (∀ text v, parse text = .ok v →
      1 ≤ v.iterations.toNat ∧ v.salt ≠ [] ∧ v.storedKey.length = 32 ∧ v.serverKey.length = 32) ∧
    ∀ text text' v, parse text = .ok v → parse text' = .ok v →
      ∃ spelling spelling', Decimal.Spells spelling v.iterations.toNat ∧
        Decimal.Spells spelling' v.iterations.toNat ∧
        text = verifierText spelling v.salt v.storedKey v.serverKey ∧
        text' = verifierText spelling' v.salt v.storedKey v.serverKey := by
  refine ⟨fun iterations salt storedKey serverKey hi hs hk hk' => ?_, fun text v _ => ?_, fun text text' v h h' => ?_⟩
  · refine ⟨⟨iterations, salt, storedKey, serverKey, hi, hs, hk, hk'⟩, ?_, rfl, rfl, rfl, rfl⟩
    exact parse_eq_ok.mpr ⟨_, Decimal.spells_toDigits _, rfl⟩
  · refine ⟨Nat.one_le_iff_ne_zero.mpr fun hzero => v.iterations_ne ?_, v.salt_ne, v.storedKey_length,
      v.serverKey_length⟩
    exact UInt32.toNat_inj.mp hzero
  · obtain ⟨spelling, hspells, rfl⟩ := parse_eq_ok.mp h
    obtain ⟨spelling', hspells', rfl⟩ := parse_eq_ok.mp h'
    exact ⟨spelling, spelling', hspells, hspells', rfl, rfl⟩

/-- 4096 iterations, written in two ways. -/
theorem parse_roundTrip_spellings :
    let keys : Bytes × Bytes := (List.replicate 32 7, List.replicate 32 9)
    (∃ v, parse (verifierText "4096".toList [1, 2] keys.1 keys.2) = .ok v ∧
      v.iterations = 4096 ∧ v.salt = [1, 2] ∧ v.storedKey = keys.1 ∧ v.serverKey = keys.2) ∧
    ∃ spelling spelling', Decimal.Spells spelling 4096 ∧ Decimal.Spells spelling' 4096 ∧
      verifierText "4096".toList [1, 2] keys.1 keys.2 = verifierText spelling [1, 2] keys.1 keys.2 ∧
      verifierText "+04096".toList [1, 2] keys.1 keys.2 = verifierText spelling' [1, 2] keys.1 keys.2 := by
  let v : PyScramVerifier := ⟨4096, [1, 2], List.replicate 32 7, List.replicate 32 9, by decide, by decide, by decide,
    by decide⟩
  have hplain : parse (verifierText "4096".toList [1, 2] v.storedKey v.serverKey) = .ok v :=
    parse_eq_ok.mpr ⟨"4096".toList, ⟨[], 0, .inl rfl, by decide⟩, rfl⟩
  have hspelled : parse (verifierText "+04096".toList [1, 2] v.storedKey v.serverKey) = .ok v :=
    parse_eq_ok.mpr ⟨"+04096".toList, ⟨['+'], 1, .inr rfl, by decide⟩, rfl⟩
  exact ⟨parse_roundTrip.1 4096 [1, 2] v.storedKey v.serverKey (by decide) (by decide) (by decide) (by decide),
    parse_roundTrip.2.2 _ _ v hplain hspelled⟩

end PyScramVerifier

end Pywire.Scram
