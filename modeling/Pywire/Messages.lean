import Mathlib.Data.Char
import Mathlib.Data.List.Lex
import Mathlib.Data.Set.List
import Pywire.ErrorClasses
import Pywire.Lib.Wire

/-!
# Messages: the message classes and their frames

The classes of `pywire.messages` encode a message as a frame and decode a message from bytes.  pgwire's codec is a
`PgMessage` over the `Layout` of the message, which says how the frame of the protocol carries it; how pgwire reads
texts is a `TextDecoder`.

* `Binding.roundTrips_iff`: a message of a class comes back exactly if a frame can carry it, pgwire takes its length
  and reads it again.
* `Binding.reproduces_iff`: bytes that are decoded are encoded again exactly if they are one frame of a message.
* `Binding.decode_append`: decoding loses what stands behind the frame.
-/

namespace Pywire.Messages

open Text (utf8)
open Wire (Codec Body)

abbrev Str := List Char

/-! ### pgwire -/

/-- How pgwire reads a text off the wire: strictly, or with a replacement for what is not UTF-8. -/
structure TextDecoder where
  decode : Bytes → Option Str
  decode_utf8 : ∀ s, decode (utf8 s) = some s
  nul_mem : ∀ {b s}, decode b = some s → '\x00' ∈ s → 0 ∈ b
  eq_nil : ∀ {b}, decode b = some [] → b = []

/-- The frame that carries a message: its tag, its body with texts as bytes, and the values between. -/
structure Layout (Pg : Type) where
  Raw : Type
  tag : Bytes
  body : Body Raw
  raw : Pg → Raw
  ofRaw : Raw → Option Pg

namespace Layout

variable {Pg : Type} (L : Layout Pg)

def frame : Codec L.Raw := .frame L.tag L.body

/-- The length of the frame, as the frame says it. -/
def length (r : L.Raw) : ℕ := 4 + (L.body.write r).length

/-- The bytes are one frame, with nothing behind it. -/
def OneFrame (data : Bytes) : Prop := ∃ r, L.frame.read data = some (r, [])

structure Lawful : Prop where
  /-- What a message is framed as is read as the message, if it is read. -/
  ofRaw_raw : ∀ {msg msg'}, L.ofRaw (L.raw msg) = some msg' → msg' = msg
  /-- A body has room for what is read off a body. -/
  valid_raw : ∀ {r msg}, L.ofRaw r = some msg → L.body.Valid r → L.body.Valid (L.raw msg)

end Layout

/-- pgwire's `Message` for a type.  `encode` writes the frame of a message and refuses a message above the limit of the
type; `decode` reads a frame off the front and leaves the rest.  Bytes that no frame starts may be decoded as well, or
make `decode` panic, which counts as an error here; what is decoded off them is what some body says. -/
structure PgMessage {Pg : Type} (L : Layout Pg) where
  encode : Pg → Except PgWireError Bytes
  decode : Bytes → Except PgWireError (Option (Pg × Bytes))
  limit : ℕ
  limit_le : limit ≤ 2147483647
  encode_eq_ok : ∀ {msg data}, encode msg = .ok data ↔
    L.length (L.raw msg) ≤ limit ∧ data = L.frame.write (L.raw msg)
  decode_write : ∀ {r}, L.body.Valid r → L.length r ≤ limit → ∀ {rest msg rest'},
    decode (L.frame.write r ++ rest) = .ok (some (msg, rest')) ↔ L.ofRaw r = some msg ∧ rest = rest'
  decode_of : ∀ {data msg rest}, decode data = .ok (some (msg, rest)) → ∃ r, L.body.Valid r ∧ L.ofRaw r = some msg

/-! ### The codec helpers -/

section

variable {Pg : Type} {L : Layout Pg} (display : PgWireError → String) (pg : PgMessage L)

def encodeToPybytes (msg : Pg) : Except PyErr Bytes := (pg.encode msg).mapError (pywireToPyErr display)

def incomplete : PyErr :=
  ⟨⟨"builtins", "ValueError"⟩, PyClass.exceptionBases,
    "incomplete message: input bytes are shorter than the declared length"⟩

def decodeFromSlice (data : Bytes) : Except PyErr Pg := do
  match ← (pg.decode data).mapError (pywireToPyErr display) with
  -- the buffer is dropped with what is left in it
  | some (msg, _) => .ok msg
  | none => .error incomplete

theorem encodeToPybytes_eq_ok {msg : Pg} {data : Bytes} :
    encodeToPybytes display pg msg = .ok data ↔
      L.length (L.raw msg) ≤ pg.limit ∧ data = L.frame.write (L.raw msg) := by
  rw [← pg.encode_eq_ok, encodeToPybytes]
  cases pg.encode msg <;> simp [Except.mapError]

theorem decodeFromSlice_eq_ok {data : Bytes} {msg : Pg} :
    decodeFromSlice display pg data = .ok msg ↔ ∃ rest, pg.decode data = .ok (some (msg, rest)) := by
  rw [decodeFromSlice]
  rcases pg.decode data with err | _ | ⟨msg', rest⟩
  · simp [Except.mapError, bind, Except.bind]
  · simp [Except.mapError, bind, Except.bind]
  · simp [Except.mapError, bind, Except.bind]

/-- A frame is decoded as what its body says, whatever stands behind it. -/
theorem decodeFromSlice_write {r : L.Raw} (hr : L.body.Valid r) (hlimit : L.length r ≤ pg.limit) (rest : Bytes)
    {msg : Pg} : decodeFromSlice display pg (L.frame.write r ++ rest) = .ok msg ↔ L.ofRaw r = some msg := by
  rw [decodeFromSlice_eq_ok]
  simp only [pg.decode_write hr hlimit, exists_and_left, exists_eq', and_true]

/-- What is decoded has a body of its own. -/
theorem valid_of_decodeFromSlice (hL : L.Lawful) {data : Bytes} {msg : Pg}
    (h : decodeFromSlice display pg data = .ok msg) : L.body.Valid (L.raw msg) := by
  obtain ⟨rest, hdecode⟩ := (decodeFromSlice_eq_ok display pg).mp h
  obtain ⟨r, hr, hmsg⟩ := pg.decode_of hdecode
  exact hL.valid_raw hmsg hr

end

/-! ### What is asked of a class -/

/-- Decoding what a message is encoded as gives the message. -/
def RoundTrips {M : Type} (encode : M → Except PyErr Bytes) (decode : Bytes → Except PyErr M) (msg : M) : Prop :=
  ∃ data, encode msg = .ok data ∧ decode data = .ok msg

/-- What is decoded is encoded as the same bytes again, and these are one frame. -/
def Reproduces {M Pg : Type} (L : Layout Pg) (encode : M → Except PyErr Bytes) (decode : Bytes → Except PyErr M)
    (data : Bytes) : Prop :=
  ∀ msg, decode data = .ok msg → encode msg = .ok data ∧ L.OneFrame data

/-- A class is faithful if all its values round-trip and it reproduces all bytes. -/
def Faithful {M Pg : Type} (L : Layout Pg) (encode : M → Except PyErr Bytes) (decode : Bytes → Except PyErr M) : Prop :=
  (∀ msg, RoundTrips encode decode msg) ∧ ∀ data, Reproduces L encode decode data

/-- It is faithful exactly to the values that are carried and, of the bytes that it decodes, to the canonical frames
within the limit with nothing behind them; what stands behind the frame of a value is lost. -/
structure FaithfulExactly {M Pg : Type} {L : Layout Pg} (pg : PgMessage L) (encode : M → Except PyErr Bytes)
    (decode : Bytes → Except PyErr M) (Carried : M → Prop) (Canonical : L.Raw → Prop) : Prop where
  values : ∀ msg, RoundTrips encode decode msg ↔ Carried msg
  bytes : ∀ data, (∃ msg, decode data = .ok msg) →
    (Reproduces L encode decode data ↔
      ∃ r, L.frame.read data = some (r, []) ∧ L.length r ≤ pg.limit ∧ Canonical r)
  behind : ∀ {msg data}, Carried msg → encode msg = .ok data → ∀ rest, decode (data ++ rest) = .ok msg

/-! ### Classes over pgwire's messages -/

/-- A class whose messages are pgwire's under other names, encoded and decoded by the helpers. -/
structure Binding {M Pg : Type} {L : Layout Pg} (display : PgWireError → String) (pg : PgMessage L)
    (encode : M → Except PyErr Bytes) (decode : Bytes → Except PyErr M) where
  toPg : M ≃ Pg
  encode_eq : ∀ msg, encode msg = encodeToPybytes display pg (toPg msg)
  decode_eq : ∀ data, decode data = (decodeFromSlice display pg data).map toPg.symm

section

variable {M Pg : Type} {L : Layout Pg} {display : PgWireError → String} {pg : PgMessage L}
  {encode : M → Except PyErr Bytes} {decode : Bytes → Except PyErr M}

theorem Binding.encode_eq_ok (b : Binding display pg encode decode) {msg : M} {data : Bytes} :
    encode msg = .ok data ↔
      L.length (L.raw (b.toPg msg)) ≤ pg.limit ∧ data = L.frame.write (L.raw (b.toPg msg)) := by
  rw [b.encode_eq, encodeToPybytes_eq_ok]

theorem Binding.decode_eq_ok (b : Binding display pg encode decode) {data : Bytes} {msg : M} :
    decode data = .ok msg ↔ decodeFromSlice display pg data = .ok (b.toPg msg) := by
  rw [b.decode_eq]
  cases decodeFromSlice display pg data with
  | error err => simp [Except.map]
  | ok msg' => simp [Except.map, Equiv.symm_apply_eq]

/-- **Values.**  A message of the class is decoded from what it is encoded as exactly if a body has room for it, its
frame is within the limit and it is read off its frame. -/
theorem Binding.roundTrips_iff (b : Binding display pg encode decode) (hL : L.Lawful) (msg : M) :
    RoundTrips encode decode msg ↔
      L.body.Valid (L.raw (b.toPg msg)) ∧ L.length (L.raw (b.toPg msg)) ≤ pg.limit ∧
        (L.ofRaw (L.raw (b.toPg msg))).isSome := by
  constructor
  · rintro ⟨data, hencode, hdecode⟩
    obtain ⟨hlimit, rfl⟩ := b.encode_eq_ok.mp hencode
    have hslice := b.decode_eq_ok.mp hdecode
    have hvalid := valid_of_decodeFromSlice display pg hL hslice
    rw [← List.append_nil (L.frame.write _), decodeFromSlice_write display pg hvalid hlimit] at hslice
    exact ⟨hvalid, hlimit, Option.isSome_of_eq_some hslice⟩
  · rintro ⟨hvalid, hlimit, hread⟩
    obtain ⟨msg', hmsg⟩ := Option.isSome_iff_exists.mp hread
    obtain rfl := hL.ofRaw_raw hmsg
    refine ⟨_, b.encode_eq_ok.mpr ⟨hlimit, rfl⟩, b.decode_eq_ok.mpr ?_⟩
    rw [← List.append_nil (L.frame.write _)]
    exact (decodeFromSlice_write display pg hvalid hlimit []).mpr hmsg

/-- **Bytes.**  What is decoded from them is encoded as they were exactly if they are the frame of a message, within
the limit and with nothing behind it. -/
theorem Binding.reproduces_iff (b : Binding display pg encode decode) (hL : L.Lawful) {data : Bytes}
    (haccepted : ∃ msg, decode data = .ok msg) :
    Reproduces L encode decode data ↔
      ∃ r, L.frame.read data = some (r, []) ∧ L.length r ≤ pg.limit ∧ ∃ msg, L.raw msg = r := by
  constructor
  · intro h
    obtain ⟨msg, hdecode⟩ := haccepted
    obtain ⟨hlimit, rfl⟩ := b.encode_eq_ok.mp (h msg hdecode).1
    have hvalid := valid_of_decodeFromSlice display pg hL (b.decode_eq_ok.mp hdecode)
    have hframe : L.frame.Valid (L.raw (b.toPg msg)) := Codec.frame_valid.mpr ⟨hvalid, hlimit.trans pg.limit_le⟩
    exact ⟨_, L.frame.read_eq_some.mpr ⟨hframe, (List.append_nil _).symm⟩, hlimit, _, rfl⟩
  · rintro ⟨_, hread, hlimit, msg', rfl⟩ msg hdecode
    obtain ⟨hframe, hdata⟩ := L.frame.read_eq_some.mp hread
    have hslice := b.decode_eq_ok.mp hdecode
    rw [hdata, decodeFromSlice_write display pg (Codec.frame_valid.mp hframe).1 hlimit] at hslice
    have hmsg := hL.ofRaw_raw hslice
    refine ⟨b.encode_eq_ok.mpr ?_, _, hread⟩
    rw [hmsg, hdata, List.append_nil]
    exact ⟨hlimit, rfl⟩

/-- Whatever stands behind the frame is lost. -/
theorem Binding.decode_append (b : Binding display pg encode decode) (hL : L.Lawful) {msg : M} {data : Bytes}
    (hmsg : RoundTrips encode decode msg) (hencode : encode msg = .ok data) (rest : Bytes) :
    decode (data ++ rest) = .ok msg := by
  obtain ⟨hvalid, hlimit, hread⟩ := (b.roundTrips_iff hL msg).mp hmsg
  obtain ⟨msg', hmsg'⟩ := Option.isSome_iff_exists.mp hread
  obtain rfl := hL.ofRaw_raw hmsg'
  obtain ⟨-, rfl⟩ := b.encode_eq_ok.mp hencode
  exact b.decode_eq_ok.mpr ((decodeFromSlice_write display pg hvalid hlimit rest).mpr hmsg')

theorem Binding.faithfulExactly (b : Binding display pg encode decode) (hL : L.Lawful) {Carried : M → Prop}
    {Canonical : L.Raw → Prop}
    (hcarried : ∀ msg, L.body.Valid (L.raw (b.toPg msg)) ∧ L.length (L.raw (b.toPg msg)) ≤ pg.limit ∧
      (L.ofRaw (L.raw (b.toPg msg))).isSome ↔ Carried msg)
    (hcanonical : ∀ r, (∃ msg, L.raw msg = r) ↔ Canonical r) : FaithfulExactly pg encode decode Carried Canonical where
  values msg := (b.roundTrips_iff hL msg).trans (hcarried msg)
  bytes data haccepted := by
    rw [b.reproduces_iff hL haccepted]
    simp only [hcanonical]
  behind {msg _} hmsg hencode :=
    b.decode_append hL (((b.roundTrips_iff hL msg).trans (hcarried msg)).mpr hmsg) hencode

/-- What is read off its frame is carried if a body has room for it and the frame is within the limit. -/
theorem Binding.carried_iff (b : Binding display pg encode decode) (hL : L.Lawful) {Carried : M → Prop}
    {Canonical : L.Raw → Prop} (h : FaithfulExactly pg encode decode Carried Canonical) {msg : M}
    (hread : L.ofRaw (L.raw (b.toPg msg)) = some (b.toPg msg)) :
    Carried msg ↔ L.body.Valid (L.raw (b.toPg msg)) ∧ L.length (L.raw (b.toPg msg)) ≤ pg.limit := by
  rw [← h.values, b.roundTrips_iff hL, hread]
  exact and_congr_right' (and_iff_left rfl)

end

/-! ### Codecs that do what is said of pgwire's -/

namespace PgMessage

variable {Pg : Type} (L : Layout Pg) (limit : ℕ) (hlimit : limit ≤ 2147483647)

/-- A codec that reads the values of bodies, and those of frames off their frames. -/
def ofReader (read : Bytes → Option (L.Raw × Bytes))
    (hread : ∀ {r}, L.frame.Valid r → ∀ rest, read (L.frame.write r ++ rest) = some (r, rest))
    (hvalid : ∀ {data r rest}, read data = some (r, rest) → L.body.Valid r) : PgMessage L where
  encode msg :=
    if L.length (L.raw msg) ≤ limit then .ok (L.frame.write (L.raw msg))
    else .error (.messageTooLarge (L.length (L.raw msg)) limit)
  decode data := .ok ((read data).bind fun p => (L.ofRaw p.1).map fun msg => (msg, p.2))
  limit := limit
  limit_le := hlimit
  encode_eq_ok := by
    intro msg data
    split_ifs with h
    · simp [h, eq_comm]
    · simp [h]
  decode_write := by
    intro r hr hlength rest msg rest'
    simp [hread (Codec.frame_valid.mpr ⟨hr, hlength.trans hlimit⟩)]
  decode_of := by
    intro data msg rest h
    simp only [Except.ok.injEq, Option.bind_eq_some_iff, Option.map_eq_some_iff, Prod.exists, Prod.mk.injEq] at h
    obtain ⟨r, rest', hr, msg', hmsg, rfl, rfl⟩ := h
    exact ⟨r, hvalid hr, hmsg⟩

/-- It reads whole frames. -/
def ofLayout : PgMessage L :=
  ofReader L limit hlimit L.frame.read (fun hframe rest => L.frame.read_write hframe rest) fun hread =>
    (Codec.frame_valid.mp (L.frame.read_eq_some.mp hread).1).1

/-- It skips the tag and the length, and leaves what stands behind the value in the frame. -/
def ofCodec (f : Codec L.Raw) (hbody : L.body = f.whole) : PgMessage L :=
  ofReader L limit hlimit (fun data => f.read (data.drop (L.tag.length + 4)))
    (fun {r} hframe rest => by
      have hr : f.Valid r := by
        have hvalid := (Codec.frame_valid.mp hframe).1
        rw [hbody] at hvalid
        exact hvalid
      have hhead : (L.tag ++ Codec.i32.write (.ofNat (4 + (L.body.write r).length))).length = L.tag.length + 4 :=
        List.length_append
      rw [Layout.frame, Codec.frame_write, List.append_assoc, List.drop_left' hhead, hbody]
      exact f.read_write hr rest)
    fun hread => by
      rw [hbody]
      exact (f.read_eq_some.mp hread).1

end PgMessage

end Pywire.Messages
