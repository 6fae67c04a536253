import Pywire.Scram.Exchange

/-!
# Client: an RFC 5802 client, and that the exchange accepts it

A client that knows the password and its own messages only.  It splits what it sent and what it received by
itself, derives its keys with an arbitrary salted-password function `hi`, and signs its own `AuthMessage`.

* `Client.accepted`: `Exchange.verify` accepts its client-final message and returns the server signature the
  client expects.
-/

namespace Pywire.Scram

open Async (Outcome)
open Text (utf8)

/-! ### The client's own view of the messages -/

/-- The text up to and including the `n`-th comma. -/
def throughComma : ℕ → Str → Str
  | 0, _ => []
  | _, [] => []
  | n + 1, c :: s => c :: if c = ',' then throughComma n s else throughComma (n + 1) s

@[simp] theorem throughComma_zero (s : Str) : throughComma 0 s = [] := by
  cases s <;> rfl

theorem throughComma_append {n : ℕ} {a s : Str} (ha : ',' ∉ a) :
    throughComma (n + 1) (a ++ ',' :: s) = a ++ ',' :: throughComma n s := by
  induction a with
  | nil => simp [throughComma]
  | cons c a ih =>
    have hc : ¬ c = ',' := fun h => ha (by simp [h])
    rw [List.cons_append, throughComma, if_neg hc, ih fun h => ha (by simp [h])]
    rfl

/-- A decimal number. -/
def readNat (s : Str) : Option ℕ :=
  if s ≠ [] ∧ s.all Char.isDigit then some (Nat.ofDigitChars 10 s 0) else none

@[simp] theorem readNat_toDigits (n : ℕ) : readNat (Nat.toDigits 10 n) = some n := by
  have hall : (Nat.toDigits 10 n).all Char.isDigit := by
    rw [List.all_eq_true]
    exact fun c hc => Nat.isDigit_of_mem_toDigits (by omega) (by omega) hc
  rw [readNat, if_pos ⟨Nat.toDigits_ne_nil, hall⟩, Nat.ofDigitChars_ten_toDigits]

/-- What the client reads off the server-first message. -/
structure ServerFirst where
  nonce : Str
  salt : Bytes
  iterations : ℕ

def ServerFirst.read (message : Str) : Option ServerFirst :=
  match message.splitOn ',' with
  | r :: s :: i :: _ => do
    let nonce ← strip "r=" r
    let salt ← Base64.decode (← strip "s=" s)
    let iterations ← readNat (← strip "i=" i)
    return ⟨nonce, salt, iterations⟩
  | _ => none

structure Client where
  password : Bytes
  clientFirst : Str
  cbindData : Bytes
  extensions : List Str

namespace Client

variable (c : Client)

def gs2Header : Str := throughComma 2 c.clientFirst

def bare : Str := c.clientFirst.drop c.gs2Header.length

/-- The `r=` field of the client's own message. -/
def nonce : Option Str := (c.bare.splitOn ',').findSome? (strip "r=")

/-! ### Keys and signatures -/

variable (K : Crypto) (hi : Bytes → Bytes → ℕ → Bytes)

def clientKey (salt : Bytes) (iterations : ℕ) : Bytes :=
  K.hmac (hi c.password salt iterations) (utf8 "Client Key".toList)

def storedKey (salt : Bytes) (iterations : ℕ) : Bytes := K.digest (c.clientKey K hi salt iterations)

def serverKey (salt : Bytes) (iterations : ℕ) : Bytes :=
  K.hmac (hi c.password salt iterations) (utf8 "Server Key".toList)

/-- The client-final message, and the server-final message the client will insist on. -/
structure Reply where
  clientFinal : Str
  serverFinal : Str

/-- The client-final message up to its proof. -/
def withoutProof (nonce : Str) : Str :=
  "c=".toList ++ Base64.encode (utf8 c.gs2Header ++ c.cbindData) ++ ",r=".toList ++ nonce ++
    c.extensions.flatMap (',' :: ·)

def authMessage (serverFirst nonce : Str) : Bytes :=
  utf8 (c.bare ++ ",".toList ++ serverFirst ++ ",".toList ++ c.withoutProof nonce)

def respond (serverFirst : Str) : Option Reply := do
  let own ← c.nonce
  let server ← ServerFirst.read serverFirst
  if own <+: server.nonce then
    let message := c.authMessage serverFirst server.nonce
    let clientSignature := K.hmac (c.storedKey K hi server.salt server.iterations) message
    let proof := xorBytes (c.clientKey K hi server.salt server.iterations) clientSignature
    some {
      clientFinal := c.withoutProof server.nonce ++ ",p=".toList ++ Base64.encode proof
      serverFinal := "v=".toList ++
        Base64.encode (K.hmac (c.serverKey K hi server.salt server.iterations) message) }
  else none

end Client

/-! ### Both sides agree -/

theorem xorBytes_length {a b : Bytes} (h : a.length = b.length) : (xorBytes a b).length = a.length := by
  simp [xorBytes, h]

/-- Signing twice with one signature gives the key back. -/
theorem xorBytes_cancel {a b : Bytes} (h : a.length = b.length) : xorBytes (xorBytes a b) b = a := by
  refine List.ext_getElem (by simp [xorBytes, h]) fun i _ _ => ?_
  simp only [xorBytes, List.getElem_zipWith, UInt8.xor_assoc, UInt8.xor_self, UInt8.xor_zero]

section Agreement

variable {c : Client} {first : ClientFirst} (h : ClientFirst.parse c.clientFirst = .ok first)

include h

/-- The header the client takes as its own is the one the server keeps. -/
theorem Client.gs2Header_eq : c.gs2Header = first.gs2Header := by
  obtain ⟨authzid, username, exts, hflag, hauth, -, -, -, hgs2, -, -, hm⟩ := ClientFirst.parse_eq_ok h
  rw [Client.gs2Header, hm, hgs2]
  simp only [List.append_assoc, List.cons_append, List.nil_append]
  rw [throughComma_append hflag, throughComma_append hauth, throughComma_zero]

theorem Client.bare_eq : c.bare = first.bare := by
  obtain ⟨-, -, -, -, -, -, -, -, -, -, -, hm⟩ := ClientFirst.parse_eq_ok h
  rw [Client.bare, Client.gs2Header_eq h, hm, List.drop_left]

theorem Client.nonce_eq : c.nonce = some first.nonce := by
  obtain ⟨authzid, username, exts, -, -, huser, hnonce, -, -, hbare, hexts, -⟩ := ClientFirst.parse_eq_ok h
  have hfields : first.bare.splitOn ',' = ("n=".toList ++ username) :: ("r=".toList ++ first.nonce) :: exts := by
    have := Text.splitOn_fields (d := ',') (f := "n=".toList ++ username)
      (("r=".toList ++ first.nonce) :: exts) (by simpa using huser) (by simpa using ⟨hnonce, hexts⟩)
    rw [hbare, ← this]
    simp
  have hn : strip "r=" ("n=".toList ++ username) = none := rfl
  have hr : strip "r=" ("r=".toList ++ first.nonce) = some first.nonce := strip_eq_some.mpr rfl
  rw [Client.nonce, Client.bare_eq h, hfields, List.findSome?_cons, hn]
  simp only [List.findSome?_cons, hr]

end Agreement

/-- What the client reads is what the server wrote. -/
theorem ServerFirst.read_serverFirst {first : ClientFirst} {serverNonce : Str} (hf : ',' ∉ first.nonce)
    (hs : ',' ∉ serverNonce) (cbindData : Bytes) (user : String) (verifier : PyScramVerifier) (mock : Bool) :
    ServerFirst.read (Exchange.new first cbindData serverNonce user verifier mock).serverFirst =
      some ⟨first.nonce ++ serverNonce, verifier.salt, verifier.iterations.toNat⟩ := by
  have hsalt : ',' ∉ Base64.encode verifier.salt := Base64.notMem_encode (by decide) _
  have hiter : ',' ∉ Nat.toDigits 10 verifier.iterations.toNat :=
    fun hc => absurd (Nat.isDigit_of_mem_toDigits (by omega) (by omega) hc) (by decide)
  have hfields : (Exchange.new first cbindData serverNonce user verifier mock).serverFirst.splitOn ',' =
      ["r=".toList ++ (first.nonce ++ serverNonce), "s=".toList ++ Base64.encode verifier.salt,
        "i=".toList ++ Nat.toDigits 10 verifier.iterations.toNat] := by
    have := Text.splitOn_fields (d := ',') (f := "r=".toList ++ (first.nonce ++ serverNonce))
      (["s=".toList ++ Base64.encode verifier.salt,
        "i=".toList ++ Nat.toDigits 10 verifier.iterations.toNat]) (by simpa using ⟨hf, hs⟩)
      (by simpa using ⟨hsalt, hiter⟩)
    rw [← this]
    simp [Exchange.new]
  rw [ServerFirst.read, hfields]
  simp only [strip, Text.dropPrefix?_append, Option.bind_eq_bind, Option.bind_some, Base64.decode_encode,
    readNat_toDigits, Option.pure_def]

/-- **Completeness**: the exchange accepts the client, and the client accepts the exchange's answer. -/
theorem Client.accepted (K : Crypto) (hi : Bytes → Bytes → ℕ → Bytes) (c : Client) (first : ClientFirst)
    (hparse : ClientFirst.parse c.clientFirst = .ok first) (hext : ∀ e ∈ c.extensions, ',' ∉ e)
    (iterations : UInt32) (hiter : iterations ≠ 0) (salt : Bytes) (hsalt : salt ≠ [])
    (serverNonce : Str) (hnonce : ',' ∉ serverNonce) (user : String) :
    ∃ verifier reply,
      PyScramVerifier.new iterations salt (c.storedKey K hi salt iterations.toNat)
        (c.serverKey K hi salt iterations.toNat) = .ok verifier ∧
      c.respond K hi (Exchange.new first c.cbindData serverNonce user verifier false).serverFirst =
        some reply ∧
      (Exchange.new first c.cbindData serverNonce user verifier false).verify K (utf8 reply.clientFinal) =
        .ok reply.serverFinal := by
  have hfn : ',' ∉ first.nonce := by
    obtain ⟨-, -, -, -, -, -, hfn, -⟩ := ClientFirst.parse_eq_ok hparse
    exact hfn
  have hkey : (c.storedKey K hi salt iterations.toNat).length = 32 := K.digest_length _
  have hkey' : (c.serverKey K hi salt iterations.toNat).length = 32 := K.hmac_length _ _
  let verifier : PyScramVerifier := ⟨iterations, salt, _, _, hiter, hsalt, hkey, hkey'⟩
  let exchange := Exchange.new first c.cbindData serverNonce user verifier false
  let message := c.authMessage exchange.serverFirst exchange.nonce
  have hlen : (c.clientKey K hi salt iterations.toNat).length = (K.hmac verifier.storedKey message).length := by
    rw [Client.clientKey, K.hmac_length, K.hmac_length]
  let reply : Client.Reply := {
    clientFinal := c.withoutProof exchange.nonce ++ ",p=".toList ++
      Base64.encode (xorBytes (c.clientKey K hi salt iterations.toNat) (K.hmac verifier.storedKey message))
    serverFinal := "v=".toList ++ Base64.encode (K.hmac verifier.serverKey message) }
  refine ⟨verifier, reply, PyScramVerifier.new_eq_ok hiter hsalt hkey hkey', ?_, ?_⟩
  · rw [Client.respond, Client.nonce_eq hparse, ServerFirst.read_serverFirst hfn hnonce]
    simp only [Option.bind_eq_bind, Option.bind_some, if_pos (List.prefix_append first.nonce serverNonce)]
    rfl
  · -- the two authentication messages are one text, and the proof undoes to the client key
    have hcb : ',' ∉ exchange.channelBinding := Base64.notMem_encode (by decide) _
    have hn : ',' ∉ exchange.nonce := by simp [exchange, Exchange.new, hfn, hnonce]
    have hw : c.withoutProof exchange.nonce = "c=".toList ++ exchange.channelBinding ++ ",r=".toList ++
        exchange.nonce ++ c.extensions.flatMap (',' :: ·) := by
      rw [Client.withoutProof, Client.gs2Header_eq hparse]
      rfl
    have hauth : utf8 (exchange.authPrefix ++ ",".toList ++ c.withoutProof exchange.nonce) = message := by
      simp only [message, Client.authMessage, Client.bare_eq hparse]
      rfl
    have hp : (xorBytes (c.clientKey K hi salt iterations.toNat) (K.hmac verifier.storedKey message)).length =
        32 := by
      rw [xorBytes_length hlen]
      exact K.hmac_length _ _
    have hv : exchange.verifier = verifier := rfl
    have hverify := Exchange.verify_fields (K := K) (x := exchange) hcb hn hext hp hw
    rw [hauth, hv, xorBytes_cancel hlen, if_pos ⟨rfl, rfl⟩] at hverify
    exact hverify

/-! ### The published vector -/

namespace Rfc7677

def saltedPassword : Bytes :=
  [0xc4, 0xa4, 0x95, 0x10, 0x32, 0x3a, 0xb4, 0xf9, 0x52, 0xca, 0xc1, 0xfa, 0x99, 0x44, 0x19, 0x39,
   0xe7, 0x8e, 0xa7, 0x4d, 0x6b, 0xe8, 0x1d, 0xdf, 0x70, 0x96, 0xe8, 0x75, 0x13, 0xdc, 0x61, 0x5d]
def salt : Bytes :=
  [0x5b, 0x6d, 0x99, 0x68, 0x9d, 0x12, 0x35, 0x8e, 0xec, 0xa0, 0x4b, 0x14, 0x12, 0x36, 0xfa, 0x81]
def clientKey : Bytes :=
  [0xa6, 0x0f, 0xc9, 0x23, 0xd6, 0x7e, 0x86, 0x44, 0xa9, 0x2d, 0x16, 0xb9, 0x6e, 0xda, 0x5e, 0xf4,
   0x65, 0x6b, 0x0c, 0x72, 0x5c, 0x48, 0x43, 0x74, 0xbe, 0x25, 0x53, 0x55, 0x76, 0x99, 0x6e, 0x8b]
def storedKey : Bytes :=
  [0x58, 0x6e, 0x5d, 0xf2, 0x83, 0xe6, 0xdc, 0xeb, 0x5c, 0x3e, 0x79, 0x1d, 0x8b, 0x85, 0x28, 0xec,
   0x19, 0x1e, 0x66, 0x40, 0x45, 0xce, 0x97, 0x17, 0x92, 0xe2, 0xe6, 0xb5, 0xbb, 0x13, 0xe2, 0xa6]
def serverKey : Bytes :=
  [0xc1, 0xf3, 0xcb, 0xc1, 0xc1, 0x3a, 0x9d, 0x35, 0xa1, 0x4c, 0x09, 0x90, 0xee, 0xd9, 0x76, 0x29,
   0xea, 0x22, 0x58, 0x63, 0xe5, 0x66, 0xa4, 0x31, 0x4a, 0xb9, 0x9f, 0x3f, 0x00, 0xe5, 0xd9, 0xd5]
def clientSignature : Bytes :=
  [0xd2, 0x73, 0x12, 0x46, 0x7c, 0x28, 0xa4, 0x0a, 0x8a, 0x7f, 0x05, 0xc7, 0x3c, 0x0d, 0xe3, 0x3e,
   0xb3, 0xcb, 0xfb, 0x4a, 0x83, 0x78, 0x3b, 0x58, 0x14, 0x4c, 0xf1, 0x9a, 0xc6, 0xbe, 0x1b, 0xdf]
def serverSignature : Bytes :=
  [0xea, 0xba, 0xe2, 0x4d, 0x10, 0x62, 0xdb, 0x75, 0xa9, 0x45, 0x1f, 0xf0, 0xb6, 0xea, 0x7e, 0x98,
   0xc8, 0x54, 0x65, 0x49, 0xff, 0x74, 0x1e, 0x67, 0x2d, 0x32, 0x51, 0xb2, 0x39, 0x7d, 0xe4, 0x6e]
def authMessage : Bytes := utf8 ("n=user,r=rOprNGfwEbeRWgbNEkqO," ++
  "r=rOprNGfwEbeRWgbNEkqO%hvYDpWUa2RaTCAfuxFIlj)hNlF$k0,s=W22ZaJ0SNY7soEsUEjb6gQ==,i=4096," ++
  "c=biws,r=rOprNGfwEbeRWgbNEkqO%hvYDpWUa2RaTCAfuxFIlj)hNlF$k0").toList

/-- SHA-256 and HMAC-SHA-256 on the inputs of the vector in `rfc7677_vector_verifies`. -/
def crypto : Crypto where
  digest m := if m = clientKey then storedKey else List.replicate 32 0
  hmac key m :=
    if key = saltedPassword ∧ m = utf8 "Client Key".toList then clientKey
    else if key = saltedPassword ∧ m = utf8 "Server Key".toList then serverKey
    else if key = storedKey ∧ m = authMessage then clientSignature
    else if key = serverKey ∧ m = authMessage then serverSignature
    else List.replicate 32 0
  digest_length m := by split <;> decide
  hmac_length key m := by
    repeat' split
    all_goals decide

def client : Client where
  password := utf8 "pencil".toList
  clientFirst := "n,,n=user,r=rOprNGfwEbeRWgbNEkqO".toList
  cbindData := []
  extensions := []

end Rfc7677

theorem client_accepted_vector :
    ∃ verifier reply,
      PyScramVerifier.new 4096 Rfc7677.salt
        (Rfc7677.client.storedKey Rfc7677.crypto (fun _ _ _ => Rfc7677.saltedPassword)
          Rfc7677.salt 4096)
        (Rfc7677.client.serverKey Rfc7677.crypto (fun _ _ _ => Rfc7677.saltedPassword)
          Rfc7677.salt 4096) = .ok verifier ∧
      Rfc7677.client.respond Rfc7677.crypto (fun _ _ _ => Rfc7677.saltedPassword)
        (Exchange.new ⟨"n".toList, "n,,".toList, "n=user,r=rOprNGfwEbeRWgbNEkqO".toList,
          "rOprNGfwEbeRWgbNEkqO".toList⟩ [] "%hvYDpWUa2RaTCAfuxFIlj)hNlF$k0".toList "user" verifier
          false).serverFirst = some reply ∧
      (Exchange.new ⟨"n".toList, "n,,".toList, "n=user,r=rOprNGfwEbeRWgbNEkqO".toList,
        "rOprNGfwEbeRWgbNEkqO".toList⟩ [] "%hvYDpWUa2RaTCAfuxFIlj)hNlF$k0".toList "user" verifier
        false).verify Rfc7677.crypto (utf8 reply.clientFinal) = .ok reply.serverFinal :=
  Client.accepted Rfc7677.crypto (fun _ _ _ => Rfc7677.saltedPassword) Rfc7677.client _ (by decide +kernel)
    (by decide) 4096 (by decide) _ (by decide) _ (by decide) "user"

end Pywire.Scram
