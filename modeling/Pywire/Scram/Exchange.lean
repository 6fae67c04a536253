import Pywire.Errors
import Pywire.Lib.Base64
import Pywire.Lib.Prog
import Pywire.Lib.Text

/-!
# Exchange: the server side of SCRAM-SHA-256 over a stored verifier

The pure half of `src/scram_verifier.rs`: the stored verifier, the client-first message, the channel-binding
negotiation, and the exchange that checks the client-final message.  SHA-256 and HMAC are a parameter
`K : Crypto`.  A `PyScramVerifier` carries the checks of its constructor as fields.

* `ClientFirst.parse_eq_ok`: what an accepted client-first message consists of.
* `Exchange.verify_fields`: what `verify` does with a message put together from comma-free fields.
* `Exchange.verify_eq_ok`: what an accepted client-final message consists of.
-/

namespace Pywire.Scram

open Async (Outcome)
open Text (utf8 fromUtf8)

/-- The characters of a SCRAM message. -/
abbrev Str := List Char

/-- SHA-256 and HMAC-SHA-256. -/
structure Crypto where
  digest : Bytes → Bytes
  hmac : Bytes → Bytes → Bytes
  digest_length : ∀ m, (digest m).length = 32
  hmac_length : ∀ k m, (hmac k m).length = 32

instance : Inhabited Crypto where
  default := ⟨fun _ => List.replicate 32 0, fun _ _ => List.replicate 32 0, fun _ => by simp, fun _ _ => by simp⟩

/-! ### The stored verifier -/

structure PyScramVerifier where
  iterations : UInt32
  salt : Bytes
  storedKey : Bytes
  serverKey : Bytes
  iterations_ne : iterations ≠ 0
  salt_ne : salt ≠ []
  storedKey_length : storedKey.length = 32
  serverKey_length : serverKey.length = 32
  deriving DecidableEq

def PyScramVerifier.new (iterations : UInt32) (salt storedKey serverKey : Bytes) :
    Except String PyScramVerifier :=
  if hi : iterations = 0 then .error "iterations must be positive"
  else if hs : salt = [] then .error "salt must not be empty"
  else if hk : storedKey.length ≠ 32 ∨ serverKey.length ≠ 32 then
    .error "stored_key and server_key must be 32-byte SHA-256 values"
  else .ok ⟨iterations, salt, storedKey, serverKey, hi, hs, by omega, by omega⟩

theorem PyScramVerifier.new_eq_ok {iterations : UInt32} {salt storedKey serverKey : Bytes}
    (hi : iterations ≠ 0) (hs : salt ≠ []) (hk : storedKey.length = 32) (hk' : serverKey.length = 32) :
    PyScramVerifier.new iterations salt storedKey serverKey =
      .ok ⟨iterations, salt, storedKey, serverKey, hi, hs, hk, hk'⟩ := by
  simp [PyScramVerifier.new, hi, hs, hk, hk']

/-! ### Messages -/

def invalid (message : String) : PgWireError := .invalidScramMessage message

/-- `utf8`: the text of a message. -/
def decodeUtf8 (data : Bytes) : Outcome PgWireError Str :=
  .okOr (invalid "SCRAM message is not UTF-8") (fromUtf8 data)

/-- `str::strip_prefix`. -/
def strip (pre : String) (s : Str) : Option Str := s.dropPrefix? pre.toList

/-- The client-first message, split along its grammar; `gs2Header` and `bare` are kept verbatim. -/
structure ClientFirst where
  cbindFlag : Str
  gs2Header : Str
  bare : Str
  nonce : Str
  deriving DecidableEq

def ClientFirst.parse (message : Str) : Outcome PgWireError ClientFirst := do
  let malformed := invalid "malformed SCRAM client-first-message"
  let (cbindFlag, rest) ← .okOr malformed (Text.splitOnce ',' message)
  let (authzid, bare) ← .okOr malformed (Text.splitOnce ',' rest)
  if ¬ (authzid = [] ∨ "a=".toList <+: authzid) then .err malformed
  else
    let parts := bare.splitOn ','
    let username := parts[0]?.bind (strip "n=")
    let nonce := parts[1]?.bind (strip "r=")
    match username, nonce with
    | some _, some nonce =>
      if nonce ≠ [] then do
        -- the slice panics off a character boundary
        let gs2Header ← .expect (Text.sliceTo (Text.byteLen message - Text.byteLen bare) message)
        return ⟨cbindFlag, gs2Header, bare, nonce⟩
      else .err malformed
    | _, _ => .err malformed

def scramSha256 : String := "SCRAM-SHA-256"
def scramSha256Plus : String := "SCRAM-SHA-256-PLUS"

/-- Channel-binding negotiation; `certificate` is the hash when this connection is TLS and has one. -/
def negotiate (mechanism : String) (cbindFlag : Str) (certificate : Option Bytes) :
    Outcome PgWireError Bytes :=
  if mechanism = scramSha256Plus then
    match certificate with
    | some signature =>
      if cbindFlag = "p=tls-server-end-point".toList then .ok signature
      else .err (invalid "SCRAM channel binding negotiation error")
    | none => .err (invalid "SCRAM channel binding negotiation error")
  else if mechanism = scramSha256 then
    if cbindFlag = "n".toList ∨ (cbindFlag = "y".toList ∧ certificate = none) then .ok []
    else .err (invalid "SCRAM channel binding negotiation error")
  else .err (.unsupportedSASLAuthMethod mechanism)

/-! ### The exchange -/

/-- Server state between the server-first and the client-final message. -/
structure Exchange where
  user : String
  verifier : PyScramVerifier
  /-- The verifier is the unknown-user mock: the exchange runs identically and then fails. -/
  mock : Bool
  nonce : Str
  channelBinding : Str
  serverFirst : Str
  /-- The bare client-first message, a comma and the server-first message. -/
  authPrefix : Str
  deriving DecidableEq

def Exchange.new (first : ClientFirst) (cbindData : Bytes) (serverNonce : Str) (user : String)
    (verifier : PyScramVerifier) (mock : Bool) : Exchange :=
  let nonce := first.nonce ++ serverNonce
  let serverFirst := "r=".toList ++ nonce ++ ",s=".toList ++ Base64.encode verifier.salt ++ ",i=".toList ++
    Nat.toDigits 10 verifier.iterations.toNat
  { user := user
    verifier := verifier
    mock := mock
    authPrefix := first.bare ++ ",".toList ++ serverFirst
    nonce := nonce
    channelBinding := Base64.encode (utf8 first.gs2Header ++ cbindData)
    serverFirst := serverFirst }

def xorBytes (a b : Bytes) : Bytes := List.zipWith (· ^^^ ·) a b

variable (K : Crypto)

/-- Checks the client-final message; returns the server-final message. -/
def Exchange.verify (self : Exchange) (message : Bytes) : Outcome PgWireError Str := do
  let malformed := invalid "malformed SCRAM client-final-message"
  let text ← decodeUtf8 message
  let (withoutProof, proof) ← .okOr malformed (Text.rsplitOnce ",p=".toList text)
  let parts := withoutProof.splitOn ','
  let channelBinding := parts[0]?.bind (strip "c=")
  let nonce := parts[1]?.bind (strip "r=")
  match channelBinding, nonce with
  | some channelBinding, some nonce =>
    if channelBinding ≠ self.channelBinding then .err (invalid "SCRAM channel binding check failed")
    else if nonce ≠ self.nonce then .err (invalid "SCRAM nonce mismatch")
    else do
      let proof ← .okOr malformed (Base64.decode proof)
      if proof.length ≠ 32 then .err malformed
      else
        let authMessage := utf8 (self.authPrefix ++ ",".toList ++ withoutProof)
        let clientSignature := K.hmac self.verifier.storedKey authMessage
        let clientKey := xorBytes proof clientSignature
        let proofOk := K.digest clientKey == self.verifier.storedKey
        if !proofOk || self.mock then .err (.invalidPassword self.user)
        else
          let serverSignature := K.hmac self.verifier.serverKey authMessage
          .ok ("v=".toList ++ Base64.encode serverSignature)
  | _, _ => .err malformed

/-- The verifier an unknown user is checked against: stable per user, never accepted. -/
def mockVerifier (secret : Bytes) (user : String) (iterations : UInt32) (h : iterations ≠ 0) :
    PyScramVerifier :=
  let salt := K.hmac secret (utf8 ("salt\x00".toList ++ user.toList))
  let key := K.hmac secret (utf8 ("key\x00".toList ++ user.toList))
  { iterations := iterations
    salt := salt.take 16
    storedKey := key
    serverKey := key
    iterations_ne := h
    salt_ne := fun he => by
      have hlen := congrArg List.length he
      rw [List.length_take, K.hmac_length] at hlen
      simp at hlen
    storedKey_length := K.hmac_length _ _
    serverKey_length := K.hmac_length _ _ }

/-! ### What the checks accept -/

@[simp] theorem strip_eq_some {pre : String} {s t : Str} : strip pre s = some t ↔ s = pre.toList ++ t :=
  Text.dropPrefix?_eq_some

/-- The two first fields of a list, each without its prefix. -/
theorem fields_eq_some {pre pre' : String} {parts : List Str} {a b : Str} :
    (parts[0]?.bind (strip pre) = some a ∧ parts[1]?.bind (strip pre') = some b) ↔
      ∃ rest, parts = (pre.toList ++ a) :: (pre'.toList ++ b) :: rest := by
  constructor
  · rintro ⟨ha, hb⟩
    obtain ⟨f, hf, hfa⟩ := Option.bind_eq_some_iff.mp ha
    obtain ⟨g, hg, hgb⟩ := Option.bind_eq_some_iff.mp hb
    rw [strip_eq_some] at hfa hgb
    rcases parts with _ | ⟨x, _ | ⟨y, rest⟩⟩
    · simp at hf
    · simp at hg
    · simp only [List.getElem?_cons_zero, List.getElem?_cons_succ, Option.some.injEq] at hf hg
      exact ⟨rest, by rw [hf, hg, hfa, hgb]⟩
  · rintro ⟨rest, rfl⟩
    simp

/-- The gs2 header is what precedes the bare message. -/
theorem sliceTo_bare (a b : Str) : Text.sliceTo (Text.byteLen (a ++ b) - Text.byteLen b) (a ++ b) = some a := by
  rw [Text.byteLen_append, Nat.add_sub_cancel]
  exact Text.sliceTo_append a b

/-- **An accepted client-first message**: its parts, none of them lost. -/
theorem ClientFirst.parse_eq_ok {message : Str} {first : ClientFirst}
    (h : ClientFirst.parse message = .ok first) :
    ∃ (authzid username : Str) (exts : List Str),
      ',' ∉ first.cbindFlag ∧ ',' ∉ authzid ∧ ',' ∉ username ∧ ',' ∉ first.nonce ∧ first.nonce ≠ [] ∧
      first.gs2Header = first.cbindFlag ++ ',' :: authzid ++ [','] ∧
      first.bare = "n=".toList ++ username ++ ',' :: "r=".toList ++ first.nonce ++ exts.flatMap (',' :: ·) ∧
      (∀ e ∈ exts, ',' ∉ e) ∧ message = first.gs2Header ++ first.bare := by
  simp only [ClientFirst.parse] at h
  cases h1 : Text.splitOnce ',' message with
  | none => simp [h1] at h
  | some p1 =>
    obtain ⟨flag, rest⟩ := p1
    obtain ⟨rfl, hflag⟩ := Text.splitOnce_eq_some.mp h1
    cases h2 : Text.splitOnce ',' rest with
    | none => simp [h1, h2] at h
    | some p2 =>
      obtain ⟨authzid, bare⟩ := p2
      obtain ⟨rfl, hauth⟩ := Text.splitOnce_eq_some.mp h2
      simp only [h1, h2, Outcome.okOr_some, Outcome.ok_bind] at h
      split_ifs at h with ha
      split at h
      · rename_i username nonce hu hn
        obtain ⟨exts, hparts⟩ := fields_eq_some.mp ⟨hu, hn⟩
        have hfree : ∀ f ∈ bare.splitOn ',', ',' ∉ f := fun f hf => Text.notMem_of_mem_splitOn hf
        rw [hparts] at hfree
        have hslice : Text.sliceTo (Text.byteLen (flag ++ ',' :: (authzid ++ ',' :: bare)) - Text.byteLen bare)
            (flag ++ ',' :: (authzid ++ ',' :: bare)) = some (flag ++ ',' :: authzid ++ [',']) := by
          have := sliceTo_bare (flag ++ ',' :: authzid ++ [',']) bare
          simpa using this
        rw [hslice] at h
        split_ifs at h with hne
        simp only [Outcome.expect_some, Outcome.ok_bind, Outcome.pure_eq, Outcome.ok.injEq] at h
        subst h
        have hun := hfree ("n=".toList ++ username) (by simp)
        have hnn := hfree ("r=".toList ++ nonce) (by simp)
        refine ⟨authzid, username, exts, hflag, hauth, ?_, ?_, hne, rfl, ?_, ?_, ?_⟩
        · exact fun hc => hun (List.mem_append_right _ hc)
        · exact fun hc => hnn (List.mem_append_right _ hc)
        · simpa using Text.eq_of_splitOn hparts
        · exact fun e he => hfree e (by simp [he])
        · simp
      · simp at h

/-! ### Nothing panics -/

theorem decodeUtf8_ne_panic (data : Bytes) : decodeUtf8 data ≠ .panic := Outcome.okOr_ne_panic _ _

/-- The slice of the gs2 header ends on a character boundary. -/
theorem ClientFirst.parse_ne_panic (message : Str) : ClientFirst.parse message ≠ .panic := by
  unfold ClientFirst.parse
  refine Outcome.bind_ne_panic (Outcome.okOr_ne_panic _ _) fun p hp => ?_
  refine Outcome.bind_ne_panic (Outcome.okOr_ne_panic _ _) fun p' hp' => ?_
  obtain ⟨flag, rest⟩ := p
  obtain ⟨authzid, bare⟩ := p'
  obtain ⟨rfl, -⟩ := Text.splitOnce_eq_some.mp (Outcome.okOr_eq_ok.mp hp)
  obtain ⟨rfl, -⟩ := Text.splitOnce_eq_some.mp (Outcome.okOr_eq_ok.mp hp')
  have hslice := sliceTo_bare (flag ++ ',' :: authzid ++ [',']) bare
  simp only [List.append_assoc, List.cons_append, List.nil_append] at hslice
  dsimp only
  split
  · simp
  split
  · split
    · rw [hslice]
      simp
    · simp
  · simp

theorem negotiate_ne_panic (mechanism : String) (cbindFlag : Str) (certificate : Option Bytes) :
    negotiate mechanism cbindFlag certificate ≠ .panic := by
  unfold negotiate
  repeat' split
  all_goals simp

theorem Exchange.verify_ne_panic {K : Crypto} (x : Exchange) (message : Bytes) : x.verify K message ≠ .panic := by
  unfold Exchange.verify
  refine Outcome.bind_ne_panic (decodeUtf8_ne_panic _) fun text _ => ?_
  refine Outcome.bind_ne_panic (Outcome.okOr_ne_panic _ _) fun p _ => ?_
  dsimp only
  split
  · split
    · simp
    split
    · simp
    refine Outcome.bind_ne_panic (Outcome.okOr_ne_panic _ _) fun proof _ => ?_
    repeat' split
    all_goals simp
  · simp

section Verify

variable {K} {x : Exchange}

/-- **The verdict on a client-final message** with the fields `c=`, `r=`, any extensions and `p=`, for the
right channel binding and nonce and a proof of 32 bytes. -/
theorem Exchange.verify_fields {exts : List Str} {proof : Bytes} (hcb : ',' ∉ x.channelBinding)
    (hn : ',' ∉ x.nonce) (he : ∀ e ∈ exts, ',' ∉ e) (hp : proof.length = 32) {withoutProof : Str}
    (hw : withoutProof = "c=".toList ++ x.channelBinding ++ ",r=".toList ++ x.nonce ++ exts.flatMap (',' :: ·)) :
    x.verify K (utf8 (withoutProof ++ ",p=".toList ++ Base64.encode proof)) =
      if K.digest (xorBytes proof (K.hmac x.verifier.storedKey
          (utf8 (x.authPrefix ++ ",".toList ++ withoutProof)))) = x.verifier.storedKey ∧ x.mock = false then
        .ok ("v=".toList ++ Base64.encode (K.hmac x.verifier.serverKey
          (utf8 (x.authPrefix ++ ",".toList ++ withoutProof))))
      else .err (.invalidPassword x.user) := by
  have hcomma : ',' ∉ Base64.encode proof := Base64.notMem_encode (by decide) proof
  have hsplit : Text.rsplitOnce ",p=".toList (withoutProof ++ ",p=".toList ++ Base64.encode proof) =
      some (withoutProof, Base64.encode proof) := Text.rsplitOnce_append (p := "p=".toList) (by decide) hcomma
  have hfields : withoutProof.splitOn ',' =
      ("c=".toList ++ x.channelBinding) :: ("r=".toList ++ x.nonce) :: exts := by
    have := Text.splitOn_fields (d := ',') (f := "c=".toList ++ x.channelBinding)
      (("r=".toList ++ x.nonce) :: exts) (by simpa using hcb) (by simpa using ⟨hn, he⟩)
    rw [hw, ← this]
    simp
  obtain ⟨hc, hr⟩ := fields_eq_some.mpr ⟨exts, hfields⟩
  simp only [Exchange.verify, decodeUtf8, Text.fromUtf8_utf8, Outcome.okOr_some, Outcome.ok_bind, hsplit, hc,
    hr, Base64.decode_encode]
  by_cases hok : K.digest (xorBytes proof (K.hmac x.verifier.storedKey
      (utf8 (x.authPrefix ++ ",".toList ++ withoutProof)))) = x.verifier.storedKey
  · cases hm : x.mock <;> simp_all
  · simp_all

/-- **An accepted client-final message**: its fields, and the proof it carries. -/
theorem Exchange.verify_eq_ok {message : Bytes} {s : Str} (h : x.verify K message = .ok s) :
    ∃ (withoutProof proofText : Str) (exts : List Str) (proof : Bytes),
      message = utf8 (withoutProof ++ ",p=".toList ++ proofText) ∧
      withoutProof.splitOn ',' = ("c=".toList ++ x.channelBinding) :: ("r=".toList ++ x.nonce) :: exts ∧
      Base64.decode proofText = some proof ∧ proof.length = 32 ∧
      K.digest (xorBytes proof (K.hmac x.verifier.storedKey
        (utf8 (x.authPrefix ++ ",".toList ++ withoutProof)))) = x.verifier.storedKey ∧
      x.mock = false ∧
      s = "v=".toList ++ Base64.encode (K.hmac x.verifier.serverKey
        (utf8 (x.authPrefix ++ ",".toList ++ withoutProof))) := by
  simp only [Exchange.verify, decodeUtf8] at h
  cases h1 : fromUtf8 message with
  | none => simp [h1] at h
  | some text =>
    cases h2 : Text.rsplitOnce ",p=".toList text with
    | none =>
      rw [h1, Outcome.okOr_some, Outcome.ok_bind, h2] at h
      cases h
    | some p2 =>
      obtain ⟨withoutProof, proofText⟩ := p2
      simp only [h1, h2, Outcome.okOr_some, Outcome.ok_bind] at h
      split at h
      · rename_i cb nonce hc hr
        obtain ⟨exts, hfields⟩ := fields_eq_some.mp ⟨hc, hr⟩
        split_ifs at h with hcb hnonce
        push Not at hcb hnonce
        cases h3 : Base64.decode proofText with
        | none => simp [h3] at h
        | some proof =>
          simp only [h3, Outcome.okOr_some, Outcome.ok_bind] at h
          split_ifs at h with hlen hok
          push Not at hlen
          simp only [Bool.or_eq_true, Bool.not_eq_true', beq_eq_false_iff_ne, not_or, ne_eq, not_not,
            Bool.not_eq_true] at hok
          refine ⟨withoutProof, proofText, exts, proof, ?_, ?_, h3, hlen, hok.1, hok.2, ?_⟩
          · rw [Text.fromUtf8_eq_some.mp h1, Text.rsplitOnce_eq_append h2]
          · rw [hfields, hcb, hnonce]
          · simpa using h.symm
      · simp at h

end Verify

end Pywire.Scram
