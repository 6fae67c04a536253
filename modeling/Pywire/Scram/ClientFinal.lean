import Pywire.Scram.Exchange

/-!
# ClientFinal: the client-final messages that an exchange accepts

`Exchange.Formed` is the grammar of a client-final message: the channel binding and the nonce of the exchange,
any extension fields, and the base64 of a proof of 32 bytes.  `Exchange.verify` splits the text from the right
for the proof and from the left for the fields; both splits find the parts that the grammar put there.

* `Exchange.verify_iff`: **Main result** — `verify` accepts exactly the messages of the grammar whose proof is
  right, and a message is of the grammar in one way only.
* `Exchange.verify_not_replayed`: a message that one exchange accepts is accepted by no exchange with another
  server nonce.
-/

namespace Pywire.Scram

open Async (Outcome)
open Text (utf8)

/-! ### The grammar -/

/-- A client-final message without its proof. -/
def Exchange.withoutProof (x : Exchange) (exts : List Str) : Str :=
  "c=".toList ++ x.channelBinding ++ ",r=".toList ++ x.nonce ++ exts.flatMap (',' :: ·)

/-- `message` consists of the fields `c=` and `r=` of the exchange, the extensions and the proof. -/
structure Exchange.Formed (x : Exchange) (message : Bytes) (exts : List Str) (proof : Bytes) : Prop where
  text : message = utf8 (x.withoutProof exts ++ ",p=".toList ++ Base64.encode proof)
  exts_free : ∀ e ∈ exts, ',' ∉ e
  proof_length : proof.length = 32

/-- The text that both sides sign: the bare client-first message, the server-first message and the client-final
message without its proof. -/
def authMessage (first : ClientFirst) (x : Exchange) (exts : List Str) : Bytes :=
  utf8 (first.bare ++ ",".toList ++ x.serverFirst ++ ",".toList ++ x.withoutProof exts)

theorem ClientFirst.notMem_nonce {message : Str} {first : ClientFirst} (h : ClientFirst.parse message = .ok first) :
    ',' ∉ first.nonce := by
  obtain ⟨-, -, -, -, -, -, hnonce, -⟩ := ClientFirst.parse_eq_ok h
  exact hnonce

section Formed

variable {x : Exchange} {message : Bytes} {exts exts' : List Str} {proof proof' : Bytes}

/-- The fields of a message of the grammar, the proof's own field last. -/
theorem Exchange.splitOn_formed (hcb : ',' ∉ x.channelBinding) (hn : ',' ∉ x.nonce) (he : ∀ e ∈ exts, ',' ∉ e) :
    (x.withoutProof exts ++ ",p=".toList ++ Base64.encode proof).splitOn ',' =
      ("c=".toList ++ x.channelBinding) :: ("r=".toList ++ x.nonce) :: exts ++ ["p=".toList ++ Base64.encode proof] := by
  have hproof : ',' ∉ Base64.encode proof := Base64.notMem_encode (by decide) proof
  have hfree : ∀ g ∈ ("r=".toList ++ x.nonce) :: exts ++ ["p=".toList ++ Base64.encode proof], ',' ∉ g := by
    intro g hg
    simp only [List.cons_append, List.mem_cons, List.mem_append, List.not_mem_nil, or_false] at hg
    rcases hg with rfl | hg | rfl
    · simpa using hn
    · exact he g hg
    · simpa using hproof
  have := Text.splitOn_fields (d := ',') (f := "c=".toList ++ x.channelBinding) _ (by simpa using hcb) hfree
  rw [List.cons_append, ← this]
  simp [Exchange.withoutProof]

/-- **One way to read a message**, also when an extension itself looks like a proof. -/
theorem Exchange.Formed.unique (hcb : ',' ∉ x.channelBinding) (hn : ',' ∉ x.nonce)
    (h : x.Formed message exts proof) (h' : x.Formed message exts' proof') : exts = exts' ∧ proof = proof' := by
  have htext := Text.utf8_injective (h.text.symm.trans h'.text)
  have hfields := congrArg (List.splitOn ',') htext
  rw [Exchange.splitOn_formed hcb hn h.exts_free, Exchange.splitOn_formed hcb hn h'.exts_free] at hfields
  simp only [List.cons_append, List.cons.injEq, true_and] at hfields
  obtain ⟨hexts, hproof⟩ := List.append_inj' hfields rfl
  have hencode : Base64.encode proof = Base64.encode proof' := by simpa using hproof
  exact ⟨hexts, Base64.encode_injective hencode⟩

/-- What `verify` accepts is of the grammar. -/
theorem Exchange.formed_of_verify {K : Crypto} {s : Str} (h : x.verify K message = .ok s) :
    ∃ exts proof, x.Formed message exts proof ∧ x.mock = false ∧
      K.digest (xorBytes proof (K.hmac x.verifier.storedKey
        (utf8 (x.authPrefix ++ ",".toList ++ x.withoutProof exts)))) = x.verifier.storedKey ∧
      s = "v=".toList ++ Base64.encode (K.hmac x.verifier.serverKey
        (utf8 (x.authPrefix ++ ",".toList ++ x.withoutProof exts))) := by
  obtain ⟨withoutProof, proofText, exts, proof, hmessage, hfields, hdecode, hlength, hok, hmock, hs⟩ :=
    Exchange.verify_eq_ok h
  obtain rfl := Base64.decode_eq_some.mp hdecode
  have hexts : ∀ e ∈ exts, ',' ∉ e := by
    intro e he
    refine Text.notMem_of_mem_splitOn (s := withoutProof) ?_
    rw [hfields]
    simp [he]
  have hw : withoutProof = x.withoutProof exts := by
    rw [Text.eq_of_splitOn hfields]
    simp [Exchange.withoutProof]
  subst hw
  exact ⟨exts, proof, ⟨hmessage, hexts, hlength⟩, hmock, hok, hs⟩

end Formed

/-! ### Acceptance -/

section Verify

variable (K : Crypto)

/-- **What `verify` accepts.**  An exchange built from a client-first message accepts the messages of the
grammar with the right proof, and each of them is of the grammar in one way. -/
theorem Exchange.verify_iff {clientFirst : Str} {first : ClientFirst} (hparse : ClientFirst.parse clientFirst = .ok first)
    {serverNonce : Str} (hnonce : ',' ∉ serverNonce) (cbindData : Bytes) (user : String) (verifier : PyScramVerifier)
    (mock : Bool) (message : Bytes) :
    let x := Exchange.new first cbindData serverNonce user verifier mock
    (∀ s, x.verify K message = .ok s ↔ ∃ exts proof, x.Formed message exts proof ∧ mock = false ∧
      K.digest (xorBytes proof (K.hmac verifier.storedKey (authMessage first x exts))) = verifier.storedKey ∧
      s = "v=".toList ++ Base64.encode (K.hmac verifier.serverKey (authMessage first x exts))) ∧
    ∀ exts proof exts' proof', x.Formed message exts proof → x.Formed message exts' proof' →
      exts = exts' ∧ proof = proof' := by
  intro x
  have hcb : ',' ∉ x.channelBinding := Base64.notMem_encode (by decide) _
  have hn : ',' ∉ x.nonce := by
    have := ClientFirst.notMem_nonce hparse
    simp [x, Exchange.new, this, hnonce]
  have hauth : ∀ exts, utf8 (x.authPrefix ++ ",".toList ++ x.withoutProof exts) = authMessage first x exts := by
    intro exts
    rfl
  refine ⟨fun s => ⟨fun h => ?_, ?_⟩, fun exts proof exts' proof' h h' => h.unique hcb hn h'⟩
  · obtain ⟨exts, proof, hformed, hmock, hok, hs⟩ := Exchange.formed_of_verify h
    rw [hauth] at hok hs
    exact ⟨exts, proof, hformed, hmock, hok, hs⟩
  · rintro ⟨exts, proof, hformed, hmock, hok, rfl⟩
    have hverify := Exchange.verify_fields (K := K) hcb hn hformed.exts_free hformed.proof_length
      (show x.withoutProof exts = _ from rfl)
    rw [hauth, if_pos ⟨hok, hmock⟩] at hverify
    rw [hformed.text]
    exact hverify

end Verify

namespace Sesame

def first : ClientFirst := ⟨"n".toList, "n,,".toList, "n=,r=open".toList, "open".toList⟩

theorem iterations_ne : (4096 : UInt32) ≠ 0 := by decide
theorem salt_ne : ([1] : Bytes) ≠ [] := List.cons_ne_nil 1 []

def verifier : PyScramVerifier :=
  ⟨4096, [1], List.replicate 32 0, List.replicate 32 0, iterations_ne, salt_ne, rfl, rfl⟩

def exchange : Exchange := .new first [] "sesame".toList "user" verifier false

/-- A message with an extension that looks like a proof. -/
def message : Bytes :=
  utf8 (exchange.withoutProof ["p=mine".toList] ++ ",p=".toList ++ Base64.encode (List.replicate 32 0))

end Sesame

theorem Exchange.verify_iff_sesame :
    Sesame.exchange.verify default Sesame.message = .ok ("v=".toList ++ Base64.encode (List.replicate 32 0)) :=
  ((Exchange.verify_iff default (show ClientFirst.parse "n,,n=,r=open".toList = .ok Sesame.first by decide +kernel)
    (show ',' ∉ "sesame".toList by decide) [] "user" Sesame.verifier false Sesame.message).1 _).mpr
      ⟨["p=mine".toList], List.replicate 32 0, ⟨rfl, by decide, rfl⟩, rfl, rfl, rfl⟩

/-! ### Replay -/

section Replay

variable {K : Crypto}

/-- The second field of an accepted message is the nonce of the exchange. -/
theorem Exchange.nonce_of_verify {x : Exchange} {message : Bytes} {s : Str} (h : x.verify K message = .ok s) :
    ∃ text, message = utf8 text ∧ (text.splitOn ',')[1]? = some ("r=".toList ++ x.nonce) := by
  obtain ⟨withoutProof, _, _, _, _, hfields, -⟩ := Exchange.verify_eq_ok h
  have hfree : ∀ f ∈ withoutProof.splitOn ',', ',' ∉ f := fun f hf => Text.notMem_of_mem_splitOn hf
  have hcb : ',' ∉ "c=".toList ++ x.channelBinding := hfree _ (by simp [hfields])
  have hn : ',' ∉ "r=".toList ++ x.nonce := hfree _ (by simp [hfields])
  obtain ⟨exts, proof, hformed, -⟩ := Exchange.formed_of_verify h
  refine ⟨_, hformed.text, ?_⟩
  rw [Exchange.splitOn_formed (fun hc => hcb (List.mem_append_right _ hc))
    (fun hc => hn (List.mem_append_right _ hc)) hformed.exts_free]
  rfl

/-- Two accepting exchanges have one nonce. -/
theorem Exchange.nonce_unique {x x' : Exchange} {message : Bytes} {s s' : Str} (h : x.verify K message = .ok s)
    (h' : x'.verify K message = .ok s') : x.nonce = x'.nonce := by
  obtain ⟨text, htext, hfield⟩ := Exchange.nonce_of_verify h
  obtain ⟨text', htext', hfield'⟩ := Exchange.nonce_of_verify h'
  obtain rfl := Text.utf8_injective (htext.symm.trans htext')
  rw [hfield] at hfield'
  exact List.append_cancel_left (Option.some.inj hfield')

/-- **No replay.**  The nonce that the server adds has a fixed length, so no choice of the client's part makes
the nonces of two exchanges equal. -/
theorem Exchange.verify_not_replayed (K : Crypto) (first first' : ClientFirst) (cbindData cbindData' : Bytes)
    (user user' : String) (verifier verifier' : PyScramVerifier) (mock mock' : Bool) {serverNonce serverNonce' : Bytes}
    (hlength : serverNonce.length = 18) (hlength' : serverNonce'.length = 18) (hne : serverNonce ≠ serverNonce')
    (message : Bytes) (s s' : Str) :
    ¬ ((Exchange.new first cbindData (Base64.encode serverNonce) user verifier mock).verify K message = .ok s ∧
      (Exchange.new first' cbindData' (Base64.encode serverNonce') user' verifier' mock').verify K message = .ok s') := by
  rintro ⟨h, h'⟩
  have hnonce : first.nonce ++ Base64.encode serverNonce = first'.nonce ++ Base64.encode serverNonce' :=
    Exchange.nonce_unique h h'
  have hlen : (Base64.encode serverNonce).length = (Base64.encode serverNonce').length := by
    rw [Base64.length_encode, Base64.length_encode, hlength, hlength']
  obtain ⟨-, hencode⟩ := List.append_inj' hnonce hlen
  exact hne (Base64.encode_injective hencode)

end Replay

theorem Exchange.verify_not_replayed_sesame :
    ¬ ((Exchange.new Sesame.first [] (Base64.encode (List.replicate 18 0)) "user" Sesame.verifier false).verify
        default Sesame.message = .ok [] ∧
      (Exchange.new Sesame.first [] (Base64.encode (List.replicate 18 1)) "user" Sesame.verifier false).verify
        default Sesame.message = .ok []) :=
  Exchange.verify_not_replayed default Sesame.first Sesame.first [] [] "user" "user" Sesame.verifier Sesame.verifier
    false false rfl rfl (by decide) Sesame.message [] []

end Pywire.Scram
