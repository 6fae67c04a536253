import Pywire.Lifecycle
import Pywire.Scram.Client

/-!
# ChannelBinding: what an accepted `c=` proves

A client computes `c=` from its own gs2 header and its own binding bytes; the server compares it with what it
computed from the header it received and the bytes it negotiated.  The comparison is of base64 texts, and equal
texts mean equal parts because gs2 headers, two commas long and ending in the second, are prefix-free.

* `ScramVerifierStartupHandler.channel_bound`: **Main result** — an accepted exchange was not downgraded.
-/

namespace Pywire

open Async Scram

/-- The gs2 header of an accepted message has two commas, the second at its end. -/
theorem Scram.ClientFirst.gs2Header_commas {message : Str} {first : ClientFirst}
    (h : ClientFirst.parse message = .ok first) :
    first.gs2Header.count ',' = 2 ∧ first.gs2Header.getLast? = some ',' := by
  obtain ⟨authzid, -, -, hflag, hauthzid, -, -, -, hgs2, -, -, -⟩ := ClientFirst.parse_eq_ok h
  rw [hgs2]
  constructor
  · simp [List.count_eq_zero_of_not_mem hflag, List.count_eq_zero_of_not_mem hauthzid]
  · exact List.getLast?_concat

/-- The `c=` field of an accepted message is the server's own. -/
theorem Scram.Exchange.channelBinding_eq {K : Crypto} {x : Exchange} {s : Str} {cb : Bytes} {rest : Str}
    (h : x.verify K (Text.utf8 ("c=".toList ++ Base64.encode cb ++ ',' :: rest)) = .ok s) :
    Base64.encode cb = x.channelBinding := by
  obtain ⟨withoutProof, proofText, exts, proof, hm, hsplit, -⟩ := Exchange.verify_eq_ok h
  have hfree : ',' ∉ "c=".toList ++ x.channelBinding :=
    Text.notMem_of_mem_splitOn (s := withoutProof) (by rw [hsplit]; exact List.mem_cons_self ..)
  have htext := Text.utf8_injective hm
  rw [Text.eq_of_splitOn hsplit] at htext
  -- both texts split at their first comma, behind the client's field and behind the server's
  have hclient : Text.splitOnce ',' ("c=".toList ++ Base64.encode cb ++ ',' :: rest) =
      some ("c=".toList ++ Base64.encode cb, rest) :=
    Text.splitOnce_append (by simpa using Base64.notMem_encode (by decide) cb)
  have hserver := Text.splitOnce_append hfree
    (b := "r=".toList ++ x.nonce ++ exts.flatMap (',' :: ·) ++ ",p=".toList ++ proofText)
  rw [htext] at hclient
  simp only [List.flatMap_cons, List.cons_append, List.append_assoc] at hclient hserver
  rw [hserver] at hclient
  exact (List.append_cancel_left (Prod.mk.inj (Option.some.inj hclient)).1).symm

namespace ScramVerifierStartupHandler

variable {K : Crypto} {hs : ScramVerifierStartupHandler}

/-- The mechanisms that `on_startup` offers a client on a connection with or without TLS. -/
def Offered (K : Crypto) (hs : ScramVerifierStartupHandler) (secure : Bool) (offer : List String) : Prop :=
  ∃ env w startup, w.st.secure = secure ∧ ((hs.onStartup K (.startup startup)).run env w).1 = .ok () ∧
    ((hs.onStartup K (.startup startup)).run env w).2.log.getLast? = some (.called (.send (.authenticationSasl offer)) ())

/-- The offer depends on nothing but TLS and the configuration. -/
theorem offered_iff {w : WireWorld} {offer : List String} :
    Offered K hs w.st.secure offer ↔ offer = hs.mechanisms w.st := by
  constructor
  · rintro ⟨env, w', startup, hsecure, hok, hlast⟩
    simp only [onStartup, Prog.run_bind, Prog.run_await, Prog.resume_ok, Prog.run_ofExcept] at hok hlast
    cases hr : env w'.log (.protocolNegotiation startup) with
    | error e =>
      rw [hr] at hok
      cases hok
    | ok u =>
      simp only [hr, Prog.resume_ok, Prog.run_bind, Prog.run_modify, Prog.run_get, Prog.run_await, World.called_log,
        World.modify_log, List.getLast?_concat, Option.some.injEq] at hlast
      injection hlast with hlast
      injection hlast with hlast
      injection hlast with hlast
      rw [← hlast]
      simp [mechanisms, certificate, Conn.saveStartupParameters, hsecure]
  · rintro rfl
    refine ⟨agreeable, w, ⟨[]⟩, rfl, ?_, ?_⟩
    · simp [onStartup, agreeable]
    · simp [onStartup, agreeable, mechanisms, certificate, Conn.saveStartupParameters]

/-- `PLUS` is offered where there is a certificate hash. -/
theorem plus_offered {w : WireWorld} :
    ((∀ offer, Offered K hs w.st.secure offer → scramSha256Plus ∈ offer) ↔ (hs.certificate w.st).isSome = true) ∧
      ((∀ offer, Offered K hs w.st.secure offer → scramSha256Plus ∉ offer) ↔ hs.certificate w.st = none) := by
  have hne : scramSha256Plus ≠ scramSha256 := by decide
  simp only [offered_iff, forall_eq, mechanisms]
  cases hs.certificate w.st <;> simp [hne]

/-- How an exchange starts. -/
theorem start_eq_ok {env : WireEnv} {w : WireWorld} {mechanism : String} {data : Option Bytes} {x : Exchange}
    (h : ((hs.start K mechanism data).run env w).1 = .ok x) :
    ∃ d first cbindData, data = some d ∧ (decodeUtf8 d >>= ClientFirst.parse) = .ok first ∧
      negotiate mechanism first.cbindFlag (hs.certificate w.st) = .ok cbindData ∧
      x.channelBinding = Base64.encode (Text.utf8 first.gs2Header ++ cbindData) := by
  have hsat : Prog.Sat (fun _ _ => True) (hs.start K mechanism data) w (fun o _ => ∀ x, o = .ok x →
      ∃ d first cbindData, data = some d ∧ (decodeUtf8 d >>= ClientFirst.parse) = .ok first ∧
        negotiate mechanism first.cbindFlag (hs.certificate w.st) = .ok cbindData ∧
        x.channelBinding = Base64.encode (Text.utf8 first.gs2Header ++ cbindData)) := by
    refine start_spec K hs trivial (fun _ => trivial) (fun e => by simp) (fun e => by simp) ?_
    rintro d first cbindData found nonce verifier mock hd hparse hneg - x ⟨⟩
    exact ⟨d, first, cbindData, hd, hparse, hneg, rfl⟩
  exact hsat.run env x h

theorem negotiate_eq_ok {mechanism : String} {cbindFlag : Str} {certificate : Option Bytes} {cbindData : Bytes}
    (h : negotiate mechanism cbindFlag certificate = .ok cbindData) :
    (mechanism = scramSha256Plus ∧ cbindFlag = "p=tls-server-end-point".toList ∧ certificate = some cbindData) ∨
      (mechanism = scramSha256 ∧ cbindData = [] ∧
        (cbindFlag = "n".toList ∨ cbindFlag = "y".toList ∧ certificate = none)) := by
  unfold negotiate at h
  split at h
  · split at h
    · split at h
      · cases h
        exact .inl ⟨‹_›, ‹_›, rfl⟩
      · cases h
    · cases h
  · split at h
    · split at h
      · cases h
        exact .inr ⟨‹_›, rfl, ‹_›⟩
      · cases h
    · cases h

/-- **Main result**: client and server agree on the gs2 header and the binding bytes, and on whether the channel
could have been bound. -/
theorem channel_bound (K : Crypto) (hs : ScramVerifierStartupHandler) (env : WireEnv) (w : WireWorld)
    (mechanism : String) (data : Option Bytes) (x : Exchange)
    (hstart : ((hs.start K mechanism data).run env w).1 = .ok x) (gs2 : Str) (binding : Bytes) (rest s : Str)
    (hcommas : gs2.count ',' = 2) (hlast : gs2.getLast? = some ',')
    (hverify : x.verify K (Text.utf8 ("c=".toList ++ Base64.encode (Text.utf8 gs2 ++ binding) ++ ',' :: rest)) = .ok s) :
    ∃ first, data = some (Text.utf8 (gs2 ++ first.bare)) ∧ ClientFirst.parse (gs2 ++ first.bare) = .ok first ∧
      gs2 = first.gs2Header ∧ negotiate mechanism first.cbindFlag (hs.certificate w.st) = .ok binding ∧
      ((mechanism = scramSha256Plus ∧ (∀ offer, Offered K hs w.st.secure offer → scramSha256Plus ∈ offer) ∧
          first.cbindFlag = "p=tls-server-end-point".toList ∧ hs.config.certificate = some binding) ∨
        (mechanism = scramSha256 ∧ binding = [] ∧ (first.cbindFlag = "n".toList ∨
          first.cbindFlag = "y".toList ∧ ∀ offer, Offered K hs w.st.secure offer → scramSha256Plus ∉ offer))) := by
  obtain ⟨d, first, cbindData, rfl, hfirst, hneg, hx⟩ := start_eq_ok hstart
  have hcb := Exchange.channelBinding_eq hverify
  rw [hx] at hcb
  -- the server's own message, and the header in front of it
  obtain ⟨text, htext, hparse⟩ : ∃ text, d = Text.utf8 text ∧ ClientFirst.parse text = .ok first := by
    unfold decodeUtf8 at hfirst
    cases hd : Text.fromUtf8 d with
    | none => rw [hd] at hfirst; cases hfirst
    | some text =>
      rw [hd] at hfirst
      exact ⟨text, Text.fromUtf8_eq_some.mp hd, hfirst⟩
  obtain ⟨hcommas', hlast'⟩ := ClientFirst.gs2Header_commas hparse
  obtain ⟨rfl, rfl⟩ := Text.utf8_header_unique (d := ',') (by decide) (hcommas.trans hcommas'.symm) hlast hlast'
    (Base64.encode_injective hcb)
  obtain ⟨-, -, -, -, -, -, -, -, -, -, -, rfl⟩ := ClientFirst.parse_eq_ok hparse
  refine ⟨first, by rw [htext], hparse, rfl, hneg, ?_⟩
  obtain ⟨hplus, hno⟩ := @plus_offered K hs w
  rcases negotiate_eq_ok hneg with ⟨hm, hflag, hcert⟩ | ⟨hm, hnil, hflag⟩
  · refine .inl ⟨hm, hplus.mpr (by rw [hcert]; rfl), hflag, ?_⟩
    exact (Option.filter_eq_some_iff.mp hcert).1
  · refine .inr ⟨hm, hnil, ?_⟩
    rcases hflag with hflag | ⟨hflag, hcert⟩
    · exact .inl hflag
    · exact .inr ⟨hflag, hno.mpr hcert⟩

end ScramVerifierStartupHandler

/-! ### A client on a bound channel -/

namespace Bound

open Rfc7677 (salt clientKey storedKey serverKey)

def certificate : Bytes :=
  [0x03, 0xd6, 0x6d, 0xd0, 0x88, 0x35, 0xc1, 0xca, 0x3f, 0x12, 0x8c, 0xce, 0xac, 0xd1, 0xf3, 0x1a,
   0xc9, 0x41, 0x63, 0x09, 0x6b, 0x20, 0xf4, 0x45, 0xae, 0x84, 0x28, 0x5b, 0xc0, 0x83, 0x2d, 0x72]
def clientSignature : Bytes :=
  [0x4e, 0xf7, 0xb1, 0x19, 0xe6, 0x92, 0x58, 0x94, 0xe7, 0xed, 0xbc, 0x3a, 0x1e, 0xb2, 0x31, 0x63,
   0xe3, 0xc0, 0xf6, 0x78, 0xc6, 0xc2, 0xe4, 0x47, 0x2d, 0x5a, 0xe7, 0xc7, 0x64, 0x9a, 0x05, 0x9d]
def serverSignature : Bytes :=
  [0xf4, 0x57, 0x07, 0x3c, 0x81, 0xf4, 0xa1, 0xb2, 0x29, 0xe6, 0xfa, 0xbb, 0x62, 0x7e, 0x0a, 0x09,
   0xe2, 0x73, 0xfc, 0x32, 0x3d, 0x48, 0xc3, 0xfb, 0x45, 0x2e, 0x91, 0x17, 0x53, 0x61, 0x0b, 0x90]
def proof : Bytes :=
  [0xe8, 0xf8, 0x78, 0x3a, 0x30, 0xec, 0xde, 0xd0, 0x4e, 0xc0, 0xaa, 0x83, 0x70, 0x68, 0x6f, 0x97,
   0x86, 0xab, 0xfa, 0x0a, 0x9a, 0x8a, 0xa7, 0x33, 0x93, 0x7f, 0xb4, 0x92, 0x12, 0x03, 0x6b, 0x16]
def drawn : Bytes := (List.range 18).map UInt8.ofNat
def gs2 : Str := "p=tls-server-end-point,,".toList
def first : ClientFirst :=
  ⟨"p=tls-server-end-point".toList, gs2, "n=user,r=rOprNGfwEbeRWgbNEkqO".toList, "rOprNGfwEbeRWgbNEkqO".toList⟩
def nonce : Str := "rOprNGfwEbeRWgbNEkqO".toList ++ Base64.encode drawn
def rest : Str := "r=".toList ++ nonce ++ ",p=".toList ++ Base64.encode proof
def withoutProof : Str :=
  "c=".toList ++ Base64.encode (Text.utf8 gs2 ++ certificate) ++ ",r=".toList ++ nonce
def authMessage : Bytes := Text.utf8 (first.bare ++ ",".toList ++
  ("r=".toList ++ nonce ++ ",s=".toList ++ Base64.encode salt ++ ",i=".toList ++ "4096".toList) ++ ",".toList ++
  withoutProof)

theorem ite_length {p : Prop} [Decidable p] {a b : Bytes} (ha : a.length = 32) (hb : b.length = 32) :
    (if p then a else b).length = 32 := by
  split
  · exact ha
  · exact hb

/-- SHA-256 on the inputs of this exchange. -/
def digest (m : Bytes) : Bytes := if m = clientKey then storedKey else List.replicate 32 0

/-- HMAC-SHA-256 on the inputs of this exchange. -/
def hmac (key m : Bytes) : Bytes :=
  if key = storedKey ∧ m = authMessage then clientSignature
  else if key = serverKey ∧ m = authMessage then serverSignature
  else List.replicate 32 0

theorem digest_length (m : Bytes) : (digest m).length = 32 := ite_length rfl rfl

theorem hmac_length (key m : Bytes) : (hmac key m).length = 32 := ite_length rfl (ite_length rfl rfl)

def crypto : Crypto := ⟨digest, hmac, digest_length, hmac_length⟩

def verifier : PyScramVerifier := ⟨4096, salt, storedKey, serverKey, by decide, by decide, rfl, rfl⟩

/-- The user is known, and the nonce is drawn. -/
def env : WireEnv := fun log call =>
  match call with
  | .python (.getScramVerifier _) => .ok (some verifier)
  | .randomNonce => ⟨drawn, rfl⟩
  | call => agreeable log call

def handler : ScramVerifierStartupHandler := ⟨⟨some certificate, [], 4096, by decide⟩, false⟩

def exchange : Exchange := .new first certificate (Base64.encode drawn) "" verifier false

theorem start_eq : ((handler.start crypto scramSha256Plus (some (Text.utf8 (gs2 ++ first.bare)))).run env
    (freshWorld true "127.0.0.1")).1 = .ok exchange := by
  have hparse : ClientFirst.parse (gs2 ++ first.bare) = .ok first := by decide +kernel
  have hdecode : (decodeUtf8 (Text.utf8 (gs2 ++ first.bare)) >>= ClientFirst.parse) = .ok first := by
    rw [decodeUtf8, Text.fromUtf8_utf8]
    exact hparse
  have hneg : negotiate scramSha256Plus first.cbindFlag (handler.certificate (.accept true "127.0.0.1")) =
      .ok certificate := rfl
  simp only [ScramVerifierStartupHandler.start, Outcome.okOr_some, Prog.run_bind, Prog.run_ofOutcome, Prog.resume_ok,
    hdecode, Prog.run_get, freshWorld, hneg]
  rfl

theorem verify_eq : exchange.verify crypto (Text.utf8 ("c=".toList ++
    Base64.encode (Text.utf8 gs2 ++ certificate) ++ ',' :: rest)) =
      .ok ("v=".toList ++ Base64.encode serverSignature) := by
  have hfree : ',' ∉ exchange.nonce := by
    change ',' ∉ "rOprNGfwEbeRWgbNEkqO".toList ++ Base64.encode drawn
    rw [List.mem_append, not_or]
    exact ⟨by decide, Base64.notMem_encode (by decide) _⟩
  have hcb : ',' ∉ exchange.channelBinding := Base64.notMem_encode (by decide) _
  have hproof : withoutProof = "c=".toList ++ exchange.channelBinding ++ ",r=".toList ++ exchange.nonce ++
      ([] : List Str).flatMap (',' :: ·) := (List.append_nil _).symm
  have hfields : exchange.verify crypto (Text.utf8 (withoutProof ++ ",p=".toList ++ Base64.encode proof)) = _ :=
    Exchange.verify_fields hcb hfree (fun _ he => absurd he List.not_mem_nil) rfl hproof
  have hdigits : Nat.toDigits 10 4096 = "4096".toList := by decide
  have hauth : Text.utf8 (exchange.authPrefix ++ ",".toList ++ withoutProof) = authMessage := by
    rw [authMessage, ← hdigits]
    rfl
  have hstored : crypto.hmac storedKey authMessage = clientSignature := by simp [crypto, hmac]
  have hserver : crypto.hmac serverKey authMessage = serverSignature := by
    have hne : serverKey ≠ storedKey := by decide
    simp [crypto, hmac, hne]
  have hxor : xorBytes proof clientSignature = clientKey := by decide
  have hkey : crypto.digest (xorBytes proof clientSignature) = storedKey := by
    simp [hxor, crypto, digest]
  have hverifier : exchange.verifier = verifier := rfl
  have htext : "c=".toList ++ Base64.encode (Text.utf8 gs2 ++ certificate) ++ ',' :: rest =
      withoutProof ++ ",p=".toList ++ Base64.encode proof := by
    simp [rest, withoutProof]
  rw [htext, hfields, hauth, hverifier]
  simp only [verifier, hstored, hkey, hserver]
  rfl

end Bound

theorem channel_bound_plus :
    ∃ first, some (Text.utf8 (Bound.gs2 ++ Bound.first.bare)) = some (Text.utf8 (Bound.gs2 ++ first.bare)) ∧
      ClientFirst.parse (Bound.gs2 ++ first.bare) = .ok first ∧ Bound.gs2 = first.gs2Header ∧
      negotiate scramSha256Plus first.cbindFlag
        (Bound.handler.certificate (freshWorld true "127.0.0.1").st) = .ok Bound.certificate ∧
      ((scramSha256Plus = scramSha256Plus ∧
          (∀ offer, ScramVerifierStartupHandler.Offered Bound.crypto Bound.handler true offer →
            scramSha256Plus ∈ offer) ∧
          first.cbindFlag = "p=tls-server-end-point".toList ∧
          Bound.handler.config.certificate = some Bound.certificate) ∨
        (scramSha256Plus = scramSha256 ∧ Bound.certificate = [] ∧ (first.cbindFlag = "n".toList ∨
          first.cbindFlag = "y".toList ∧
            ∀ offer, ScramVerifierStartupHandler.Offered Bound.crypto Bound.handler true offer →
              scramSha256Plus ∉ offer))) :=
  ScramVerifierStartupHandler.channel_bound Bound.crypto Bound.handler Bound.env (freshWorld true "127.0.0.1")
    scramSha256Plus _ Bound.exchange Bound.start_eq Bound.gs2 Bound.certificate Bound.rest _ (by decide) (by decide)
    Bound.verify_eq

end Pywire
