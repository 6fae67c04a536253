import Pywire.Lib.Maintain
import Pywire.ScramGate

/-!
# Replay: a client-final message is good for one connection

The verifier handler draws 18 random bytes for the nonce of an exchange, and the client signs the nonce.  Between the
two stand a state that is taken out and put back, a lookup that may fail and any number of messages; still what is
verified on a connection is an exchange for the bytes that this connection drew.

* `PyStartupHandler.onStartup_drawing`: every message keeps the state and the log of one draw.
* `PyStartupHandler.not_replayed`: **Main result** — connections that accept the same client-final message have drawn
  the same bytes, and no others.
-/

namespace Pywire

open Async Scram

/-! ### What a connection has drawn -/

def Call.draws : Call → Bool
  | .randomNonce => true
  | _ => false

/-- These random bytes were drawn. -/
def Drew (log : Log) (bytes : Bytes) : Prop :=
  ∃ (i : ℕ) (n : Call.randomNonce.Reply), log[i]? = some (.called .randomNonce n) ∧ n.1 = bytes

/-- A client-final message was verified, and accepted. -/
def Accepted (log : Log) (message : Bytes) : Prop :=
  ∃ (b : ℕ) (x : Exchange) (serverFinal : Str), log[b]? = some (.noted ⟨x, message, .ok serverFinal⟩)

/-- The verification of this message, when it was accepted. -/
def accepts (message : Bytes) : WireEvent → Bool
  | .noted ⟨_, m, .ok _⟩ => m == message
  | _ => false

theorem accepts_iff {message : Bytes} {e : WireEvent} :
    accepts message e = true ↔ ∃ x serverFinal, e = .noted ⟨x, message, .ok serverFinal⟩ := by
  constructor
  · intro h
    cases e with
    | called c r => cases h
    | noted v =>
      obtain ⟨x, m, result⟩ := v
      cases result with
      | ok serverFinal =>
        obtain rfl := eq_of_beq h
        exact ⟨x, serverFinal, rfl⟩
      | err e => cases h
      | panic => cases h
  · rintro ⟨x, serverFinal, rfl⟩
    exact beq_self_eq_true message

theorem accepted_iff {log : Log} {message : Bytes} : Accepted log message ↔ log.any (accepts message) = true := by
  rw [List.any_eq_true]
  constructor
  · rintro ⟨b, x, serverFinal, hb⟩
    exact ⟨_, List.mem_of_getElem? hb, accepts_iff.mpr ⟨x, serverFinal, rfl⟩⟩
  · rintro ⟨e, he, ha⟩
    obtain ⟨x, serverFinal, rfl⟩ := accepts_iff.mp ha
    obtain ⟨b, hb⟩ := List.mem_iff_getElem?.mp he
    exact ⟨b, x, serverFinal, hb⟩

instance {log : Log} {message : Bytes} : Decidable (Accepted log message) :=
  decidable_of_iff _ accepted_iff.symm

/-- The exchange is one for bytes that were drawn. -/
def DrawnIn (log : Log) (x : Exchange) : Prop :=
  ∃ bytes first cbindData user verifier mock, Drew log bytes ∧
    x = .new first cbindData (Base64.encode bytes) user verifier mock

/-- A connection that has drawn once at most, and verifies exchanges for what it drew. -/
structure Drawing (K : Crypto) (w : WireWorld) : Prop where
  once : ∀ bytes bytes', Drew w.log bytes → Drew w.log bytes' → bytes = bytes'
  initial : w.st.scram = .initial → ∀ bytes, ¬ Drew w.log bytes
  sent : ∀ x, w.st.scram = .serverFirstSent x → DrawnIn w.log x
  verified : ∀ (b : ℕ) (v : Verified), w.log[b]? = some (.noted v) →
    v.result = v.exchange.verify K v.message ∧ DrawnIn w.log v.exchange

section Log

variable {K : Crypto} {w : WireWorld} {log : Log} {bytes : Bytes} {x : Exchange} {e : WireEvent}

theorem Drew.length (h : Drew log bytes) : bytes.length = 18 := by
  obtain ⟨i, n, -, rfl⟩ := h
  exact n.2

theorem Drew.concat (h : Drew log bytes) : Drew (log ++ [e]) bytes := by
  obtain ⟨i, n, hi, hn⟩ := h
  exact ⟨i, n, getElem?_concat hi, hn⟩

theorem DrawnIn.concat (h : DrawnIn log x) : DrawnIn (log ++ [e]) x := by
  obtain ⟨bytes, first, cbindData, user, verifier, mock, hdrew, hx⟩ := h
  exact ⟨bytes, first, cbindData, user, verifier, mock, hdrew.concat, hx⟩

/-- The last event of a longer log, or one before it. -/
theorem eq_or_of_concat {i : ℕ} {e' : WireEvent} (h : (log ++ [e])[i]? = some e') : log[i]? = some e' ∨ e' = e := by
  rcases Nat.lt_or_ge i log.length with hlt | hge
  · rw [List.getElem?_append_left hlt] at h
    exact .inl h
  · rw [List.getElem?_append_right hge] at h
    exact .inr (List.mem_singleton.mp (List.mem_of_getElem? h))

/-- A call that draws nothing. -/
theorem drew_called {c : Call} {r : c.Reply} (hc : c.draws = false) :
    Drew (log ++ [.called c r]) bytes ↔ Drew log bytes := by
  refine ⟨?_, Drew.concat⟩
  rintro ⟨i, n, hi, hn⟩
  rcases eq_or_of_concat hi with hi | he
  · exact ⟨i, n, hi, hn⟩
  · cases he
    cases hc

/-- The first draw. -/
theorem drew_randomNonce (h : ∀ bytes, ¬ Drew log bytes) (n : Call.randomNonce.Reply) :
    Drew (log ++ [.called .randomNonce n]) bytes ↔ bytes = n.1 := by
  constructor
  · rintro ⟨i, n', hi, rfl⟩
    rcases eq_or_of_concat hi with hi | he
    · exact absurd ⟨i, n', hi, rfl⟩ (h n'.1)
    · cases he
      rfl
  · rintro rfl
    exact ⟨log.length, n, List.getElem?_concat_length, rfl⟩

theorem drew_noted {v : Verified} : Drew (log ++ [.noted v]) bytes ↔ Drew log bytes := by
  refine ⟨?_, Drew.concat⟩
  rintro ⟨i, n, hi, hn⟩
  rcases eq_or_of_concat hi with hi | he
  · exact ⟨i, n, hi, hn⟩
  · cases he

/-- Notes are not made by calls. -/
theorem noted_of_called {c : Call} {r : c.Reply} {b : ℕ} {v : Verified}
    (h : (log ++ [.called c r])[b]? = some (.noted v)) : log[b]? = some (.noted v) := by
  rcases eq_or_of_concat h with h | he
  · exact h
  · cases he

theorem Drawing.called {c : Call} (hc : c.draws = false) (r : c.Reply) (h : Drawing K w) : Drawing K (w.called c r) := by
  refine ⟨fun bytes bytes' hb hb' => ?_, fun hs bytes hb => ?_, fun x hs => (h.sent x hs).concat, fun b v hv => ?_⟩
  · exact h.once bytes bytes' ((drew_called hc).mp hb) ((drew_called hc).mp hb')
  · exact h.initial hs bytes ((drew_called hc).mp hb)
  · obtain ⟨hresult, hdrawn⟩ := h.verified b v (noted_of_called hv)
    exact ⟨hresult, hdrawn.concat⟩

theorem Drawing.modify {f : Conn → Conn} (hf : ∀ c, (f c).scram = c.scram) (h : Drawing K w) : Drawing K (w.modify f) :=
  ⟨h.once, fun hs => h.initial ((hf w.st).symm.trans hs), fun x hs => h.sent x ((hf w.st).symm.trans hs), h.verified⟩

end Log

/-! ### Startup handlers -/

section Handlers

variable {K : Crypto} {w : WireWorld}

/-- A routine that leaves the exchange alone. -/
abbrev Idles {α : Type} (K : Crypto) (t : Proc α) : Prop := Prog.Preserves (Drawing K) t

theorem idles_await {c : Call} (hc : c.draws = false) : Idles K (await c) :=
  Prog.preserves_await fun _ r hw => hw.called hc r

theorem idles_modify {f : Conn → Conn} (hf : ∀ c, (f c).scram = c.scram) : Idles K (Prog.modify f) :=
  Prog.preserves_modify fun _ hw => hw.modify hf

theorem idles_send (m : PgWireBackendMessage) : Idles K (send m) := idles_await rfl

theorem idles_initializePythonSession : Idles K initializePythonSession := by
  refine Prog.Preserves.get_bind fun client => Prog.Preserves.bind (t := callPythonRef _) ?_ fun inst => ?_
  · refine Prog.Preserves.bind (Prog.preserves_awaitAt fun _ r hw => hw.called rfl r) fun reply => ?_
    obtain ⟨ref, r⟩ := reply
    cases r with
    | error e => exact Prog.preserves_fail _
    | ok r => exact Prog.preserves_pure _
  · exact Prog.Preserves.bind (idles_modify fun _ => rfl) fun _ => idles_modify fun _ => rfl

theorem idles_finishAuthentication : Idles K finishAuthentication :=
  Prog.Preserves.bind (idles_send _) fun _ => Prog.Preserves.bind (idles_await rfl) fun _ =>
    Prog.Preserves.bind (idles_modify fun _ => rfl) fun _ => idles_send _

theorem idles_pgwireOnStartup (message : PgWireFrontendMessage) : Idles K (pgwireOnStartup message) := by
  have hfinish : ∀ step : AuthStep, Idles K (do
      if ← Prog.ofExcept step.result then finishAuthentication else pure ()) := fun step =>
    (Prog.preserves_ofExcept _).bind fun done => Prog.Preserves.ite idles_finishAuthentication (Prog.preserves_pure _)
  have hrest : ∀ step : AuthStep, Idles K (do
      if step.challenges then Prog.modify fun client : Conn => { client with state := .authenticationInProgress }
      else pure ()
      if ← Prog.ofExcept step.result then finishAuthentication else pure ()) := fun step =>
    Prog.Preserves.ite (Prog.Preserves.bind (idles_modify fun _ => rfl) fun _ => hfinish step) (hfinish step)
  refine Prog.Preserves.bind (idles_await rfl) fun step => ?_
  cases message with
  | startup startup =>
    exact Prog.Preserves.ite (Prog.Preserves.bind (idles_modify fun _ => rfl) fun _ => hrest step) (hrest step)
  | _ => exact hrest step

/-- What follows an accepted message. -/
theorem idles_admit (sessionFactory : Bool) (serverFinal : Str) : Idles K (do
    if sessionFactory then initializePythonSession else pure ()
    send (.authenticationSaslFinal (Text.utf8 serverFinal))
    let pid ← await .generatePid
    Prog.modify fun client => { client with pidAndSecretKey := some pid }
    Prog.modify fun client => { client with registered := true }
    finishAuthentication) := by
  have hrest : Idles K (do
      send (.authenticationSaslFinal (Text.utf8 serverFinal))
      let pid ← await .generatePid
      Prog.modify fun client => { client with pidAndSecretKey := some pid }
      Prog.modify fun client => { client with registered := true }
      finishAuthentication) := by
    refine Prog.Preserves.bind (idles_send _) fun _ => Prog.Preserves.bind (idles_await rfl) fun pid => ?_
    refine Prog.Preserves.bind (idles_modify fun _ => rfl) fun _ => ?_
    exact Prog.Preserves.bind (idles_modify fun _ => rfl) fun _ => idles_finishAuthentication
  exact Prog.Preserves.ite (idles_initializePythonSession.bind fun _ => hrest) hrest

/-- What `start` leaves in the log of a connection that has not drawn: an exchange is one for what it drew. -/
theorem start_drawing (hs : ScramVerifierStartupHandler) (hw : Drawing K w) (hnone : ∀ bytes, ¬ Drew w.log bytes)
    (hdone : w.st.scram = .done) (mechanism : String) (data : Option Bytes) :
    Prog.Sat (fun _ _ => True) (hs.start K mechanism data) w fun o w' =>
      Drawing K w' ∧ ∀ x, o = .ok x → DrawnIn w'.log x := by
  refine start_spec K hs trivial (fun _ => trivial) (fun e => ⟨hw, fun x hx => by cases hx⟩)
    (fun e => ⟨hw.called (c := .python (.getScramVerifier w.st.loginInfo)) rfl _, fun x hx => by cases hx⟩) ?_
  intro d first cbindData found nonce verifier mock hd hparse hneg hfound
  have hlooked := hw.called (c := .python (.getScramVerifier w.st.loginInfo)) rfl (.ok found)
  generalize hw1 : w.called (.python (.getScramVerifier w.st.loginInfo)) (.ok found) = w1 at hlooked ⊢
  have hnone1 : ∀ bytes, ¬ Drew w1.log bytes := by
    intro bytes hdrew
    rw [← hw1] at hdrew
    exact hnone bytes ((drew_called rfl).mp hdrew)
  have hdone1 : w1.st.scram = .done := by
    rw [← hw1]
    exact hdone
  refine ⟨⟨fun bytes bytes' hb hb' => ?_, fun hinitial => ?_, fun x hsent => ?_, fun b v hv => ?_⟩, ?_⟩
  · rw [World.called_log, drew_randomNonce hnone1] at hb hb'
    rw [hb, hb']
  · rw [World.called_st, hdone1] at hinitial
    cases hinitial
  · rw [World.called_st, hdone1] at hsent
    cases hsent
  · obtain ⟨hresult, hdrawn⟩ := hlooked.verified b v (noted_of_called hv)
    exact ⟨hresult, hdrawn.concat⟩
  · rintro x ⟨⟩
    exact ⟨nonce.1, first, cbindData, _, verifier, mock, (drew_randomNonce hnone1 nonce).mpr rfl, rfl⟩

/-- The state is taken out. -/
theorem Drawing.done (hw : Drawing K w) : Drawing K (w.modify fun client => { client with scram := .done }) := by
  refine ⟨hw.once, fun hs => ?_, fun x hs => ?_, hw.verified⟩
  · cases hs
  · cases hs

/-- An exchange that is put back. -/
theorem Drawing.put (hw : Drawing K w) {x : Exchange} (hx : DrawnIn w.log x) :
    Drawing K (w.modify fun client => { client with scram := .serverFirstSent x }) := by
  refine ⟨hw.once, fun hs => ?_, fun x' hs => ?_, hw.verified⟩
  · cases hs
  · cases hs
    exact hx

/-- A verification of an exchange for what was drawn. -/
theorem Drawing.noted (hw : Drawing K w) {x : Exchange} (hx : DrawnIn w.log x) (message : Bytes) :
    Drawing K (w.noted ⟨x, message, x.verify K message⟩) := by
  refine ⟨fun bytes bytes' hb hb' => ?_, fun hs bytes hb => ?_, fun x' hs => (hw.sent x' hs).concat, fun b v hv => ?_⟩
  · exact hw.once bytes bytes' (drew_noted.mp hb) (drew_noted.mp hb')
  · exact hw.initial hs bytes (drew_noted.mp hb)
  · rcases eq_or_of_concat hv with hv | he
    · obtain ⟨hresult, hdrawn⟩ := hw.verified b v hv
      exact ⟨hresult, hdrawn.concat⟩
    · cases he
      exact ⟨rfl, hx.concat⟩

theorem scramOnStartup_drawing (hs : ScramVerifierStartupHandler) (message : PgWireFrontendMessage) :
    Idles K (hs.onStartup K message) := by
  cases message with
  | startup startup =>
    refine Prog.Preserves.bind (idles_await rfl) fun r => Prog.Preserves.bind (Prog.preserves_ofExcept r) fun _ => ?_
    refine Prog.Preserves.bind (idles_modify fun _ => rfl) fun _ => ?_
    refine Prog.Preserves.bind (idles_modify fun _ => rfl) fun _ => ?_
    exact Prog.Preserves.get_bind fun client => idles_send _
  | passwordMessageFamily message =>
    intro w hw
    simp only [ScramVerifierStartupHandler.onStartup, ScramVerifierStartupHandler.takeState, Prog.sat_bind,
      Prog.sat_get, Prog.after_ok, Prog.sat_modify, Prog.sat_pure]
    cases hscram : w.st.scram with
    | initial =>
      simp only [Prog.sat_bind, Prog.sat_ofExcept, Prog.after_ok, Prog.after_err]
      refine ⟨fun initial _ => ?_, fun e _ => hw.done⟩
      refine (start_drawing hs hw.done (hw.initial hscram) rfl _ _).post ?_
      rintro (x | e | _) w1 ⟨hw1, hx⟩
      · simp only [Prog.after_ok, Prog.sat_bind, Prog.sat_modify, Prog.sat_await]
        exact ⟨trivial, fun r => (hw1.put (hx x rfl)).called (c := .send _) rfl r⟩
      · exact hw1
      · exact hw1
    | serverFirstSent x =>
      have hx := hw.sent x hscram
      simp only [Prog.sat_bind, Prog.sat_ofExcept, Prog.after_ok, Prog.after_err, ScramVerifierStartupHandler.verify,
        Prog.sat_mark, Prog.sat_ofOutcome]
      refine ⟨fun response _ => ?_, fun e _ => hw.done⟩
      have hnoted := hw.done.noted hx response
      cases hv : x.verify K response with
      | panic => rw [hv] at hnoted; exact hnoted
      | err e => rw [hv] at hnoted; exact hnoted
      | ok serverFinal => rw [hv] at hnoted; exact idles_admit hs.sessionFactory serverFinal _ hnoted
    | done => exact hw.done
  | _ => exact Prog.preserves_pure ()

namespace PyStartupHandler

variable {h : PyStartupHandler}

theorem innerOnStartup_drawing (message : PgWireFrontendMessage) : Idles K (h.innerOnStartup K message) := by
  unfold innerOnStartup
  cases h.inner with
  | noop => exact idles_pgwireOnStartup message
  | cleartext => exact idles_pgwireOnStartup message
  | scram iterations certificate => exact idles_pgwireOnStartup message
  | scramVerifier inner => exact scramOnStartup_drawing inner message

theorem onStartup_drawing (message : PgWireFrontendMessage) : Idles K (h.onStartup K message) := by
  have hsession : Idles K (do
      let client ← Prog.get
      if client.state = .readyForQuery ∧ client.pySession.isNone then
        if h.sessionFactory then initializePythonSession else pure ()
      else pure ()) := by
    refine Prog.Preserves.get_bind fun client => Prog.Preserves.ite ?_ (Prog.preserves_pure _)
    exact Prog.Preserves.ite idles_initializePythonSession (Prog.preserves_pure _)
  refine Prog.Preserves.get_bind fun client => Prog.Preserves.ite (Prog.preserves_fail _) ?_
  refine Prog.Preserves.bind (innerOnStartup_drawing message) fun _ => Prog.Preserves.get_bind fun client' => ?_
  exact Prog.Preserves.ite (Prog.Preserves.bind (idles_modify fun _ => rfl) fun _ => hsession) hsession

/-- **Every run** keeps what one message keeps. -/
theorem startupRun_drawing (messages : List PgWireFrontendMessage) : Idles K (startupRun K h messages) := by
  induction messages with
  | nil => exact Prog.preserves_pure _
  | cons message messages ih =>
    refine Prog.Preserves.bind (onStartup_drawing message).attempt fun result => ?_
    exact Prog.Preserves.bind ih fun results => Prog.preserves_pure _

end PyStartupHandler

theorem drawing_freshWorld (secure : Bool) (host : String) : Drawing K (freshWorld secure host) := by
  have hnone : ∀ bytes, ¬ Drew (freshWorld secure host).log bytes := by
    rintro bytes ⟨i, n, hi, -⟩
    cases hi
  refine ⟨fun bytes bytes' hb => absurd hb (hnone bytes), fun _ => hnone, fun x hs => ?_, fun b v hv => ?_⟩
  · cases hs
  · cases hv

end Handlers

/-! ### Two connections -/

section Connections

variable {K : Crypto} {w w' : WireWorld} {message : Bytes}

/-- What is accepted was verified against an exchange for the bytes that were drawn. -/
theorem Drawing.of_accepted (hw : Drawing K w) (ha : Accepted w.log message) :
    ∃ bytes first cbindData user verifier mock serverFinal, (∀ b, Drew w.log b ↔ b = bytes) ∧ bytes.length = 18 ∧
      (Exchange.new first cbindData (Base64.encode bytes) user verifier mock).verify K message = .ok serverFinal := by
  obtain ⟨b, x, serverFinal, hb⟩ := ha
  obtain ⟨hresult, bytes, first, cbindData, user, verifier, mock, hdrew, rfl⟩ := hw.verified b _ hb
  refine ⟨bytes, first, cbindData, user, verifier, mock, serverFinal, fun b' => ?_, hdrew.length, hresult.symm⟩
  exact ⟨fun hb' => hw.once b' bytes hb' hdrew, fun he => he ▸ hdrew⟩

/-- The nonce of an exchange ends in the bytes that its server drew. -/
theorem bytes_unique {first first' : ClientFirst} {cbindData cbindData' bytes bytes' : Bytes} {user user' : String}
    {verifier verifier' : PyScramVerifier} {mock mock' : Bool} {s s' : Str} (hlength : bytes.length = bytes'.length)
    (h : (Exchange.new first cbindData (Base64.encode bytes) user verifier mock).verify K message = .ok s)
    (h' : (Exchange.new first' cbindData' (Base64.encode bytes') user' verifier' mock').verify K message = .ok s') :
    bytes = bytes' := by
  have hnonce : first.nonce ++ Base64.encode bytes = first'.nonce ++ Base64.encode bytes' := Exchange.nonce_unique h h'
  have hencoded : (Base64.encode bytes).length = (Base64.encode bytes').length := by
    rw [Base64.length_encode, Base64.length_encode, hlength]
  exact Base64.encode_injective (List.append_inj' hnonce hencoded).2

end Connections

namespace PyStartupHandler

/-- **No replay**: of two connections, to any servers, that accept the same client-final message, each has drawn the
bytes that the other drew, and no others. -/
theorem not_replayed (K : Crypto) (h h' : PyStartupHandler) (env env' : WireEnv) (secure secure' : Bool)
    (host host' : String) (messages messages' : List PgWireFrontendMessage) (message : Bytes)
    (ha : Accepted ((startupRun K h messages).final env (freshWorld secure host)).log message)
    (ha' : Accepted ((startupRun K h' messages').final env' (freshWorld secure' host')).log message) :
    ∃ bytes, ∀ b, (Drew ((startupRun K h messages).final env (freshWorld secure host)).log b ↔ b = bytes) ∧
      (Drew ((startupRun K h' messages').final env' (freshWorld secure' host')).log b ↔ b = bytes) := by
  have hdrawing := (startupRun_drawing (h := h) messages _ (drawing_freshWorld (K := K) secure host)).run env
  have hdrawing' := (startupRun_drawing (h := h') messages' _ (drawing_freshWorld (K := K) secure' host')).run env'
  obtain ⟨bytes, first, cbindData, user, verifier, mock, s, hdrew, hlength, hverify⟩ := hdrawing.of_accepted ha
  obtain ⟨bytes', first', cbindData', user', verifier', mock', s', hdrew', hlength', hverify'⟩ := hdrawing'.of_accepted ha'
  obtain rfl := bytes_unique (hlength.trans hlength'.symm) hverify hverify'
  exact ⟨bytes, fun b => ⟨hdrew b, hdrew' b⟩⟩

end PyStartupHandler

/-- Two connections that drew the same bytes. -/
theorem PyStartupHandler.not_replayed_alice :
    ∃ bytes, ∀ b,
      (Drew ((startupRun default verifying.startup KnownUser.messages).final KnownUser.env
        (freshWorld false "127.0.0.1")).log b ↔ b = bytes) ∧
      (Drew ((startupRun default verifying.startup KnownUser.messages).final KnownUser.env
        (freshWorld false "10.0.0.2")).log b ↔ b = bytes) :=
  not_replayed default _ _ _ _ _ _ _ _ _ _ KnownUser.clientFinal (by decide +kernel) (by decide +kernel)

end Pywire
