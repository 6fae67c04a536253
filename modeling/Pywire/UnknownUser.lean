import Pywire.ScramGate
import Pywire.Lib.Twin

/-!
# UnknownUser: a client cannot tell an unknown user from a wrong proof

Two runs of one connection against the same outside world: in the first one the lookup finds nobody and the handler
checks the client against its mock, in the second one it finds a verifier that the proof does not match.  Where pgwire
goes on to queries after that, neither run has a session, and the query handlers never look at the exchange.

* `Exchange.verify_mock`, `Exchange.verify_mock_of_err`: the mock exchange always fails, and as the real one does.
* `unknown_user_indistinguishable`: **Main result** — the two runs make the same calls in the same order, send the
  same messages up to the salt and the iterations, and fail with the same errors; no session is opened.
-/

namespace Pywire

open Async Scram

/-! ### The exchange -/

namespace Scram

/-- Two exchanges that differ in the verifier only: the first one checks the mock. -/
structure Exchange.MockOf (x x' : Exchange) : Prop where
  channelBinding : x.channelBinding = x'.channelBinding
  nonce : x.nonce = x'.nonce
  user : x.user = x'.user
  mock : x.mock = true

variable {K : Crypto} {x x' : Exchange} {message : Bytes} {e : PgWireError}

theorem Exchange.mockOf_new (first : ClientFirst) (cbindData : Bytes) (serverNonce : Str) (user : String)
    (verifier mock : PyScramVerifier) :
    (Exchange.new first cbindData serverNonce user mock true).MockOf
      (Exchange.new first cbindData serverNonce user verifier false) := ⟨rfl, rfl, rfl, rfl⟩

/-- **The mock is never accepted**, not even with a proof that checks out. -/
theorem Exchange.verify_mock (hx : x.mock = true) : ∃ e, x.verify K message = .err e := by
  cases hv : x.verify K message with
  | ok s =>
    obtain ⟨-, -, -, -, -, -, -, -, -, hreal, -⟩ := Exchange.verify_eq_ok hv
    rw [hx] at hreal
    cases hreal
  | err e => exact ⟨e, rfl⟩
  | panic => exact absurd hv (x.verify_ne_panic message)

/-- **The mock fails as the real exchange does**. -/
theorem Exchange.MockOf.verify_err (hx : x.MockOf x') (he : x'.verify K message = .err e) :
    x.verify K message = .err e := by
  rw [Exchange.verify] at he ⊢
  refine Outcome.bind_eq_err_mono (fun text he => ?_) he
  refine Outcome.bind_eq_err_mono (fun fields he => ?_) he
  rcases fields with ⟨withoutProof, proof⟩
  dsimp only at he ⊢
  split
  · rename_i channelBinding nonce hc hn
    rw [hc, hn] at he
    dsimp only at he
    rw [hx.channelBinding, hx.nonce]
    by_cases hbinding : channelBinding ≠ x'.channelBinding
    · rwa [if_pos hbinding] at he ⊢
    rw [if_neg hbinding] at he ⊢
    by_cases hnonce : nonce ≠ x'.nonce
    · rwa [if_pos hnonce] at he ⊢
    rw [if_neg hnonce] at he ⊢
    refine Outcome.bind_eq_err_mono (fun decoded he => ?_) he
    by_cases hlength : decoded.length ≠ 32
    · rwa [if_pos hlength] at he ⊢
    rw [if_neg hlength] at he ⊢
    -- only here does the verifier matter, and only to an answer that the mock never gives
    split at he
    · rw [hx.mock, hx.user]
      simpa using he
    · cases he
  · rename_i hno
    split at he
    · rename_i channelBinding nonce hc hn
      exact absurd hn (hno _ _ hc)
    · exact he

end Scram

/-! ### Two runs -/

/-- A world outside that answers by the position of a call, and the lookup of a verifier with `found`. -/
def answering (outside : ℕ → (c : Call) → c.Reply) (found : Option PyScramVerifier) : WireEnv := fun log call =>
  match call with
  | .python (.getScramVerifier _) => .ok found
  | call => outside log.length call

/-- The text of a server-first message. -/
def serverFirstText (nonce salt iterations : Str) : Str :=
  "r=".toList ++ nonce ++ ",s=".toList ++ salt ++ ",i=".toList ++ iterations

/-- What a client of either run may see of an event: the same call, up to the salt and the iterations of a
server-first message.  The lookup is not made by the client, and no session is opened. -/
inductive EventAlike (verifier : PyScramVerifier) : WireEvent → WireEvent → Prop where
  | same (e : WireEvent) (hno : ∀ login r, e ≠ .called (.python (.openSession login)) r) : EventAlike verifier e e
  | lookup (login : PyLoginInfo) :
      EventAlike verifier (.called (.python (.getScramVerifier login)) (.ok none))
        (.called (.python (.getScramVerifier login)) (.ok (some verifier)))
  | serverFirst (nonce salt iterations salt' iterations' : Str) :
      EventAlike verifier
        (.called (.send (.authenticationSaslContinue (Text.utf8 (serverFirstText nonce salt iterations)))) ())
        (.called (.send (.authenticationSaslContinue (Text.utf8 (serverFirstText nonce salt' iterations')))) ())
  | refused (x x' : Exchange) (message : Bytes) (e : PgWireError) :
      EventAlike verifier (.noted ⟨x, message, .err e⟩) (.noted ⟨x', message, .err e⟩)

/-- Two exchanges of the two runs. -/
structure ExchangeAlike (x x' : Exchange) : Prop where
  mockOf : x.MockOf x'
  serverFirst : ∃ nonce salt iterations salt' iterations', x.serverFirst = serverFirstText nonce salt iterations ∧
    x'.serverFirst = serverFirstText nonce salt' iterations'

inductive ScramAlike : ScramState → ScramState → Prop where
  | initial : ScramAlike .initial .initial
  | serverFirstSent {x x' : Exchange} (hx : ExchangeAlike x x') : ScramAlike (.serverFirstSent x) (.serverFirstSent x')
  | done : ScramAlike .done .done

/-- Nothing was installed on the connection, and nothing is stored but empty statements. -/
def Conn.Unequipped (c : Conn) : Prop :=
  c.installed = false ∧ (∀ n, c.store.portals.lookup n = none) ∧ ∀ n st, c.store.statements.lookup n ≠ some (.value st)

def Conn.Entering (c : Conn) : Prop := c.state.isStartup = true ∧ c.Unequipped

/-- Two connections of the two runs: only the exchange tells them apart. -/
structure ConnAlike (J : Conn → Prop) (c c' : Conn) : Prop where
  eq : c' = { c with scram := c'.scram }
  scram : ScramAlike c.scram c'.scram
  holds : J c

structure WorldAlike (verifier : PyScramVerifier) (J : Conn → Prop) (w w' : WireWorld) : Prop where
  st : ConnAlike J w.st w'.st
  log : List.Forall₂ (EventAlike verifier) w.log w'.log

/-- The event is a verification that succeeded. -/
def proved : WireEvent → Bool
  | .noted ⟨_, _, .ok _⟩ => true
  | _ => false

/-- The proof did not match. -/
abbrev Unproved (log : Log) : Prop := ∀ e ∈ log, proved e = false

theorem unproved_of_prefix {log log' : Log} (h : log <+: log') (h' : Unproved log') : Unproved log :=
  fun e hmem => h' e (h.subset hmem)

/-- The two runs, on connections of `J`. -/
def twoRuns (outside : ℕ → (c : Call) → c.Reply) (verifier : PyScramVerifier) (J : Conn → Prop) :
    Prog.Setting Conn Call.Reply Verified where
  env := answering outside none
  env' := answering outside (some verifier)
  Alike := WorldAlike verifier J
  Assumed := Unproved
  assumed_of_prefix := unproved_of_prefix

section Startup

variable {K : Crypto} {outside : ℕ → (c : Call) → c.Reply} {verifier : PyScramVerifier} {J : Conn → Prop} {α β : Type}

/-- The two runs go on alike. -/
abbrev Twins (outside : ℕ → (c : Call) → c.Reply) (verifier : PyScramVerifier) (J : Conn → Prop) (V : α → β → Prop)
    (t : Proc α) (t' : Proc β) : Prop := (twoRuns outside verifier J).Twin V t t'

theorem WorldAlike.called {w w' : WireWorld} {c c' : Call} {r : c.Reply} {r' : c'.Reply}
    (hw : WorldAlike verifier J w w') (he : EventAlike verifier (.called c r) (.called c' r')) :
    WorldAlike verifier J (w.called c r) (w'.called c' r') :=
  ⟨hw.st, List.rel_append hw.log (.cons he .nil)⟩

theorem WorldAlike.mono {J' : Conn → Prop} {w w' : WireWorld} (hw : WorldAlike verifier J w w') (hJ : ∀ c, J c → J' c) :
    WorldAlike verifier J' w w' := ⟨⟨hw.st.eq, hw.st.scram, hJ _ hw.st.holds⟩, hw.log⟩

/-- The two worlds outside reply alike, to everything but the lookup. -/
theorem answering_eq {c : Call} (hlookup : ∀ login, c ≠ .python (.getScramVerifier login)) {log log' : Log}
    (hlength : log.length = log'.length) : answering outside none log c = answering outside (some verifier) log' c := by
  unfold answering
  split
  · exact absurd rfl (hlookup _)
  · rw [hlength]

/-- A call with a reply of the outside world. -/
theorem WorldAlike.called_same {w w' : WireWorld} (hw : WorldAlike verifier J w w') {c : Call}
    (hlookup : ∀ login, c ≠ .python (.getScramVerifier login)) (hopen : ∀ login, c ≠ .python (.openSession login)) :
    WorldAlike verifier J (w.called c (answering outside none w.log c))
      (w'.called c (answering outside (some verifier) w'.log c)) := by
  rw [answering_eq hlookup hw.log.length_eq]
  refine hw.called (.same _ fun login r he => ?_)
  injection he with hc
  exact hopen login hc

theorem twins_await {c : Call} (hlookup : ∀ login, c ≠ .python (.getScramVerifier login))
    (hopen : ∀ login, c ≠ .python (.openSession login)) :
    Twins outside verifier J (· = ·) (Prog.await c : Proc c.Reply) (Prog.await c) :=
  Prog.twin_await fun _ _ hw => ⟨answering_eq hlookup hw.log.length_eq, hw.called_same hlookup hopen⟩

theorem twins_awaitAt {c : Call} (hlookup : ∀ login, c ≠ .python (.getScramVerifier login))
    (hopen : ∀ login, c ≠ .python (.openSession login)) :
    Twins outside verifier J (· = ·) (Prog.awaitAt c : Proc (ℕ × c.Reply)) (Prog.awaitAt c) :=
  Prog.twin_awaitAt fun _ _ hw =>
    ⟨Prod.ext hw.log.length_eq (answering_eq hlookup hw.log.length_eq), hw.called_same hlookup hopen⟩

theorem twins_send (m : PgWireBackendMessage) : Twins outside verifier J (fun _ _ => True) (send m) (send m) :=
  Prog.twin_await (S := twoRuns outside verifier J) (V := fun _ _ => True)
    fun w w' hw => ⟨trivial, WorldAlike.called hw (.same _ (by simp))⟩

/-- The server-first messages differ in the salt and the iterations. -/
theorem twins_serverFirst {x x' : Exchange} (hx : ExchangeAlike x x') :
    Twins outside verifier J (fun _ _ => True) (send (.authenticationSaslContinue (Text.utf8 x.serverFirst)))
      (send (.authenticationSaslContinue (Text.utf8 x'.serverFirst))) := by
  obtain ⟨nonce, salt, iterations, salt', iterations', hfirst, hfirst'⟩ := hx.serverFirst
  rw [hfirst, hfirst']
  exact Prog.twin_await (S := twoRuns outside verifier J) (V := fun _ _ => True)
    fun w w' hw => ⟨trivial, WorldAlike.called hw (.serverFirst nonce salt iterations salt' iterations')⟩

/-- The lookup finds nobody in the first run, and the verifier in the second. -/
theorem twins_lookup (login : PyLoginInfo) :
    Twins outside verifier J (fun found found' => found = none ∧ found' = some verifier)
      (ScramVerifierStartupHandler.lookup login) (ScramVerifierStartupHandler.lookup login) := by
  have hcall : Twins outside verifier J
      (fun r r' : Call.Reply (.python (.getScramVerifier login)) => r = Except.ok none ∧ r' = Except.ok (some verifier))
      (Prog.await (Call.python (.getScramVerifier login))) (Prog.await (Call.python (.getScramVerifier login))) :=
    Prog.twin_await fun w w' hw => ⟨⟨rfl, rfl⟩, hw.called (.lookup login)⟩
  refine hcall.bind ?_
  rintro r r' ⟨rfl, rfl⟩
  exact Prog.twin_pure ⟨rfl, rfl⟩

/-- What the program reads of a connection. -/
theorem twins_get : Twins outside verifier J (ConnAlike J) Prog.get Prog.get := Prog.twin_get fun _ _ hw => hw.st

/-- A change that does not look at the exchange. -/
theorem twins_modify {f : Conn → Conn} (hf : ∀ c s, f { c with scram := s } = { f c with scram := s })
    (hscram : ∀ c, (f c).scram = c.scram) (hJ : ∀ c, J c → J (f c)) :
    Twins outside verifier J (fun _ _ => True) (Prog.modify f) (Prog.modify f) := by
  refine Prog.twin_modify fun w w' hw => ⟨⟨?_, ?_, hJ _ hw.st.holds⟩, hw.log⟩
  · show f w'.st = { f w.st with scram := (f w'.st).scram }
    rw [hscram, ← hf, ← hw.st.eq]
  · show ScramAlike (f w.st).scram (f w'.st).scram
    rw [hscram, hscram]
    exact hw.st.scram

/-- A change of the exchange. -/
theorem twins_setScram {s s' : ScramState} (hs : ScramAlike s s') :
    Twins outside verifier Conn.Entering (fun _ _ => True) (Prog.modify fun client => { client with scram := s })
      (Prog.modify fun client => { client with scram := s' }) := by
  refine Prog.twin_modify fun w w' hw => ⟨⟨?_, hs, hw.st.holds⟩, hw.log⟩
  show { w'.st with scram := s' } = { w.st with scram := s' }
  rw [hw.st.eq]

theorem alike_refl {o : Outcome PgWireError α} : o.Alike (· = ·) o := by
  cases o with
  | ok a => exact rfl
  | err e => exact rfl
  | panic => trivial

/-- **`start`**: the two exchanges differ in the verifier, and the two server-first messages in `s=` and `i=`. -/
theorem twins_start (h : ScramVerifierStartupHandler) (mechanism : String) (data : Option Bytes) :
    Twins outside verifier Conn.Entering ExchangeAlike (h.start K mechanism data) (h.start K mechanism data) := by
  refine Prog.Setting.Twin.bind (Prog.twin_ofOutcome alike_refl) ?_
  rintro data _ rfl
  refine Prog.Setting.Twin.bind (Prog.twin_ofOutcome alike_refl) ?_
  rintro first _ rfl
  refine twins_get.bind fun client client' hclient => ?_
  rw [hclient.eq]
  refine Prog.Setting.Twin.bind (Prog.twin_ofOutcome alike_refl) ?_
  rintro cbindData _ rfl
  refine (twins_lookup client.loginInfo).bind ?_
  rintro found found' ⟨rfl, rfl⟩
  refine Prog.Setting.Twin.bind (twins_await (by simp) (by simp)) ?_
  rintro nonce _ rfl
  exact Prog.twin_pure ⟨Exchange.mockOf_new _ _ _ _ _ _, _, _, _, _, _, rfl, rfl⟩

/-- Nothing follows a verification that fails. -/
theorem twins_verify {x x' : Exchange} (hx : x.MockOf x') (message : Bytes) :
    Twins outside verifier Conn.Entering (fun _ _ : Str => False) (ScramVerifierStartupHandler.verify K x message)
      (ScramVerifierStartupHandler.verify K x' message) := by
  intro w w' hw ha
  simp only [ScramVerifierStartupHandler.verify, Prog.run_bind, Prog.run_mark, Prog.resume_ok, Prog.run_ofOutcome] at ha ⊢
  -- the proof does not match, so the real exchange fails, and with it the mock
  cases hv : x'.verify K message with
  | ok s =>
    rw [hv] at ha
    have hproved : proved (.noted ⟨x', message, .ok s⟩) = false :=
      ha _ (List.mem_append_right _ (List.mem_singleton.mpr rfl))
    cases hproved
  | err e =>
    rw [hx.verify_err hv]
    exact ⟨rfl, hw.st, List.rel_append hw.log (.cons (.refused x x' message e) .nil)⟩
  | panic => exact absurd hv (x'.verify_ne_panic message)

/-- **The handler**: it never comes to a session. -/
theorem twins_scramOnStartup (h : ScramVerifierStartupHandler) (message : PgWireFrontendMessage) :
    Twins outside verifier Conn.Entering (fun _ _ => True) (h.onStartup K message) (h.onStartup K message) := by
  cases message with
  | startup startup =>
    refine Prog.Setting.Twin.bind (twins_await (by simp) (by simp)) ?_
    rintro r _ rfl
    refine (Prog.twin_ofExcept r).bind fun _ _ _ => ?_
    refine Prog.Setting.Twin.bind (V := fun _ _ => True) ?_ fun _ _ _ => ?_
    · exact twins_modify (fun _ _ => rfl) (fun _ => rfl) fun _ hc => hc
    refine Prog.Setting.Twin.bind (V := fun _ _ => True) ?_ fun _ _ _ => ?_
    · exact twins_modify (fun _ _ => rfl) (fun _ => rfl) fun _ hc => ⟨rfl, hc.2⟩
    refine twins_get.bind fun client client' hclient => ?_
    rw [hclient.eq]
    exact twins_send (.authenticationSasl (h.mechanisms client))
  | passwordMessageFamily message =>
    have htake : Twins outside verifier Conn.Entering ScramAlike ScramVerifierStartupHandler.takeState
        ScramVerifierStartupHandler.takeState := by
      refine twins_get.bind fun client client' hclient => ?_
      exact (twins_setScram .done).bind fun _ _ _ => Prog.twin_pure hclient.scram
    refine htake.bind fun state state' hstate => ?_
    cases hstate with
    | initial =>
      refine (Prog.twin_ofExcept _).bind ?_
      rintro initial _ rfl
      refine (twins_start h _ _).bind fun x x' hx => ?_
      exact (twins_setScram (.serverFirstSent hx)).bind fun _ _ _ => twins_serverFirst hx
    | serverFirstSent hx =>
      refine (Prog.twin_ofExcept _).bind ?_
      rintro response _ rfl
      exact (twins_verify hx.mockOf response).bind fun _ _ hno => hno.elim
    | done => exact Prog.twin_fail _
  | _ => exact Prog.twin_pure trivial

variable {h : PyServerHandlers} {inner : ScramVerifierStartupHandler}

/-- The handler around it has nothing to do during startup. -/
theorem twins_onStartup (hinner : h.startup.inner = .scramVerifier inner) (message : PgWireFrontendMessage) :
    Twins outside verifier Conn.Entering (fun _ _ => True) (h.startup.onStartup K message) (h.startup.onStartup K message) := by
  refine twins_get.bind fun client client' hclient => ?_
  rw [hclient.eq]
  by_cases htls : h.startup.requireTls = true ∧ message.isStartup = true ∧ ¬ client.secure = true
  · simp only [if_pos htls]
    exact Prog.twin_fail _
  simp only [if_neg htls]
  have hscram : Twins outside verifier Conn.Entering (fun _ _ => True) (h.startup.innerOnStartup K message)
      (h.startup.innerOnStartup K message) := by
    rw [PyStartupHandler.innerOnStartup, hinner]
    exact twins_scramOnStartup inner message
  have hnotReady : ∀ {c c' : Conn}, ConnAlike Conn.Entering c c' → c.state ≠ .readyForQuery ∧ c'.state ≠ .readyForQuery := by
    intro c c' hc
    have hready : c.state ≠ .readyForQuery := by
      intro he
      have hstartup := hc.holds.1
      rw [he] at hstartup
      cases hstartup
    refine ⟨hready, ?_⟩
    rw [hc.eq]
    exact hready
  refine hscram.bind fun _ _ _ => twins_get.bind fun client client' hclient => ?_
  simp only [(hnotReady hclient).1, (hnotReady hclient).2, false_and, if_false]
  refine twins_get.bind fun client client' hclient => ?_
  simp only [(hnotReady hclient).1, (hnotReady hclient).2, false_and, if_false]
  exact Prog.twin_pure trivial

end Startup

/-! ### Queries -/

section Queries

variable {outside : ℕ → (c : Call) → c.Reply} {verifier : PyScramVerifier} {c c' : Conn} {α : Type}

/-- A routine of the query handlers, on a connection that has nothing. -/
abbrev Same {α : Type} (outside : ℕ → (c : Call) → c.Reply) (verifier : PyScramVerifier) (t : Proc α) : Prop :=
  Twins outside verifier Conn.Unequipped (· = ·) t t

theorem same_pure (a : α) : Same outside verifier (pure a) := Prog.twin_pure rfl

theorem same_fail (e : PgWireError) : Same outside verifier (Prog.fail e : Proc α) := Prog.twin_fail e

theorem same_ofExcept (r : Except PgWireError α) : Same outside verifier (Prog.ofExcept r) := Prog.twin_ofExcept r

theorem same_ofOutcome (o : Outcome PgWireError α) : Same outside verifier (Prog.ofOutcome o) :=
  Prog.twin_ofOutcome alike_refl

/-- What a routine reads, but for the exchange. -/
theorem same_get {f : Conn → Proc α} (hf : ∀ c s, f { c with scram := s } = f c)
    (ht : ∀ c, c.Unequipped → Same outside verifier (f c)) : Same outside verifier (Prog.get >>= f) := by
  refine twins_get.bind fun c c' hc => ?_
  rw [hc.eq, hf c c'.scram]
  exact ht c hc.holds

theorem Same.bind {β : Type} {t : Proc α} {f : α → Proc β} (ht : Same outside verifier t)
    (hf : ∀ a, Same outside verifier (f a)) : Same outside verifier (t >>= f) := by
  refine Prog.Setting.Twin.bind ht ?_
  rintro a _ rfl
  exact hf a

theorem Same.ite {p : Prop} [Decidable p] {t t' : Proc α} (ht : Same outside verifier t) (ht' : Same outside verifier t') :
    Same outside verifier (if p then t else t') := by
  by_cases hp : p
  · rw [if_pos hp]
    exact ht
  · rw [if_neg hp]
    exact ht'

theorem Same.attempt {t : Proc Unit} (ht : Same outside verifier t) : Same outside verifier t.attempt := by
  intro w w' hw ha
  obtain ⟨ho, hw'⟩ := Prog.Setting.Twin.attempt ht w w' hw ha
  refine ⟨?_, hw'⟩
  have heq : ∀ {r r' : Except PgWireError Unit}, ExceptAlike (· = ·) r r' → r = r' := by
    rintro (e | u) (e' | u') h
    · exact congrArg _ h
    · exact h.elim
    · exact h.elim
    · rfl
  rcases ht₁ : (t.attempt.run (twoRuns outside verifier Conn.Unequipped).env w).1 with r | e | _ <;>
    rcases ht₂ : (t.attempt.run (twoRuns outside verifier Conn.Unequipped).env' w').1 with r' | e' | _ <;>
    rw [ht₁, ht₂] at ho
  · exact heq ho
  all_goals exact ho

theorem same_await {c : Call} (hlookup : ∀ login, c ≠ .python (.getScramVerifier login))
    (hopen : ∀ login, c ≠ .python (.openSession login)) : Same outside verifier (await c) :=
  twins_await hlookup hopen

theorem same_send (m : PgWireBackendMessage) : Same outside verifier (send m) := same_await (by simp) (by simp)

theorem same_modify {f : Conn → Conn} (hf : ∀ c s, f { c with scram := s } = { f c with scram := s })
    (hscram : ∀ c, (f c).scram = c.scram) (hc : ∀ c, c.Unequipped → (f c).Unequipped) :
    Same outside verifier (Prog.modify f) := by
  intro w w' hw ha
  have htwins : Twins outside verifier Conn.Unequipped (fun _ _ => True) (Prog.modify f) (Prog.modify f) :=
    twins_modify hf hscram hc
  exact ⟨rfl, (htwins w w' hw ha).2⟩

theorem Conn.Unequipped.rmPortal {c : Conn} (hc : c.Unequipped) (n : String) : (Conn.rmPortal n c).Unequipped := by
  refine ⟨hc.1, fun m => ?_, hc.2.2⟩
  have herase : (c.store.portals.erase n).lookup m = none := by
    rw [StrMap.lookup_erase_eq_if, hc.2.1, ite_self]
  exact herase

theorem Conn.Unequipped.putEmptyStatement {c : Conn} (hc : c.Unequipped) (n : String) :
    (Conn.putEmptyStatement n c).Unequipped := by
  refine ⟨hc.1, hc.2.1, fun m st hst => ?_⟩
  have hinsert : (c.store.statements.insert n Entry.empty).lookup m = some (.value st) := hst
  rw [StrMap.lookup_insert_eq_if] at hinsert
  split at hinsert
  · cases hinsert
  · exact hc.2.2 m st hinsert

theorem same_rmPortal (n : String) : Same outside verifier (Prog.modify (Conn.rmPortal n)) :=
  same_modify (fun _ _ => rfl) (fun _ => rfl) fun _ hc => hc.rmPortal n

/-- Nothing follows a look at resources that are not there. -/
theorem same_expectResources {f : Unit → Proc α} : Same outside verifier (PyExtendedHandler.expectResources >>= f) := by
  refine Prog.Setting.Twin.bind (V := fun _ _ => False) ?_ fun _ _ hno => hno.elim
  refine twins_get.bind fun c c' hc => ?_
  rw [hc.eq]
  simp only [hc.holds.1, Bool.false_eq_true, if_false]
  exact Prog.twin_panic

theorem same_closePortal (n : String) : Same outside verifier (PyExtendedHandler.closePortal n) := by
  refine same_get (fun _ _ => rfl) fun c hc => ?_
  simp only [hc.1, Bool.false_eq_true, if_false]
  exact same_pure ()

theorem same_closeStatement (h : PyExtendedHandler) (n : String) : Same outside verifier (h.closeStatement n) := by
  refine same_get (fun _ _ => rfl) fun c hc => ?_
  simp only [hc.1, Bool.false_eq_true, if_false]
  exact same_pure ()

theorem same_closeEach (names : List String) : Same outside verifier (PyExtendedHandler.closeEach names) := by
  induction names with
  | nil => exact same_pure ()
  | cons n names ih => exact (same_closePortal n).bind fun _ => (same_rmPortal n).bind fun _ => ih

theorem same_closeAllPortals : Same outside verifier PyExtendedHandler.closeAllPortals := by
  have hnames : Same outside verifier (PyExtendedHandler.portalNames fun _ => true) := by
    refine same_get (fun _ _ => rfl) fun c hc => ?_
    simp only [hc.1, Bool.false_eq_true, if_false]
    exact same_pure []
  exact hnames.bind fun names => (same_closeEach names).bind fun _ => same_rmPortal _

theorem same_sendResponses (responses : List Response) :
    Same outside verifier (PyExtendedHandler.sendResponses responses) :=
  Same.bind (same_await (by simp) (by simp)) fun settled =>
    Same.bind (same_modify (fun _ _ => rfl) (fun _ => rfl) fun _ => id) fun _ => same_ofExcept settled.result

theorem same_onParse (h : PyExtendedHandler) (message : Parse) : Same outside verifier (h.onParse message) := by
  have hstore : ∀ name, Same outside verifier (h.storeParsed name message) := by
    intro name
    refine Same.ite ?_ (same_get (fun _ _ => rfl) fun c _ => ?_)
    · exact Same.bind (same_modify (fun _ _ => rfl) (fun _ => rfl) fun _ hc => hc.putEmptyStatement name) fun _ =>
        same_send _
    · have hparse : Same outside verifier
          (PyExtendedHandler.parseStatement (h.instanceFor c) name message.query message.typeOids) := by
        cases h.instanceFor c with
        | none => exact same_fail _
        | some i =>
          refine Same.bind (twins_awaitAt (by simp) (by simp)) fun r => ?_
          obtain ⟨ref, r | e⟩ := r
          · exact same_fail _
          · exact same_pure ref
      exact hparse.bind fun statement => (same_ofOutcome _).bind fun i => same_expectResources
  refine same_get (fun _ _ => rfl) fun c _ => Same.ite ?_ (Same.ite (same_fail _) (hstore _))
  exact (same_closeStatement h _).bind fun _ => hstore _

theorem same_onBind (h : PyExtendedHandler) (message : Bind) : Same outside verifier (h.onBind message) := by
  refine same_get (fun _ _ => rfl) fun c hc => Same.ite (same_fail _) ?_
  cases PyExtendedHandler.bindFormatError message with
  | some e => exact same_fail e
  | none =>
    dsimp only
    cases hst : c.store.statements.lookup (message.statementName.getD defaultName) with
    | none => exact same_fail _
    | some entry =>
      cases entry with
      | value statement => exact absurd hst (hc.2.2 _ statement)
      | empty =>
        dsimp only
        cases h.bindEmptyError message (message.statementName.getD defaultName) with
        | some e => exact same_fail e
        | none => exact (same_closePortal _).bind fun _ => (same_rmPortal _).bind fun _ => same_expectResources

theorem same_onSync : Same outside verifier PyExtendedHandler.onSync := by
  have hrest : Same outside verifier (do
      let client ← Prog.get
      send (.readyForQuery client.transactionStatus)
      await .flush) :=
    same_get (fun _ _ => rfl) fun c _ => (same_send _).bind fun _ => same_await (by simp) (by simp)
  exact same_get (fun _ _ => rfl) fun c _ => Same.ite (same_closeAllPortals.bind fun _ => hrest) hrest

theorem same_onClose (h : PyExtendedHandler) (message : Target) : Same outside verifier (h.onClose message) := by
  refine Same.ite ((same_closeStatement h _).bind fun _ => same_send _) (Same.ite ?_ (same_fail _))
  exact (same_closePortal _).bind fun _ => (same_rmPortal _).bind fun _ => same_send _

theorem same_onDescribe (h : PyExtendedHandler) (message : Target) : Same outside verifier (h.onDescribe message) := by
  refine same_get (fun _ _ => rfl) fun c hc => Same.ite ?_ (Same.ite ?_ (same_fail _))
  · cases hst : c.store.statements.lookup (message.name.getD defaultName) with
    | none => exact same_fail _
    | some entry =>
      cases entry with
      | value statement => exact absurd hst (hc.2.2 _ statement)
      | empty => exact (same_send _).bind fun _ => same_send _
  · rw [hc.2.1]
    exact same_fail _

theorem same_onExecute (h : PyExtendedHandler) (message : Execute) : Same outside verifier (h.onExecute message) := by
  refine same_get (fun _ _ => rfl) fun c hc => ?_
  rw [hc.2.1]
  exact same_fail _

theorem same_onQuery (h : PyServerSimpleQueryHandler) (query : String) : Same outside verifier (h.onQuery query) := by
  have hquery : Same outside verifier (PyServerSimpleQueryHandler.doQuery query) := by
    refine same_get (fun _ _ => rfl) fun c _ => ?_
    refine Same.bind (Same.bind (same_await (by simp) (by simp)) fun r => ?_) fun responses => ?_
    · cases r with
      | ok r => exact same_pure r
      | error e => exact same_fail _
    · exact Same.ite (same_closeAllPortals.bind fun _ => same_pure _) (same_pure _)
  have hend : Same outside verifier (do
      Prog.modify fun client : Conn => { client with state := .readyForQuery }
      let client ← Prog.get
      send (.readyForQuery client.transactionStatus)) :=
    Same.bind (same_modify (fun _ _ => rfl) (fun _ => rfl) fun _ => id) fun _ =>
      same_get (fun _ _ => rfl) fun c _ => same_send _
  have hinner : Same outside verifier (PyServerSimpleQueryHandler._onQuery query) := by
    refine Same.bind (same_modify (fun _ _ => rfl) (fun _ => rfl) fun _ => id) fun _ => ?_
    refine Same.bind (same_await (by simp) (by simp)) fun empty => Same.ite ?_ ?_
    · exact (same_sendResponses _).bind fun _ => hend
    · exact hquery.bind fun responses => (same_sendResponses responses).bind fun _ => hend
  refine same_get (fun _ _ => rfl) fun c _ => Same.ite (same_fail _) ?_
  refine (same_closePortal _).bind fun _ => (same_rmPortal _).bind fun _ => (same_closeStatement h.extended _).bind fun _ => ?_
  refine hinner.attempt.bind fun result => same_get (fun _ _ => rfl) fun c _ => ?_
  exact Same.ite (same_closeAllPortals.bind fun _ => same_ofExcept result) (same_ofExcept result)

/-- **The query handlers** of a connection that has nothing go on alike in both runs. -/
theorem same_onMessage (h : PyServerHandlers) (message : PgWireFrontendMessage) :
    Same outside verifier (h.onMessage message) := by
  cases message with
  | query query => exact same_onQuery h.simpleQuery query
  | parse message => exact same_onParse h.extendedQuery message
  | bind message => exact same_onBind h.extendedQuery message
  | describe message => exact same_onDescribe h.extendedQuery message
  | execute message => exact same_onExecute h.extendedQuery message
  | close message => exact same_onClose h.extendedQuery message
  | sync => exact same_onSync
  | _ => exact same_pure ()

end Queries

/-! ### Every message -/

section Socket

variable {K : Crypto} {outside : ℕ → (c : Call) → c.Reply} {verifier : PyScramVerifier} {h : PyServerHandlers}
  {inner : ScramVerifierStartupHandler}

/-- What is done with a message after startup. -/
def PyServerHandlers.queryMessage (h : PyServerHandlers) (message : PgWireFrontendMessage) : Proc Unit := do
  let turn ← await .turn
  Prog.modify fun client => { client with state := turn.1.1, transactionStatus := turn.2 }
  h.onMessage message

theorem same_queryMessage (message : PgWireFrontendMessage) : Same outside verifier (h.queryMessage message) :=
  Same.bind (same_await (by simp) (by simp)) fun turn =>
    Same.bind (same_modify (fun _ _ => rfl) (fun _ => rfl) fun _ => id) fun _ => same_onMessage h message

/-- A message goes to the startup handler or to the query handlers. -/
theorem run_processMessage (env : WireEnv) (w : WireWorld) (message : PgWireFrontendMessage) :
    (h.processMessage K message).run env w =
      if w.st.state.isStartup = true then (h.startup.onStartup K message).run env w
      else (h.queryMessage message).run env w := by
  rw [PyServerHandlers.processMessage, Prog.run_bind, Prog.run_get, Prog.resume_ok]
  split
  · rfl
  · rfl

/-- **One message** of a connection that has nothing. -/
theorem twins_processMessage (hinner : h.startup.inner = .scramVerifier inner) (message : PgWireFrontendMessage) :
    Twins outside verifier Conn.Unequipped (fun _ _ => True) (h.processMessage K message) (h.processMessage K message) := by
  intro w w' hw ha
  have hphase' : w'.st.state = w.st.state := by rw [hw.st.eq]
  rw [run_processMessage, hphase'] at ha
  rw [run_processMessage _ w, run_processMessage _ w', hphase']
  by_cases hphase : w.st.state.isStartup = true
  · rw [if_pos hphase] at ha
    rw [if_pos hphase, if_pos hphase]
    have hentering : WorldAlike verifier Conn.Entering w w' := ⟨⟨hw.st.eq, hw.st.scram, hphase, hw.st.holds⟩, hw.log⟩
    obtain ⟨ho, hw1⟩ := twins_onStartup (K := K) hinner message w w' hentering ha
    exact ⟨ho, hw1.mono fun c hc => hc.2⟩
  · rw [if_neg hphase] at ha
    rw [if_neg hphase, if_neg hphase]
    obtain ⟨ho, hw1⟩ := same_queryMessage message w w' hw ha
    exact ⟨ho.mono fun _ _ _ => trivial, hw1⟩

/-- The report of an error is the same, and the state that pgwire goes on in. -/
theorem same_processError (e : PgWireError) : Same outside verifier (PyServerHandlers.processError e) := by
  refine same_get (fun _ _ => rfl) fun c _ => Same.bind (same_await (by simp) (by simp)) fun handled => ?_
  exact Same.bind (same_modify (fun _ _ => rfl) (fun _ => rfl) fun _ => id) fun _ => same_pure handled.ends

/-- **All messages of a client**. -/
theorem twins_processSocket (hinner : h.startup.inner = .scramVerifier inner) (messages : List PgWireFrontendMessage) :
    Twins outside verifier Conn.Unequipped (fun _ _ => True) (h.processSocket K messages)
      (h.processSocket K messages) := by
  induction messages with
  | nil => exact Prog.twin_pure trivial
  | cons message messages ih =>
    refine Prog.Setting.Twin.bind (twins_await (by simp) (by simp)) fun _ _ _ => ?_
    refine (twins_processMessage hinner message).attempt.bind fun r r' hr => ?_
    rcases r with e | _ <;> rcases r' with e' | _
    · obtain rfl : e = e' := hr
      refine Prog.Setting.Twin.bind (same_processError e) ?_
      rintro ends _ rfl
      by_cases hends : ends = true
      · simp only [if_pos hends]
        exact Prog.twin_pure trivial
      · simp only [if_neg hends]
        exact ih
    · exact hr.elim
    · exact hr.elim
    · exact ih

end Socket

/-! ### Indistinguishable runs -/

theorem eq_of_alike {o o' : Outcome PgWireError Unit} (h : o.Alike (fun _ _ => True) o') : o = o' := by
  cases o' with
  | ok a =>
    obtain ⟨b, rfl, -⟩ := Outcome.alike_ok.mp h
    rfl
  | err e => exact Outcome.alike_err.mp h
  | panic => exact Outcome.alike_panic.mp h

/-- Two runs that a client cannot tell apart, and in which no session is opened. -/
structure Indistinguishable (verifier : PyScramVerifier) (r r' : Outcome PgWireError Unit × WireWorld) : Prop where
  outcome : r.1 = r'.1
  log : List.Forall₂ (EventAlike verifier) r.2.log r'.2.log
  noSession : ∀ login result, .called (.python (.openSession login)) result ∉ r.2.log ∧
    .called (.python (.openSession login)) result ∉ r'.2.log

theorem EventAlike.notOpen {verifier : PyScramVerifier} {e e' : WireEvent} (he : EventAlike verifier e e')
    (login : PyLoginInfo) (result : Call.Reply (.python (.openSession login))) :
    e ≠ .called (.python (.openSession login)) result ∧ e' ≠ .called (.python (.openSession login)) result := by
  cases he with
  | same e hno => exact ⟨hno login result, hno login result⟩
  | lookup login' => simp
  | serverFirst nonce salt iterations salt' iterations' => simp
  | refused x x' message e => simp

theorem noSession_of_alike {verifier : PyScramVerifier} {log log' : Log}
    (h : List.Forall₂ (EventAlike verifier) log log') (login : PyLoginInfo)
    (result : Call.Reply (.python (.openSession login))) :
    .called (.python (.openSession login)) result ∉ log ∧ .called (.python (.openSession login)) result ∉ log' := by
  induction h with
  | nil => simp
  | cons he _ ih =>
    obtain ⟨hne, hne'⟩ := he.notOpen login result
    simp only [List.mem_cons, not_or]
    exact ⟨⟨hne.symm, ih.1⟩, hne'.symm, ih.2⟩

/-- **Main result**: the mock fails where the real exchange fails and with the same error, and is never accepted; and
a connection whose user is unknown is indistinguishable from one whose proof does not match. -/
theorem unknown_user_indistinguishable (K : Crypto) :
    (∀ first cbindData serverNonce user (verifier mock : PyScramVerifier) message,
      (∃ e, (Exchange.new first cbindData serverNonce user mock true).verify K message = .err e) ∧
        ∀ e, (Exchange.new first cbindData serverNonce user verifier false).verify K message = .err e →
          (Exchange.new first cbindData serverNonce user mock true).verify K message = .err e) ∧
    ∀ (configureCertificate : Bytes → Except PgWireError Unit) (config : HandlerConfig) (h : PyServerHandlers),
      config.build configureCertificate = .ok h → config.authMethod = .scramVerifier →
      ∀ (outside : ℕ → (c : Call) → c.Reply) (verifier : PyScramVerifier) secure host messages,
        Unproved ((h.processSocket K messages).run (answering outside (some verifier)) (freshWorld secure host)).2.log →
          Indistinguishable verifier
            ((h.processSocket K messages).run (answering outside none) (freshWorld secure host))
            ((h.processSocket K messages).run (answering outside (some verifier)) (freshWorld secure host)) := by
  refine ⟨fun first cbindData serverNonce user verifier mock message => ⟨Exchange.verify_mock rfl, fun e he => ?_⟩,
    fun configureCertificate config h hb hm outside verifier secure host messages hno => ?_⟩
  · exact (Exchange.mockOf_new first cbindData serverNonce user verifier mock).verify_err he
  · obtain ⟨inner, hinner⟩ : ∃ inner, h.startup.inner = .scramVerifier inner := by
      obtain ⟨inner, hi, rfl⟩ := HandlerConfig.build_eq_ok hb
      rcases HandlerConfig.buildStartup_eq_ok hi with ⟨hne, -⟩ | ⟨-, stored, -, rfl⟩
      · exact absurd hm hne
      · exact ⟨_, rfl⟩
    have hfresh : WorldAlike verifier Conn.Unequipped (freshWorld secure host) (freshWorld secure host) := by
      refine ⟨⟨rfl, .initial, rfl, fun n => rfl, fun n st hst => ?_⟩, .nil⟩
      cases hst
    obtain ⟨ho, hw⟩ := twins_processSocket (K := K) hinner messages _ _ hfresh hno
    exact ⟨eq_of_alike ho, hw.log, noSession_of_alike hw.log⟩

/-- The stored verifier of a user, and a proof that does not match it. -/
def storedVerifier : PyScramVerifier where
  iterations := 4096
  salt := [1]
  storedKey := List.replicate 32 1
  serverKey := List.replicate 32 1
  iterations_ne := iterations_ne
  salt_ne := List.cons_ne_nil 1 []
  storedKey_length := List.length_replicate
  serverKey_length := List.length_replicate

def wrongProof : List PgWireFrontendMessage :=
  [.startup ⟨[("user", "mallory")]⟩,
    .passwordMessageFamily ⟨.ok ⟨"SCRAM-SHA-256", some (Text.utf8 "n,,n=,r=abc".toList)⟩, .error .invalidSASLState⟩,
    .passwordMessageFamily ⟨.error .invalidSASLState, .ok (Text.utf8
      "c=biws,r=abcAAAAAAAAAAAAAAAAAAAAAAAA,p=AAAAAAAAAAAAAAAAAAAAAAAAAAAAAAAAAAAAAAAAAAA=".toList)⟩]

/-- A client with a wrong proof, on a server that checks its clients. -/
theorem unknown_user_indistinguishable_wrongProof :
    Indistinguishable storedVerifier
      ((verifying.processSocket default wrongProof).run (answering (fun _ => agreeable []) none)
        (freshWorld false "127.0.0.1"))
      ((verifying.processSocket default wrongProof).run (answering (fun _ => agreeable []) (some storedVerifier))
        (freshWorld false "127.0.0.1")) :=
  (unknown_user_indistinguishable default).2 _ _ _ verifying_build rfl _ storedVerifier false "127.0.0.1" wrongProof
    (by decide +kernel)

end Pywire
