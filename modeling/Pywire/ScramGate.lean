import Pywire.Lifecycle
import Pywire.Scram.ClientFinal

/-!
# ScramGate: the verifier handler admits a client once, and for a reason

`ScramVerifierStartupHandler` takes its state out before it works on a password message and puts it back only
when the server-first message is ready.  Whatever ends early leaves `Done` behind.

* `PyStartupHandler.one_shot`: **Main result** — for any sequence of startup messages, one lookup, one
  verification and one session at most; success only after a lookup that found a verifier, a proof that was
  verified against it and a session that opened; and nothing but `InvalidSASLState` after a failure.
-/

namespace Pywire

open Async Scram

/-! ### What the log has to show -/

def isLookup : WireEvent → Bool
  | .called (.python (.getScramVerifier _)) _ => true
  | _ => false

def isVerification : WireEvent → Bool
  | .noted _ => true
  | _ => false

def isOpen : WireEvent → Bool
  | .called (.python (.openSession _)) _ => true
  | _ => false

def isFinal : WireEvent → Bool
  | .called (.send (.authenticationSaslFinal _)) _ => true
  | _ => false

/-- `SASLFinal` with these bytes was sent at `j`. -/
def FinalAt (log : Log) (j : ℕ) (d : Bytes) : Prop :=
  log[j]? = some (.called (.send (.authenticationSaslFinal d)) ())

/-- The lookup at `a` returned `verifier`. -/
def FoundAt (log : Log) (a : ℕ) (verifier : PyScramVerifier) : Prop :=
  ∃ login, log[a]? = some (.called (.python (.getScramVerifier login)) (.ok (some verifier)))

/-- The session was opened at `c`. -/
def OpenedAt (log : Log) (c : ℕ) : Prop :=
  ∃ login, log[c]? = some (.called (.python (.openSession login)) (.ok ()))

/-- The exchange was built from `verifier`. -/
def Built (x : Exchange) (verifier : PyScramVerifier) : Prop :=
  ∃ first cbindData serverNonce user, x = .new first cbindData serverNonce user verifier false

/-- At `b` a client-final message passed against an exchange built from what a lookup had found before. -/
def VerifiedAt (K : Crypto) (log : Log) (b : ℕ) (serverFinal : Str) : Prop :=
  ∃ a verifier x message, FoundAt log a verifier ∧ a < b ∧ Built x verifier ∧
    log[b]? = some (.noted ⟨x, message, .ok serverFinal⟩) ∧ x.verify K message = .ok serverFinal

/-- What has to stand in the log before `SASLFinal` with the bytes `d` is sent at `j`. -/
def Admitted (K : Crypto) (sessionFactory : Bool) (log : Log) (j : ℕ) (d : Bytes) : Prop :=
  ∃ b serverFinal, VerifiedAt K log b serverFinal ∧ b < j ∧ d = Text.utf8 serverFinal ∧
    (sessionFactory = true → ∃ c, b < c ∧ c < j ∧ OpenedAt log c)

section Concat

variable {K : Crypto} {f : Bool} {log : Log} {e : WireEvent}

theorem VerifiedAt.concat {b : ℕ} {s : Str} (h : VerifiedAt K log b s) : VerifiedAt K (log ++ [e]) b s := by
  obtain ⟨a, verifier, x, message, ⟨login, ha⟩, hab, hx, hb, hv⟩ := h
  exact ⟨a, verifier, x, message, ⟨login, getElem?_concat ha⟩, hab, hx, getElem?_concat hb, hv⟩

theorem OpenedAt.concat {c : ℕ} (h : OpenedAt log c) : OpenedAt (log ++ [e]) c := by
  obtain ⟨login, hc⟩ := h
  exact ⟨login, getElem?_concat hc⟩

theorem Admitted.concat {j : ℕ} {d : Bytes} (h : Admitted K f log j d) : Admitted K f (log ++ [e]) j d := by
  obtain ⟨b, s, hb, hbj, hd, ho⟩ := h
  refine ⟨b, s, hb.concat, hbj, hd, fun hf => ?_⟩
  obtain ⟨c, hbc, hcj, hc⟩ := ho hf
  exact ⟨c, hbc, hcj, hc.concat⟩

/-- Budgets for lookups, verifications and sessions, and a reason for every `SASLFinal`. -/
structure Shots (K : Crypto) (f : Bool) (log : Log) (lookups verifications opens : ℕ) : Prop where
  lookups : log.countP isLookup ≤ lookups
  verifications : log.countP isVerification ≤ verifications
  opens : log.countP isOpen ≤ opens
  finals : ∀ j d, FinalAt log j d → Admitted K f log j d

theorem Shots.concat {l v o l' v' o' : ℕ} (h : Shots K f log l v o) (hl : l + (isLookup e).toNat ≤ l')
    (hv : v + (isVerification e).toNat ≤ v') (ho : o + (isOpen e).toNat ≤ o')
    (he : ∀ d, e = .called (.send (.authenticationSaslFinal d)) () → Admitted K f (log ++ [e]) log.length d) :
    Shots K f (log ++ [e]) l' v' o' := by
  have count : ∀ (p : WireEvent → Bool), (log ++ [e]).countP p = log.countP p + (p e).toNat := by
    intro p
    rw [List.countP_append, List.countP_singleton]
    cases p e <;> rfl
  have h1 := h.lookups
  have h2 := h.verifications
  have h3 := h.opens
  refine ⟨by rw [count]; omega, by rw [count]; omega, by rw [count]; omega, fun j d hj => ?_⟩
  rcases Nat.lt_trichotomy j log.length with hlt | rfl | hgt
  · rw [FinalAt, List.getElem?_append_left hlt] at hj
    exact (h.finals j d hj).concat
  · rw [FinalAt, List.getElem?_append_right (Nat.le_refl _), Nat.sub_self] at hj
    exact he d (Option.some.inj hj)
  · rw [FinalAt, List.getElem?_eq_none (by simp; omega)] at hj
    cases hj

/-- An event of no kind that is counted. -/
def Idle (e : WireEvent) : Prop :=
  isLookup e = false ∧ isVerification e = false ∧ isOpen e = false ∧ isFinal e = false

theorem Shots.idle {l v o : ℕ} (h : Shots K f log l v o) (he : Idle e) : Shots K f (log ++ [e]) l v o := by
  obtain ⟨h1, h2, h3, h4⟩ := he
  refine h.concat (by rw [h1]; rfl) (by rw [h2]; rfl) (by rw [h3]; rfl) ?_
  rintro d rfl
  cases h4

theorem Shots.mono {l v o l' v' o' : ℕ} (h : Shots K f log l v o) (hl : l ≤ l') (hv : v ≤ v') (ho : o ≤ o') :
    Shots K f log l' v' o' :=
  ⟨Nat.le_trans h.lookups hl, Nat.le_trans h.verifications hv, Nat.le_trans h.opens ho, h.finals⟩

end Concat

/-! ### The stages of the handler -/

def PgWireFrontendMessage.isPassword : PgWireFrontendMessage → Bool
  | .passwordMessageFamily _ => true
  | _ => false

/-- An exchange that is not a mock was built from the verifier that a lookup found. -/
def FromLookup (log : Log) (x : Exchange) : Prop :=
  x.mock = false → ∃ a verifier, FoundAt log a verifier ∧ Built x verifier

/-- Where the handler stands between two messages. -/
inductive Stage (K : Crypto) (f : Bool) (w : WireWorld) : Prop where
  | initial (hs : w.st.scram = .initial) (hp : w.st.state.isStartup = true) (hshots : Shots K f w.log 0 0 0)
  | sent (x : Exchange) (hs : w.st.scram = .serverFirstSent x) (hp : w.st.state.isStartup = true)
      (hshots : Shots K f w.log 1 0 0) (hx : FromLookup w.log x)
  | failed (hs : w.st.scram = .done) (hp : w.st.state.isStartup = true) (hshots : Shots K f w.log 1 1 1)
  | admitted (hs : w.st.scram = .done) (hshots : Shots K f w.log 1 1 1) (hfinal : ∃ j d, FinalAt w.log j d)
      (hsession : f = true → w.st.pySession.isSome = true)

section Stage

variable {K : Crypto} {f : Bool} {w : WireWorld}

theorem Stage.shots (h : Stage K f w) : Shots K f w.log 1 1 1 := by
  cases h with
  | initial hs hp hshots => exact hshots.mono (by decide) (by decide) (by decide)
  | sent x hs hp hshots => exact hshots.mono (by decide) (by decide) (by decide)
  | failed hs hp hshots => exact hshots
  | admitted hs hshots => exact hshots

theorem Stage.idle {c : Call} {r : c.Reply} (h : Stage K f w) (he : Idle (.called c r)) :
    Stage K f (w.called c r) := by
  cases h with
  | initial hs hp hshots => exact .initial hs hp (hshots.idle he)
  | sent x hs hp hshots hx =>
    refine .sent x hs hp (hshots.idle he) fun hm => ?_
    obtain ⟨a, v, ⟨login, ha⟩, hb⟩ := hx hm
    exact ⟨a, v, ⟨login, getElem?_concat ha⟩, hb⟩
  | failed hs hp hshots => exact .failed hs hp (hshots.idle he)
  | admitted hs hshots hfinal hsession =>
    obtain ⟨j, d, hj⟩ := hfinal
    exact .admitted hs (hshots.idle he) ⟨j, d, getElem?_concat hj⟩ hsession

/-- Nothing changed that the handler looks at, and the connection is in startup. -/
theorem Stage.congr {c : Conn} (h : Stage K f w) (hs : c.scram = w.st.scram) (hp : c.state.isStartup = true)
    (hses : c.pySession = w.st.pySession) : Stage K f ⟨c, w.log⟩ := by
  cases h with
  | initial hs' _ hshots => exact .initial (hs.trans hs') hp hshots
  | sent x hs' _ hshots hx => exact .sent x (hs.trans hs') hp hshots hx
  | failed hs' _ hshots => exact .failed (hs.trans hs') hp hshots
  | admitted hs' hshots hfinal hsession => exact .admitted (hs.trans hs') hshots hfinal (hses ▸ hsession)

theorem stage_freshWorld (K : Crypto) (f : Bool) (secure : Bool) (host : String) :
    Stage K f (freshWorld secure host) :=
  .initial rfl rfl ⟨Nat.le_refl _, Nat.le_refl _, Nat.le_refl _, fun j d hj => by cases hj⟩

/-- How a message ends: `Done` stays, and a password message that failed leaves it behind. -/
def Steps (K : Crypto) (f password : Bool) (w : WireWorld) : Outcome PgWireError Unit → WireWorld → Prop
  | .ok _, w' => Stage K f w' ∧ (w.st.scram = .done → w'.st.scram = .done)
  | .err _, w' => Stage K f w' ∧ (w.st.scram = .done ∨ password = true → w'.st.scram = .done)
  | .panic, _ => False

/-! ### One message -/

/-- `start` looks the user up at most once, and builds the exchange from what was found. -/
theorem start_shots (hs : ScramVerifierStartupHandler) (hw : Shots K f w.log 0 0 0) (mechanism : String)
    (data : Option Bytes) :
    Prog.Sat (fun _ _ => True) (hs.start K mechanism data) w (fun o w' => w'.st = w.st ∧ Shots K f w'.log 1 0 0 ∧
      o ≠ .panic ∧ ∀ x, o = .ok x → FromLookup w'.log x) := by
  have hlookup : ∀ r, Shots K f (w.log ++ [.called (.python (.getScramVerifier w.st.loginInfo)) r]) 1 0 0 :=
    fun r => hw.concat (Nat.le_refl _) (Nat.le_refl _) (Nat.le_refl _) (by simp)
  refine start_spec K hs trivial (fun _ => trivial)
    (fun e => ⟨rfl, hw.mono (by decide) (by decide) (by decide), (by simp), (by simp)⟩)
    (fun e => ⟨rfl, hlookup _, (by simp), (by simp)⟩) ?_
  intro d first cbindData found nonce verifier mock hd hparse hneg hfound
  refine ⟨rfl, (hlookup _).idle ⟨rfl, rfl, rfl, rfl⟩, (by simp), ?_⟩
  rintro x ⟨⟩ hm
  obtain rfl : mock = false := hm
  obtain rfl := hfound rfl
  refine ⟨w.log.length, verifier, ⟨w.st.loginInfo, getElem?_concat ?_⟩, first, cbindData, _, _, rfl⟩
  exact List.getElem?_concat_length

/-- **Success**: from a verification on, with the session opened in between. -/
theorem admit_stage (hfactory : Bool) {serverFinal : Str} (hs : w.st.scram = .done)
    (hp : w.st.state.isStartup = true) (hshots : Shots K f w.log 1 1 0) {b : ℕ}
    (hv : VerifiedAt K w.log b serverFinal) (hf : hfactory = f) :
    Prog.Sat (fun _ _ => True)
      (do
        if hfactory then initializePythonSession else pure ()
        send (.authenticationSaslFinal (Text.utf8 serverFinal))
        let pid ← await .generatePid
        Prog.modify fun client => { client with pidAndSecretKey := some pid }
        Prog.modify fun client => { client with registered := true }
        finishAuthentication) w
      (fun o w' => o ≠ .panic ∧ Stage K f w' ∧ w'.st.scram = .done) := by
  subst hf
  have hb : b < w.log.length := by
    obtain ⟨a, verifier, x, message, -, -, -, hb, -⟩ := hv
    exact (List.getElem?_eq_some_iff.mp hb).1
  have finish : ∀ {w' : WireWorld}, w'.st.scram = .done → Shots K hfactory w'.log 1 1 1 →
      VerifiedAt K w'.log b serverFinal → b < w'.log.length →
      (hfactory = true → w'.st.pySession.isSome = true ∧ ∃ c, b < c ∧ c < w'.log.length ∧ OpenedAt w'.log c) →
      Prog.Sat (fun _ _ => True)
        (do
          send (.authenticationSaslFinal (Text.utf8 serverFinal))
          let pid ← await .generatePid
          Prog.modify fun client => { client with pidAndSecretKey := some pid }
          Prog.modify fun client => { client with registered := true }
          finishAuthentication) w' (fun o w'' => o ≠ .panic ∧ Stage K hfactory w'' ∧ w''.st.scram = .done) := by
    intro w' hs' hshots' hv' hb' hopen
    have hadmitted : Admitted K hfactory
        (w'.log ++ [.called (.send (.authenticationSaslFinal (Text.utf8 serverFinal))) ()]) w'.log.length
        (Text.utf8 serverFinal) := by
      refine ⟨b, serverFinal, hv'.concat, hb', rfl, fun hf => ?_⟩
      obtain ⟨-, c, hbc, hc, ho⟩ := hopen hf
      exact ⟨c, hbc, hc, ho.concat⟩
    have hshots1 : Shots K hfactory
        (w'.log ++ [.called (.send (.authenticationSaslFinal (Text.utf8 serverFinal))) ()]) 1 1 1 := by
      refine hshots'.concat (Nat.le_refl _) (Nat.le_refl _) (Nat.le_refl _) ?_
      rintro d ⟨⟩
      exact hadmitted
    simp only [finishAuthentication, Prog.sat_bind, Prog.sat_await, Prog.after_ok, Prog.sat_modify]
    refine ⟨trivial, fun r => ⟨trivial, fun pid => ⟨trivial, fun r' => ⟨trivial, fun announced => ⟨trivial, fun r'' =>
      ⟨(by simp), ?_, hs'⟩⟩⟩⟩⟩⟩
    refine .admitted hs' ?_ ⟨w'.log.length, Text.utf8 serverFinal, ?_⟩ fun hf => (hopen hf).1
    · have hpid := hshots1.idle (e := .called .generatePid pid) ⟨rfl, rfl, rfl, rfl⟩
      have hok := hpid.idle (e := .called (.send .authenticationOk) r') ⟨rfl, rfl, rfl, rfl⟩
      have hannounced := hok.idle (e := .called .announce announced) ⟨rfl, rfl, rfl, rfl⟩
      exact hannounced.idle ⟨rfl, rfl, rfl, rfl⟩
    · exact getElem?_concat (getElem?_concat (getElem?_concat (getElem?_concat List.getElem?_concat_length)))
  cases hfactory with
  | false =>
    exact finish hs (hshots.mono (by decide) (by decide) (by decide)) hv hb (by simp)
  | true =>
    simp only [if_true, Prog.sat_bind, initializePythonSession, Prog.sat_get, Prog.after_ok, sat_callPythonRef,
      Prog.sat_modify, Prog.after_err]
    have hopens : ∀ r, Shots K true (w.log ++ [.called (.python (.openSession w.st.loginInfo)) r]) 1 1 1 :=
      fun r => hshots.concat (Nat.le_refl _) (Nat.le_refl _) (Nat.le_refl _) (by simp)
    refine ⟨trivial, fun r => ?_, fun e => ⟨(by simp), .failed hs hp (hopens _), hs⟩⟩
    refine finish hs (hopens _) hv.concat ?_ fun _ => ⟨rfl, w.log.length, hb, ?_, w.st.loginInfo, ?_⟩
    · simp only [World.modify_log, World.called_log, List.length_append, List.length_singleton]
      omega
    · simp
    · exact List.getElem?_concat_length

/-- One message to the verifier handler. -/
theorem scramOnStartup_steps (hs : ScramVerifierStartupHandler) (hf : hs.sessionFactory = f) (hw : Stage K f w)
    (message : PgWireFrontendMessage) :
    Prog.Sat (fun _ _ => True) (hs.onStartup K message) w
      (Steps K f message.isPassword w) := by
  cases message with
  | startup startup =>
    simp only [ScramVerifierStartupHandler.onStartup, Prog.sat_bind, Prog.sat_await, Prog.after_ok, Prog.sat_ofExcept,
      Prog.sat_modify, Prog.sat_get, Prog.after_err]
    refine ⟨trivial, fun r => ⟨fun _ _ => ⟨trivial, fun r' => ?_⟩, fun _ _ => ?_⟩⟩
    · have hw1 := hw.idle (c := .protocolNegotiation startup) (r := r) ⟨rfl, rfl, rfl, rfl⟩
      have hw2 : Stage K f ⟨{ Conn.saveStartupParameters startup w.st with state := .authenticationInProgress }, _⟩ :=
        hw1.congr rfl rfl rfl
      exact ⟨hw2.idle ⟨rfl, rfl, rfl, rfl⟩, id⟩
    · refine ⟨hw.idle ⟨rfl, rfl, rfl, rfl⟩, ?_⟩
      rintro (hdone | ⟨⟨⟩⟩)
      exact hdone
  | passwordMessageFamily message =>
    simp only [ScramVerifierStartupHandler.onStartup, ScramVerifierStartupHandler.takeState, Prog.sat_bind,
      Prog.sat_get, Prog.after_ok, Prog.sat_modify, Prog.sat_pure]
    -- every way out that does not put a state back leaves `Done` behind
    have fails : ∀ {w' : WireWorld} (e : PgWireError), w'.st.scram = .done → Stage K f w' →
        Steps K f true w (.err e) w' := fun e hs' hw' => ⟨hw', fun _ => hs'⟩
    cases hw with
    | initial hscram hp hshots =>
      have hleft : Shots K f w.log 1 1 1 := hshots.mono (by decide) (by decide) (by decide)
      simp only [hscram, Prog.sat_bind, Prog.sat_ofExcept, Prog.after_ok, Prog.after_err]
      refine ⟨fun initial _ => ?_, fun e _ => fails e rfl (.failed rfl hp hleft)⟩
      refine (start_shots (w := w.modify _) hs hshots _ _).post ?_
      rintro (x | e | _) w1 ⟨hst, hshots1, hpanic, hx⟩
      · simp only [Prog.after_ok, Prog.sat_bind, Prog.sat_modify, Prog.sat_await]
        have hp1 : w1.st.state.isStartup = true := (congrArg (fun c : Conn => c.state.isStartup) hst).trans hp
        have hw2 : Stage K f ⟨{ w1.st with scram := .serverFirstSent x }, w1.log⟩ :=
          .sent x rfl hp1 hshots1 (hx x rfl)
        refine ⟨trivial, fun r => ⟨hw2.idle ⟨rfl, rfl, rfl, rfl⟩, fun hdone => ?_⟩⟩
        rw [hscram] at hdone
        cases hdone
      · have hdone : w1.st.scram = .done := congrArg Conn.scram hst
        have hp1 : w1.st.state.isStartup = true := (congrArg (fun c : Conn => c.state.isStartup) hst).trans hp
        exact fails e hdone (.failed hdone hp1 (hshots1.mono (by decide) (by decide) (by decide)))
      · exact absurd rfl hpanic
    | sent x hscram hp hshots hx =>
      have hleft : Shots K f w.log 1 1 1 := hshots.mono (by decide) (by decide) (by decide)
      simp only [hscram, Prog.sat_bind, Prog.sat_ofExcept, Prog.after_ok, Prog.after_err,
        ScramVerifierStartupHandler.verify, Prog.sat_mark, Prog.sat_ofOutcome]
      refine ⟨fun response _ => ?_, fun e _ => fails e rfl (.failed rfl hp hleft)⟩
      have hshots1 : Shots K f (w.log ++ [.noted ⟨x, response, x.verify K response⟩]) 1 1 0 :=
        hshots.concat (Nat.le_refl _) (Nat.le_refl _) (Nat.le_refl _) (by simp)
      cases hv : x.verify K response with
      | panic => exact absurd hv (x.verify_ne_panic response)
      | err e =>
        rw [hv] at hshots1
        exact fails e rfl (.failed rfl hp (hshots1.mono (by decide) (by decide) (by decide)))
      | ok serverFinal =>
        rw [hv] at hshots1
        obtain ⟨-, -, -, -, -, -, -, -, -, hmock, -⟩ := Exchange.verify_eq_ok hv
        obtain ⟨a, verifier, ⟨login, ha⟩, hbuilt⟩ := hx hmock
        have hverified : VerifiedAt K (w.log ++ [.noted ⟨x, response, .ok serverFinal⟩]) w.log.length serverFinal :=
          ⟨a, verifier, x, response, ⟨login, getElem?_concat ha⟩, (List.getElem?_eq_some_iff.mp ha).1, hbuilt,
            List.getElem?_concat_length, hv⟩
        let w1 := (w.modify fun client => { client with scram := .done }).noted ⟨x, response, .ok serverFinal⟩
        refine (admit_stage (w := w1) hs.sessionFactory rfl hp hshots1 hverified hf).post ?_
        rintro (_ | e | _) w2 ⟨hpanic, hw2, hdone⟩
        · exact ⟨hw2, fun _ => hdone⟩
        · exact fails e hdone hw2
        · exact absurd rfl hpanic
    | failed hscram hp hshots =>
      simp only [hscram]
      exact fails _ rfl (.failed rfl hp hshots)
    | admitted hscram hshots hfinal hsession =>
      simp only [hscram]
      exact fails _ rfl (.admitted rfl hshots hfinal hsession)
  | _ => exact ⟨hw, id⟩

end Stage

/-! ### Many messages -/

namespace PyStartupHandler

/-- The messages of a client, one after the other, with the result of each. -/
def startupRun (K : Crypto) (h : PyStartupHandler) :
    List PgWireFrontendMessage → Proc (List (Except PgWireError Unit))
  | [] => pure []
  | message :: messages => do
    let result ← (h.onStartup K message).attempt
    let results ← startupRun K h messages
    return result :: results

section Wrapped

variable {K : Crypto} {h : PyStartupHandler} {inner : ScramVerifierStartupHandler} {w : WireWorld}

/-- The wrapper adds nothing: when the connection is ready the session is there. -/
theorem onStartup_steps (hinner : h.inner = .scramVerifier inner) (hf : inner.sessionFactory = h.sessionFactory)
    (hw : Stage K h.sessionFactory w) (message : PgWireFrontendMessage) :
    Prog.Sat (fun _ _ => True) (h.onStartup K message) w
      (Steps K h.sessionFactory message.isPassword w) := by
  simp only [PyStartupHandler.onStartup, Prog.sat_bind, Prog.sat_get, Prog.after_ok]
  split
  · rename_i htls
    refine ⟨hw, ?_⟩
    rintro (hdone | hp)
    · exact hdone
    · cases message <;> simp_all [PgWireFrontendMessage.isStartup, PgWireFrontendMessage.isPassword]
  have openSession : ∀ {w' : WireWorld}, Stage K h.sessionFactory w' → (w.st.scram = .done → w'.st.scram = .done) →
      Prog.Sat (fun _ _ => True)
        (do
          let client ← Prog.get
          if client.state = .readyForQuery ∧ client.pySession.isNone then
            if h.sessionFactory then initializePythonSession else pure ()
          else pure ()) w' (Steps K h.sessionFactory message.isPassword w) := by
    intro w' hw' hdone
    simp only [Prog.sat_bind, Prog.sat_get, Prog.after_ok]
    split
    · rename_i hc
      have hsession : h.sessionFactory ≠ true := by
        intro hyes
        cases hw' with
        | initial hs hp => rw [hc.1] at hp; cases hp
        | sent x hs hp => rw [hc.1] at hp; cases hp
        | failed hs hp => rw [hc.1] at hp; cases hp
        | admitted hs hshots hfinal hses =>
          have := hses hyes
          rw [Option.isNone_iff_eq_none.mp hc.2] at this
          cases this
      rw [if_neg hsession]
      exact ⟨hw', hdone⟩
    · exact ⟨hw', hdone⟩
  simp only [PyStartupHandler.innerOnStartup, hinner, Prog.sat_bind]
  refine (scramOnStartup_steps inner hf hw message).post ?_
  rintro (_ | e | _) w1 hw1
  · simp only [Prog.after_ok, Prog.sat_bind, Prog.sat_get]
    split
    · rename_i hc
      rw [Prog.sat_bind, Prog.sat_modify]
      have hw2 : Stage K h.sessionFactory (w1.modify fun client => { client with installed := true }) := by
        cases hw1.1 with
        | initial hs hp => rw [hc.1] at hp; cases hp
        | sent x hs hp => rw [hc.1] at hp; cases hp
        | failed hs hp => rw [hc.1] at hp; cases hp
        | admitted hs hshots hfinal hses => exact .admitted hs hshots hfinal hses
      exact openSession hw2 hw1.2
    · exact openSession hw1.1 hw1.2
  · exact hw1
  · exact absurd hw1 id

/-- A password message failed, according to the results. -/
def Failed (messages : List PgWireFrontendMessage) (results : List (Except PgWireError Unit)) : Prop :=
  ∃ (i : ℕ) (p : PasswordMessageFamily) (e : PgWireError),
    messages[i]? = some (.passwordMessageFamily p) ∧ results[i]? = some (.error e)

theorem startupRun_steps (hinner : h.inner = .scramVerifier inner) (hf : inner.sessionFactory = h.sessionFactory)
    (hw : Stage K h.sessionFactory w) (messages : List PgWireFrontendMessage) :
    Prog.Sat (fun _ _ => True) (startupRun K h messages) w (fun o w' => ∃ results, o = .ok results ∧
      Stage K h.sessionFactory w' ∧ (w.st.scram = .done ∨ Failed messages results → w'.st.scram = .done)) := by
  induction messages generalizing w with
  | nil =>
    refine ⟨[], rfl, hw, ?_⟩
    rintro (hdone | ⟨i, p, e, hm, -⟩)
    · exact hdone
    · simp at hm
  | cons message messages ih =>
    simp only [startupRun, Prog.sat_bind, Prog.sat_attempt]
    refine (onStartup_steps hinner hf hw message).post ?_
    -- what a failure among all messages means for the rest of them
    have next : ∀ {w1 : WireWorld} (result : Except PgWireError Unit), Stage K h.sessionFactory w1 →
        (w.st.scram = .done ∨ (∃ p e, message = .passwordMessageFamily p ∧ result = .error e) →
          w1.st.scram = .done) →
        Prog.Sat (fun _ _ => True)
          (do
            let results ← startupRun K h messages
            return result :: results) w1 (fun o w' => ∃ results, o = .ok results ∧
              Stage K h.sessionFactory w' ∧
                (w.st.scram = .done ∨ Failed (message :: messages) results → w'.st.scram = .done)) := by
      intro w1 result hw1 hdone1
      rw [Prog.sat_bind]
      refine (ih hw1).post ?_
      rintro o w2 ⟨results, rfl, hw2, hdone2⟩
      refine ⟨result :: results, rfl, hw2, ?_⟩
      rintro (hdone | ⟨_ | i, p, e, hm, hr⟩)
      · exact hdone2 (.inl (hdone1 (.inl hdone)))
      · exact hdone2 (.inl (hdone1 (.inr ⟨p, e, Option.some.inj hm, Option.some.inj hr⟩)))
      · exact hdone2 (.inr ⟨i, p, e, hm, hr⟩)
    rintro (_ | e | _) w1 hw1
    · refine next _ hw1.1 ?_
      rintro (hdone | ⟨p, e, -, ⟨⟩⟩)
      exact hw1.2 hdone
    · refine next _ hw1.1 ?_
      rintro (hdone | ⟨p, e, rfl, -⟩)
      · exact hw1.2 (.inl hdone)
      · exact hw1.2 (.inr rfl)
    · exact absurd hw1 id

/-- Once the state is `Done`, a password message is answered without a call. -/
theorem onStartup_done (hinner : h.inner = .scramVerifier inner) (hdone : w.st.scram = .done) (env : WireEnv)
    (p : PasswordMessageFamily) :
    ((h.onStartup K (.passwordMessageFamily p)).run env w).1 = .err .invalidSASLState ∧
      ((h.onStartup K (.passwordMessageFamily p)).run env w).2.log = w.log := by
  simp [PyStartupHandler.onStartup, PgWireFrontendMessage.isStartup, PyStartupHandler.innerOnStartup, hinner,
    ScramVerifierStartupHandler.onStartup, ScramVerifierStartupHandler.takeState, hdone]

end Wrapped

/-- What any sequence of startup messages comes to. -/
structure OneShot (K : Crypto) (h : PyStartupHandler) (messages : List PgWireFrontendMessage)
    (results : List (Except PgWireError Unit)) (w : WireWorld) : Prop where
  lookups : w.log.countP isLookup ≤ 1
  verifications : w.log.countP isVerification ≤ 1
  opens : w.log.countP isOpen ≤ 1
  /-- `SASLFinal` comes after a lookup, a verification and a session, in this order. -/
  final : ∀ j d, FinalAt w.log j d → Admitted K h.sessionFactory w.log j d
  ready : w.st.state = .readyForQuery → ∃ j d, FinalAt w.log j d ∧ Admitted K h.sessionFactory w.log j d
  /-- After a failure every password message fails, and the log stays as it is. -/
  exhausted : Failed messages results → ∀ env p,
    ((h.onStartup K (.passwordMessageFamily p)).run env w).1 = .err .invalidSASLState ∧
      ((h.onStartup K (.passwordMessageFamily p)).run env w).2.log = w.log

/-- **Main result**: the verifier handler of any configuration is a one-shot gate. -/
theorem one_shot (K : Crypto) {configureCertificate : Bytes → Except PgWireError Unit} {config : HandlerConfig}
    {h : PyServerHandlers} (hb : config.build configureCertificate = .ok h)
    (hm : config.authMethod = .scramVerifier) (env : WireEnv) (secure : Bool) (host : String)
    (messages : List PgWireFrontendMessage) :
    ∃ results w, (startupRun K h.startup messages).run env (freshWorld secure host) = (.ok results, w) ∧
      OneShot K h.startup messages results w := by
  obtain ⟨inner, hinner, hf⟩ : ∃ inner, h.startup.inner = .scramVerifier inner ∧
      inner.sessionFactory = h.startup.sessionFactory := by
    obtain ⟨inner, hi, rfl⟩ := HandlerConfig.build_eq_ok hb
    rcases HandlerConfig.buildStartup_eq_ok hi with ⟨hne, -⟩ | ⟨-, verifier, -, rfl⟩
    · exact absurd hm hne
    · exact ⟨_, rfl, rfl⟩
  obtain ⟨results, hok, hw, hdone⟩ :=
    (startupRun_steps hinner hf (stage_freshWorld K _ secure host) messages).run env
  refine ⟨results, _, Prod.ext hok rfl, hw.shots.lookups, hw.shots.verifications, hw.shots.opens, hw.shots.finals,
    fun hready => ?_, fun hfailed env' p => onStartup_done hinner (hdone (.inr hfailed)) env' p⟩
  cases hw with
  | initial hs hp => rw [hready] at hp; cases hp
  | sent x hs hp => rw [hready] at hp; cases hp
  | failed hs hp => rw [hready] at hp; cases hp
  | admitted hs hshots hfinal hsession =>
    obtain ⟨j, d, hj⟩ := hfinal
    exact ⟨j, d, hj, hshots.finals j d hj⟩

end PyStartupHandler

/-! ### A client that logs in -/

namespace KnownUser

open Scram.Sesame

/-- The user is known to the server. -/
def env : WireEnv := fun log call =>
  match call with
  | .python (.getScramVerifier _) => .ok (some verifier)
  | call => agreeable log call

def clientFinal : Bytes :=
  Text.utf8 "c=biws,r=openAAAAAAAAAAAAAAAAAAAAAAAA,p=AAAAAAAAAAAAAAAAAAAAAAAAAAAAAAAAAAAAAAAAAAA=".toList

/-- The client asks, and proves that it knows the password. -/
def messages : List PgWireFrontendMessage :=
  [.startup ⟨[("user", "alice")]⟩,
    .passwordMessageFamily ⟨.ok ⟨"SCRAM-SHA-256", some (Text.utf8 (first.gs2Header ++ first.bare))⟩,
      .error .invalidSASLState⟩,
    .passwordMessageFamily ⟨.error .invalidSASLState, .ok clientFinal⟩]

end KnownUser

/-- The client is looked up, verified and let in, each once. -/
theorem one_shot_alice : ∃ results w,
    (PyStartupHandler.startupRun default verifying.startup KnownUser.messages).run KnownUser.env
        (freshWorld false "127.0.0.1") = (.ok results, w) ∧
      PyStartupHandler.OneShot default verifying.startup KnownUser.messages results w ∧
      w.st.state = .readyForQuery ∧ w.log.countP isLookup = 1 ∧ w.log.countP isVerification = 1 ∧
      w.log.countP isOpen = 1 := by
  obtain ⟨results, w, hrun, hshot⟩ :=
    PyStartupHandler.one_shot default verifying_build rfl KnownUser.env false "127.0.0.1" KnownUser.messages
  have hw : ((PyStartupHandler.startupRun default verifying.startup KnownUser.messages).run KnownUser.env
      (freshWorld false "127.0.0.1")).2 = w := congrArg Prod.snd hrun
  refine ⟨results, w, hrun, hshot, ?_⟩
  rw [← hw]
  decide +kernel

end Pywire
