import Pywire.Shutdown

/-!
# Orphan: the callback that was in flight when the connection was stopped

Dropping `process_socket` drops the Rust future of the callback it waits for, but not the Python coroutine, which
goes on to its end.  A `Scene` is the task of a connection together with that coroutine.  What the coroutine
creates is entered nowhere: the code that would have entered it is gone.

* `PyServerHandlers.shutdown_leaks_iff`: **Main result** — every statement, portal and session is closed if and
  only if no stranded connection received a statement, no creation that was cut off succeeds after all, and the
  session has a `close` method.
* `PyServerHandlers.Reachable.ends`: a task that can do nothing more has come to the end of `cleanup`, and there
  is no endless run (`Task.wellFounded_step`).
-/

namespace Pywire

open Async Scram

/-! ### What callbacks create and close -/

inductive Resource where
  | statement (on : PyInstance) (name : String)
  | portal (on : PyInstance) (name : String)
  | session
  deriving DecidableEq

def PyCall.creates : PyCall → Option Resource
  | .parseStatement on name _ _ => some (.statement on name)
  | .bindPortal on name _ _ _ _ => some (.portal on name)
  | .openSession _ => some .session
  | _ => none

def PyCall.closes : PyCall → Option Resource
  | .closeStatement on name => some (.statement on name)
  | .closePortal on name => some (.portal on name)
  | .closeSession _ => some .session
  | _ => none

/-! ### Scenes -/

/-- A coroutine whose future was dropped; `completed` says what became of it, and after how many events. -/
structure Orphan where
  call : PyCall
  completed : Option (ℕ × Except PyErr call.Ret)

structure Scene where
  task : Task
  orphan : Option Orphan

def Task.log : Task → Log
  | .serving _ w _ => w.log
  | .leaving _ w => w.log

/-- The coroutine that is left when `process_socket` is dropped where it is. -/
def orphanOf : Proc Unit → Option Orphan
  | .call (.python c) _ => some ⟨c, none⟩
  | _ => none

/-- One step of the task, or the end of the coroutine it left behind. -/
inductive Scene.Step : Scene → Scene → Prop where
  | serves {t t' : Proc Unit} {w w' : WireWorld} {stop stop' : Bool}
      (hs : Task.Step (.serving t w stop) (.serving t' w' stop')) :
      Step ⟨.serving t w stop, none⟩ ⟨.serving t' w' stop', none⟩
  | leaves {t t' : Proc Unit} {w w' : WireWorld} {stop : Bool}
      (hs : Task.Step (.serving t w stop) (.leaving t' w')) :
      Step ⟨.serving t w stop, none⟩ ⟨.leaving t' w', orphanOf t⟩
  | cleans {t t' : Proc Unit} {w w' : WireWorld} (orphan : Option Orphan)
      (hs : Task.Step (.leaving t w) (.leaving t' w')) : Step ⟨.leaving t w, orphan⟩ ⟨.leaving t' w', orphan⟩
  /-- The coroutine returns or raises, to nobody. -/
  | completes (t : Task) (c : PyCall) (r : Except PyErr c.Ret) :
      Step ⟨t, some ⟨c, none⟩⟩ ⟨t, some ⟨c, some (t.log.length, r)⟩⟩

/-- What a connection and its callbacks can come to, whatever the client, the callbacks and the server do. -/
def PyServerHandlers.Plays (K : Crypto) (h : PyServerHandlers) (secure : Bool) (host : String)
    (messages : List PgWireFrontendMessage) : Scene → Prop :=
  Relation.ReflTransGen Scene.Step ⟨.serving (h.processSocket K messages) (freshWorld secure host) false, none⟩

/-- Every step of the task is one of the scene. -/
theorem PyServerHandlers.Reachable.plays {K : Crypto} {h : PyServerHandlers} {secure : Bool} {host : String}
    {messages : List PgWireFrontendMessage} {t : Task} (hr : h.Reachable K secure host messages t) :
    ∃ orphan, h.Plays K secure host messages ⟨t, orphan⟩ ∧ ∀ s w stop, t = .serving s w stop → orphan = none := by
  induction hr with
  | refl => exact ⟨none, .refl, fun _ _ _ _ => rfl⟩
  | @tail t t' _ hs ih =>
    obtain ⟨orphan, hplays, hnone⟩ := ih
    cases t with
    | serving s w stop =>
      obtain rfl : orphan = none := hnone s w stop rfl
      cases t' with
      | serving s' w' stop' => exact ⟨none, hplays.tail (.serves hs), fun _ _ _ _ => rfl⟩
      | leaving s' w' => exact ⟨orphanOf s, hplays.tail (.leaves hs), by simp⟩
    | leaving s w =>
      cases hs with
      | cleanup hs => exact ⟨orphan, hplays.tail (.cleans orphan (.cleanup hs)), by simp⟩

/-! ### What is promised

`NoLeak` speaks of the log, in which the drop of `process_socket` left no mark, and of the orphan.
-/

/-- A `close` call on the session opened at `k`. -/
def SessionClose (log : Log) (j k : ℕ) : Prop :=
  ∃ r, log[j]? = some (.called (.python (.closeSession (.session k))) r)

/-- From `start` on, some callback closes `x`. -/
def ClosedFrom (x : Resource) (start : ℕ) (log : Log) : Prop :=
  ∃ j c r, start ≤ j ∧ log[j]? = some (.called (.python c) r) ∧ c.closes = some x

/-- Whatever a callback created, before the connection was stopped or after, is closed later. -/
structure NoLeak (log : Log) (orphan : Option Orphan) : Prop where
  statement : ∀ k on name, StatementParsed log k on name → ∃ j, ClosesStatement log k j on name
  portal : ∀ k on name st, PortalBound log k on name st → ∃ j, ClosesPortal log k j on name
  session : ∀ k, SessionOpened log k → ∃ j > k, SessionClose log j k
  orphan : ∀ a x p r, orphan = some a → a.call.creates = some x → a.completed = some (p, r) → succeeded r = true →
    ClosedFrom x p log

/-- If a creation was cut off, it does not succeed. -/
def Fruitless (orphan : Option Orphan) : Prop :=
  ∀ a, orphan = some a → a.call.creates ≠ none → ∀ p r, a.completed = some (p, r) → succeeded r = false

/-- Cleanup came to the session opened at `k` and found no `close` method on it. -/
def LacksClose (log : Log) (k : ℕ) : Prop := log.getLast? = some (.called (.hasClose (.session k)) false)

/-! ### Runs of the task are finite -/

theorem Task.acc_leaving (t : Proc Unit) (w : WireWorld) : Acc (fun s' s => Step s s') (.leaving t w) := by
  induction t generalizing w with
  | step f k ih =>
    refine ⟨_, fun s hs => ?_⟩
    cases hs with
    | cleanup hs =>
      cases hs
      exact ih _ _
  | note n t ih =>
    refine ⟨_, fun s hs => ?_⟩
    cases hs with
    | cleanup hs =>
      cases hs
      exact ih _
  | call c k ih =>
    refine ⟨_, fun s hs => ?_⟩
    cases hs with
    | cleanup hs =>
      cases hs
      exact ih _ _ _
  | _ =>
    refine ⟨_, fun s hs => ?_⟩
    cases hs with
    | cleanup hs => cases hs

/-- A task all of whose steps inside `process_socket` lead on to its end. -/
theorem Task.acc_serving {t : Proc Unit} {w : WireWorld} {stop : Bool}
    (hsignal : stop = false → Acc (fun s' s => Step s s') (.serving t w true))
    (hsocket : ∀ t' w', Prog.Step t w t' w' → Acc (fun s' s => Step s s') (.serving t' w' stop)) :
    Acc (fun s' s => Step s s') (.serving t w stop) := by
  refine ⟨_, fun s hs => ?_⟩
  cases hs with
  | socket stop hs hlock => exact hsocket _ _ hs
  | signal t w => exact hsignal rfl
  | stop c k w hc hfree => exact acc_leaving _ _
  | finished o w stop ho => exact acc_leaving _ _
  | unwinds w stop => exact acc_leaving _ _

theorem Task.acc_serving_of_signal (t : Proc Unit) (w : WireWorld) (stop : Bool)
    (hsignal : ∀ t w, stop = false → Acc (fun s' s => Step s s') (.serving t w true)) :
    Acc (fun s' s => Step s s') (.serving t w stop) := by
  induction t generalizing w with
  | step f k ih =>
    refine acc_serving (hsignal _ _) fun t' w' hs => ?_
    cases hs
    exact ih _ _
  | note n t ih =>
    refine acc_serving (hsignal _ _) fun t' w' hs => ?_
    cases hs
    exact ih _
  | call c k ih =>
    refine acc_serving (hsignal _ _) fun t' w' hs => ?_
    cases hs
    exact ih _ _ _
  | _ =>
    refine acc_serving (hsignal _ _) fun t' w' hs => ?_
    cases hs

/-- **No run of a connection is endless**. -/
theorem Task.wellFounded_step : WellFounded fun s' s => Task.Step s s' := by
  refine ⟨fun s => ?_⟩
  have stopped : ∀ t w, Acc (fun s' s => Step s s') (.serving t w true) := fun t w =>
    acc_serving_of_signal t w true (by simp)
  cases s with
  | serving t w stop => exact acc_serving_of_signal t w stop fun t w _ => stopped t w
  | leaving t w => exact acc_leaving t w

section Ends

variable {h : PyServerHandlers}

/-- A task goes on until cleanup is over. -/
theorem Task.Sound.progress {s : Task} (hs : s.Sound h) :
    (∃ s', Step s s') ∨ ∃ w, s = .leaving (Prog.ofOutcome (.ok ())) w := by
  cases hs with
  | serving t w stop rest allowed =>
    refine .inl ?_
    cases t with
    | ret a => exact ⟨_, .finished (.ok a) w stop (by simp)⟩
    | fail e => exact rest.elim
    | panic => exact ⟨_, .unwinds w stop⟩
    | step f k => exact ⟨_, .socket stop (.step f k w) (by simp)⟩
    | note n t => exact ⟨_, .socket stop (.note n t w) (by simp)⟩
    | call c k =>
      refine ⟨_, .socket stop (.call c k w (agreeable [] c)) ?_⟩
      intro k' he
      cases he
      exact rest.1.locked
  | leaving t w rest =>
    cases t with
    | ret a => exact .inr ⟨w, rfl⟩
    | fail e => cases rest.1
    | panic => cases rest.1
    | step f k => exact .inl ⟨_, .cleanup (.step f k w)⟩
    | note n t => exact .inl ⟨_, .cleanup (.note n t w)⟩
    | call c k => exact .inl ⟨_, .cleanup (.call c k w (agreeable [] c))⟩

/-- **A connection that can do nothing more has been cleaned up**. -/
theorem PyServerHandlers.Reachable.ends {K : Crypto} (hwired : h.Wired) {secure : Bool} {host : String}
    {messages : List PgWireFrontendMessage} {s : Task} (hr : h.Reachable K secure host messages s)
    (hstuck : ∀ s', ¬ Task.Step s s') : ∃ w, s = .leaving (Prog.ofOutcome (.ok ())) w := by
  rcases (hr.sound hwired).progress with ⟨s', hs⟩ | hend
  · exact absurd hs (hstuck s')
  · exact hend

end Ends

/-! ### What cleanup leaves alone -/

/-- The name is free, or there is no session: nothing that the code holds is `x`. -/
def Resource.Free (session : Option PyInstance) (log : Log) : Resource → Prop
  | .statement _ name => heldStatements log name = none
  | .portal _ name => heldPortals log name = none
  | .session => session = none

/-- Cleanup creates nothing, and closes no session but the one it took. -/
def Call.Ending (session : Option PyInstance) (c : Call) : Prop :=
  ∀ p, c = .python p → p.creates = none ∧ (p.closes = some .session → session ≠ none)

section Cleanup

variable {session : Option PyInstance} {w : WireWorld}

theorem ending_of_plain {c : Call} (hc : c.plain = true) : c.Ending session := by
  rintro p rfl
  cases hc

theorem cleanupPortals_ending (portals : StrMap PortalEntry) (names : List String) :
    Prog.Sat (fun _ c => c.Ending session) (cleanupPortals portals names) w (fun _ w' => w'.st = w.st) := by
  induction names generalizing w with
  | nil => rfl
  | cons n names ih =>
    simp only [cleanupPortals]
    cases (portals.lookup n).bind (·.bound) with
    | none => exact ih
    | some b =>
      have hcall : Call.Ending session (.python (.closePortal b.inst n)) := by
        rintro p he
        cases he
        exact ⟨rfl, by simp [PyCall.closes]⟩
      simp only [Prog.sat_bind, Prog.sat_attempt, sat_callPython, Prog.caught_ok, Prog.caught_err, Prog.after_ok]
      exact ⟨hcall, fun r => ih, fun e => ih⟩

theorem cleanupStatements_ending (statements : StrMap PyInstance) (names : List String) :
    Prog.Sat (fun _ c => c.Ending session) (cleanupStatements statements names) w (fun _ w' => w'.st = w.st) := by
  induction names generalizing w with
  | nil => rfl
  | cons n names ih =>
    simp only [cleanupStatements]
    cases statements.lookup n with
    | none => exact ih
    | some i =>
      have hcall : Call.Ending session (.python (.closeStatement i n)) := by
        rintro p he
        cases he
        exact ⟨rfl, by simp [PyCall.closes]⟩
      simp only [Prog.sat_bind, Prog.sat_attempt, sat_callPython, Prog.caught_ok, Prog.caught_err, Prog.after_ok]
      exact ⟨hcall, fun r => ih, fun e => ih⟩

theorem cleanupEntries_ending (portals : StrMap PortalEntry) (statements : StrMap PyInstance) :
    Prog.Sat (fun _ c => c.Ending session) (cleanupEntries portals statements session) w
      (fun _ w' => w'.st = w.st) := by
  simp only [cleanupEntries, Prog.sat_bind, Prog.sat_await, Prog.after_ok]
  refine ⟨ending_of_plain rfl, fun names => ?_⟩
  refine (cleanupPortals_ending portals names.1).post ?_
  rintro (_ | e | _) w1 hst1
  · simp only [Prog.after_ok, Prog.sat_bind, Prog.sat_await]
    refine ⟨ending_of_plain rfl, fun names => ?_⟩
    refine (cleanupStatements_ending statements names.1).post ?_
    rintro (_ | e | _) w2 hst2
    · have hst : w2.st = w.st := hst2.trans hst1
      rw [Prog.after_ok]
      cases session with
      | none => exact hst
      | some on =>
        have hcall : Call.Ending (some on) (.python (.closeSession on)) := by
          rintro p he
          cases he
          exact ⟨rfl, by simp⟩
        simp only [Prog.sat_bind, Prog.sat_await, Prog.after_ok]
        refine ⟨ending_of_plain rfl, fun has => ?_⟩
        cases has with
        | false => exact hst
        | true =>
          simp only [if_true, Prog.sat_bind, Prog.sat_attempt, sat_callPython, Prog.caught_ok, Prog.caught_err,
            Prog.after_ok, Prog.sat_pure]
          exact ⟨hcall, fun r => hst, fun e => hst⟩
    · exact hst2.trans hst1
    · exact hst2.trans hst1
  · exact hst1
  · exact hst1

theorem shutdown_ending : Prog.Sat (fun _ c => c.Ending w.st.resources.session) PythonPortals.shutdown w
    (fun _ _ => True) := by
  simp only [PythonPortals.shutdown, PythonPortals.cleanup, Prog.sat_bind, Prog.sat_get, Prog.after_ok,
    Prog.sat_modify]
  refine (cleanupEntries_ending _ _).post ?_
  rintro (_ | e | _) w1 hst
  · -- everything was taken, so that `drop` closes nothing
    simp only [Prog.after_ok, PythonPortals.drop, Prog.sat_bind, Prog.sat_get, Prog.sat_modify, hst,
      World.modify_st, Conn.takeResources]
    trivial
  · trivial
  · trivial

theorem not_closedFrom_concat {x : Resource} {start : ℕ} {log : Log} {e : WireEvent} (hx : ¬ ClosedFrom x start log)
    (he : ∀ c r, e = .called (.python c) r → c.closes ≠ some x) : ¬ ClosedFrom x start (log ++ [e]) := by
  rintro ⟨j, c, r, hj, hc, hcloses⟩
  rcases Nat.lt_or_ge j log.length with hlt | hge
  · rw [List.getElem?_append_left hlt] at hc
    exact hx ⟨j, c, r, hj, hc, hcloses⟩
  · rw [List.getElem?_append_right hge] at hc
    exact he c r (List.mem_singleton.mp (List.mem_of_getElem? hc)).symm hcloses

/-- A call that creates nothing opens nothing in the books. -/
theorem not_opened_of_ending {c : Call} {r : c.Reply} (he : c.Ending session) (name : String) (on : PyInstance) :
    statementAct (.called c r) ≠ .opened name on ∧ portalAct (.called c r) ≠ .opened name on := by
  rcases c with ⟨c⟩
  case python =>
    have hnew := (he c rfl).1
    cases c with
    | parseStatement on' n sql typeOids => cases hnew
    | bindPortal on' n statement parameters pf rf => cases hnew
    | _ => exact ⟨by simp [statementAct], by simp [portalAct]⟩
  all_goals exact ⟨by simp [statementAct], by simp [portalAct]⟩

/-- What is free stays free until something is opened. -/
theorem Resource.Free.concat {x : Resource} {log : Log} {e : WireEvent} (hx : x.Free session log)
    (he : ∀ name on, statementAct e ≠ .opened name on ∧ portalAct e ≠ .opened name on) :
    x.Free session (log ++ [e]) := by
  cases x with
  | statement on name =>
    change heldStatements (log ++ [e]) name = none
    rw [heldStatements_concat]
    exact Ledger.step_eq_none hx (fun on' => (he name on').1) _
  | portal on name =>
    change heldPortals (log ++ [e]) name = none
    rw [heldPortals_concat]
    exact Ledger.step_eq_none hx (fun on' => (he name on').2) _
  | session => exact hx

/-- The discipline lets nothing close what is free. -/
theorem Resource.Free.not_closed {x : Resource} {log : Log} {p : PyCall} (hx : x.Free session log)
    (hc : Permitted log (.python p)) (he : Call.Ending session (.python p)) : p.closes ≠ some x := by
  intro hp
  cases p with
  | closeStatement on name =>
    cases hp
    obtain ⟨y, hy, -⟩ := hc
    rw [show heldStatements log name = none from hx] at hy
    cases hy
  | closePortal on name =>
    cases hp
    obtain ⟨y, hy, -⟩ := hc
    rw [show heldPortals log name = none from hx] at hy
    cases hy
  | closeSession on =>
    cases hp
    exact (he _ rfl).2 rfl hx
  | _ => cases hp

/-- **Cleanup never closes what is free when it starts**. -/
theorem shutdown_spares {h : PyExtendedHandler} (hw : Inv h w.st w.log) (hal : Prog.Allowed Disciplined w.log)
    {x : Resource} (hx : x.Free w.st.resources.session w.log) :
    Prog.Sat (fun w c => Permitted w.log c ∧ c.Shuts) PythonPortals.shutdown w
      (fun _ w' => ¬ ClosedFrom x w.log.length w'.log) := by
  have hkeep := ((shutdown_sat hw hal).and (shutdown_ending (w := w))).keep
    (I := fun log => x.Free w.st.resources.session log ∧ ¬ ClosedFrom x w.log.length log) ?_ ?_ ⟨hx, ?_⟩
  · exact hkeep.mono (fun _ _ hc => hc.1) fun _ _ ho => ho.2.2
  · rintro w' c r ⟨⟨hpermitted, -⟩, hending⟩ ⟨hfree, hnever⟩
    refine ⟨hfree.concat (not_opened_of_ending hending), not_closedFrom_concat hnever ?_⟩
    rintro p r' he
    cases he
    exact hfree.not_closed hpermitted hending
  · rintro log n ⟨hfree, hnever⟩
    exact ⟨hfree.concat fun _ _ => ⟨by simp [statementAct], by simp [portalAct]⟩,
      not_closedFrom_concat hnever fun _ _ he => by cases he⟩
  · rintro ⟨j, c, r, hj, hc, -⟩
    rw [List.getElem?_eq_none hj] at hc
    cases hc

end Cleanup

/-! ### The invariant of a scene -/

theorem SessionOpened.later {log log' : Log} {k : ℕ} (hk : SessionOpened log k) (hl : log <+: log') :
    SessionOpened log' k := by
  obtain ⟨tail, rfl⟩ := hl
  obtain ⟨login, hk⟩ := hk
  obtain ⟨hlt, -⟩ := List.getElem?_eq_some_iff.mp hk
  exact ⟨login, by rwa [List.getElem?_append_left hlt]⟩

section Scenes

variable {h : PyServerHandlers}

/-- A connection with a session does not ask for another. -/
theorem session_none_of_opening {login : PyLoginInfo} {k : ℕ → Except PyErr Unit → Proc Unit} {w : WireWorld}
    (rest : Prog.Sat (OnWire h) (.call (.python (.openSession login)) k) w h.Concluded)
    (hfree : w.st.resources.closing = false) : w.st.resources.session = none := by
  have hw := (rest.1.of_free hfree).1
  cases hs : w.st.resources.session with
  | none => rfl
  | some on =>
    obtain ⟨i, rfl⟩ := hw.opened on hs
    have hi : SessionOpened w.log i := (hw.session i).mpr hs
    -- if the factory answered, the connection would go on with two sessions
    let w1 : WireWorld := w.called (.python (.openSession login)) (.ok ())
    have hend := (rest.2 (.ok ())).run agreeable
    have hlog := Prog.log_prefix_run agreeable (k w.log.length (.ok ())) w1
    have hboth : SessionOpened w1.log i ∧ SessionOpened w1.log w.log.length := by
      refine ⟨(sessionOpened_concat i).mpr (.inl hi), (sessionOpened_concat _).mpr (.inr ⟨rfl, login, rfl⟩)⟩
    have h1 := (hend.session i).mp (hboth.1.later hlog)
    have h2 := (hend.session w.log.length).mp (hboth.2.later hlog)
    obtain ⟨login', hlt⟩ := hi
    have hlt := (List.getElem?_eq_some_iff.mp hlt).1
    rw [h1] at h2
    cases h2
    omega

/-- What a callback in flight is about to create is free. -/
theorem free_of_creating {c : PyCall} {k : ℕ → Except PyErr c.Ret → Proc Unit} {w : WireWorld} {x : Resource}
    (rest : Prog.Sat (OnWire h) (.call (.python c) k) w h.Concluded)
    (hfree : w.st.resources.closing = false) (hx : c.creates = some x) : x.Free w.st.resources.session w.log := by
  have hpermitted := rest.1.permitted
  cases c with
  | parseStatement on name sql typeOids =>
    cases hx
    exact hpermitted
  | bindPortal on name statement parameters pf rf =>
    cases hx
    exact hpermitted.1
  | openSession login =>
    cases hx
    exact session_none_of_opening rest hfree
  | _ => cases hx

/-- An orphan is one of a task that leaves, and cleanup never closes what it creates. -/
inductive Scene.Sound (h : PyServerHandlers) : Scene → Prop where
  | serving (t : Proc Unit) (w : WireWorld) (stop : Bool) (ht : Task.Sound h (.serving t w stop)) :
      Sound h ⟨.serving t w stop, none⟩
  | leaving (t : Proc Unit) (w : WireWorld) (orphan : Option Orphan) (start : ℕ) (ht : Task.Sound h (.leaving t w))
      (hstart : start ≤ w.log.length)
      (spared : ∀ a x, orphan = some a → a.call.creates = some x →
        Prog.Sat (fun _ _ => True) t w (fun _ w' => ¬ ClosedFrom x start w'.log))
      (completed : ∀ a p r, orphan = some a → a.completed = some (p, r) → start ≤ p) :
      Sound h ⟨.leaving t w, orphan⟩

theorem Scene.Sound.leave {t t' : Proc Unit} {w w' : WireWorld} {stop : Bool} (ht : Task.Sound h (.serving t w stop))
    (hs : Task.Step (.serving t w stop) (.leaving t' w')) : Scene.Sound h ⟨.leaving t' w', orphanOf t⟩ := by
  have ht' := ht.step hs
  cases ht with
  | serving _ _ _ rest allowed =>
    cases hs with
    | stop c k _ hc hfree =>
      refine .leaving _ _ _ w.log.length ht' (Nat.le_refl _) ?_ ?_
      · intro a x ha hx
        rcases c with ⟨c⟩
        case python =>
          cases ha
          exact (shutdown_spares (rest.1.of_free hfree).1 allowed (free_of_creating rest hfree hx)).anywhere
        all_goals cases ha
      · intro a p r ha hp
        rcases c with ⟨c⟩
        case python =>
          cases ha
          cases hp
        all_goals cases ha
    | finished o _ _ ho =>
      have hnone : orphanOf (Prog.ofOutcome o) = none := by cases o <;> rfl
      rw [hnone]
      exact .leaving _ _ _ w.log.length ht' (Nat.le_refl _) (by simp) (by simp)
    | unwinds => exact .leaving _ _ _ w.log.length ht' (Nat.le_refl _) (by simp [orphanOf]) (by simp [orphanOf])

theorem Scene.Sound.step {s s' : Scene} (hs : s.Sound h) (hstep : Step s s') : s'.Sound h := by
  cases hstep with
  | serves hstep =>
    cases hs with
    | serving _ _ _ ht => exact .serving _ _ _ (ht.step hstep)
  | leaves hstep =>
    cases hs with
    | serving _ _ _ ht => exact .leave ht hstep
  | cleans orphan hstep =>
    cases hs with
    | leaving _ _ _ start ht hstart spared completed =>
      have ht' := ht.step hstep
      cases hstep with
      | cleanup hstep =>
        exact .leaving _ _ _ start ht' (Nat.le_trans hstart hstep.log_length_le)
          (fun a x ha hx => (spared a x ha hx).step hstep) completed
  | completes t c r =>
    cases hs with
    | leaving _ w _ start ht hstart spared completed =>
      refine .leaving _ _ _ start ht hstart ?_ ?_
      · intro a x ha hx
        cases ha
        exact spared ⟨c, none⟩ x rfl hx
      · intro a p r' ha hp
        cases ha
        cases hp
        exact hstart

theorem PyServerHandlers.Plays.sound {K : Crypto} (hwired : h.Wired) {secure : Bool} {host : String}
    {messages : List PgWireFrontendMessage} {s : Scene} (hr : h.Plays K secure host messages s) : s.Sound h := by
  induction hr with
  | refl =>
    exact .serving _ _ _ (.serving _ _ _
      (PyServerHandlers.processSocket_sat (quiescent_freshWorld h secure host) hwired messages) (Prog.allowed_nil _))
  | tail _ hstep ih => exact ih.step hstep

/-- **Nothing ever closes what an orphan creates**. -/
theorem Scene.Sound.never_closes {w : WireWorld} {o : Outcome PgWireError Unit} {a : Orphan} {x : Resource} {p : ℕ}
    {r : Except PyErr a.call.Ret} (hs : Scene.Sound h ⟨.leaving (Prog.ofOutcome o) w, some a⟩)
    (hx : a.call.creates = some x) (hp : a.completed = some (p, r)) : ¬ ClosedFrom x p w.log := by
  cases hs with
  | leaving _ _ _ start ht hstart spared completed =>
    have hnever : ¬ ClosedFrom x start w.log := (Prog.sat_ofOutcome o).mp (spared a x rfl hx)
    have hp := completed a p r rfl hp
    rintro ⟨j, c, r', hj, hc⟩
    exact hnever ⟨j, c, r', by omega, hc⟩

end Scenes

/-! ### What is closed -/

/-- Cleanup ends with the session: it is closed unless it has no `close`. -/
theorem CallbackLedger.session_closed_iff {log : Log} (hl : CallbackLedger log) {k : ℕ} (hk : SessionOpened log k) :
    (∃ j > k, SessionClose log j k) ↔ ¬ LacksClose log k := by
  obtain ⟨p, tail, rfl, hp, rfl | ⟨r, rfl⟩⟩ := hl.session k hk
  · refine iff_of_false ?_ (not_not.mpr (by simp [LacksClose]))
    rintro ⟨j, -, r, hj⟩
    rcases List.mem_append.mp (List.mem_of_getElem? hj) with hmem | hmem
    · exact hp _ _ hmem
    · simp at hmem
  · refine iff_of_true ⟨p.length + 1, ?_, r, by simp⟩ (by simp [LacksClose])
    obtain ⟨login, hk⟩ := hk
    by_contra hle
    rw [List.getElem?_append_right (by omega)] at hk
    have hmem := List.mem_of_getElem? hk
    simp at hmem

/-- **Main result**: a stopped connection leaks nothing exactly when it received no statement once startup had been
refused, no creation it was cut off from succeeds, and its session has a `close` method. -/
theorem PyServerHandlers.shutdown_leaks_iff (K : Crypto) {configureCertificate : Bytes → Except PgWireError Unit}
    {config : HandlerConfig} {h : PyServerHandlers} (hb : config.build configureCertificate = .ok h) (secure : Bool)
    (host : String) (messages : List PgWireFrontendMessage) {o : Outcome PgWireError Unit} {w : WireWorld}
    {orphan : Option Orphan} (hr : h.Plays K secure host messages ⟨.leaving (Prog.ofOutcome o) w, orphan⟩) :
    NoLeak w.log orphan ↔
      ¬ StrandedParse w.log ∧ Fruitless orphan ∧ ∀ k, SessionOpened w.log k → ¬ LacksClose w.log k := by
  have hsound : Scene.Sound h ⟨.leaving (Prog.ofOutcome o) w, orphan⟩ := hr.sound (HandlerConfig.wired hb)
  have haccounted : Accounted w.log := by
    cases hsound with
    | leaving _ _ _ start ht => cases ht with
      | leaving _ _ rest => exact ((Prog.sat_ofOutcome o).mp rest).2
  constructor
  · intro hleak
    obtain ⟨hledger, hunparsed⟩ := haccounted.of_closed hleak.statement
    refine ⟨hunparsed, ?_, fun k hk => (hledger.session_closed_iff hk).mp (hleak.session k hk)⟩
    rintro a rfl hcreates p r hp
    obtain ⟨x, hx⟩ := Option.ne_none_iff_exists'.mp hcreates
    by_contra hok
    exact hsound.never_closes hx hp (hleak.orphan a x p r rfl hx hp (by simpa using hok))
  · rintro ⟨hunparsed, hlost, hclose⟩
    have hledger := haccounted.ledger_of_unparsed hunparsed
    refine ⟨hledger.statementClosed, hledger.portalClosed,
      fun k hk => (hledger.session_closed_iff hk).mpr (hclose k hk), ?_⟩
    intro a x p r ha hx hp hok
    rw [hlost a ha (by simp [hx]) p r hp] at hok
    cases hok

/-! ### A session opened too late -/

section Late

variable {h : PyServerHandlers} {K : Crypto} {secure : Bool} {host : String} {messages : List PgWireFrontendMessage}
  {a b : Prog.State Conn Call.Reply Verified PgWireError Unit}

/-- While the server runs, `process_socket` gets ahead. -/
theorem PyServerHandlers.Plays.serve {stop : Bool} {Q : Outcome PgWireError Unit → WireWorld → Prop}
    (hr : h.Plays K secure host messages ⟨.serving a.1 a.2 stop, none⟩) (rest : Prog.Sat (OnWire h) a.1 a.2 Q)
    (hs : Prog.Steps a b) : h.Plays K secure host messages ⟨.serving b.1 b.2 stop, none⟩ := by
  suffices hboth : h.Plays K secure host messages ⟨.serving b.1 b.2 stop, none⟩ ∧ Prog.Sat (OnWire h) b.1 b.2 Q from
    hboth.1
  induction hs with
  | refl => exact ⟨hr, rest⟩
  | tail _ hs ih =>
    obtain ⟨hr, rest⟩ := ih
    refine ⟨hr.tail (.serves (.socket stop hs ?_)), rest.step hs⟩
    intro k he
    rw [he] at rest
    exact rest.1.locked

theorem PyServerHandlers.Plays.clean {orphan : Option Orphan}
    (hr : h.Plays K secure host messages ⟨.leaving a.1 a.2, orphan⟩) (hs : Prog.Steps a b) :
    h.Plays K secure host messages ⟨.leaving b.1 b.2, orphan⟩ := by
  induction hs with
  | refl => exact hr
  | tail _ hs ih => exact ih.tail (.cleans orphan (.cleanup hs))

/-- A client is let in, the server stops while the factory opens the session, and the factory returns it. -/
theorem orphaned_session : ∃ w p, (trusting true).Plays default false "127.0.0.1" [.startup ⟨[]⟩]
    ⟨.leaving (Prog.ofOutcome (.ok ())) w, some ⟨.openSession ⟨none, none, "127.0.0.1"⟩, some (p, .ok ())⟩⟩ := by
  obtain ⟨k, w, hwaits, hfree⟩ : ∃ k w, Prog.advance agreeable 13
      ((trusting true).processSocket default [.startup ⟨[]⟩]) (freshWorld false "127.0.0.1") =
        (.call (.python (.openSession ⟨none, none, "127.0.0.1"⟩)) k, w) ∧ w.st.resources.closing = false :=
    ⟨_, _, rfl, rfl⟩
  have hwired := HandlerConfig.wired (trusting_build true)
  have hahead := Prog.steps_advance agreeable 13 ((trusting true).processSocket default [.startup ⟨[]⟩])
    (freshWorld false "127.0.0.1")
  rw [hwaits] at hahead
  have hpending : (trusting true).Plays default false "127.0.0.1" [.startup ⟨[]⟩]
      ⟨.serving (.call (.python (.openSession ⟨none, none, "127.0.0.1"⟩)) k) w false, none⟩ :=
    PyServerHandlers.Plays.serve (a := (_, _)) .refl
      (PyServerHandlers.processSocket_sat (quiescent_freshWorld _ _ _) hwired _) hahead
  have hlost : (trusting true).Plays default false "127.0.0.1" [.startup ⟨[]⟩] ⟨.leaving PythonPortals.shutdown w,
      some ⟨.openSession ⟨none, none, "127.0.0.1"⟩, some (w.log.length, .ok ())⟩⟩ :=
    ((hpending.tail (.serves (.signal _ _))).tail (.leaves (.stop _ _ _ rfl hfree))).tail
      (.completes (.leaving PythonPortals.shutdown w) (.openSession ⟨none, none, "127.0.0.1"⟩) (.ok ()))
  have hok : (PythonPortals.shutdown.run agreeable w).1 = .ok () := by
    cases hlost.sound hwired with
    | leaving _ _ _ start ht => cases ht with
      | leaving _ _ rest => exact (rest.run agreeable).1
  have hcleanup := Prog.steps_run agreeable PythonPortals.shutdown w
  rw [hok] at hcleanup
  exact ⟨_, _, PyServerHandlers.Plays.clean (a := (_, _)) hlost hcleanup⟩

theorem shutdown_leaks_iff_session : ∃ (w : WireWorld) (p : ℕ),
    (trusting true).Plays default false "127.0.0.1" [.startup ⟨[]⟩] ⟨.leaving (Prog.ofOutcome (.ok ())) w,
        some ⟨.openSession ⟨none, none, "127.0.0.1"⟩, some (p, .ok ())⟩⟩ ∧
      (NoLeak w.log (some ⟨.openSession ⟨none, none, "127.0.0.1"⟩, some (p, .ok ())⟩) ↔
        ¬ StrandedParse w.log ∧ Fruitless (some ⟨.openSession ⟨none, none, "127.0.0.1"⟩, some (p, .ok ())⟩) ∧
          ∀ k, SessionOpened w.log k → ¬ LacksClose w.log k) := by
  obtain ⟨w, p, hr⟩ := orphaned_session
  exact ⟨w, p, hr, PyServerHandlers.shutdown_leaks_iff default (trusting_build true) false "127.0.0.1" _ hr⟩

/-- The session that the factory returned is never closed. -/
theorem shutdown_leaks_session : ∃ w p,
    (trusting true).Plays default false "127.0.0.1" [.startup ⟨[]⟩] ⟨.leaving (Prog.ofOutcome (.ok ())) w,
        some ⟨.openSession ⟨none, none, "127.0.0.1"⟩, some (p, .ok ())⟩⟩ ∧
      ¬ NoLeak w.log (some ⟨.openSession ⟨none, none, "127.0.0.1"⟩, some (p, .ok ())⟩) := by
  obtain ⟨w, p, hr⟩ := orphaned_session
  have hsound := PyServerHandlers.Plays.sound (HandlerConfig.wired (trusting_build true)) hr
  refine ⟨w, p, hr, fun hleak => ?_⟩
  exact hsound.never_closes rfl rfl (hleak.orphan _ .session p _ rfl rfl rfl rfl)

end Late

end Pywire
