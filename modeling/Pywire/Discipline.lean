import Pywire.Books
import Pywire.Server

/-!
# Discipline: what every handler keeps

One specification for each routine of a connection that has its `PythonPortals`, from the closes up to the handlers
of a message: every call is made where the discipline of the books permits it, a close is made under the `closing`
mutex and everything else where the invariant holds, no protocol handler panics, and the invariant holds when the
routine returns.

* `onParse_sat`, `onBind_sat`, `onSync_sat`, `onClose_sat`, `onDescribe_sat`, `onExecute_sat`, `onQuery_sat`: the
  handlers.
-/

namespace Pywire

open Async

def Call.isClose : Call → Bool
  | .python (.closePortal _ _) => true
  | .python (.closeStatement _ _) => true
  | _ => false

/-- The object a callback of the query handlers runs on. -/
def Call.on : Call → Option PyInstance
  | .python (.simpleDoQuery on _) => some on
  | .python (.parseStatement on _ _ _) => some on
  | .python (.bindPortal on _ _ _ _ _) => some on
  | .python (.describeStatement on _) => some on
  | .python (.describePortal on _) => some on
  | .python (.doQuery on _ _) => some on
  | .python (.closePortal on _) => some on
  | .python (.closeStatement on _) => some on
  | _ => none

/-- The calls that run no Python code and report no error. -/
def Call.plain : Call → Bool
  | .python _ => false
  | .processError _ _ => false
  | _ => true

/-- What holds where a protocol handler of a connection with the session `s` makes a call. -/
structure AtCall (h : PyExtendedHandler) (s : Option PyInstance) (w : WireWorld) (c : Call) : Prop where
  permitted : Permitted w.log c
  keepsSession : ∀ on, c ≠ .python (.closeSession on)
  onSession : ∀ on, c.on = some on → w.st.pySession = s ∧ ∀ session, s = some session → on = session
  locked : w.st.resources.closing = c.isClose
  /-- Only the mutex is in the way of the invariant. -/
  inv : Inv h w.st.unlockClosing w.log
  reportsNothing : ∀ state e, c ≠ .processError state e

/-- A connection after startup with the session `s`, outside the critical sections. -/
structure Live (h : PyExtendedHandler) (s : Option PyInstance) (w : WireWorld) : Prop where
  inv : Inv h w.st w.log
  installed : w.st.installed = true
  phase : w.st.state.isStartup = false
  pySession : w.st.pySession = s

/-- Portals were closed, and nothing else changed. -/
structure Shrunk (c c' : Conn) : Prop where
  stored : c'.store.statements = c.store.statements
  portals : ∀ n, c'.resources.portals.lookup n = c.resources.portals.lookup n ∨ c'.resources.portals.lookup n = none

theorem Shrunk.refl (c : Conn) : Shrunk c c := ⟨rfl, fun _ => .inl rfl⟩

theorem Shrunk.trans {c c' c'' : Conn} (h : Shrunk c c') (h' : Shrunk c' c'') : Shrunk c c'' := by
  refine ⟨h'.stored.trans h.stored, fun n => ?_⟩
  rcases h'.portals n with h1 | h1
  · rw [h1]
    exact h.portals n
  · exact .inr h1

/-- The portals in `names` were closed, and possibly others. -/
structure Closed (h : PyExtendedHandler) (s : Option PyInstance) (w : WireWorld) (names : List String)
    (w' : WireWorld) : Prop where
  live : Live h s w'
  shrunk : Shrunk w.st w'.st
  gone : ∀ n ∈ names, w'.st.resources.portals.lookup n = none

/-- How a routine ends that does not panic. -/
def Ends {α : Type} (ok err : WireWorld → Prop) : Outcome PgWireError α → WireWorld → Prop
  | .ok _, w => ok w
  | .err _, w => err w
  | .panic, _ => False

section Ends

variable {α : Type} {ok err : WireWorld → Prop} {w : WireWorld}

@[simp] theorem ends_ok (a : α) : Ends ok err (.ok a) w ↔ ok w := Iff.rfl
@[simp] theorem ends_err (e : PgWireError) : Ends (α := α) ok err (.err e) w ↔ err w := Iff.rfl
@[simp] theorem ends_panic : Ends (α := α) ok err .panic w ↔ False := Iff.rfl

theorem Ends.imp {ok' err' : WireWorld → Prop} {o : Outcome PgWireError α} (ho : Ends ok err o w) (hok : ok w → ok' w)
    (herr : err w → err' w) : Ends ok' err' o w := by
  cases o with
  | ok a => exact hok ho
  | err e => exact herr ho
  | panic => exact ho

theorem Ends.both {ok' err' : WireWorld → Prop} {o : Outcome PgWireError α} (ho : Ends ok err o w)
    (ho' : Ends ok' err' o w) : Ends (fun w => ok w ∧ ok' w) (fun w => err w ∧ err' w) o w := by
  cases o with
  | ok a => exact ⟨ho, ho'⟩
  | err e => exact ⟨ho, ho'⟩
  | panic => exact ho

/-- **One routine after another**. -/
theorem sat_seq {β : Type} {C : WireWorld → Call → Prop} {t : Proc α} {f : α → Proc β} {ok' err' : WireWorld → Prop}
    (ht : Prog.Sat C t w (Ends ok err)) (hf : ∀ a w', ok w' → Prog.Sat C (f a) w' (Ends ok' err'))
    (herr : ∀ w', err w' → err' w') : Prog.Sat C (t >>= f) w (Ends ok' err') := by
  rw [Prog.sat_bind]
  refine ht.post ?_
  rintro (a | e | _) w' ho
  · exact hf a w' ho
  · exact herr w' ho
  · exact ho

end Ends

section Calls

variable {h : PyExtendedHandler} {s : Option PyInstance} {w : WireWorld}

theorem unlock_of_unlocked {c : Conn} (hc : c.resources.closing = false) : c.unlockClosing = c := by
  rcases c with ⟨_, _, _, _, _, _, _, ⟨_, _, _, closing⟩, _, _, _, _⟩
  cases hc
  rfl

/-- What the calls that run on no Python object have in common. -/
theorem permitted_of_on {log : Log} {c : Call} (hon : c.on = none) : Permitted log c ∧ c.isClose = false := by
  rcases c with ⟨_ | _ | _ | _ | _ | _ | _ | _ | _ | _ | _⟩
  case python.getScramVerifier => exact ⟨trivial, rfl⟩
  case python.openSession => exact ⟨trivial, rfl⟩
  case python.closeSession => exact ⟨trivial, rfl⟩
  all_goals first | exact ⟨trivial, rfl⟩ | cases hon

theorem atCall_of_inv {c : Call} (hw : Inv h w.st w.log) (hs : ∀ on, c ≠ .python (.closeSession on))
    (hon : c.on = none) (he : ∀ state e, c ≠ .processError state e) : AtCall h s w c := by
  have hp : Permitted w.log c ∧ c.isClose = false := permitted_of_on hon
  refine ⟨hp.1, hs, fun on ho => ?_, hw.unlocked.trans hp.2.symm, ?_, he⟩
  · rw [hon] at ho
    cases ho
  · rw [unlock_of_unlocked hw.unlocked]
    exact hw

theorem keepsSession_of_plain {c : Call} (hc : c.plain = true) (on : PyInstance) :
    c ≠ .python (.closeSession on) := by
  rintro rfl
  cases hc

theorem reportsNothing_of_plain {c : Call} (hc : c.plain = true) (state : PgWireConnectionState) (e : PgWireError) :
    c ≠ .processError state e := by
  rintro rfl
  cases hc

theorem on_of_plain {c : Call} (hc : c.plain = true) : c.on = none := by
  cases c with
  | python call => cases hc
  | _ => rfl

theorem quiet_of_plain {c : Call} {r : c.Reply} (hc : c.plain = true) : Quiet (.called c r) := by
  cases c with
  | python call => cases hc
  | _ => exact ⟨rfl, rfl, fun login he => by cases he⟩

theorem atCall_of_plain {c : Call} (hw : Inv h w.st w.log) (hc : c.plain = true) : AtCall h s w c :=
  atCall_of_inv hw (keepsSession_of_plain hc) (on_of_plain hc) (reportsNothing_of_plain hc)

/-- A callback of the query handlers that opens and closes nothing. -/
theorem quiet_of_on {c : Call} {r : c.Reply} {on : PyInstance} (hon : c.on = some on)
    (hp : (portalAct (.called c r)).keeps = true) (hs : (statementAct (.called c r)).keeps = true) :
    Quiet (.called c r) := by
  refine ⟨hp, hs, fun login he => ?_⟩
  cases he
  cases hon

/-- A callback that closes nothing, on the object that serves the connection. -/
theorem Inv.callback {c : Call} {on : PyInstance} (hw : Inv h w.st w.log) (hs : w.st.pySession = s)
    (hp : Permitted w.log c) (hon : c.on = some on) (hi : ∀ session, s = some session → on = session)
    (hc : c.isClose = false) : AtCall h s w c := by
  refine ⟨hp, ?_, fun on' ho => ⟨hs, Option.some.inj (hon.symm.trans ho) ▸ hi⟩, hw.unlocked.trans hc.symm, ?_, ?_⟩
  · rintro on' rfl
    cases hon
  · rw [unlock_of_unlocked hw.unlocked]
    exact hw
  · rintro state e rfl
    cases hon

theorem Live.callback {c : Call} {on : PyInstance} (hl : Live h s w) (hp : Permitted w.log c)
    (hon : c.on = some on) (hi : ∀ session, s = some session → on = session) (hc : c.isClose = false) :
    AtCall h s w c :=
  hl.inv.callback hl.pySession hp hon hi hc

/-- The handlers serve a connection with a session on that session. -/
theorem instanceFor_session {c : Conn} {on : PyInstance} (hi : h.instanceFor c = some on) (hs : c.pySession = s)
    (session : PyInstance) (hsession : s = some session) : on = session := by
  rw [PyExtendedHandler.instanceFor, hs, hsession] at hi
  cases hi
  rfl

theorem Live.quiet {c : Call} {r : c.Reply} (hl : Live h s w) (he : Quiet (.called c r)) : Live h s (w.called c r) :=
  ⟨hl.inv.quiet he, hl.installed, hl.phase, hl.pySession⟩

theorem Live.congr {c : Conn} (hl : Live h s w) (hr : c.resources = w.st.resources) (hs : c.store = w.st.store)
    (hp : c.pySession = w.st.pySession) (hi : c.installed = w.st.installed) (hphase : c.state.isStartup = false) :
    Live h s ⟨c, w.log⟩ :=
  ⟨hl.inv.congr hr hs hp, hi.trans hl.installed, hphase, hp.trans hl.pySession⟩

end Calls

/-! ### Close routines -/

section Close

variable {h : PyExtendedHandler} {s : Option PyInstance} {w : WireWorld}

theorem unlock_lock {c : Conn} (hc : c.resources.closing = false) : (c.lockClosing).unlockClosing = c := by
  rcases c with ⟨_, _, _, _, _, _, _, ⟨_, _, _, closing⟩, _, _, _, _⟩
  cases hc
  rfl

theorem unlock_removePortal {c : Conn} {n : String} (hc : c.resources.closing = false) :
    (Conn.removePortal n c.lockClosing).unlockClosing = Conn.removePortal n c := by
  rw [← unlock_lock (c := Conn.removePortal n c) hc]
  rfl

/-- A portal was removed from both stores. -/
theorem closed_removed (hl : Live h s w) {n : String} {w' : WireWorld}
    (hst : w'.st = Conn.rmPortal n (Conn.removePortal n w.st))
    (hinv : Inv h (Conn.rmPortal n (Conn.removePortal n w.st)) w'.log) : Closed h s w [n] w' := by
  have hlookup : ∀ m, w'.st.resources.portals.lookup m = if m = n then none else w.st.resources.portals.lookup m := by
    intro m
    rw [hst]
    exact StrMap.lookup_erase_eq_if _ _ _
  refine ⟨⟨hst ▸ hinv, by rw [hst]; exact hl.installed, by rw [hst]; exact hl.phase,
    by rw [hst]; exact hl.pySession⟩, ⟨by rw [hst]; rfl, fun m => ?_⟩, fun m hm => ?_⟩
  · rw [hlookup]
    split
    · exact .inr rfl
    · exact .inl rfl
  · rw [hlookup, if_pos (List.mem_singleton.mp hm)]

/-- Only the log grew. -/
theorem closed_unchanged (hl : Live h s w) {w' : WireWorld} (hst : w'.st = w.st) (hinv : Inv h w.st w'.log) :
    Closed h s w [] w' := by
  rcases w' with ⟨c, log⟩
  cases hst
  exact ⟨⟨hinv, hl.installed, hl.phase, hl.pySession⟩, .refl _, by simp⟩

theorem Live.closed (hl : Live h s w) : Closed h s w [] w := closed_unchanged hl rfl hl.inv

theorem Closed.trans {w' w'' : WireWorld} {names names' : List String} (hc : Closed h s w names w')
    (hc' : Closed h s w' names' w'') : Closed h s w (names ++ names') w'' := by
  refine ⟨hc'.live, hc.shrunk.trans hc'.shrunk, fun n hn => ?_⟩
  rcases List.mem_append.mp hn with hn | hn
  · rcases hc'.shrunk.portals n with h1 | h1
    · rw [h1]
      exact hc.gone n hn
    · exact h1
  · exact hc'.gone n hn

theorem Closed.nil {w' : WireWorld} {names : List String} (hc : Closed h s w names w') : Closed h s w [] w' :=
  ⟨hc.live, hc.shrunk, by simp⟩

theorem closePortal_sat (hl : Live h s w) (n : String) :
    Prog.Sat (AtCall h s) (PyExtendedHandler.closePortal n) w
      (Ends (fun w' => Closed h s w [n] (w'.modify (Conn.rmPortal n))) (Closed h s w [])) := by
  simp only [PyExtendedHandler.closePortal, PyExtendedHandler.withClosing, Prog.sat_bind, Prog.sat_get,
    Prog.after_ok, hl.installed, if_true, Prog.sat_await, Prog.sat_andFinally, Prog.sat_modify]
  refine ⟨atCall_of_plain hl.inv rfl, fun r => ?_⟩
  have hinv : Inv h w.st (w.log ++ [.called .lockClosing r]) := hl.inv.quiet (quiet_of_plain rfl)
  have hst : Conn.rmPortal n (Conn.removePortal n w.st.lockClosing).unlockClosing =
      Conn.rmPortal n (Conn.removePortal n w.st) :=
    congrArg (Conn.rmPortal n) (unlock_removePortal hl.inv.unlocked)
  cases hb : (w.st.resources.portals.lookup n).bind (·.bound) with
  | none =>
    simp only [Conn.lockClosing, World.modify_st, World.called_st, hb, Prog.sat_modify, ends_ok]
    exact closed_removed hl hst (hinv.portalRemoved hb)
  | some b =>
    simp only [Conn.lockClosing, World.modify_st, World.called_st, hb, Prog.sat_bind, sat_callPython,
      Prog.after_ok, Prog.after_err, Prog.sat_modify, ends_ok, ends_err]
    obtain ⟨hobject, hi⟩ : portalObject (w.log ++ [.called .lockClosing r]) n = some (b.portal, b.inst) ∧
        h.instanceFor w.st = some b.inst := by
      cases hinv.portal n with
      | absent py => rw [py] at hb; cases hb
      | empty s py => rw [py] at hb; cases hb
      | bound s b' p py stored object statement name call inst =>
        rw [py] at hb
        cases hb
        exact ⟨object, inst⟩
    obtain ⟨x, hx, -, howner⟩ := Ledger.object_eq_some.mp hobject
    have hon : ∀ on, some b.inst = some on → w.st.pySession = s ∧ ∀ session, s = some session → on = session := by
      rintro on ⟨⟩
      exact ⟨hl.pySession, instanceFor_session hi hl.pySession⟩
    have hunlocked : Inv h (w.st.lockClosing).unlockClosing (w.log ++ [.called .lockClosing r]) := by
      rw [unlock_lock hl.inv.unlocked]
      exact hinv
    refine ⟨⟨⟨x, hx, howner⟩, by simp, hon, rfl, hunlocked, by simp⟩, fun r' => ?_, fun e => ?_⟩
    · exact closed_removed hl hst (hinv.portalClosed b.inst)
    · exact closed_unchanged hl (unlock_lock hl.inv.unlocked) (hinv.quiet (quiet_of_on rfl rfl rfl))

theorem closeEach_sat (hl : Live h s w) (names : List String) :
    Prog.Sat (AtCall h s) (PyExtendedHandler.closeEach names) w (Ends (Closed h s w names) (Closed h s w [])) := by
  induction names generalizing w with
  | nil => exact hl.closed
  | cons n names ih =>
    refine sat_seq (closePortal_sat hl n) (fun _ w1 hc => ?_) fun _ hc => hc
    rw [Prog.sat_bind, Prog.sat_modify, Prog.after_ok]
    exact (ih hc.live).post fun _ _ ho => ho.imp (fun hc' => hc.trans hc') fun hc' => (hc.trans hc').nil

/-- The names that satisfy `p` are listed, in some order. -/
theorem portalNames_sat (hl : Live h s w) (p : PortalEntry → Bool)
    {Q : Outcome PgWireError (List String) → WireWorld → Prop}
    (hQ : ∀ names w', Closed h s w [] w' → (∀ n e, w.st.resources.portals.lookup n = some e → p e = true → n ∈ names) →
      Q (.ok names) w') :
    Prog.Sat (AtCall h s) (PyExtendedHandler.portalNames p) w Q := by
  simp only [PyExtendedHandler.portalNames, Prog.sat_bind, Prog.sat_get, Prog.after_ok, hl.installed, if_true,
    Prog.sat_await, Prog.sat_pure]
  refine ⟨atCall_of_plain hl.inv rfl, fun r => hQ r.1 _ ?_ fun n e he hp => ?_⟩
  · exact closed_unchanged hl rfl (hl.inv.quiet (quiet_of_plain rfl))
  · refine r.2.mem_iff.mpr (List.mem_map.mpr ⟨⟨n, e⟩, List.mem_filter.mpr ⟨?_, hp⟩, rfl⟩)
    exact AList.mem_lookup_iff.mp he

/-- A portal that is not in `PythonPortals` is not in pgwire's store either. -/
theorem Inv.rmPortal {c : Conn} {log : Log} {n : String} (hw : Inv h c log)
    (hn : c.resources.portals.lookup n = none) : Inv h (Conn.rmPortal n c) log := by
  have hstored : ∀ m, (Conn.rmPortal n c).store.portals.lookup m = c.store.portals.lookup m := by
    intro m
    rw [show (Conn.rmPortal n c).store.portals.lookup m = _ from StrMap.lookup_erase_eq_if _ _ _]
    split
    · rename_i hm
      rw [hm, (portalObject_none_of_py hw hn).2]
    · rfl
  exact ⟨hw.unlocked, fun m => (hw.portal m).transport rfl (hstored m) rfl (fun _ _ => rfl) (fun _ _ _ => id) rfl,
    fun m => (hw.statement m).transport rfl rfl rfl rfl, hw.session, hw.opened, hw.pySession⟩

theorem Live.rmPortal {n : String} (hl : Live h s w) (hn : w.st.resources.portals.lookup n = none) :
    Closed h s w [n] (w.modify (Conn.rmPortal n)) := by
  refine ⟨⟨hl.inv.rmPortal hn, hl.installed, hl.phase, hl.pySession⟩, ⟨rfl, fun _ => .inl rfl⟩, fun m hm => ?_⟩
  rw [List.mem_singleton.mp hm]
  exact hn

/-- **All portals go**: after `close_all_portals` has returned normally, none is left. -/
theorem closeAllPortals_sat (hl : Live h s w) :
    Prog.Sat (AtCall h s) PyExtendedHandler.closeAllPortals w
      (Ends (fun w' => Closed h s w [] w' ∧ ∀ n, w'.st.resources.portals.lookup n = none) (Closed h s w [])) := by
  rw [PyExtendedHandler.closeAllPortals, Prog.sat_bind]
  refine portalNames_sat hl _ fun names w1 hc1 hnames => ?_
  simp only [Prog.after_ok, Prog.sat_bind]
  refine (closeEach_sat hc1.live names).post ?_
  rintro (_ | e | _) w2 hc2
  · have hnone : ∀ n, w2.st.resources.portals.lookup n = none := by
      intro n
      by_cases hn : n ∈ names
      · exact hc2.gone n hn
      · have h1 : w.st.resources.portals.lookup n = none := by
          cases he : w.st.resources.portals.lookup n with
          | none => rfl
          | some e => exact absurd (hnames n e he rfl) hn
        rcases (hc1.shrunk.trans hc2.shrunk).portals n with h2 | h2
        · rw [h2, h1]
        · exact h2
    exact ⟨((hc1.trans hc2).trans (hc2.live.rmPortal (hnone defaultName))).nil, hnone⟩
  · exact hc1.trans hc2
  · exact hc2

theorem unlock_rmStatement {c : Conn} {n : String} (hc : c.resources.closing = false) :
    (Conn.rmStatement n (Conn.removeStatement n c.lockClosing)).unlockClosing =
      Conn.rmStatement n (Conn.removeStatement n c) := by
  rw [← unlock_lock (c := Conn.rmStatement n (Conn.removeStatement n c)) hc]
  rfl

/-- Without entries of its portals, a statement has no portal left to close. -/
theorem portalsTried_of_free {c : Conn} {log : Log} {n : String} {st : PyRef} {i : PyInstance} (hw : Inv h c log)
    (hobject : statementObject log n = some (st, i))
    (hfree : ∀ m e, c.resources.portals.lookup m = some e → e.statementName ≠ n) : PortalsTried log st := by
  intro m x hx hfrom
  exfalso
  have hxo : portalObject log m = some (x.pos, x.owner) := Ledger.object_eq_some.mpr ⟨x, hx, rfl, rfl⟩
  cases hw.portal m with
  | absent py stored object => rw [object] at hxo; cases hxo
  | empty s py stored object => rw [object] at hxo; cases hxo
  | bound s b p py stored object statement name call =>
    rw [object] at hxo
    obtain ⟨hpos, -⟩ := Prod.mk.inj (Option.some.inj hxo)
    -- the bind call names the statement that is stored under `s`
    obtain ⟨on, name', parameters, pf, rf, r, hcall⟩ := hfrom
    rw [← hpos, call] at hcall
    injection hcall with hcall
    injection hcall with hcall
    injection hcall with hcall
    injection hcall with _ _ hst
    have hs : s = n := by
      cases hw.statement s with
      | absent py' stored' => rw [statement] at stored'; cases stored'
      | empty py' stored' => rw [statement] at stored'; cases stored'
      | value st' i' py' stored' object' =>
        rw [statement] at stored'
        cases stored'
        obtain ⟨y, hy, hypos, -⟩ := Ledger.object_eq_some.mp object'
        obtain ⟨z, hz, hzpos, -⟩ := Ledger.object_eq_some.mp hobject
        exact Ledger.held_pos_inj hy hz (by rw [hypos, hzpos, hst])
    exact hfree m _ py hs

/-- The statement is gone from the stores. -/
structure StatementGone (h : PyExtendedHandler) (s : Option PyInstance) (n : String) (w : WireWorld) : Prop where
  live : Live h s w
  gone : w.st.store.statements.lookup n = none

/-- **A statement goes after its portals**. -/
theorem closeStatement_sat (hl : Live h s w) (n : String) :
    Prog.Sat (AtCall h s) (h.closeStatement n) w (Ends (StatementGone h s n) (Closed h s w [])) := by
  simp only [PyExtendedHandler.closeStatement, Prog.sat_bind, Prog.sat_get, Prog.after_ok, hl.installed, if_true]
  refine portalNames_sat hl _ fun names w1 hc1 hnames => ?_
  simp only [Prog.after_ok, Prog.sat_bind]
  refine (closeEach_sat hc1.live names).post ?_
  rintro (_ | e | _) w2 hc2
  · have hc := hc1.trans hc2
    have hl2 := hc2.live
    have hfree : ∀ m e, w2.st.resources.portals.lookup m = some e → e.statementName ≠ n := by
      rintro m e he rfl
      rcases hc.shrunk.portals m with h1 | h1
      · rw [h1] at he
        have := hc2.gone m (hnames m e he (decide_eq_true rfl))
        rw [h1, he] at this
        cases this
      · rw [h1] at he
        cases he
    simp only [Prog.after_ok, PyExtendedHandler.withClosing, Prog.sat_bind, Prog.sat_await, Prog.sat_andFinally,
      Prog.sat_modify, Prog.sat_get]
    refine ⟨atCall_of_plain hl2.inv rfl, fun r => ?_⟩
    have hinv : Inv h w2.st (w2.log ++ [.called .lockClosing r]) := hl2.inv.quiet (quiet_of_plain rfl)
    have gone : ∀ {w3 : WireWorld},
        w3.st = (Conn.rmStatement n (Conn.removeStatement n w2.st.lockClosing)).unlockClosing →
        Inv h (Conn.rmStatement n (Conn.removeStatement n w2.st)) w3.log → StatementGone h s n w3 := by
      rintro ⟨c, log⟩ hst hw3
      rw [unlock_rmStatement hl2.inv.unlocked] at hst
      cases hst
      exact ⟨⟨hw3, hl2.installed, hl2.phase, hl2.pySession⟩, AList.lookup_erase _ _⟩
    have removed : (∀ st, w2.st.store.statements.lookup n ≠ some (.value st)) →
        Inv h (Conn.rmStatement n (Conn.removeStatement n w2.st)) (w2.log ++ [.called .lockClosing r]) :=
      fun hn => hinv.statementRemoved hn hfree
    have hstatement := hinv.statement n
    cases hst : w2.st.store.statements.lookup n with
    | none =>
      simp only [Conn.lockClosing, World.modify_st, World.called_st, hst]
      exact gone rfl (removed fun st => by simp [hst])
    | some entry =>
      cases entry with
      | empty =>
        simp only [Conn.lockClosing, World.modify_st, World.called_st, hst]
        exact gone rfl (removed fun st => by simp [hst])
      | value st =>
        obtain ⟨i, hobject, hi⟩ : ∃ i, statementObject (w2.log ++ [.called .lockClosing r]) n =
            some (st.statement, i) ∧ h.instanceFor w2.st = some i := by
          cases hstatement with
          | absent py stored => rw [stored] at hst; cases hst
          | empty py stored => rw [stored] at hst; cases hst
          | value st' i py stored object id inst =>
            rw [stored] at hst
            cases hst
            exact ⟨i, object, inst⟩
        obtain ⟨x, hx, hpos, howner⟩ := Ledger.object_eq_some.mp hobject
        have hi' : h.instanceFor { w2.st with resources := { w2.st.resources with closing := true } } = some i := hi
        simp only [Conn.lockClosing, World.modify_st, World.called_st, hst, hi', Prog.sat_bind, sat_callPython,
          Prog.after_ok, Prog.after_err, Prog.sat_modify, ends_ok, ends_err]
        have hon : ∀ on, some i = some on → w2.st.pySession = s ∧ ∀ session, s = some session → on = session := by
          rintro on ⟨⟩
          exact ⟨hl2.pySession, instanceFor_session hi hl2.pySession⟩
        have hunlocked : Inv h (w2.st.lockClosing).unlockClosing (w2.log ++ [.called .lockClosing r]) := by
          rw [unlock_lock hl2.inv.unlocked]
          exact hinv
        refine ⟨⟨⟨x, hx, howner, ?_⟩, by simp, hon, rfl, hunlocked, by simp⟩, fun r' => ?_, fun e => ?_⟩
        · rw [hpos]
          exact portalsTried_of_free hinv hobject hfree
        · exact gone rfl (hinv.statementClosed i hfree)
        · exact Closed.nil (hc.trans (closed_unchanged hl2 (unlock_lock hl2.inv.unlocked)
            (hinv.quiet (quiet_of_on rfl rfl rfl))))
  · exact hc1.trans hc2
  · exact hc2

end Close

/-! ### Parse and Bind -/

section Handlers

variable {h : PyExtendedHandler} {s : Option PyInstance} {w : WireWorld}

/-- How a handler ends: normally or with an error, and with the invariant. -/
abbrev Keeps (h : PyExtendedHandler) (s : Option PyInstance) : Outcome PgWireError Unit → WireWorld → Prop :=
  Ends (Live h s) (Live h s)

theorem send_sat (hl : Live h s w) (m : PgWireBackendMessage) : Prog.Sat (AtCall h s) (send m) w (Keeps h s) := by
  simp only [Prog.sat_await]
  exact ⟨atCall_of_plain hl.inv rfl, fun r => hl.quiet (quiet_of_plain rfl)⟩

theorem expectResources_sat (hi : w.st.installed = true) {Q : Outcome PgWireError Unit → WireWorld → Prop} :
    Prog.Sat (AtCall h s) PyExtendedHandler.expectResources w Q ↔ Q (.ok ()) w := by
  simp only [PyExtendedHandler.expectResources, Prog.sat_bind, Prog.sat_get, Prog.after_ok, hi, if_true,
    Prog.sat_pure]

theorem storeParsed_sat (hl : Live h s w) {name : String} (hfree : w.st.store.statements.lookup name = none)
    (message : Parse) : Prog.Sat (AtCall h s) (h.storeParsed name message) w (Keeps h s) := by
  unfold PyExtendedHandler.storeParsed
  split
  · simp only [Prog.sat_bind, Prog.sat_modify, Prog.after_ok]
    refine send_sat ?_ _
    exact ⟨hl.inv.statementEmpty hfree, hl.installed, hl.phase, hl.pySession⟩
  · simp only [Prog.sat_bind, Prog.sat_get, Prog.after_ok]
    cases hi : h.instanceFor w.st with
    | none =>
      simp only [PyExtendedHandler.parseStatement, Prog.sat_fail, Prog.after_err]
      exact hl
    | some i =>
      simp only [PyExtendedHandler.parseStatement, sat_callPythonRef]
      have hobject : statementObject w.log name = none := by
        cases hl.inv.statement name with
        | absent py stored object => exact object
        | empty py stored object => exact object
        | value st i py stored => rw [stored] at hfree; cases hfree
      refine ⟨hl.callback (Ledger.object_eq_none.mp hobject) rfl (instanceFor_session hi hl.pySession) rfl,
        fun r => ?_, fun e => ?_⟩
      · simp only [Prog.after_ok, Outcome.expect_some, Prog.sat_bind, Prog.sat_ofOutcome]
        refine (expectResources_sat (w := w.called _ _) hl.installed).mpr ?_
        simp only [Prog.after_ok, Prog.sat_bind, Prog.sat_modify]
        refine send_sat ?_ _
        exact ⟨hl.inv.statementParsed _ hfree hi, hl.installed, hl.phase, hl.pySession⟩
      · exact hl.quiet (quiet_of_on rfl rfl rfl)

theorem onParse_sat (hl : Live h s w) (message : Parse) : Prog.Sat (AtCall h s) (h.onParse message) w (Keeps h s) := by
  simp only [PyExtendedHandler.onParse, Prog.sat_bind, Prog.sat_get, Prog.after_ok]
  split
  · exact sat_seq (closeStatement_sat hl _) (fun _ w1 hc => storeParsed_sat hc.live hc.gone message)
      fun _ hc => hc.live
  split
  · exact hl
  · rename_i hfree
    exact storeParsed_sat hl (by simpa using hfree) message

/-- The statement of a value slot is open, and on the instance the handlers use. -/
theorem Inv.statement_open {c : Conn} {log : Log} (hw : Inv h c log) {s : String} {st : StoredStatement}
    {i : PyInstance} (hst : c.store.statements.lookup s = some (.value st)) (hi : h.instanceFor c = some i) :
    ∃ n x, heldStatements log n = some x ∧ x.pos = st.statement ∧ x.owner = i := by
  cases hw.statement s with
  | absent py stored => rw [stored] at hst; cases hst
  | empty py stored => rw [stored] at hst; cases hst
  | value st' i' py stored object id inst =>
    rw [stored] at hst
    cases hst
    rw [inst] at hi
    cases hi
    exact ⟨s, Ledger.object_eq_some.mp object⟩

theorem onBind_sat (hl : Live h s w) (message : Bind) : Prog.Sat (AtCall h s) (h.onBind message) w (Keeps h s) := by
  simp only [PyExtendedHandler.onBind, Prog.sat_bind, Prog.sat_get, Prog.after_ok]
  generalize message.statementName.getD defaultName = statementName
  split
  · exact hl
  split
  · exact hl
  split
  · rename_i statement hst
    simp only [PyExtendedHandler.portalTryNew, Prog.sat_bind, Prog.sat_await, Prog.after_ok, Prog.sat_ofExcept,
      Prog.sat_pure, Prog.sat_ofOutcome, Prog.after_err]
    refine ⟨atCall_of_plain hl.inv rfl, fun r => ⟨fun _ _ => ?_, fun _ _ => ?_⟩⟩
    · have hl1 : Live h s (w.called (.tryNewPortal message) r) := hl.quiet (quiet_of_plain rfl)
      cases hi : h.instanceFor w.st with
      | none => exact hl1
      | some i =>
        simp only [Outcome.okOr_some, Prog.after_ok, Prog.sat_bind]
        refine (closePortal_sat hl1 _).post ?_
        rintro (_ | e | _) w2 hc
        · replace hc := (ends_ok _).mp hc
          simp only [Prog.after_ok, Prog.sat_bind, Prog.sat_modify, PyExtendedHandler.bindPortal, sat_callPythonRef]
          generalize w2.modify (Conn.rmPortal (message.portalName.getD defaultName)) = w3 at hc ⊢
          have hl3 := hc.live
          have hst3 : w3.st.store.statements.lookup statementName = some (.value statement) := by
            rw [hc.shrunk.stored]
            exact hst
          have hi3 : h.instanceFor w3.st = some i := by
            rw [← hi, PyExtendedHandler.instanceFor, hl3.pySession, ← hl1.pySession]
            rfl
          have hfree : heldPortals w3.log (message.portalName.getD defaultName) = none :=
            Ledger.object_eq_none.mp (portalObject_none_of_py hl3.inv (hc.gone _ (List.mem_singleton.mpr rfl))).1
          refine ⟨hl3.callback ⟨hfree, hl3.inv.statement_open hst3 hi3⟩ rfl
            (instanceFor_session hi3 hl3.pySession) rfl, fun r' => ?_, fun e => ?_⟩
          · refine (expectResources_sat (w := w3.called _ _) hl3.installed).mpr ?_
            simp only [Prog.after_ok, Prog.sat_bind, Prog.sat_modify]
            refine send_sat ?_ _
            exact ⟨hl3.inv.portalBound (p := PyExtendedHandler.portalOf message statement) hst3 hi3, hl3.installed,
              hl3.phase, hl3.pySession⟩
          · exact hl3.quiet (quiet_of_on rfl rfl rfl)
        · exact hc.live
        · exact hc
    · exact hl.quiet (quiet_of_plain rfl)
  · rename_i hst
    split
    · exact hl
    simp only [Prog.sat_bind]
    refine (closePortal_sat hl _).post ?_
    rintro (_ | e | _) w2 hc
    · replace hc := (ends_ok _).mp hc
      simp only [Prog.after_ok, Prog.sat_modify, Prog.sat_bind]
      generalize w2.modify (Conn.rmPortal (message.portalName.getD defaultName)) = w3 at hc ⊢
      have hl3 := hc.live
      have hst3 : w3.st.store.statements.lookup statementName = some .empty := by
        rw [hc.shrunk.stored]
        exact hst
      refine (expectResources_sat hl3.installed).mpr ?_
      simp only [Prog.after_ok, Prog.sat_bind, Prog.sat_modify]
      refine send_sat ?_ _
      exact ⟨hl3.inv.portalEmpty (hc.gone _ (List.mem_singleton.mpr rfl)) hst3, hl3.installed, hl3.phase,
        hl3.pySession⟩
    · exact hc.live
    · exact hc
  · exact hl

/-! ### Sync, Close, Describe and Execute -/

theorem onSync_sat (hl : Live h s w) : Prog.Sat (AtCall h s) PyExtendedHandler.onSync w (Keeps h s) := by
  have answer : ∀ {w' : WireWorld}, Live h s w' → Prog.Sat (AtCall h s)
      (do
        let client ← Prog.get
        send (.readyForQuery client.transactionStatus)
        await .flush) w' (Keeps h s) := by
    intro w' hl'
    simp only [Prog.sat_bind, Prog.sat_get, Prog.after_ok, Prog.sat_await]
    refine ⟨atCall_of_plain hl'.inv rfl, fun r => ?_⟩
    have hl1 : Live h s (w'.called (.send (.readyForQuery w'.st.transactionStatus)) r) := hl'.quiet (quiet_of_plain rfl)
    exact ⟨atCall_of_plain hl1.inv rfl, fun r' => hl1.quiet (quiet_of_plain rfl)⟩
  simp only [PyExtendedHandler.onSync, Prog.sat_bind, Prog.sat_get, Prog.after_ok]
  split
  · exact sat_seq (closeAllPortals_sat hl) (fun _ w1 hc => answer hc.1.live) fun _ hc => hc.live
  · exact answer hl

theorem onClose_sat (hl : Live h s w) (message : Target) :
    Prog.Sat (AtCall h s) (h.onClose message) w (Keeps h s) := by
  simp only [PyExtendedHandler.onClose]
  split
  · exact sat_seq (closeStatement_sat hl _) (fun _ w1 hc => send_sat hc.live _) fun _ hc => hc.live
  split
  · refine sat_seq (closePortal_sat hl _) (fun _ w1 hc => ?_) fun _ hc => hc.live
    rw [Prog.sat_bind, Prog.sat_modify, Prog.after_ok]
    exact send_sat hc.live _
  · exact hl

/-- The portal that `portal_for` finds is open, and on the instance the handlers use. -/
theorem portalFor_open {c : Conn} {log : Log} (hw : Inv h c log) {n : String} {portal : PyRef} {i : PyInstance}
    (hp : PyExtendedHandler.portalFor c n = .ok portal) (hi : h.instanceFor c = some i) :
    ∃ n x, heldPortals log n = some x ∧ x.pos = portal ∧ x.owner = i := by
  unfold PyExtendedHandler.portalFor at hp
  split at hp
  · cases hw.portal n with
    | absent py => rw [py] at hp; cases hp
    | empty s py => rw [py] at hp; cases hp
    | bound s b p py stored object statement name call inst =>
      rw [py] at hp
      rw [inst] at hi
      cases hp
      cases hi
      exact ⟨n, Ledger.object_eq_some.mp object⟩
  · cases hp

theorem portalFor_ne_panic (c : Conn) (n : String) : PyExtendedHandler.portalFor c n ≠ .panic := by
  unfold PyExtendedHandler.portalFor
  split
  · cases ((c.resources.portals.lookup n).bind (·.bound)).map (·.portal) <;> simp
  · simp

theorem doDescribeStatement_sat (hl : Live h s w) {n : String} {st : StoredStatement}
    (hst : w.st.store.statements.lookup n = some (.value st)) :
    Prog.Sat (AtCall h s) (h.doDescribeStatement st) w (Ends (Live h s) (Live h s)) := by
  simp only [PyExtendedHandler.doDescribeStatement, Prog.sat_bind, Prog.sat_get, Prog.after_ok]
  cases hi : h.instanceFor w.st with
  | none => exact hl
  | some i =>
    simp only [Prog.sat_bind, sat_callPython]
    refine ⟨hl.callback (hl.inv.statement_open hst hi) rfl (instanceFor_session hi hl.pySession) rfl,
      fun r => ?_, fun e => ?_⟩
    · exact hl.quiet (quiet_of_on rfl rfl rfl)
    · exact hl.quiet (quiet_of_on rfl rfl rfl)

theorem doDescribePortal_sat (hl : Live h s w) (target : Portal) :
    Prog.Sat (AtCall h s) (h.doDescribePortal target) w (Ends (Live h s) (Live h s)) := by
  simp only [PyExtendedHandler.doDescribePortal, Prog.sat_bind, Prog.sat_get, Prog.after_ok]
  cases hi : h.instanceFor w.st with
  | none => exact hl
  | some i =>
    simp only [Prog.sat_bind, Prog.sat_ofOutcome]
    cases hp : PyExtendedHandler.portalFor w.st target.name with
    | ok portal =>
      simp only [Prog.after_ok, Prog.sat_bind, sat_callPython]
      refine ⟨hl.callback (portalFor_open hl.inv hp hi) rfl (instanceFor_session hi hl.pySession) rfl,
        fun r => ?_, fun e => ?_⟩
      · exact hl.quiet (quiet_of_on rfl rfl rfl)
      · exact hl.quiet (quiet_of_on rfl rfl rfl)
    | err e => exact hl
    | panic => exact absurd hp (portalFor_ne_panic _ _)

theorem doQuery_sat (hl : Live h s w) (portal : Portal) (maxRows : ℕ) :
    Prog.Sat (AtCall h s) (h.doQuery portal maxRows) w (Ends (Live h s) (Live h s)) := by
  simp only [PyExtendedHandler.doQuery, Prog.sat_bind, Prog.sat_get, Prog.after_ok]
  cases hi : h.instanceFor w.st with
  | none => exact hl
  | some i =>
    simp only [Prog.sat_bind, Prog.sat_ofOutcome]
    cases hp : PyExtendedHandler.portalFor w.st portal.name with
    | ok py =>
      simp only [Prog.after_ok, Prog.sat_bind, sat_callPython]
      refine ⟨hl.callback (portalFor_open hl.inv hp hi) rfl (instanceFor_session hi hl.pySession) rfl,
        fun r => ?_, fun e => ?_⟩
      · have hl1 : Live h s (w.called (.python (.doQuery i py maxRows)) (.ok r)) := hl.quiet (quiet_of_on rfl rfl rfl)
        split
        · exact sat_seq (closeAllPortals_sat hl1) (fun _ w1 hc => hc.1.live) fun _ hc => hc.live
        · exact hl1
      · exact hl.quiet (quiet_of_on rfl rfl rfl)
    | err e => exact hl
    | panic => exact absurd hp (portalFor_ne_panic _ _)

theorem onDescribe_sat (hl : Live h s w) (message : Target) :
    Prog.Sat (AtCall h s) (h.onDescribe message) w (Keeps h s) := by
  simp only [PyExtendedHandler.onDescribe, Prog.sat_bind, Prog.sat_get, Prog.after_ok]
  split
  · split
    · rename_i hst
      refine sat_seq (doDescribeStatement_sat hl hst) (fun _ w1 hl1 => ?_) fun _ hl1 => hl1
      exact sat_seq (send_sat hl1 _) (fun _ w2 hl2 => send_sat hl2 _) fun _ hl2 => hl2
    · exact sat_seq (send_sat hl _) (fun _ w2 hl2 => send_sat hl2 _) fun _ hl2 => hl2
    · exact hl
  split
  · split
    · exact sat_seq (doDescribePortal_sat hl _) (fun _ w1 hl1 => send_sat hl1 _) fun _ hl1 => hl1
    · exact send_sat hl _
    · exact hl
  · exact hl

theorem sendResponses_sat (hl : Live h s w) (responses : List Response) :
    Prog.Sat (AtCall h s) (PyExtendedHandler.sendResponses responses) w (Keeps h s) := by
  simp only [PyExtendedHandler.sendResponses, Prog.sat_bind, Prog.sat_await, Prog.after_ok, Prog.sat_modify,
    Prog.sat_ofExcept]
  refine ⟨atCall_of_plain hl.inv rfl, fun r => ?_⟩
  have hl1 : Live h s (w.called (.sendResponses responses) r) := hl.quiet (quiet_of_plain rfl)
  have hl2 : Live h s ⟨{ w.st with transactionStatus := r.transactionStatus }, _⟩ :=
    hl1.congr rfl rfl rfl rfl hl.phase
  exact ⟨fun _ _ => hl2, fun _ _ => hl2⟩

theorem onExecute_sat (hl : Live h s w) (message : Execute) :
    Prog.Sat (AtCall h s) (h.onExecute message) w (Keeps h s) := by
  simp only [PyExtendedHandler.onExecute, Prog.sat_bind, Prog.sat_get, Prog.after_ok]
  split
  · simp only [Prog.sat_bind, Prog.sat_await]
    refine ⟨atCall_of_plain hl.inv rfl, fun r => ?_⟩
    have hl1 : Live h s (w.called (.resumesPortal (message.name.getD defaultName)) r) := hl.quiet (quiet_of_plain rfl)
    rw [Prog.after_ok]
    split
    · exact sendResponses_sat hl1 _
    · exact sat_seq (doQuery_sat hl1 _ _) (fun _ w2 hl2 => sendResponses_sat hl2 _) fun _ hl2 => hl2
  · exact sendResponses_sat hl _
  · exact hl

/-! ### Simple queries -/

theorem simpleDoQuery_sat (hl : Live h s w) (query : String) :
    Prog.Sat (AtCall h s) (PyServerSimpleQueryHandler.doQuery query) w (Ends (Live h s) (Live h s)) := by
  simp only [PyServerSimpleQueryHandler.doQuery, Prog.sat_bind, Prog.sat_get, Prog.after_ok, sat_callPython]
  refine ⟨hl.callback trivial rfl (fun session hs => by rw [hl.pySession, hs]) rfl, fun r => ?_, fun e => ?_⟩
  · have hl1 : Live h s (w.called (.python (.simpleDoQuery _ query)) (.ok r)) := hl.quiet (quiet_of_on rfl rfl rfl)
    split
    · exact sat_seq (closeAllPortals_sat hl1) (fun _ w1 hc => hc.1.live) fun _ hc => hc.live
    · exact hl1
  · exact hl.quiet (quiet_of_on rfl rfl rfl)

theorem innerOnQuery_sat (hl : Live h s w) (query : String) :
    Prog.Sat (AtCall h s) (PyServerSimpleQueryHandler._onQuery query) w (Keeps h s) := by
  have finish : ∀ {w' : WireWorld}, Live h s w' → Prog.Sat (AtCall h s)
      (do
        Prog.modify fun client => { client with state := .readyForQuery }
        let client ← Prog.get
        send (.readyForQuery client.transactionStatus)) w' (Keeps h s) := by
    intro w' hl'
    simp only [Prog.sat_bind, Prog.sat_modify, Prog.after_ok, Prog.sat_get]
    refine send_sat ?_ _
    exact hl'.congr rfl rfl rfl rfl rfl
  simp only [PyServerSimpleQueryHandler._onQuery, Prog.sat_bind, Prog.sat_modify, Prog.after_ok, Prog.sat_await]
  have hl1 : Live h s (w.modify fun client => { client with state := .queryInProgress }) :=
    hl.congr rfl rfl rfl rfl rfl
  refine ⟨atCall_of_plain hl1.inv rfl, fun r => ?_⟩
  have hl2 := hl1.quiet (c := .isEmptySimpleQuery query) (r := r) (quiet_of_plain rfl)
  split
  · exact sat_seq (sendResponses_sat hl2 _) (fun _ w3 hl3 => finish hl3) fun _ hl3 => hl3
  · refine sat_seq (simpleDoQuery_sat hl2 query) (fun _ w3 hl3 => ?_) fun _ hl3 => hl3
    exact sat_seq (sendResponses_sat hl3 _) (fun _ w4 hl4 => finish hl4) fun _ hl4 => hl4

theorem onQuery_sat {hs : PyServerSimpleQueryHandler} (hl : Live hs.extended s w) (query : String) :
    Prog.Sat (AtCall hs.extended s) (hs.onQuery query) w (Keeps hs.extended s) := by
  have finish : ∀ {w' : WireWorld} (result : Except PgWireError Unit), Live hs.extended s w' →
      Prog.Sat (AtCall hs.extended s)
        (do
          let client ← Prog.get
          if client.transactionStatus = .idle then PyExtendedHandler.closeAllPortals else pure ()
          Prog.ofExcept result) w' (Keeps hs.extended s) := by
    intro w' result hl'
    have value : ∀ {w'' : WireWorld}, Live hs.extended s w'' →
        Prog.Sat (AtCall hs.extended s) (Prog.ofExcept result) w'' (Keeps hs.extended s) := by
      intro w'' hl''
      rw [Prog.sat_ofExcept]
      exact ⟨fun _ _ => hl'', fun _ _ => hl''⟩
    simp only [Prog.sat_bind, Prog.sat_get, Prog.after_ok]
    split
    · exact sat_seq (closeAllPortals_sat hl') (fun _ w1 hc => value hc.1.live) fun _ hc => hc.live
    · exact value hl'
  simp only [PyServerSimpleQueryHandler.onQuery, Prog.sat_bind, Prog.sat_get, Prog.after_ok]
  split
  · exact hl
  refine sat_seq (closePortal_sat hl _) (fun _ w1 hc => ?_) fun _ hc => hc.live
  rw [Prog.sat_bind, Prog.sat_modify, Prog.after_ok]
  refine sat_seq (closeStatement_sat hc.live _) (fun _ w2 hc2 => ?_) fun _ hc2 => hc2.live
  rw [Prog.sat_bind, Prog.sat_attempt]
  refine (innerOnQuery_sat hc2.live query).post ?_
  rintro (_ | e | _) w3 hl3
  · exact finish _ hl3
  · exact finish _ hl3
  · exact hl3

end Handlers

end Pywire
