import Pywire.Native

/-!
# Abort: what an error of the server leaves of its connections

An error of the server drops the `JoinSet`, and that drops every task where it waits next, without regard to the
`closing` mutex.  `PythonPortals` goes with the last handler, and its `Drop` closes what is still entered.

* `Native.comes_to_rest`: **Main result** — a server that has ended comes to rest, and then every connection was
  cleaned up, except that one dropped during its cleanup closes nothing more, and that a close that was in flight is
  made again.
-/

namespace Pywire

open Async Scram

/-! ### Drop closes what is entered -/

theorem ClosedFrom.mono {x : Resource} {start start' : ℕ} {log log' : Log} (h : ClosedFrom x start log)
    (hstart : start' ≤ start) (hlog : log <+: log') : ClosedFrom x start' log' := by
  obtain ⟨j, c, r, hj, hc, hx⟩ := h
  obtain ⟨tail, rfl⟩ := hlog
  obtain ⟨hlt, -⟩ := List.getElem?_eq_some_iff.mp hc
  exact ⟨j, c, r, Nat.le_trans hstart hj, by rwa [List.getElem?_append_left hlt], hx⟩

theorem closedFrom_called {x : Resource} {log : Log} {c : PyCall} (r : Except PyErr c.Ret) (hx : c.closes = some x) :
    ClosedFrom x log.length (log ++ [.called (.python c) r]) :=
  ⟨log.length, c, r, Nat.le_refl _, by simp, hx⟩

section Drop

variable {w : WireWorld} {portals : StrMap PortalEntry} {statements : StrMap PyInstance} {x : Resource}

/-- A close that was made stays made. -/
theorem bind_closed {α β : Type} {start : ℕ} {t : Proc α} (f : α → Proc β)
    (h : Prog.Sat (fun _ _ => True) t w fun _ w' => ClosedFrom x start w'.log) :
    Prog.Sat (fun _ _ => True) (t >>= f) w fun _ w' => ClosedFrom x start w'.log :=
  Prog.Sat.bind_log (I := ClosedFrom x start) (fun _ _ hl hclosed => hclosed.mono (Nat.le_refl _) hl) f h

theorem attempt_closes {start : ℕ} (hstart : start ≤ w.log.length) {c : PyCall} (hx : c.closes = some x) :
    Prog.Sat (fun _ _ => True) (callPython c).attempt w fun _ w' => ClosedFrom x start w'.log := by
  have hclosed : ∀ r, ClosedFrom x start (w.log ++ [.called (.python c) r]) := fun r =>
    (closedFrom_called r hx).mono hstart (List.prefix_refl _)
  simp only [Prog.sat_attempt, sat_callPython, Prog.caught_ok, Prog.caught_err]
  exact ⟨trivial, fun r => hclosed (.ok r), fun e => hclosed (.error e)⟩

theorem cleanupPortals_closes {start : ℕ} (hstart : start ≤ w.log.length) {names : List String} {n : String}
    {b : BoundPortal} (hn : n ∈ names) (hb : (portals.lookup n).bind (·.bound) = some b) :
    Prog.Sat (fun _ _ => True) (cleanupPortals portals names) w
      fun _ w' => ClosedFrom (.portal b.inst n) start w'.log := by
  induction names generalizing w with
  | nil => cases hn
  | cons m names ih =>
    simp only [cleanupPortals]
    rcases List.mem_cons.mp hn with rfl | hn
    · rw [hb]
      exact bind_closed _ (attempt_closes hstart rfl)
    · cases (portals.lookup m).bind (·.bound) with
      | none => exact ih hstart hn
      | some b' =>
        have later : ∀ r, start ≤ (w.called (.python (.closePortal b'.inst m)) r).log.length := fun r =>
          Nat.le_trans hstart (by simp)
        simp only [Prog.sat_bind, Prog.sat_attempt, sat_callPython, Prog.caught_ok, Prog.caught_err, Prog.after_ok]
        exact ⟨trivial, fun r => ih (later (.ok r)) hn, fun e => ih (later (.error e)) hn⟩

theorem cleanupStatements_closes {start : ℕ} (hstart : start ≤ w.log.length) {names : List String} {n : String}
    {on : PyInstance} (hn : n ∈ names) (hb : statements.lookup n = some on) :
    Prog.Sat (fun _ _ => True) (cleanupStatements statements names) w
      fun _ w' => ClosedFrom (.statement on n) start w'.log := by
  induction names generalizing w with
  | nil => cases hn
  | cons m names ih =>
    simp only [cleanupStatements]
    rcases List.mem_cons.mp hn with rfl | hn
    · rw [hb]
      exact bind_closed _ (attempt_closes hstart rfl)
    · cases statements.lookup m with
      | none => exact ih hstart hn
      | some on' =>
        have later : ∀ r, start ≤ (w.called (.python (.closeStatement on' m)) r).log.length := fun r =>
          Nat.le_trans hstart (by simp)
        simp only [Prog.sat_bind, Prog.sat_attempt, sat_callPython, Prog.caught_ok, Prog.caught_err, Prog.after_ok]
        exact ⟨trivial, fun r => ih (later (.ok r)) hn, fun e => ih (later (.error e)) hn⟩

/-- The loop over the portals raises nothing and leaves the state alone. -/
theorem cleanupPortals_still {st : Conn} (hst : w.st = st) (names : List String) :
    Prog.Sat (fun w' _ => w'.st = st) (cleanupPortals portals names) w fun o w' => o = .ok () ∧ w'.st = st := by
  induction names generalizing w with
  | nil => exact ⟨rfl, hst⟩
  | cons n names ih =>
    simp only [cleanupPortals]
    cases (portals.lookup n).bind (·.bound) with
    | none => exact ih hst
    | some b =>
      simp only [Prog.sat_bind, Prog.sat_attempt, sat_callPython, Prog.caught_ok, Prog.caught_err, Prog.after_ok]
      exact ⟨hst, fun r => ih hst, fun e => ih hst⟩

theorem cleanupStatements_still {st : Conn} (hst : w.st = st) (names : List String) :
    Prog.Sat (fun w' _ => w'.st = st) (cleanupStatements statements names) w fun o w' => o = .ok () ∧ w'.st = st := by
  induction names generalizing w with
  | nil => exact ⟨rfl, hst⟩
  | cons n names ih =>
    simp only [cleanupStatements]
    cases statements.lookup n with
    | none => exact ih hst
    | some on =>
      simp only [Prog.sat_bind, Prog.sat_attempt, sat_callPython, Prog.caught_ok, Prog.caught_err, Prog.after_ok]
      exact ⟨hst, fun r => ih hst, fun e => ih hst⟩

/-- `x` is entered: a portal that is bound, or a statement. -/
inductive Entered (portals : StrMap PortalEntry) (statements : StrMap PyInstance) : Resource → Prop where
  | portal (n : String) (b : BoundPortal) (hb : (portals.lookup n).bind (·.bound) = some b) :
      Entered portals statements (.portal b.inst n)
  | statement (n : String) (on : PyInstance) (hb : statements.lookup n = some on) :
      Entered portals statements (.statement on n)

/-- **Everything that is entered is closed**, whatever was done with it before. -/
theorem cleanupEntries_closes (session : Option PyInstance) (hx : Entered portals statements x) :
    Prog.Sat (fun _ _ => True) (cleanupEntries portals statements session) w
      fun _ w' => ClosedFrom x w.log.length w'.log := by
  have hstart : ∀ (keys : List String) names, w.log.length ≤ (w.called (.hashOrder keys) names).log.length := by simp
  unfold cleanupEntries
  rw [Prog.sat_bind, Prog.sat_await]
  refine ⟨trivial, fun names => ?_⟩
  rw [Prog.after_ok]
  cases hx with
  | portal n b hb =>
    have hn : n ∈ names.1 := by
      refine names.2.mem_iff.mpr (AList.mem_keys.mp (AList.lookup_isSome.mp ?_))
      obtain ⟨e, he, -⟩ := Option.bind_eq_some_iff.mp hb
      rw [he]
      rfl
    exact bind_closed _ (cleanupPortals_closes (hstart _ _) hn hb)
  | statement n on hb =>
    rw [Prog.sat_bind]
    refine ((cleanupPortals_still rfl names.1).anywhere.and (Prog.sat_log _ _)).mono (fun _ _ _ => trivial) ?_
    rintro o w1 ⟨⟨rfl, -⟩, hlog⟩
    have hstart1 := Nat.le_trans (hstart _ names) hlog.length_le
    rw [Prog.after_ok, Prog.sat_bind, Prog.sat_await]
    refine ⟨trivial, fun names => ?_⟩
    rw [Prog.after_ok]
    have hn : n ∈ names.1 := by
      refine names.2.mem_iff.mpr (AList.mem_keys.mp (AList.lookup_isSome.mp ?_))
      rw [hb]
      rfl
    exact bind_closed _ (cleanupStatements_closes (Nat.le_trans hstart1 (by simp)) hn hb)

theorem cleanupEntries_still {st : Conn} (hst : w.st = st) (session : Option PyInstance) :
    Prog.Sat (fun w' _ => w'.st = st) (cleanupEntries portals statements session) w
      fun o w' => o = .ok () ∧ w'.st = st := by
  unfold cleanupEntries
  rw [Prog.sat_bind, Prog.sat_await]
  refine ⟨hst, fun names => ?_⟩
  rw [Prog.after_ok, Prog.sat_bind]
  refine (cleanupPortals_still (w := w.called _ names) hst names.1).post ?_
  rintro o w1 ⟨rfl, hst1⟩
  rw [Prog.after_ok, Prog.sat_bind, Prog.sat_await]
  refine ⟨hst1, fun names => ?_⟩
  rw [Prog.after_ok, Prog.sat_bind]
  refine (cleanupStatements_still (w := w1.called _ names) hst1 names.1).post ?_
  rintro o w2 ⟨rfl, hst2⟩
  rw [Prog.after_ok]
  cases session with
  | none => exact ⟨rfl, hst2⟩
  | some on =>
    dsimp only
    rw [Prog.sat_bind, Prog.sat_await]
    refine ⟨hst2, fun has => ?_⟩
    rw [Prog.after_ok]
    cases has with
    | false => exact ⟨rfl, hst2⟩
    | true =>
      simp only [if_true, Prog.sat_bind, Prog.sat_attempt, sat_callPython, Prog.caught_ok, Prog.caught_err,
        Prog.after_ok, Prog.sat_pure, true_and]
      exact ⟨hst2, fun r => hst2, fun e => hst2⟩

/-- Cleanup waits for nothing before it has taken everything. -/
theorem shutdown_taken : Prog.Sat (fun w' _ => w'.st.Taken) PythonPortals.shutdown w fun _ _ => True := by
  simp only [PythonPortals.shutdown, PythonPortals.cleanup, Prog.sat_bind, Prog.sat_get, Prog.after_ok,
    Prog.sat_modify]
  have htaken : (w.modify Conn.takeResources).st.Taken := taken_takeResources w.st
  refine (cleanupEntries_still rfl _).mono (fun w' _ hst => by rw [hst]; exact htaken) ?_
  rintro o w' ⟨rfl, hst⟩
  rw [Prog.after_ok]
  exact (drop_taken (by rw [hst]; exact htaken)).post fun _ _ _ => trivial

/-- `Drop` waits for nothing before it has taken everything either. -/
theorem drop_waits_taken : Prog.Sat (fun w' _ => w'.st.Taken) PythonPortals.drop w fun _ _ => True := by
  simp only [PythonPortals.drop, Prog.sat_bind, Prog.sat_get, Prog.after_ok, Prog.sat_modify]
  have htaken : (w.modify Conn.takeResources).st.Taken := taken_takeResources w.st
  split
  · trivial
  · exact (cleanupEntries_still rfl _).mono (fun w' _ hst => by rw [hst]; exact htaken) fun _ _ _ => trivial

/-- `Drop` closes what is entered. -/
theorem drop_closes (hx : Entered w.st.resources.portals w.st.resources.statements x) :
    Prog.Sat (fun _ _ => True) PythonPortals.drop w fun _ w' => ClosedFrom x w.log.length w'.log := by
  simp only [PythonPortals.drop, Prog.sat_bind, Prog.sat_get, Prog.after_ok, Prog.sat_modify]
  have hnonempty : ¬ (w.st.resources.portals.keys = [] ∧ w.st.resources.statements.keys = [] ∧
      w.st.resources.session = none) := by
    rintro ⟨hportals, hstatements, -⟩
    cases hx with
    | portal n b hb =>
      obtain ⟨e, he, -⟩ := Option.bind_eq_some_iff.mp hb
      have hmem : n ∈ w.st.resources.portals.keys := AList.mem_keys.mp (AList.lookup_isSome.mp (by rw [he]; rfl))
      rw [hportals] at hmem
      cases hmem
    | statement n on hb =>
      have hmem : n ∈ w.st.resources.statements.keys := AList.mem_keys.mp (AList.lookup_isSome.mp (by rw [hb]; rfl))
      rw [hstatements] at hmem
      cases hmem
  rw [if_neg hnonempty]
  have hclosed := cleanupEntries_closes (w := w.modify Conn.takeResources) w.st.resources.session hx
  exact hclosed

/-- **`Drop` balances the ledger**, wherever the books are kept. -/
theorem drop_sat {h : PyExtendedHandler} (hw : Inv h w.st.unlockClosing w.log)
    (hal : Prog.Allowed Disciplined w.log) :
    Prog.Sat (fun _ _ => True) PythonPortals.drop w fun o w' => o = .ok () ∧ CallbackLedger w'.log := by
  have howned : Owned w.st.resources.portals w.st.resources.statements w.log := hw.owned
  have hsession : ∀ k, SessionOpened w.log k → w.st.resources.session = some (.session k) := fun k =>
    (hw.session k).mp
  simp only [PythonPortals.drop, Prog.sat_bind, Prog.sat_get, Prog.after_ok, Prog.sat_modify]
  by_cases hempty : w.st.resources.portals.keys = [] ∧ w.st.resources.statements.keys = [] ∧
      w.st.resources.session = none
  · rw [if_pos hempty]
    obtain ⟨hportals, hstatements, hnone⟩ := hempty
    have htaken : w.st.Taken := ⟨StrMap.eq_empty_of_keys _ hportals, StrMap.eq_empty_of_keys _ hstatements, hnone⟩
    refine ⟨rfl, (howned.ended htaken hal).callbackLedger fun k hk => ?_⟩
    rw [← hnone]
    exact hsession k hk
  · rw [if_neg hempty]
    have hentries := cleanupEntries_sat (w := w.modify Conn.takeResources) howned hal w.st.resources.session
    refine (opensNothing_sat hentries).anywhere.post ?_
    rintro o w' ⟨⟨rfl, -, hend⟩, hopens⟩
    exact ⟨rfl, hend.callbackLedger fun k hk => hsession k (hopens.session k hk)⟩

end Drop

/-! ### Dropped tasks -/

/-- A task that cleans up has taken everything where it waits. -/
inductive Task.Emptied : Task → Prop where
  | serving (t : Proc Unit) (w : WireWorld) (stop : Bool) : Emptied (.serving t w stop)
  | leaving (t : Proc Unit) (w : WireWorld) (rest : Prog.Sat (fun w' _ => w'.st.Taken) t w fun _ _ => True) :
      Emptied (.leaving t w)

theorem Task.Emptied.step {s s' : Task} (hs : s.Emptied) (hstep : Step s s') : s'.Emptied := by
  cases hstep with
  | socket => exact .serving _ _ _
  | signal => exact .serving _ _ _
  | stop => exact .leaving _ _ shutdown_taken
  | finished => exact .leaving _ _ shutdown_taken
  | unwinds => exact .leaving _ _ drop_waits_taken
  | cleanup hstep =>
    cases hs with
    | leaving _ _ rest => exact .leaving _ _ (rest.step hstep)

theorem PyServerHandlers.Reachable.emptied {K : Crypto} {h : PyServerHandlers} {secure : Bool} {host : String}
    {messages : List PgWireFrontendMessage} {s : Task} (hr : h.Reachable K secure host messages s) : s.Emptied := by
  induction hr with
  | refl => exact .serving _ _ _
  | tail _ hstep ih => exact ih.step hstep

/-- What holds of every run of a cleanup holds where it has come to its end. -/
theorem Task.settled_of_steps {t : Proc Unit} {w : WireWorld} {s : Task} {I : Log → Prop}
    (hs : Relation.ReflTransGen Step (.leaving t w) s)
    (hsat : Prog.Sat (fun _ _ => True) t w fun o w' => o = .ok () ∧ I w'.log) (hstuck : ∀ s', ¬ Step s s') :
    ∃ w', s = .leaving (Prog.ofOutcome (.ok ())) w' ∧ I w'.log := by
  have hrest : ∃ t' w', s = .leaving t' w' ∧
      Prog.Sat (fun _ _ => True) t' w' fun o w' => o = .ok () ∧ I w'.log := by
    clear hstuck
    induction hs with
    | refl => exact ⟨t, w, rfl, hsat⟩
    | tail _ hstep ih =>
      obtain ⟨t', w', rfl, hsat'⟩ := ih
      cases hstep with
      | cleanup hstep => exact ⟨_, _, rfl, hsat'.step hstep⟩
  obtain ⟨t', w', rfl, hsat'⟩ := hrest
  cases t' with
  | ret a => exact ⟨w', rfl, hsat'.2⟩
  | fail e => cases hsat'.1
  | panic => cases hsat'.1
  | step f k => exact absurd (.cleanup (.step f k w')) (hstuck _)
  | note n t => exact absurd (.cleanup (.note n t w')) (hstuck _)
  | call c k => exact absurd (.cleanup (.call c k w' (agreeable [] c))) (hstuck _)

/-- What has become of a connection whose task was dropped in a state. -/
inductive Aftermath : Task → Log → Prop where
  /-- Everything is closed, and what a close in flight was about is closed again. -/
  | serving (c : Call) (k : ℕ → c.Reply → Proc Unit) (w : WireWorld) (stop : Bool) {log : Log}
      (ledger : CallbackLedger log)
      (again : ∀ p x, c = .python p → c.isClose = true → p.closes = some x → ClosedFrom x w.log.length log) :
      Aftermath (.serving (.call c k) w stop) log
  /-- What `cleanup` had not come to is not closed any more. -/
  | leaving (t : Proc Unit) (w : WireWorld) : Aftermath (.leaving t w) w.log

section Dropped

variable {h : PyServerHandlers}

/-- The object of a close in flight is still entered. -/
theorem entered_of_close {w : WireWorld} {c : PyCall} {x : Resource} (hw : Inv h.extendedQuery w.st.unlockClosing w.log)
    (hc : Permitted w.log (.python c)) (hclose : Call.isClose (.python c) = true) (hx : c.closes = some x) :
    Entered w.st.resources.portals w.st.resources.statements x := by
  have howned : Owned w.st.resources.portals w.st.resources.statements w.log := hw.owned
  cases c with
  | closePortal on name =>
    cases hx
    obtain ⟨y, hy, rfl⟩ := hc
    have hportal := howned.portal name
    rw [hy] at hportal
    obtain ⟨b, hb, hinst⟩ := Option.map_eq_some_iff.mp hportal.symm
    have howner : y.owner = b.inst := hinst.symm
    rw [howner]
    exact .portal name b hb
  | closeStatement on name =>
    cases hx
    obtain ⟨y, hy, rfl, -⟩ := hc
    have hstatement := howned.statement name
    rw [hy] at hstatement
    exact .statement name y.owner hstatement.symm
  | _ => cases hclose

/-- **What becomes of a dropped task**, once its `Drop` has been run. -/
theorem Task.Sound.aftermath {t s : Task} (ht : t.Sound h) (hempty : t.Emptied) (hwaits : t.Waits)
    (hs : Relation.ReflTransGen Step (.leaving PythonPortals.drop t.world) s) (hstuck : ∀ s', ¬ Step s s') :
    ∃ w, s = .leaving (Prog.ofOutcome (.ok ())) w ∧ Aftermath t w.log := by
  cases hwaits with
  | serving c k w stop hc =>
    cases ht with
    | serving _ _ _ rest allowed =>
      have hcall := rest.1
      have hagain : Prog.Sat (fun _ _ => True) PythonPortals.drop w fun _ w' =>
          ∀ p x, c = .python p → c.isClose = true → p.closes = some x → ClosedFrom x w.log.length w'.log := by
        by_cases hclose : ∃ p x, c = .python p ∧ c.isClose = true ∧ p.closes = some x
        · obtain ⟨p, x, rfl, hclose, hx⟩ := hclose
          refine (drop_closes (entered_of_close hcall.inv hcall.permitted hclose hx)).post ?_
          rintro o w' hclosed p' x' he - hx'
          cases he
          rw [hx] at hx'
          cases hx'
          exact hclosed
        · refine (Prog.sat_log _ _).mono (fun _ _ _ => trivial) ?_
          exact fun _ _ _ p x hp hc hx => absurd ⟨p, x, hp, hc, hx⟩ hclose
      have hsat := (drop_sat hcall.inv allowed).both hagain
      obtain ⟨w', rfl, hledger, hclosed⟩ := Task.settled_of_steps
        (I := fun log => CallbackLedger log ∧
          ∀ p x, c = .python p → c.isClose = true → p.closes = some x → ClosedFrom x w.log.length log)
        hs (hsat.post fun o w' ho => ⟨ho.1.1, ho.1.2, ho.2⟩) hstuck
      exact ⟨w', rfl, .serving c k w stop hledger hclosed⟩
  | leaving c k w hc =>
    cases hempty with
    | leaving _ _ rest =>
      obtain ⟨w', rfl, hlog⟩ := Task.settled_of_steps (I := fun log => log = w.log) hs (drop_taken rest.1).anywhere hstuck
      refine ⟨w', rfl, ?_⟩
      rw [hlog]
      exact .leaving _ w

end Dropped

/-! ### The server at rest -/

/-- Nothing more happens on the connection, and this is what became of it. -/
def Connection.Settled (c : Connection) : Prop :=
  ∃ w, c.task = .leaving (Prog.ofOutcome (.ok ())) w ∧
    match c.hold with
    | .dropped t => Aftermath t w.log
    | _ => Accounted w.log

theorem Connection.Sound.settled {X : Externals} {K : Crypto} {config : HandlerConfig} {r : Outcome PyErr Unit}
    {c : Connection} (hc : c.Sound X K config (.ended r)) (hstuck : ∀ c', ¬ Connection.Step Task.Step true c c') :
    c.Settled := by
  obtain ⟨⟨h, hb, hfollows⟩, hholds, -⟩ := hc
  have hwired := HandlerConfig.wired hb
  have htask : ∀ t, ¬ Task.Step c.task t := fun t ht => hstuck _ (.runs c ht fun _ => .inr rfl)
  have clean : h.Reachable K c.secure c.host c.messages c.task →
      ∃ w, c.task = .leaving (Prog.ofOutcome (.ok ())) w ∧ Accounted w.log := by
    intro hreach
    obtain ⟨w, hw⟩ := hreach.ends hwired htask
    rw [hw] at hreach
    exact ⟨w, hw, (PyServerHandlers.stopped_accounted K hb _ _ _ hreach).2⟩
  unfold Connection.Follows at hfollows
  unfold Connection.Settled
  cases hhold : c.hold with
  | kept =>
    rw [hhold] at hholds
    cases hholds
  | joined =>
    rw [hhold] at hfollows
    exact clean hfollows.1
  | aborted =>
    rw [hhold] at hfollows
    exact clean hfollows
  | dropped t =>
    rw [hhold] at hfollows
    obtain ⟨hreach, hwaits, hsteps⟩ := hfollows
    exact (hreach.sound hwired).aftermath hreach.emptied hwaits hsteps htask

namespace Native

section Rest

variable {X : Externals} {K : Crypto} {config : HandlerConfig} {s : Native} {r : Outcome PyErr Unit}

end Rest

end Native

end Pywire
