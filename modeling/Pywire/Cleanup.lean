import Pywire.Lifecycle

/-!
# Cleanup: the callback ledger of a whole connection

After the last message `PythonPortals::cleanup` closes what is left and `Drop` finds nothing to do; after a panic there
is only `Drop`.

* `PyServerHandlers.callbacks_balanced`: **Main result** — over a whole connection every Python object is closed
  by its name and on its own instance, never touched again once a close has succeeded, statements only after
  their portals, and the session exactly once and last, if and only if no stranded connection received a statement.
-/

namespace Pywire

open Async Scram

/-- `cleanup` at the end of a connection, and `Drop` after it. -/
def PythonPortals.shutdown : Proc Unit := do
  cleanup
  drop

/-- A whole connection; a panic unwinds past `cleanup`. -/
def PyServerHandlers.connection (K : Crypto) (h : PyServerHandlers) (messages : List PgWireFrontendMessage) :
    Proc Unit := do
  match ← (h.processSocket K messages).outcome with
  | .panic => PythonPortals.drop
  | _ => PythonPortals.shutdown

/-! ### What cleanup keeps -/

/-- The discipline of the callbacks, with the session left open. -/
def Disciplined (log : Log) (c : Call) : Prop := Permitted log c ∧ ∀ on, c ≠ .python (.closeSession on)

/-- Everything has been closed, or was tried to be. -/
structure AllTried (log : Log) : Prop where
  portals : ∀ n x, heldPortals log n = some x → x.tried = true
  statements : ∀ n x, heldStatements log n = some x → x.tried = true

/-- How the log of a connection ends: everything is tried, and then the session is closed, if it can be. -/
def Ended (session : Option PyInstance) (log : Log) : Prop :=
  ∃ p tail, log = p ++ tail ∧ Prog.Allowed Disciplined p ∧ AllTried p ∧
    match session with
    | none => tail = []
    | some on => tail = [.called (.hasClose on) false] ∨
        ∃ r, tail = [.called (.hasClose on) true, .called (.python (.closeSession on)) r]

/-- The session is opened, or a statement parsed. -/
def Call.Opens : Call → Prop
  | .python (.openSession _) => True
  | .python (.parseStatement _ _ _ _) => True
  | _ => False

/-- Cleanup opens nothing and does not need the mutex. -/
def Call.Shuts (c : Call) : Prop := ¬ c.Opens ∧ c ≠ .lockClosing

/-- What cleanup calls before it comes to the session. -/
structure Tidy (log : Log) (c : Call) : Prop where
  disciplined : Disciplined log c
  shuts : c.Shuts

section Cleanup

variable {w : WireWorld} {portals : StrMap PortalEntry} {statements : StrMap PyInstance}

theorem cleanupPortals_sat {names : List String} (hnd : names.Nodup)
    (hs : Ledger.Sweep (heldPortals w.log) (fun n => ((portals.lookup n).bind (·.bound)).map (·.inst)) names) :
    Prog.Sat (fun w c => Tidy w.log c) (cleanupPortals portals names) w (fun o w' => o = .ok () ∧
      w'.st = w.st ∧ (∀ n x, heldPortals w'.log n = some x → x.tried = true) ∧
        heldStatements w'.log = heldStatements w.log) := by
  induction names generalizing w with
  | nil => exact ⟨rfl, rfl, hs.done, rfl⟩
  | cons n names ih =>
    obtain ⟨hn, hnd⟩ := List.nodup_cons.mp hnd
    simp only [cleanupPortals]
    cases hb : (portals.lookup n).bind (·.bound) with
    | none => exact ih hnd (hs.skip (by rw [hb]; rfl))
    | some b =>
      have hfits : ∃ x, heldPortals w.log n = some x ∧ x.owner = b.inst := hs.fits (by rw [hb]; rfl)
      have next : ∀ r : Except PyErr Unit, Prog.Sat (fun w c => Tidy w.log c) (cleanupPortals portals names)
          (w.called (.python (.closePortal b.inst n)) r) (fun o w' => o = .ok () ∧ w'.st = w.st ∧
            (∀ n x, heldPortals w'.log n = some x → x.tried = true) ∧
              heldStatements w'.log = heldStatements w.log) := by
        intro r
        have hstatements : heldStatements (w.log ++ [.called (.python (.closePortal b.inst n)) r]) =
            heldStatements w.log := by
          rw [heldStatements_concat]
          rfl
        refine (ih (w := w.called _ _) hnd ?_).post fun o w' ho => ⟨ho.1, ho.2.1, ho.2.2.1, ho.2.2.2.trans hstatements⟩
        rw [World.called_log, heldPortals_concat]
        exact hs.closed hn _ _ _
      simp only [Prog.sat_bind, Prog.sat_attempt, sat_callPython, Prog.caught_ok, Prog.caught_err, Prog.after_ok]
      exact ⟨⟨⟨hfits, by simp⟩, by simp [Call.Shuts, Call.Opens]⟩, fun r => next (.ok r), fun e => next (.error e)⟩

theorem cleanupStatements_sat {names : List String} (hnd : names.Nodup)
    (hs : Ledger.Sweep (heldStatements w.log) (fun n => statements.lookup n) names)
    (htried : ∀ n x, heldPortals w.log n = some x → x.tried = true) :
    Prog.Sat (fun w c => Tidy w.log c) (cleanupStatements statements names) w (fun o w' => o = .ok () ∧
      w'.st = w.st ∧ AllTried w'.log) := by
  induction names generalizing w with
  | nil => exact ⟨rfl, rfl, htried, hs.done⟩
  | cons n names ih =>
    obtain ⟨hn, hnd⟩ := List.nodup_cons.mp hnd
    simp only [cleanupStatements]
    cases hi : statements.lookup n with
    | none => exact ih hnd (hs.skip hi) htried
    | some i =>
      obtain ⟨x, hx, howner⟩ := hs.fits hi
      have next : ∀ r : Except PyErr Unit, Prog.Sat (fun w c => Tidy w.log c)
          (cleanupStatements statements names) (w.called (.python (.closeStatement i n)) r)
          (fun o w' => o = .ok () ∧ w'.st = w.st ∧ AllTried w'.log) := by
        intro r
        refine ih (w := w.called _ _) hnd ?_ ?_
        · rw [World.called_log, heldStatements_concat]
          exact hs.closed hn _ _ _
        · rw [World.called_log, heldPortals_concat]
          exact htried
      simp only [Prog.sat_bind, Prog.sat_attempt, sat_callPython, Prog.caught_ok, Prog.caught_err, Prog.after_ok]
      -- every portal has been tried by now
      exact ⟨⟨⟨⟨x, hx, howner, fun m y hy _ => htried m y hy⟩, by simp⟩, by simp [Call.Shuts, Call.Opens]⟩, fun r => next (.ok r),
        fun e => next (.error e)⟩

/-- What the books hold is what the maps hold. -/
structure Owned (portals : StrMap PortalEntry) (statements : StrMap PyInstance) (log : Log) : Prop where
  portal : ∀ n, (heldPortals log n).map (·.owner) = ((portals.lookup n).bind (·.bound)).map (·.inst)
  statement : ∀ n, (heldStatements log n).map (·.owner) = statements.lookup n

theorem Inv.owned {h : PyExtendedHandler} {c : Conn} {log : Log} (hw : Inv h c log) :
    Owned c.resources.portals c.resources.statements log := by
  refine ⟨fun n => (Ledger.map_owner_held _ n).trans ?_, fun n => (Ledger.map_owner_held _ n).trans ?_⟩
  · change (portalObject log n).map Prod.snd = _
    cases hw.portal n with
    | absent py stored object => rw [py, object]; rfl
    | empty s py stored object => rw [py, object]; rfl
    | bound s b p py stored object => rw [py, object]; rfl
  · change (statementObject log n).map Prod.snd = _
    cases hw.statement n with
    | absent py stored object => rw [py, object]; rfl
    | empty py stored object => rw [py, object]; rfl
    | value st i py stored object => rw [py, object]; rfl

theorem Owned.sweepPortals {log log' : Log} (ho : Owned portals statements log) {names : List String}
    (hn : names.Perm portals.keys) (hl : heldPortals log' = heldPortals log) :
    Ledger.Sweep (heldPortals log') (fun n => ((portals.lookup n).bind (·.bound)).map (·.inst)) names := by
  refine ⟨fun n x hx => .inr (hn.mem_iff.mpr ?_), fun n _ => hl ▸ ho.portal n⟩
  have := ho.portal n
  rw [← hl, hx] at this
  cases he : portals.lookup n with
  | none => rw [he] at this; cases this
  | some e => exact AList.lookup_isSome.mp (by rw [he]; rfl)

theorem Owned.sweepStatements {log log' : Log} (ho : Owned portals statements log) {names : List String}
    (hn : names.Perm statements.keys) (hl : heldStatements log' = heldStatements log) :
    Ledger.Sweep (heldStatements log') (fun n => statements.lookup n) names := by
  refine ⟨fun n x hx => .inr (hn.mem_iff.mpr ?_), fun n _ => hl ▸ ho.statement n⟩
  have := ho.statement n
  rw [← hl, hx] at this
  exact AList.lookup_isSome.mp (by rw [← this]; rfl)

/-- Everything is closed before the session. -/
theorem cleanupEntries_sat (ho : Owned portals statements w.log) (hal : Prog.Allowed Disciplined w.log)
    (session : Option PyInstance) :
    Prog.Sat (fun w c => Permitted w.log c ∧ c.Shuts)
      (cleanupEntries portals statements session) w
      (fun o w' => o = .ok () ∧ w'.st = w.st ∧ Ended session w'.log) := by
  have order : ∀ {w' : WireWorld} {keys : List String} (r : Call.Reply (.hashOrder keys)),
      Prog.Allowed Disciplined w'.log → Prog.Allowed Disciplined (w'.called (.hashOrder keys) r).log ∧
        heldPortals (w'.called (.hashOrder keys) r).log = heldPortals w'.log ∧
          heldStatements (w'.called (.hashOrder keys) r).log = heldStatements w'.log := by
    intro w' keys r hal'
    rw [World.called_log, heldPortals_concat, heldStatements_concat]
    refine ⟨Prog.allowed_concat.mpr ⟨hal', ?_⟩, rfl, rfl⟩
    rintro c r' he
    cases he
    exact ⟨trivial, by simp⟩
  have weaken : ∀ (w : WireWorld) (c : Call), Tidy w.log c → Permitted w.log c ∧ c.Shuts :=
    fun w c hc => ⟨hc.disciplined.1, hc.shuts⟩
  simp only [cleanupEntries, Prog.sat_bind, Prog.sat_await, Prog.after_ok]
  refine ⟨⟨trivial, by simp [Call.Shuts, Call.Opens]⟩, fun names => ?_⟩
  obtain ⟨hal1, hp1, hs1⟩ := order names hal
  refine (((cleanupPortals_sat (names.2.nodup_iff.mpr portals.keys_nodup)
    (ho.sweepPortals names.2 hp1)).allowed (fun _ _ hc => hc.disciplined) hal1).mono weaken fun _ _ hq => hq).post ?_
  rintro o w2 ⟨⟨rfl, hst2, htried, hs2⟩, hal2⟩
  simp only [Prog.after_ok, Prog.sat_bind, Prog.sat_await]
  refine ⟨⟨trivial, by simp [Call.Shuts, Call.Opens]⟩, fun names => ?_⟩
  obtain ⟨hal3, hp3, hs3⟩ := order names hal2
  refine (((cleanupStatements_sat (names.2.nodup_iff.mpr statements.keys_nodup)
    (ho.sweepStatements names.2 ((hs3.trans hs2).trans hs1)) (hp3 ▸ htried)).allowed
      (fun _ _ hc => hc.disciplined) hal3).mono weaken fun _ _ hq => hq).post ?_
  rintro o w4 ⟨⟨rfl, hst4, htried4⟩, hal4⟩
  have hst : w4.st = w.st := hst4.trans hst2
  rw [Prog.after_ok]
  cases session with
  | none => exact ⟨rfl, hst, w4.log, [], by simp, hal4, htried4, rfl⟩
  | some on =>
    simp only [Prog.sat_bind, Prog.sat_await, Prog.after_ok]
    refine ⟨⟨trivial, by simp [Call.Shuts, Call.Opens]⟩, fun has => ?_⟩
    cases has with
    | false => exact ⟨rfl, hst, w4.log, [_], rfl, hal4, htried4, .inl rfl⟩
    | true =>
      simp only [if_true, Prog.sat_bind, Prog.sat_attempt, sat_callPython, Prog.caught_ok, Prog.caught_err,
        Prog.after_ok, Prog.sat_pure]
      have last : ∀ r, (w4.called (.hasClose on) true).log ++ [.called (.python (.closeSession on)) r] =
          w4.log ++ [.called (.hasClose on) true, .called (.python (.closeSession on)) r] := by
        intro r
        simp
      exact ⟨⟨trivial, by simp [Call.Shuts, Call.Opens]⟩,
        fun r => ⟨trivial, hst, w4.log, _, last _, hal4, htried4, .inr ⟨.ok r, rfl⟩⟩,
        fun e => ⟨trivial, hst, w4.log, _, last _, hal4, htried4, .inr ⟨.error e, rfl⟩⟩⟩

/-- The resources have been taken. -/
structure Conn.Taken (c : Conn) : Prop where
  portals : c.resources.portals = ∅
  statements : c.resources.statements = ∅
  session : c.resources.session = none

theorem taken_takeResources (c : Conn) : c.takeResources.Taken := ⟨rfl, rfl, rfl⟩

/-- `Drop` closes nothing once everything is taken. -/
theorem drop_taken (hw : w.st.Taken) :
    Prog.Sat (fun w' _ => w'.st.Taken) PythonPortals.drop w fun o w' => o = .ok () ∧ w'.log = w.log := by
  obtain ⟨hportals, hstatements, hsession⟩ := hw
  simp only [PythonPortals.drop, Prog.sat_bind, Prog.sat_get, Prog.after_ok, Prog.sat_modify, hportals, hstatements,
    hsession, AList.keys_empty, and_self, if_true, Prog.sat_pure, World.modify_log]

/-- Where nothing is entered nothing is open. -/
theorem Owned.ended {c : Conn} {log : Log} (ho : Owned c.resources.portals c.resources.statements log)
    (hc : c.Taken) (hal : Prog.Allowed Disciplined log) : Ended none log := by
  refine ⟨log, [], by simp, hal, ⟨fun n x hx => ?_, fun n x hx => ?_⟩, rfl⟩
  · have hportal := ho.portal n
    rw [hx, hc.portals] at hportal
    cases hportal
  · have hstatement := ho.statement n
    rw [hx, hc.statements] at hstatement
    cases hstatement

/-- What was opened or parsed by the end of a cleanup was so before it. -/
structure OpensNothing (log log' : Log) : Prop where
  session : ∀ k, SessionOpened log' k → SessionOpened log k
  stranded : StrandedParse log' → StrandedParse log

theorem opensNothing_of_old {log log' : Log} (hl : log <+: log')
    (hold : ∀ (i : ℕ) (c : Call) (r : c.Reply), log'[i]? = some (.called c r) → c.Opens →
      log[i]? = some (.called c r)) : OpensNothing log log' := by
  refine ⟨?_, ?_⟩
  · rintro k ⟨login, hk⟩
    exact ⟨login, hold k _ _ hk trivial⟩
  · rintro ⟨k, on, name, ⟨sql, typeOids, hk⟩, hrefused⟩
    have hk' := hold k _ _ hk trivial
    obtain ⟨tail, rfl⟩ := hl
    rw [List.take_append_of_le_length (Nat.le_of_lt (List.getElem?_eq_some_iff.mp hk').1)] at hrefused
    exact ⟨k, on, name, ⟨sql, typeOids, hk'⟩, hrefused⟩

/-- A cleanup that closes everything opens nothing. -/
theorem opensNothing_sat {t : Proc Unit} {Q : Outcome PgWireError Unit → WireWorld → Prop}
    (ht : Prog.Sat (fun w c => Permitted w.log c ∧ c.Shuts) t w Q) :
    Prog.Sat (fun w c => Permitted w.log c ∧ c.Shuts) t w fun o w' => Q o w' ∧ OpensNothing w.log w'.log := by
  refine ((ht.old (P := Call.Opens) fun _ _ hc => hc.2.1).both (Prog.sat_log t w).anywhere).post ?_
  rintro o w' ⟨⟨ho, hold⟩, hl⟩
  exact ⟨ho, opensNothing_of_old hl hold⟩

/-- `cleanup` closes everything, and leaves nothing for `Drop`. -/
theorem shutdown_sat {h : PyExtendedHandler} (hw : Inv h w.st w.log) (hal : Prog.Allowed Disciplined w.log) :
    Prog.Sat (fun w c => Permitted w.log c ∧ c.Shuts) PythonPortals.shutdown w
      (fun o w' => o = .ok () ∧ Ended w.st.resources.session w'.log ∧ OpensNothing w.log w'.log) := by
  simp only [PythonPortals.shutdown, PythonPortals.cleanup, Prog.sat_bind, Prog.sat_get, Prog.after_ok,
    Prog.sat_modify]
  have hentries := cleanupEntries_sat (w := w.modify Conn.takeResources) hw.owned hal w.st.resources.session
  refine (opensNothing_sat hentries).post ?_
  rintro o w1 ⟨⟨rfl, hst, hend⟩, hopens⟩
  simp only [Prog.after_ok, PythonPortals.drop, Prog.sat_bind, Prog.sat_get, Prog.sat_modify, hst, World.modify_st,
    Conn.takeResources]
  exact ⟨rfl, hend, hopens⟩

end Cleanup

/-! ### The ledger, read off the log -/

/-- The `bind_portal` call at `k` returned the portal `name`, bound on `on` from the statement object `statement`. -/
def PortalBound (log : Log) (k : ℕ) (on : PyInstance) (name : String) (statement : PyRef) : Prop :=
  ∃ parameters pf rf,
    log[k]? = some (.called (.python (.bindPortal on name statement parameters pf rf)) (.ok ()))

/-- The event at `j` is a `close_portal` call. -/
def PortalClose (log : Log) (j : ℕ) (on : PyInstance) (name : String) (r : Except PyErr Unit) : Prop :=
  log[j]? = some (.called (.python (.closePortal on name)) r)

/-- The event at `j` is a `close_statement` call. -/
def StatementClose (log : Log) (j : ℕ) (on : PyInstance) (name : String) (r : Except PyErr Unit) : Prop :=
  log[j]? = some (.called (.python (.closeStatement on name)) r)

/-- The event at `l` passes the portal object `k` to a callback. -/
def PortalUsed (log : Log) (l k : ℕ) : Prop :=
  (∃ on r, log[l]? = some (.called (.python (.describePortal on k)) r)) ∨
    ∃ on maxRows r, log[l]? = some (.called (.python (.doQuery on k maxRows)) r)

/-- The event at `l` passes the statement object `k` to a callback. -/
def StatementUsed (log : Log) (l k : ℕ) : Prop :=
  (∃ on r, log[l]? = some (.called (.python (.describeStatement on k)) r)) ∨
    ∃ on name parameters pf rf r,
      log[l]? = some (.called (.python (.bindPortal on name k parameters pf rf)) r)

/-- The event at `j` closes the portal that was bound at `k`: its name was not bound again in between. -/
def ClosesPortal (log : Log) (k j : ℕ) (on : PyInstance) (name : String) : Prop :=
  k < j ∧ (∃ r, PortalClose log j on name r) ∧ ∀ i, k < i → i < j → ∀ on' st, ¬ PortalBound log i on' name st

/-- The event at `j` closes the statement that was parsed at `k`. -/
def ClosesStatement (log : Log) (k j : ℕ) (on : PyInstance) (name : String) : Prop :=
  k < j ∧ (∃ r, StatementClose log j on name r) ∧ ∀ i, k < i → i < j → ∀ on', ¬ StatementParsed log i on' name

/-- The obligations of a connection towards its callbacks. -/
structure CallbackLedger (log : Log) : Prop where
  /-- No leak: every portal is closed, by its name and on its own instance. -/
  portalClosed : ∀ k on name st, PortalBound log k on name st → ∃ j, ClosesPortal log k j on name
  statementClosed : ∀ k on name, StatementParsed log k on name → ∃ j, ClosesStatement log k j on name
  /-- After a close that succeeded the object is not used, and its name is closed only if it was bound anew. -/
  portalFinal : ∀ k on name st, PortalBound log k on name st →
    ∀ j on', k < j → PortalClose log j on' name (.ok ()) → ∀ l, j < l → ¬ PortalUsed log l k ∧
      ∀ on r, PortalClose log l on name r → ∃ i on' st', j < i ∧ i < l ∧ PortalBound log i on' name st'
  statementFinal : ∀ k on name, StatementParsed log k on name →
    ∀ j on', k < j → StatementClose log j on' name (.ok ()) → ∀ l, j < l → ¬ StatementUsed log l k ∧
      ∀ on r, StatementClose log l on name r → ∃ i on', j < i ∧ i < l ∧ StatementParsed log i on' name
  /-- Before a statement is closed, a close of every portal bound from it has been tried. -/
  portalsFirst : ∀ k on name, StatementParsed log k on name → ∀ j on', ClosesStatement log k j on' name →
    ∀ i on'' portal, i < j → PortalBound log i on'' portal k → ∃ l < j, ClosesPortal log i l on'' portal
  /-- The session is closed once if it can be, and nothing happens after that. -/
  session : ∀ k, SessionOpened log k → ∃ p tail, log = p ++ tail ∧
    (∀ on r, .called (.python (.closeSession on)) r ∉ p) ∧
      (tail = [.called (.hasClose (.session k)) false] ∨
        ∃ r, tail = [.called (.hasClose (.session k)) true, .called (.python (.closeSession (.session k))) r])

section Reading

variable {log : Log} {k j : ℕ} {on : PyInstance} {name : String}

theorem portalAct_opened : (log.map portalAct)[k]? = some (.opened name on) ↔ ∃ st, PortalBound log k on name st := by
  rw [List.getElem?_map, Option.map_eq_some_iff]
  constructor
  · rintro ⟨e, he, ha⟩
    unfold portalAct at ha
    split at ha
    · cases ha
      exact ⟨_, _, _, _, he⟩
    all_goals cases ha
  · rintro ⟨st, parameters, pf, rf, he⟩
    exact ⟨_, he, rfl⟩

theorem portalAct_closed {ok : Bool} :
    (log.map portalAct)[j]? = some (.closed name on ok) ↔ ∃ r, PortalClose log j on name r ∧ succeeded r = ok := by
  rw [List.getElem?_map, Option.map_eq_some_iff]
  constructor
  · rintro ⟨e, he, ha⟩
    unfold portalAct at ha
    split at ha
    · cases ha
    · cases ha
      exact ⟨_, he, rfl⟩
    all_goals cases ha
  · rintro ⟨r, he, rfl⟩
    exact ⟨_, he, rfl⟩

theorem statementAct_opened :
    (log.map statementAct)[k]? = some (.opened name on) ↔ StatementParsed log k on name := by
  rw [List.getElem?_map, Option.map_eq_some_iff]
  constructor
  · rintro ⟨e, he, ha⟩
    unfold statementAct at ha
    split at ha
    · cases ha
      exact ⟨_, _, he⟩
    all_goals cases ha
  · rintro ⟨sql, typeOids, he⟩
    exact ⟨_, he, rfl⟩

theorem statementAct_closed {ok : Bool} :
    (log.map statementAct)[j]? = some (.closed name on ok) ↔
      ∃ r, StatementClose log j on name r ∧ succeeded r = ok := by
  rw [List.getElem?_map, Option.map_eq_some_iff]
  constructor
  · rintro ⟨e, he, ha⟩
    unfold statementAct at ha
    split at ha
    · cases ha
    · cases ha
      exact ⟨_, he, rfl⟩
    all_goals cases ha
  · rintro ⟨r, he, rfl⟩
    exact ⟨_, he, rfl⟩

/-- Two objects of one name, in a row. -/
theorem closesPortal_of_acts (hkj : k < j) {ok : Bool} (hj : (log.map portalAct)[j]? = some (.closed name on ok))
    (hfree : ∀ i, k < i → i < j → ∀ o, (log.map portalAct)[i]? ≠ some (.opened name o)) :
    ClosesPortal log k j on name := by
  obtain ⟨r, hr, -⟩ := portalAct_closed.mp hj
  exact ⟨hkj, ⟨r, hr⟩, fun i hki hij on' st hb => hfree i hki hij on' (portalAct_opened.mpr ⟨st, hb⟩)⟩

/-- The end of the log opens, closes and uses nothing. -/
theorem Ended.whole {session : Option PyInstance} (hend : Ended session log) :
    Prog.Allowed Permitted log ∧ AllTried log := by
  obtain ⟨p, tail, rfl, hal, htried, ht⟩ := hend
  have hal : Prog.Allowed Permitted p := fun q c r s hq => (hal q c r s hq).1
  -- one event more, of an act that is none
  have more : ∀ {log : Log} {e : WireEvent}, portalAct e = .other → statementAct e = .other →
      (∀ c r, e = .called c r → Permitted log c) → Prog.Allowed Permitted log ∧ AllTried log →
        Prog.Allowed Permitted (log ++ [e]) ∧ AllTried (log ++ [e]) := by
    rintro log e hp hs he ⟨hal, htried⟩
    refine ⟨Prog.allowed_concat.mpr ⟨hal, he⟩, ?_, ?_⟩
    · rw [heldPortals_concat, hp]
      exact htried.portals
    · rw [heldStatements_concat, hs]
      exact htried.statements
  have hasClose : ∀ on b, Prog.Allowed Permitted (p ++ [.called (.hasClose on) b]) ∧
      AllTried (p ++ [.called (.hasClose on) b]) := by
    intro on b
    refine more rfl rfl ?_ ⟨hal, htried⟩
    rintro c r he
    cases he
    trivial
  cases session with
  | none =>
    rw [show tail = [] from ht, List.append_nil]
    exact ⟨hal, htried⟩
  | some on =>
    rcases ht with rfl | ⟨r, rfl⟩
    · exact hasClose on false
    · rw [← List.singleton_append, ← List.append_assoc]
      refine more rfl rfl ?_ (hasClose on true)
      rintro c r' he
      cases he
      trivial

/-- The close of a statement finds the object that its parse left. -/
theorem ClosesStatement.held {on' : PyInstance} (hal : Prog.Allowed Permitted log)
    (hk : StatementParsed log k on name) (hc : ClosesStatement log k j on' name) :
    PortalsTried (log.take j) k := by
  obtain ⟨hkj, ⟨r, hr⟩, hfree⟩ := hc
  obtain ⟨x, hx, -, htried⟩ := hal.at hr
  have take_of : ∀ {i : ℕ} {a : Ledger.Act String PyInstance}, i < j →
      (((log.take j).map statementAct)[i]? = some a ↔ (log.map statementAct)[i]? = some a) := by
    intro i a hi
    rw [List.getElem?_map, List.getElem?_map, List.getElem?_take_of_lt hi]
  obtain ⟨hopened, hlater⟩ := Ledger.held_eq_some hx
  have hxj : x.pos < j := by
    have := Ledger.held_pos_lt hx
    rw [List.length_map, List.length_take] at this
    omega
  have hpos : x.pos = k := by
    rcases Nat.lt_trichotomy x.pos k with hlt | heq | hgt
    · exact absurd ((take_of hkj).mpr (statementAct_opened.mpr hk)) (hlater k hlt on).1
    · exact heq
    · exact absurd (statementAct_opened.mp ((take_of hxj).mp hopened)) (hfree x.pos hgt hxj x.owner)
  rwa [hpos] at htried

theorem Ended.callbackLedger {session : Option PyInstance} (hend : Ended session log)
    (hsession : ∀ k, SessionOpened log k → session = some (.session k)) : CallbackLedger log := by
  obtain ⟨hal, htried⟩ := hend.whole
  obtain ⟨hop, hos⟩ := orderly_of_allowed hal
  refine ⟨?_, ?_, ?_, ?_, ?_, ?_⟩
  · intro k on name st hk
    rcases hop.tried_or_held (portalAct_opened.mpr ⟨st, hk⟩) with ⟨j, ok, hkj, hj, hfree⟩ | hheld
    · exact ⟨j, closesPortal_of_acts hkj hj hfree⟩
    · cases htried.portals name _ hheld
  · intro k on name hk
    rcases hos.tried_or_held (statementAct_opened.mpr hk) with ⟨j, ok, hkj, hj, hfree⟩ | hheld
    · obtain ⟨r, hr, -⟩ := statementAct_closed.mp hj
      exact ⟨j, hkj, ⟨r, hr⟩, fun i hki hij on' hp => hfree i hki hij on' (statementAct_opened.mpr hp)⟩
    · cases htried.statements name _ hheld
  · intro k on name st hk j on' hkj hj l hl
    have hfinal := hop.closed_final (portalAct_opened.mpr ⟨st, hk⟩) hkj (portalAct_closed.mpr ⟨_, hj, rfl⟩) l hl
    refine ⟨?_, fun on r hc => ?_⟩
    · rintro (⟨on, r, hu⟩ | ⟨on, maxRows, r, hu⟩)
      · exact (hfinal on).1 (by rw [List.getElem?_map, hu]; rfl)
      · exact (hfinal on).1 (by rw [List.getElem?_map, hu]; rfl)
    · obtain ⟨i, hji, hil, on', hi⟩ := (hfinal on).2 _ (portalAct_closed.mpr ⟨r, hc, rfl⟩)
      obtain ⟨st', hi⟩ := portalAct_opened.mp hi
      exact ⟨i, on', st', hji, hil, hi⟩
  · intro k on name hk j on' hkj hj l hl
    have hfinal := hos.closed_final (statementAct_opened.mpr hk) hkj (statementAct_closed.mpr ⟨_, hj, rfl⟩) l hl
    refine ⟨?_, fun on r hc => ?_⟩
    · rintro (⟨on, r, hu⟩ | ⟨on, m, ps, pf, rf, r, hu⟩)
      · exact (hfinal on).1 (by rw [List.getElem?_map, hu]; rfl)
      · exact (hfinal on).1 (by rw [List.getElem?_map, hu]; rfl)
    · obtain ⟨i, hji, hil, on', hi⟩ := (hfinal on).2 _ (statementAct_closed.mpr ⟨r, hc, rfl⟩)
      exact ⟨i, on', hji, hil, statementAct_opened.mp hi⟩
  · intro k on name hk j on' hc i on'' portal hij hi
    have htake := hc.held hal hk
    -- the ledger of the portals, as it stood at the close of the statement
    have hopj := (orderly_of_allowed (hal.of_prefix (List.take_prefix j log))).1
    obtain ⟨ps, pf, rf, hbind⟩ := hi
    have hbind' : PortalBound (log.take j) i on'' portal k :=
      ⟨ps, pf, rf, by rw [List.getElem?_take_of_lt hij]; exact hbind⟩
    rcases hopj.tried_or_held (portalAct_opened.mpr ⟨k, hbind'⟩) with ⟨l, ok, hil, hl, hfree⟩ | hheld
    · have hlj : l < j := by
        have := (List.getElem?_eq_some_iff.mp hl).1
        rw [List.length_map, List.length_take] at this
        omega
      obtain ⟨-, ⟨r, hr⟩, hfree⟩ := closesPortal_of_acts hil hl hfree
      refine ⟨l, hlj, hil, ⟨r, ?_⟩, ?_⟩
      · rwa [PortalClose, List.getElem?_take_of_lt hlj] at hr
      · rintro m him hml on₃ st ⟨ps', pf', rf', hm⟩
        exact hfree m him hml on₃ st ⟨ps', pf', rf', by rw [List.getElem?_take_of_lt (by omega)]; exact hm⟩
    · cases htake portal _ hheld ⟨on'', portal, ps, pf, rf, .ok (), by rw [List.getElem?_take_of_lt hij]; exact hbind⟩
  · intro k hk
    obtain ⟨p, tail, rfl, hal, -, ht⟩ := hend
    rw [hsession k hk] at ht
    refine ⟨p, tail, rfl, fun on r hmem => ?_, ht⟩
    obtain ⟨q, s, rfl⟩ := List.append_of_mem hmem
    exact (hal q _ r s rfl).2 on rfl

end Reading

/-! ### Connections that lose a statement -/

/-- How the books of a connection end: complete, or with a statement that a stranded connection received. -/
inductive Accounted (log : Log) : Prop where
  | complete (ledger : CallbackLedger log) (unparsed : ¬ StrandedParse log)
  | lost {before : Log} (on : PyInstance) (name sql : String) (typeOids : List UInt32)
      (hlog : log = before ++ [.called (.python (.parseStatement on name sql typeOids)) (.ok ())])
      (refused : StartupRefused before) (ledger : CallbackLedger before)

/-- If every statement is closed, the books are complete. -/
theorem Accounted.of_closed {log : Log} (ha : Accounted log)
    (hclosed : ∀ k on name, StatementParsed log k on name → ∃ j, ClosesStatement log k j on name) :
    CallbackLedger log ∧ ¬ StrandedParse log := by
  cases ha with
  | complete ledger unparsed => exact ⟨ledger, unparsed⟩
  | @lost before on name sql typeOids hlog refused ledger =>
    subst hlog
    -- the close would have to come after the last event
    obtain ⟨j, hlt, ⟨r, hj⟩, -⟩ := hclosed before.length on name ⟨sql, typeOids, by simp⟩
    have hle := (List.getElem?_eq_some_iff.mp hj).1
    rw [List.length_append, List.length_singleton] at hle
    omega

theorem Accounted.ledger_of_unparsed {log : Log} (ha : Accounted log) (hu : ¬ StrandedParse log) :
    CallbackLedger log := by
  cases ha with
  | complete ledger => exact ledger
  | @lost before on name sql typeOids hlog refused ledger =>
    subst hlog
    exact absurd ⟨before.length, on, name, ⟨sql, typeOids, by simp⟩, by simpa using refused⟩ hu

theorem Accounted.ledger_iff {log : Log} (ha : Accounted log) : CallbackLedger log ↔ ¬ StrandedParse log :=
  ⟨fun hl => (ha.of_closed hl.statementClosed).2, ha.ledger_of_unparsed⟩

section Stranded

variable {h : PyExtendedHandler} {w : WireWorld}

theorem Stranded.taken (hw : Stranded h w) : w.st.Taken :=
  ⟨StrMap.eq_empty _ fun n => (hw.fresh n).1, StrMap.eq_empty _ fun n => (hw.fresh n).2,
    hw.inv.pySession.symm.trans hw.pySession⟩

/-- A stranded connection owes nothing. -/
theorem Stranded.callbackLedger (hw : Stranded h w) (hal : Prog.Allowed Disciplined w.log) : CallbackLedger w.log := by
  refine (hw.inv.owned.ended hw.taken hal).callbackLedger fun k hk => ?_
  rw [← hw.taken.session]
  exact (hw.inv.session k).mp hk

theorem Wrecked.accounted (hw : Wrecked h w) (hal : Prog.Allowed Disciplined w.log) : Accounted w.log := by
  cases hw with
  | bind hw => exact .complete (hw.callbackLedger hal) hw.unparsed
  | parse hw on name sql typeOids =>
    exact .lost on name sql typeOids rfl hw.refused (hw.callbackLedger (hal.of_prefix (List.prefix_append _ _)))

theorem Wrecked.taken (hw : Wrecked h w) : w.st.Taken := by
  obtain ⟨log, hw⟩ := hw.stranded
  exact hw.taken

/-- **A panic loses at most the statement that was just received**. -/
theorem drop_wrecked (hw : Wrecked h w) (hal : Prog.Allowed Disciplined w.log) :
    Prog.Sat (fun w c => Permitted w.log c ∧ c.Shuts) PythonPortals.drop w
      fun o w' => o = .ok () ∧ Accounted w'.log := by
  obtain ⟨hportals, hstatements, hsession⟩ := hw.taken
  simp only [PythonPortals.drop, Prog.sat_bind, Prog.sat_get, Prog.after_ok, Prog.sat_modify, hportals, hstatements,
    hsession, AList.keys_empty, and_self, if_true, Prog.sat_pure, World.modify_log, true_and]
  exact hw.accounted hal

end Stranded

theorem Quiescent.unparsed {h : PyServerHandlers} {w : WireWorld} (hq : Quiescent h w) : ¬ StrandedParse w.log := by
  cases hq with
  | starting hw hs hi hu => exact fun hp => hu hp.refused
  | ready s hl hg hu => exact fun hp => hu hp.refused
  | stranded hw => exact hw.unparsed

/-- A statement that a stranded connection receives is the last thing that happens on it. -/
theorem PyServerHandlers.Concluded.unparsed {h : PyServerHandlers} {o : Outcome PgWireError Unit} {w : WireWorld}
    {log : Log} (hc : h.Concluded o w) (hl : log <+: w.log) (hlt : log.length < w.log.length) :
    ¬ StrandedParse log := by
  intro hp
  rcases o with _ | e | _
  · exact Quiescent.unparsed hc (hp.of_prefix hl)
  · exact hc.elim
  · cases hc with
    | bind hw => exact hw.unparsed (hp.of_prefix hl)
    | @parse w hw =>
      rw [World.called_log, List.length_append, List.length_singleton] at hlt
      exact hw.unparsed (hp.of_prefix (List.prefix_of_prefix_length_le hl (List.prefix_append _ _) (by omega)))

/-- **Cleanup completes the books** wherever the invariant holds. -/
theorem shutdown_completes {h : PyExtendedHandler} {w : WireWorld} (hw : Inv h w.st w.log)
    (hal : Prog.Allowed Disciplined w.log) (hunparsed : ¬ StrandedParse w.log) :
    Prog.Sat (fun w c => Permitted w.log c ∧ c.Shuts) PythonPortals.shutdown w
      fun o w' => o = .ok () ∧ CallbackLedger w'.log ∧ ¬ StrandedParse w'.log := by
  refine (shutdown_sat hw hal).post ?_
  rintro o w' ⟨rfl, hend, hopens⟩
  exact ⟨rfl, hend.callbackLedger fun k hk => (hw.session k).mp (hopens.session k hk),
    fun hp => hunparsed (hopens.stranded hp)⟩

theorem shutdown_accounted {h : PyExtendedHandler} {w : WireWorld} (hw : Inv h w.st w.log)
    (hal : Prog.Allowed Disciplined w.log) (hunparsed : ¬ StrandedParse w.log) :
    Prog.Sat (fun w c => Permitted w.log c ∧ c.Shuts) PythonPortals.shutdown w
      fun o w' => o = .ok () ∧ Accounted w'.log :=
  (shutdown_completes hw hal hunparsed).post fun _ _ ho => ⟨ho.1, .complete ho.2.1 ho.2.2⟩

theorem disciplined_of_onWire {h : PyServerHandlers} {w : WireWorld} {c : Call} (hc : OnWire h w c) :
    Disciplined w.log c := ⟨hc.permitted, hc.keepsSession⟩

/-- The loop over the messages keeps the discipline of the callbacks. -/
theorem PyServerHandlers.processSocket_disciplined (K : Crypto) {h : PyServerHandlers} (hwired : h.Wired) (secure : Bool)
    (host : String) (messages : List PgWireFrontendMessage) :
    Prog.Sat (OnWire h) (h.processSocket K messages) (freshWorld secure host)
      fun o w => h.Concluded o w ∧ Prog.Allowed Disciplined w.log :=
  (processSocket_sat (quiescent_freshWorld h secure host) hwired messages).allowed
    (fun _ _ => disciplined_of_onWire) (Prog.allowed_nil _)

/-- A whole connection ends with the books complete, or short of one statement. -/
theorem PyServerHandlers.connection_sat (K : Crypto) {h : PyServerHandlers} (hwired : h.Wired) (secure : Bool)
    (host : String) (messages : List PgWireFrontendMessage) :
    Prog.Sat (fun w c => Permitted w.log c) (h.connection K messages) (freshWorld secure host)
      (fun o w => o = .ok () ∧ Accounted w.log) := by
  have hdisciplined := processSocket_disciplined K hwired secure host messages
  rw [connection, Prog.sat_bind, Prog.sat_outcome]
  refine (hdisciplined.mono (fun w c hc => hc.permitted) fun _ _ ho => ho).post ?_
  rintro (_ | e | _) w ⟨ho, hal⟩
  · exact (shutdown_accounted (Quiescent.inv ho) hal (Quiescent.unparsed ho)).mono (fun _ _ hc => hc.1) fun _ _ ho => ho
  · exact ho.elim
  · exact (drop_wrecked ho hal).mono (fun _ _ hc => hc.1) fun _ _ ho => ho

/-- A connection that comes to the boundary after its last message ends with the books complete. -/
theorem PyServerHandlers.connection_ledger (K : Crypto) {h : PyServerHandlers} (hwired : h.Wired) {env : WireEnv}
    {secure : Bool} {host : String} {messages : List PgWireFrontendMessage}
    (hgoes : ((h.processSocket K messages).run env (freshWorld secure host)).1 ≠ .panic) :
    CallbackLedger ((h.connection K messages).run env (freshWorld secure host)).2.log := by
  obtain ⟨hends, hal⟩ := (processSocket_disciplined K hwired secure host messages).run env
  rw [connection, Prog.run_bind, Prog.run_outcome, Prog.resume_ok]
  rcases hrun : (h.processSocket K messages).run env (freshWorld secure host) with ⟨_ | e | _, w⟩
  · rw [hrun] at hends hal
    exact ((shutdown_completes (Quiescent.inv hends) hal (Quiescent.unparsed hends)).run env).2.1
  · rw [hrun] at hends
    exact hends.elim
  · rw [hrun] at hgoes
    exact absurd rfl hgoes

/-- **Main result**: the ledger of a connection balances if and only if it received no statement once startup had been
refused, and it does on every connection that comes to the boundary after its last message. -/
theorem PyServerHandlers.callbacks_balanced (K : Crypto) {configureCertificate : Bytes → Except PgWireError Unit}
    {config : HandlerConfig} {h : PyServerHandlers} (hb : config.build configureCertificate = .ok h) (env : WireEnv)
    (secure : Bool) (host : String) (messages : List PgWireFrontendMessage) :
    ∃ w, (h.connection K messages).run env (freshWorld secure host) = (.ok (), w) ∧
      (CallbackLedger w.log ↔ ¬ StrandedParse w.log) ∧
      (((h.processSocket K messages).run env (freshWorld secure host)).1 ≠ .panic → CallbackLedger w.log) := by
  obtain ⟨hok, haccounted⟩ := (connection_sat K (HandlerConfig.wired hb) secure host messages).run env
  exact ⟨_, Prod.ext hok rfl, haccounted.ledger_iff, connection_ledger K (HandlerConfig.wired hb)⟩

theorem callbacks_balanced_parse_bind :
    ∃ w, ((trusting true).connection default
      [.startup ⟨[("user", "alice")]⟩, .parse ⟨some "s", "SELECT 1", []⟩, .bind ⟨some "p", some "s", [], [], []⟩]).run
        agreeable (freshWorld false "127.0.0.1") = (.ok (), w) ∧ (CallbackLedger w.log ∧ ¬ StrandedParse w.log) := by
  obtain ⟨w, hrun, hiff, hboundary⟩ := PyServerHandlers.callbacks_balanced default (trusting_build true) agreeable false
    "127.0.0.1" [.startup ⟨[("user", "alice")]⟩, .parse ⟨some "s", "SELECT 1", []⟩, .bind ⟨some "p", some "s", [], [], []⟩]
  have hledger := hboundary (by decide +kernel)
  exact ⟨w, hrun, hledger, hiff.mp hledger⟩

/-- A lookup of the verifiers that raises. -/
def unavailable : WireEnv := fun log call =>
  match call with
  | .python (.getScramVerifier _) => .error ⟨⟨"builtins", "RuntimeError"⟩, [], "db down"⟩
  | call => agreeable log call

/-- A client that prepares a statement although it was never let in. -/
def undeterred : List PgWireFrontendMessage :=
  [.startup ⟨[("user", "alice")]⟩,
    .passwordMessageFamily ⟨.ok ⟨"SCRAM-SHA-256", some (Text.utf8 "n,,n=,r=abc".toList)⟩, .error .invalidSASLState⟩,
    .parse ⟨some "s", "SELECT 1", []⟩]

/-- Its login fails, pgwire goes on to the `Parse`, and the statement that the callback returns is never closed. -/
theorem callbacks_unbalanced :
    verifyingConfig.build (fun _ => .ok ()) = .ok verifying ∧
      ¬ CallbackLedger ((verifying.connection default undeterred).run unavailable (freshWorld false "127.0.0.1")).2.log := by
  refine ⟨rfl, fun hledger => ?_⟩
  obtain ⟨-, haccounted⟩ := (PyServerHandlers.connection_sat default (HandlerConfig.wired verifying_build) false
    "127.0.0.1" undeterred).run unavailable
  exact haccounted.ledger_iff.mp hledger
    ⟨8, .extended, "s", statementAct_opened.mp (by decide +kernel), by decide +kernel⟩

end Pywire
