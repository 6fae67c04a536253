import Pywire.Serving

/-!
# WireNames: whose statements and portals a message touches

Over the wire the unnamed statement is a name of its own; the stores keep it under `defaultName`, which a client may
also send as a name.  `Owners` is ghost state beside a run: the wire name under which each stored object was created.

* `Touched`: the slots that one message touches.
* `PyServerHandlers.wire_names_isolated`: **Main result** — while the unnamed objects and those of the name
  `defaultName` stay out of each other's way, no message touches an object of another name.
* `PyServerHandlers.wire_names_alias`: a client that sends `defaultName` replaces the unnamed statement.
-/

namespace Pywire

open Async Scram

/-! ### Addresses -/

/-- The key under which the stores keep the object of a wire name. -/
abbrev key (a : Option String) : String := a.getD defaultName

namespace PgWireFrontendMessage

/-- The wire name of the statement that a message creates or closes. -/
def statementName : PgWireFrontendMessage → Option (Option String)
  | .parse message => some message.name
  | .close message => if message.targetType = targetTypeByteStatement then some message.name else none
  | .query _ => some none
  | _ => none

/-- The wire name of the portal that a message creates or closes. -/
def portalName : PgWireFrontendMessage → Option (Option String)
  | .bind message => some message.portalName
  | .close message => if message.targetType = targetTypeBytePortal then some message.name else none
  | .query _ => some none
  | _ => none

/-- The wire name of the statement that a message binds a portal from. -/
def boundFrom : PgWireFrontendMessage → Option (Option String)
  | .bind message => some message.statementName
  | _ => none

/-- A Query and a Sync close all portals if they find the connection idle. -/
def closesWhenIdle : PgWireFrontendMessage → Bool
  | .query _ => true
  | .sync => true
  | _ => false

/-- A Query and an Execute may run the statement that ends the transaction. -/
def runsQueries : PgWireFrontendMessage → Bool
  | .query _ => true
  | .execute _ => true
  | _ => false

/-- The wire name of the statement that a message has created. -/
def createdStatement : PgWireFrontendMessage → Outcome PgWireError Unit → Option (Option String)
  | .parse message, .ok () => some message.name
  | _, _ => none

def createdPortal : PgWireFrontendMessage → Outcome PgWireError Unit → Option (Option String)
  | .bind message, .ok () => some message.portalName
  | _, _ => none

end PgWireFrontendMessage

theorem PgWireFrontendMessage.statementName_of_created {message : PgWireFrontendMessage}
    {o : Outcome PgWireError Unit} {a : Option String} (ha : message.createdStatement o = some a) :
    message.statementName = some a := by
  cases message with
  | parse message =>
    cases o with
    | ok _ => exact ha
    | _ => cases ha
  | _ => cases ha

theorem PgWireFrontendMessage.portalName_of_created {message : PgWireFrontendMessage} {o : Outcome PgWireError Unit}
    {a : Option String} (ha : message.createdPortal o = some a) : message.portalName = some a := by
  cases message with
  | bind message =>
    cases o with
    | ok _ => exact ha
    | _ => cases ha
  | _ => cases ha

/-- A panic creates nothing. -/
theorem PgWireFrontendMessage.createdPortal_panic (message : PgWireFrontendMessage) :
    message.createdPortal .panic = none := by
  cases message <;> rfl

theorem PgWireFrontendMessage.statementName_of_boundFrom {message : PgWireFrontendMessage} {b : Option String}
    (hb : message.boundFrom = some b) : message.statementName = none := by
  cases message with
  | bind message => rfl
  | _ => cases hb

/-- The portal `n` is what it was, in both maps. -/
def SamePortal (c c' : Conn) (n : String) : Prop :=
  c'.resources.portals.lookup n = c.resources.portals.lookup n ∧ c'.store.portals.lookup n = c.store.portals.lookup n

/-- A message may close the portal `n` that it does not address: a portal of the statement it closes or replaces, or
any portal at the end of a transaction or in an idle Sync or Query. -/
inductive MayClose (message : PgWireFrontendMessage) (w w' : WireWorld) (n : String) : Prop where
  | bound (a : Option String) (ha : message.statementName = some a) (hn : BoundOn w.st (key a) n)
  | idle (hm : message.closesWhenIdle = true) (hidle : w'.st.transactionStatus = .idle)
  | transactionEnd (hm : message.runsQueries = true) (hend : TransactionEnded w w')

/-- A message that creates a portal closes no other. -/
theorem MayClose.not_of_created {message : PgWireFrontendMessage} {o : Outcome PgWireError Unit} {a : Option String}
    {w w' : WireWorld} {n : String} (ha : message.createdPortal o = some a) : ¬ MayClose message w w' n := by
  cases message with
  | bind message =>
    rintro (⟨b, hb, -⟩ | ⟨hm, -⟩ | ⟨hm, -⟩)
    · cases hb
    · cases hm
    · cases hm
  | _ => cases ha

/-- What a message may have done to the slots when its handler returned `o`. -/
structure Touched (message : PgWireFrontendMessage) (w : WireWorld) (o : Outcome PgWireError Unit)
    (w' : WireWorld) : Prop where
  statements : ∀ n, SameStatement w.st w'.st n ∨ ∃ a, message.statementName = some a ∧ key a = n
  portals : ∀ n, SamePortal w.st w'.st n ∨ (∃ a, message.portalName = some a ∧ key a = n) ∨ MayClose message w w' n
  statementsShrink : message.createdStatement o = none → Kind.statements.Shrinks w w'
  portalsShrink : message.createdPortal o = none → Kind.portals.Shrinks w w'
  parsed : ∀ a, message.createdStatement o = some a → NewStatement (key a) w w'
  bound : ∀ a b, message.createdPortal o = some a → message.boundFrom = some b → NewPortal (key a) (key b) w w'

section Touched

variable {h : PyServerHandlers} {s : Option PyInstance} {w w' : WireWorld} {P S : String → Prop}

theorem Confined.statement (hc : Confined P S w w') (n : String) : SameStatement w.st w'.st n ∨ S n := by
  rcases hc.statements n with hsame | hS
  · exact .inl ⟨congrArg Prod.fst hsame, congrArg Prod.snd hsame⟩
  · exact .inr hS

theorem Confined.portal (hc : Confined P S w w') (n : String) : SamePortal w.st w'.st n ∨ P n := by
  rcases hc.portals n with hsame | hP
  · exact .inl ⟨congrArg Prod.fst hsame, congrArg Prod.snd hsame⟩
  · exact .inr hP

/-- A sweep creates nothing. -/
theorem Swept.touched {message : PgWireFrontendMessage} {o : Outcome PgWireError Unit} (hswept : Swept P S w w')
    (hS : ∀ n, S n → ∃ a, message.statementName = some a ∧ key a = n)
    (hP : ∀ n, P n → (∃ a, message.portalName = some a ∧ key a = n) ∨ MayClose message w w' n)
    (hstatement : message.createdStatement o = none) (hportal : message.createdPortal o = none) :
    Touched message w o w' := by
  refine ⟨fun n => (hswept.confined.statement n).imp_right (hS n), fun n => (hswept.confined.portal n).imp_right (hP n),
    fun _ => hswept.statements.shrinks, fun _ => hswept.portals.shrinks, fun a ha => ?_, fun a b ha => ?_⟩
  · rw [hstatement] at ha
    cases ha
  · rw [hportal] at ha
    cases ha

theorem onSync_spares : Prog.Spares Conn.transactionStatus PyExtendedHandler.onSync := by
  have answer : Prog.Spares Conn.transactionStatus
      (do
        let client ← Prog.get
        send (.readyForQuery client.transactionStatus)
        await .flush) :=
    Prog.spares_get.bind fun _ => (Prog.spares_await _).bind fun _ => Prog.spares_await _
  refine Prog.spares_get.bind fun client => ?_
  by_cases hidle : client.transactionStatus = .idle
  · simp only [if_pos hidle]
    exact closeAllPortals_spares.bind fun _ => answer
  · simp only [if_neg hidle]
    exact answer

theorem onParse_touched (hl : Live h.extendedQuery s w) (message : Parse) :
    Prog.Sat (AtCall h.extendedQuery s) (h.extendedQuery.onParse message) w (Touched (.parse message) w) := by
  have closes : ∀ {w' : WireWorld} {n : String}, ReplacedBy w.st (key message.name) n →
      MayClose (.parse message) w w' n := fun hn => .bound message.name rfl hn.2
  refine (onParse_swept hl message).post ?_
  rintro (_ | e | _) w' ho
  · have hc := ho.2.1
    refine ⟨fun n => (hc.statement n).imp_right fun hn => ⟨_, rfl, hn.symm⟩,
      fun n => (hc.portal n).imp_right fun hn => .inr (closes hn), by simp [PgWireFrontendMessage.createdStatement],
      fun _ => ho.2.2.1, ?_, fun a b hno => by cases hno⟩
    rintro a ⟨⟩
    exact ho.2.2.2
  · exact ho.2.touched (fun n hn => ⟨_, rfl, hn.symm⟩) (fun n hn => .inr (closes hn)) rfl rfl
  · exact ho.elim

theorem onBind_touched (hl : Live h.extendedQuery s w) (message : Bind) :
    Prog.Sat (AtCall h.extendedQuery s) (h.extendedQuery.onBind message) w (Touched (.bind message) w) := by
  refine (onBind_swept hl message).post ?_
  rintro (_ | e | _) w' ho
  · have hc := ho.2.1
    refine ⟨fun n => (hc.statement n).imp_right False.elim,
      fun n => (hc.portal n).imp_right fun hn => .inl ⟨_, rfl, hn.symm⟩,
      fun _ n => .inl ((hc.statements n).resolve_right id), by simp [PgWireFrontendMessage.createdPortal],
      by simp [PgWireFrontendMessage.createdStatement], ?_⟩
    rintro a b ⟨⟩ ⟨⟩
    exact ho.2.2
  · exact ho.2.touched (fun n => False.elim) (fun n hn => .inl ⟨_, rfl, hn.symm⟩) rfl rfl
  · exact ho.elim

theorem onClose_touched (hl : Live h.extendedQuery s w) (message : Target) :
    Prog.Sat (AtCall h.extendedQuery s) (h.extendedQuery.onClose message) w (Touched (.close message) w) := by
  have hS : ∀ n, message.Statements n →
      ∃ a, PgWireFrontendMessage.statementName (.close message) = some a ∧ key a = n := by
    rintro n ⟨htype, rfl⟩
    exact ⟨message.name, if_pos htype, rfl⟩
  have hP : ∀ {w' : WireWorld} {n : String}, message.Portals w.st n →
      (∃ a, PgWireFrontendMessage.portalName (.close message) = some a ∧ key a = n) ∨
        MayClose (.close message) w w' n := by
    intro w' n hn
    rw [Target.Portals] at hn
    by_cases hstatement : message.targetType = targetTypeByteStatement
    · rw [if_pos hstatement] at hn
      exact .inr (.bound message.name (if_pos hstatement) hn)
    · rw [if_neg hstatement] at hn
      exact .inl ⟨message.name, if_pos hn.1, hn.2.symm⟩
  refine (onClose_swept hl message).post ?_
  rintro (_ | e | _) w' ho
  · exact ho.2.touched hS (fun n => hP) rfl rfl
  · exact ho.2.touched hS (fun n => hP) rfl rfl
  · exact ho.elim

theorem onQuery_touched (hl : Live h.simpleQuery.extended s w) (query : String) :
    Prog.Sat (AtCall h.simpleQuery.extended s) (h.simpleQuery.onQuery query) w (Touched (.query query) w) := by
  have hS : ∀ n, n = defaultName →
      ∃ a, PgWireFrontendMessage.statementName (.query query) = some a ∧ key a = n := fun n hn => ⟨none, rfl, hn.symm⟩
  have hP : ∀ {w' : WireWorld} {n : String}, QueryPortals w w' n →
      (∃ a, PgWireFrontendMessage.portalName (.query query) = some a ∧ key a = n) ∨ MayClose (.query query) w w' n := by
    rintro w' n (hn | hbound | hidle | hend)
    · exact .inl ⟨none, rfl, hn.symm⟩
    · exact .inr (.bound none rfl hbound)
    · exact .inr (.idle rfl hidle)
    · exact .inr (.transactionEnd rfl hend)
  refine (onQuery_swept hl query).post ?_
  rintro (_ | e | _) w' ho
  · exact ho.2.1.touched hS (fun n => hP) rfl rfl
  · exact ho.2.touched hS (fun n => hP) rfl rfl
  · exact ho.elim

/-- **Every message** touches the names it addresses, and closes the portals it may close. -/
theorem onMessage_touched (hl : Live h.extendedQuery s w) (hwired : h.Wired) (message : PgWireFrontendMessage) :
    Prog.Sat (AtCall h.extendedQuery s) (h.onMessage message) w (Touched message w) := by
  have untouched : ∀ {o : Outcome PgWireError Unit} {w' : WireWorld} {message : PgWireFrontendMessage},
      Swept Nothing Nothing w w' → message.createdStatement o = none → message.createdPortal o = none →
        Touched message w o w' :=
    fun hswept => hswept.touched (fun n => False.elim) fun n => False.elim
  cases message with
  | query query =>
    have hsimple : Live h.simpleQuery.extended s w := hwired.extended ▸ hl
    have hquery := onQuery_touched hsimple query
    rwa [hwired.extended] at hquery
  | parse message => exact onParse_touched hl message
  | bind message => exact onBind_touched hl message
  | describe message =>
    exact ((onDescribe_sat hl message).both (onDescribe_swept _ message)).post fun o w' ho => untouched ho.2 rfl rfl
  | execute message =>
    refine (onExecute_swept hl message).post ?_
    rintro (_ | e | _) w' ho
    · exact ho.2.touched (fun n => False.elim) (fun n hn => .inr (.transactionEnd rfl hn)) rfl rfl
    · exact ho.2.touched (fun n => False.elim) (fun n hn => .inr (.transactionEnd rfl hn)) rfl rfl
    · exact ho.elim
  | close message => exact onClose_touched hl message
  | sync =>
    refine ((onSync_swept hl).both (onSync_spares w)).post ?_
    rintro (_ | e | _) w' ⟨ho, hstatus⟩
    · exact ho.2.1.touched (fun n => False.elim) (fun n hn => .inr (.idle rfl (hstatus.trans hn))) rfl rfl
    · exact ho.2.1.touched (fun n => False.elim) (fun n hn => .inr (.idle rfl (hstatus.trans hn))) rfl rfl
    · exact ho.elim
  | startup message => exact untouched (.refl w) rfl rfl
  | passwordMessageFamily message => exact untouched (.refl w) rfl rfl
  | other => exact untouched (.refl w) rfl rfl

/-! On a stranded connection there are no portals, and only an empty statement may be stored. -/

theorem Stranded.samePortal {x : PyExtendedHandler} {c : Conn} (hw : Stranded x w) (hw' : NoPortals c) (n : String) :
    SamePortal w.st c n := by
  rw [SamePortal, hw.noPortals.1, hw.noPortals.2, hw'.1, hw'.2]
  exact ⟨rfl, rfl⟩

theorem Undisturbed.touched {x : PyExtendedHandler} {message : PgWireFrontendMessage} {o : Outcome PgWireError Unit}
    (hu : Undisturbed w.st w'.st) (hw : Stranded x w) (hw' : NoPortals w'.st)
    (hstatement : message.createdStatement o = none) (hportal : message.createdPortal o = none) :
    Touched message w o w' := by
  have hsame : ∀ n, SameStatement w.st w'.st n := by
    intro n
    rw [SameStatement, hu.resources, hu.stored]
    exact ⟨rfl, rfl⟩
  refine ⟨fun n => .inl (hsame n), fun n => .inl (hw.samePortal hw' n),
    fun _ n => .inl (Prod.ext (hsame n).1 (hsame n).2),
    fun _ n => .inl (Prod.ext (hw.samePortal hw' n).1 (hw.samePortal hw' n).2), fun a ha => ?_, fun a b ha => ?_⟩
  · rw [hstatement] at ha
    cases ha
  · rw [hportal] at ha
    cases ha

theorem EmptyStored.touched {x : PyExtendedHandler} {message : Parse}
    (he : EmptyStored x message w w') (hw : Stranded x w) :
    Touched (.parse message) w (.ok ()) w' := by
  have hportal := hw.samePortal he.stranded.noPortals
  refine ⟨fun n => ?_, fun n => .inl (hportal n), fun hno => ?_,
    fun _ n => .inl (Prod.ext (hportal n).1 (hportal n).2), ?_, fun a b hno => by cases hno⟩
  · by_cases hn : n = message.name.getD defaultName
    · exact .inr ⟨message.name, rfl, hn.symm⟩
    · exact .inl ⟨by rw [he.resources], by rw [he.stored, StrMap.lookup_insert_eq_if, if_neg hn]⟩
  · cases hno
  · rintro a ⟨⟩
    exact ⟨.empty, by rw [he.stored, StrMap.lookup_insert_eq_if, if_pos rfl], fun st hst => by cases hst⟩

theorem onMessage_touched_stranded (hw : Stranded h.extendedQuery w) (message : PgWireFrontendMessage) :
    Prog.Sat (AtCall h.extendedQuery none) (h.onMessage message) w fun o w' =>
      Touched message w o w' ∧ w'.st.state.isStartup = false := by
  refine (PyServerHandlers.onMessage_stranded hw rfl message).post ?_
  rintro (_ | e | _) w' ho
  · refine ⟨?_, (Stored.stranded ho).phase⟩
    cases ho with
    | nothing hparse hbind hstays =>
      refine hstays.undisturbed.touched hw hstays.stranded.noPortals ?_ ?_
      · cases message with
        | parse p => exact absurd rfl (hparse p)
        | _ => rfl
      · cases message with
        | bind p => exact absurd rfl (hbind p)
        | _ => rfl
    | empty hempty => exact hempty.touched hw
  · have hstays : Stays h.extendedQuery w w' := ho
    exact ⟨hstays.undisturbed.touched hw hstays.stranded.noPortals (by cases message <;> rfl) (by cases message <;> rfl),
      hstays.stranded.phase⟩
  · obtain ⟨hwrecked, hu⟩ := ho
    obtain ⟨log, hstranded⟩ := hwrecked.stranded
    exact ⟨hu.touched hw hstranded.noPortals (by cases message <;> rfl) (by cases message <;> rfl), hstranded.phase⟩

end Touched

/-! ### Owners -/

/-- The owner of a key after a message that created an object for the wire name `created`. -/
def ownerAfter (held : String → Bool) (created : Option (Option String)) (owner : String → Option (Option String))
    (k : String) : Option (Option String) :=
  if held k = true then (created.filter fun a => key a = k).or (owner k) else none

section OwnerAfter

variable {held held' : String → Bool} {created : Option (Option String)} {owner : String → Option (Option String)}

theorem key_of_ownerAfter (howner : ∀ k a, owner k = some a → key a = k) (k : String) (a : Option String)
    (ha : ownerAfter held created owner k = some a) : key a = k := by
  unfold ownerAfter at ha
  split at ha
  · rcases Option.or_eq_some_iff.mp ha with hcreated | ⟨-, hold⟩
    · obtain ⟨-, hkey⟩ := Option.filter_eq_some_iff.mp hcreated
      simpa using hkey
    · exact howner k a hold
  · cases ha

/-- Whatever is held afterwards has an owner, if it had one before or is new. -/
theorem isSome_ownerAfter (hold : ∀ k, held' k = true → (owner k).isSome = true ∨ ∃ a, created = some a ∧ key a = k)
    (k : String) : (ownerAfter held' created owner k).isSome = held' k := by
  unfold ownerAfter
  by_cases hk : held' k = true
  · rw [if_pos hk, hk]
    rcases hold k hk with hsome | ⟨a, ha, hkey⟩
    · simp [hsome]
    · simp [ha, hkey]
  · rw [if_neg hk]
    simpa using hk

end OwnerAfter

/-- Ghost: the wire name under which the object of each key was created. -/
structure Owners where
  statements : String → Option (Option String)
  portals : String → Option (Option String)

namespace Owners

/-- Nothing was created yet. -/
def nobody : Owners := ⟨fun _ => none, fun _ => none⟩

/-- The owners in `w'`, after a message whose handler returned `o`. -/
def after (owners : Owners) (message : PgWireFrontendMessage) (o : Outcome PgWireError Unit) (w' : WireWorld) :
    Owners where
  statements :=
    ownerAfter (fun k => (w'.st.store.statements.lookup k).isSome) (message.createdStatement o) owners.statements
  portals := ownerAfter (fun k => (w'.st.store.portals.lookup k).isSome) (message.createdPortal o) owners.portals

/-- The owners are those of what is stored. -/
structure Sound (owners : Owners) (c : Conn) : Prop where
  statementKey : ∀ k a, owners.statements k = some a → key a = k
  statementHeld : ∀ k, (owners.statements k).isSome = (c.store.statements.lookup k).isSome
  portalKey : ∀ k a, owners.portals k = some a → key a = k
  portalHeld : ∀ k, (owners.portals k).isSome = (c.store.portals.lookup k).isSome

/-- **A message keeps the owners sound**. -/
theorem Sound.after {owners : Owners} {message : PgWireFrontendMessage} {o : Outcome PgWireError Unit} {w w' : WireWorld}
    (hs : owners.Sound w.st) (ht : Touched message w o w') : (owners.after message o w').Sound w'.st := by
  refine ⟨key_of_ownerAfter hs.statementKey, isSome_ownerAfter fun k hk => ?_, key_of_ownerAfter hs.portalKey,
    isSome_ownerAfter fun k hk => ?_⟩
  · rw [hs.statementHeld]
    rcases hcreated : message.createdStatement o with _ | a
    · left
      rcases ht.statementsShrink hcreated k with hsame | hvacant
      · rwa [← show w'.st.store.statements.lookup k = w.st.store.statements.lookup k from congrArg Prod.snd hsame]
      · rw [show w'.st.store.statements.lookup k = none from congrArg Prod.snd hvacant] at hk
        cases hk
    · rcases ht.statements k with hsame | ⟨b, hb, hkey⟩
      · left
        rwa [← hsame.2]
      · rw [message.statementName_of_created hcreated] at hb
        exact .inr ⟨b, hb, hkey⟩
  · rw [hs.portalHeld]
    rcases hcreated : message.createdPortal o with _ | a
    · left
      rcases ht.portalsShrink hcreated k with hsame | hvacant
      · rwa [← show w'.st.store.portals.lookup k = w.st.store.portals.lookup k from congrArg Prod.snd hsame]
      · rw [show w'.st.store.portals.lookup k = none from congrArg Prod.snd hvacant] at hk
        cases hk
    · rcases ht.portals k with hsame | ⟨b, hb, hkey⟩ | hclose
      · left
        rwa [← hsame.2]
      · rw [message.portalName_of_created hcreated] at hb
        exact .inr ⟨b, hb, hkey⟩
      · exact absurd hclose (MayClose.not_of_created hcreated)

end Owners

section Turn

variable {K : Crypto} {h : PyServerHandlers} {w w1 w' : WireWorld} {message : PgWireFrontendMessage}
  {o : Outcome PgWireError Unit}

/-- What happened before the handler was called does not matter to the maps. -/
theorem Touched.earlier (ht : Touched message w1 o w') (hr : w1.st.resources = w.st.resources)
    (hs : w1.st.store = w.st.store) (hlog : w.log <+: w1.log) : Touched message w o w' := by
  have hstatement : ∀ {n : String}, SameStatement w1.st w'.st n → SameStatement w.st w'.st n := by
    intro n hn
    rwa [SameStatement, hr, hs] at hn
  have hportal : ∀ {n : String}, SamePortal w1.st w'.st n → SamePortal w.st w'.st n := by
    intro n hn
    rwa [SamePortal, hr, hs] at hn
  have hclose : ∀ {n : String}, MayClose message w1 w' n → MayClose message w w' n := by
    rintro n (⟨a, ha, hn⟩ | ⟨hm, hidle⟩ | ⟨hm, hend⟩)
    · rw [BoundOn, hr] at hn
      exact .bound a ha hn
    · exact .idle hm hidle
    · exact .transactionEnd hm (hend.earlier hlog)
  refine ⟨fun n => (ht.statements n).imp_left hstatement,
    fun n => (ht.portals n).imp hportal fun hn => hn.imp_right hclose, fun hno n => ?_, fun hno n => ?_, fun a ha => ?_,
    fun a b ha hb => ?_⟩
  · have hn := ht.statementsShrink hno n
    simp only [Kind.statements, hr, hs] at hn
    exact hn
  · have hn := ht.portalsShrink hno n
    simp only [Kind.portals, hr, hs] at hn
    exact hn
  · obtain ⟨entry, hentry, hnew⟩ := ht.parsed a ha
    exact ⟨entry, hentry, fun st hst => Nat.le_trans hlog.length_le (hnew st hst)⟩
  · obtain ⟨e, he, hname, hnew⟩ := ht.bound a b ha hb
    exact ⟨e, he, hname, fun x hx => Nat.le_trans hlog.length_le (hnew x hx)⟩

theorem processMessage_touched (hq : Quiescent h w) (hready : w.st.state.isStartup = false) (hwired : h.Wired)
    (message : PgWireFrontendMessage) :
    Prog.Sat (fun _ _ => True) (h.processMessage K message) w
      (fun o w' => Touched message w o w' ∧ w'.st.state.isStartup = false) := by
  simp only [PyServerHandlers.processMessage, Prog.sat_bind, Prog.sat_get, Prog.after_ok, hready, Bool.false_eq_true,
    if_false, Prog.sat_await, Prog.sat_modify, true_and]
  intro turn
  have hd : Departed h.extendedQuery ⟨{ w.st with state := turn.1.1, transactionStatus := turn.2 }, _⟩ :=
    ((hq.departed hready).quiet (c := .turn) (r := turn) (quiet_of_plain rfl)).congr rfl rfl rfl rfl turn.1.2
  rcases hd with ⟨s, hl⟩ | hw
  · have hmessage := (PyServerHandlers.onMessage_sat hl hwired message).both
      (onMessage_touched hl hwired message).anywhere
    refine hmessage.anywhere.post ?_
    rintro o w' ⟨hlive, ht⟩
    refine ⟨ht.earlier rfl rfl (List.prefix_append _ _), ?_⟩
    rcases o with _ | e | _
    · exact Live.phase hlive
    · exact Live.phase hlive
    · exact hlive.elim
  · refine (onMessage_touched_stranded hw message).anywhere.post ?_
    rintro o w' ⟨ht, hphase⟩
    exact ⟨ht.earlier rfl rfl (List.prefix_append _ _), hphase⟩

/-- Nothing is stored. -/
def Conn.Bare (c : Conn) : Prop := ∀ n, c.store.statements.lookup n = none ∧ c.store.portals.lookup n = none

/-- **A message during startup** stores nothing. -/
theorem processMessage_startup (hstartup : w.st.state.isStartup = true) (message : PgWireFrontendMessage) :
    Prog.Sat (fun _ _ => True) (h.processMessage K message) w fun _ w' => w'.st.store = w.st.store := by
  simp only [PyServerHandlers.processMessage, Prog.sat_bind, Prog.sat_get, Prog.after_ok, hstartup, if_true]
  exact (onStartup_spares (K := K) h.startup message w).post fun o w' hspared => congrArg (·.2.2) hspared

theorem Owners.Sound.of_bare {owners : Owners} (hbare : w'.st.Bare) :
    (owners.after message o w').Sound w'.st := by
  have hstatement : ∀ k, (w'.st.store.statements.lookup k).isSome = false := fun k => by rw [(hbare k).1]; rfl
  have hportal : ∀ k, (w'.st.store.portals.lookup k).isSome = false := fun k => by rw [(hbare k).2]; rfl
  constructor <;> simp [Owners.after, ownerAfter, hstatement, hportal]

end Turn

/-! ### Runs -/

namespace PyServerHandlers

variable (K : Crypto) (h : PyServerHandlers) (env : WireEnv)

/-- The worlds between two messages of a connection whose messages all satisfy `C`, with the owners of what is
stored there. -/
inductive Named (C : Owners → PgWireFrontendMessage → Prop) : WireWorld → Owners → Prop where
  | accepted (secure : Bool) (host : String) : Named C (freshWorld secure host) .nobody
  | handled {w w' : WireWorld} {owners : Owners} (message : PgWireFrontendMessage) (hw : Named C w owners)
      (hC : C owners message) (hrun : (h.processMessage K message).run env (w.called .receive ()) = (.ok (), w')) :
      Named C w' (owners.after message (.ok ()) w')
  | failed {w w' : WireWorld} {owners : Owners} {e : PgWireError} (message : PgWireFrontendMessage)
      (hw : Named C w owners) (hC : C owners message)
      (hrun : (h.processMessage K message).run env (w.called .receive ()) = (.err e, w'))
      {w'' : WireWorld} (hgoes : (processError e).run env w' = (.ok false, w'')) :
      Named C w'' (owners.after message (.err e) w')

end PyServerHandlers

section Runs

variable {K : Crypto} {h : PyServerHandlers} {env : WireEnv} {C : Owners → PgWireFrontendMessage → Prop}
  {w w' : WireWorld} {owners : Owners} {message : PgWireFrontendMessage}

/-- The loop goes on after a message that was handled. -/
theorem processSocket_handled (hrun : (h.processMessage K message).run env (w.called .receive ()) = (.ok (), w'))
    (messages : List PgWireFrontendMessage) :
    (h.processSocket K (message :: messages)).run env w = (h.processSocket K messages).run env w' := by
  rw [PyServerHandlers.processSocket, Prog.run_bind, Prog.run_await, Prog.resume_ok, Prog.run_bind, Prog.run_attempt,
    show (h.processMessage K message).run env (w.called .receive (env w.log .receive)) = _ from hrun]
  rfl

/-- And after an error that does not end the connection. -/
theorem processSocket_failed {e : PgWireError} {w'' : WireWorld}
    (hrun : (h.processMessage K message).run env (w.called .receive ()) = (.err e, w'))
    (hgoes : (PyServerHandlers.processError e).run env w' = (.ok false, w'')) (messages : List PgWireFrontendMessage) :
    (h.processSocket K (message :: messages)).run env w = (h.processSocket K messages).run env w'' := by
  rw [PyServerHandlers.processSocket, Prog.run_bind, Prog.run_await, Prog.resume_ok, Prog.run_bind, Prog.run_attempt,
    show (h.processMessage K message).run env (w.called .receive (env w.log .receive)) = _ from hrun]
  simp only [Prog.resume_ok, Prog.run_bind, hgoes, Bool.false_eq_true, if_false]

/-- An error is reported, and the connection goes on in the state that pgwire says. -/
theorem processError_run (env : WireEnv) (w : WireWorld) (e : PgWireError) :
    (PyServerHandlers.processError e).run env w =
      (.ok (env w.log (.processError w.st.state e)).ends,
        (w.called (.processError w.st.state e) (env w.log (.processError w.st.state e))).modify
          (Conn.afterError (env w.log (.processError w.st.state e)))) := rfl

/-- These are the worlds of `process_socket`. -/
theorem PyServerHandlers.Named.socket (hn : h.Named K env C w owners) : ∃ secure host messages, ∀ rest,
    (h.processSocket K (messages ++ rest)).run env (freshWorld secure host) = (h.processSocket K rest).run env w := by
  induction hn with
  | accepted secure host => exact ⟨secure, host, [], fun rest => rfl⟩
  | handled message hw hC hrun ih =>
    obtain ⟨secure, host, messages, hsocket⟩ := ih
    refine ⟨secure, host, messages ++ [message], fun rest => ?_⟩
    rw [List.append_assoc, hsocket, List.singleton_append, processSocket_handled hrun]
  | failed message hw hC hrun hgoes ih =>
    obtain ⟨secure, host, messages, hsocket⟩ := ih
    refine ⟨secure, host, messages ++ [message], fun rest => ?_⟩
    rw [List.append_assoc, hsocket, List.singleton_append, processSocket_failed hrun hgoes]

/-- What holds between two messages beside the invariant. -/
structure NamedAt (h : PyServerHandlers) (w : WireWorld) (owners : Owners) : Prop where
  quiescent : Quiescent h w
  sound : owners.Sound w.st
  startup : w.st.state.isStartup = true → w.st.Bare

/-- **One message** keeps the owners sound. -/
theorem NamedAt.step (hn : NamedAt h w owners) (hwired : h.Wired) {o : Outcome PgWireError Unit}
    (hgoes : o ≠ .panic) (hrun : (h.processMessage K message).run env (w.called .receive ()) = (o, w')) :
    NamedAt h w' (owners.after message o w') := by
  have hq := hn.quiescent.quiet (c := .receive) (r := ()) rfl
  have hquiescent : Quiescent h w' := by
    have hmessage := (PyServerHandlers.processMessage_sat (K := K) hq hwired message).run env
    rw [hrun] at hmessage
    rcases o with _ | e | _
    · exact hmessage
    · exact hmessage
    · exact absurd rfl hgoes
  cases hphase : w.st.state.isStartup with
  | true =>
    have hstore := (processMessage_startup (K := K) (h := h) (w := w.called .receive ()) hphase message).run env
    rw [hrun] at hstore
    have hbare : w'.st.Bare := by
      intro n
      rw [show w'.st.store = w.st.store from hstore]
      exact hn.startup hphase n
    exact ⟨hquiescent, .of_bare hbare, fun _ => hbare⟩
  | false =>
    have hmessage := (processMessage_touched (K := K) hq hphase hwired message).run env
    rw [hrun] at hmessage
    have ht : Touched message w o w' := hmessage.1.earlier rfl rfl (List.prefix_append _ _)
    refine ⟨hquiescent, hn.sound.after ht, fun hstartup => ?_⟩
    rw [show w'.st.state.isStartup = false from hmessage.2] at hstartup
    cases hstartup

/-- The report of an error changes nothing that is stored. -/
theorem NamedAt.reported (hn : NamedAt h w owners) {e : PgWireError} {ends : Bool}
    (hrun : (PyServerHandlers.processError e).run env w = (.ok ends, w')) : NamedAt h w' owners := by
  have hquiescent := ((PyServerHandlers.processError_sat hn.quiescent e).run env).2
  rw [hrun] at hquiescent
  obtain ⟨-, rfl⟩ := Prod.mk.inj ((processError_run env w e).symm.trans hrun)
  refine ⟨hquiescent, ⟨hn.sound.statementKey, hn.sound.statementHeld, hn.sound.portalKey, hn.sound.portalHeld⟩,
    fun hstartup => hn.startup ?_⟩
  by_contra hphase
  rw [Bool.not_eq_true] at hphase
  have hready := Conn.isStartup_afterError hphase (env w.log (.processError w.st.state e))
  rw [World.modify_st, World.called_st, hready] at hstartup
  cases hstartup

theorem PyServerHandlers.Named.at (hn : h.Named K env C w owners) (hwired : h.Wired) : NamedAt h w owners := by
  induction hn with
  | accepted secure host => exact ⟨quiescent_freshWorld h secure host, ⟨by simp [Owners.nobody], fun _ => rfl,
      by simp [Owners.nobody], fun _ => rfl⟩, fun _ n => ⟨rfl, rfl⟩⟩
  | handled message hw hC hrun ih => exact ih.step hwired (by simp) hrun
  | failed message hw hC hrun hgoes ih => exact (ih.step hwired (by simp) hrun).reported hgoes

end Runs

/-! ### Isolation -/

/-- What the wire names promise of one message: it leaves the objects of other names alone, what it creates is new,
and it creates nothing under a name that is in use. -/
structure Isolated (owners : Owners) (message : PgWireFrontendMessage) (w : WireWorld) (o : Outcome PgWireError Unit)
    (w' : WireWorld) : Prop where
  statements : ∀ n b, owners.statements n = some b → message.statementName ≠ some b → SameStatement w.st w'.st n
  portals : ∀ n b, owners.portals n = some b → message.portalName ≠ some b →
    SamePortal w.st w'.st n ∨ MayClose message w w' n
  /-- A portal that goes with the statement `a` was bound from the statement that was created as `a`. -/
  closes : ∀ n a, message.statementName = some a → BoundOn w.st (key a) n → owners.statements (key a) = some a
  parsed : ∀ a, message.createdStatement o = some a → NewStatement (key a) w w'
  bound : ∀ a b, message.createdPortal o = some a → message.boundFrom = some b →
    NewPortal (key a) (key b) w w' ∧ owners.statements (key b) = some b
  duplicateStatement : ∀ p name, message = .parse p → p.name = some name →
    (∃ n, owners.statements n = some (some name)) →
      (∃ text, o = .err (userError "ERROR" "42P05" text)) ∧ w'.st.stores = w.st.stores
  duplicatePortal : ∀ p name, message = .bind p → p.portalName = some name →
    (∃ n, owners.portals n = some (some name)) →
      (∃ text, o = .err (userError "ERROR" "42P03" text)) ∧ w'.st.stores = w.st.stores

/-- A wire name that is kept under `defaultName`, where the object of the other such name is. -/
def Confused (owner : String → Option (Option String)) (a : Option String) : Prop :=
  a = none ∧ owner defaultName = some (some defaultName) ∨ a = some defaultName ∧ owner defaultName = some none

/-- A message does not confuse the unnamed objects with those of the name `defaultName`, and creates nothing under
that name if it is in use. -/
structure Owners.Clear (owners : Owners) (message : PgWireFrontendMessage) : Prop where
  statement : ∀ a, message.statementName = some a ∨ message.boundFrom = some a → ¬ Confused owners.statements a
  portal : ∀ a, message.portalName = some a → ¬ Confused owners.portals a
  parse : ∀ p, message = .parse p → p.name = some defaultName → owners.statements defaultName = none
  bind : ∀ p, message = .bind p → p.portalName = some defaultName → owners.portals defaultName = none

section Isolated

variable {K : Crypto} {h : PyServerHandlers} {env : WireEnv} {w w' : WireWorld} {owners : Owners}
  {message : PgWireFrontendMessage} {o : Outcome PgWireError Unit}

/-- **The marker is the only collision** of two keys. -/
theorem eq_of_key {owner : String → Option (Option String)} (howner : ∀ k a, owner k = some a → key a = k)
    {a b : Option String} (hclear : ¬ Confused owner a) (hb : owner (key a) = some b) : b = a := by
  have hkey : key b = key a := howner _ _ hb
  rcases a with _ | a <;> rcases b with _ | b
  · rfl
  · have hmarker : b = defaultName := hkey
    subst hmarker
    exact absurd (.inl ⟨rfl, hb⟩) hclear
  · have hmarker : a = defaultName := hkey.symm
    subst hmarker
    exact absurd (.inr ⟨rfl, hb⟩) hclear
  · exact congrArg some hkey

/-- A Parse under a name in use. -/
theorem onParse_duplicate (env : WireEnv) {x : PyExtendedHandler} {p : Parse} (hname : key p.name ≠ defaultName)
    (hused : (w.st.store.statements.lookup (key p.name)).isSome = true) :
    (x.onParse p).run env w =
      (.err (userError "ERROR" "42P05" ("prepared statement " ++ debugStr x.escapes (key p.name) ++ " already exists")), w) := by
  rw [PyExtendedHandler.onParse, Prog.run_bind, Prog.run_get, Prog.resume_ok]
  simp only [if_neg hname, if_pos hused]
  rfl

/-- A Bind under a name in use. -/
theorem onBind_duplicate (env : WireEnv) {x : PyExtendedHandler} {p : Bind} (hname : key p.portalName ≠ defaultName)
    (hused : (w.st.store.portals.lookup (key p.portalName)).isSome = true) :
    (x.onBind p).run env w =
      (.err (userError "ERROR" "42P03" ("portal " ++ debugStr x.escapes (key p.portalName) ++ " already exists")), w) := by
  rw [PyExtendedHandler.onBind, Prog.run_bind, Prog.run_get, Prog.resume_ok, if_pos ⟨hname, hused⟩]
  rfl

/-- The world in which a message after startup reaches its handler. -/
def WireWorld.atHandler (env : WireEnv) (w : WireWorld) : WireWorld :=
  let turn := env w.log .turn
  (w.called .turn turn).modify fun client => { client with state := turn.1.1, transactionStatus := turn.2 }

theorem processMessage_run (hready : w.st.state.isStartup = false) (message : PgWireFrontendMessage) :
    (h.processMessage K message).run env w = (h.onMessage message).run env (WireWorld.atHandler env w) := by
  rw [PyServerHandlers.processMessage, Prog.run_bind, Prog.run_get, Prog.resume_ok, hready]
  rfl

/-- What is stored has an owner. -/
theorem Owners.Sound.owned (hs : owners.Sound w.st) {a : Option String} (hclear : ¬ Confused owners.statements a)
    {st : Entry StoredStatement} (hst : w.st.store.statements.lookup (key a) = some st) :
    owners.statements (key a) = some a := by
  have hsome : (owners.statements (key a)).isSome = true := by rw [hs.statementHeld, hst]; rfl
  obtain ⟨b, hb⟩ := Option.isSome_iff_exists.mp hsome
  rw [hb, eq_of_key hs.statementKey hclear hb]

/-- A Parse cannot take a name that is in use. -/
theorem NamedAt.duplicateStatement (hn : NamedAt h w owners) (hready : w.st.state.isStartup = false) {p : Parse}
    (hclear : owners.Clear (.parse p)) {name : String} (hname : p.name = some name)
    (hused : ∃ n, owners.statements n = some (some name))
    (hrun : (h.processMessage K (.parse p)).run env (w.called .receive ()) = (o, w')) :
    (∃ text, o = .err (userError "ERROR" "42P05" text)) ∧ w'.st.stores = w.st.stores := by
  obtain ⟨n, hn'⟩ := hused
  have hkey : name = n := hn.sound.statementKey n _ hn'
  subst hkey
  have hp : key p.name = name := by rw [hname]; rfl
  have hmarker : name ≠ defaultName := by
    intro he
    rw [he] at hname hn'
    rw [hclear.parse p rfl hname] at hn'
    cases hn'
  have hstored : (w.st.store.statements.lookup (key p.name)).isSome = true := by
    rw [hp, ← hn.sound.statementHeld, hn']
    rfl
  rw [processMessage_run (w := w.called .receive ()) hready] at hrun
  have hreject := onParse_duplicate env (x := h.extendedQuery) (p := p)
    (w := WireWorld.atHandler env (w.called .receive ())) (by rw [hp]; exact hmarker) hstored
  rw [show (h.onMessage (.parse p)).run env _ = _ from hreject] at hrun
  cases hrun
  exact ⟨⟨_, rfl⟩, rfl⟩

/-- Nor can a Bind. -/
theorem NamedAt.duplicatePortal (hn : NamedAt h w owners) (hready : w.st.state.isStartup = false) {p : Bind}
    (hclear : owners.Clear (.bind p)) {name : String} (hname : p.portalName = some name)
    (hused : ∃ n, owners.portals n = some (some name))
    (hrun : (h.processMessage K (.bind p)).run env (w.called .receive ()) = (o, w')) :
    (∃ text, o = .err (userError "ERROR" "42P03" text)) ∧ w'.st.stores = w.st.stores := by
  obtain ⟨n, hn'⟩ := hused
  have hkey : name = n := hn.sound.portalKey n _ hn'
  subst hkey
  have hp : key p.portalName = name := by rw [hname]; rfl
  have hmarker : name ≠ defaultName := by
    intro he
    rw [he] at hname hn'
    rw [hclear.bind p rfl hname] at hn'
    cases hn'
  have hstored : (w.st.store.portals.lookup (key p.portalName)).isSome = true := by
    rw [hp, ← hn.sound.portalHeld, hn']
    rfl
  rw [processMessage_run (w := w.called .receive ()) hready] at hrun
  have hreject := onBind_duplicate env (x := h.extendedQuery) (p := p)
    (w := WireWorld.atHandler env (w.called .receive ())) (by rw [hp]; exact hmarker) hstored
  rw [show (h.onMessage (.bind p)).run env _ = _ from hreject] at hrun
  cases hrun
  exact ⟨⟨_, rfl⟩, rfl⟩

/-- **One message after startup** keeps to its names. -/
theorem NamedAt.isolated (hn : NamedAt h w owners) (hready : w.st.state.isStartup = false) (hwired : h.Wired)
    (hclear : owners.Clear message) (hrun : (h.processMessage K message).run env (w.called .receive ()) = (o, w')) :
    Isolated owners message w o w' := by
  have hq := hn.quiescent.quiet (c := .receive) (r := ()) rfl
  have hmessage := (processMessage_touched (K := K) hq hready hwired message).run env
  rw [hrun] at hmessage
  have ht : Touched message w o w' := hmessage.1.earlier rfl rfl (List.prefix_append _ _)
  have hafter : o ≠ .panic → NamedAt h w' (owners.after message o w') := fun hgoes => hn.step hwired hgoes hrun
  refine ⟨fun n b hb hne => ?_, fun n b hb hne => ?_, fun n a ha hbound => ?_, ht.parsed,
    fun a b ha hb => ⟨ht.bound a b ha hb, ?_⟩, ?_, ?_⟩
  · rcases ht.statements n with hsame | ⟨a, ha, rfl⟩
    · exact hsame
    · rw [eq_of_key hn.sound.statementKey (hclear.statement a (.inl ha)) hb] at hne
      exact absurd ha hne
  · rcases ht.portals n with hsame | ⟨a, ha, rfl⟩ | hclose
    · exact .inl hsame
    · rw [eq_of_key hn.sound.portalKey (hclear.portal a ha) hb] at hne
      exact absurd ha hne
    · exact .inr hclose
  · obtain ⟨e, he, hname⟩ := hbound
    obtain ⟨st, hst, -⟩ := hn.quiescent.inv.referential he
    rw [hname] at hst
    exact hn.sound.owned (hclear.statement a (.inl ha)) hst
  · -- the statement of the new portal is stored afterwards, and a Bind stores none
    obtain ⟨e, he, hname, -⟩ := ht.bound a b ha hb
    have hgoes : o ≠ .panic := by
      rintro rfl
      rw [message.createdPortal_panic] at ha
      cases ha
    obtain ⟨st, hst, -⟩ := (hafter hgoes).quiescent.inv.referential he
    rw [hname] at hst
    have hsame : SameStatement w.st w'.st (key b) := by
      rcases ht.statements (key b) with hsame | ⟨c, hc, -⟩
      · exact hsame
      · rw [message.statementName_of_boundFrom hb] at hc
        cases hc
    rw [hsame.2] at hst
    exact hn.sound.owned (hclear.statement b (.inr hb)) hst
  · rintro p name rfl hname hused
    exact hn.duplicateStatement hready hclear hname hused hrun
  · rintro p name rfl hname hused
    exact hn.duplicatePortal hready hclear hname hused hrun

end Isolated

/-- **Main result**: while no message confuses the unnamed objects with those of the name `defaultName`, every message
keeps to its names. -/
theorem PyServerHandlers.wire_names_isolated (K : Crypto) {configureCertificate : Bytes → Except PgWireError Unit}
    {config : HandlerConfig} {h : PyServerHandlers} (hb : config.build configureCertificate = .ok h) {env : WireEnv}
    {w w' : WireWorld} {owners : Owners} (hn : h.Named K env Owners.Clear w owners)
    (hready : w.st.state.isStartup = false) {message : PgWireFrontendMessage} (hclear : owners.Clear message)
    {o : Outcome PgWireError Unit} (hrun : (h.processMessage K message).run env (w.called .receive ()) = (o, w')) :
    Isolated owners message w o w' :=
  (hn.at (HandlerConfig.wired hb)).isolated hready (HandlerConfig.wired hb) hclear hrun

/-! ### A client that names the marker -/

/-- The world after `message` on a server that trusts its clients, when the callbacks all succeed. -/
def trusted (w : WireWorld) (message : PgWireFrontendMessage) : WireWorld :=
  (((trusting false).processMessage default message).run agreeable (w.called .receive ())).2

/-- A trusted client, and the one that has parsed an unnamed statement. -/
def trustedReady : WireWorld := trusted (freshWorld false "127.0.0.1") (.startup ⟨[("user", "alice")]⟩)
def trustedParsed : WireWorld := trusted trustedReady (.parse ⟨none, "SELECT 1", []⟩)

theorem trustedParsed_named {C : Owners → PgWireFrontendMessage → Prop}
    (hstartup : C .nobody (.startup ⟨[("user", "alice")]⟩)) (hparse : ∀ owners : Owners,
      owners.statements defaultName = none → C owners (.parse ⟨none, "SELECT 1", []⟩)) :
    ∃ owners : Owners, (trusting false).Named default agreeable C trustedParsed owners ∧
      owners.statements defaultName = some none := by
  have hready : (trusting false).Named default agreeable C trustedReady
      (Owners.nobody.after (.startup ⟨[("user", "alice")]⟩) (.ok ()) trustedReady) :=
    .handled _ (.accepted false "127.0.0.1") hstartup rfl
  have hparsed : (trusting false).Named default agreeable C trustedParsed _ :=
    .handled (.parse ⟨none, "SELECT 1", []⟩) hready (hparse _ rfl) rfl
  exact ⟨_, hparsed, rfl⟩

/-- A client parses a named statement next to the unnamed one. -/
theorem wire_names_isolated_parse : ∃ owners : Owners, owners.statements defaultName = some none ∧
    Isolated owners (.parse ⟨some "s", "SELECT 2", []⟩) trustedParsed (.ok ())
      (trusted trustedParsed (.parse ⟨some "s", "SELECT 2", []⟩)) := by
  obtain ⟨owners, hn, howner⟩ := trustedParsed_named (C := Owners.Clear)
    ⟨by simp [PgWireFrontendMessage.statementName, PgWireFrontendMessage.boundFrom],
      by simp [PgWireFrontendMessage.portalName], by simp, by simp⟩
    fun owners hnone => ⟨by simp [Confused, hnone, PgWireFrontendMessage.boundFrom],
      by simp [PgWireFrontendMessage.portalName], fun _ _ _ => hnone, by simp⟩
  refine ⟨owners, howner, PyServerHandlers.wire_names_isolated default (trusting_build false) hn rfl ?_ rfl⟩
  refine ⟨?_, by simp [PgWireFrontendMessage.portalName], ?_, by simp⟩
  · rintro a (ha | hno)
    · have hs : some "s" = a := Option.some.inj ha
      subst hs
      simp [Confused, defaultName]
    · cases hno
  · rintro p ⟨⟩ hname
    simp [defaultName] at hname

/-- **A client that sends the marker** replaces the unnamed statement. -/
theorem wire_names_alias : ¬ ∀ (w w' : WireWorld) (owners : Owners) (message : PgWireFrontendMessage)
    (o : Outcome PgWireError Unit), (trusting false).Named default agreeable (fun _ _ => True) w owners →
      w.st.state.isStartup = false →
      ((trusting false).processMessage default message).run agreeable (w.called .receive ()) = (o, w') →
        Isolated owners message w o w' := by
  intro hall
  obtain ⟨owners, hn, howner⟩ := trustedParsed_named (C := fun _ _ => True) trivial fun _ _ => trivial
  have hisolated := hall trustedParsed (trusted trustedParsed (.parse ⟨some defaultName, "SELECT 2", []⟩)) owners
    (.parse ⟨some defaultName, "SELECT 2", []⟩) (.ok ()) hn rfl rfl
  have hsame := hisolated.statements defaultName none howner (by simp [PgWireFrontendMessage.statementName])
  have hstored : (some (.value ⟨defaultName, 16, []⟩) : Option (Entry StoredStatement)) =
      some (.value ⟨defaultName, 9, []⟩) := hsame.2
  cases hstored

end Pywire
