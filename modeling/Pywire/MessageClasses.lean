import Pywire.Messages

/-!
# MessageClasses: six classes and the layouts of their messages

`Query`, `CommandComplete`, `ErrorResponse`, `Startup`, `RowDescription` and `DataRow` take any texts, tags, numbers
and lists, and a frame of the protocol carries fewer: its texts end at the first NUL, its lists at the first zero byte,
its counts are signed numbers, its length has a limit, and a startup packet has a version.

* `message_classes_faithful_iff`: **Main result** — for each class, the values that are decoded from what they are
  encoded as, and which of the bytes it decodes are encoded again as what they were.
* `message_classes_unfaithful`: a `Query` with a NUL in its text is not decoded as it was.
-/

namespace Pywire.Messages

open Text (utf8)
open Wire (Codec Body)

/-! ### Texts -/

theorem zero_mem_utf8 {s : Str} : 0 ∈ utf8 s ↔ '\x00' ∈ s := by
  have hcount := Text.count_utf8 (d := '\x00') (by decide) s
  rw [← List.count_pos_iff, ← List.count_pos_iff, ← hcount]
  rfl

def IsUtf8 (b : Bytes) : Prop := ∃ s, b = utf8 s

theorem cstring_valid_utf8 {s : Str} : Codec.cstring.Valid (utf8 s) ↔ '\x00' ∉ s := by
  rw [Codec.cstring_valid, zero_mem_utf8]

theorem utf8_eq_nil {s : Str} : utf8 s = [] ↔ s = [] :=
  ⟨fun h => Text.utf8_injective (h.trans Text.utf8_nil.symm), fun h => by rw [h, Text.utf8_nil]⟩

/-- What pgwire reads off a text that ends at its NUL has none either. -/
theorem TextDecoder.cstring_valid (text : TextDecoder) {b : Bytes} {s : Str} (h : text.decode b = some s)
    (hb : Codec.cstring.Valid b) : Codec.cstring.Valid (utf8 s) :=
  cstring_valid_utf8.mpr fun hs => Codec.cstring_valid.mp hb (text.nul_mem h hs)

/-! ### Layouts with one text -/

/-- A message that is one text. -/
def textLayout {Pg : Type} (text : TextDecoder) (tag : UInt8) (get : Pg → Str) (mk : Str → Pg) : Layout Pg where
  Raw := Bytes
  tag := [tag]
  body := Codec.cstring.whole
  raw msg := utf8 (get msg)
  ofRaw r := (text.decode r).map mk

section

variable {Pg : Type} (text : TextDecoder) (tag : UInt8) {get : Pg → Str} {mk : Str → Pg}

theorem textLayout_ofRaw_raw (hmk : ∀ msg, mk (get msg) = msg) (msg : Pg) :
    (textLayout text tag get mk).ofRaw ((textLayout text tag get mk).raw msg) = some msg := by
  show (text.decode (utf8 (get msg))).map mk = some msg
  rw [text.decode_utf8, Option.map_some, hmk]

theorem textLayout_lawful (hget : ∀ s, get (mk s) = s) (hmk : ∀ msg, mk (get msg) = msg) :
    (textLayout text tag get mk).Lawful where
  ofRaw_raw h := Option.some.inj (h.symm.trans (textLayout_ofRaw_raw text tag hmk _))
  valid_raw {r msg} hmsg hr := by
    obtain ⟨s, hs, rfl⟩ := Option.map_eq_some_iff.mp hmsg
    show Codec.cstring.Valid (utf8 (get (mk s)))
    rw [hget]
    exact text.cstring_valid hs hr

end

/-! ### Query and CommandComplete -/

structure PgQuery where
  query : Str

structure PgCommandComplete where
  tag : Str

structure PyQuery where
  query : Str

structure PyCommandComplete where
  tag : Str

def queryLayout (text : TextDecoder) : Layout PgQuery := textLayout text 81 PgQuery.query PgQuery.mk

def commandCompleteLayout (text : TextDecoder) : Layout PgCommandComplete :=
  textLayout text 67 PgCommandComplete.tag PgCommandComplete.mk

section

variable {text : TextDecoder} (display : PgWireError → String)

def PyQuery.encode (pg : PgMessage (queryLayout text)) (self : PyQuery) : Except PyErr Bytes :=
  encodeToPybytes display pg ⟨self.query⟩

def PyQuery.decode (pg : PgMessage (queryLayout text)) (data : Bytes) : Except PyErr PyQuery := do
  let q ← decodeFromSlice display pg data
  return ⟨q.query⟩

def PyCommandComplete.encode (pg : PgMessage (commandCompleteLayout text)) (self : PyCommandComplete) :
    Except PyErr Bytes :=
  encodeToPybytes display pg ⟨self.tag⟩

def PyCommandComplete.decode (pg : PgMessage (commandCompleteLayout text)) (data : Bytes) :
    Except PyErr PyCommandComplete := do
  let c ← decodeFromSlice display pg data
  return ⟨c.tag⟩

def PyQuery.binding (pg : PgMessage (queryLayout text)) :
    Binding display pg (PyQuery.encode display pg) (PyQuery.decode display pg) where
  toPg := ⟨fun m => ⟨m.query⟩, fun m => ⟨m.query⟩, fun _ => rfl, fun _ => rfl⟩
  encode_eq _ := rfl
  decode_eq data := bind_pure_comp _ (decodeFromSlice display pg data)

def PyCommandComplete.binding (pg : PgMessage (commandCompleteLayout text)) :
    Binding display pg (PyCommandComplete.encode display pg) (PyCommandComplete.decode display pg) where
  toPg := ⟨fun m => ⟨m.tag⟩, fun m => ⟨m.tag⟩, fun _ => rfl, fun _ => rfl⟩
  encode_eq _ := rfl
  decode_eq data := bind_pure_comp _ (decodeFromSlice display pg data)

end

/-! ### Lists of pieces -/

section

variable {α β : Type} {g : α → Option β} {xs : List α} {ys : List β}

/-- What holds of every piece holds of what is read off it. -/
theorem forall_of_mapM {P : α → Prop} {Q : β → Prop} (h : xs.mapM g = some ys)
    (hPQ : ∀ a b, g a = some b → P a → Q b) (hP : ∀ a ∈ xs, P a) : ∀ b ∈ ys, Q b := by
  induction xs generalizing ys with
  | nil =>
    obtain rfl := Option.some.inj h
    simp
  | cons a xs ih =>
    simp only [List.mapM_cons, Option.bind_eq_bind, Option.bind_eq_some_iff, Option.pure_def, Option.some.injEq] at h
    obtain ⟨b, hb, ys, hys, rfl⟩ := h
    obtain ⟨ha, hxs⟩ := List.forall_mem_cons.mp hP
    exact List.forall_mem_cons.mpr ⟨hPQ a b hb ha, ih hys hxs⟩

theorem length_of_mapM (h : xs.mapM g = some ys) : ys.length = xs.length := by
  induction xs generalizing ys with
  | nil =>
    obtain rfl := Option.some.inj h
    rfl
  | cons a xs ih =>
    simp only [List.mapM_cons, Option.bind_eq_bind, Option.bind_eq_some_iff, Option.pure_def, Option.some.injEq] at h
    obtain ⟨b, -, ys, hys, rfl⟩ := h
    rw [List.length_cons, List.length_cons, ih hys]

theorem mapM_map {f : β → α} (hf : ∀ b, g (f b) = some b) (ys : List β) : (ys.map f).mapM g = some ys := by
  induction ys with
  | nil => rfl
  | cons b ys ih => simp [hf, ih]

theorem exists_map_eq_iff {f : β → α} : (∃ ys : List β, ys.map f = xs) ↔ ∀ a ∈ xs, ∃ b, f b = a := by
  have hrange := Set.range_list_map f
  exact Set.ext_iff.mp hrange xs

end

/-! ### ErrorResponse -/

structure PgErrorResponse where
  fields : List (UInt8 × Str)

structure PyErrorResponse where
  fields : List (UInt8 × Str)

def errorField : Codec (UInt8 × Bytes) := Codec.byte.pair .cstring

theorem errorField_write_ne (f : UInt8 × Bytes) : errorField.write f ≠ [] := List.cons_ne_nil _ _

def errorResponseLayout (text : TextDecoder) : Layout PgErrorResponse where
  Raw := List (UInt8 × Bytes)
  tag := [69]
  body := (errorField.terminated fun f _ => errorField_write_ne f).whole
  raw msg := msg.fields.map fun f => (f.1, utf8 f.2)
  ofRaw r := (r.mapM fun f => (text.decode f.2).map fun s => (f.1, s)).map PgErrorResponse.mk

/-- A field stands in the list if its tag is not the terminator and its text is a text. -/
theorem errorField_valid {f : UInt8 × Bytes} :
    errorField.Valid f ∧ errorField.Starts f ↔ f.1 ≠ 0 ∧ Codec.cstring.Valid f.2 := by
  have hvalid : errorField.Valid f ↔ Codec.cstring.Valid f.2 := ⟨And.right, fun h => ⟨trivial, h⟩⟩
  have hstarts : errorField.Starts f ↔ f.1 ≠ 0 := by
    refine (Codec.starts_pair (List.cons_ne_nil _ _)).trans ?_
    constructor
    · rintro ⟨c, b, hwrite, hc⟩ hzero
      exact hc ((List.cons.inj hwrite).1.symm.trans hzero)
    · exact fun h => ⟨f.1, [], rfl, h⟩
  rw [hvalid, hstarts, and_comm]

theorem errorResponseLayout_ofRaw_raw (text : TextDecoder) (msg : PgErrorResponse) :
    (errorResponseLayout text).ofRaw ((errorResponseLayout text).raw msg) = some msg := by
  show ((msg.fields.map fun f => (f.1, utf8 f.2)).mapM fun f => (text.decode f.2).map fun s => (f.1, s)).map
    PgErrorResponse.mk = some msg
  rw [mapM_map (fun f => by rw [text.decode_utf8]; rfl), Option.map_some]

theorem errorResponseLayout_lawful (text : TextDecoder) : (errorResponseLayout text).Lawful where
  ofRaw_raw h := Option.some.inj (h.symm.trans (errorResponseLayout_ofRaw_raw text _))
  valid_raw {r msg} hmsg hr := by
    obtain ⟨fields, hfields, rfl⟩ := Option.map_eq_some_iff.mp hmsg
    refine List.forall_mem_map.mpr (forall_of_mapM hfields (fun a b hab ha => ?_) hr)
    obtain ⟨s, hs, rfl⟩ := Option.map_eq_some_iff.mp hab
    obtain ⟨htag, htext⟩ := errorField_valid.mp ha
    exact errorField_valid.mpr ⟨htag, text.cstring_valid hs htext⟩

/-! ### Startup -/

def insertEntry (name value : Str) : List (Str × Str) → List (Str × Str)
  | [] => [(name, value)]
  | p :: ps =>
    if name < p.1 then (name, value) :: p :: ps
    else if name = p.1 then (name, value) :: ps
    else p :: insertEntry name value ps

theorem mem_insertEntry {name value : Str} {ps : List (Str × Str)} {q : Str × Str}
    (h : q ∈ insertEntry name value ps) : q = (name, value) ∨ q ∈ ps := by
  induction ps with
  | nil => exact .inl (List.mem_singleton.mp h)
  | cons p ps ih =>
    rw [insertEntry] at h
    split_ifs at h with hlt heq
    · exact (List.mem_cons.mp h).imp_right id
    · exact (List.mem_cons.mp h).imp_right (List.mem_cons_of_mem _)
    · rcases List.mem_cons.mp h with rfl | h
      · exact .inr (List.mem_cons_self ..)
      · exact (ih h).imp_right (List.mem_cons_of_mem _)

theorem sorted_insertEntry {name value : Str} {ps : List (Str × Str)} (h : ps.Pairwise fun p q => p.1 < q.1) :
    (insertEntry name value ps).Pairwise fun p q => p.1 < q.1 := by
  induction ps with
  | nil => exact List.pairwise_singleton _ _
  | cons p ps ih =>
    obtain ⟨hp, hps⟩ := List.pairwise_cons.mp h
    rw [insertEntry]
    split_ifs with hlt heq
    · refine List.pairwise_cons.mpr ⟨fun q hq => ?_, h⟩
      rcases List.mem_cons.mp hq with rfl | hq
      · exact hlt
      · exact hlt.trans (hp q hq)
    · subst heq
      exact List.pairwise_cons.mpr ⟨hp, hps⟩
    · refine List.pairwise_cons.mpr ⟨fun q hq => ?_, ih hps⟩
      rcases mem_insertEntry hq with rfl | hq
      · exact lt_of_le_of_ne (not_lt.mp hlt) (Ne.symm heq)
      · exact hp q hq

/-- A new greatest name goes to the end. -/
theorem insertEntry_of_lt {name value : Str} {ps : List (Str × Str)} (h : ∀ p ∈ ps, p.1 < name) :
    insertEntry name value ps = ps ++ [(name, value)] := by
  induction ps with
  | nil => rfl
  | cons p ps ih =>
    obtain ⟨hp, hps⟩ := List.forall_mem_cons.mp h
    rw [insertEntry, if_neg hp.asymm, if_neg hp.ne', ih hps, List.cons_append]

/-- `BTreeMap<String, String>`: the entries in the order of their names. -/
structure Parameters where
  entries : List (Str × Str)
  sorted : entries.Pairwise fun p q => p.1 < q.1

def Parameters.insert (ps : Parameters) (p : Str × Str) : Parameters :=
  ⟨insertEntry p.1 p.2 ps.entries, sorted_insertEntry ps.sorted⟩

/-- The map that holds the entries of a list, the last one for each name. -/
def Parameters.ofList (l : List (Str × Str)) : Parameters := l.foldl Parameters.insert ⟨[], .nil⟩

theorem Parameters.ext {ps qs : Parameters} (h : ps.entries = qs.entries) : ps = qs := by
  obtain ⟨_, _⟩ := ps
  obtain ⟨_, _⟩ := qs
  cases h
  rfl

theorem entries_foldl_insert {ps : Parameters} {l : List (Str × Str)}
    (h : (ps.entries ++ l).Pairwise fun p q => p.1 < q.1) :
    (l.foldl Parameters.insert ps).entries = ps.entries ++ l := by
  induction l generalizing ps with
  | nil => exact (List.append_nil _).symm
  | cons p l ih =>
    have hlt : ∀ q ∈ ps.entries, q.1 < p.1 := fun q hq =>
      (List.pairwise_append.mp h).2.2 q hq p (List.mem_cons_self ..)
    have hins : (ps.insert p).entries = ps.entries ++ [p] := insertEntry_of_lt hlt
    have happend : (ps.insert p).entries ++ l = ps.entries ++ p :: l := by
      rw [hins, List.append_assoc]
      rfl
    rw [List.foldl_cons, ih (by rw [happend]; exact h), happend]

/-- A map is made again of its entries. -/
theorem Parameters.ofList_entries (ps : Parameters) : Parameters.ofList ps.entries = ps := by
  have hnil : (⟨[], .nil⟩ : Parameters).entries ++ ps.entries = ps.entries := List.nil_append _
  refine Parameters.ext ?_
  rw [Parameters.ofList, entries_foldl_insert (by rw [hnil]; exact ps.sorted), hnil]

theorem mem_entries_foldl_insert {l : List (Str × Str)} {ps : Parameters} {q : Str × Str}
    (h : q ∈ (l.foldl Parameters.insert ps).entries) : q ∈ l ∨ q ∈ ps.entries := by
  induction l generalizing ps with
  | nil => exact .inr h
  | cons p l ih =>
    rcases ih h with hl | hins
    · exact .inl (List.mem_cons_of_mem _ hl)
    · rcases mem_insertEntry hins with rfl | hq
      · exact .inl (List.mem_cons_self ..)
      · exact .inr hq

/-- Every entry of the map is an entry of the list. -/
theorem Parameters.mem_of_mem_ofList {l : List (Str × Str)} {q : Str × Str} (h : q ∈ (Parameters.ofList l).entries) :
    q ∈ l :=
  (mem_entries_foldl_insert h).resolve_right List.not_mem_nil

structure PgStartup where
  protocolNumberMajor : UInt16
  protocolNumberMinor : UInt16
  parameters : Parameters

structure PyStartup where
  protocolNumberMajor : UInt16
  protocolNumberMinor : UInt16
  parameters : Parameters

def parameter : Codec (Bytes × Bytes) := Codec.cstring.pair .cstring

theorem cstring_write_ne (s : Bytes) : Codec.cstring.write s ≠ [] := by
  rw [Codec.cstring_write]
  exact List.append_ne_nil_of_right_ne_nil _ (List.cons_ne_nil _ _)

theorem parameter_write_ne (p : Bytes × Bytes) : parameter.write p ≠ [] :=
  List.append_ne_nil_of_left_ne_nil (cstring_write_ne p.1) _

def decodeParameter (text : TextDecoder) (p : Bytes × Bytes) : Option (Str × Str) := do
  return (← text.decode p.1, ← text.decode p.2)

def startupBody : Codec (UInt16 × UInt16 × List (Bytes × Bytes)) :=
  Codec.u16.pair (Codec.u16.pair (parameter.terminated fun p _ => parameter_write_ne p))

/-- Startup has no tag, and is read if its version is one of pgwire's. -/
def startupLayout (text : TextDecoder) (versions : UInt16 → UInt16 → Bool) : Layout PgStartup where
  Raw := UInt16 × UInt16 × List (Bytes × Bytes)
  tag := []
  body := startupBody.whole
  raw msg :=
    (msg.protocolNumberMajor, msg.protocolNumberMinor, msg.parameters.entries.map fun p => (utf8 p.1, utf8 p.2))
  ofRaw r :=
    if versions r.1 r.2.1 then (r.2.2.mapM (decodeParameter text)).map fun ps => ⟨r.1, r.2.1, .ofList ps⟩ else none

/-- A parameter stands in the list if its name is not empty. -/
theorem parameter_valid {p : Bytes × Bytes} :
    parameter.Valid p ∧ parameter.Starts p ↔
      p.1 ≠ [] ∧ Codec.cstring.Valid p.1 ∧ Codec.cstring.Valid p.2 := by
  have hvalid : parameter.Valid p ↔ Codec.cstring.Valid p.1 ∧ Codec.cstring.Valid p.2 := Iff.rfl
  have hstarts : parameter.Starts p ↔ Codec.cstring.Starts p.1 := Codec.starts_pair (cstring_write_ne p.1)
  rw [hvalid, hstarts]
  constructor
  · rintro ⟨⟨hname, hvalue⟩, c, b, hwrite, hc⟩
    refine ⟨fun hnil => ?_, hname, hvalue⟩
    rw [hnil, Codec.cstring_write] at hwrite
    exact hc (List.cons.inj hwrite).1.symm
  · rintro ⟨hne, hname, hvalue⟩
    obtain ⟨c, b, hcons⟩ := List.exists_cons_of_ne_nil hne
    refine ⟨⟨hname, hvalue⟩, c, b ++ [0], by rw [Codec.cstring_write, hcons, List.cons_append], ?_⟩
    rintro rfl
    exact Codec.cstring_valid.mp hname (hcons ▸ List.mem_cons_self ..)

theorem startupBody_valid {r : UInt16 × UInt16 × List (Bytes × Bytes)} :
    startupBody.Valid r ↔ ∀ p ∈ r.2.2, parameter.Valid p ∧ parameter.Starts p :=
  ⟨fun h => h.2.2, fun h => ⟨Codec.u16_valid _, Codec.u16_valid _, h⟩⟩

section

variable (text : TextDecoder) (versions : UInt16 → UInt16 → Bool)

theorem startupLayout_ofRaw_raw (msg : PgStartup) :
    (startupLayout text versions).ofRaw ((startupLayout text versions).raw msg) =
      if versions msg.protocolNumberMajor msg.protocolNumberMinor then some msg else none := by
  have hdecode : ∀ p : Str × Str, decodeParameter text (utf8 p.1, utf8 p.2) = some p := fun p => by
    simp [decodeParameter, text.decode_utf8]
  show (if versions msg.protocolNumberMajor msg.protocolNumberMinor then
    ((msg.parameters.entries.map fun p => (utf8 p.1, utf8 p.2)).mapM (decodeParameter text)).map _ else none) = _
  rw [mapM_map hdecode, Option.map_some, Parameters.ofList_entries]
  rfl

theorem startupLayout_lawful : (startupLayout text versions).Lawful where
  ofRaw_raw h := by
    rw [startupLayout_ofRaw_raw] at h
    split_ifs at h
    exact (Option.some.inj h).symm
  valid_raw {r msg} hmsg hr := by
    have hread : (r.2.2.mapM (decodeParameter text)).map (fun ps => PgStartup.mk r.1 r.2.1 (.ofList ps)) = some msg := by
      unfold startupLayout at hmsg
      dsimp only at hmsg
      split_ifs at hmsg
      exact hmsg
    obtain ⟨ps, hps, rfl⟩ := Option.map_eq_some_iff.mp hread
    have hall : ∀ p ∈ ps, parameter.Valid (utf8 p.1, utf8 p.2) ∧ parameter.Starts (utf8 p.1, utf8 p.2) := by
      refine forall_of_mapM hps (fun a b hab ha => ?_) (startupBody_valid.mp hr)
      simp only [decodeParameter, Option.bind_eq_bind, Option.bind_eq_some_iff, Option.pure_def,
        Option.some.injEq] at hab
      obtain ⟨name, hname, value, hvalue, rfl⟩ := hab
      obtain ⟨hne, hnameValid, hvalueValid⟩ := parameter_valid.mp ha
      refine parameter_valid.mpr ⟨fun hnil => ?_, text.cstring_valid hname hnameValid,
        text.cstring_valid hvalue hvalueValid⟩
      obtain rfl := utf8_eq_nil.mp hnil
      exact hne (text.eq_nil hname)
    exact startupBody_valid.mpr (List.forall_mem_map.mpr fun p hp => hall p (Parameters.mem_of_mem_ofList hp))

end

section

variable {text : TextDecoder} {versions : UInt16 → UInt16 → Bool} (display : PgWireError → String)

def PyErrorResponse.encode (pg : PgMessage (errorResponseLayout text)) (self : PyErrorResponse) :
    Except PyErr Bytes :=
  encodeToPybytes display pg ⟨self.fields⟩

def PyErrorResponse.decode (pg : PgMessage (errorResponseLayout text)) (data : Bytes) :
    Except PyErr PyErrorResponse := do
  let e ← decodeFromSlice display pg data
  return ⟨e.fields⟩

def PyStartup.encode (pg : PgMessage (startupLayout text versions)) (self : PyStartup) : Except PyErr Bytes :=
  encodeToPybytes display pg ⟨self.protocolNumberMajor, self.protocolNumberMinor, self.parameters⟩

def PyStartup.decode (pg : PgMessage (startupLayout text versions)) (data : Bytes) : Except PyErr PyStartup := do
  let s ← decodeFromSlice display pg data
  return ⟨s.protocolNumberMajor, s.protocolNumberMinor, s.parameters⟩

def PyErrorResponse.binding (pg : PgMessage (errorResponseLayout text)) :
    Binding display pg (PyErrorResponse.encode display pg) (PyErrorResponse.decode display pg) where
  toPg := ⟨fun m => ⟨m.fields⟩, fun m => ⟨m.fields⟩, fun _ => rfl, fun _ => rfl⟩
  encode_eq _ := rfl
  decode_eq data := bind_pure_comp _ (decodeFromSlice display pg data)

def PyStartup.binding (pg : PgMessage (startupLayout text versions)) :
    Binding display pg (PyStartup.encode display pg) (PyStartup.decode display pg) where
  toPg :=
    ⟨fun m => ⟨m.protocolNumberMajor, m.protocolNumberMinor, m.parameters⟩,
      fun m => ⟨m.protocolNumberMajor, m.protocolNumberMinor, m.parameters⟩, fun _ => rfl, fun _ => rfl⟩
  encode_eq _ := rfl
  decode_eq data := bind_pure_comp _ (decodeFromSlice display pg data)

end

/-! ### RowDescription -/

structure PgFieldDescription where
  name : Str
  tableId : Int32
  columnId : Int16
  typeId : UInt32
  typeSize : Int16
  typeModifier : Int32
  formatCode : Int16

structure PyFieldDescription where
  name : Str
  tableId : Int32
  columnId : Int16
  typeId : UInt32
  typeSize : Int16
  typeModifier : Int32
  formatCode : Int16

/-- `From<PyFieldDescription> for PgFieldDescription`. -/
def PyFieldDescription.into (f : PyFieldDescription) : PgFieldDescription :=
  ⟨f.name, f.tableId, f.columnId, f.typeId, f.typeSize, f.typeModifier, f.formatCode⟩

/-- `From<PgFieldDescription> for PyFieldDescription`. -/
def PgFieldDescription.into (f : PgFieldDescription) : PyFieldDescription where
  name := f.name
  tableId := f.tableId
  columnId := f.columnId
  typeId := f.typeId
  typeSize := f.typeSize
  typeModifier := f.typeModifier
  formatCode := f.formatCode

theorem PyFieldDescription.map_into (fields : List PyFieldDescription) :
    (fields.map PyFieldDescription.into).map PgFieldDescription.into = fields := by
  rw [List.map_map]
  exact List.map_id fields

theorem PgFieldDescription.map_into (fields : List PgFieldDescription) :
    (fields.map PgFieldDescription.into).map PyFieldDescription.into = fields := by
  rw [List.map_map]
  exact List.map_id fields

structure PgRowDescription where
  fields : List PgFieldDescription

structure PyRowDescription where
  fields : List PyFieldDescription

abbrev RawField := Bytes × Int32 × Int16 × UInt32 × Int16 × Int32 × Int16

def rowField : Codec RawField :=
  Codec.cstring.pair <| Codec.i32.pair <| Codec.i16.pair <| Codec.u32.pair <| Codec.i16.pair <|
    Codec.i32.pair .i16

theorem rowField_valid {f : RawField} : rowField.Valid f ↔ Codec.cstring.Valid f.1 :=
  ⟨And.left, fun h => ⟨h, Codec.i32_valid _, Codec.i16_valid _, Codec.u32_valid _, Codec.i16_valid _,
    Codec.i32_valid _, Codec.i16_valid _⟩⟩

def PgFieldDescription.raw (f : PgFieldDescription) : RawField :=
  (utf8 f.name, f.tableId, f.columnId, f.typeId, f.typeSize, f.typeModifier, f.formatCode)

def decodeRowField (text : TextDecoder) : RawField → Option PgFieldDescription
  | (name, tableId, columnId, typeId, typeSize, typeModifier, formatCode) =>
    (text.decode name).map fun name => ⟨name, tableId, columnId, typeId, typeSize, typeModifier, formatCode⟩

def rowDescriptionLayout (text : TextDecoder) : Layout PgRowDescription where
  Raw := List RawField
  tag := [84]
  body := rowField.counted.whole
  raw msg := msg.fields.map PgFieldDescription.raw
  ofRaw r := (r.mapM (decodeRowField text)).map PgRowDescription.mk

theorem rowDescriptionLayout_ofRaw_raw (text : TextDecoder) (msg : PgRowDescription) :
    (rowDescriptionLayout text).ofRaw ((rowDescriptionLayout text).raw msg) = some msg := by
  have hdecode : ∀ f : PgFieldDescription, decodeRowField text f.raw = some f := fun f => by
    simp [decodeRowField, PgFieldDescription.raw, text.decode_utf8]
  show ((msg.fields.map PgFieldDescription.raw).mapM (decodeRowField text)).map PgRowDescription.mk = some msg
  rw [mapM_map hdecode, Option.map_some]

theorem rowDescriptionLayout_lawful (text : TextDecoder) : (rowDescriptionLayout text).Lawful where
  ofRaw_raw h := Option.some.inj (h.symm.trans (rowDescriptionLayout_ofRaw_raw text _))
  valid_raw {r msg} hmsg hr := by
    obtain ⟨fields, hfields, rfl⟩ := Option.map_eq_some_iff.mp hmsg
    obtain ⟨hlen, hr⟩ := Codec.counted_valid.mp hr
    have hall : ∀ f ∈ fields, rowField.Valid f.raw := by
      refine forall_of_mapM hfields (fun a b hab ha => ?_) hr
      obtain ⟨s, hs, rfl⟩ := Option.map_eq_some_iff.mp hab
      exact rowField_valid.mpr (text.cstring_valid hs (rowField_valid.mp ha))
    refine Codec.counted_valid.mpr ⟨?_, List.forall_mem_map.mpr hall⟩
    show (fields.map PgFieldDescription.raw).length ≤ 32767
    rw [List.length_map, length_of_mapM hfields]
    exact hlen

/-! ### DataRow -/

structure PgDataRow where
  fieldCount : Int16
  data : Bytes

structure PyDataRow where
  fieldCount : Int16
  data : Bytes

def dataRowLayout : Layout PgDataRow where
  Raw := Int16 × Bytes
  tag := [68]
  body := Codec.i16.andThen .all
  raw msg := (msg.fieldCount, msg.data)
  ofRaw r := some ⟨r.1, r.2⟩

theorem dataRowLayout_lawful : dataRowLayout.Lawful where
  ofRaw_raw h := (Option.some.inj h).symm
  valid_raw _ _ := ⟨Codec.i16_valid _, trivial⟩

section

variable {text : TextDecoder} (display : PgWireError → String)

def PyRowDescription.encode (pg : PgMessage (rowDescriptionLayout text)) (self : PyRowDescription) :
    Except PyErr Bytes :=
  encodeToPybytes display pg ⟨self.fields.map PyFieldDescription.into⟩

def PyRowDescription.decode (pg : PgMessage (rowDescriptionLayout text)) (data : Bytes) :
    Except PyErr PyRowDescription := do
  let r ← decodeFromSlice display pg data
  return ⟨r.fields.map PgFieldDescription.into⟩

def PyDataRow.encode (pg : PgMessage dataRowLayout) (self : PyDataRow) : Except PyErr Bytes :=
  encodeToPybytes display pg ⟨self.fieldCount, self.data⟩

def PyDataRow.decode (pg : PgMessage dataRowLayout) (data : Bytes) : Except PyErr PyDataRow := do
  let d ← decodeFromSlice display pg data
  return ⟨d.fieldCount, d.data⟩

def PyRowDescription.binding (pg : PgMessage (rowDescriptionLayout text)) :
    Binding display pg (PyRowDescription.encode display pg) (PyRowDescription.decode display pg) where
  toPg :=
    ⟨fun m => ⟨m.fields.map PyFieldDescription.into⟩, fun m => ⟨m.fields.map PgFieldDescription.into⟩,
      fun m => congrArg PyRowDescription.mk (PyFieldDescription.map_into m.fields),
      fun m => congrArg PgRowDescription.mk (PgFieldDescription.map_into m.fields)⟩
  encode_eq _ := rfl
  decode_eq data := bind_pure_comp _ (decodeFromSlice display pg data)

def PyDataRow.binding (pg : PgMessage dataRowLayout) :
    Binding display pg (PyDataRow.encode display pg) (PyDataRow.decode display pg) where
  toPg := ⟨fun m => ⟨m.fieldCount, m.data⟩, fun m => ⟨m.fieldCount, m.data⟩, fun _ => rfl, fun _ => rfl⟩
  encode_eq _ := rfl
  decode_eq data := bind_pure_comp _ (decodeFromSlice display pg data)

end

/-! ### What a frame carries, class by class -/

/-- The frame of the message is within the limit of its type. -/
def PgMessage.Fits {Pg : Type} {L : Layout Pg} (pg : PgMessage L) (msg : Pg) : Prop := L.length (L.raw msg) ≤ pg.limit

section

variable {text : TextDecoder} {versions : UInt16 → UInt16 → Bool}

def PyQuery.Carried (pg : PgMessage (queryLayout text)) (m : PyQuery) : Prop := '\x00' ∉ m.query ∧ pg.Fits ⟨m.query⟩

def PyCommandComplete.Carried (pg : PgMessage (commandCompleteLayout text)) (m : PyCommandComplete) : Prop :=
  '\x00' ∉ m.tag ∧ pg.Fits ⟨m.tag⟩

/-- No field has the terminator for its tag. -/
def PyErrorResponse.Carried (pg : PgMessage (errorResponseLayout text)) (m : PyErrorResponse) : Prop :=
  (∀ f ∈ m.fields, f.1 ≠ 0 ∧ '\x00' ∉ f.2) ∧ pg.Fits ⟨m.fields⟩

/-- No parameter has the empty name, and the version is one of pgwire's. -/
def PyStartup.Carried (pg : PgMessage (startupLayout text versions)) (m : PyStartup) : Prop :=
  (∀ p ∈ m.parameters.entries, p.1 ≠ [] ∧ '\x00' ∉ p.1 ∧ '\x00' ∉ p.2) ∧
    pg.Fits ⟨m.protocolNumberMajor, m.protocolNumberMinor, m.parameters⟩ ∧
    versions m.protocolNumberMajor m.protocolNumberMinor

def PyRowDescription.Carried (pg : PgMessage (rowDescriptionLayout text)) (m : PyRowDescription) : Prop :=
  (m.fields.length ≤ 32767 ∧ ∀ f ∈ m.fields, '\x00' ∉ f.name) ∧ pg.Fits ⟨m.fields.map PyFieldDescription.into⟩

def PyDataRow.Carried (pg : PgMessage dataRowLayout) (m : PyDataRow) : Prop := pg.Fits ⟨m.fieldCount, m.data⟩

end

/-- The parameters are texts, in the order of their names. -/
def CanonicalStartup (r : UInt16 × UInt16 × List (Bytes × Bytes)) : Prop :=
  ∃ ps : List (Str × Str), ps.Pairwise (fun p q => p.1 < q.1) ∧ r.2.2 = ps.map fun p => (utf8 p.1, utf8 p.2)

/-- What is always read off its frame is carried if a body has room for it and the frame is within the limit. -/
theorem carried_iff {Pg : Type} {L : Layout Pg} {pg : PgMessage L} {msg : Pg}
    (hread : L.ofRaw (L.raw msg) = some msg) {P : Prop} (hvalid : L.body.Valid (L.raw msg) ↔ P) :
    (L.body.Valid (L.raw msg) ∧ L.length (L.raw msg) ≤ pg.limit ∧ (L.ofRaw (L.raw msg)).isSome) ↔
      P ∧ pg.Fits msg := by
  rw [hread, hvalid]
  exact and_congr_right' (and_iff_left rfl)

section

variable {text : TextDecoder} {versions : UInt16 → UInt16 → Bool} (display : PgWireError → String)

theorem PyQuery.faithfulExactly (pg : PgMessage (queryLayout text)) :
    FaithfulExactly pg (PyQuery.encode display pg) (PyQuery.decode display pg) (PyQuery.Carried pg) IsUtf8 := by
  refine (PyQuery.binding display pg).faithfulExactly (textLayout_lawful text 81 (fun _ => rfl) fun _ => rfl)
    (fun m => carried_iff (textLayout_ofRaw_raw text 81 (fun _ => rfl) _) cstring_valid_utf8) fun r => ?_
  exact ⟨fun ⟨msg, h⟩ => ⟨msg.query, h.symm⟩, fun ⟨s, h⟩ => ⟨⟨s⟩, h.symm⟩⟩

theorem PyCommandComplete.faithfulExactly (pg : PgMessage (commandCompleteLayout text)) :
    FaithfulExactly pg (PyCommandComplete.encode display pg) (PyCommandComplete.decode display pg)
      (PyCommandComplete.Carried pg) IsUtf8 := by
  refine (PyCommandComplete.binding display pg).faithfulExactly (textLayout_lawful text 67 (fun _ => rfl) fun _ => rfl)
    (fun m => carried_iff (textLayout_ofRaw_raw text 67 (fun _ => rfl) _) cstring_valid_utf8) fun r => ?_
  exact ⟨fun ⟨msg, h⟩ => ⟨msg.tag, h.symm⟩, fun ⟨s, h⟩ => ⟨⟨s⟩, h.symm⟩⟩

theorem PyErrorResponse.faithfulExactly (pg : PgMessage (errorResponseLayout text)) :
    FaithfulExactly pg (PyErrorResponse.encode display pg) (PyErrorResponse.decode display pg)
      (PyErrorResponse.Carried pg) (fun r : List (UInt8 × Bytes) => ∀ f ∈ r, IsUtf8 f.2) := by
  refine (PyErrorResponse.binding display pg).faithfulExactly (errorResponseLayout_lawful text)
    (fun m => carried_iff (errorResponseLayout_ofRaw_raw text _) ?_) fun r => ?_
  · refine List.forall_mem_map.trans (forall₂_congr fun f _ => ?_)
    exact errorField_valid.trans (and_congr_right' cstring_valid_utf8)
  · have hfields : (∃ msg : PgErrorResponse, (errorResponseLayout text).raw msg = r) ↔
        ∃ fields : List (UInt8 × Str), (fields.map fun f => (f.1, utf8 f.2)) = r :=
      ⟨fun ⟨msg, h⟩ => ⟨msg.fields, h⟩, fun ⟨fields, h⟩ => ⟨⟨fields⟩, h⟩⟩
    refine hfields.trans (exists_map_eq_iff.trans (forall₂_congr fun f _ => ⟨?_, ?_⟩))
    · rintro ⟨p, rfl⟩
      exact ⟨p.2, rfl⟩
    · rintro ⟨s, hs⟩
      exact ⟨(f.1, s), by rw [← hs]⟩

theorem PyStartup.faithfulExactly (pg : PgMessage (startupLayout text versions)) :
    FaithfulExactly pg (PyStartup.encode display pg) (PyStartup.decode display pg) (PyStartup.Carried pg)
      CanonicalStartup := by
  refine (PyStartup.binding display pg).faithfulExactly (startupLayout_lawful text versions)
    (fun m => and_congr ?_ (and_congr_right' ?_)) fun r => ⟨?_, ?_⟩
  · refine startupBody_valid.trans (List.forall_mem_map.trans (forall₂_congr fun p _ => ?_))
    exact parameter_valid.trans (and_congr utf8_eq_nil.not (and_congr cstring_valid_utf8 cstring_valid_utf8))
  · rw [startupLayout_ofRaw_raw]
    exact Option.isSome_ite
  · rintro ⟨msg, rfl⟩
    exact ⟨msg.parameters.entries, msg.parameters.sorted, rfl⟩
  · rintro ⟨ps, hsorted, hps⟩
    exact ⟨⟨r.1, r.2.1, ps, hsorted⟩, Prod.ext rfl (Prod.ext rfl hps.symm)⟩

theorem PyRowDescription.faithfulExactly (pg : PgMessage (rowDescriptionLayout text)) :
    FaithfulExactly pg (PyRowDescription.encode display pg) (PyRowDescription.decode display pg)
      (PyRowDescription.Carried pg) (fun r : List RawField => ∀ f ∈ r, IsUtf8 f.1) := by
  refine (PyRowDescription.binding display pg).faithfulExactly (rowDescriptionLayout_lawful text)
    (fun m => carried_iff (rowDescriptionLayout_ofRaw_raw text _) ?_) fun r => ?_
  · refine Codec.counted_valid.trans (and_congr ?_ ?_)
    · show ((m.fields.map PyFieldDescription.into).map PgFieldDescription.raw).length ≤ 32767 ↔ _
      rw [List.length_map, List.length_map]
    · refine List.forall_mem_map.trans (List.forall_mem_map.trans (forall₂_congr fun f _ => ?_))
      exact rowField_valid.trans cstring_valid_utf8
  · have hfields : (∃ msg : PgRowDescription, (rowDescriptionLayout text).raw msg = r) ↔
        ∃ fields : List PgFieldDescription, fields.map PgFieldDescription.raw = r :=
      ⟨fun ⟨msg, h⟩ => ⟨msg.fields, h⟩, fun ⟨fields, h⟩ => ⟨⟨fields⟩, h⟩⟩
    refine hfields.trans (exists_map_eq_iff.trans (forall₂_congr fun f _ => ⟨?_, ?_⟩))
    · rintro ⟨p, rfl⟩
      exact ⟨p.name, rfl⟩
    · obtain ⟨name, tableId, columnId, typeId, typeSize, typeModifier, formatCode⟩ := f
      rintro ⟨s, rfl⟩
      exact ⟨⟨s, tableId, columnId, typeId, typeSize, typeModifier, formatCode⟩, rfl⟩

theorem PyDataRow.faithfulExactly (pg : PgMessage dataRowLayout) :
    FaithfulExactly pg (PyDataRow.encode display pg) (PyDataRow.decode display pg) (PyDataRow.Carried pg)
      (fun _ => True) := by
  refine (PyDataRow.binding display pg).faithfulExactly dataRowLayout_lawful (fun m => ?_) fun r => ?_
  · refine (carried_iff rfl (iff_true_intro ?_)).trans (and_iff_right trivial)
    exact ⟨Codec.i16_valid _, trivial⟩
  · exact iff_true_intro ⟨⟨r.1, r.2⟩, rfl⟩

end

/-! ### The six classes -/

/-- pgwire's codecs of the six messages. -/
structure PgMessages (text : TextDecoder) where
  query : PgMessage (queryLayout text)
  commandComplete : PgMessage (commandCompleteLayout text)
  errorResponse : PgMessage (errorResponseLayout text)
  /-- The protocol versions that `Startup::decode` reads. -/
  versions : UInt16 → UInt16 → Bool
  startup : PgMessage (startupLayout text versions)
  rowDescription : PgMessage (rowDescriptionLayout text)
  dataRow : PgMessage dataRowLayout

/-- **Fidelity.**  What the classes carry: texts without NUL, field tags other than zero, parameter names that are not
empty, at most 32767 columns, versions that are read, and frames within the limit of their type.  What they reproduce
of the bytes they decode: a single frame of the type within the limit, with nothing behind it, whose texts are UTF-8 and
whose parameters are in the order of their names. -/
theorem message_classes_faithful_iff (text : TextDecoder) (display : PgWireError → String) (pg : PgMessages text) :
    FaithfulExactly pg.query (PyQuery.encode display pg.query) (PyQuery.decode display pg.query)
      (PyQuery.Carried pg.query) IsUtf8 ∧
    FaithfulExactly pg.commandComplete (PyCommandComplete.encode display pg.commandComplete)
      (PyCommandComplete.decode display pg.commandComplete) (PyCommandComplete.Carried pg.commandComplete) IsUtf8 ∧
    FaithfulExactly pg.errorResponse (PyErrorResponse.encode display pg.errorResponse)
      (PyErrorResponse.decode display pg.errorResponse) (PyErrorResponse.Carried pg.errorResponse)
      (fun r : List (UInt8 × Bytes) => ∀ f ∈ r, IsUtf8 f.2) ∧
    FaithfulExactly pg.startup (PyStartup.encode display pg.startup) (PyStartup.decode display pg.startup)
      (PyStartup.Carried pg.startup) CanonicalStartup ∧
    FaithfulExactly pg.rowDescription (PyRowDescription.encode display pg.rowDescription)
      (PyRowDescription.decode display pg.rowDescription) (PyRowDescription.Carried pg.rowDescription)
      (fun r : List RawField => ∀ f ∈ r, IsUtf8 f.1) ∧
    FaithfulExactly pg.dataRow (PyDataRow.encode display pg.dataRow) (PyDataRow.decode display pg.dataRow)
      (PyDataRow.Carried pg.dataRow) (fun _ => True) :=
  ⟨PyQuery.faithfulExactly display pg.query, PyCommandComplete.faithfulExactly display pg.commandComplete,
    PyErrorResponse.faithfulExactly display pg.errorResponse, PyStartup.faithfulExactly display pg.startup,
    PyRowDescription.faithfulExactly display pg.rowDescription, PyDataRow.faithfulExactly display pg.dataRow⟩

/-! ### Where they are not faithful -/

/-- Strict UTF-8. -/
def strictDecoder : TextDecoder where
  decode := Text.fromUtf8
  decode_utf8 := Text.fromUtf8_utf8
  nul_mem h hs := by
    rw [Text.fromUtf8_eq_some.mp h]
    exact zero_mem_utf8.mpr hs
  eq_nil h := by
    rw [Text.fromUtf8_eq_some.mp h, Text.utf8_nil]

/-- Codecs that do what is said of pgwire's, with limits for their types. -/
def PgMessages.ofLayouts (text : TextDecoder) : PgMessages text where
  query := .ofCodec _ 1073741822 (by decide) _ rfl
  commandComplete := .ofCodec _ 30000 (by decide) _ rfl
  errorResponse := .ofCodec _ 1073741822 (by decide) _ rfl
  versions major _ := major == 3
  startup := .ofCodec _ 10000 (by decide) _ rfl
  rowDescription := .ofCodec _ 1073741822 (by decide) _ rfl
  dataRow := .ofLayout _ 1073741822 (by decide)

/-- The empty query comes back, also off a frame with `junk` behind it. -/
theorem message_classes_faithful_empty :
    RoundTrips (PyQuery.encode (fun _ => "") (PgMessages.ofLayouts strictDecoder).query)
        (PyQuery.decode (fun _ => "") (PgMessages.ofLayouts strictDecoder).query) ⟨[]⟩ ∧
      PyQuery.decode (fun _ => "") (PgMessages.ofLayouts strictDecoder).query
        ([81, 0, 0, 0, 5, 0] ++ [106, 117, 110, 107]) = .ok ⟨[]⟩ := by
  have hquery := (message_classes_faithful_iff strictDecoder (fun _ => "") (.ofLayouts _)).1
  have hcarried : PyQuery.Carried (PgMessages.ofLayouts strictDecoder).query ⟨[]⟩ :=
    ⟨by decide, show 4 + (Codec.cstring.write (utf8 [])).length ≤ 1073741822 by decide⟩
  exact ⟨(hquery.values _).mpr hcarried, hquery.behind hcarried rfl _⟩

def AllFaithful {text : TextDecoder} (display : PgWireError → String) (pg : PgMessages text) : Prop :=
  Faithful (queryLayout text) (PyQuery.encode display pg.query) (PyQuery.decode display pg.query) ∧
    Faithful (commandCompleteLayout text) (PyCommandComplete.encode display pg.commandComplete)
      (PyCommandComplete.decode display pg.commandComplete) ∧
    Faithful (errorResponseLayout text) (PyErrorResponse.encode display pg.errorResponse)
      (PyErrorResponse.decode display pg.errorResponse) ∧
    Faithful (startupLayout text pg.versions) (PyStartup.encode display pg.startup)
      (PyStartup.decode display pg.startup) ∧
    Faithful (rowDescriptionLayout text) (PyRowDescription.encode display pg.rowDescription)
      (PyRowDescription.decode display pg.rowDescription) ∧
    Faithful dataRowLayout (PyDataRow.encode display pg.dataRow) (PyDataRow.decode display pg.dataRow)

/-- A query with a NUL is cut off there. -/
theorem message_classes_unfaithful :
    ¬ ∀ (text : TextDecoder) (display : PgWireError → String) (pg : PgMessages text), AllFaithful display pg := by
  intro h
  have hquery := (h strictDecoder (fun _ => "") (.ofLayouts _)).1.1 ⟨['a', '\x00', 'b']⟩
  exact absurd (((PyQuery.faithfulExactly _ _).values _).mp hquery).1 (by decide)

end Pywire.Messages
