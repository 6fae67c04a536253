import Pywire.DataRow
import Pywire.MessageClasses

/-!
# Framing: backend messages one after the other

What a server sends is the frames of its messages, one after the other.  Each of the four classes of backend messages
with a body of its own encodes to one frame, which starts with the tag of the class.

* `BackendMessage.stream_unique`: **Main result** — the bytes of a stream of messages determine the messages.
* `decodeDataRow_eq_some`: cells are read off the row they are encoded as, and off no other.
* `PyDataRow.readCells_encode_iff`: a row of a result set, encoded, framed, unframed and read, is the row it was exactly
  if its cells and its frame fit.
-/

namespace Pywire.Messages

open Wire (Codec Body)

/-! ### The classes as one -/

inductive BackendMessage where
  | commandComplete (m : PyCommandComplete)
  | errorResponse (m : PyErrorResponse)
  | rowDescription (m : PyRowDescription)
  | dataRow (m : PyDataRow)

inductive BackendKind where
  | commandComplete
  | errorResponse
  | rowDescription
  | dataRow

namespace BackendKind

/-- pgwire's message of the kind. -/
abbrev Pg : BackendKind → Type
  | commandComplete => PgCommandComplete
  | errorResponse => PgErrorResponse
  | rowDescription => PgRowDescription
  | dataRow => PgDataRow

def layout (text : TextDecoder) : ∀ k : BackendKind, Layout k.Pg
  | commandComplete => commandCompleteLayout text
  | errorResponse => errorResponseLayout text
  | rowDescription => rowDescriptionLayout text
  | dataRow => dataRowLayout

def tag : BackendKind → UInt8
  | commandComplete => 67
  | errorResponse => 69
  | rowDescription => 84
  | dataRow => 68

theorem tag_injective : Function.Injective tag := by
  intro k k' h
  cases k <;> cases k' <;> first | rfl | exact absurd h (by decide)

theorem tag_eq (text : TextDecoder) (k : BackendKind) : (k.layout text).tag = [k.tag] := by
  cases k <;> rfl

theorem ofRaw_raw (text : TextDecoder) (k : BackendKind) (m : k.Pg) :
    (k.layout text).ofRaw ((k.layout text).raw m) = some m :=
  match k with
  | commandComplete => textLayout_ofRaw_raw text 67 (fun _ => rfl) m
  | errorResponse => errorResponseLayout_ofRaw_raw text m
  | rowDescription => rowDescriptionLayout_ofRaw_raw text m
  | dataRow => rfl

theorem lawful (text : TextDecoder) (k : BackendKind) : (k.layout text).Lawful :=
  match k with
  | commandComplete => textLayout_lawful text 67 (fun _ => rfl) fun _ => rfl
  | errorResponse => errorResponseLayout_lawful text
  | rowDescription => rowDescriptionLayout_lawful text
  | dataRow => dataRowLayout_lawful

/-- pgwire's codec for the kind. -/
def codec {text : TextDecoder} (pg : PgMessages text) : ∀ k : BackendKind, PgMessage (k.layout text)
  | commandComplete => pg.commandComplete
  | errorResponse => pg.errorResponse
  | rowDescription => pg.rowDescription
  | dataRow => pg.dataRow

end BackendKind

namespace BackendMessage

/-- The message as pgwire has it. -/
def toPg : BackendMessage → Σ k : BackendKind, k.Pg
  | .commandComplete m => ⟨.commandComplete, ⟨m.tag⟩⟩
  | .errorResponse m => ⟨.errorResponse, ⟨m.fields⟩⟩
  | .rowDescription m => ⟨.rowDescription, ⟨m.fields.map PyFieldDescription.into⟩⟩
  | .dataRow m => ⟨.dataRow, ⟨m.fieldCount, m.data⟩⟩

section

variable {text : TextDecoder} (display : PgWireError → String) (pg : PgMessages text)

def encode : BackendMessage → Except PyErr Bytes
  | .commandComplete m => m.encode display pg.commandComplete
  | .errorResponse m => m.encode display pg.errorResponse
  | .rowDescription m => m.encode display pg.rowDescription
  | .dataRow m => m.encode display pg.dataRow

/-- The messages encoded, one after the other. -/
def encodeAll : List BackendMessage → Except PyErr Bytes
  | [] => .ok []
  | m :: ms => do
    let data ← m.encode display pg
    let rest ← encodeAll ms
    return data ++ rest

end

/-- A frame carries the message. -/
def Carried {text : TextDecoder} (pg : PgMessages text) : BackendMessage → Prop
  | .commandComplete m => m.Carried pg.commandComplete
  | .errorResponse m => m.Carried pg.errorResponse
  | .rowDescription m => m.Carried pg.rowDescription
  | .dataRow m => m.Carried pg.dataRow

/-- A message of the class for pgwire's. -/
def ofPg : (Σ k : BackendKind, k.Pg) → BackendMessage
  | ⟨.commandComplete, m⟩ => .commandComplete ⟨m.tag⟩
  | ⟨.errorResponse, m⟩ => .errorResponse ⟨m.fields⟩
  | ⟨.rowDescription, m⟩ => .rowDescription ⟨m.fields.map PgFieldDescription.into⟩
  | ⟨.dataRow, m⟩ => .dataRow ⟨m.fieldCount, m.data⟩

theorem ofPg_toPg (m : BackendMessage) : ofPg m.toPg = m := by
  cases m with
  | commandComplete m => rfl
  | errorResponse m => rfl
  | rowDescription m => exact congrArg (fun fields => rowDescription ⟨fields⟩) (PyFieldDescription.map_into m.fields)
  | dataRow m => rfl

/-- What the frame of the message carries. -/
def raw (text : TextDecoder) (m : BackendMessage) : Σ k : BackendKind, (k.layout text).Raw :=
  ⟨m.toPg.1, (m.toPg.1.layout text).raw m.toPg.2⟩

theorem raw_injective (text : TextDecoder) : Function.Injective (raw text) := by
  -- pgwire's message is read off what the frame carries
  let read : (Σ k : BackendKind, (k.layout text).Raw) → Option (Σ k : BackendKind, k.Pg) := fun r =>
    ((r.1.layout text).ofRaw r.2).map fun m => ⟨r.1, m⟩
  have hread : ∀ m : BackendMessage, read (m.raw text) = some m.toPg := fun m => by
    exact congrArg (Option.map fun pg => (⟨m.toPg.1, pg⟩ : Σ k : BackendKind, k.Pg)) (m.toPg.1.ofRaw_raw text m.toPg.2)
  intro m m' h
  have hpg : m.toPg = m'.toPg := by
    refine Option.some.inj ?_
    rw [← hread, ← hread, h]
  rw [← ofPg_toPg m, ← ofPg_toPg m', hpg]

section

variable {text : TextDecoder} (display : PgWireError → String) (pg : PgMessages text)

theorem encode_eq_ok {m : BackendMessage} {data : Bytes} :
    m.encode display pg = .ok data ↔
      (m.toPg.1.codec pg).Fits m.toPg.2 ∧ data = ((m.raw text).1.layout text).frame.write (m.raw text).2 := by
  cases m with
  | commandComplete m => exact encodeToPybytes_eq_ok display pg.commandComplete
  | errorResponse m => exact encodeToPybytes_eq_ok display pg.errorResponse
  | rowDescription m => exact encodeToPybytes_eq_ok display pg.rowDescription
  | dataRow m => exact encodeToPybytes_eq_ok display pg.dataRow

theorem carried_iff (m : BackendMessage) :
    m.Carried pg ↔ ((m.raw text).1.layout text).body.Valid (m.raw text).2 ∧ (m.toPg.1.codec pg).Fits m.toPg.2 := by
  cases m with
  | commandComplete m =>
    exact (PyCommandComplete.binding (fun _ => "") pg.commandComplete).carried_iff
      (BackendKind.lawful text .commandComplete) (PyCommandComplete.faithfulExactly _ _)
      (BackendKind.ofRaw_raw text .commandComplete _)
  | errorResponse m =>
    exact (PyErrorResponse.binding (fun _ => "") pg.errorResponse).carried_iff
      (BackendKind.lawful text .errorResponse) (PyErrorResponse.faithfulExactly _ _)
      (BackendKind.ofRaw_raw text .errorResponse _)
  | rowDescription m =>
    exact (PyRowDescription.binding (fun _ => "") pg.rowDescription).carried_iff
      (BackendKind.lawful text .rowDescription) (PyRowDescription.faithfulExactly _ _)
      (BackendKind.ofRaw_raw text .rowDescription _)
  | dataRow m =>
    exact (PyDataRow.binding (fun _ => "") pg.dataRow).carried_iff (BackendKind.lawful text .dataRow)
      (PyDataRow.faithfulExactly _ _) rfl

/-- What is carried has a frame. -/
theorem Carried.valid {m : BackendMessage} (h : m.Carried pg) :
    ((m.raw text).1.layout text).frame.Valid (m.raw text).2 := by
  obtain ⟨hbody, hfits⟩ := (carried_iff pg m).mp h
  exact Codec.frame_valid.mpr ⟨hbody, hfits.trans (m.toPg.1.codec pg).limit_le⟩

theorem encodeAll_eq {ms : List BackendMessage} (hms : ∀ m ∈ ms, m.Carried pg) :
    encodeAll display pg ms = .ok (Codec.writeAll (fun k => (k.layout text).frame) (ms.map (raw text))) := by
  induction ms with
  | nil => rfl
  | cons m ms ih =>
    obtain ⟨hm, htail⟩ := List.forall_mem_cons.mp hms
    have hencode := (encode_eq_ok display pg).mpr ⟨((carried_iff pg m).mp hm).2, rfl⟩
    rw [encodeAll, hencode, ih htail]
    rfl

/-- **Framing.**  Messages that frames can carry, encoded one after the other, are the only ones with these bytes. -/
theorem stream_unique {ms ms' : List BackendMessage} (hms : ∀ m ∈ ms, m.Carried pg) (hms' : ∀ m ∈ ms', m.Carried pg) :
    (∃ data, encodeAll display pg ms = .ok data ∧ encodeAll display pg ms' = .ok data) ↔ ms = ms' := by
  have hhead : ∀ (k : BackendKind) (r : (k.layout text).Raw), ∃ b, (k.layout text).frame.write r = k.tag :: b := by
    intro k r
    refine ⟨Codec.i32.write (.ofNat (4 + ((k.layout text).body.write r).length)) ++ (k.layout text).body.write r, ?_⟩
    rw [Layout.frame, Codec.frame_write, BackendKind.tag_eq]
    rfl
  have hvalid : ∀ ms : List BackendMessage, (∀ m ∈ ms, m.Carried pg) →
      ∀ r ∈ ms.map (raw text), (r.1.layout text).frame.Valid r.2 := fun ms hms =>
    List.forall_mem_map.mpr fun m hm => (hms m hm).valid pg
  constructor
  · rintro ⟨data, h, h'⟩
    have hbytes := h.trans h'.symm
    rw [encodeAll_eq display pg hms, encodeAll_eq display pg hms', Except.ok.injEq] at hbytes
    exact List.map_injective_iff.mpr (raw_injective text)
      (Codec.writeAll_unique BackendKind.tag_injective hhead (hvalid ms hms) (hvalid ms' hms') hbytes)
  · rintro rfl
    exact ⟨_, encodeAll_eq display pg hms, encodeAll_eq display pg hms⟩

theorem stream_unique_order :
    ¬ ∃ data,
      encodeAll (fun _ => "") (.ofLayouts strictDecoder) [.commandComplete ⟨['B']⟩, .dataRow ⟨0, []⟩] = .ok data ∧
        encodeAll (fun _ => "") (.ofLayouts strictDecoder) [.dataRow ⟨0, []⟩, .commandComplete ⟨['B']⟩] = .ok data := by
  have htag : (commandComplete ⟨['B']⟩).Carried (.ofLayouts strictDecoder) :=
    ⟨by decide, show 4 + (Codec.cstring.write (Text.utf8 ['B'])).length ≤ 30000 by decide⟩
  have hrow : (dataRow ⟨0, []⟩).Carried (.ofLayouts strictDecoder) :=
    show 4 + (Codec.i16.write 0 ++ []).length ≤ 1073741822 by decide
  have hboth : (∀ m ∈ [commandComplete ⟨['B']⟩, dataRow ⟨0, []⟩], m.Carried (.ofLayouts strictDecoder)) ∧
      ∀ m ∈ [dataRow ⟨0, []⟩, commandComplete ⟨['B']⟩], m.Carried (.ofLayouts strictDecoder) := by
    simp [htag, hrow]
  rw [stream_unique _ _ hboth.1 hboth.2]
  simp

end

end BackendMessage

/-! ### Rows -/

theorem getI32_eq_some {data rest : Bytes} {n : Int32} : getI32 data = some (n, rest) ↔ data = putI32 n ++ rest := by
  refine ⟨fun h => ?_, fun h => by rw [h, getI32_putI32]⟩
  unfold getI32 at h
  split at h
  · rename_i a b c d rest'
    obtain ⟨rfl, rfl⟩ := Prod.mk.inj (Option.some.inj h)
    have ha := a.toNat_lt
    have hb := b.toNat_lt
    have hc := c.toNat_lt
    have hd := d.toNat_lt
    have hsum : (UInt32.ofNat (a.toNat * 16777216 + b.toNat * 65536 + c.toNat * 256 + d.toNat)).toNat =
        a.toNat * 16777216 + b.toNat * 65536 + c.toNat * 256 + d.toNat := by
      rw [UInt32.toNat_ofNat']
      omega
    have hbyte : ∀ (x : UInt8) (m : ℕ), m % 256 = x.toNat → UInt8.ofNat m = x := by
      intro x m hm
      refine UInt8.toNat_inj.mp ?_
      rw [UInt8.toNat_ofNat']
      exact hm
    simp only [putI32, UInt32.toUInt32_toInt32, hsum, List.cons_append, List.nil_append]
    rw [hbyte a _ (by omega), hbyte b _ (by omega), hbyte c _ (by omega), hbyte d _ (by omega)]
  · cases h

/-- A cell is read off what it is written as, and off nothing else. -/
theorem decodeCell_eq_some {data rest : Bytes} {cell : Cell} :
    decodeCell data = some (cell, rest) ↔ cell.Fits ∧ data = encodeCell cell ++ rest := by
  constructor
  · intro h
    simp only [decodeCell, Option.bind_eq_bind, Option.bind_eq_some_iff, Prod.exists, getI32_eq_some] at h
    obtain ⟨length, tail, rfl, h⟩ := h
    split_ifs at h with hnull hshort
    · obtain ⟨rfl, rfl⟩ := Prod.mk.inj (Option.some.inj h)
      exact ⟨by simp [Cell.Fits], by rw [hnull, encodeCell]⟩
    · obtain ⟨rfl, rfl⟩ := Prod.mk.inj (Option.some.inj h)
      obtain ⟨hnonneg, hlong⟩ := not_or.mp hshort
      have hlen : (tail.take length.toNatClampNeg).length = length.toNatClampNeg := by
        rw [List.length_take]
        omega
      have hlt := Int32.toNatClampNeg_lt length
      have hlength : Int32.ofNat length.toNatClampNeg = length := by
        have hint : 0 ≤ length.toInt := by
          rw [Int32.lt_iff_toInt_lt] at hnonneg
          have : (0 : Int32).toInt = 0 := by decide
          omega
        refine Int32.toInt_inj.mp ?_
        rw [Int32.toInt_ofNat_of_lt hlt]
        have hclamp : length.toNatClampNeg = length.toInt.toNat := rfl
        omega
      refine ⟨fun bytes hbytes => ?_, ?_⟩
      · obtain rfl := Option.some.inj hbytes
        omega
      · rw [encodeCell, hlen, hlength, List.append_assoc, List.take_append_drop]
  · rintro ⟨hfits, rfl⟩
    cases cell with
    | none => exact decodeCell_none rest
    | some bytes => exact decodeCell_some (hfits bytes rfl) rest

/-- Cells are a format of their own. -/
def cell : Codec Cell := ⟨Cell.Fits, encodeCell, decodeCell, decodeCell_eq_some⟩

theorem decodeCells_eq (n : ℕ) (data : Bytes) : decodeCells n data = cell.readTimes n data := by
  induction n generalizing data with
  | zero => rfl
  | succ n ih =>
    simp only [decodeCells, Codec.readTimes, ih]
    rfl

/-- **Rows.**  Cells are read off the row they are encoded as, if they fit, and off no other. -/
theorem decodeDataRow_eq_some {row : DataRow} {cells : List Cell} :
    decodeDataRow row = some cells ↔ RowFits cells ∧ row = encodeDataRow cells := by
  constructor
  · intro h
    simp only [decodeDataRow, decodeCells_eq, Option.bind_eq_bind] at h
    split_ifs at h with hcount
    simp only [Option.bind_eq_some_iff, Prod.exists, Codec.readTimes_eq_some] at h
    obtain ⟨cells', rest, ⟨⟨hlen, hfits⟩, hdata⟩, h⟩ := h
    split_ifs at h with hrest
    obtain rfl := Option.some.inj h
    subst hrest
    have hlt := Int16.toNatClampNeg_lt row.fieldCount
    refine ⟨⟨by omega, hfits⟩, ?_⟩
    obtain ⟨data, fieldCount⟩ := row
    rw [List.append_nil] at hdata
    rw [encodeDataRow, hlen, Codec.ofNat_of_toNatClampNeg hcount]
    exact congrArg (fun data => DataRow.mk data fieldCount) hdata
  · rintro ⟨hfits, rfl⟩
    exact decodeDataRow_encodeDataRow.mpr hfits

section

variable (display : PgWireError → String) (pg : PgMessage dataRowLayout)

/-- The row of a result set, as a message of the class. -/
def PyDataRow.ofCells (cells : List Cell) : PyDataRow := ⟨(encodeDataRow cells).fieldCount, (encodeDataRow cells).data⟩

/-- The cells a client reads off a frame, with `DataRow.decode` and then one after the other. -/
def PyDataRow.readCells (data : Bytes) : Option (List Cell) :=
  match PyDataRow.decode display pg data with
  | .ok row => decodeDataRow ⟨row.data, row.fieldCount⟩
  | .error _ => none

/-- **A row end to end**: encoded, framed, unframed and read, it is the row it was exactly if its cells fit and its
frame is within the limit. -/
theorem PyDataRow.readCells_encode_iff (cells : List Cell) :
    (∃ data, (PyDataRow.ofCells cells).encode display pg = .ok data ∧ readCells display pg data = some cells) ↔
      RowFits cells ∧ (PyDataRow.ofCells cells).Carried pg := by
  have hvalues := (PyDataRow.faithfulExactly display pg).values (PyDataRow.ofCells cells)
  rw [← hvalues]
  constructor
  · rintro ⟨data, hencode, hread⟩
    rw [readCells] at hread
    split at hread
    · rename_i row hdecode
      obtain ⟨hfits, hrow⟩ := decodeDataRow_eq_some.mp hread
      refine ⟨hfits, data, hencode, ?_⟩
      rw [hdecode, ofCells, ← hrow]
    · cases hread
  · rintro ⟨hfits, data, hencode, hdecode⟩
    refine ⟨data, hencode, ?_⟩
    rw [readCells, hdecode]
    exact decodeDataRow_encodeDataRow.mpr hfits

end

/-- A null and a text come back; within a limit of fifteen bytes they do not. -/
theorem PyDataRow.readCells_encode_hi :
    (∃ data, (PyDataRow.ofCells [none, some [104, 105]]).encode (fun _ => "")
          (.ofLayout dataRowLayout 1073741822 (by decide)) = .ok data ∧
        readCells (fun _ => "") (.ofLayout dataRowLayout 1073741822 (by decide)) data = some [none, some [104, 105]]) ∧
      ¬ ∃ data, (PyDataRow.ofCells [none, some [104, 105]]).encode (fun _ => "")
          (.ofLayout dataRowLayout 15 (by decide)) = .ok data ∧
        readCells (fun _ => "") (.ofLayout dataRowLayout 15 (by decide)) data = some [none, some [104, 105]] := by
  refine ⟨(PyDataRow.readCells_encode_iff _ _ _).mpr ⟨⟨by decide, ?_⟩, ?_⟩, fun h => ?_⟩
  · simp [Cell.Fits]
  · show 4 + (Codec.i16.write 2 ++ [255, 255, 255, 255, 0, 0, 0, 2, 104, 105]).length ≤ 1073741822
    decide
  · have hcarried := ((PyDataRow.readCells_encode_iff _ _ _).mp h).2
    exact absurd (show 4 + (Codec.i16.write 2 ++ [255, 255, 255, 255, 0, 0, 0, 2, 104, 105]).length ≤ 15 from hcarried)
      (by decide)

end Pywire.Messages
