import Mathlib.Data.List.Forall2
import Pywire.Lib.Base64
import Pywire.Query

/-!
# DataRow: what a client reads off an encoded row

`decodeDataRow` reads a `DataRow` the way the protocol describes it: as many cells as the signed 16-bit count
says, each a signed 32-bit length and that many bytes, and nothing behind them.  `encode_data_row` narrows the
number of cells and the length of every cell without a check.

* `decodeDataRow_encodeDataRow`: a row is read back exactly when both fit.
* `query_rows_unaltered_iff`: **Main result** — the rows of a response reach the wire unaltered exactly when all
  of them fit; a row that does not fit is encoded all the same.
-/

namespace Pywire

/-! ### Reading -/

/-- `Buf::get_i32`. -/
def getI32 : Bytes → Option (Int32 × Bytes)
  | a :: b :: c :: d :: rest =>
    some ((UInt32.ofNat (a.toNat * 16777216 + b.toNat * 65536 + c.toNat * 256 + d.toNat)).toInt32, rest)
  | _ => none

def decodeCell (data : Bytes) : Option (Cell × Bytes) := do
  let (length, rest) ← getI32 data
  if length = -1 then some (none, rest)
  else if length < 0 ∨ rest.length < length.toNatClampNeg then none
  else some (some (rest.take length.toNatClampNeg), rest.drop length.toNatClampNeg)

def decodeCells : ℕ → Bytes → Option (List Cell × Bytes)
  | 0, data => some ([], data)
  | n + 1, data => do
    let (cell, data) ← decodeCell data
    let (cells, data) ← decodeCells n data
    return (cell :: cells, data)

/-- The cells of a row whose data they use up. -/
def decodeDataRow (row : DataRow) : Option (List Cell) :=
  if 0 ≤ row.fieldCount then do
    let (cells, rest) ← decodeCells row.fieldCount.toNatClampNeg row.data
    if rest = [] then some cells else none
  else none

/-! ### Cells -/

/-- The length of a cell is a 32-bit length of the protocol. -/
def Cell.Fits (cell : Cell) : Prop := ∀ bytes, cell = some bytes → bytes.length ≤ 2147483647

theorem getI32_putI32 (n : Int32) (rest : Bytes) : getI32 (putI32 n ++ rest) = some (n, rest) := by
  have hlt : n.toUInt32.toNat < 4294967296 := n.toUInt32.toNat_lt
  have h1 : (UInt8.ofNat (n.toUInt32.toNat / 16777216)).toNat = n.toUInt32.toNat / 16777216 :=
    Base64.toNat_ofNat (by omega)
  simp only [putI32, List.cons_append, List.nil_append, getI32, h1, UInt8.toNat_ofNat']
  have hsum : n.toUInt32.toNat / 16777216 * 16777216 + n.toUInt32.toNat / 65536 % 2 ^ 8 * 65536 +
      n.toUInt32.toNat / 256 % 2 ^ 8 * 256 + n.toUInt32.toNat % 2 ^ 8 = n.toUInt32.toNat := by
    omega
  rw [hsum, UInt32.ofNat_toNat, Int32.toInt32_toUInt32]

theorem decodeCell_none (rest : Bytes) : decodeCell (encodeCell none ++ rest) = some (none, rest) := by
  rw [encodeCell, decodeCell, getI32_putI32]
  rfl

theorem decodeCell_some {bytes : Bytes} (h : bytes.length ≤ 2147483647) (rest : Bytes) :
    decodeCell (encodeCell (some bytes) ++ rest) = some (some bytes, rest) := by
  have hint : (Int32.ofNat bytes.length).toInt = bytes.length := Int32.toInt_ofNat_of_lt (by omega)
  have hclamp : (Int32.ofNat bytes.length).toNatClampNeg = bytes.length := Int32.toNatClampNeg_ofNat_of_lt (by omega)
  have hne : Int32.ofNat bytes.length ≠ -1 := by
    intro he
    rw [he] at hint
    have : (-1 : Int32).toInt = -1 := by decide
    omega
  have hnonneg : ¬ Int32.ofNat bytes.length < 0 := by
    rw [Int32.lt_iff_toInt_lt, hint]
    have : (0 : Int32).toInt = 0 := by decide
    omega
  rw [encodeCell, decodeCell, List.append_assoc, getI32_putI32]
  simp [hne, hnonneg, hclamp]

/-- A cell that is read back fitted, and the rest is what stood behind it. -/
theorem fits_of_decodeCell {cell : Cell} {rest rest' : Bytes}
    (h : decodeCell (encodeCell cell ++ rest) = some (cell, rest')) : cell.Fits ∧ rest' = rest := by
  cases cell with
  | none =>
    rw [decodeCell_none] at h
    obtain ⟨-, rfl⟩ := Prod.mk.inj (Option.some.inj h)
    exact ⟨by simp [Cell.Fits], rfl⟩
  | some bytes =>
    by_cases hfits : bytes.length ≤ 2147483647
    · rw [decodeCell_some hfits] at h
      obtain ⟨-, rfl⟩ := Prod.mk.inj (Option.some.inj h)
      refine ⟨?_, rfl⟩
      rintro _ ⟨⟩
      exact hfits
    · -- the length that was read is a 32-bit length, and the cell that was read has it
      exfalso
      rw [encodeCell, decodeCell, List.append_assoc, getI32_putI32] at h
      simp only [Option.bind_eq_bind, Option.bind_some] at h
      split_ifs at h with hnull hshort
      · simp at h
      · obtain ⟨htake, -⟩ := Prod.mk.inj (Option.some.inj h)
        have hlen := congrArg List.length (Option.some.inj htake)
        have hmin := List.length_take_le (Int32.ofNat bytes.length).toNatClampNeg (bytes ++ rest)
        have hlt := Int32.toNatClampNeg_lt (Int32.ofNat bytes.length)
        omega

/-! ### Rows -/

theorem decodeCells_encode {cells : List Cell} (h : ∀ cell ∈ cells, cell.Fits) (rest : Bytes) :
    decodeCells cells.length (cells.flatMap encodeCell ++ rest) = some (cells, rest) := by
  induction cells with
  | nil => rfl
  | cons cell cells ih =>
    have hcell : decodeCell (encodeCell cell ++ (cells.flatMap encodeCell ++ rest)) =
        some (cell, cells.flatMap encodeCell ++ rest) := by
      have hfits := h cell (List.mem_cons_self ..)
      cases cell with
      | none => exact decodeCell_none _
      | some bytes => exact decodeCell_some (hfits bytes rfl) _
    rw [List.length_cons, decodeCells, List.flatMap_cons, List.append_assoc, hcell]
    simp [ih fun cell hc => h cell (List.mem_cons_of_mem _ hc)]

theorem fits_of_decodeCells {cells : List Cell} {rest rest' : Bytes}
    (h : decodeCells cells.length (cells.flatMap encodeCell ++ rest) = some (cells, rest')) :
    ∀ cell ∈ cells, cell.Fits := by
  induction cells with
  | nil => simp
  | cons cell cells ih =>
    rw [List.length_cons, decodeCells, List.flatMap_cons, List.append_assoc] at h
    simp only [Option.bind_eq_bind, Option.bind_eq_some_iff, Option.pure_def, Option.some.injEq, Prod.mk.injEq,
      List.cons.injEq] at h
    obtain ⟨⟨cell', data⟩, hcell, ⟨cells', data'⟩, hcells, ⟨rfl, rfl⟩, rfl⟩ := h
    obtain ⟨hfits, rfl⟩ := fits_of_decodeCell hcell
    intro c hc
    rcases List.mem_cons.mp hc with rfl | hc
    · exact hfits
    · exact ih hcells c hc

theorem length_decodeCells {n : ℕ} {data rest : Bytes} {cells : List Cell}
    (h : decodeCells n data = some (cells, rest)) : cells.length = n := by
  induction n generalizing data rest cells with
  | zero =>
    obtain ⟨rfl, -⟩ := Prod.mk.inj (Option.some.inj h)
    rfl
  | succ n ih =>
    rw [decodeCells] at h
    simp only [Option.bind_eq_bind, Option.bind_eq_some_iff, Option.pure_def, Option.some.injEq, Prod.mk.injEq] at h
    obtain ⟨_, -, ⟨cells', data'⟩, hcells, rfl, -⟩ := h
    rw [List.length_cons, ih hcells]

/-- The number of cells and the length of every cell are numbers of the protocol. -/
def RowFits (cells : List Cell) : Prop := cells.length ≤ 32767 ∧ ∀ cell ∈ cells, cell.Fits

/-- **Round trip**, exactly for the rows that fit. -/
theorem decodeDataRow_encodeDataRow {cells : List Cell} :
    decodeDataRow (encodeDataRow cells) = some cells ↔ RowFits cells := by
  constructor
  · intro h
    rw [decodeDataRow, encodeDataRow] at h
    split_ifs at h with hcount
    simp only [Option.bind_eq_bind, Option.bind_eq_some_iff] at h
    obtain ⟨⟨cells', rest⟩, hcells, h⟩ := h
    split_ifs at h with hrest
    obtain rfl : cells' = cells := Option.some.inj h
    have hlen : cells'.length = _ := length_decodeCells hcells
    have hlt := Int16.toNatClampNeg_lt (Int16.ofNat cells'.length)
    rw [← hlen] at hcells
    have happend : decodeCells cells'.length (cells'.flatMap encodeCell ++ []) = some (cells', rest) := by
      rwa [List.append_nil]
    exact ⟨by omega, fits_of_decodeCells happend⟩
  · rintro ⟨hlength, hfits⟩
    have hint : (Int16.ofNat cells.length).toInt = cells.length := Int16.toInt_ofNat_of_lt (by omega)
    have hclamp : (Int16.ofNat cells.length).toNatClampNeg = cells.length :=
      Int16.toNatClampNeg_ofNat_of_lt (by omega)
    have hnonneg : 0 ≤ Int16.ofNat cells.length := by
      rw [Int16.le_iff_toInt_le, hint]
      have : (0 : Int16).toInt = 0 := by decide
      omega
    have hcells := decodeCells_encode hfits []
    rw [List.append_nil] at hcells
    rw [decodeDataRow, encodeDataRow, if_pos hnonneg, hclamp, hcells]
    simp

/-! ### Result sets -/

/-- The rows of a response that were encoded beforehand. -/
def Response.encodedRows : Response → Option (List (Except PgWireError DataRow))
  | .query ⟨_, .iter rows, _⟩ => some rows
  | _ => none

/-- What becomes of a row: a `DataRow` that is read back as this row, or an error for a row of which no
`DataRow` can tell. -/
def Carried (cells : List Cell) : Except PgWireError DataRow → Prop
  | .ok row => decodeDataRow row = some cells
  | .error _ => ∀ row, decodeDataRow row ≠ some cells

theorem carried_encodeDataRow {cells : List Cell} : Carried cells (.ok (encodeDataRow cells)) ↔ RowFits cells :=
  decodeDataRow_encodeDataRow

/-- **Result sets.**  `Response.query` carries its rows to the wire unaltered and in their order exactly when
every row has at most 32767 cells and every cell at most 2147483647 bytes. -/
theorem query_rows_unaltered_iff (fields : List PyFieldInfo) (rows : List (List Cell)) (commandTag : String) :
    (∃ encoded, (PyResponse.query fields rows commandTag).intoPg.encodedRows = some encoded ∧
      List.Forall₂ Carried rows encoded) ↔
      ∀ cells ∈ rows, cells.length ≤ 32767 ∧ ∀ bytes, some bytes ∈ cells → bytes.length ≤ 2147483647 := by
  have hrows : (PyResponse.query fields rows commandTag).intoPg.encodedRows =
      some (rows.map fun cells => .ok (encodeDataRow cells)) := rfl
  have hcarried : List.Forall₂ Carried rows (rows.map fun cells => .ok (encodeDataRow cells)) ↔
      ∀ cells ∈ rows, RowFits cells := by
    rw [List.forall₂_map_right_iff, List.forall₂_same]
    simp only [carried_encodeDataRow]
  have hfits : ∀ cells, RowFits cells ↔
      cells.length ≤ 32767 ∧ ∀ bytes, some bytes ∈ cells → bytes.length ≤ 2147483647 := by
    intro cells
    refine and_congr_right fun _ => ⟨fun h bytes hb => h _ hb bytes rfl, fun h cell hc bytes hcell => ?_⟩
    exact h bytes (hcell ▸ hc)
  simp only [hrows, Option.some.injEq, exists_eq_left', hcarried, hfits]

/-- A row of 65536 NULLs is announced as a row without cells. -/
theorem query_row_altered : ¬ ∀ (fields : List PyFieldInfo) (rows : List (List Cell)) (commandTag : String),
    ∃ encoded, (PyResponse.query fields rows commandTag).intoPg.encodedRows = some encoded ∧
      List.Forall₂ Carried rows encoded := by
  intro h
  obtain ⟨encoded, hencoded, hcarried⟩ := h [] [List.replicate 65536 none] "SELECT 1"
  obtain rfl := Option.some.inj hencoded
  have hfits := carried_encodeDataRow.mp (List.forall₂_cons.mp hcarried).1
  have hlength := hfits.1
  rw [List.length_replicate] at hlength
  omega

end Pywire
