import NativeThunks.Command
import NativeThunks.Proofs.Utf8Reading
import Mathlib.Data.List.Forall2

/-! The table of symbols. The width of its first column is counted in bytes and its entries are filled up
by characters. No text has more characters than bytes, so every entry point fits into the column, and
the second column begins at the same character in every line. The formatter limits the width of the
column, so there is a table exactly if no entry point has too many bytes. -/
namespace NativeThunks.SymbolTables
open SymbolRow Text Utf8Reading Command

variable {rows : List SymbolRow} {row : SymbolRow}

/-- A line whose second column begins at this character: the entry point, at least two blanks up to
there, and the rest of the row, which begins with the container. -/
def Aligned (column : Nat) (row : SymbolRow) (text : String) : Prop :=
  ∃ gap, text = row.entryPoint ++ gap ++
      (row.container ++ "::" ++ row.function ++ " (" ++ row.kind.text ++ ")") ∧
    (∀ c ∈ gap.toList, c = ' ') ∧ 2 ≤ gap.length ∧ (row.entryPoint ++ gap).length = column

/-- The lines of a table, one for each row and in their order, with one column at which the containers
begin in all of them. -/
def AlignedTable (rows : List SymbolRow) (text : String) : Prop :=
  ∃ texts column, text = "\n".intercalate texts ∧ List.Forall₂ (Aligned column) rows texts

private theorem length_le_utf8ByteSize (text : String) : text.length ≤ text.utf8ByteSize := by
  rw [← length_utf8Bytes, utf8Bytes, ← String.length_toList]
  induction text.toList with
  | nil => rfl
  | cons c rest ih =>
    rw [List.flatMap_cons, List.length_append, List.length_cons, String.length_utf8EncodeChar,
      Nat.add_comm]
    exact Nat.add_le_add c.utf8Size_pos ih

private theorem foldl_max_le_iff (sizes : List Nat) (least bound : Nat) :
    sizes.foldl max least ≤ bound ↔ least ≤ bound ∧ ∀ size ∈ sizes, size ≤ bound := by
  induction sizes generalizing least with
  | nil => simp
  | cons size rest ih =>
    rw [List.foldl_cons, ih, Nat.max_le, List.forall_mem_cons, and_assoc]

/-- A column is no wider than a bound exactly if no entry point has more bytes. -/
theorem width_le_iff (bound : Nat) :
    width rows ≤ bound ↔ ∀ row ∈ rows, row.entryPoint.utf8ByteSize ≤ bound := by
  rw [width, foldl_max_le_iff, List.forall_mem_map]
  exact and_iff_right (Nat.zero_le bound)

private theorem length_le_width (member : row ∈ rows) :
    row.entryPoint.length ≤ width rows := by
  have bytes := (width_le_iff (width rows)).mp (Nat.le_refl _) row member
  exact Nat.le_trans (length_le_utf8ByteSize row.entryPoint) bytes

/-- An entry point that fits is filled up to the width of its column. -/
private theorem aligned_line {size : Nat} (fits : row.entryPoint.length ≤ size) :
    Aligned (size + 2) row (line size row) := by
  have gap (blanks : Nat) :
      (String.ofList (List.replicate blanks ' ') ++ "  ").length = blanks + 2 := by
    rw [String.length_append, String.length_ofList, List.length_replicate]
    rfl
  refine ⟨String.ofList (List.replicate (size - row.entryPoint.length) ' ') ++ "  ", ?_, ?_, ?_, ?_⟩
  · simp only [line, padded, String.append_assoc]
  · simp only [String.toList_append, String.toList_ofList, List.mem_append, List.mem_replicate]
    rintro c (⟨_, rfl⟩ | blank)
    · rfl
    · simpa using blank
  · rw [gap]
    exact Nat.le_add_left _ _
  · rw [String.length_append, gap, ← Nat.add_assoc, Nat.add_sub_cancel' fits]

private theorem table_aligned (rows : List SymbolRow) : AlignedTable rows (table rows) := by
  refine ⟨rows.map (line (width rows)), width rows + 2, rfl, ?_⟩
  rw [List.forall₂_map_right_iff, List.forall₂_same]
  intro row member
  exact aligned_line (length_le_width member)

private theorem formatSymbols_of_le (fits : width rows ≤ widthLimit) :
    formatSymbols rows false = .ok (table rows) := by
  have limited : ¬widthLimit < width rows := Nat.not_lt.mpr fits
  simp [formatSymbols, SymbolRow.format, limited]

private theorem formatSymbols_of_lt (wide : widthLimit < width rows) :
    formatSymbols rows false = .error widthPanic := by
  simp [formatSymbols, wide]

/-- Rows are shown as an aligned table exactly if no entry point has more bytes than the formatter takes
as a width. Otherwise showing them is a panic. -/
theorem table_aligned_iff (rows : List SymbolRow) :
    ((∃ text, formatSymbols rows false = .ok text ∧ AlignedTable rows text) ↔
      ∀ row ∈ rows, row.entryPoint.utf8ByteSize ≤ 65535) ∧
    (formatSymbols rows false = .error widthPanic ↔
      ∃ row ∈ rows, 65535 < row.entryPoint.utf8ByteSize) := by
  have limit : (∀ row ∈ rows, row.entryPoint.utf8ByteSize ≤ 65535) ↔
      width rows ≤ widthLimit := (width_le_iff widthLimit).symm
  have above : (∃ row ∈ rows, 65535 < row.entryPoint.utf8ByteSize) ↔
      ¬width rows ≤ widthLimit := by
    rw [← limit]
    simp only [not_forall, Nat.not_le, exists_prop]
  rw [limit, above]
  by_cases fits : width rows ≤ widthLimit
  · have shown := formatSymbols_of_le fits
    constructor
    · apply iff_of_true _ fits
      exact ⟨table rows, shown, table_aligned rows⟩
    · apply iff_of_false _ (not_not_intro fits)
      rw [shown]
      exact nofun
  · have panics := formatSymbols_of_lt (Nat.lt_of_not_le fits)
    constructor
    · apply iff_of_false _ fits
      rintro ⟨text, shown, _⟩
      rw [panics] at shown
      cases shown
    · exact iff_of_true panics fits

/-- An entry point of 65536 letters is too long for a table. -/
theorem wide_table_panics :
    let row : SymbolRow := ⟨"engine::Camera", "Active", .method,
      String.ofList (List.replicate 65536 'a'), "active"⟩
    formatSymbols [row] false = .error widthPanic ∧
      ¬∃ text, formatSymbols [row] false = .ok text ∧ AlignedTable [row] text := by
  intro row
  have long : row.entryPoint.length = 65536 := by
    rw [String.length_ofList, List.length_replicate]
  have wide : widthLimit < width [row] := by
    have fits := length_le_width (List.mem_singleton_self row)
    rw [long] at fits
    exact fits
  have panics := formatSymbols_of_lt wide
  refine ⟨panics, ?_⟩
  rintro ⟨text, shown, _⟩
  rw [panics] at shown
  cases shown

example : formatSymbols
    [⟨"a::B", "F", .method, "éx", "f"⟩, ⟨"a::C", "G", .propertyGetter, "ab", "g"⟩] false =
    .ok "éx   a::B::f (method)\nab   a::C::g (property getter)" := by decide +kernel

end NativeThunks.SymbolTables
