/-! Texts taken apart at a separator: paths at their slashes, headers at their line feeds. The
library says this of separators that are told by a predicate; here a separator is one character, and
what stands before it is told from what it separates. -/
namespace NativeThunks.SplitTexts

variable {separator : Char} {front text : List Char}

theorem exists_cons_splitOn (separator : Char) (text : List Char) :
    ∃ first rest, text.splitOn separator = first :: rest :=
  List.exists_cons_of_ne_nil (List.splitOnP_ne_nil _ _)

theorem splitOn_append_cons (separator : Char) (front text : List Char) :
    (front ++ separator :: text).splitOn separator =
      front.splitOn separator ++ text.splitOn separator :=
  List.splitOnP_append_cons front text (beq_self_eq_true _)

/-- One character more goes to the first piece, unless it separates. -/
theorem splitOn_cons_of_ne {c : Char} (different : c ≠ separator) (text : List Char) :
    (c :: text).splitOn separator = (text.splitOn separator).modifyHead (c :: ·) := by
  rw [List.splitOn, List.splitOnP_cons_eq_if_modifyHead, if_neg (by simp [different])]
  rfl

/-- What has no separator in it goes to the first piece as a whole. -/
theorem splitOn_append_of_notMem (single : separator ∉ front) (text : List Char) :
    (front ++ text).splitOn separator = (text.splitOn separator).modifyHead (front ++ ·) := by
  obtain ⟨first, rest, split⟩ := exists_cons_splitOn separator text
  rw [split]
  induction front with
  | nil => exact split
  | cons c front ih =>
    obtain ⟨different, single⟩ := not_or.mp (mt List.mem_cons.mpr single)
    rw [List.cons_append, splitOn_cons_of_ne (Ne.symm different), ih single]
    rfl

theorem splitOn_of_notMem (single : separator ∉ text) : text.splitOn separator = [text] := by
  have whole := splitOn_append_of_notMem single []
  rw [List.append_nil] at whole
  simpa using whole

/-- No piece has a separator in it. -/
theorem notMem_of_mem_splitOn {piece : List Char} (member : piece ∈ text.splitOn separator) :
    separator ∉ piece := by
  induction text generalizing piece with
  | nil =>
    cases List.mem_singleton.mp member
    exact List.not_mem_nil
  | cons c rest ih =>
    by_cases same : c = separator
    · subst same
      rcases List.mem_append.mp (splitOn_append_cons c [] rest ▸ member) with here | later
      · cases List.mem_singleton.mp here
        exact List.not_mem_nil
      · exact ih later
    · obtain ⟨first, others, split⟩ := exists_cons_splitOn separator rest
      rw [splitOn_cons_of_ne same, split] at member
      rw [split] at ih
      rcases List.mem_cons.mp member with rfl | later
      · intro inside
        rcases List.mem_cons.mp inside with here | inside
        · exact same here.symm
        · exact ih List.mem_cons_self inside
      · exact ih (List.mem_cons_of_mem _ later)

end NativeThunks.SplitTexts
