import NativeThunks.Proofs.RenderedLines
import NativeThunks.Proofs.SplitTexts
import NativeThunks.Text.Character

/-! Blocks as a reader of a text sees them. A line that ends with an opening brace begins a block, unless it
is a comment, and a line that is a closing brace ends one; so the depth of every line is told from the
lines in front of it. Said here is what a reader finds in rendered lines: wherever their contents look like
what they are, each of them stands behind four blanks for every block that it is in. -/
namespace NativeThunks.BlockDepth
open RenderedLines SplitTexts Text

/-- The lines of a text. Behind the last line feed there is one more, which may be empty. -/
def linesOf (text : String) : List (List Char) := text.toList.splitOn '\n'

/-- A line without the blanks in front of it. -/
def ownText (line : List Char) : List Char := line.dropWhile (· == ' ')

/-- Whether a line is a comment. -/
def isComment (line : List Char) : Bool := ['/', '/'].isPrefixOf (ownText line)

/-- Whether a line begins a block. -/
def opens (line : List Char) : Bool := line.getLast? == some '\x7b' && !isComment line

/-- Whether a line ends a block. -/
def closes (line : List Char) : Bool := ownText line == ['\x7d']

/-- The number of open blocks behind a line, unless it ends one where none is open. -/
def depthBehind? (depth : Nat) (line : List Char) : Option Nat :=
  if opens line then some (depth + 1)
  else if closes line then if depth = 0 then none else some (depth - 1)
  else some depth

/-- The number of open blocks behind some lines, unless a block is ended that was not begun. -/
def depthAfter? (depth : Nat) (lines : List (List Char)) : Option Nat := lines.foldlM depthBehind? depth

/-- The depth of a line: the number of blocks that are open in front of it. A line that ends a block is as
deep as what follows it. -/
def depthOf? (front : List (List Char)) (line : List Char) : Option Nat :=
  depthAfter? 0 (if closes line then front ++ [line] else front)

/-- Four blanks for every level. -/
def blanks (level : Nat) : List Char := List.replicate (4 * level) ' '

/-- Whether a text begins with white space. -/
def leadsBlank (text : List Char) : Bool := text.head?.any isWhiteSpace

/-- The level behind a line. -/
def levelAfter (level : Nat) : Line → Nat
  | .opening _ => level + 1
  | .closing => level - 1
  | .text _ | .blank => level

/-- The text of a line, without its indentation. -/
def contentOf : Line → List Char
  | .text content | .opening content => content.toList
  | .closing => ['\x7d']
  | .blank => []

/-- A line as it is written at a level. -/
def written (level : Nat) : Line → List Char
  | .text content | .opening content => blanks level ++ content.toList
  | .closing => blanks (level - 1) ++ ['\x7d']
  | .blank => []

/-- Lines as they are written from a level on. -/
def writtenAll : Nat → List Line → List (List Char)
  | _, [] => []
  | level, line :: rest => written level line :: writtenAll (levelAfter level line) rest

/-- The level behind some lines. -/
def levelAfterAll (level : Nat) (lines : List Line) : Nat := lines.foldl levelAfter level

private theorem toList_indentation (level : Nat) : (indentation level).toList = blanks level := by
  induction level with
  | zero => rfl
  | succ level ih =>
    rw [indentation, String.toList_append, ih, blanks, blanks, Nat.mul_succ, Nat.add_comm,
      ← List.replicate_append_replicate]
    rfl

/-- A line is put as it is written, with a line feed behind it. -/
theorem put_written (level : Nat) (line : Line) :
    ((Writer.ofLevel level).put line).text.toList = written level line ++ ['\n'] ∧
      ((Writer.ofLevel level).put line).level = levelAfter level line := by
  cases line <;>
    simp [Writer.put, Writer.line, Writer.openBlock, Writer.closeBlock, Writer.blank, Writer.append,
      Writer.indent, Writer.dedent, Writer.ofLevel, written, levelAfter, toList_indentation]

private theorem putAll_level (writer : Writer) (lines : List Line) :
    (writer.putAll lines).level = levelAfterAll writer.level lines := by
  induction lines generalizing writer with
  | nil => rfl
  | cons line rest ih =>
    have step : (writer.put line).level = levelAfter writer.level line :=
      (put_split writer line).2.trans (put_written writer.level line).2
    exact (ih (writer.put line)).trans (congrArg (levelAfterAll · rest) step)

private theorem toList_render (level : Nat) (lines : List Line) :
    (render level lines).toList = (writtenAll level lines).flatMap (· ++ ['\n']) := by
  induction lines generalizing level with
  | nil => rfl
  | cons line rest ih =>
    obtain ⟨text, after⟩ := put_written level line
    rw [render_cons, String.toList_append, text, after, ih, writtenAll, List.flatMap_cons]

/-- A line whose text has no line feed in it. -/
def Unbroken (line : Line) : Prop := '\n' ∉ contentOf line

private theorem unbroken_written {line : Line} (unbroken : Unbroken line) (level : Nat) :
    '\n' ∉ written level line := by
  have blank : '\n' ∉ blanks level := by simp [blanks]
  have outer : '\n' ∉ blanks (level - 1) := by simp [blanks]
  cases line <;> simp_all [Unbroken, contentOf, written]

/-- A text is split into the lines that were written. -/
theorem linesOf_render {lines : List Line} (unbroken : ∀ line ∈ lines, Unbroken line) (level : Nat) :
    linesOf (render level lines) = writtenAll level lines ++ [[]] := by
  rw [linesOf, toList_render]
  induction lines generalizing level with
  | nil => rfl
  | cons line rest ih =>
    obtain ⟨first, later⟩ := List.forall_mem_cons.mp unbroken
    rw [writtenAll, List.flatMap_cons, List.append_assoc, List.singleton_append, splitOn_append_cons,
      splitOn_of_notMem (unbroken_written first level), ih later, List.singleton_append,
      List.cons_append]

/-- A line that looks like what it is. -/
def Legible : Line → Prop
  | .text content => opens content.toList = false ∧ closes content.toList = false
  | .opening content => opens content.toList = true
  | .closing | .blank => True

private theorem ownText_blanks (level : Nat) (text : List Char) :
    ownText (blanks level ++ text) = ownText text := by
  unfold ownText blanks
  rw [List.dropWhile_append_of_pos]
  simp

private theorem opens_blanks (level : Nat) (text : List Char) :
    opens (blanks level ++ text) = opens text := by
  unfold opens isComment
  rw [ownText_blanks, List.getLast?_append]
  cases text.getLast? with
  | some c => rfl
  | none =>
    have other : (blanks level).getLast? ≠ some '\x7b' := by
      intro last
      exact absurd (List.eq_of_mem_replicate (List.mem_of_getLast? last)) (by decide)
    simp [other]

private theorem closes_blanks (level : Nat) (text : List Char) :
    closes (blanks level ++ text) = closes text := by
  rw [closes, closes, ownText_blanks]

/-- What a line ends with tells whether it begins a block. -/
theorem opens_of_getLast {line : List Char} {last : Char} (ends : line.getLast? = some last)
    (other : last ≠ '\x7b') : opens line = false := by
  simp [opens, ends, other]

/-- A line that begins like no comment begins a block if it ends with an opening brace. -/
theorem opens_of_head {line : List Char} {first : Char} (begins : line.head? = some first)
    (flush : first ≠ ' ') (other : first ≠ '/') (ends : line.getLast? = some '\x7b') :
    opens line = true := by
  obtain ⟨rest, rfl⟩ := List.head?_eq_some_iff.mp begins
  have uncommented : isComment (first :: rest) = false := by
    simp [isComment, ownText, List.isPrefixOf, flush, other.symm]
  simp [opens, ends, uncommented]

/-- A line that ends a block has a closing brace at its end. -/
theorem getLast_of_closes {line : List Char} (closing : closes line = true) :
    line.getLast? = some '\x7d' := by
  have own : ownText line = ['\x7d'] := beq_iff_eq.mp closing
  have suffix : ownText line <:+ line := List.dropWhile_suffix _
  obtain ⟨front, split⟩ := suffix
  rw [← split, own, List.getLast?_concat]

theorem closes_of_getLast {line : List Char} {last : Char} (ends : line.getLast? = some last)
    (other : last ≠ '\x7d') : closes line = false := by
  refine Bool.eq_false_iff.mpr fun closing => other ?_
  exact Option.some.inj (ends.symm.trans (getLast_of_closes closing))

theorem closes_of_head {line : List Char} {first : Char} (begins : line.head? = some first)
    (flush : first ≠ ' ') (other : first ≠ '\x7d') : closes line = false := by
  obtain ⟨rest, rfl⟩ := List.head?_eq_some_iff.mp begins
  simp [closes, ownText, flush, other]

private theorem not_closes_of_opens {line : List Char} (opening : opens line = true) :
    closes line = false := by
  refine closes_of_getLast (beq_iff_eq.mp (Bool.and_eq_true_iff.mp opening).1) (by decide)

/-- A line that looks like what it is has the effect on the depth that it has on the level. -/
theorem depthBehind_written {line : Line} (legible : Legible line) (level : Nat) :
    depthBehind? level (written level line) =
      if line = .closing ∧ level = 0 then none else some (levelAfter level line) := by
  unfold depthBehind?
  cases line with
  | text content => simp [written, opens_blanks, closes_blanks, legible.1, legible.2, levelAfter]
  | opening content =>
    have opening : opens content.toList = true := legible
    simp [written, opens_blanks, opening, levelAfter]
  | closing =>
    have other : opens ['\x7d'] = false := by decide
    have closing : closes ['\x7d'] = true := by decide
    simp [written, opens_blanks, closes_blanks, other, closing, levelAfter]
  | blank =>
    have opening : opens [] = false := by decide
    have closing : closes [] = false := by decide
    simp [written, opening, closing, levelAfter]

private theorem depthAfter_append (depth : Nat) (front behind : List (List Char)) :
    depthAfter? depth (front ++ behind) =
      (depthAfter? depth front).bind fun middle => depthAfter? middle behind :=
  List.foldlM_append

/-- A reader who gets through the lines counts the levels of the writer. -/
theorem depthAfter_writtenAll {lines : List Line} (legible : ∀ line ∈ lines, Legible line)
    {level depth : Nat} (through : depthAfter? level (writtenAll level lines) = some depth) :
    depth = levelAfterAll level lines := by
  induction lines generalizing level with
  | nil => exact (Option.some.inj through).symm
  | cons line rest ih =>
    obtain ⟨first, later⟩ := List.forall_mem_cons.mp legible
    rw [depthAfter?, writtenAll, List.foldlM_cons, depthBehind_written first] at through
    split at through
    · cases through
    · exact ih later through

private theorem writtenAll_append (level : Nat) (front behind : List Line) :
    writtenAll level (front ++ behind) =
      writtenAll level front ++ writtenAll (levelAfterAll level front) behind := by
  induction front generalizing level with
  | nil => rfl
  | cons line rest ih => simp [writtenAll, ih, levelAfterAll]

private theorem levelAfterAll_balanced {lines : List Line} (balanced : Balanced lines) (level : Nat) :
    levelAfterAll level lines = level :=
  (putAll_level (Writer.ofLevel level) lines).symm.trans (balanced.level (Writer.ofLevel level))

private theorem depthAfter_singleton {line : Line} (legible : Legible line) (level : Nat) :
    depthAfter? level (writtenAll level [line]) =
      if line = .closing ∧ level = 0 then none else some (levelAfter level line) := by
  rw [← depthBehind_written legible]
  exact bind_pure _

/-- Balanced lines end no block that they did not begin, and leave none open. -/
theorem depthAfter_balanced {lines : List Line} (balanced : Balanced lines)
    (legible : ∀ line ∈ lines, Legible line) (level : Nat) :
    depthAfter? level (writtenAll level lines) = some level := by
  have closing : Legible .closing := trivial
  induction balanced generalizing level with
  | nil => rfl
  | text content => exact depthAfter_singleton (legible _ List.mem_cons_self) level
  | blank => exact depthAfter_singleton (legible _ List.mem_cons_self) level
  | block content inner inside ih =>
    obtain ⟨first, later⟩ := List.forall_mem_cons.mp legible
    have within := ih (fun line member => later line (List.mem_append_left _ member)) (level + 1)
    have opened : depthAfter? level (writtenAll level [.opening content]) = some (level + 1) :=
      depthAfter_singleton first level
    have closed : depthAfter? (level + 1) (writtenAll (level + 1) [.closing]) = some level :=
      depthAfter_singleton closing (level + 1)
    have lines : writtenAll level (.opening content :: (inner ++ [.closing])) =
        writtenAll level [.opening content] ++
          (writtenAll (level + 1) inner ++ writtenAll (level + 1) [.closing]) := by
      rw [writtenAll, writtenAll_append, levelAfter, levelAfterAll_balanced inside]
      rfl
    rw [lines, depthAfter_append, opened, Option.bind_some, depthAfter_append, within,
      Option.bind_some, closed]
  | append first second firstIh secondIh =>
    obtain ⟨front, behind⟩ := List.forall_mem_append.mp legible
    rw [writtenAll_append, levelAfterAll_balanced first, depthAfter_append, firstIh front level,
      Option.bind_some, secondIh behind level]

/-- Behind lines that end no block too many, a line stands behind the blanks of its depth. -/
theorem depthOf_written {front : List Line} {line : Line} {depth : Nat}
    (legible : ∀ earlier ∈ front, Legible earlier) (last : Legible line) (visible : line ≠ .blank)
    (through : depthAfter? 0 (writtenAll 0 (front ++ [line])) = some depth) :
    ∃ own, depthOf? (writtenAll 0 front) (written (levelAfterAll 0 front) line) = some own ∧
      written (levelAfterAll 0 front) line = blanks own ++ contentOf line := by
  have whole := through
  rw [writtenAll_append, depthAfter_append] at through
  obtain ⟨level, before, behind⟩ := Option.bind_eq_some_iff.mp through
  obtain rfl := depthAfter_writtenAll legible before
  unfold depthOf?
  cases line with
  | text text =>
    rw [written, closes_blanks, last.2]
    exact ⟨_, before, rfl⟩
  | opening text =>
    rw [written, closes_blanks, not_closes_of_opens last]
    exact ⟨_, before, rfl⟩
  | closing =>
    rw [depthAfter_singleton last] at behind
    split at behind
    · cases behind
    · have closing : closes ['\x7d'] = true := by decide
      rw [written, closes_blanks, closing]
      rw [writtenAll_append] at whole
      exact ⟨depth, whole, by rw [← Option.some.inj behind]; rfl⟩
  | blank => exact absurd rfl visible

/-- Wherever written lines are split, the lines are split there as well. -/
theorem exists_of_writtenAll {lines : List Line} {level : Nat} {front rest : List (List Char)}
    {text : List Char} (split : writtenAll level lines = front ++ text :: rest) :
    ∃ before line after, lines = before ++ line :: after ∧ front = writtenAll level before ∧
      text = written (levelAfterAll level before) line := by
  induction lines generalizing level front with
  | nil => simp [writtenAll] at split
  | cons line lines ih =>
    cases front with
    | nil =>
      obtain ⟨here, -⟩ := List.cons_eq_cons.mp split
      exact ⟨[], line, lines, rfl, rfl, here.symm⟩
    | cons first front =>
      obtain ⟨here, later⟩ := List.cons_eq_cons.mp split
      obtain ⟨before, found, after, rfl, rfl, rfl⟩ := ih later
      exact ⟨line :: before, found, after, rfl, by rw [writtenAll, here], rfl⟩

section
variable {lines : List Line} (balanced : Balanced lines) (legible : ∀ line ∈ lines, Legible line)
  (unbroken : ∀ line ∈ lines, Unbroken line)
include balanced legible

/-- Every line of balanced lines stands behind the blanks of its depth. -/
theorem depthOf_balanced {before after : List Line} {line : Line}
    (split : lines = before ++ line :: after) (visible : line ≠ .blank) :
    ∃ depth, depthOf? (writtenAll 0 before) (written (levelAfterAll 0 before) line) = some depth ∧
      written (levelAfterAll 0 before) line = blanks depth ++ contentOf line := by
  have through := depthAfter_balanced balanced legible 0
  have regroup : lines = (before ++ [line]) ++ after := by simp [split]
  rw [regroup, writtenAll_append, depthAfter_append] at through
  obtain ⟨_, through, -⟩ := Option.bind_eq_some_iff.mp through
  rw [split] at legible
  obtain ⟨earlier, later⟩ := List.forall_mem_append.mp legible
  exact depthOf_written earlier (later line List.mem_cons_self) visible through

include unbroken

/-- Balanced lines that look like what they are end every block, and none that was not begun. -/
theorem depthAfter_render : depthAfter? 0 (linesOf (render 0 lines)) = some 0 := by
  rw [linesOf_render unbroken, depthAfter_append, depthAfter_balanced balanced legible]
  rfl

/-- A line of the text that is not empty is one of the lines, behind the blanks of its depth. -/
theorem line_of_render {front rest : List (List Char)} {text : List Char}
    (split : linesOf (render 0 lines) = front ++ text :: rest) (visible : text ≠ []) :
    ∃ line ∈ lines, ∃ depth, depthOf? front text = some depth ∧
      text = blanks depth ++ contentOf line := by
  rw [linesOf_render unbroken] at split
  rcases List.eq_nil_or_concat rest with rfl | ⟨rest, last, rfl⟩
  · have alone := (List.append_inj' split rfl).2
    exact absurd (List.cons_eq_cons.mp alone).1.symm visible
  · have inner : writtenAll 0 lines = front ++ text :: rest := by
      rw [List.concat_eq_append, ← List.cons_append, ← List.append_assoc] at split
      exact (List.append_inj' split rfl).1
    obtain ⟨before, line, after, lines_split, rfl, rfl⟩ := exists_of_writtenAll inner
    have shown : line ≠ .blank := by
      rintro rfl
      exact visible rfl
    obtain ⟨depth, found, own⟩ := depthOf_balanced balanced legible lines_split shown
    exact ⟨line, by simp [lines_split], depth, found, own⟩

/-- Every line but the empty ones stands in the text behind the blanks of its depth. -/
theorem render_of_line {line : Line} (member : line ∈ lines) (visible : line ≠ .blank) :
    ∃ front rest depth, linesOf (render 0 lines) = front ++ (blanks depth ++ contentOf line) :: rest ∧
      depthOf? front (blanks depth ++ contentOf line) = some depth := by
  obtain ⟨before, after, split⟩ := List.append_of_mem member
  obtain ⟨depth, found, own⟩ := depthOf_balanced balanced legible split visible
  rw [own] at found
  refine ⟨writtenAll 0 before,
    writtenAll (levelAfter (levelAfterAll 0 before) line) after ++ [[]], depth, ?_, found⟩
  rw [linesOf_render unbroken, split, writtenAll_append, writtenAll, own, List.append_assoc,
    List.cons_append]

end
end NativeThunks.BlockDepth
