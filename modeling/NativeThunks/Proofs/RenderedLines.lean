import NativeThunks.Layout

/-! Rendered lines. What a line adds to a text depends on the level alone that it is written at, so
lines can be rendered part by part as long as every part ends at the level it began at. Such parts
are put together from lines and whole blocks, and a block is rendered as its two braces around its
inner lines, one level deeper. -/
namespace NativeThunks.RenderedLines

/-- A line is added behind what is there, at a level that does not depend on it. -/
theorem put_split (writer : Writer) (line : Line) :
    (writer.put line).text = writer.text ++ ((Writer.ofLevel writer.level).put line).text ∧
      (writer.put line).level = ((Writer.ofLevel writer.level).put line).level := by
  cases line <;>
    simp [Writer.put, Writer.openBlock, Writer.closeBlock, Writer.line, Writer.blank,
      Writer.append, Writer.indent, Writer.dedent, Writer.ofLevel]

theorem putAll_text (writer : Writer) (lines : List Line) :
    (writer.putAll lines).text = writer.text ++ render writer.level lines := by
  induction lines generalizing writer with
  | nil => simp [Writer.putAll, render, Writer.ofLevel]
  | cons line rest ih =>
    obtain ⟨text, level⟩ := put_split writer line
    have first : render writer.level (line :: rest) =
        ((Writer.ofLevel writer.level).put line).text ++
          render ((Writer.ofLevel writer.level).put line).level rest :=
      ih ((Writer.ofLevel writer.level).put line)
    rw [first, ← level, ← String.append_assoc, ← text]
    exact ih (writer.put line)

theorem putAll_append (writer : Writer) (front behind : List Line) :
    writer.putAll (front ++ behind) = (writer.putAll front).putAll behind := List.foldl_append

/-- Lines in which every block that is opened is closed, and no other. -/
inductive Balanced : List Line → Prop where
  | nil : Balanced []
  | text (content : String) : Balanced [.text content]
  | blank : Balanced [.blank]
  | block (content : String) (inner : List Line) (inside : Balanced inner) :
      Balanced (.opening content :: (inner ++ [.closing]))
  | append {front behind : List Line} (first : Balanced front) (second : Balanced behind) :
      Balanced (front ++ behind)

/-- One more line that is neither end of a block. -/
theorem Balanced.cons_text {rest : List Line} (content : String) (balanced : Balanced rest) :
    Balanced (.text content :: rest) := .append (.text content) balanced

theorem Balanced.cons_blank {rest : List Line} (balanced : Balanced rest) :
    Balanced (.blank :: rest) := .append .blank balanced

theorem Balanced.flatMap {α : Type} {items : List α} {lines : α → List Line}
    (each : ∀ item ∈ items, Balanced (lines item)) : Balanced (items.flatMap lines) := by
  induction items with
  | nil => exact .nil
  | cons item rest ih =>
    rw [List.flatMap_cons]
    exact .append (each item List.mem_cons_self)
      (ih fun later member => each later (List.mem_cons_of_mem _ member))

/-- Balanced lines end at the level they begin at. -/
theorem Balanced.level {lines : List Line} (balanced : Balanced lines) (writer : Writer) :
    (writer.putAll lines).level = writer.level := by
  induction balanced generalizing writer with
  | nil => rfl
  | text content => rfl
  | blank => rfl
  | block content inner inside ih =>
    have closed : writer.putAll (.opening content :: (inner ++ [.closing])) =
        ((writer.openBlock content).putAll inner).closeBlock := putAll_append _ _ _
    have opened : ((writer.openBlock content).putAll inner).level = writer.level + 1 := ih _
    rw [closed]
    show ((writer.openBlock content).putAll inner).level - 1 = writer.level
    rw [opened, Nat.add_sub_cancel]
  | append first second firstIh secondIh => rw [putAll_append, secondIh, firstIh]

/-- Balanced lines are followed by others as if these stood alone. -/
theorem render_append {level : Nat} {front : List Line} (balanced : Balanced front)
    (behind : List Line) :
    render level (front ++ behind) = render level front ++ render level behind := by
  have split := putAll_text ((Writer.ofLevel level).putAll front) behind
  rw [balanced.level] at split
  rw [render, putAll_append, split]
  rfl

/-- The rest of a text is rendered from the level on that the first line leaves. -/
theorem render_cons (level : Nat) (line : Line) (rest : List Line) :
    render level (line :: rest) = ((Writer.ofLevel level).put line).text ++
      render ((Writer.ofLevel level).put line).level rest := putAll_text _ rest

@[simp] theorem render_blank (level : Nat) (rest : List Line) :
    render level (.blank :: rest) = "\n" ++ render level rest := by
  simp [render_cons, Writer.put, Writer.blank, Writer.append, Writer.ofLevel]

@[simp] theorem render_text (level : Nat) (content : String) (rest : List Line) :
    render level (.text content :: rest) =
      indentation level ++ content ++ "\n" ++ render level rest := by
  simp [render_cons, Writer.put, Writer.line, Writer.append, Writer.ofLevel]

/-- Balanced parts are rendered one behind the other. -/
theorem render_flatMap {α : Type} {level : Nat} {items : List α} {lines : α → List Line}
    (each : ∀ item ∈ items, Balanced (lines item)) :
    render level (items.flatMap lines) =
      String.join (items.map fun item => render level (lines item)) := by
  induction items with
  | nil => rfl
  | cons item rest ih =>
    have later := ih fun other member => each other (List.mem_cons_of_mem _ member)
    rw [List.flatMap_cons, render_append (each item List.mem_cons_self), later]
    simp

/-- A block is rendered as its two ends around its inner lines, which are one level deeper. -/
theorem render_block (level : Nat) (content : String) {inner : List Line}
    (inside : Balanced inner) :
    render level (.opening content :: (inner ++ [.closing])) =
      indentation level ++ content ++ "\n" ++ render (level + 1) inner ++
        indentation level ++ "\x7d\n" := by
  have closing : render (level + 1) [.closing] = indentation level ++ "\x7d\n" := by
    simp [render, Writer.putAll, Writer.put, Writer.closeBlock, Writer.dedent, Writer.line,
      Writer.append, Writer.ofLevel, String.append_assoc]
  have opened : ((Writer.ofLevel level).put (.opening content)).level = level + 1 := rfl
  rw [render_cons, opened, render_append inside, closing]
  simp [Writer.put, Writer.openBlock, Writer.line, Writer.append, Writer.indent, Writer.ofLevel,
    String.append_assoc]

end NativeThunks.RenderedLines
