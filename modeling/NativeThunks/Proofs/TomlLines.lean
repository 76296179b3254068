import NativeThunks.Config.Document
import NativeThunks.Proofs.TomlQuotes

/-! TOML documents with one entry to a line. A document whose lines have different keys without
quotes is read as the table of its entries, in their order. -/
namespace NativeThunks.TomlLines
open Toml Toml.Scan TomlQuotes

/-- A step that is known lets the others go on behind it. -/
theorem bind_run {α β : Type} {step : Scan α} {others : α → Scan β} {text rest : List Char}
    {result : α} (run : step text = some (result, rest)) :
    (step >>= others) text = others result rest := by
  simp [bind, StateT.bind, run]

private theorem get_run (text : List Char) : (get : Scan (List Char)) text = some (text, text) := rfl

private theorem at_other {c d : Char} (other : c ≠ d) (rest : List Char) :
    at? d (c :: rest) = some (false, c :: rest) := by
  have different : (some c == some d) = false := by simpa using other
  rw [at?, bind_run (get_run _), List.head?_cons, different]
  rfl

/-- A key that needs no quotes. -/
structure Bare (key : String) : Prop where
  occupied : key.toList ≠ []
  bare : ∀ c ∈ key.toList, isBare c = true

/-- The blanks within a line. -/
def isBlank (c : Char) : Bool := c == ' ' || c == '\t'

/-- The characters with which a line begins that has no bare key in front. -/
def marks : List Char := [' ', '\t', '"', '\'', '[', '#', '\n', '\r']

private theorem bare_notMem {c : Char} (bare : isBare c = true) : c ∉ marks := by
  intro member
  simp only [marks, List.mem_cons, List.not_mem_nil, or_false] at member
  rcases member with rfl | rfl | rfl | rfl | rfl | rfl | rfl | rfl <;> exact absurd bare (by decide)

private theorem bare_cons {key : String} (bare : Bare key) :
    ∃ c more, key.toList = c :: more ∧ c ∉ marks := by
  obtain ⟨c, more, chars⟩ := List.exists_cons_of_ne_nil bare.occupied
  exact ⟨c, more, chars, bare_notMem (bare.bare c (chars ▸ List.mem_cons_self))⟩

private theorem blanks_solid {c : Char} {rest : List Char} (solid : isBlank c = false) :
    blanks (c :: rest) = some ((), c :: rest) := by
  simp only [isBlank] at solid
  simp [blanks, modify, modifyGet, MonadStateOf.modifyGet, StateT.modifyGet, solid]

private theorem blanks_space {c : Char} {rest : List Char} (solid : isBlank c = false) :
    blanks (' ' :: c :: rest) = some ((), c :: rest) := by
  simp only [isBlank] at solid
  simp [blanks, modify, modifyGet, MonadStateOf.modifyGet, StateT.modifyGet, solid]

private theorem isBlank_of_notMem {c : Char} (solid : c ∉ [' ', '\t']) : isBlank c = false := by
  simpa [isBlank] using solid

private theorem simpleKey_bare {key : String} (bare : Bare key) (rest : List Char) :
    simpleKey (key.toList ++ ' ' :: '=' :: rest) = some (key, '=' :: rest) := by
  obtain ⟨c, more, chars, other⟩ := bare_cons bare
  have taken : (key.toList ++ ' ' :: '=' :: rest).takeWhile isBare = key.toList := by
    rw [List.takeWhile_append_of_pos bare.bare]
    simp [isBare]
  have left : (key.toList ++ ' ' :: '=' :: rest).dropWhile isBare = ' ' :: '=' :: rest := by
    rw [List.dropWhile_append_of_pos bare.bare]
    simp [isBare]
  simp only [marks, List.mem_cons, List.not_mem_nil, or_false, not_or] at other
  have before : blanks (key.toList ++ ' ' :: '=' :: rest) =
      some ((), key.toList ++ ' ' :: '=' :: rest) := by
    rw [chars]
    exact blanks_solid (isBlank_of_notMem (by simp [other]))
  unfold simpleKey
  rw [bind_run before]
  refine (bind_run (show _ = some (key.toList, ' ' :: '=' :: rest) from ?_)).trans ?_
  · dsimp only [of]
    split
    · simp_all
    · simp_all
    · simp [taken, left, bare.occupied]
  · rw [bind_run (blanks_space (by decide)), String.ofList_toList]
    rfl

private theorem dottedKey_bare {key : String} (bare : Bare key) (rest : List Char) :
    dottedKey (key.toList ++ ' ' :: '=' :: rest) = some (([], key), '=' :: rest) := by
  have single : keyParts depthLimit ('=' :: rest) = some ([], '=' :: rest) := rfl
  rw [dottedKey, bind_run (simpleKey_bare bare rest), bind_run single]
  rfl

/-- A text of a value that is read up to the end of its line. -/
structure Written (text : List Char) (item : Item) : Prop where
  solid : ∃ c more, text = c :: more ∧ c ∉ [' ', '\t', '[', '\x7b']
  read : ∀ rest, scalar (text ++ '\n' :: rest) = some (item, '\n' :: rest)

private theorem value_written {text : List Char} {item : Item} (written : Written text item)
    (depth : Nat)
    (rest : List Char) : value (depth + 1) (text ++ '\n' :: rest) = some (item, '\n' :: rest) := by
  obtain ⟨c, more, rfl, other⟩ := written.solid
  simp only [List.mem_cons, List.not_mem_nil, or_false, not_or] at other
  have read := written.read rest
  rw [List.cons_append] at read ⊢
  rw [value, bind_run (get_run _)]
  rw [bind_run (at_other other.2.2.1 _), if_neg (by decide), bind_run (at_other other.2.2.2 _),
    if_neg (by decide)]
  exact read

theorem written_bool (value : Bool) : Written (Config.boolWord value).toList (.bool value) := by
  cases value
  · exact ⟨⟨'f', _, rfl, by decide⟩, fun _ => rfl⟩
  · exact ⟨⟨'t', _, rfl, by decide⟩, fun _ => rfl⟩

/-- A text in quotes begins with a quote. -/
theorem quote_cons (text : String) :
    ∃ c more, (quote text).toList = c :: more ∧ (c = '"' ∨ c = '\'') := by
  rw [quote, String.toList_ofList]
  cases (QuoteTraits.of text.toList).style with
  | basic | basicLines => exact ⟨_, _, rfl, .inl rfl⟩
  | literal | literalLines => exact ⟨_, _, rfl, .inr rfl⟩

theorem written_quote (text : String) : Written (quote text).toList (.string text) := by
  obtain ⟨c, more, chars, begins⟩ := quote_cons text
  refine ⟨⟨c, more, chars, ?_⟩, fun rest => ?_⟩
  · rcases begins with rfl | rfl <;> decide
  · have read : quotedText? ((quote text).toList ++ '\n' :: rest) =
        some (text.toList, '\n' :: rest) :=
      quotedText_quote text (by simp [Apart]) (by simp [Apart])
    rw [chars, List.cons_append] at read ⊢
    unfold scalar
    rw [bind_run (get_run _)]
    rcases begins with rfl | rfl
    all_goals
      apply (bind_run read).trans
      rw [String.ofList_toList]
      rfl

/-- The rest of a line from its key on. -/
def entryLine (builder : Builder) : Scan Builder := do
  let (path, key) ← dottedKey
  char '='
  blanks
  let item ← value (depthLimit - 1)
  let next ← (builder.addEntry path key item : Option Builder)
  lineEnd
  return next

/-- A line is one of a key and its value, unless it begins with something else. -/
theorem line_of_head {builder : Builder} {c : Char} (other : c ∉ marks) (rest : List Char) :
    line builder (c :: rest) = entryLine builder (c :: rest) := by
  simp only [marks, List.mem_cons, List.not_mem_nil, or_false, not_or] at other
  unfold line
  rw [bind_run (blanks_solid (isBlank_of_notMem (by simp [other]))), bind_run (get_run _)]
  refine congrFun (?_ : _ = entryLine builder) _
  split
  case h_7 => rfl
  all_goals simp_all

/-- A line with a bare key and a value adds them to the current table. -/
theorem line_entry (builder : Builder) {key : String} (bare : Bare key) {text : List Char}
    {item : Item} (written : Written text item) (rest : List Char) :
    line builder (key.toList ++ ' ' :: '=' :: ' ' :: (text ++ '\n' :: rest)) =
      (builder.addEntry [] key item).map (·, rest) := by
  have named := dottedKey_bare bare (' ' :: (text ++ '\n' :: rest))
  obtain ⟨c, more, chars, other⟩ := bare_cons bare
  obtain ⟨d, tail, first, solid⟩ := written.solid
  have equals : char '=' ('=' :: ' ' :: (text ++ '\n' :: rest)) =
      some ((), ' ' :: (text ++ '\n' :: rest)) := rfl
  have before : blanks (' ' :: (text ++ '\n' :: rest)) = some ((), text ++ '\n' :: rest) := by
    simp only [List.mem_cons, List.not_mem_nil, or_false, not_or] at solid
    rw [first]
    exact blanks_space (isBlank_of_notMem (by simp [solid]))
  have read := value_written written (depthLimit - 2) rest
  have started : line builder (key.toList ++ ' ' :: '=' :: ' ' :: (text ++ '\n' :: rest)) =
      entryLine builder (key.toList ++ ' ' :: '=' :: ' ' :: (text ++ '\n' :: rest)) := by
    rw [chars]
    exact line_of_head other _
  rw [started, entryLine, bind_run named]
  refine (bind_run equals).trans ((bind_run before).trans ((bind_run read).trans ?_))
  cases builder.addEntry [] key item <;> rfl

private theorem set_fresh {entries : Entries} {key : String} (fresh : key ∉ entries.map Prod.fst)
    (item : Item) : entries.set key item = entries ++ [(key, item)] := by
  induction entries with
  | nil => rfl
  | cons entry entries ih =>
    simp only [List.map_cons, List.mem_cons, not_or] at fresh
    rw [Entries.set, if_neg fun same => fresh.1 same.symm, ih fresh.2, List.cons_append]

private theorem get_fresh {entries : Entries} {key : String} (fresh : key ∉ entries.map Prod.fst) :
    entries.get? key = none := by
  have unknown : entries.find? (·.1 == key) = none := by
    rw [List.find?_eq_none]
    intro entry member same
    exact fresh (List.mem_map.mpr ⟨entry, member, beq_iff_eq.mp same⟩)
  rw [Entries.get?, unknown, Option.map_none]

/-- A key that the current table does not have comes last in it. -/
theorem addEntry_fresh {builder : Builder} {key : String}
    (fresh : key ∉ builder.current.map Prod.fst) (item : Item) :
    builder.addEntry [] key item =
      some { builder with current := builder.current ++ [(key, item)] } := by
  simp [Builder.addEntry, editAt, insertEntry, get_fresh fresh, set_fresh fresh]

/-- A key with the text of its value and the value. -/
structure Entry where
  key : String
  text : String
  item : Item

namespace Entry

/-- The line of an entry. -/
def chars (entry : Entry) : List Char :=
  entry.key.toList ++ ' ' :: '=' :: ' ' :: (entry.text.toList ++ ['\n'])

/-- The entry of the table. -/
def pair (entry : Entry) : String × Item := (entry.key, entry.item)

/-- Whether the line of an entry is read as the entry. -/
structure Readable (entry : Entry) : Prop where
  bare : Bare entry.key
  written : Written entry.text.toList entry.item

private theorem length_pos (entry : Entry) : 0 < entry.chars.length := by
  simp only [chars, List.length_append, List.length_cons]
  omega

end Entry

private theorem length_le_chars (entries : List Entry) :
    entries.length ≤ (entries.flatMap Entry.chars).length := by
  induction entries with
  | nil => exact Nat.zero_le _
  | cons entry entries ih =>
    have first := entry.length_pos
    rw [List.flatMap_cons, List.length_cons, List.length_append]
    omega

/-- Lines are read one by one. Each adds its entry to the current table. -/
theorem document_entries (entries : List Entry) {fuel : Nat} (enough : entries.length ≤ fuel)
    (builder : Builder) (readable : ∀ entry ∈ entries, entry.Readable)
    (distinct : (builder.current.map Prod.fst ++ entries.map Entry.key).Nodup) :
    document fuel builder (entries.flatMap Entry.chars) =
      some ({ builder with current := builder.current ++ entries.map Entry.pair }, []) := by
  induction entries generalizing fuel builder with
  | nil =>
    rw [List.map_nil, List.append_nil]
    cases fuel <;> rfl
  | cons entry entries ih =>
    obtain ⟨fuel, rfl⟩ : ∃ left, fuel = left + 1 :=
      ⟨fuel - 1, by rw [List.length_cons] at enough; omega⟩
    obtain ⟨itself, others⟩ := List.forall_mem_cons.mp readable
    have fresh : entry.key ∉ builder.current.map Prod.fst := by
      intro member
      exact (List.nodup_append.mp distinct).2.2 _ member _ List.mem_cons_self rfl
    have read := line_entry builder itself.bare itself.written (entries.flatMap Entry.chars)
    rw [addEntry_fresh fresh entry.item] at read
    have rest := ih (Nat.le_of_succ_le_succ enough)
      { builder with current := builder.current ++ [entry.pair] } others
      (by simpa [Entry.pair] using distinct)
    have begins : (entry :: entries).flatMap Entry.chars = entry.key.toList ++ ' ' :: '=' :: ' ' ::
        (entry.text.toList ++ '\n' :: entries.flatMap Entry.chars) := by
      simp [Entry.chars]
    rw [begins, document, bind_run (get_run _), if_neg (by simp)]
    refine (bind_run read).trans (rest.trans ?_)
    simp

/-- A document of such lines is the table of their entries. -/
theorem ofText_entries {text : String} {entries : List Entry}
    (lines : text.toList = entries.flatMap Entry.chars)
    (readable : ∀ entry ∈ entries, entry.Readable)
    (distinct : (entries.map Entry.key).Nodup) :
    ofText? text = some (entries.map Entry.pair) := by
  have read := document_entries entries (length_le_chars entries) {} readable distinct
  have unmarked : ∀ rest, entries.flatMap Entry.chars ≠ '\ufeff' :: rest := by
    intro rest marked
    cases entries with
    | nil => cases marked
    | cons entry entries =>
      obtain ⟨c, more, chars⟩ :=
        List.exists_cons_of_ne_nil (readable entry List.mem_cons_self).bare.occupied
      have bare := (readable entry List.mem_cons_self).bare.bare c (chars ▸ List.mem_cons_self)
      simp only [List.flatMap_cons, Entry.chars, chars, List.cons_append, List.cons.injEq] at marked
      rw [marked.1] at bare
      exact absurd bare (by decide)
  unfold ofText?
  rw [lines]
  split
  case h_1 chars marked => exact absurd marked (unmarked _)
  case h_2 =>
    simp only [StateT.run, read]
    rfl

end NativeThunks.TomlLines
