import NativeThunks.Proofs.BracketedTexts
import NativeThunks.Proofs.TightTypes

/-! Types behind a pointer or a reference, and behind a reference in angle brackets. Such a front is
read the same in front of every text, unless a byte order mark begins the text, and it leaves the rules
with a type where no sum of bounds is welcome. -/
namespace NativeThunks.TypeFronts
open BracketedTexts Grammar GrammarDepth LexedNames TightTypes

variable {chars rest : List Char}

/-- With more fuel the lexer finds the same. -/
theorem lexemes_more {fuel : Nat} {lexemes : List Lexeme} (ran : lexemes? fuel chars = some lexemes)
    (more : Nat) : lexemes? (fuel + more) chars = some lexemes := by
  induction fuel generalizing chars lexemes with
  | zero =>
    cases chars with
    | nil => exact (lexemes_nil _).trans ran
    | cons c rest => cases ran
  | succ fuel ih =>
    cases chars with
    | nil => exact (lexemes_nil _).trans ran
    | cons c rest =>
      obtain ⟨found, behind, later, front, there, rfl⟩ := lexemes_cons ran
      rw [Nat.succ_add, lexemes_front front, ih there]
      rfl

/-- The lexer comes from a text to its rest with these lexemes, whatever the rest is read as. -/
def Takes (chars : List Char) (found : List Lexeme) (rest : List Char) : Prop :=
  ∃ steps, steps + rest.length ≤ chars.length ∧
    ∀ fuel, lexemes? (fuel + steps) chars = (lexemes? fuel rest).map (found ++ ·)

theorem Takes.here (chars : List Char) : Takes chars [] chars :=
  ⟨0, by simp, fun fuel => by cases lexemes? fuel chars <;> simp⟩

theorem Takes.next {found more : List Lexeme} {behind : List Char} (front : Front chars found behind)
    (shorter : behind.length < chars.length) (later : Takes behind more rest) :
    Takes chars (found ++ more) rest := by
  obtain ⟨steps, long, ran⟩ := later
  refine ⟨steps + 1, by omega, ?_⟩
  intro fuel
  rw [← Nat.add_assoc, lexemes_front front, ran, Option.map_map]
  simp [Function.comp_def]

theorem Takes.leaf {c : Char} {behind : List Char} {tree : Tree} {front : List Tree}
    (later : Takes behind (front.map .leaf) rest) (shorter : behind.length < (c :: chars).length)
    (solid : trivia? (c :: chars) = none) (unmarked : errorText.isPrefixOf (c :: chars) = false)
    (plain : bracket? c = none) (read : leaf? (c :: chars) = some (tree, behind)) :
    Takes (c :: chars) ((tree :: front).map .leaf) rest :=
  .next (.leaf solid unmarked plain read) shorter later

theorem Takes.blank {c : Char} {found : List Lexeme} (later : Takes chars found rest)
    (skipped : trivia? (c :: chars) = some ([], chars)) : Takes (c :: chars) found rest :=
  .next (.trivia skipped) (Nat.lt_succ_self _) later

theorem Takes.lexemes {found lexemes : List Lexeme} (takes : Takes chars found rest)
    (ran : lexemes? rest.length rest = some lexemes) :
    lexemes? chars.length chars = some (found ++ lexemes) := by
  obtain ⟨steps, long, all⟩ := takes
  obtain ⟨more, length⟩ := Nat.exists_eq_add_of_le long
  rw [show chars.length = rest.length + more + steps by omega, all, lexemes_more ran]
  rfl

/-- A text of which the lexer makes nothing. -/
def Unreadable (chars : List Char) : Prop := ∀ fuel, lexemes? fuel chars = none

theorem Takes.unreadable {found : List Lexeme} (takes : Takes chars found rest)
    (unreadable : Unreadable rest) : Unreadable chars := by
  obtain ⟨steps, _, all⟩ := takes
  intro fuel
  by_contra readable
  obtain ⟨lexemes, ran⟩ := Option.ne_none_iff_exists'.mp readable
  have more := lexemes_more ran steps
  rw [all, unreadable] at more
  cases more

/-- A byte order mark is read only at the start of a text. -/
theorem unreadable_mark (chars : List Char) : Unreadable ('\ufeff' :: chars) := by
  intro fuel
  cases fuel with
  | zero => rfl
  | succ fuel =>
    have letter : isWordStart '\ufeff' = false := by decide +kernel
    have word : takeAnyWord? ('\ufeff' :: chars) = none := by
      rw [takeAnyWord_plain (by simp), takeWord?, letter]
      rfl
    have plain : leaf? ('\ufeff' :: chars) = none := by
      unfold leaf?
      rw [word]
      rfl
    simp only [lexemes?, plain]
    rfl

/-- Trees below a level are below the result. -/
theorem nest_below (base : List Tree) (lexemes : List Lexeme) : (∀ level,
      nest lexemes [] (level ++ base) = (nest lexemes [] level).map (base.reverse ++ ·)) ∧
    ∀ pending delimiter outer level, nest lexemes (pending ++ [(delimiter, outer ++ base)]) level =
      (nest lexemes (pending ++ [(delimiter, outer)]) level).map (base.reverse ++ ·) := by
  induction lexemes with
  | nil =>
    refine ⟨fun level => by simp [nest], ?_⟩
    intro pending delimiter outer level
    cases pending <;> rfl
  | cons lexeme rest ih =>
    obtain ⟨flat, deep⟩ := ih
    cases lexeme with
    | leaf tree =>
      constructor
      · intro level
        exact flat (tree :: level)
      · intro pending opened outer level
        exact deep pending opened outer (tree :: level)
    | opening delimiter =>
      constructor
      · intro level
        exact deep [] delimiter level []
      · intro pending opened outer level
        exact deep ((delimiter, level) :: pending) opened outer []
    | closing delimiter =>
      refine ⟨fun _ => rfl, ?_⟩
      intro pending opened outer level
      cases pending with
      | nil =>
        simp only [List.nil_append, nest]
        split
        · exact flat (.group delimiter level.reverse :: outer)
        · rfl
      | cons first pending =>
        simp only [List.cons_append, nest]
        split
        · exact deep _ _ _ _
        · rfl

private theorem nest_front (front : List Tree) (lexemes : List Lexeme) :
    nest (front.map .leaf ++ lexemes) [] [] = (nest lexemes [] []).map (front ++ ·) := by
  have leaves : ∀ level, nest (front.map .leaf) [] level = some (level.reverse ++ front) := by
    induction front with
    | nil => simp [nest]
    | cons tree front ih => exact fun level => (ih (tree :: level)).trans (by simp)
  have below := (nest_below front.reverse lexemes).1 []
  rw [List.nil_append, List.reverse_reverse] at below
  rw [nest_append (leaves []), List.reverse_nil, List.nil_append, below]

theorem Takes.ofText {front : List Tree} {text rest : String}
    (takes : Takes text.toList (front.map .leaf) rest.toList)
    (unmarked : dropByteOrderMark text.toList = text.toList)
    (unmarked' : dropByteOrderMark rest.toList = rest.toList)
    {trees : List Tree}
    (lexed : Tree.ofText? rest = some trees) : Tree.ofText? text = some (front ++ trees) := by
  simp only [Tree.ofText?, unmarked, unmarked'] at lexed ⊢
  obtain ⟨lexemes, ran, matched⟩ := Option.bind_eq_some_iff.mp lexed
  rw [takes.lexemes ran, Option.bind_some, nest_front, matched]
  rfl

/-- What may stand in front of a type. -/
inductive Sigil where
  | mutPointer
  | constPointer
  | mutReference
  | reference
deriving DecidableEq

namespace Sigil

def text : Sigil → String
  | .mutPointer => "*mut "
  | .constPointer => "*const "
  | .mutReference => "&mut "
  | .reference => "&"

/-- The tokens of a front; an ampersand may be joint with what stands behind it. -/
def trees (joint : Bool) : Sigil → List Tree
  | .mutPointer => [.mark '*' false, .word "mut"]
  | .constPointer => [.mark '*' false, .word "const"]
  | .mutReference => [.mark '&' false, .word "mut"]
  | .reference => [.mark '&' joint]

/-- A lifetime behind a reference belongs to the reference. -/
def admits : Sigil → List Tree → Bool
  | .reference, trees => !atLifetime trees
  | _, _ => true

theorem takes (sigil : Sigil) (rest : List Char) :
    ∃ joint, Takes (sigil.text.toList ++ rest) ((sigil.trees joint).map .leaf) rest := by
  have blank : Takes (' ' :: rest) (([] : List Tree).map .leaf) rest := .blank (.here rest) rfl
  have mutable : Takes ('m' :: 'u' :: 't' :: ' ' :: rest) ([.word "mut"].map .leaf) rest :=
    .leaf blank (by simp) rfl rfl rfl rfl
  have constant : Takes ('c' :: 'o' :: 'n' :: 's' :: 't' :: ' ' :: rest)
      ([.word "const"].map .leaf) rest := .leaf blank (by simp) rfl rfl rfl rfl
  cases sigil with
  | mutPointer => exact ⟨false, .leaf mutable (Nat.lt_succ_self _) rfl rfl rfl rfl⟩
  | constPointer => exact ⟨false, .leaf constant (Nat.lt_succ_self _) rfl rfl rfl rfl⟩
  | mutReference => exact ⟨false, .leaf mutable (Nat.lt_succ_self _) rfl rfl rfl rfl⟩
  | reference => exact ⟨_, .leaf (.here rest) (Nat.lt_succ_self _) rfl rfl rfl rfl⟩

theorem unmarked (sigil : Sigil) (rest : List Char) :
    dropByteOrderMark (sigil.text.toList ++ rest) = sigil.text.toList ++ rest := by
  cases sigil <;> rfl

theorem ofText (sigil : Sigil) {path : String} {trees : List Tree}
    (unmarked' : dropByteOrderMark path.toList = path.toList) (lexed : Tree.ofText? path = some trees) :
    ∃ joint, Tree.ofText? (sigil.text ++ path) = some (sigil.trees joint ++ trees) := by
  obtain ⟨joint, takes⟩ := sigil.takes path.toList
  rw [← String.toList_append] at takes
  refine ⟨joint, takes.ofText ?_ unmarked' lexed⟩
  rw [String.toList_append, sigil.unmarked]

end Sigil

/-- What the rules leave of a text behind a type. -/
def left? (depth : Nat) (plus : Bool) (trees : List Tree) : Option (List Tree) :=
  (((toDepth depth).rule (.type plus)).run trees).map (·.2)

/-- No type begins with the word `mut`. -/
theorem not_mutable {depth : Nat} {trees : List Tree} {form : TypeForm}
    (whole : (toDepth depth).type.run trees = some (form, [])) : atKeyword "mut" trees = false := by
  apply Bool.eq_false_iff.mpr
  intro mutable
  unfold atKeyword at mutable
  split at mutable
  · rename_i name rest
    obtain rfl := beq_iff_eq.mp mutable
    cases depth with
    | zero => cases whole
    | succ depth => cases whole
  · cases mutable

/-- A type that begins with a lifetime goes on with a plus sign. -/
theorem plus_of_lifetime {depth : Nat} {trees : List Tree} {form : TypeForm}
    (whole : (toDepth depth).type.run trees = some (form, [])) (lifetime : atLifetime trees = true) :
    atMark "+" (trees.drop 1) = true := by
  obtain ⟨name, rest, rfl⟩ : ∃ name rest, trees = .lifetime name :: rest := by
    unfold atLifetime at lifetime
    split at lifetime
    · exact ⟨_, _, rfl⟩
    · cases lifetime
  obtain _ | depth := depth
  · cases whole
  by_contra apart
  have apart : atMark "+" rest = false := Bool.eq_false_iff.mpr apart
  change (objectBounds (toDepth depth) true >>= fun found =>
    pure (.bounds false found.1.length found.2) : Scan TypeForm).run _ = _ at whole
  obtain ⟨found, _, objects, _⟩ := run_bind_iff.mp whole
  obtain ⟨found, between, several, judged⟩ := run_bind_iff.mp objects
  obtain _ | depth := depth
  · cases several
  have alone : (bounds (toDepth (depth + 1)) true false false).run (.lifetime name :: rest) =
      some (([.lifetime], false), rest) := by
    unfold bounds
    rw [loop_run, run_bind_iff]
    refine ⟨(([.lifetime], false), false), rest, run_bind_iff.mpr ⟨.lifetime, rest, rfl, ?_⟩, rfl⟩
    change (if true && atMark "+" rest then _ else _ : Scan _).run rest = _
    rw [apart]
    rfl
  obtain ⟨⟩ := alone.symm.trans several
  cases judged

private theorem left_run {depth deep : Nat} {plus : Bool} {trees more : List Tree}
    (ran : ((toDepth deep).rule (.type plus)).run more =
      ((toDepth depth).tightType >>= fun _ => pure .other : Scan TypeForm).run trees) :
    left? deep plus more = left? depth false trees := by
  unfold left?
  rw [ran, StateT.run_bind]
  change Option.map _ (((toDepth depth).rule (.type false)).run trees >>= _) = _
  cases ((toDepth depth).rule (.type false)).run trees <;> rfl

theorem Sigil.left (sigil : Sigil) (depth : Nat) (plus joint : Bool) {trees : List Tree}
    (mutable : atKeyword "mut" trees = false) (admitted : sigil.admits trees = true) :
    left? (depth + 1) plus (sigil.trees joint ++ trees) = left? depth false trees := by
  apply left_run
  cases sigil with
  | mutPointer => rfl
  | constPointer => rfl
  | mutReference => rfl
  | reference =>
    have quiet : (ahead atLifetime).run trees = some (false, trees) := by
      have lifetime : atLifetime trees = false := Bool.not_inj admitted
      rw [← lifetime]
      rfl
    have still : (keyword? "mut").run trees = some (false, trees) := by
      change (if atKeyword "mut" trees then _ else _ : Scan Bool).run trees = _
      rw [mutable]
      rfl
    have ran : ((toDepth (depth + 1)).rule (.type plus)).run (.mark '&' joint :: trees) = (do
        if ← ahead atLifetime then skip 1
        let _ ← keyword? "mut"
        let _ ← (toDepth depth).tightType
        return .other : Scan TypeForm).run trees := by cases joint <;> rfl
    rw [Sigil.trees, List.singleton_append, ran, StateT.run_bind, quiet]
    change (keyword? "mut" >>= fun _ => _ : Scan TypeForm).run trees = _
    rw [StateT.run_bind, still]
    rfl

/-- Behind a reference a lifetime is taken away from its bounds. -/
theorem left_lifetime {trees : List Tree} (lifetime : atLifetime trees = true)
    (joined : atMark "+" (trees.drop 1) = true) (deep : Nat) (plus joint : Bool) :
    left? (deep + 1) plus (Sigil.reference.trees joint ++ trees) = none := by
  unfold atLifetime at lifetime
  split at lifetime
  · rename_i name rest
    obtain ⟨joint', others, same, _⟩ := ClosingBrackets.atChars_cons joined
    obtain rfl : rest = .mark '+' joint' :: others := same
    cases joint <;> cases joint' <;> cases deep <;> rfl
  · cases lifetime

/-- The tokens in front of a type that an optional reference refers to. -/
def optionTrees (joint : Bool) : List Tree :=
  [.mark ':' true, .mark ':' false, .word "core", .mark ':' true, .mark ':' false, .word "option",
    .mark ':' true, .mark ':' false, .word "Option", .mark '<' true, .mark '&' joint]

theorem takes_option (rest : List Char) : ∃ joint,
    Takes ("::core::option::Option<&".toList ++ rest) ((optionTrees joint).map .leaf) rest := by
  have nothing : Takes rest (([] : List Tree).map .leaf) rest := .here rest
  have reference := nothing.leaf (Nat.lt_succ_self _) (c := '&') rfl rfl rfl rfl
  have angle := reference.leaf (Nat.lt_succ_self _) (c := '<') rfl rfl rfl rfl
  have option : Takes ("Option<&".toList ++ rest) _ rest := angle.leaf (by simp) rfl rfl rfl rfl
  have joined := (option.leaf (Nat.lt_succ_self _) (c := ':') rfl rfl rfl rfl).leaf
    (Nat.lt_succ_self _) (c := ':') rfl rfl rfl rfl
  have module : Takes ("option::Option<&".toList ++ rest) _ rest := joined.leaf (by simp) rfl rfl rfl rfl
  have joined := (module.leaf (Nat.lt_succ_self _) (c := ':') rfl rfl rfl rfl).leaf
    (Nat.lt_succ_self _) (c := ':') rfl rfl rfl rfl
  have crate : Takes ("core::option::Option<&".toList ++ rest) _ rest :=
    joined.leaf (by simp) rfl rfl rfl rfl
  exact ⟨_, (crate.leaf (Nat.lt_succ_self _) (c := ':') rfl rfl rfl rfl).leaf
    (Nat.lt_succ_self _) (c := ':') rfl rfl rfl rfl⟩

/-- A further segment of a path, if a double colon comes next. -/
def nextSegment (g : Rules) (rooted : Bool) (form : PathForm) : Scan (PathForm × Bool) := do
  if ← ahead fun trees => atMark "::" trees && !atGroup .paren (trees.drop 2) then
    mark "::"
    let (arguments, isEmpty) ← segment g false
    return (⟨rooted, form.segments + 1, form.plain && !arguments, isEmpty⟩, true)
  else return (form, false)

private theorem segment_option (g : Rules) (joint : Bool) (trees : List Tree) :
    (segment g false).run (.word "Option" :: .mark '<' true :: .mark '&' joint :: trees) =
      (angleArguments g >>= fun isEmpty => pure (true, isEmpty)).run
        (.mark '<' true :: .mark '&' joint :: trees) := by cases joint <;> rfl

private theorem nextSegment_run (g : Rules) (form : PathForm) (name : String) (trees : List Tree) :
    (nextSegment g true form).run (.mark ':' true :: .mark ':' false :: .word name :: trees) =
      (segment g false >>= fun (arguments, isEmpty) =>
        pure (⟨true, form.segments + 1, form.plain && !arguments, isEmpty⟩, true)).run
        (.word name :: trees) := rfl

private theorem path_option (g : Rules) (joint : Bool) (trees : List Tree) :
    (path g false).run (optionTrees joint ++ trees) =
      (angleArguments g >>= fun isEmpty =>
        iterate (nextSegment g true) (trees.length + 7) ⟨true, 3, false, isEmpty⟩).run
          (.mark '<' true :: .mark '&' joint :: trees) := by
  calc (path g false).run (optionTrees joint ++ trees)
    _ = (iterate (nextSegment g true) (trees.length + 8) ⟨true, 2, true, true⟩).run
          (.mark ':' true :: .mark ':' false :: .word "Option" :: .mark '<' true ::
            .mark '&' joint :: trees) := rfl
    _ = (nextSegment g true ⟨true, 2, true, true⟩ >>= fun (form, more) =>
          if more then iterate (nextSegment g true) (trees.length + 7) form else pure form).run
          (.mark ':' true :: .mark ':' false :: .word "Option" :: .mark '<' true ::
            .mark '&' joint :: trees) := rfl
    _ = _ := by
      rw [StateT.run_bind, nextSegment_run, StateT.run_bind, segment_option]
      simp only [StateT.run_bind, bind_assoc]
      rfl

private theorem qualifiedPath_option (g : Rules) (joint : Bool) (trees : List Tree) :
    (qualifiedPath g false).run (optionTrees joint ++ trees) =
      (path g false >>= fun form => pure (some form)).run (optionTrees joint ++ trees) := by
  cases joint <;> rfl

private theorem typeRule_option (g : Rules) (joint : Bool) (trees : List Tree) :
    (typeRule g true).run (optionTrees joint ++ trees) =
      (pathType g false true).run (optionTrees joint ++ trees) := by
  cases joint <;> rfl

/-- Where generic arguments are found, there is an optional type. -/
theorem type_option {g : Rules} {joint isEmpty : Bool} {trees : List Tree}
    (found : (angleArguments g).run (.mark '<' true :: .mark '&' joint :: trees) = some (isEmpty, [])) :
    (typeRule g true).run (optionTrees joint ++ trees) = some (.path ⟨true, 3, false, isEmpty⟩, []) := by
  have walked : (path g false).run (optionTrees joint ++ trees) =
      some (⟨true, 3, false, isEmpty⟩, []) := by
    rw [path_option, StateT.run_bind, found]
    rfl
  rw [typeRule_option, pathType, StateT.run_bind, qualifiedPath_option, StateT.run_bind, walked]
  rfl

/-- Where there is an optional type, there are generic arguments. -/
theorem angle_of_type {g : Rules} {joint : Bool} {found : TypeForm × List Tree} {trees : List Tree}
    (whole : (typeRule g true).run (optionTrees joint ++ trees) = some found) :
    ∃ arguments, (angleArguments g).run (.mark '<' true :: .mark '&' joint :: trees) =
      some arguments := by
  by_contra none
  have none := Option.eq_none_iff_forall_ne_some.mpr (not_exists.mp none)
  rw [typeRule_option, pathType, StateT.run_bind, qualifiedPath_option, StateT.run_bind, path_option,
    StateT.run_bind, none] at whole
  cases whole

theorem ahead_bind {α : Type} (question : List Tree → Bool) (next : Bool → Scan α) (trees : List Tree) :
    (ahead question >>= next).run trees = (next (question trees)).run trees := rfl

section
variable {α : Type} {item : Scan α} {trees behind : List Tree}

/-- One item in angle brackets. -/
theorem separated_single {a : α} (begun : atMark ">" trees = false)
    (first : item.run trees = some (a, behind)) (closed : atMark ">" behind = true) :
    (separated (atMark ">") "," item).run trees = some ([a], behind) := by
  unfold separated
  rw [run_bind_iff]
  refine ⟨[a], behind, ?_, rfl⟩
  rw [loop_run, run_bind_iff]
  refine ⟨([a], false), behind, ?_, rfl⟩
  rw [ahead_bind, begun, if_neg Bool.false_ne_true, run_bind_iff]
  refine ⟨a, behind, first, ?_⟩
  rw [ahead_bind, closed]
  rfl

/-- Behind the first item stands the closing bracket or a comma. -/
theorem separated_some {found : List α × List Tree} (begun : atMark ">" trees = false)
    (ran : (separated (atMark ">") "," item).run trees = some found) :
    ∃ a behind, item.run trees = some (a, behind) ∧
      (atMark ">" behind = true ∨ atMark "," behind = true) := by
  unfold separated at ran
  obtain ⟨_, _, ran, _⟩ := run_bind_iff.mp ran
  rw [loop_run] at ran
  obtain ⟨_, _, ran, _⟩ := run_bind_iff.mp ran
  rw [ahead_bind, begun, if_neg Bool.false_ne_true] at ran
  obtain ⟨a, behind, first, ran⟩ := run_bind_iff.mp ran
  refine ⟨a, behind, first, ?_⟩
  by_contra apart
  obtain ⟨closed, comma⟩ := not_or.mp apart
  rw [ahead_bind, if_neg closed, StateT.run_bind, ClosingBrackets.mark_run, if_neg comma] at ran
  cases ran

end

private theorem arguments_run (g : Rules) (joint : Bool) (trees : List Tree) :
    (angleArguments g).run (.mark '<' true :: .mark '&' joint :: trees) =
      (separated (atMark ">") "," (genericArgument g) >>= fun found =>
        mark ">" >>= fun _ => pure found.isEmpty).run (.mark '&' joint :: trees) := rfl

theorem get_bind {α : Type} (next : List Tree → Scan α) (trees : List Tree) :
    (get >>= next).run trees = (next trees).run trees := rfl

/-- A generic argument that begins with a reference is a type. -/
theorem argument_run {g : Rules} {joint : Bool} {trees : List Tree}
    (plain : ∀ form behind, g.type.run (.mark '&' joint :: trees) = some (form, behind) →
      form = .other) :
    (genericArgument g).run (.mark '&' joint :: trees) =
      (g.type.run (.mark '&' joint :: trees)).map fun found => ((), found.2) := by
  have literal : atLiteral (.mark '&' joint :: trees) = false := rfl
  unfold genericArgument
  rw [get_bind, if_neg (by simp [atLifetime]), if_neg (by simp [literal, atGroup]), StateT.run_bind]
  cases found : g.type.run (.mark '&' joint :: trees) with
  | none => rfl
  | some taken =>
    obtain ⟨form, behind⟩ := taken
    obtain rfl := plain form behind found
    rfl

private theorem reference_form {g : Rules} {plus joint : Bool} {form : TypeForm}
    {trees behind : List Tree}
    (found : (typeRule g plus).run (.mark '&' joint :: trees) = some (form, behind)) :
    form = .other := by
  have opened : (typeRule g plus).run (.mark '&' joint :: trees) = (do
      if ← ahead atLifetime then skip 1
      let _ ← keyword? "mut"
      let _ ← g.tightType
      return .other : Scan TypeForm).run trees := by cases joint <;> rfl
  rw [opened, ahead_bind] at found
  split at found
  · obtain ⟨_, _, _, found⟩ := run_bind_iff.mp found
    obtain ⟨_, _, _, found⟩ := run_bind_iff.mp found
    obtain ⟨_, _, _, found⟩ := run_bind_iff.mp found
    cases found
    rfl
  · obtain ⟨_, _, _, found⟩ := run_bind_iff.mp found
    obtain ⟨_, _, _, found⟩ := run_bind_iff.mp found
    cases found
    rfl

private theorem argument_left (depth : Nat) (joint : Bool) (trees : List Tree) :
    (genericArgument (toDepth (depth + 1))).run (.mark '&' joint :: trees) =
      (left? (depth + 1) true (.mark '&' joint :: trees)).map fun behind => ((), behind) := by
  have plain (form : TypeForm) (behind : List Tree)
      (found : (toDepth (depth + 1)).type.run (.mark '&' joint :: trees) = some (form, behind)) :
      form = .other := reference_form (g := toDepth depth) found
  rw [argument_run plain, left?, Option.map_map]
  rfl

/-- An optional type takes all, where the type in it leaves just the closing bracket. -/
theorem left_option {depth : Nat} {joint : Bool} {trees : List Tree}
    (found : left? (depth + 1) true (.mark '&' joint :: trees) = some [ClosingBrackets.closing]) :
    left? (depth + 2) true (optionTrees joint ++ trees) = some [] := by
  have item := argument_left depth joint trees
  rw [found] at item
  have arguments : (angleArguments (toDepth (depth + 1))).run
      (.mark '<' true :: .mark '&' joint :: trees) = some (false, []) := by
    rw [arguments_run, StateT.run_bind, separated_single rfl item rfl]
    rfl
  exact congrArg (Option.map Prod.snd) (type_option arguments)

/-- An optional type has a bracket or a comma behind the type in it. -/
theorem left_of_option {depth : Nat} {joint : Bool} {trees behind : List Tree}
    (whole : left? (depth + 2) true (optionTrees joint ++ trees) = some behind) :
    ∃ behind, left? (depth + 1) true (.mark '&' joint :: trees) = some behind ∧
      (atMark ">" behind = true ∨ atMark "," behind = true) := by
  obtain ⟨found, whole, _⟩ := Option.map_eq_some_iff.mp whole
  obtain ⟨arguments, ran⟩ := angle_of_type whole
  rw [arguments_run] at ran
  obtain ⟨_, _, ran, _⟩ := run_bind_iff.mp ran
  obtain ⟨_, behind, item, ended⟩ := separated_some rfl ran
  rw [argument_left] at item
  obtain ⟨behind, inner, ⟨⟩⟩ := Option.map_eq_some_iff.mp item
  exact ⟨_, inner, ended⟩

end NativeThunks.TypeFronts
