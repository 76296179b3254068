import Mathlib.Tactic.GCongr
import NativeThunks.Grammar

/-! Deeper rules find what shallower ones find. The rules of the grammar are tied to a depth of
recursion, which is taken from the text; a text that is spliced into a longer one is read at another
depth. Every rule body asks the rules below it only for what they find, so a rule that finds something
finds the same at every greater depth. -/
namespace NativeThunks.GrammarDepth
open Grammar

variable {α β : Type} {scan scan' : Scan α}

/-- Whatever the one scan finds, the other one finds too, with the same trees left behind it. -/
def Within (scan scan' : Scan α) : Prop :=
  ∀ trees found, scan.run trees = some found → scan'.run trees = some found

@[refl] theorem Within.refl (scan : Scan α) : Within scan scan := fun _ _ ran => ran

theorem Within.trans {scan'' : Scan α} (first : Within scan scan') (later : Within scan' scan'') :
    Within scan scan'' :=
  fun trees found ran => later trees found (first trees found ran)

theorem run_bind_iff {next : α → Scan β} {trees behind : List Tree} {b : β} :
    (scan >>= next).run trees = some (b, behind) ↔
      ∃ a between, scan.run trees = some (a, between) ∧ (next a).run between = some (b, behind) := by
  simp only [StateT.run_bind, Option.bind_eq_bind, Option.bind_eq_some_iff, Prod.exists]

@[gcongr] theorem within_bind {next next' : α → Scan β} (first : Within scan scan')
    (later : ∀ a, Within (next a) (next' a)) : Within (scan >>= next) (scan' >>= next') := by
  rintro trees ⟨b, behind⟩ ran
  obtain ⟨a, between, here, there⟩ := run_bind_iff.mp ran
  exact run_bind_iff.mpr ⟨a, between, first _ _ here, later _ _ _ there⟩

@[gcongr] theorem within_ite {c : Prop} [Decidable c] {other other' : Scan α}
    (yes : Within scan scan') (no : Within other other') :
    Within (if c then scan else other) (if c then scan' else other') := by
  split
  · exact yes
  · exact no

@[gcongr] theorem within_inside {delimiter : Delimiter} (inner : Within scan scan') :
    Within (inside delimiter scan) (inside delimiter scan') := by
  unfold inside
  gcongr with trees
  split
  · rename_i content rest
    split
    · cases taken : scan.run content with
      | none =>
        intro _ _ ran
        cases ran
      | some answer => rw [inner _ _ taken]
    · rfl
  · rfl

private theorem iterate_within {step step' : α → Scan (α × Bool)}
    (steps : ∀ a, Within (step a) (step' a))
    (fuel : Nat) (start : α) : Within (iterate step fuel start) (iterate step' fuel start) := by
  induction fuel generalizing start with
  | zero => exact .refl _
  | succ fuel ih =>
    unfold iterate
    gcongr with found
    · exact steps start
    · obtain ⟨state, more⟩ := found
      dsimp only
      gcongr
      exact ih state

@[gcongr] theorem within_loop {start : α} {step step' : α → Scan (α × Bool)}
    (steps : ∀ a, Within (step a) (step' a)) : Within (loop start step) (loop start step') := by
  unfold loop
  gcongr
  exact iterate_within steps _ _

@[gcongr] theorem within_separated {stop : List Tree → Bool} {separator : String}
    (item : Within scan scan') :
    Within (separated stop separator scan) (separated stop separator scan') := by
  unfold separated
  gcongr

@[gcongr] theorem within_commas (item : Within scan scan') : Within (commas scan) (commas scan') := by
  unfold commas
  gcongr

/-- Every rule finds at least what it finds among shallower rules. -/
def Deeper (g g' : Rules) : Prop :=
  ∀ {α : Type} (rule : Rule α), Within (g.rule rule) (g'.rule rule)

variable {g g' : Rules}

@[gcongr] theorem rule_within (deeper : Deeper g g') (rule : Rule α) :
    Within (g.rule rule) (g'.rule rule) := deeper rule

@[gcongr] theorem type_within (deeper : Deeper g g') : Within g.type g'.type := deeper _

@[gcongr] theorem tightType_within (deeper : Deeper g g') : Within g.tightType g'.tightType :=
  deeper _

@[gcongr] theorem expression_within (deeper : Deeper g g') : Within g.expression g'.expression :=
  deeper _

@[gcongr] theorem parameterBound_within (deeper : Deeper g g') :
    Within g.parameterBound g'.parameterBound := by
  unfold Rules.parameterBound
  gcongr

section
variable (deeper : Deeper g g')
include deeper

@[gcongr] theorem attributeValue_within : Within (attributeValue g) (attributeValue g') := by
  dsimp only [attributeValue]
  gcongr

@[gcongr] theorem attributeBody_within : Within (attributeBody g) (attributeBody g') := by
  dsimp only [attributeBody]
  gcongr

@[gcongr] theorem outerAttributes_within : Within (outerAttributes g) (outerAttributes g') := by
  dsimp only [outerAttributes]
  gcongr

@[gcongr] theorem innerAttributes_within : Within (innerAttributes g) (innerAttributes g') := by
  dsimp only [innerAttributes]
  gcongr

@[gcongr] theorem attributedBlock_within : Within (attributedBlock g) (attributedBlock g') := by
  dsimp only [attributedBlock]
  gcongr

@[gcongr] theorem block_within : Within (block g) (block g') := by
  dsimp only [block]
  gcongr

@[gcongr] theorem constantArgument_within : Within (constantArgument g) (constantArgument g') := by
  dsimp only [constantArgument]
  gcongr

@[gcongr] theorem result_within (plus : Bool) : Within (result g plus) (result g' plus) := by
  dsimp only [result]
  gcongr

@[gcongr] theorem genericArgument_within : Within (genericArgument g) (genericArgument g') := by
  dsimp only [genericArgument]
  gcongr
  split <;> gcongr

@[gcongr] theorem angleArguments_within : Within (angleArguments g) (angleArguments g') := by
  dsimp only [angleArguments]
  gcongr

@[gcongr] theorem segment_within (expression : Bool) :
    Within (segment g expression) (segment g' expression) := by
  dsimp only [Grammar.segment]
  gcongr

@[gcongr] theorem path_within (expression : Bool) :
    Within (path g expression) (path g' expression) := by
  dsimp only [path]
  gcongr

@[gcongr] theorem genericParameter_within : Within (genericParameter g) (genericParameter g') := by
  dsimp only [genericParameter]
  gcongr

@[gcongr] theorem binder_within : Within (binder g) (binder g') := by
  dsimp only [binder]
  gcongr

@[gcongr] theorem trait_within (constants : Bool) :
    Within (trait g constants) (trait g' constants) := by
  dsimp only [trait]
  gcongr

@[gcongr] theorem bound_within (captured constants : Bool) :
    Within (bound g captured constants) (bound g' captured constants) := by
  dsimp only [bound]
  gcongr

@[gcongr] theorem bounds_within (plus captured constants : Bool) :
    Within (bounds g plus captured constants) (bounds g' plus captured constants) := by
  dsimp only [bounds]
  gcongr

@[gcongr] theorem moreBounds_within : Within (moreBounds g) (moreBounds g') := by
  dsimp only [moreBounds]
  gcongr

@[gcongr] theorem qualifiedPath_within (expression : Bool) :
    Within (qualifiedPath g expression) (qualifiedPath g' expression) := by
  dsimp only [qualifiedPath]
  gcongr

@[gcongr] theorem functionParameter_within (first : Bool) :
    Within (functionParameter g first) (functionParameter g' first) := by
  dsimp only [functionParameter]
  gcongr

@[gcongr] theorem functionParameters_within :
    Within (functionParameters g) (functionParameters g') := by
  dsimp only [functionParameters]
  gcongr

@[gcongr] theorem functionPointer_within : Within (functionPointer g) (functionPointer g') := by
  dsimp only [functionPointer]
  gcongr

@[gcongr] theorem objectBounds_within (plus : Bool) :
    Within (objectBounds g plus) (objectBounds g' plus) := by
  dsimp only [objectBounds]
  gcongr

@[gcongr] theorem opaqueBounds_within (plus : Bool) :
    Within (opaqueBounds g plus) (opaqueBounds g' plus) := by
  dsimp only [opaqueBounds]
  gcongr

@[gcongr] theorem pathBounds_within : Within (pathBounds g) (pathBounds g') := by
  dsimp only [pathBounds]
  gcongr

@[gcongr] theorem parenContent_within : Within (parenContent g) (parenContent g') := by
  dsimp only [parenContent]
  gcongr

@[gcongr] theorem parenType_within (plus : Bool) : Within (parenType g plus) (parenType g' plus) := by
  dsimp only [parenType]
  gcongr
  split <;> gcongr

@[gcongr] theorem pathType_within (bound plus : Bool) :
    Within (pathType g bound plus) (pathType g' bound plus) := by
  dsimp only [pathType]
  gcongr
  split <;> gcongr

@[gcongr] theorem typeRule_within (plus : Bool) : Within (typeRule g plus) (typeRule g' plus) := by
  dsimp only [typeRule]
  gcongr

@[gcongr] theorem alternatives_within : Within (alternatives g) (alternatives g') := by
  dsimp only [alternatives]
  gcongr

@[gcongr] theorem rangeEnd_within : Within (rangeEnd? g) (rangeEnd? g') := by
  dsimp only [rangeEnd?]
  gcongr

@[gcongr] theorem rangeRest_within : Within (rangeRest g) (rangeRest g') := by
  dsimp only [rangeRest]
  gcongr

@[gcongr] theorem fieldPattern_within : Within (fieldPattern g) (fieldPattern g') := by
  dsimp only [fieldPattern]
  gcongr

@[gcongr] theorem fieldPatterns_within : Within (fieldPatterns g) (fieldPatterns g') := by
  dsimp only [fieldPatterns]
  gcongr

@[gcongr] theorem pathPattern_within : Within (pathPattern g) (pathPattern g') := by
  dsimp only [pathPattern]
  gcongr

@[gcongr] theorem bindingPattern_within : Within (bindingPattern g) (bindingPattern g') := by
  dsimp only [bindingPattern]
  gcongr

@[gcongr] theorem patternRule_within : Within (patternRule g) (patternRule g') := by
  dsimp only [patternRule]
  gcongr

@[gcongr] theorem rightOperand_within (structs : Bool) (precedence : Precedence) :
    Within (rightOperand g structs precedence) (rightOperand g' structs precedence) := by
  dsimp only [rightOperand]
  gcongr

@[gcongr] theorem rangeTail_within (structs : Bool) :
    Within (rangeTail g structs) (rangeTail g' structs) := by
  dsimp only [rangeTail]
  gcongr

@[gcongr] theorem continuationRule_within (left : ExprForm) (structs : Bool) (base : Precedence) :
    Within (continuationRule g left structs base) (continuationRule g' left structs base) := by
  dsimp only [continuationRule]
  gcongr
  split <;> gcongr

@[gcongr] theorem callArguments_within : Within (callArguments g) (callArguments g') := by
  dsimp only [callArguments]
  gcongr

@[gcongr] theorem dotted_within : Within (dotted g) (dotted g') := by
  dsimp only [dotted]
  gcongr
  split <;> gcongr

@[gcongr] theorem postfixes_within (start : ExprForm) :
    Within (postfixes g start) (postfixes g' start) := by
  dsimp only [postfixes]
  gcongr

@[gcongr] theorem fieldValues_within : Within (fieldValues g) (fieldValues g') := by
  dsimp only [fieldValues]
  gcongr

@[gcongr] theorem pathExpression_within (structs : Bool) :
    Within (pathExpression g structs) (pathExpression g' structs) := by
  dsimp only [pathExpression]
  gcongr

@[gcongr] theorem closureParameter_within : Within (closureParameter g) (closureParameter g') := by
  dsimp only [closureParameter]
  gcongr

@[gcongr] theorem closure_within (structs : Bool) :
    Within (closure g structs) (closure g' structs) := by
  dsimp only [Grammar.closure]
  gcongr

@[gcongr] theorem condition_within : Within (condition g) (condition g') := by
  dsimp only [condition]
  gcongr

@[gcongr] theorem ifElse_within : Within (ifElse g) (ifElse g') := by
  dsimp only [ifElse]
  gcongr

@[gcongr] theorem matchArm_within : Within (matchArm g) (matchArm g') := by
  dsimp only [matchArm]
  gcongr

@[gcongr] theorem matchArms_within : Within (matchArms g) (matchArms g') := by
  dsimp only [matchArms]
  gcongr

@[gcongr] theorem loopExpression_within : Within (loopExpression g) (loopExpression g') := by
  dsimp only [loopExpression]
  gcongr

@[gcongr] theorem labeled_within : Within (labeled g) (labeled g') := by
  dsimp only [labeled]
  gcongr

@[gcongr] theorem matchExpression_within : Within (matchExpression g) (matchExpression g') := by
  dsimp only [matchExpression]
  gcongr

@[gcongr] theorem leavingValue_within (structs : Bool) :
    Within (leavingValue g structs) (leavingValue g' structs) := by
  dsimp only [leavingValue]
  gcongr

@[gcongr] theorem breakExpression_within (structs : Bool) :
    Within (breakExpression g structs) (breakExpression g' structs) := by
  dsimp only [breakExpression]
  gcongr

@[gcongr] theorem listed_within (repetition : Bool) :
    Within (listed g repetition) (listed g' repetition) := by
  dsimp only [listed]
  gcongr

@[gcongr] theorem letCondition_within (structs : Bool) :
    Within (letCondition g structs) (letCondition g' structs) := by
  dsimp only [letCondition]
  gcongr

@[gcongr] theorem atom_within (structs : Bool) : Within (atom g structs) (atom g' structs) := by
  dsimp only [atom]
  gcongr

@[gcongr] theorem unaryRule_within (structs : Bool) :
    Within (unaryRule g structs) (unaryRule g' structs) := by
  dsimp only [unaryRule]
  gcongr

@[gcongr] theorem expressionRule_within (structs : Bool) :
    Within (expressionRule g structs) (expressionRule g' structs) := by
  dsimp only [expressionRule]
  gcongr

@[gcongr] theorem statementExpressionRule_within :
    Within (statementExpressionRule g) (statementExpressionRule g') := by
  dsimp only [statementExpressionRule]
  gcongr

@[gcongr] theorem letStatement_within : Within (letStatement g) (letStatement g') := by
  dsimp only [letStatement]
  gcongr

@[gcongr] theorem statement_within : Within (statement g) (statement g') := by
  dsimp only [statement]
  gcongr

@[gcongr] theorem statementsRule_within : Within (statementsRule g) (statementsRule g') := by
  dsimp only [statementsRule]
  gcongr

@[gcongr] theorem generics_within : Within (generics? g) (generics? g') := by
  dsimp only [generics?]
  gcongr

@[gcongr] theorem boundsUntil_within (stop : List Tree → Bool) :
    Within (boundsUntil g stop) (boundsUntil g' stop) := by
  dsimp only [boundsUntil]
  gcongr

@[gcongr] theorem wherePredicate_within : Within (wherePredicate g) (wherePredicate g') := by
  dsimp only [wherePredicate]
  gcongr

@[gcongr] theorem where_within : Within (where? g) (where? g') := by
  dsimp only [where?]
  gcongr

@[gcongr] theorem typed_within (separator : String) :
    Within (typed g separator) (typed g' separator) := by
  dsimp only [typed]
  gcongr

@[gcongr] theorem receiver_within : Within (receiver? g) (receiver? g') := by
  dsimp only [receiver?]
  gcongr

@[gcongr] theorem parameter_within : Within (parameter g) (parameter g') := by
  dsimp only [parameter]
  gcongr

@[gcongr] theorem parameters_within : Within (parameters g) (parameters g') := by
  dsimp only [parameters]
  gcongr

@[gcongr] theorem signature_within : Within (signature g) (signature g') := by
  dsimp only [signature]
  gcongr

@[gcongr] theorem function_within : Within (function g) (function g') := by
  dsimp only [function]
  gcongr

@[gcongr] theorem namedFields_within : Within (namedFields g) (namedFields g') := by
  dsimp only [namedFields]
  gcongr

@[gcongr] theorem positionalFields_within : Within (positionalFields g) (positionalFields g') := by
  dsimp only [positionalFields]
  gcongr

@[gcongr] theorem structItem_within : Within (structItem g) (structItem g') := by
  dsimp only [structItem]
  gcongr

@[gcongr] theorem variant_within : Within (variant g) (variant g') := by
  dsimp only [variant]
  gcongr

@[gcongr] theorem enumItem_within : Within (enumItem g) (enumItem g') := by
  dsimp only [enumItem]
  gcongr

@[gcongr] theorem constItem_within : Within (constItem g) (constItem g') := by
  dsimp only [constItem]
  gcongr

@[gcongr] theorem staticItem_within : Within (staticItem g) (staticItem g') := by
  dsimp only [staticItem]
  gcongr

@[gcongr] theorem typeItem_within : Within (typeItem g) (typeItem g') := by
  dsimp only [typeItem]
  gcongr

@[gcongr] theorem associatedItem_within : Within (associatedItem g) (associatedItem g') := by
  dsimp only [associatedItem]
  gcongr

@[gcongr] theorem associatedItems_within : Within (associatedItems g) (associatedItems g') := by
  dsimp only [associatedItems]
  gcongr

@[gcongr] theorem traitItem_within : Within (traitItem g) (traitItem g') := by
  dsimp only [traitItem]
  gcongr

@[gcongr] theorem implItem_within : Within (implItem g) (implItem g') := by
  dsimp only [implItem]
  gcongr

@[gcongr] theorem moduleItem_within : Within (moduleItem g) (moduleItem g') := by
  dsimp only [moduleItem]
  gcongr

@[gcongr] theorem itemRule_within : Within (itemRule g) (itemRule g') := by
  dsimp only [itemRule]
  gcongr

end

private theorem step_within (deeper : Deeper g g') : Deeper ⟨step g⟩ ⟨step g'⟩ := by
  intro α rule
  cases rule <;> dsimp only [step] <;> gcongr

theorem toDepth_deeper {shallow deep : Nat} (le : shallow ≤ deep) :
    Deeper (toDepth shallow) (toDepth deep) := by
  induction shallow generalizing deep with
  | zero =>
    intro α rule trees found ran
    cases ran
  | succ shallow ih =>
    obtain ⟨deep, rfl⟩ : ∃ depth, deep = depth + 1 := ⟨deep - 1, by omega⟩
    exact step_within (ih (Nat.le_of_succ_le_succ le))

end NativeThunks.GrammarDepth
