import NativeThunks.Thunk

/-! The writers of a unit. Slots and functions are written side by side, by two writers that start at the
level their lines have in the unit; every body has a writer of its own, one level deeper; and the unit
takes the texts of the three as they are. -/
namespace NativeThunks

/-- What a unit is written with, member by member. -/
structure UnitWriter where
  slots : Writer := .ofLevel 1
  functions : Writer := .ofLevel 2
  wrappers : WrapperTable := {}
  /-- The number of members so far. -/
  size : Nat := 0
deriving DecidableEq, Repr

namespace UnitWriter

/-- Writes one more member. The body is written first, because only then all wrappers are known that the
slot needs. -/
def add (config : Config) (unit : UnitWriter) (plan : MemberPlan) : UnitWriter :=
  let (written, wrappers) :=
    unit.wrappers.writeAll config (plan.nativeArguments config.runtimePath)
  let body := (Writer.ofLevel (unit.functions.level + 1)).putAll
    (plan.body config.runtimePath written)
  let functions := if unit.size = 0 then unit.functions else unit.functions.blank
  { slots := (unit.slots.putAll (plan.slot config written))
    functions :=
      (((functions.line plan.docLine).openBlock plan.headLine).append body.text).closeBlock
    wrappers := wrappers
    size := unit.size + 1 }

def ofPlans (config : Config) (plans : List MemberPlan) : UnitWriter := plans.foldl (add config) {}

/-- Writes the unit around what is there. The wrappers come last, when all of them are known. -/
def finish (unit : UnitWriter) (config : Config) (container : Container) (nativeType : String) :
    Writer :=
  let start := (Writer.ofLevel 0).putAll
    (if config.emitHeader then unitHeader container nativeType unit.size else [])
  let slots := (start.putAll (unitPrelude container)).append unit.slots.text
  let functions := (slots.blank.openBlock ("impl " ++ container.name ++ " \x7b")).append
    unit.functions.text
  (functions.closeBlock.putAll unit.wrappers.definitions).closeBlock

end UnitWriter
end NativeThunks
