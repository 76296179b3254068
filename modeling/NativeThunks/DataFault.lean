/-! Faults of documents that are well formed but do not hold what is asked for. The wording is the
same for every format. -/
namespace NativeThunks

/-- The ways in which a well-formed value is not what is asked for. -/
inductive DataFault where
  | missingField (name : String)
  | duplicateField (name : String)
  | unknownField (name : String) (expected : List String)
  | unknownVariant (name : String) (expected : List String)
  | invalidType (found expected : String)
  | invalidValue (found expected : String)
  | invalidLength (length : Nat) (expected : String)
deriving DecidableEq, Repr

def ticked (name : String) : String := "`" ++ name ++ "`"

/-- A choice between names: one, two, or a list of more. -/
def choice : List String → String
  | [] => ""
  | [a] => ticked a
  | [a, b] => ticked a ++ " or " ++ ticked b
  | names => "one of " ++ ", ".intercalate (names.map ticked)

def DataFault.message : DataFault → String
  | .missingField name => "missing field " ++ ticked name
  | .duplicateField name => "duplicate field " ++ ticked name
  | .unknownField name expected =>
    "unknown field " ++ ticked name ++ ", expected " ++ choice expected
  | .unknownVariant name expected =>
    "unknown variant " ++ ticked name ++ ", expected " ++ choice expected
  | .invalidType found expected => "invalid type: " ++ found ++ ", expected " ++ expected
  | .invalidValue found expected => "invalid value: " ++ found ++ ", expected " ++ expected
  | .invalidLength length expected =>
    "invalid length " ++ toString length ++ ", expected " ++ expected

end NativeThunks
