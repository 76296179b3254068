import NativeThunks.Text.CaseTable
import NativeThunks.Text.IdentifierTable
import NativeThunks.Text.InvisibleTable

/-! Classes of characters and the lowercase mapping, for the whole of Unicode. A class is read off
a table of the code points at which membership changes, so the tables stay data and one function
gives them meaning. -/
namespace NativeThunks.Text

/-- Membership flips at every entry of an increasing list: the point belongs when an odd number of
entries lies at or below it. -/
def inToggles : List Nat → Nat → Bool
  | [], _ => false
  | flip :: rest, point => if point < flip then false else !inToggles rest point

/-- A character that may begin an identifier, the underscore apart. -/
def isIdentifierStart (c : Char) : Bool := inToggles identifierStartTable c.toNat

/-- A character that may continue an identifier; the underscore is one of them. -/
def isIdentifierContinue (c : Char) : Bool := inToggles identifierContinueTable c.toNat

/-- A character with the derived property `Uppercase`. -/
def isUppercase (c : Char) : Bool := inToggles uppercaseTable c.toNat

/-- A character that has no glyph of its own, or that would attach to the one before it. -/
def isInvisible (c : Char) : Bool := inToggles invisibleTable c.toNat

/-- The characters with the property `White_Space`. -/
def isWhiteSpace (c : Char) : Bool :=
  c == ' ' || ('\t' ≤ c && c ≤ '\x0d') || c == '\x85' || c == '\xa0' || c == '\u1680' ||
    ('\u2000' ≤ c && c ≤ '\u200a') || c == '\u2028' || c == '\u2029' || c == '\u202f' ||
    c == '\u205f' || c == '\u3000'

/-- The lowercase character of a run at this point, if the run holds the point. -/
def CaseRun.apply (run : CaseRun) (point : Nat) : Option Char :=
  if run.first ≤ point ∧ point ≤ run.last ∧ (point - run.first) % run.stride = 0 then
    some (Char.ofNat (run.target + (point - run.first)))
  else none

/-- The lowercase form of one character. Only the capital I with a dot needs two characters; a
character without a lowercase form is its own. -/
def lowercase (c : Char) : List Char :=
  if c == '\u0130' then ['i', '\u0307']
  else ((lowercaseRuns.findSome? (·.apply c.toNat)).map fun low => [low]).getD [c]

example : isIdentifierStart 'é' = true ∧ isIdentifierStart '1' = false := by decide
example : isIdentifierContinue '_' = true ∧ isIdentifierContinue '-' = false := by decide
example : lowercase 'É' = ['é'] ∧ lowercase 'Σ' = ['σ'] ∧ lowercase 'a' = ['a'] := by decide

end NativeThunks.Text
