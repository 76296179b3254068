import NativeThunks.Text.Character

/-! Two classes of characters compared. A class is a table of the points where membership changes, so
whatever is to hold of two classes at every point has to be looked at once in each stretch between
two changes only. -/
namespace NativeThunks.CharacterTables
open Text

/-- Whether a test of two memberships holds in every stretch, given the memberships in the first one.
Fuel bounds the number of stretches. -/
def holdsThroughout (test : Bool → Bool → Bool) : Nat → Bool → Bool → List Nat → List Nat → Bool
  | 0, _, _, _, _ => false
  | _ + 1, first, second, [], [] => test first second
  | fuel + 1, first, second, _ :: firsts, [] =>
    test first second && holdsThroughout test fuel (!first) second firsts []
  | fuel + 1, first, second, [], _ :: seconds =>
    test first second && holdsThroughout test fuel first (!second) [] seconds
  | fuel + 1, first, second, flip :: firsts, other :: seconds =>
    test first second &&
      if flip < other then holdsThroughout test fuel (!first) second firsts (other :: seconds)
      else if other < flip then holdsThroughout test fuel first (!second) (flip :: firsts) seconds
      else holdsThroughout test fuel (!first) (!second) firsts seconds

/-- Behind the first change of a table the rest of the table decides, with the memberships swapped. -/
private theorem beyond {flip point : Nat} {inside : Bool} {rest : List Nat} (reached : flip ≤ point) :
    (inside ^^ inToggles (flip :: rest) point) = (!inside ^^ inToggles rest point) := by
  simp [inToggles, Nat.not_lt.mpr reached]

private theorem before {flip point : Nat} {inside : Bool} {rest : List Nat} (early : point < flip) :
    (inside ^^ inToggles (flip :: rest) point) = inside := by
  simp [inToggles, early]

private theorem behind_all {point : Nat} {inside : Bool} : (inside ^^ inToggles [] point) = inside :=
  Bool.xor_false inside

private theorem test_of_holdsThroughout {test : Bool → Bool → Bool} {fuel : Nat} {first second : Bool}
    {firsts seconds : List Nat}
    (held : holdsThroughout test fuel first second firsts seconds = true) (point : Nat) :
    test (first ^^ inToggles firsts point) (second ^^ inToggles seconds point) = true := by
  induction fuel generalizing first second firsts seconds with
  | zero => cases held
  | succ fuel ih =>
    cases firsts with
    | nil =>
      cases seconds with
      | nil =>
        rw [behind_all, behind_all]
        exact held
      | cons other seconds =>
        obtain ⟨here, later⟩ := Bool.and_eq_true_iff.mp held
        rcases Nat.lt_or_ge point other with early | reached
        · simpa only [before early, behind_all] using here
        · simpa only [beyond reached] using ih later
    | cons flip firsts =>
      cases seconds with
      | nil =>
        obtain ⟨here, later⟩ := Bool.and_eq_true_iff.mp held
        rcases Nat.lt_or_ge point flip with early | reached
        · simpa only [before early, behind_all] using here
        · simpa only [beyond reached] using ih later
      | cons other seconds =>
        obtain ⟨here, later⟩ := Bool.and_eq_true_iff.mp held
        split at later
        · rename_i sooner
          rcases Nat.lt_or_ge point flip with early | reached
          · simpa only [before early, before (Nat.lt_trans early sooner)] using here
          · simpa only [beyond reached] using ih later
        · split at later
          · rename_i sooner
            rcases Nat.lt_or_ge point other with early | reached
            · simpa only [before early, before (Nat.lt_trans early sooner)] using here
            · simpa only [beyond reached] using ih later
          · rename_i notBefore notBehind
            obtain rfl : flip = other := Nat.le_antisymm (Nat.not_lt.mp notBehind)
              (Nat.not_lt.mp notBefore)
            rcases Nat.lt_or_ge point flip with early | reached
            · simpa only [before early] using here
            · simpa only [beyond reached] using ih later

/-- Whatever is so in every stretch is so at every point. -/
theorem test_everywhere {test : Bool → Bool → Bool} {firsts seconds : List Nat}
    (held : holdsThroughout test (firsts.length + seconds.length + 1) false false firsts seconds = true)
    (point : Nat) : test (inToggles firsts point) (inToggles seconds point) = true := by
  simpa using test_of_holdsThroughout held point

/-- What begins an identifier may also continue one. -/
theorem continue_of_start {c : Char} (start : isIdentifierStart c = true) :
    isIdentifierContinue c = true := by
  have held : holdsThroughout (fun start continues => !start || continues)
      (identifierStartTable.length + identifierContinueTable.length + 1) false false
      identifierStartTable identifierContinueTable = true := by decide +kernel
  have covered := test_everywhere held c.toNat
  simp only [Bool.or_eq_true, Bool.not_eq_eq_eq_not, Bool.not_true] at covered
  exact covered.resolve_left (by simpa [isIdentifierStart] using start)

end NativeThunks.CharacterTables
