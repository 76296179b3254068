import NativeThunks.Grammar.Lexer
import NativeThunks.Naming
import NativeThunks.Proofs.CharacterTables

/-! What the change of case and the escape of reserved words leave alone. Characters that no word has
in it, such as blanks and the marks of comments and raw words, are no letters in any case: a name has
as many of them after the change as before, and only where they were. -/
namespace NativeThunks.CaseChange
open CharacterTables Grammar Naming Text

/-- A character beside which a word is more or less than it looks: the mark of a raw word, a slash, a
byte order mark, or a blank. -/
def isStray (c : Char) : Bool := c == '#' || c == '/' || c == '\ufeff' || isBlank c

/-- Where the stray characters begin and end. -/
def strayTable : List Nat := [
  9, 14, 32, 33, 35, 36, 47, 48, 133, 134, 160, 161, 5760, 5761, 8192, 8203, 8206, 8208, 8232, 8234,
  8239, 8240, 8287, 8288, 12288, 12289, 65279, 65280]

/-- A test of the stray characters in a stretch of points. -/
private theorem test_between {test : Bool → Bool → Bool} {first last point : Nat}
    (early : first ≤ point) (late : point ≤ last)
    (held : holdsThroughout test (2 + strayTable.length + 1) false false [first, last + 1]
      strayTable = true) : test true (inToggles strayTable point) = true := by
  have inside : inToggles [first, last + 1] point = true := by
    simp [inToggles, Nat.not_lt.mpr early, Nat.lt_succ_of_le late]
  have tested : test (inToggles [first, last + 1] point) (inToggles strayTable point) = true :=
    test_everywhere held point
  rwa [inside] at tested

theorem listed_of_stray {c : Char} (stray : isStray c = true) :
    inToggles strayTable c.toNat = true := by
  have all (first last : Nat) (early : first ≤ c.toNat) (late : c.toNat ≤ last) :=
    @test_between (fun inside stray => !inside || stray) first last c.toNat early late
  simp only [isStray, isBlank, isWhiteSpace, Bool.or_eq_true, Bool.and_eq_true, beq_iff_eq,
    decide_eq_true_eq] at stray
  rcases stray with ((rfl | rfl) | rfl) | ((space | rfl) | rfl)
  any_goals decide
  rcases space with
    (((((((((rfl | tabs) | rfl) | rfl) | rfl) | wide) | rfl) | rfl) | rfl) | rfl) | rfl
  any_goals decide
  · exact all 9 13 tabs.1 tabs.2 (by decide)
  · exact all 8192 8202 wide.1 wide.2 (by decide)

private theorem stray_not_uppercase {c : Char} (stray : isStray c = true) : isUppercase c = false := by
  have held : holdsThroughout (fun upper stray => !upper || !stray)
      (uppercaseTable.length + strayTable.length + 1) false false uppercaseTable strayTable = true := by
    decide +kernel
  have apart := test_everywhere held c.toNat
  rw [listed_of_stray stray] at apart
  simpa [isUppercase] using apart

/-- No run leads to a stray character. -/
private theorem runs_apart : ∀ run ∈ lowercaseRuns,
    holdsThroughout (fun target stray => !target || !stray) (2 + strayTable.length + 1) false false
      [run.target, run.target + (run.last - run.first) + 1] strayTable = true := by decide +kernel

/-- What a run leads to lies as far behind the run's target as what it comes from lies behind the run's
start, unless there is no such character. -/
theorem apply_some {run : CaseRun} {point : Nat} {d : Char} (applied : run.apply point = some d) :
    d = Char.ofNat 0 ∨
      d.toNat = run.target + (point - run.first) ∧ point - run.first ≤ run.last - run.first := by
  unfold CaseRun.apply at applied
  split at applied
  · rename_i covered
    obtain rfl := Option.some.inj applied
    by_cases valid : (run.target + (point - run.first)).isValidChar
    · exact .inr ⟨congrArg Char.toNat (dif_pos valid), Nat.sub_le_sub_right covered.2.1 _⟩
    · exact .inl ((dif_neg valid).trans rfl)
  · cases applied

/-- A lowercase form is the character itself, or what a run leads to; or it is one of the two that the
capital with a dot has. -/
theorem mem_lowercase {c d : Char} (member : d ∈ lowercase c) :
    d = c ∨ d = 'i' ∨ d = '\u0307' ∨ ∃ run ∈ lowercaseRuns, run.apply c.toNat = some d := by
  unfold lowercase at member
  split at member
  · simp only [List.mem_cons, List.not_mem_nil, or_false] at member
    exact .inr (member.imp_right .inl)
  · cases found : lowercaseRuns.findSome? (·.apply c.toNat) with
    | none => exact .inl (by simpa [found] using member)
    | some low =>
      obtain rfl : d = low := by simpa [found] using member
      exact .inr (.inr (.inr (List.exists_of_findSome?_eq_some found)))

private theorem apply_not_stray {run : CaseRun} {point : Nat} {d : Char} (listed : run ∈ lowercaseRuns)
    (applied : run.apply point = some d) : isStray d = false := by
  apply Bool.eq_false_iff.mpr
  intro stray
  have strayPoint := listed_of_stray stray
  rcases apply_some applied with rfl | ⟨value, inside⟩
  · exact absurd strayPoint (by decide)
  · have apart := test_between (Nat.le_add_right _ _) (Nat.add_le_add_left inside run.target)
      (runs_apart run listed)
    rw [← value, strayPoint] at apart
    cases apart

/-- A stray character is a lowercase form of itself only. -/
theorem stray_mem_lowercase {c d : Char} (stray : isStray d = true) (member : d ∈ lowercase c) :
    d = c := by
  rcases mem_lowercase member with rfl | rfl | rfl | ⟨run, listed, applied⟩
  · rfl
  · exact absurd stray (by decide)
  · exact absurd stray (by decide)
  · exact absurd stray (Bool.eq_false_iff.mp (apply_not_stray listed applied))

/-- The change of case neither adds a stray character nor takes one away, character by character. -/
theorem stray_mem_snakeStep {state : SnakeState} {c d : Char} (stray : isStray d = true) :
    d ∈ (snakeStep state c).1 ↔ d = c := by
  have apart (mark : Char) (usual : isStray mark = false) : d ≠ mark := by
    rintro rfl
    exact absurd stray (Bool.eq_false_iff.mp usual)
  have underscore : d ≠ '_' := apart '_' (by decide)
  unfold snakeStep
  split
  · rename_i separator
    have different : d ≠ c := by
      rintro rfl
      rcases separator with rfl | rfl <;> exact absurd stray (by decide)
    split <;> simp [different, underscore]
  · split
    · rename_i upper
      have different : d ≠ c := by
        rintro rfl
        exact absurd upper (Bool.eq_false_iff.mp (stray_not_uppercase stray))
      have absent : d ∉ lowercase c := fun member => different (stray_mem_lowercase stray member)
      split <;> simp [different, absent, underscore]
    · exact List.mem_singleton

private theorem stray_mem_snakeChars {state : SnakeState} {text : List Char} {d : Char}
    (stray : isStray d = true) : d ∈ snakeChars state text ↔ d ∈ text := by
  induction text generalizing state with
  | nil => exact Iff.rfl
  | cons c rest ih =>
    rw [snakeChars, List.mem_append, stray_mem_snakeStep stray, ih, List.mem_cons]

theorem stray_mem_snakeCase {name : String} {d : Char} (stray : isStray d = true) :
    d ∈ (snakeCase name).toList ↔ d ∈ name.toList := by
  rw [snakeCase, String.toList_ofList]
  exact stray_mem_snakeChars stray

end NativeThunks.CaseChange
