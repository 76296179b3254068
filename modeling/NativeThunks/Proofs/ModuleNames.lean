import NativeThunks.Proofs.Identifiers
import NativeThunks.Proofs.WholeWords
import NativeThunks.Samples
import NativeThunks.Thunk

/-! When the module of a container has a name. A container's name is checked alone, and the module is
named by that name between two underscores and a fixed ending. Every letter that begins a word may
also continue one, so a plain word stays a word. A raw mark belongs to the front of a word, and behind
underscores it is a token of its own; a byte order mark is dropped at the front of a text only. -/
namespace NativeThunks.ModuleNames
open CharacterTables Grammar Identifiers LexedNames PlanStages Text WholeWords

variable {container : Container} {text : String} {letters : List Char}

theorem word_of_letters (continued : ∀ c ∈ letters, isIdentifierContinue c = true) :
    Word '_' ('_' :: letters) :=
  ⟨by decide, List.forall_mem_cons.mpr ⟨by decide, continued⟩⟩

/-- No word that begins with two underscores is reserved, so each is an identifier. -/
theorem isIdentifier_of_letters (continued : ∀ c ∈ letters, isIdentifierContinue c = true) :
    isIdentifier (String.ofList ('_' :: '_' :: letters)) = true := by
  have other : ∀ word ∈ keywords, ¬['_', '_'] <+: word.toList := by decide +kernel
  exact isIdentifier_of_trees (trees_of_word (word_of_letters continued))
    fun member => other _ member ⟨letters, by simp⟩

example : isIdentifier "__Camera_binding" = true := by decide +kernel

/-- The letter that a word begins with may also continue one. -/
theorem letters_of_word {word behind : List Char} (taken : takeWord? letters = some (word, behind)) :
    ∀ c ∈ word, isIdentifierContinue c = true := by
  obtain ⟨_, first, more, rfl, start, continued⟩ := takeWord_split taken
  refine List.forall_mem_cons.mpr ⟨?_, continued⟩
  rcases Bool.or_eq_true_iff.mp start with underscore | letter
  · exact beq_iff_eq.mp underscore ▸ by decide
  · exact continue_of_start letter

/-- A bare name that is accepted has letters only. -/
theorem letters_of_bare (bare : Bare text) (accepted : isIdentifier text = true) :
    ∀ c ∈ text.toList, isIdentifierContinue c = true := by
  obtain ⟨taken, _⟩ := word_of_compact accepted fun c member _ => bare c member
  rcases takeAnyWord_cases taken with ⟨_, _, raw, _⟩ | ⟨_, found, _⟩
  · exact absurd (raw ▸ by simp) (bare.notMem (c := '#') (by decide))
  · obtain ⟨split, _⟩ := takeWord_split found
    rw [split, List.append_nil]
    exact letters_of_word found

/-- An identifier that begins with an underscore and has no blanks and no slashes has letters only
behind it. -/
theorem letters_of_underscore (accepted : isIdentifier text = true)
    (spelled : text.toList = '_' :: letters) (unblank : ∀ c ∈ text.toList, isBlank c = false)
    (plain : '/' ∉ text.toList) : ∀ c ∈ letters, isIdentifierContinue c = true := by
  obtain ⟨taken, _⟩ := word_of_unblank accepted unblank plain (spelled ▸ rfl)
  rw [spelled] at taken
  rcases takeAnyWord_cases taken with ⟨_, _, raw, _⟩ | ⟨_, found, _⟩
  · cases raw
  · obtain ⟨split, first, more, rfl, _, continued⟩ := takeWord_split found
    rw [List.append_nil] at split
    cases split
    exact continued

private theorem moduleName_toList (container : Container) : container.moduleName.toList =
    '_' :: '_' :: (container.name.toList ++ "_binding".toList) := by
  simp [Container.moduleName]

/-- The name of the module of an accepted container without blanks and comments in its name is an
identifier exactly when the name has no raw mark and no byte order mark. -/
theorem moduleName_isIdentifier_iff (accepted : container.fault? = none)
    (unblank : ∀ c ∈ container.name.toList, isBlank c = false)
    (uncommented : ¬HasComment container.name) :
    isIdentifier container.moduleName = true ↔
      '#' ∉ container.name.toList ∧ '\ufeff' ∉ container.name.toList := by
  have usable := container_name_accepted accepted
  have plain : '/' ∉ container.name.toList := mt (hasComment_iff_slash usable).mpr uncommented
  constructor
  · intro named
    have ending : Bare "_binding" := by decide
    have compact : ∀ c ∈ container.moduleName.toList, isBlank c = false ∧ c ≠ '/' := by
      rw [moduleName_toList]
      simp only [List.forall_mem_cons, List.forall_mem_append]
      refine ⟨by decide, by decide, fun c member => ⟨unblank c member, ?_⟩,
        fun c member => ⟨ending.unblank c member, ?_⟩⟩
      · rintro rfl
        exact plain member
      · rintro rfl
        exact ending.notMem (by decide) member
    have letters : ∀ c ∈ container.name.toList, isIdentifierContinue c = true := by
      have behind := letters_of_underscore named (moduleName_toList container)
        (fun c member => (compact c member).1) (fun slash => (compact _ slash).2 rfl)
      intro c member
      exact behind c (List.mem_cons_of_mem _ (List.mem_append_left _ member))
    exact ⟨fun raw => absurd (letters _ raw) (by decide +kernel),
      fun marked => absurd (letters _ marked) (by decide +kernel)⟩
  · rintro ⟨unraw, unmarked⟩
    have bare : Bare container.name := by
      intro c member
      have raw : c ≠ '#' := by rintro rfl; exact unraw member
      have slash : c ≠ '/' := by rintro rfl; exact plain member
      have mark : c ≠ '\ufeff' := by rintro rfl; exact unmarked member
      simp [CaseChange.isStray, raw, slash, mark, unblank c member]
    have ending : ∀ c ∈ "_binding".toList, isIdentifierContinue c = true :=
      List.all_eq_true.mp (by decide +kernel)
    have letters := List.forall_mem_append.mpr ⟨letters_of_bare bare usable, ending⟩
    rw [← String.ofList_toList (s := container.moduleName), moduleName_toList]
    exact isIdentifier_of_letters letters

/-- A name with letters beyond ASCII names a module. -/
theorem moduleName_isIdentifier_unicode :
    let container := Container.ofPath "engine::Größe"
    container.fault? = none ∧ (∀ c ∈ container.name.toList, isBlank c = false) ∧
      ¬HasComment container.name ∧ container.moduleName = "__Größe_binding" ∧
      isIdentifier container.moduleName = true := by
  intro container
  have accepted : container.fault? = none := by decide +kernel
  have bare : Bare container.name := by decide +kernel
  have uncommented : ¬HasComment container.name :=
    mt (hasComment_iff_slash (container_name_accepted accepted)).mp (by decide +kernel)
  refine ⟨accepted, bare.unblank, uncommented, by decide +kernel, ?_⟩
  exact (moduleName_isIdentifier_iff accepted bare.unblank uncommented).mpr (by decide +kernel)

/-- A raw container is accepted, and its module has no name. So is one behind a byte order mark. -/
theorem moduleName_raw :
    let raw := Container.ofPath "engine::r#type"
    let marked := Container.ofPath "engine::\ufeffLight"
    ∀ container ∈ [raw, marked], container.fault? = none ∧
      (∀ c ∈ container.name.toList, isBlank c = false) ∧ ¬HasComment container.name ∧
      isIdentifier container.moduleName = false := by
  intro raw marked container member
  have known : container.fault? = none ∧ container.name.toList.any isBlank = false ∧
      '/' ∉ container.name.toList ∧ isIdentifier container.moduleName = false := by
    revert container
    decide +kernel
  obtain ⟨accepted, unblank, plain, unnamed⟩ := known
  exact ⟨accepted, fun c member => Bool.eq_false_iff.mpr (List.any_eq_false.mp unblank c member),
    mt (hasComment_iff_slash (container_name_accepted accepted)).mp plain, unnamed⟩

end NativeThunks.ModuleNames
