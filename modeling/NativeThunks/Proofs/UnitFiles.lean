import NativeThunks.Proofs.ContainerOutcomes
import NativeThunks.Proofs.FolderPaths
import NativeThunks.Proofs.LexedNames
import NativeThunks.Proofs.PlanStages
import NativeThunks.Samples

/-! Where the files of units are written. A file is named after its container, whose name was read
as an identifier; a comment beside the identifier becomes part of the file's name, and its slashes
lead away from the folder that the units are written to. Nothing else leads away from it. -/
namespace NativeThunks.UnitFiles
open Files FolderPaths LexedNames PlanStages ContainerOutcomes

variable {config : Config} {set : DeclarationSet}

/-- A name that is one step below a folder, to something of its own. -/
structure SingleComponent (name : String) : Prop where
  single : '/' ∉ name.toList
  relative : name.toList.head? ≠ some '/'
  own : name ≠ "" ∧ name ≠ "." ∧ name ≠ ".."

private theorem unitFile_toList (container : Container) :
    container.unitFile.toList = container.name.toList ++ "_binding.rs".toList :=
  String.toList_append

/-- The end of every unit's file is no step by itself. -/
private theorem active_of_ended {front : List Char} :
    isIdle (front ++ "_binding.rs".toList) = false := by
  have long : (front ++ "_binding.rs".toList).length ≠ 0 ∧
      (front ++ "_binding.rs".toList).length ≠ 1 := by simp
  refine Bool.or_eq_false_iff.mpr ⟨beq_eq_false_iff_ne.mpr ?_, beq_eq_false_iff_ne.mpr ?_⟩
  · intro same
    exact long.1 (congrArg List.length same)
  · intro same
    exact long.2 (congrArg List.length same)

theorem slash_mem_unitFile (container : Container) :
    '/' ∈ container.unitFile.toList ↔ '/' ∈ container.name.toList := by
  have absent : '/' ∉ "_binding.rs".toList := by decide
  rw [unitFile_toList, List.mem_append, or_iff_left absent]

/-- A unit's file is a single component exactly when the container's name has no slash. -/
theorem unitFile_single_iff (container : Container) :
    SingleComponent container.unitFile ↔ '/' ∉ container.name.toList := by
  rw [← slash_mem_unitFile]
  refine ⟨SingleComponent.single, fun single => ⟨single, ?_, ?_⟩⟩
  · intro slash
    exact single (List.mem_of_mem_head? slash)
  · have long : 11 ≤ container.unitFile.toList.length := by simp [unitFile_toList]
    refine ⟨?_, ?_, ?_⟩ <;> intro same <;> rw [same] at long <;> exact absurd long (by decide)

/-- Behind the last slash of a unit's file there is still its ending. -/
private theorem unitFile_split {container : Container}
    (slash : '/' ∈ container.name.toList) :
    ∃ base last, container.unitFile.toList = base ++ '/' :: last ∧ '/' ∉ last ∧
      isIdle last = false := by
  obtain ⟨back, front, split, single⟩ :=
    List.eq_append_cons_of_mem (List.mem_reverse.mpr slash)
  have name : container.name.toList = front.reverse ++ '/' :: back.reverse := by
    have turned := congrArg List.reverse split
    simpa using turned
  refine ⟨front.reverse, back.reverse ++ "_binding.rs".toList, ?_, ?_, active_of_ended⟩
  · rw [unitFile_toList, name, List.append_assoc, List.cons_append]
  · intro member
    rcases List.mem_append.mp member with back | ending
    · exact single (List.mem_reverse.mp back)
    · exact absurd ending (by decide)

/-- A unit's file is directly in every folder exactly when the container's name has no slash. -/
theorem unitFile_inside_iff (container : Container) :
    (∀ folder, Inside folder container.unitFile) ↔ '/' ∉ container.name.toList := by
  constructor
  · intro inside slash
    obtain ⟨base, last, split, single, active⟩ := unitFile_split slash
    exact not_inside_of_split split single active (inside "")
  · intro plain folder
    refine inside_of_single (fun slash => plain ((slash_mem_unitFile _).mp slash)) ?_ folder
    rw [unitFile_toList]
    exact active_of_ended

/-- With a usable configuration every set is generated. The file of a unit is a single component,
and directly in whatever folder it is written to, exactly when there is no comment in the name of
the unit's container. -/
theorem unit_files_inside_iff (set : DeclarationSet) (valid : config.isValid = true) :
    ∃ generation, Generation.run config set = .ok generation ∧ ∀ unit ∈ generation.units,
      (SingleComponent unit.fileName ↔ ¬HasComment unit.name) ∧
        ((∀ folder, Inside folder unit.fileName) ↔ ¬HasComment unit.name) := by
  refine ⟨_, run_of_valid valid set, ?_⟩
  intro unit member
  obtain ⟨first, origin⟩ := unit_origin member
  rw [origin.unitOf.fileName, origin.unitOf.name,
    hasComment_iff_slash (container_name_accepted origin.accepted)]
  exact ⟨unitFile_single_iff first.container, unitFile_inside_iff first.container⟩

theorem unit_files_inside_camera : Config.isValid {} = true ∧
    ∃ generation, Generation.run {} Samples.invalidTypes = .ok generation ∧
      generation.units.map (·.fileName) = ["Camera_binding.rs"] ∧
      ∀ unit ∈ generation.units, SingleComponent unit.fileName ∧
        ∀ folder, Inside folder unit.fileName := by
  have valid : Config.isValid {} = true := by decide +kernel
  have names : (Generation.ofSet {} Samples.invalidTypes).units.map
      (fun unit => (unit.name, unit.fileName)) = [("Camera", "Camera_binding.rs")] := by
    decide +kernel
  obtain ⟨unit, rest, units, named, none⟩ := List.map_eq_cons_iff.mp names
  obtain rfl := List.map_eq_nil_iff.mp none
  obtain ⟨name, file⟩ := Prod.mk.inj named
  obtain ⟨generation, ran, inside⟩ := unit_files_inside_iff Samples.invalidTypes valid
  obtain rfl := Except.ok.inj ((run_of_valid valid _).symm.trans ran)
  refine ⟨valid, _, ran, by simp [units, file], ?_⟩
  intro unit member
  have plain : '/' ∉ unit.name.toList := by
    obtain rfl := List.mem_singleton.mp (units ▸ member)
    rw [name]
    decide
  have uncommented : ¬HasComment unit.name := by
    rintro ⟨comment, part, start, _⟩
    exact plain (part.subset (slash_mem_of_comment start))
  exact ⟨(inside unit member).1.mpr uncommented, (inside unit member).2.mpr uncommented⟩

/-- A name that begins with a comment is accepted, and the file of its unit is at the top. -/
theorem unit_file_at_top :
    let camera : Container :=
      { path := "engine::Camera", name := "/**/Camera", nativeName := some "Camera" }
    let set : DeclarationSet := { declarations := [.method camera "Render"] }
    Config.isValid {} = true ∧ ∃ generation, Generation.run {} set = .ok generation ∧
      ∃ unit ∈ generation.units, unit.fileName = "/**/Camera_binding.rs" ∧
        ¬SingleComponent unit.fileName ∧ ¬∀ folder, Inside folder unit.fileName := by
  intro camera set
  have valid : Config.isValid {} = true := by decide +kernel
  have files : (Generation.ofSet {} set).units.map (·.fileName) = [camera.unitFile] := by
    decide +kernel
  obtain ⟨unit, _, units, named, _⟩ := List.map_eq_cons_iff.mp files
  have slash : '/' ∈ camera.name.toList := by decide
  refine ⟨valid, _, run_of_valid valid set, unit, units ▸ List.mem_cons_self, named, ?_, ?_⟩
  · rw [named, unitFile_single_iff]
    exact not_not_intro slash
  · rw [named, unitFile_inside_iff]
    exact not_not_intro slash

end NativeThunks.UnitFiles
