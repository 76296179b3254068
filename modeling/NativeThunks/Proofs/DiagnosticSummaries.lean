import Mathlib.Algebra.BigOperators.Group.List.Lemmas
import Mathlib.Algebra.GroupWithZero.Nat
import NativeThunks.Proofs.ContainerOutcomes
import NativeThunks.Samples

/-! Summaries of diagnostics. A summary announces the number of diagnostics and has one section for every
kind that occurs, in the order of the codes; a section shows its first ten diagnostics and the number of
the others, so every diagnostic is accounted for. The order of the codes is that of severity but for one
kind: a duplicate unit file, which is about a whole type and has the last code. -/
namespace NativeThunks.DiagnosticSummaries
open ContainerOutcomes Diagnostics

variable {diagnostics : Diagnostics} {kind : DiagnosticKind} {entries : List Diagnostic}

/-- How diagnostics are collected. -/
inductive History where
  | empty
  | add (before : History) (diagnostic : Diagnostic)
  | extend (before : History) (more : List Diagnostic)
  | merge (before other : History)

namespace History

/-- The collection that a history leads to. -/
def collected : History → Diagnostics
  | .empty => {}
  | .add before diagnostic => before.collected.add diagnostic
  | .extend before more => before.collected.extend more
  | .merge before other => before.collected.merge other.collected

/-- The diagnostics of a history in the order of their discovery. -/
def discovered : History → List Diagnostic
  | .empty => []
  | .add before diagnostic => before.discovered ++ [diagnostic]
  | .extend before more => before.discovered ++ more
  | .merge before other => before.discovered ++ other.discovered

end History

/-- A collection keeps what was discovered, and its order. -/
theorem collected_entries (history : History) : history.collected.entries = history.discovered := by
  induction history with
  | empty => rfl
  | add before diagnostic ih => rw [History.collected, Diagnostics.add, ih, History.discovered]
  | extend before more ih => rw [History.collected, extend_eq, ih, History.discovered]
  | merge before other one two =>
    rw [History.collected, Diagnostics.merge, one, two, History.discovered]

/-- The heading of a section. -/
def heading (kind : DiagnosticKind) (number : Nat) : String :=
  "## " ++ kind.code ++ " " ++ kind.title ++ " (" ++ toString number ++ "):"

/-- A diagnostic as it is listed under the heading of its kind. -/
def item (diagnostic : Diagnostic) : String :=
  "  - " ++ diagnostic.location.text ++ ": " ++ diagnostic.message

/-- The lines of a section: its heading with the number of diagnostics, the first ten of them, the number of
the others if there are any, and an empty line. -/
structure SectionLines (kind : DiagnosticKind) (entries : List Diagnostic) (lines : List String) :
    Prop where
  first : lines.head? = some (heading kind entries.length)
  shown : ∀ index < min 10 entries.length, lines[index + 1]? = entries[index]?.map item
  last : lines.drop (min 10 entries.length + 1) =
    if 10 < entries.length then ["  ... and " ++ toString (entries.length - 10) ++ " more", ""]
    else [""]

private theorem sectionLines_group (kind : DiagnosticKind) (entries : List Diagnostic) :
    SectionLines kind entries (group kind entries) := by
  have lines : group kind entries = heading kind entries.length :: ((entries.take 10).map item ++
      if 10 < entries.length then ["  ... and " ++ toString (entries.length - 10) ++ " more", ""]
      else [""]) := by
    unfold group shownPerKind item
    split <;> simp [heading]
  have shown : ((entries.take 10).map item).length = min 10 entries.length := by simp
  rw [lines]
  refine ⟨rfl, fun index inside => ?_, ?_⟩
  · rw [List.getElem?_cons_succ, List.getElem?_append_left (shown ▸ inside), List.getElem?_map,
      List.getElem?_take_of_lt (Nat.lt_of_lt_of_le inside (Nat.min_le_left _ _))]
  · rw [List.drop_succ_cons, ← shown, List.drop_left]

/-- The kinds that occur, in the order of the codes. -/
def kindsOf (diagnostics : Diagnostics) : List DiagnosticKind := diagnostics.groups.map (·.1)

private theorem mem_all (kind : DiagnosticKind) : kind ∈ DiagnosticKind.all := by cases kind <;> decide

private theorem all_increasing : DiagnosticKind.all.Pairwise (·.code < ·.code) := by decide

private theorem groups_eq (diagnostics : Diagnostics) :
    diagnostics.groups = (kindsOf diagnostics).map fun kind => (kind, diagnostics.ofKind kind) := by
  rw [kindsOf, groups, List.filter_map, List.map_map, List.map_map]
  rfl

private theorem kindsOf_eq (diagnostics : Diagnostics) :
    kindsOf diagnostics = DiagnosticKind.all.filter fun kind => !(diagnostics.ofKind kind).isEmpty := by
  rw [kindsOf, groups, List.filter_map, List.map_map]
  exact List.map_id _

private theorem kindsOf_increasing (diagnostics : Diagnostics) :
    (kindsOf diagnostics).Pairwise (·.code < ·.code) := by
  rw [kindsOf_eq]
  exact all_increasing.filter _

private theorem kindsOf_nodup (diagnostics : Diagnostics) : (kindsOf diagnostics).Nodup := by
  refine List.Pairwise.imp ?_ (kindsOf_increasing diagnostics)
  rintro kind _ less rfl
  exact lt_irrefl _ less

private theorem mem_kindsOf : kind ∈ kindsOf diagnostics ↔
    ∃ diagnostic ∈ diagnostics.entries, diagnostic.kind = kind := by
  simp [kindsOf_eq, mem_all, ofKind]

/-- Every diagnostic is in one section, so the numbers in the headings add up. -/
theorem counts_sum (diagnostics : Diagnostics) :
    ((kindsOf diagnostics).map fun kind => (diagnostics.ofKind kind).length).sum =
      diagnostics.entries.length := by
  let occurring := diagnostics.entries.map (·.kind)
  have distinct := kindsOf_nodup diagnostics
  have same : (kindsOf diagnostics).Perm occurring.dedup :=
    (List.perm_ext_iff_of_nodup distinct occurring.nodup_dedup).mpr fun kind => by
      simp [mem_kindsOf, occurring]
  have counted (kind : DiagnosticKind) : (diagnostics.ofKind kind).length = occurring.count kind := by
    rw [ofKind, List.count_eq_countP, List.countP_map, List.countP_eq_length_filter]
    rfl
  calc ((kindsOf diagnostics).map fun kind => (diagnostics.ofKind kind).length).sum
      = ((kindsOf diagnostics).map fun kind => occurring.count kind).sum := by simp only [counted]
    _ = (occurring.dedup.map fun kind => occurring.count kind).sum := (same.map _).sum_eq
    _ = occurring.length := List.sum_map_count_dedup_eq_length occurring
    _ = diagnostics.entries.length := List.length_map _

/-- The lines of a summary, section by section. -/
theorem summaryLines_eq (found : diagnostics.entries ≠ []) :
    diagnostics.summaryLines =
      ("Found " ++ toString diagnostics.entries.length ++ " diagnostic(s):") :: "" ::
        (kindsOf diagnostics).flatMap fun kind => group kind (diagnostics.ofKind kind) := by
  rw [summaryLines, if_neg (by simpa using found), groups_eq, List.flatMap_map]
  rfl

/-- What the summary of a collection says about diagnostics, given in the order of their discovery. -/
structure Accounts (diagnostics : Diagnostics) (found : List Diagnostic)
    (kinds : List DiagnosticKind) (lines : DiagnosticKind → List String) : Prop where
  text : diagnostics.summary = "\n".intercalate
    (("Found " ++ toString found.length ++ " diagnostic(s):") :: "" :: kinds.flatMap lines)
  increasing : kinds.Pairwise (·.code < ·.code)
  occurring : ∀ kind, kind ∈ kinds ↔ ∃ diagnostic ∈ found, diagnostic.kind = kind
  sum : (kinds.map fun kind => (diagnostics.ofKind kind).length).sum = found.length
  listed : ∀ kind ∈ kinds, SectionLines kind (diagnostics.ofKind kind) (lines kind)

/-- However diagnostics are collected, they are kept in the order of their discovery, and the diagnostics
of a kind are those in this order. The summary of any announces how many there are and has one section for
every kind among them, in the order of the codes; the numbers in the headings add up, and every section
lists the first ten diagnostics of its kind and says how many more there are. -/
theorem summary_accounts (history : History) :
    history.collected.entries = history.discovered ∧
      (∀ kind, history.collected.ofKind kind = history.discovered.filter (·.kind = kind)) ∧
      (history.discovered = [] → history.collected.summary = "No diagnostics") ∧
      (history.discovered ≠ [] →
        ∃ kinds lines, Accounts history.collected history.discovered kinds lines) := by
  have entries := collected_entries history
  refine ⟨entries, fun kind => ?_, fun none => ?_, fun some => ?_⟩
  · rw [ofKind, entries]
    exact List.filter_congr fun diagnostic _ => beq_eq_decide _ _
  · rw [summary, summaryLines, entries, none]
    rfl
  · rw [← entries] at some ⊢
    refine ⟨kindsOf history.collected, fun kind => group kind (history.collected.ofKind kind),
      ?_, kindsOf_increasing _, fun kind => mem_kindsOf, counts_sum _,
      fun kind _ => sectionLines_group _ _⟩
    rw [summary, summaryLines_eq some]

/-- The line of a summary that the section of a kind begins at. -/
def startOf (diagnostics : Diagnostics) (kind : DiagnosticKind) : Nat :=
  (((kindsOf diagnostics).takeWhile (· != kind)).flatMap fun earlier =>
    group earlier (diagnostics.ofKind earlier)).length + 2

/-- The sections about whole types come before those about single members. -/
def SevereFirst (diagnostics : Diagnostics) : Prop :=
  ∀ severe ∈ kindsOf diagnostics, severe.isTypeLevel = true →
    ∀ other ∈ kindsOf diagnostics, other.isTypeLevel = false →
      startOf diagnostics severe < startOf diagnostics other

instance (diagnostics : Diagnostics) : Decidable (SevereFirst diagnostics) :=
  inferInstanceAs (Decidable (∀ severe ∈ kindsOf diagnostics, severe.isTypeLevel = true →
    ∀ other ∈ kindsOf diagnostics, other.isTypeLevel = false →
      startOf diagnostics severe < startOf diagnostics other))

/-- The sections in front of that of a kind. -/
theorem startOf_split {front behind : List DiagnosticKind}
    (split : kindsOf diagnostics = front ++ kind :: behind) :
    startOf diagnostics kind =
      (front.flatMap fun earlier => group earlier (diagnostics.ofKind earlier)).length + 2 := by
  have distinct := kindsOf_nodup diagnostics
  rw [split, List.nodup_append] at distinct
  have before : (kindsOf diagnostics).takeWhile (· != kind) = front := by
    have different : ∀ earlier ∈ front, (earlier != kind) = true := by
      intro earlier member
      exact bne_iff_ne.mpr (distinct.2.2 earlier member kind List.mem_cons_self)
    rw [split, List.takeWhile_append_of_pos different]
    simp
  rw [startOf, before]

/-- A section begins with its heading. -/
theorem heading_at (present : kind ∈ kindsOf diagnostics) :
    diagnostics.summaryLines[startOf diagnostics kind]? =
      some (heading kind (diagnostics.ofKind kind).length) := by
  obtain ⟨front, behind, split⟩ := List.append_of_mem present
  have found : diagnostics.entries ≠ [] := by
    obtain ⟨diagnostic, member, _⟩ := mem_kindsOf.mp present
    exact List.ne_nil_of_mem member
  obtain ⟨rest, lines⟩ := List.head?_eq_some_iff.mp
    (sectionLines_group kind (diagnostics.ofKind kind)).first
  rw [startOf_split split, summaryLines_eq found, split, List.flatMap_append, List.flatMap_cons,
    lines, List.getElem?_cons_succ, List.getElem?_cons_succ, List.getElem?_append_right le_rfl,
    Nat.sub_self]
  rfl

/-- Sections stand in the order of the codes. -/
theorem startOf_lt {first second : DiagnosticKind} (one : first ∈ kindsOf diagnostics)
    (other : second ∈ kindsOf diagnostics) (less : first.code < second.code) :
    startOf diagnostics first < startOf diagnostics second := by
  obtain ⟨front, behind, split⟩ := List.append_of_mem one
  have increasing := kindsOf_increasing diagnostics
  rw [split] at other increasing
  have later : second ∈ behind := by
    rcases List.mem_append.mp other with earlier | rest
    · have before := (List.pairwise_append.mp increasing).2.2 second earlier first List.mem_cons_self
      exact absurd before (lt_asymm less)
    · rcases List.mem_cons.mp rest with rfl | later
      · exact absurd less (lt_irrefl _)
      · exact later
  obtain ⟨middle, last, rfl⟩ := List.append_of_mem later
  have whole : kindsOf diagnostics = (front ++ first :: middle) ++ second :: last := by
    rw [split, List.append_assoc, List.cons_append]
  have occupied : 0 < (group first (diagnostics.ofKind first)).length := by simp [group]
  rw [startOf_split split, startOf_split whole, List.flatMap_append, List.flatMap_cons,
    List.length_append, List.length_append]
  omega

/-- The kinds about whole types have smaller codes than those about members, but for one. -/
theorem code_lt_of_severe {severe other : DiagnosticKind} (typeLevel : severe.isTypeLevel = true)
    (written : severe ≠ .duplicateUnitFile) (memberLevel : other.isTypeLevel = false) :
    severe.code < other.code := by
  have all : ∀ severe ∈ DiagnosticKind.all, severe.isTypeLevel = true → severe ≠ .duplicateUnitFile →
      ∀ other ∈ DiagnosticKind.all, other.isTypeLevel = false → severe.code < other.code := by decide
  exact all severe (mem_all _) typeLevel written other (mem_all _) memberLevel

/-- A duplicate unit file has the last code. -/
theorem code_lt_duplicateUnitFile {other : DiagnosticKind} (memberLevel : other.isTypeLevel = false) :
    other.code < DiagnosticKind.duplicateUnitFile.code := by
  have all : ∀ other ∈ DiagnosticKind.all, other.isTypeLevel = false →
      other.code < DiagnosticKind.duplicateUnitFile.code := by decide
  exact all other (mem_all _) memberLevel

/-- The sections of a summary begin with the headings of the kinds that occur. Those about whole types come
first exactly when there are not both a duplicate unit file and a diagnostic about a member. -/
theorem severe_first_iff (diagnostics : Diagnostics) :
    (∀ kind, kind ∈ kindsOf diagnostics ↔
        ∃ diagnostic ∈ diagnostics.entries, diagnostic.kind = kind) ∧
      (∀ kind ∈ kindsOf diagnostics, diagnostics.summaryLines[startOf diagnostics kind]? =
        some (heading kind (diagnostics.ofKind kind).length)) ∧
      (SevereFirst diagnostics ↔ ¬(.duplicateUnitFile ∈ kindsOf diagnostics ∧
        ∃ other ∈ kindsOf diagnostics, other.isTypeLevel = false)) := by
  refine ⟨fun _ => mem_kindsOf, fun _ => heading_at, ?_, ?_⟩
  · rintro severeFirst ⟨duplicate, other, present, memberLevel⟩
    have before := severeFirst _ duplicate rfl other present memberLevel
    exact lt_asymm before (startOf_lt present duplicate (code_lt_duplicateUnitFile memberLevel))
  · intro apart severe present typeLevel other otherPresent memberLevel
    have written : severe ≠ .duplicateUnitFile := by
      rintro rfl
      exact apart ⟨present, other, otherPresent, memberLevel⟩
    exact startOf_lt present otherPresent (code_lt_of_severe typeLevel written memberLevel)

/-- A unit that is left out for its file is reported behind a member that is left out for its result. -/
theorem unit_file_behind_member :
    let diagnostics : Diagnostics := ⟨[
      .cannotBeReturned (.method Samples.camera "Active") "Texture",
      .duplicateUnitFile Samples.texture "Camera_binding.rs" "engine::Camera"]⟩
    DiagnosticKind.duplicateUnitFile.isTypeLevel = true ∧
      DiagnosticKind.cannotBeReturned.isTypeLevel = false ∧
      startOf diagnostics .cannotBeReturned = 2 ∧ startOf diagnostics .duplicateUnitFile = 5 ∧
      diagnostics.summaryLines = ["Found 2 diagnostic(s):", "",
        "## BG0008 Type cannot be returned (1):",
        "  - src/camera.rs:10:5: engine::Camera::Active: The return value cannot be of type 'Texture'",
        "",
        "## BG0013 Duplicate unit file (1):",
        "  - src/graphics/texture.rs:4:5: engine::graphics::GfxTexture: " ++
          "The unit file 'Camera_binding.rs' is already written for 'engine::Camera'",
        ""] ∧
      ¬SevereFirst diagnostics := by
  decide +kernel

end NativeThunks.DiagnosticSummaries
