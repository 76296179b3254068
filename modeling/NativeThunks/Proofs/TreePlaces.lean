import NativeThunks.Files.Tree
import NativeThunks.Proofs.FolderPaths

/-! What an operation on a tree of files changes. A tree is seen as what stands at every place: a file
with its text, a folder, or nothing. Making a folder and writing a file each change one place and leave
all others as they are, and they never take a folder away; so where a path has led it leads later. -/
namespace NativeThunks.TreePlaces
open Files FolderPaths

/-- What stands at a place. What is in a folder stands at other places. -/
inductive Node where
  | file (text : String)
  | folder
deriving DecidableEq, Repr

/-- What an entry is at its own place. -/
def nodeOf : Entry → Node
  | .file text => .file text
  | .folder _ => .folder

/-- What stands where names lead to. -/
def node? (folder : Folder) (names : List String) : Option Node := (folder.at? names).map nodeOf

/-- An entry with nothing in it. -/
def Bare (entry : Entry) : Prop := ∀ entries, entry = .folder entries → entries = []

/-- A path leads to a place of a tree, where something may stand or not. -/
def LeadsTo (tree : FileTree) (path : String) (names : List String) : Prop :=
  ∃ folderOnly, tree.locate path = .ok ⟨names, folderOnly⟩

/-- The folders of one tree are in another one as well, and its paths start at the same place. -/
structure Keeps (tree later : FileTree) : Prop where
  working : later.working = tree.working
  folders : ∀ names, node? tree.root names = some .folder → node? later.root names = some .folder

/-- One tree differs from another one in what stands at one place. -/
structure Changed (tree : FileTree) (names : List String) (node : Node) (later : FileTree) :
    Prop where
  working : later.working = tree.working
  here : node? later.root names = some node
  elsewhere : ∀ other, other ≠ names → node? later.root other = node? tree.root other

theorem Keeps.refl (tree : FileTree) : Keeps tree tree := ⟨rfl, fun _ found => found⟩

theorem Keeps.trans {first second third : FileTree} (left : Keeps first second)
    (right : Keeps second third) : Keeps first third :=
  ⟨right.working.trans left.working, fun names found =>
    right.folders names (left.folders names found)⟩

private theorem get_set (folder : Folder) (name other : String) (entry : Entry) :
    (folder.set name entry).get? other = if other = name then some entry else folder.get? other := by
  induction folder with
  | nil =>
    rw [Folder.set, Folder.get?, List.find?_cons]
    by_cases same : name = other
    · simp [same]
    · simp [beq_eq_false_iff_ne.mpr same, Ne.symm same, Folder.get?]
  | cons first rest ih =>
    obtain ⟨known, old⟩ := first
    rw [Folder.get?] at ih ⊢
    by_cases here : known = name
    · subst here
      by_cases same : known = other
      · simp [Folder.set, same]
      · simp [Folder.set, same, Ne.symm same, Folder.get?]
    · by_cases same : known = other
      · subst same
        simp [Folder.set, here, Folder.get?]
      · simp [Folder.set, here, same, ih, Folder.get?]

/-- What stands below a name, given what the name stands for. -/
def under? (entry : Option Entry) (rest : List String) : Option Node :=
  match entry with
  | some (.folder inner) => node? inner rest
  | some (.file text) => if rest = [] then some (.file text) else none
  | none => none

@[simp] theorem node_nil (folder : Folder) : node? folder [] = some .folder := rfl

private theorem node_cons (folder : Folder) (name : String) (rest : List String) :
    node? folder (name :: rest) = under? (folder.get? name) rest := by
  rw [node?, Folder.at?]
  cases folder.get? name with
  | none => rfl
  | some entry =>
    cases entry with
    | folder inner => rfl
    | file text => cases rest <;> rfl

/-- Nothing stands below what is no folder. -/
theorem under_solid {entry : Option Entry} (solid : under? entry [] ≠ some .folder)
    {rest : List String} (below : rest ≠ []) : under? entry rest = none := by
  cases entry with
  | none => rfl
  | some held =>
    cases held with
    | file text => exact if_neg below
    | folder inner => exact absurd rfl solid

/-- A bare entry is all that stands at its name and below. -/
theorem under_bare {entry : Entry} (bare : Bare entry) (rest : List String) :
    under? (some entry) rest = if rest = [] then some (nodeOf entry) else none := by
  cases entry with
  | file text => rfl
  | folder inner =>
    obtain rfl := bare inner rfl
    cases rest <;> rfl

/-- Where there is a folder, there are folders on the way. -/
theorem under_folder {entry : Option Entry} {rest : List String}
    (found : under? entry rest = some .folder) :
    ∃ inner, entry = some (.folder inner) ∧ node? inner rest = some .folder := by
  cases entry with
  | none => cases found
  | some held =>
    cases held with
    | folder inner => exact ⟨inner, rfl, found⟩
    | file text =>
      simp only [under?] at found
      split at found <;> cases found

private theorem node_prefix {folder : Folder} {names more : List String}
    (found : node? folder (names ++ more) = some .folder) : node? folder names = some .folder := by
  induction names generalizing folder with
  | nil => rfl
  | cons name rest ih =>
    rw [List.cons_append, node_cons] at found
    obtain ⟨inner, entry, found⟩ := under_folder found
    rw [node_cons, entry]
    exact ih found

private theorem put_cons (folder : Folder) (name : String) {rest : List String} (below : rest ≠ [])
    (entry : Entry) :
    folder.put (name :: rest) entry =
      match folder.get? name with
      | some (.folder inner) => folder.set name (.folder (Folder.put inner rest entry))
      | _ => folder := by
  cases rest with
  | nil => exact absurd rfl below
  | cons next rest => rfl

/-- A bare entry in a folder, in place of something that is no folder, changes its own place and no
other. -/
theorem node_put {folder : Folder} {front : List String} {name : String} {entry : Entry}
    (around : node? folder front = some .folder) (bare : Bare entry)
    (solid : node? folder (front ++ [name]) ≠ some .folder) (other : List String) :
    node? (folder.put (front ++ [name]) entry) other =
      if other = front ++ [name] then some (nodeOf entry) else node? folder other := by
  induction front generalizing folder other with
  | nil =>
    rw [List.nil_append, node_cons] at solid
    rw [List.nil_append, Folder.put]
    cases other with
    | nil => simp
    | cons first rest =>
      rw [node_cons, node_cons, get_set]
      by_cases same : first = name
      · subst same
        rw [if_pos rfl, under_bare bare]
        by_cases last : rest = []
        · simp [last]
        · simp [last, under_solid solid last]
      · simp [same]
  | cons first front ih =>
    rw [List.cons_append, node_cons] at solid
    rw [node_cons] at around
    obtain ⟨inner, held, inside⟩ := under_folder around
    rw [held] at solid
    rw [List.cons_append, put_cons folder first (by simp) entry, held]
    cases other with
    | nil => simp
    | cons next rest =>
      rw [node_cons, node_cons, get_set]
      by_cases same : next = first
      · subst same
        rw [if_pos rfl, held, under?, ih inside solid]
        simp [under?]
      · simp [same]

private theorem node_folder_iff {folder : Folder} {names : List String} :
    node? folder names = some .folder ↔ ∃ inner, folder.at? names = some (.folder inner) := by
  unfold node?
  cases folder.at? names with
  | none => simp
  | some entry => cases entry <;> simp [nodeOf]

/-- The names behind one more step, the last one first. -/
def advance (step : String) (names : List String) : List String :=
  if step = "." then names else if step = ".." then names.tail else step :: names

/-- Every step starts in a folder. -/
theorem follow_cons_iff {root : Folder} {step : String} {rest names reached : List String} :
    follow root (step :: rest) names = .ok reached ↔
      node? root names.reverse = some .folder ∧
        (step = "." ∨ step = ".." ∨ step.utf8ByteSize ≤ nameLimit) ∧
        follow root rest (advance step names) = .ok reached := by
  rw [follow, node_folder_iff]
  cases root.at? names.reverse with
  | none => simp
  | some entry =>
    cases entry with
    | file text => simp
    | folder inner =>
      unfold advance
      by_cases here : step = "."
      · simp [here]
      · by_cases back : step = ".."
        · simp [back]
        · by_cases long : nameLimit < step.utf8ByteSize
          · simp [here, back, long, Nat.not_le.mpr long]
          · simp [here, back, long, Nat.not_lt.mp long]

private theorem follow_keeps {root later : Folder} {steps names reached : List String}
    (keeps : ∀ names, node? root names = some .folder → node? later names = some .folder)
    (found : follow root steps names = .ok reached) : follow later steps names = .ok reached := by
  induction steps generalizing names with
  | nil => exact found
  | cons step rest ih =>
    obtain ⟨here, short, found⟩ := follow_cons_iff.mp found
    exact follow_cons_iff.mpr ⟨keeps _ here, short, ih found⟩

/-- Where steps lead to there is a folder around: a step leads to the folder it starts from, to
something in it, or to the folder around it. -/
theorem follow_around {root : Folder} {step : String} {rest names reached : List String}
    (found : follow root (step :: rest) names = .ok reached) :
    node? root reached.dropLast = some .folder := by
  induction rest generalizing step names with
  | nil =>
    obtain ⟨here, _, found⟩ := follow_cons_iff.mp found
    obtain rfl : (advance step names).reverse = reached := Except.ok.inj found
    have inner : (advance step names).reverse.dropLast <+: names.reverse := by
      unfold advance
      split
      · exact List.dropLast_prefix _
      · split
        · rw [← List.dropLast_reverse]
          exact (List.dropLast_prefix _).trans (List.dropLast_prefix _)
        · have front : (step :: names).reverse.dropLast = names.reverse := by simp
          exact front ▸ List.prefix_rfl
    obtain ⟨more, whole⟩ := inner
    exact node_prefix (whole ▸ here)
  | cons next rest ih => exact ih (follow_cons_iff.mp found).2.2

/-- A last step that is a name is the name of the place it leads to. -/
theorem follow_last {root : Folder} {front names reached : List String} {step : String}
    (here : step ≠ ".") (back : step ≠ "..")
    (found : follow root (front ++ [step]) names = .ok reached) :
    reached.getLast? = some step := by
  induction front generalizing names with
  | nil =>
    obtain rfl := Except.ok.inj (follow_cons_iff.mp found).2.2
    simp [advance, here, back]
  | cons first front ih => exact ih (follow_cons_iff.mp found).2.2

/-- What it takes for a path to have a place. -/
theorem locate_ok_iff {tree : FileTree} {path : String} {place : Place} :
    tree.locate path = .ok place ↔
      '\x00' ∉ path.toList ∧ path ≠ "" ∧ path.utf8ByteSize ≤ pathLimit ∧
        follow tree.root (Route.ofPath path).steps
          (if (Route.ofPath path).absolute then [] else tree.working.reverse) = .ok place.names ∧
        place.folderOnly = (Route.ofPath path).folderOnly := by
  by_cases null : '\x00' ∈ path.toList
  · simp [FileTree.locate, null]
  · by_cases empty : path = ""
    · simp [FileTree.locate, empty]
    · by_cases long : pathLimit < path.utf8ByteSize
      · simp [FileTree.locate, null, empty, long, Nat.not_le.mpr long]
      · have whole : tree.locate path = (follow tree.root (Route.ofPath path).steps
            (if (Route.ofPath path).absolute then [] else tree.working.reverse)).map
              fun names => ⟨names, (Route.ofPath path).folderOnly⟩ := by
          simp only [FileTree.locate, List.contains_eq_mem, null, decide_false, Bool.false_eq_true,
            empty, long, if_false]
          rfl
        rw [whole]
        obtain ⟨names, folderOnly⟩ := place
        cases follow tree.root (Route.ofPath path).steps
            (if (Route.ofPath path).absolute then [] else tree.working.reverse) with
        | error fault => simp [Except.map]
        | ok reached => simp [Except.map, null, empty, Nat.not_lt.mp long, @eq_comm Bool]

/-- Where a path has led it leads later. -/
theorem locate_keeps {tree later : FileTree} {path : String} {place : Place}
    (keeps : Keeps tree later) (found : tree.locate path = .ok place) :
    later.locate path = .ok place := by
  obtain ⟨null, occupied, short, found, only⟩ := locate_ok_iff.mp found
  refine locate_ok_iff.mpr ⟨null, occupied, short, ?_, only⟩
  rw [keeps.working]
  exact follow_keeps keeps.folders found

theorem LeadsTo.keeps {tree later : FileTree} {path : String} {names : List String}
    (found : LeadsTo tree path names) (keeps : Keeps tree later) : LeadsTo later path names :=
  found.imp fun _ found => locate_keeps keeps found

/-- A path that does not start at the top has a step. -/
theorem steps_of_relative {path : String} (occupied : path ≠ "")
    (relative : (Route.ofPath path).absolute = false) : (Route.ofPath path).steps ≠ [] := by
  have nonempty := mt String.toList_eq_nil_iff.mp occupied
  obtain ⟨first, rest, whole⟩ := pieces_cons path.toList
  have lower : ¬path.toList.head? = some '/' := of_decide_eq_false relative
  rw [absolute_iff nonempty, whole, List.head?_cons, Option.some_inj] at lower
  simp [Route.ofPath, whole, lower]

/-- The place of a path is a folder, or it is a name in a folder. -/
theorem LeadsTo.solid {tree : FileTree} {path : String} {names : List String}
    (found : LeadsTo tree path names) (solid : node? tree.root names ≠ some .folder) :
    ∃ front name, names = front ++ [name] ∧ node? tree.root front = some .folder := by
  obtain ⟨folderOnly, found⟩ := found
  obtain ⟨_, occupied, _, found, _⟩ := locate_ok_iff.mp found
  have below : names ≠ [] := fun top => solid (top ▸ rfl)
  refine ⟨names.dropLast, names.getLast below, (List.dropLast_concat_getLast below).symm, ?_⟩
  cases steps : (Route.ofPath path).steps with
  | cons step rest =>
    rw [steps] at found
    exact follow_around found
  | nil =>
    cases absolute : (Route.ofPath path).absolute with
    | false => exact absurd steps (steps_of_relative occupied absolute)
    | true =>
      rw [steps, absolute] at found
      exact absurd (Except.ok.inj found).symm below

/-- The last step to a name in a folder is the name. -/
theorem LeadsTo.last {tree : FileTree} {folder name : String} {names : List String}
    (found : LeadsTo tree (join folder name) names) (single : '/' ∉ name.toList)
    (own : name ≠ "" ∧ name ≠ "." ∧ name ≠ "..") : names.getLast? = some name := by
  obtain ⟨_, found⟩ := found
  obtain ⟨_, _, _, found, _⟩ := locate_ok_iff.mp found
  have nonempty := mt String.toList_eq_nil_iff.mp own.1
  have steps : ∃ front, (Route.ofPath (join folder name)).steps = front ++ [name] := by
    by_cases occupied : folder = ""
    · refine ⟨[], ?_⟩
      simp [occupied, join_empty, Route.ofPath, pieces_of_single single, nonempty]
    · have relative : name.toList.head? ≠ some '/' := by
        intro slash
        exact single (List.mem_of_mem_head? slash)
      obtain ⟨base, joined, _⟩ := join_split occupied relative
      refine ⟨((pieces base).filter (· != [])).map String.ofList, ?_⟩
      simp [Route.ofPath, joined, pieces_split, pieces_of_single single, nonempty]
  obtain ⟨front, steps⟩ := steps
  rw [steps] at found
  exact follow_last own.2.1 own.2.2 found

/-- Reading finds the text of the file at the place of a path. -/
theorem read_of_place {tree : FileTree} {path text : String} {names : List String}
    (found : tree.locate path = .ok ⟨names, false⟩)
    (held : node? tree.root names = some (.file text)) : tree.read path = .ok text := by
  obtain ⟨entry, there, same⟩ := Option.map_eq_some_iff.mp held
  cases entry with
  | folder inner => cases same
  | file other =>
    cases same
    simp [FileTree.read, FileTree.find, found, FileTree.entry?, there, bind, Except.bind, pure,
      Except.pure]

/-- A change at a place that was no folder takes no folder away. -/
theorem Changed.keeps {tree later : FileTree} {names : List String} {node : Node}
    (changed : Changed tree names node later) (solid : node? tree.root names ≠ some .folder) :
    Keeps tree later := by
  refine ⟨changed.working, ?_⟩
  intro other found
  rw [changed.elsewhere other]
  · exact found
  · rintro rfl
    exact solid found

private theorem changed_put {tree : FileTree} {path : String} {place : Place} {entry : Entry}
    (found : tree.locate path = .ok place) (bare : Bare entry)
    (solid : node? tree.root place.names ≠ some .folder) :
    Changed tree place.names (nodeOf entry) (tree.put place entry) := by
  obtain ⟨front, name, whole, around⟩ := LeadsTo.solid ⟨_, found⟩ solid
  rw [whole] at solid
  constructor
  case working => rfl
  case here => rw [FileTree.put, whole, node_put around bare solid, if_pos rfl]
  case elsewhere =>
    intro other different
    rw [whole] at different
    rw [FileTree.put, whole, node_put around bare solid, if_neg different]

/-- Writing changes the place of a path, which is no folder, into a file with the text. -/
theorem write_ok {tree later : FileTree} {path text : String}
    (done : tree.write path text = .ok later) :
    ∃ names, tree.locate path = .ok ⟨names, false⟩ ∧ node? tree.root names ≠ some .folder ∧
      Changed tree names (.file text) later := by
  cases found : tree.locate path with
  | error fault =>
    rw [FileTree.write, found] at done
    cases done
  | ok place =>
    obtain ⟨names, folderOnly⟩ := place
    simp only [FileTree.write, found, FileTree.entry?, bind, Except.bind] at done
    split at done
    · cases done
    · rename_i solid
      cases folderOnly with
      | true => cases done
      | false =>
        cases done
        have untaken : node? tree.root names ≠ some .folder := by
          intro folder
          obtain ⟨inner, there⟩ := node_folder_iff.mp folder
          exact solid inner there
        have bare : Bare (.file text) := fun _ same => nomatch same
        exact ⟨names, rfl, untaken, changed_put found bare untaken⟩

/-- Making a folder changes the place of a path, where nothing was. -/
theorem createFolder_ok {tree later : FileTree} {path : String}
    (done : tree.createFolder path = .ok later) :
    ∃ names, LeadsTo tree path names ∧ node? tree.root names = none ∧
      Changed tree names .folder later := by
  cases found : tree.locate path with
  | error fault =>
    rw [FileTree.createFolder, found] at done
    cases done
  | ok place =>
    simp only [FileTree.createFolder, found, FileTree.entry?, bind, Except.bind] at done
    split at done
    · cases done
    · rename_i nothing
      cases done
      have empty : node? tree.root place.names = none := congrArg (Option.map nodeOf) nothing
      have bare : Bare (.folder []) := fun entries same => (Entry.folder.inj same).symm
      exact ⟨place.names, ⟨_, found⟩, empty, changed_put found bare (by simp [empty])⟩

end NativeThunks.TreePlaces
