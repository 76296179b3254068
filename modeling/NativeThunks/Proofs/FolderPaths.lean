import NativeThunks.Files.Path
import NativeThunks.Proofs.SplitTexts
import Mathlib.Data.List.TakeWhile

/-! Paths and the folders they lie in. A path is read piece by piece, and pieces that lead nowhere
do not count, so one path has many texts. Taking the folder of a path undoes joining a name to a
folder, up to that, for every folder; and it does so because the name is a single piece. -/
namespace NativeThunks.FolderPaths
open Files SplitTexts

/-- Two texts have the same first piece, and behind it the same pieces apart from idle ones. -/
structure SamePieces (first second : List Char) : Prop where
  front : (pieces first).head? = (pieces second).head?
  behind : (pieces first).tail.filter (!isIdle ·) = (pieces second).tail.filter (!isIdle ·)

/-- Two texts are the same path: they have the same pieces, and both start at the top or neither
does. -/
structure SamePath (first second : String) : Prop
    extends SamePieces first.toList second.toList where
  absolute : first.toList.head? = some '/' ↔ second.toList.head? = some '/'

theorem SamePieces.symm {first second : List Char} (same : SamePieces first second) :
    SamePieces second first := ⟨same.front.symm, same.behind.symm⟩

theorem SamePieces.trans {first second third : List Char} (left : SamePieces first second)
    (right : SamePieces second third) : SamePieces first third :=
  ⟨left.front.trans right.front, left.behind.trans right.behind⟩

theorem SamePath.refl (path : String) : SamePath path path := ⟨⟨rfl, rfl⟩, Iff.rfl⟩

/-- The path of a name in a folder lies directly in that folder. -/
def Inside (folder name : String) : Prop :=
  ∃ parent, parent? (join folder name) = some parent ∧ SamePath parent folder

private theorem go_eq_splitOnPPrepend (path piece : List Char) :
    pieces.go path piece = path.splitOnPPrepend (· == '/') piece := by
  induction path generalizing piece with
  | nil => rfl
  | cons c rest ih =>
    unfold pieces.go List.splitOnPPrepend
    by_cases slash : c = '/'
    · simp [slash, ih]
    · simp [slash, ih]

private theorem pieces_eq_splitOn (path : List Char) : pieces path = path.splitOn '/' :=
  go_eq_splitOnPPrepend path []

theorem pieces_split (base last : List Char) :
    pieces (base ++ '/' :: last) = pieces base ++ pieces last := by
  simp only [pieces_eq_splitOn, splitOn_append_cons]

theorem pieces_of_single {name : List Char} (single : '/' ∉ name) : pieces name = [name] := by
  rw [pieces_eq_splitOn, splitOn_of_notMem single]

theorem pieces_cons (path : List Char) : ∃ first rest, pieces path = first :: rest := by
  rw [pieces_eq_splitOn]
  exact exists_cons_splitOn '/' path

private theorem pieces_intercalate {all : List (List Char)} (nonempty : all ≠ [])
    (single : ∀ piece ∈ all, '/' ∉ piece) : pieces (['/'].intercalate all) = all := by
  rw [pieces_eq_splitOn]
  exact List.splitOn_intercalate '/' single nonempty

/-- A path other than the empty one starts at the top exactly when nothing stands before its first
slash. -/
theorem absolute_iff {path : List Char} (nonempty : path ≠ []) :
    path.head? = some '/' ↔ (pieces path).head? = some [] := by
  cases path with
  | nil => exact absurd rfl nonempty
  | cons c rest =>
    rw [pieces_eq_splitOn]
    by_cases slash : c = '/'
    · subst slash
      exact iff_of_true rfl (congrArg List.head? (splitOn_append_cons '/' [] rest))
    · obtain ⟨first, others, split⟩ := exists_cons_splitOn '/' rest
      rw [splitOn_cons_of_ne slash, split]
      simp [slash]

/-- The pieces that are left when the idle ones at the end are gone. -/
def kept (rest : List (List Char)) : List (List Char) := (rest.reverse.dropWhile isIdle).reverse

@[simp] theorem trimmed_cons (first : List Char) (rest : List (List Char)) :
    trimmed (first :: rest) = first :: kept rest := rfl

private theorem kept_snoc {rest : List (List Char)} {last : List Char} (active : isIdle last = false) :
    kept (rest ++ [last]) = rest ++ [last] := by
  simp [kept, active]

private theorem kept_subset (rest : List (List Char)) : ∀ piece ∈ kept rest, piece ∈ rest := by
  intro piece member
  rw [kept, List.mem_reverse] at member
  exact List.mem_reverse.mp ((List.dropWhile_sublist _).subset member)

/-- Only idle pieces are dropped. -/
theorem filter_kept (rest : List (List Char)) :
    (kept rest).filter (!isIdle ·) = rest.filter (!isIdle ·) := by
  have end_idle : (rest.reverse.takeWhile isIdle).filter (!isIdle ·) = [] :=
    List.filter_eq_nil_iff.mpr fun piece member => by simp [List.mem_takeWhile_imp member]
  have whole := congrArg (List.filter (!isIdle ·))
    (List.takeWhile_append_dropWhile (p := isIdle) (l := rest.reverse))
  rw [List.filter_append, end_idle, List.nil_append] at whole
  rw [kept, List.filter_reverse, whole, List.filter_reverse, List.reverse_reverse]

/-- The folder that is put together from pieces, of which the idle ones at the end are dropped. -/
def folderOf (first : List Char) (rest : List (List Char)) : String :=
  if first :: kept rest = [[]] then "/" else String.ofList (['/'].intercalate (first :: kept rest))

/-- The folder of a path has the pieces before the last one, if that leads somewhere. -/
theorem parent_of_pieces {path : String} {first last : List Char} {rest : List (List Char)}
    (whole : pieces path.toList = first :: (rest ++ [last])) (active : isIdle last = false) :
    parent? path = some (folderOf first rest) := by
  have several : first :: (rest ++ [last]) ≠ [[]] := by simp
  have front : (first :: (rest ++ [last])).dropLast = first :: rest := by
    rw [← List.cons_append, List.dropLast_concat]
  by_cases top : first :: kept rest = [[]]
  · simp only [parent?, whole, trimmed_cons, kept_snoc active, if_neg several, front, top,
      folderOf, if_true]
  · simp only [parent?, whole, trimmed_cons, kept_snoc active, if_neg several, front, folderOf,
      if_neg top]

/-- The folder put together from the pieces of a path is read as the same pieces again, and is not
the empty path. -/
theorem folderOf_pieces {base first : List Char} {rest : List (List Char)}
    (start : pieces base = first :: rest) :
    folderOf first rest ≠ "" ∧ SamePieces (folderOf first rest).toList base := by
  by_cases top : first :: kept rest = [[]]
  · obtain ⟨rfl, none⟩ := List.cons_eq_cons.mp top
    rw [folderOf, if_pos top]
    refine ⟨by decide, by rw [start]; rfl, ?_⟩
    rw [start, List.tail_cons, ← filter_kept rest, none]
    decide
  · have again : pieces (folderOf first rest).toList = first :: kept rest := by
      rw [folderOf, if_neg top, String.toList_ofList]
      apply pieces_intercalate (List.cons_ne_nil _ _)
      intro piece member
      have occurs : piece ∈ pieces base :=
        start ▸ List.cons_subset_cons first (kept_subset rest) member
      rw [pieces_eq_splitOn] at occurs
      exact notMem_of_mem_splitOn occurs
    refine ⟨?_, ?_, ?_⟩
    · intro empty
      rw [empty] at again
      exact top again.symm
    · rw [again, start, List.head?_cons, List.head?_cons]
    · rw [again, start, List.tail_cons, List.tail_cons, filter_kept]

private theorem parent_of_split {path : String} {base last : List Char}
    (split : path.toList = base ++ '/' :: last) (single : '/' ∉ last)
    (active : isIdle last = false) :
    ∃ folder, parent? path = some folder ∧ folder ≠ "" ∧ SamePieces folder.toList base := by
  obtain ⟨first, rest, start⟩ := pieces_cons base
  have whole : pieces path.toList = first :: (rest ++ [last]) := by
    rw [split, pieces_split, pieces_of_single single, start, List.cons_append]
  exact ⟨folderOf first rest, parent_of_pieces whole active, folderOf_pieces start⟩

/-- Where the pieces agree and neither path is empty, both start at the top or neither does. -/
theorem SamePieces.samePath {first second : String} (same : SamePieces first.toList second.toList)
    (occupied : first ≠ "") (occupied' : second ≠ "") : SamePath first second := by
  refine ⟨same, ?_⟩
  rw [absolute_iff (mt String.toList_eq_nil_iff.mp occupied),
    absolute_iff (mt String.toList_eq_nil_iff.mp occupied'), same.front]

theorem join_empty (name : String) : join "" name = name := by simp [join]

/-- A name that does not start at the top is put behind the folder and one slash. -/
theorem join_split {folder name : String} (occupied : folder ≠ "")
    (relative : name.toList.head? ≠ some '/') :
    ∃ base, (join folder name).toList = base ++ '/' :: name.toList ∧
      (folder.toList = base ∨ folder.toList = base ++ ['/']) := by
  unfold join
  rw [if_neg (by simp [occupied, relative])]
  split
  · rename_i closed
    obtain ⟨base, ended⟩ := List.getLast?_eq_some_iff.mp closed
    exact ⟨base, by simp [ended], .inr ended⟩
  · exact ⟨folder.toList, by simp, .inl rfl⟩

/-- A slash at the end of a path adds nothing but an idle piece. -/
theorem pieces_closed (base : List Char) : SamePieces (base ++ ['/']) base := by
  obtain ⟨first, rest, start⟩ := pieces_cons base
  have closed : pieces (base ++ ['/']) = first :: (rest ++ [[]]) := by
    rw [pieces_split, start]
    rfl
  exact ⟨by rw [closed, start]; rfl, by rw [closed, start]; simp [isIdle]⟩

/-- Taking the folder undoes joining a name of one piece that leads somewhere. -/
theorem inside_of_single {name : String} (single : '/' ∉ name.toList)
    (active : isIdle name.toList = false) (folder : String) : Inside folder name := by
  by_cases occupied : folder = ""
  · subst occupied
    refine ⟨"", ?_, .refl _⟩
    have nonempty : name.toList ≠ [] := fun empty => by simp [isIdle, empty] at active
    simp [join_empty, parent?, pieces_of_single single, nonempty, trimmed]
  · have relative : name.toList.head? ≠ some '/' := by
      intro slash
      exact single (List.mem_of_mem_head? slash)
    obtain ⟨base, joined, ended⟩ := join_split occupied relative
    obtain ⟨parent, found, nonempty, same⟩ := parent_of_split joined single active
    have folderSame : SamePieces base folder.toList := by
      rcases ended with plain | closed
      · exact plain ▸ ⟨rfl, rfl⟩
      · exact closed ▸ (pieces_closed base).symm
    exact ⟨parent, found, (same.trans folderSame).samePath nonempty occupied⟩

/-- A name of several pieces, of which the last leads somewhere, is not directly in every folder:
joined to the empty path it is somewhere below or at the top. -/
theorem not_inside_of_split {name : String} {base last : List Char}
    (split : name.toList = base ++ '/' :: last) (single : '/' ∉ last)
    (active : isIdle last = false) : ¬Inside "" name := by
  rintro ⟨parent, found, same⟩
  rw [join_empty] at found
  obtain ⟨folder, taken, occupied, _⟩ := parent_of_split split single active
  obtain rfl := Option.some.inj (taken.symm.trans found)
  have absolute := (absolute_iff (mt String.toList_eq_nil_iff.mp occupied)).mpr same.front
  exact absurd (same.absolute.mp absolute) (by decide)

end NativeThunks.FolderPaths
