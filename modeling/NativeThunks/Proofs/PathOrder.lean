import NativeThunks.Generation
import NativeThunks.Text.Utf8
import Mathlib.Data.List.Sort
import Mathlib.Data.String.Basic

/-! The order in which containers are taken. The paths of a set are strictly increasing, each path
of a declaration occurs once, and comparing paths character by character is the same as comparing
the bytes they are stored as. Which declarations belong to a path is all that the order depends on,
so sets that agree path by path are taken in the same way. -/
namespace NativeThunks.PathOrder

private theorem ofNat_lt_ofNat {a b : Nat} (left : a < 256) (right : b < 256) :
    UInt8.ofNat a < UInt8.ofNat b ↔ a < b := by
  rw [UInt8.lt_iff_toNat_lt, UInt8.toNat_ofNat_of_lt' left, UInt8.toNat_ofNat_of_lt' right]

private theorem ofNat_eq_ofNat {a b : Nat} (left : a < 256) (right : b < 256) :
    UInt8.ofNat a = UInt8.ofNat b ↔ a = b := by
  rw [← UInt8.toNat_inj, UInt8.toNat_ofNat_of_lt' left, UInt8.toNat_ofNat_of_lt' right]

/-- The digits of two numbers to base 64 compare from the highest one on. -/
private theorem digits_lt {v w : Nat} (below : v < w) :
    v / 262144 < w / 262144 ∨ v / 262144 = w / 262144 ∧
      (v / 4096 % 64 < w / 4096 % 64 ∨ v / 4096 % 64 = w / 4096 % 64 ∧
        (v / 64 % 64 < w / 64 % 64 ∨ v / 64 % 64 = w / 64 % 64 ∧ v % 64 < w % 64)) := by
  omega

/-- The bytes of a smaller character are smaller, whatever follows either of them: the first byte
tells longer encodings from shorter ones, and encodings of one length hold the digits in order. -/
private theorem encode_lt {c d : Char} (less : c < d) (s t : List UInt8) :
    String.utf8EncodeChar c ++ s < String.utf8EncodeChar d ++ t := by
  have below : c.val.toNat < d.val.toNat := less
  have top : d.val.toNat < 0x110000 := by
    rcases d.valid with low | high <;> omega
  unfold String.utf8EncodeChar
  simp only
  generalize c.val.toNat = v at *
  generalize d.val.toNat = w at *
  have digits := digits_lt below
  have vTop : v / 262144 < 8 := by omega
  have wTop : w / 262144 < 8 := by omega
  rw [Nat.mod_eq_of_lt vTop, Nat.mod_eq_of_lt wTop]
  split_ifs <;>
    simp (disch := omega) only [List.cons_append, List.nil_append, List.cons_lt_cons_iff,
      ofNat_lt_ofNat, ofNat_eq_ofNat] <;>
    omega

private theorem flatMap_encode_lt {left right : List Char} (less : left < right) :
    left.flatMap String.utf8EncodeChar < right.flatMap String.utf8EncodeChar := by
  induction left generalizing right with
  | nil =>
    cases right with
    | nil => exact absurd less (List.not_lt_nil _)
    | cons d right =>
      cases encoded : String.utf8EncodeChar d with
      | nil => exact absurd encoded String.utf8EncodeChar_ne_nil
      | cons byte rest =>
        rw [List.flatMap_cons, encoded]
        exact List.nil_lt_cons _ _
  | cons c left ih =>
    cases right with
    | nil => exact absurd less (List.not_lt_nil _)
    | cons d right =>
      rw [List.flatMap_cons, List.flatMap_cons]
      rcases List.cons_lt_cons_iff.mp less with smaller | ⟨rfl, rest⟩
      · exact encode_lt smaller _ _
      · exact List.append_left_lt (ih rest)

/-- The order of texts by their characters is the order by their bytes. -/
theorem utf8Bytes_lt {left right : String} (less : left < right) :
    Text.utf8Bytes left < Text.utf8Bytes right :=
  flatMap_encode_lt (String.lt_iff_toList_lt.mp less)

private theorem mem_insertPath (path probe : String) (paths : List String) :
    probe ∈ insertPath path paths ↔ probe = path ∨ probe ∈ paths := by
  induction paths with
  | nil => simp [insertPath]
  | cons other rest ih =>
    simp only [insertPath]
    split
    · rename_i same
      subst same
      simp
    · split
      · simp
      · simp only [List.mem_cons, ih]
        exact or_left_comm

private theorem insertPath_sorted (path : String) (paths : List String)
    (sorted : paths.Pairwise (· < ·)) : (insertPath path paths).Pairwise (· < ·) := by
  induction paths with
  | nil => exact List.pairwise_singleton _ _
  | cons other rest ih =>
    obtain ⟨below, restSorted⟩ := List.pairwise_cons.mp sorted
    simp only [insertPath]
    split
    · exact sorted
    · rename_i different
      split
      · rename_i less
        refine List.pairwise_cons.mpr ⟨fun later member => ?_, sorted⟩
        rcases List.mem_cons.mp member with rfl | member
        · exact less
        · exact lt_trans less (below later member)
      · rename_i notLess
        refine List.pairwise_cons.mpr ⟨fun later member => ?_, ih restSorted⟩
        rcases (mem_insertPath path later rest).mp member with rfl | member
        · exact lt_of_le_of_ne (not_lt.mp notLess) (Ne.symm different)
        · exact below later member

private theorem mem_paths_from (declarations : List Declaration) (paths : List String)
    (path : String) :
    path ∈ declarations.foldl (fun paths decl => insertPath decl.container.path paths) paths ↔
      path ∈ paths ∨ ∃ decl ∈ declarations, decl.container.path = path := by
  induction declarations generalizing paths with
  | nil => simp
  | cons decl rest ih =>
    rw [List.foldl_cons, ih, mem_insertPath]
    simp only [List.mem_cons, exists_eq_or_imp, eq_comm (a := path), or_assoc]
    exact or_left_comm

/-- The paths of a set are those of its declarations. -/
theorem mem_paths (set : DeclarationSet) (path : String) :
    path ∈ set.paths ↔ ∃ decl ∈ set.declarations, decl.container.path = path :=
  (mem_paths_from set.declarations [] path).trans (by simp)

private theorem paths_sorted_from (declarations : List Declaration) (paths : List String)
    (sorted : paths.Pairwise (· < ·)) :
    (declarations.foldl (fun paths decl => insertPath decl.container.path paths) paths).Pairwise
      (· < ·) := by
  induction declarations generalizing paths with
  | nil => exact sorted
  | cons decl rest ih => exact ih _ (insertPath_sorted _ _ sorted)

/-- Containers are taken in strictly increasing order of their paths, so none is taken twice. -/
theorem paths_sorted (set : DeclarationSet) : set.paths.Pairwise (· < ·) :=
  paths_sorted_from set.declarations [] List.Pairwise.nil

theorem mem_membersOf {set : DeclarationSet} {path : String} {decl : Declaration} :
    decl ∈ set.membersOf path ↔ decl ∈ set.declarations ∧ decl.container.path = path := by
  simp [DeclarationSet.membersOf]

/-- A path is taken exactly when it has members. -/
theorem mem_paths_iff (set : DeclarationSet) (path : String) :
    path ∈ set.paths ↔ set.membersOf path ≠ [] := by
  rw [mem_paths]
  constructor
  · rintro ⟨decl, member, named⟩
    exact List.ne_nil_of_mem (mem_membersOf.mpr ⟨member, named⟩)
  · intro occupied
    obtain ⟨decl, member⟩ := List.exists_mem_of_ne_nil _ occupied
    exact ⟨decl, mem_membersOf.mp member⟩

/-- A path that is taken has a first declaration, which speaks for its container. -/
theorem exists_first {set : DeclarationSet} {path : String} (taken : path ∈ set.paths) :
    ∃ first, (set.membersOf path).head? = some first := by
  obtain ⟨first, rest, members⟩ := List.exists_cons_of_ne_nil ((mem_paths_iff set path).mp taken)
  exact ⟨first, by rw [members, List.head?_cons]⟩

theorem first_mem {set : DeclarationSet} {path : String} {first : Declaration}
    (head : (set.membersOf path).head? = some first) :
    first ∈ set.declarations ∧ first.container.path = path :=
  mem_membersOf.mp (List.mem_of_head? head)

/-- The declarations with a path, as a set of their own. -/
def restrict (set : DeclarationSet) (path : String) : DeclarationSet := ⟨set.membersOf path⟩

@[simp] theorem membersOf_restrict_self (set : DeclarationSet) (path : String) :
    (restrict set path).membersOf path = set.membersOf path := by
  simp [restrict, DeclarationSet.membersOf]

/-- A set that was restricted to a path takes that path only, and only if it has members. -/
theorem paths_restrict (set : DeclarationSet) (path : String) :
    (restrict set path).paths = if set.membersOf path = [] then [] else [path] := by
  have only : ∀ other, other ∈ (restrict set path).paths ↔
      other = path ∧ set.membersOf path ≠ [] := by
    intro other
    rw [mem_paths]
    constructor
    · rintro ⟨decl, member, rfl⟩
      exact ⟨(mem_membersOf.mp member).2, List.ne_nil_of_mem member⟩
    · rintro ⟨rfl, occupied⟩
      obtain ⟨decl, member⟩ := List.exists_mem_of_ne_nil _ occupied
      exact ⟨decl, member, (mem_membersOf.mp member).2⟩
  refine (paths_sorted _).eq_of_mem_iff ?_ fun other => ?_
  · split
    · exact List.Pairwise.nil
    · exact List.pairwise_singleton _ _
  · rw [only]
    split <;> simp [*]

/-- Sets that agree on the members of every path take the same paths, however the declarations of
different containers are interleaved. -/
theorem paths_congr {set other : DeclarationSet}
    (same : ∀ path, other.membersOf path = set.membersOf path) : other.paths = set.paths := by
  apply (paths_sorted other).eq_of_mem_iff (paths_sorted set)
  intro path
  rw [mem_paths_iff, mem_paths_iff, same]

end NativeThunks.PathOrder
