import NativeThunks.Files.Access
import NativeThunks.Files.Path

/-! Files in memory: a tree of folders that the operations on files read and change. A tree has folders and
files only, so there are no links, and every place has one path without `..`. Names are compared
character by character: names that differ in case alone, or in how a character is composed, stand for
different entries. -/
namespace NativeThunks.Files

/-- What a name stands for in a folder. -/
inductive Entry where
  | file (text : String)
  | folder (entries : List (String × Entry))

abbrev Folder := List (String × Entry)

namespace Folder

def get? (folder : Folder) (name : String) : Option Entry :=
  (folder.find? (·.1 == name)).map (·.2)

/-- Replaces the entry of a name in its place; a new name comes last. -/
def set (folder : Folder) (name : String) (entry : Entry) : Folder :=
  match folder with
  | [] => [(name, entry)]
  | (other, old) :: rest =>
    if other = name then (name, entry) :: rest else (other, old) :: set rest name entry

/-- What names lead to, one folder after the other. -/
def at? (folder : Folder) : List String → Option Entry
  | [] => some (.folder folder)
  | name :: rest =>
    match folder.get? name with
    | some (.folder inner) => at? inner rest
    | some (.file text) => if rest.isEmpty then some (.file text) else none
    | none => none

/-- Puts an entry where names lead to. Where there is no folder on the way nothing changes. -/
def put (folder : Folder) (names : List String) (entry : Entry) : Folder :=
  match names with
  | [] => folder
  | [name] => folder.set name entry
  | name :: rest =>
    match folder.get? name with
    | some (.folder inner) => folder.set name (.folder (put inner rest entry))
    | _ => folder

end Folder

/-- A tree of files, and the folder in it where paths start that do not start at the top. -/
structure FileTree where
  root : Folder
  working : List String

/-- The greatest number of bytes of a name. -/
def nameLimit : Nat := 255

/-- The greatest number of bytes of a path. -/
def pathLimit : Nat := 4095

/-- Follows steps from the folder that the names taken so far lead to, the last one first. Every
step but the last has to lead to a folder. Two dots lead back, though not out of the root. -/
def follow (root : Folder) : List String → List String → Except IoFault (List String)
  | [], names => .ok names.reverse
  | step :: rest, names =>
    match root.at? names.reverse with
    | none => .error .notFound
    | some (.file _) => .error .notAFolder
    | some (.folder _) =>
      if step = "." then follow root rest names
      else if step = ".." then follow root rest names.tail
      else if nameLimit < step.utf8ByteSize then .error .nameTooLong
      else follow root rest (step :: names)

/-- A place in a tree. It may be empty, but the folder around it is there. -/
structure Place where
  names : List String
  folderOnly : Bool
deriving DecidableEq, Repr

namespace FileTree

/-- A tree with nothing but an empty working folder. -/
def fresh : FileTree := { root := [("work", .folder [])], working := ["work"] }

def locate (tree : FileTree) (path : String) : Except IoFault Place := do
  if path.toList.contains '\x00' then .error .nullCharacter
  else if path = "" then .error .notFound
  else if pathLimit < path.utf8ByteSize then .error .nameTooLong
  else
    let route := Route.ofPath path
    let start := if route.absolute then [] else tree.working.reverse
    let names ← follow tree.root route.steps start
    return { names := names, folderOnly := route.folderOnly }

def entry? (tree : FileTree) (place : Place) : Option Entry := tree.root.at? place.names

/-- The tree with an entry at a place. -/
def put (tree : FileTree) (place : Place) (entry : Entry) : FileTree :=
  { tree with root := tree.root.put place.names entry }

/-- What a path leads to. -/
def find (tree : FileTree) (path : String) : Except IoFault Entry := do
  let place ← tree.locate path
  match tree.entry? place with
  | none => .error .notFound
  | some (.file text) => if place.folderOnly then .error .notAFolder else return .file text
  | some (.folder entries) => return .folder entries

def read (tree : FileTree) (path : String) : Except IoFault String := do
  match ← tree.find path with
  | .file text => return text
  | .folder _ => .error .isAFolder

def isFile (tree : FileTree) (path : String) : Bool :=
  match tree.find path with
  | .ok (.file _) => true
  | _ => false

def isFolder (tree : FileTree) (path : String) : Bool :=
  match tree.find path with
  | .ok (.folder _) => true
  | _ => false

/-- Whether a path leads to anything. -/
def isPresent (tree : FileTree) (path : String) : Bool :=
  match tree.find path with
  | .ok _ => true
  | .error _ => false

/-- Makes a file with a text, or replaces its text. -/
def write (tree : FileTree) (path text : String) : Except IoFault FileTree := do
  let place ← tree.locate path
  match tree.entry? place with
  | some (.folder _) => .error .isAFolder
  | _ =>
    if place.folderOnly then .error .isAFolder else return tree.put place (.file text)

/-- Makes one folder. -/
def createFolder (tree : FileTree) (path : String) : Except IoFault FileTree := do
  let place ← tree.locate path
  match tree.entry? place with
  | some _ => .error .alreadyThere
  | none => return tree.put place (.folder [])

/-- Makes a folder and those around it, as far as they are missing. The result has the folders that
were made even if a later one fails. Fuel bounds the number of folders. -/
def createFolders : Nat → FileTree → String → Except IoFault Unit × FileTree
  | 0, tree, _ => (.error .notFound, tree)
  | fuel + 1, tree, path =>
    let last (tree : FileTree) : Except IoFault Unit × FileTree :=
      match tree.createFolder path with
      | .ok tree => (.ok (), tree)
      | .error fault => (if tree.isFolder path then .ok () else .error fault, tree)
    if path = "" then (.ok (), tree)
    else
      match tree.createFolder path with
      | .error .notFound =>
        match parent? path with
        | none => (.error (.other "failed to create whole tree"), tree)
        | some folder =>
          match createFolders fuel tree folder with
          | (.ok (), tree) => last tree
          | failed => failed
      | _ => last tree

/-- The operations on a tree. -/
def access : FileAccess (StateM FileTree) where
  read path := do return (← get).read path
  isFile path := do return (← get).isFile path
  isPresent path := do return (← get).isPresent path
  createFolders path := do
    let (result, tree) := createFolders (path.length + 1) (← get) path
    set tree
    return result
  write path text := do
    match (← get).write path text with
    | .ok tree =>
      set tree
      return .ok ()
    | .error fault => return .error fault

/-- A tree with some files in the working folder, each with all folders on its path. -/
def ofFiles (files : List (String × String)) : FileTree :=
  files.foldl (fun tree (path, text) =>
    let (_, tree) := createFolders (path.length + 1) tree ((parent? path).getD "")
    match tree.write path text with
    | .ok tree => tree
    | .error _ => tree) fresh

mutual

/-- The files of an entry with their paths. -/
def filesOfEntry (path : String) : Entry → List (String × String)
  | .file text => [(path, text)]
  | .folder entries => filesOfFolder (path ++ "/") entries

/-- The files of a folder, with what stands before their names. -/
def filesOfFolder (before : String) : List (String × Entry) → List (String × String)
  | [] => []
  | (name, entry) :: rest => filesOfEntry (before ++ name) entry ++ filesOfFolder before rest

end

/-- The files in the working folder and below it, with their paths. -/
def files (tree : FileTree) : List (String × String) :=
  match tree.root.at? tree.working with
  | some (.folder entries) => filesOfFolder "" entries
  | _ => []

end FileTree
end NativeThunks.Files
