import NativeThunks.Decimal.Shortest

/-! TOML documents as trees of tables, and how keys and headers grow them. Entries keep the order
of their first mention. A table remembers how it came into being, for that decides what may still
be added to it. -/
namespace NativeThunks.Toml
open NativeThunks.Decimal

/-- How a table came into being. -/
inductive Origin where
  /-- By a header of its own, or by braces. -/
  | header
  /-- On the way to the table of a longer header. -/
  | passing
  /-- By a dotted key. -/
  | dotted
deriving DecidableEq, Repr

/-- A number with a fractional part or an exponent, or one of the words for no finite number. -/
inductive Real where
  | finite (below : Bool) (value : Binary64)
  | infinite (below : Bool)
  | undefined
deriving DecidableEq, Repr

/-- What a key can stand for. -/
inductive Item where
  | string (text : String)
  | integer (value : Int)
  | real (value : Real)
  | bool (value : Bool)
  /-- A date, a time, or both. -/
  | time
  | array (items : List Item)
  /-- A table in braces; nothing can be added to it later. -/
  | inline (origin : Origin) (entries : List (String × Item))
  | table (origin : Origin) (entries : List (String × Item))
  /-- The tables of repeated headers in double brackets. -/
  | tables (elements : List (List (String × Item)))

abbrev Entries := List (String × Item)

namespace Entries

def get? (entries : Entries) (key : String) : Option Item :=
  (entries.find? (·.1 == key)).map (·.2)

/-- Replaces the item of a key in its place; a new key comes last. -/
def set (entries : Entries) (key : String) (item : Item) : Entries :=
  match entries with
  | [] => [(key, item)]
  | (other, old) :: rest =>
    if other = key then (key, item) :: rest else (other, old) :: set rest key item

def erase (entries : Entries) (key : String) : Entries := entries.filter (·.1 != key)

end Entries

/-- A change to a table: it sees how the table came into being and may refuse. -/
abbrev Edit := Origin → Entries → Option Entries

/-- Changes the last of several tables. -/
def editLast (change : Edit) : List Entries → Option (List Entries)
  | [] => none
  | [entries] => do
    let entries ← change .header entries
    return [entries]
  | entries :: rest => do
    let rest ← editLast change rest
    return entries :: rest

/-- Changes the table at a path of keys, making the tables on the way that are missing. A path of
dotted keys makes tables of that kind and cannot pass through one with a header of its own. -/
def editAt (dotted : Bool) (path : List String) (change : Edit) : Edit :=
  match path with
  | [] => change
  | key :: rest => fun _ entries =>
    let inner := editAt dotted rest change
    let made := if dotted then Origin.dotted else Origin.passing
    match entries.get? key with
    | none => do
      let child ← inner made []
      return entries.set key (.table made child)
    | some (.table origin child) =>
      if dotted && origin == .header then none
      else do
        let child ← inner origin child
        return entries.set key (.table origin child)
    | some (.tables elements) => do
      let elements ← editLast inner elements
      return entries.set key (.tables elements)
    | some _ => none

/-- Adds an entry to a table that a key has led to. A simple key belongs into a table that no
dotted key has made, a dotted one into a table that one has made. -/
def insertEntry (dotted : Bool) (key : String) (item : Item) : Edit := fun origin entries =>
  if dotted != (origin == .dotted) then none
  else if (entries.get? key).isSome then none
  else some (entries.set key item)

/-- Changes the table in braces at a path of dotted keys. -/
def editInline (path : List String) (change : Edit) : Edit :=
  match path with
  | [] => change
  | key :: rest => fun _ entries =>
    let inner := editInline rest change
    match entries.get? key with
    | none => do
      let child ← inner .dotted []
      return entries.set key (.inline .dotted child)
    | some (.inline origin child) =>
      if origin == .header then none
      else do
        let child ← inner origin child
        return entries.set key (.inline origin child)
    | some _ => none

/-- The entries of a table in braces, one key at a time. -/
def inlineEntries : List (List String × String × Item) → Entries → Option Entries
  | [], entries => some entries
  | (path, key, item) :: rest, entries => do
    let entries ← editInline path (insertEntry (!path.isEmpty) key item) .header entries
    inlineEntries rest entries

/-- A document under construction: what closed tables have left at the root, and the table that
new keys go to. -/
structure Builder where
  root : Entries := []
  /-- The path of the current table and its last key; none before the first header. -/
  header : Option (List String × String) := none
  /-- Whether the current header stands in double brackets. -/
  repeated : Bool := false
  current : Entries := []

namespace Builder

/-- Adds an entry to the current table. -/
def addEntry (builder : Builder) (path : List String) (key : String) (item : Item) :
    Option Builder := do
  let current ←
    editAt true path (insertEntry (!path.isEmpty) key item) .header builder.current
  return { builder with current := current }

/-- Puts a finished table into its parent. -/
def place (repeated : Bool) (key : String) (table : Entries) : Edit := fun _ entries =>
  match repeated, entries.get? key with
  | true, none => some (entries.set key (.tables [table]))
  | true, some (.tables elements) => some (entries.set key (.tables (elements ++ [table])))
  | false, none => some (entries.set key (.table .header table))
  | _, _ => none

/-- The root with the current table in its place. -/
def close (builder : Builder) : Option Entries :=
  match builder.header with
  | none => some builder.current
  | some (path, key) =>
    editAt false path (place builder.repeated key builder.current) .header builder.root

/-- What a key names in the table at a path, if anything. -/
def find? (key : String) : List String → Entries → Option Item
  | [], entries => entries.get? key
  | step :: rest, entries =>
    match entries.get? step with
    | some (.table _ child) => find? key rest child
    | some (.tables elements) => elements.getLast?.bind (find? key rest)
    | _ => none

/-- Starts the table of a header. A table that longer headers have passed through moves behind its
siblings and keeps its entries; any other table of that name is a duplicate. A path that leads
through something other than a table is found out when the table is closed. -/
def openTable (builder : Builder) (path : List String) (key : String) : Option Builder := do
  let root ← builder.close
  match find? key path root with
  | none => return { root := root, header := some (path, key) }
  | some (.table .passing entries) =>
    let root ← editAt false path (fun _ siblings => some (siblings.erase key)) .header root
    return { root := root, header := some (path, key), current := entries }
  | some _ => none

/-- Starts a further table of a header in double brackets. -/
def openRepeated (builder : Builder) (path : List String) (key : String) : Option Builder := do
  let root ← builder.close
  return { root := root, header := some (path, key), repeated := true }

end Builder
end NativeThunks.Toml
