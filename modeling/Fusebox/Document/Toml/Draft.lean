import Fusebox.Document.Tree

/-! Tables of a TOML document while it is being read.

A table may come into being in three ways: by a header of its own, on the way to a
deeper header, or through a dotted key. Which of them it was decides what may still
be added to it and by what means; values given in one piece are never added to. -/
namespace Fusebox.Document.Toml

/-- A value of a document under construction. -/
inductive Item where
  /-- Given in one piece. -/
  | value (tree : Tree)
  /-- A table. `implicit` says that no header of its own was seen, `dotted` that it
  came from a dotted key. -/
  | table (implicit dotted : Bool) (entries : List (String × Item))
  /-- Tables that share a name, in the order of their headers. -/
  | tables (all : List (List (String × Item)))

/-- The keys of one table with their values. -/
abbrev Entries := List (String × Item)

/-- Gives a new value to a key, in the place of the old one if there is one. -/
def put (key : String) (item : Item) : Entries → Entries
  | [] => [(key, item)]
  | (other, old) :: rest =>
    if other = key then (key, item) :: rest else (other, old) :: put key item rest

/-- A change of one table. It is told whether the table came from a dotted key. -/
abbrev Change (α : Type) := Bool → Entries → Option (Entries × α)

/-- Follows a path of keys and changes the table at its end. Tables that are missing
on the way are made; among tables of one name the last is meant. A dotted path does
not lead through a table that has a header. -/
def descend {α : Type} (byDots : Bool) (change : Change α) :
    List String → Bool → Entries → Option (Entries × α)
  | [], dotted, entries => change dotted entries
  | key :: path, _, entries =>
    match entries.lookup key with
    | none => do
      let (inner, answer) ← descend byDots change path byDots []
      return (put key (.table true byDots inner) entries, answer)
    | some (.value _) => none
    | some (.tables all) => do
      let (inner, answer) ← descend byDots change path false (← all.getLast?)
      return (put key (.tables (all.dropLast ++ [inner])) entries, answer)
    | some (.table implicit dotted inner) =>
      if byDots && !implicit then none
      else do
        let (inner, answer) ← descend byDots change path dotted inner
        return (put key (.table implicit dotted inner) entries, answer)

/-- Adds a key with a value, the key perhaps behind a dotted path. The table at the
end of a path has to come from a dotted key itself. -/
def assign (path : List String) (key : String) (tree : Tree) (entries : Entries) :
    Option Entries :=
  let change : Change Unit := fun dotted entries =>
    if dotted == path.isEmpty || (entries.lookup key).isSome then none
    else some (entries ++ [(key, .value tree)], ())
  (descend true change path false entries).map Prod.fst

/-- A document under construction: the tables whose headers are done with, and the
one that keys are added to at present. -/
structure Draft where
  root : Entries := []
  current : Entries := []
  /-- Where the present table belongs; empty for the document itself. -/
  path : List String := []
  /-- Whether the present table is one of several with the same name. -/
  repeated : Bool := false

namespace Draft

/-- Puts the present table where it belongs. -/
def close (draft : Draft) : Option Entries :=
  match draft.path.getLast? with
  | none => some draft.current
  | some key =>
    let change : Change Unit := fun _ entries =>
      if draft.repeated then
        match entries.lookup key with
        | none => some (put key (.tables [draft.current]) entries, ())
        | some (.tables all) => some (put key (.tables (all ++ [draft.current])) entries, ())
        | some _ => none
      else
        match entries.lookup key with
        | none | some (.table true _ _) =>
          some (put key (.table false false draft.current) entries, ())
        | some _ => none
    (descend false change draft.path.dropLast false draft.root).map Prod.fst

/-- Begins the table of a header. What was added to it on the way to deeper headers
is kept; a table that had its header, or came from a dotted key, is not begun again. -/
def beginTable (draft : Draft) (path : List String) : Option Draft := do
  let root ← draft.close
  let key ← path.getLast?
  let change : Change Entries := fun _ entries =>
    match entries.lookup key with
    | none => some (entries, [])
    | some (.table true false inner) => some (entries.filter fun entry => entry.1 != key, inner)
    | some _ => none
  let (root, current) ← descend false change path.dropLast false root
  return { root, current, path, repeated := false }

/-- Begins one more table under a name that only such tables share. -/
def beginRepeated (draft : Draft) (path : List String) : Option Draft := do
  let root ← draft.close
  let key ← path.getLast?
  let change : Change Unit := fun _ entries =>
    match entries.lookup key with
    | none => some (put key (.tables []) entries, ())
    | some (.tables _) => some (entries, ())
    | some _ => none
  let (root, _) ← descend false change path.dropLast false root
  return { root, current := [], path, repeated := true }

end Draft

mutual

/-- A finished value. -/
def Item.tree : Item → Tree
  | .value tree => tree
  | .table _ _ entries => .table (entryTrees entries)
  | .tables all => .list (tableTrees all)

/-- The finished entries of a table. -/
def entryTrees : Entries → List (String × Tree)
  | [] => []
  | (key, item) :: rest => (key, item.tree) :: entryTrees rest

/-- Finished tables that share a name. -/
def tableTrees : List Entries → List Tree
  | [] => []
  | entries :: rest => .table (entryTrees entries) :: tableTrees rest

end

/-- An inline table from its keys and values; its dotted keys follow the same rules. -/
def inlineTable (pairs : List (List String × String × Tree)) : Option Tree := do
  let entries ← pairs.foldlM (fun entries (path, key, tree) => assign path key tree entries) []
  return .table (entryTrees entries)

end Fusebox.Document.Toml
