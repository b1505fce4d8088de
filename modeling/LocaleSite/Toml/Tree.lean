import LocaleSite.Value

/-!
# Tables under construction

A TOML document builds its tables piece by piece, and how a table came to be decides what may
still be added to it. A `Tree` remembers that: a table that had its header is complete but for
tables inside it, one made by a dotted key cannot get a header, one that only stands on the path
of a header can get its own but no values by dotted keys, and a value is never added to.
-/

namespace LocaleSite.Toml

/-- How a table came to be. -/
inductive Origin where
  /-- It stands on the path of a header. -/
  | implied
  /-- It stands on the path of a dotted key. -/
  | dotted
  /-- It has a header of its own. -/
  | headed
deriving DecidableEq

/-- A value, a table under construction, or a list of such tables. -/
inductive Tree where
  | value (value : Value)
  | table (origin : Origin) (entries : List (String × Tree))
  | tables (elements : List (List (String × Tree)))

/-- The entries of a table under construction. -/
abbrev Entries := List (String × Tree)

namespace Entries

/-- The tree at a key. -/
def find? (key : String) : Entries → Option Tree
  | [] => none
  | (other, tree) :: rest => if other = key then some tree else find? key rest

/-- Put a tree at a key: in place of the one there, else at the end. -/
def set (key : String) (tree : Tree) : Entries → Entries
  | [] => [(key, tree)]
  | (other, old) :: rest =>
      if other = key then (key, tree) :: rest else (other, old) :: set key tree rest

/-- Change the last of a list of tables. -/
def changeLast (change : Entries → Option Entries) : List Entries → Option (List Entries)
  | [] => none
  | [last] => (change last).map ([·])
  | first :: rest => (changeLast change rest).map (first :: ·)

/-- Change the table at the end of a path of headers. A table not there yet is implied; in a list
of tables the last one is meant. -/
def within (change : Entries → Option Entries) : List String → Entries → Option Entries
  | [], entries => change entries
  | key :: path, entries =>
      match entries.find? key with
      | none => (within change path []).map fun inner => entries.set key (.table .implied inner)
      | some (.table origin inner) =>
          (within change path inner).map fun inner => entries.set key (.table origin inner)
      | some (.tables elements) =>
          (changeLast (within change path) elements).map fun elements =>
            entries.set key (.tables elements)
      | some (.value _) => none

/-- Add a value at a dotted key. A value is added only to the table at hand or to one that dotted
keys have made; a table on the path of a header, or the last of a list, may be passed through. -/
def insert (value : Value) : List String → Entries → Option Entries
  | [], _ => none
  | [key], entries =>
      match entries.find? key with
      | none => some (entries.set key (.value value))
      | some _ => none
  | key :: path, entries =>
      match entries.find? key with
      | none => (insert value path []).map fun inner => entries.set key (.table .dotted inner)
      | some (.table .dotted inner) =>
          (insert value path inner).map fun inner => entries.set key (.table .dotted inner)
      | some (.table .implied inner) =>
          if path.length ≤ 1 then none
          else (insert value path inner).map fun inner => entries.set key (.table .implied inner)
      | some (.table .headed _) => none
      | some (.tables elements) =>
          if path.length ≤ 1 then none
          else (changeLast (insert value path) elements).map fun elements =>
            entries.set key (.tables elements)
      | some (.value _) => none

/-- Give the table at a key its header. -/
def head (key : String) (entries : Entries) : Option Entries :=
  match entries.find? key with
  | none => some (entries.set key (.table .headed []))
  | some (.table .implied inner) => some (entries.set key (.table .headed inner))
  | some _ => none

/-- Add a table to the list of tables at a key. -/
def append (key : String) (entries : Entries) : Option Entries :=
  match entries.find? key with
  | none => some (entries.set key (.tables [[]]))
  | some (.tables elements) => some (entries.set key (.tables (elements ++ [[]])))
  | some _ => none

/-- Make a change at the last key of a path, in the table that the keys before it lead to. -/
def atPath (change : String → Entries → Option Entries) (path : List String) (entries : Entries) :
    Option Entries :=
  match path.getLast? with
  | none => none
  | some key => within (change key) path.dropLast entries

end Entries

mutual

/-- The value of a tree, complete. -/
def Tree.toValue : Tree → Value
  | .value value => value
  | .table _ entries => .table (entriesToFields entries)
  | .tables elements => .list (elementsToValues elements)

def entriesToFields : List (String × Tree) → List (String × Value)
  | [] => []
  | (key, tree) :: rest => (key, tree.toValue) :: entriesToFields rest

def elementsToValues : List (List (String × Tree)) → List Value
  | [] => []
  | entries :: rest => .table (entriesToFields entries) :: elementsToValues rest

end

end LocaleSite.Toml
