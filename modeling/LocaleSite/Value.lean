import LocaleSite.Number.Binary64

/-!
# Document values

A `Value` is what a JSON or a TOML document holds. Tables keep their entries in the order in
which they were written; a table read from a document has no key twice.

`Value.depth` bounds the nesting, so that readers of recursive shapes can recurse on it.
-/

namespace LocaleSite

/-- A number as a document writes it. -/
inductive Number where
  /-- An integer of any size. -/
  | int (value : Int)
  /-- A finite number with a fraction or an exponent. -/
  | float (value : Binary64)
  | infinity (negative : Bool)
  | nan
  /-- A number that is well written and has no value: above all doubles, or without digits. -/
  | unreadable
deriving DecidableEq, Repr

/-- A JSON or TOML value. -/
inductive Value where
  | null
  | bool (value : Bool)
  | number (value : Number)
  | string (value : String)
  /-- A date, a time or both, which TOML alone can write. -/
  | moment (text : String)
  | list (elements : List Value)
  | table (entries : List (String × Value))
deriving Inhabited

/-- The document language a value was read from. -/
inductive Format where
  | json
  | toml
deriving DecidableEq, Repr

namespace Value

mutual

/-- Nesting depth: zero for a scalar, one more than its deepest member for a list or a table. -/
def depth : Value → Nat
  | .list elements => depthList elements + 1
  | .table entries => depthEntries entries + 1
  | _ => 0

def depthList : List Value → Nat
  | [] => 0
  | value :: rest => max (depth value) (depthList rest)

def depthEntries : List (String × Value) → Nat
  | [] => 0
  | (_, value) :: rest => max (depth value) (depthEntries rest)

end

/-- The value of the first entry with a key. -/
def entry? (key : String) : List (String × Value) → Option Value
  | [] => none
  | (other, value) :: rest => if other = key then some value else entry? key rest

/-- The value at a key of a table; none for other values. -/
def field? (value : Value) (key : String) : Option Value :=
  match value with
  | .table entries => entry? key entries
  | _ => none

/-- Put an entry into a table: in place of the one with its key, else at the end. -/
def setEntry (key : String) (value : Value) : List (String × Value) → List (String × Value)
  | [] => [(key, value)]
  | (other, old) :: rest =>
      if other = key then (key, value) :: rest else (other, old) :: setEntry key value rest

/-- The table of the entries that have a value, in their order. -/
def ofFields (fields : List (String × Option Value)) : Value :=
  .table (fields.filterMap fun field => field.2.map (field.1, ·))

end Value

end LocaleSite
