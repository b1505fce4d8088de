import LocaleSite.Shape

/-!
# Records

A `Record` reads a value with named fields from a table. It is built from a constructor by adding
one `Field` after the other, in the order of declaration:
`Record.start Page.mk |>.field (.required "text" .text) |>.field (.required "page" .text)`.

Which fault of a table is reported does not depend on the order of its entries: the entries are
looked at in ascending order of their keys, entries that no field reads included, and only when
all of them fit does a missing field count, in the order of declaration. `Fault.first` is that
order, and `Record.field` keeps the first of two faults.

A list is read in place of a table, its elements being the fields in the order of declaration.
-/

namespace LocaleSite

/-- What is wrong with a table. -/
inductive Fault where
  | entry (key : String) (error : ShapeError)
  | missing (field : String)

namespace Fault

/-- Of two faults the one that is reported. -/
def first : Fault → Fault → Fault
  | .entry key error, .entry other otherError =>
      if other < key then .entry other otherError else .entry key error
  | .missing _, .entry key error => .entry key error
  | earlier, .missing _ => earlier

/-- The fault as one of the whole table. -/
def toShapeError : Fault → ShapeError
  | .entry _ error => error
  | .missing field => .missingField field

end Fault

/-- What is wrong with a list that stands for a record. -/
inductive ElementFault where
  /-- The list ends before the field with this number. -/
  | short (index : Nat)
  | element (error : ShapeError)

/-- A named field. -/
structure Field (α : Type) where
  name : String
  /-- A second name, after the first in the order of keys. -/
  secondName : Option String
  shape : Shape α
  /-- The value of the field in a table without it. -/
  ifMissing : Option α
  /-- The value of the field in a list that ends before it. -/
  ifShort : Option α

namespace Field

variable {α : Type}

def required (name : String) (shape : Shape α) : Field α := ⟨name, none, shape, none, none⟩

def withDefault (name : String) (shape : Shape α) (default : α) : Field α :=
  ⟨name, none, shape, some default, some default⟩

/-- A field that may be null or absent. -/
def optional (name : String) (shape : Shape α) : Field (Option α) :=
  withDefault name shape.nullable none

/-- A field that may be null, and absent from a table but not from a list. -/
def nullable (name : String) (shape : Shape α) : Field (Option α) :=
  ⟨name, none, shape.nullable, some none, none⟩

/-- The same field, to be found under a second name too. -/
def orNamed (field : Field α) (name : String) : Field α := { field with secondName := some name }

def keys (field : Field α) : List String := field.name :: field.secondName.toList

/-- The field's value from the entry at a key. -/
def atKey (field : Field α) (format : Format) (key : String) (value : Value) : Except Fault α :=
  (field.shape format value).mapError (Fault.entry key)

/-- The field's value in a table. -/
def ofEntries (field : Field α) (format : Format) (entries : List (String × Value)) :
    Except Fault α :=
  match Value.entry? field.name entries,
    field.secondName.bind fun key => (Value.entry? key entries).map (key, ·) with
  | some value, none => field.atKey format field.name value
  | some value, some (key, _) => do
      let _ ← field.atKey format field.name value
      .error (.entry key (.duplicateField field.name))
  | none, some (key, value) => field.atKey format key value
  | none, none =>
      match field.ifMissing with
      | some default => .ok default
      | none => .error (.missing field.name)

/-- The field's value at the front of a list, and the elements after it. -/
def ofElements (field : Field α) (format : Format) (index : Nat) :
    List Value → Except ElementFault (α × List Value)
  | [] =>
      match field.ifShort with
      | some default => .ok (default, [])
      | none => .error (.short index)
  | value :: rest => (field.shape format value).mapError .element |>.map (·, rest)

end Field

/-- A reader of the fields of a record. -/
structure Record (α : Type) where
  keys : List String
  size : Nat
  ofEntries : Format → List (String × Value) → Except Fault α
  ofElements : Format → List Value → Except ElementFault (α × List Value)

namespace Record

variable {α β : Type}

/-- A record whose fields are still to be added. -/
def start (build : α) : Record α where
  keys := []
  size := 0
  ofEntries _ _ := .ok build
  ofElements _ values := .ok (build, values)

/-- Apply one reading to another and keep the first of two faults. -/
def join (build : Except Fault (α → β)) (value : Except Fault α) : Except Fault β :=
  match build, value with
  | .ok build, .ok value => .ok (build value)
  | .ok _, .error fault => .error fault
  | .error fault, .ok _ => .error fault
  | .error fault, .error later => .error (fault.first later)

/-- Add the next field. -/
def field (record : Record (α → β)) (field : Field α) : Record β where
  keys := record.keys ++ field.keys
  size := record.size + 1
  ofEntries format entries :=
    join (record.ofEntries format entries) (field.ofEntries format entries)
  ofElements format values := do
    let (build, values) ← record.ofElements format values
    let (value, values) ← field.ofElements format record.size values
    return (build value, values)

/-- The first entry that no field reads and that holds an unreadable number. -/
def strayFault (keys : List String) : List (String × Value) → Option Fault
  | [] => none
  | (key, value) :: rest =>
      let later := strayFault keys rest
      if keys.contains key || value.isReadable then later
      else
        let here := Fault.entry key .unfit
        some ((later.map here.first).getD here)

/-- The record in a table. -/
def ofTable (record : Record α) (format : Format) (entries : List (String × Value)) :
    Except ShapeError α :=
  match record.ofEntries format entries, strayFault record.keys entries with
  | .ok value, none => .ok value
  | .ok _, some stray => .error stray.toShapeError
  | .error fault, none => .error fault.toShapeError
  | .error fault, some stray => .error (fault.first stray).toShapeError

/-- What a message says about the length of a list that stands for a record. -/
def lengthText (name : String) (size : Nat) : String :=
  "struct " ++ name ++ " with " ++ toString size ++ if size = 1 then " element" else " elements"

/-- The record in a list of its fields. -/
def ofList (record : Record α) (name : String) (format : Format) (elements : List Value) :
    Except ShapeError α :=
  match record.ofElements format elements, format with
  | .ok (value, []), _ => .ok value
  | .ok (_, _ :: _), .json =>
      .error (.invalidLength elements.length "fewer elements in array")
  | .ok (_, _ :: _), .toml => .error .unfit
  | .error (.short index), _ => .error (.invalidLength index (lengthText name record.size))
  | .error (.element error), _ => .error error

/-- The shape of a record with a name for messages. A moment is read as a table in which no field
is to be found. -/
def shape (record : Record α) (name : String) : Shape α := fun format value =>
  match value with
  | .table entries => record.ofTable format entries
  | .moment _ => record.ofTable format []
  | .list elements => record.ofList name format elements
  | other => .error (Shape.mismatch other ("struct " ++ name))

end Record

end LocaleSite
