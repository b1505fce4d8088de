import LocaleSite.Nav.Error
import LocaleSite.Number.Decimal
import LocaleSite.Text.Quoted
import LocaleSite.Value

/-!
# Shapes of values

A `Shape` reads a typed value out of a document value, or says why the value does not fit. The
fault names the first thing wrong; a `ShapeError` without a text of its own is `unfit`.

JSON and TOML values are read alike, but for two points: how a choice from a few names may be
written, and how a fraction is spelled in a message.
-/

namespace LocaleSite

/-- Why a value does not fit its shape. -/
inductive ShapeError where
  | item (error : NavError)
  | missingField (name : String)
  | duplicateField (name : String)
  | unknownVariant (found : String) (expected : List String)
  | invalidType (found : Value) (expected : String)
  | invalidLength (length : Nat) (expected : String)
  | unfit

namespace ShapeError

def backquoted (name : String) : String := "`" ++ name ++ "`"

/-- The names to choose from, as a message lists them. -/
def choiceText : List String → String
  | [only] => backquoted only
  | [left, right] => backquoted left ++ " or " ++ backquoted right
  | names => "one of " ++ ", ".intercalate (names.map backquoted)

/-- Whether an integer has at most 64 bits, signed or unsigned. -/
def isWord (value : Int) : Bool :=
  -0x8000000000000000 ≤ value && value < 0x10000000000000000

/-- What a message says was found; none for an integer of more than 64 bits. -/
def foundText (format : Format) : Value → Option String
  | .null => some "null"
  | .bool value => some ("boolean " ++ backquoted (if value then "true" else "false"))
  | .number (.int value) =>
      if isWord value then some ("integer " ++ backquoted (String.ofList (intChars value)))
      else none
  | .number (.float value) =>
      let chars := match format with
        | .json => value.mixedChars
        | .toml => value.positionalChars
      some ("floating point " ++ backquoted (String.ofList chars))
  | .number (.infinity negative) =>
      some ("floating point " ++ backquoted (if negative then "-inf" else "inf"))
  | .number .nan => some ("floating point " ++ backquoted "NaN")
  | .number .unreadable => none
  | .string value => some ("string " ++ Text.quoted value)
  | .moment _ => some "map"
  | .list _ => some "sequence"
  | .table _ => some "map"

/-- The text shown for a fault in a document of a format, if it has one. -/
def message (format : Format) : ShapeError → Option String
  | .item error => some error.message
  | .missingField name => some ("missing field " ++ backquoted name)
  | .duplicateField name => some ("duplicate field " ++ backquoted name)
  | .unknownVariant found expected =>
      some ("unknown variant " ++ backquoted found ++ ", expected " ++ choiceText expected)
  | .invalidType found expected =>
      (foundText format found).map fun text => "invalid type: " ++ text ++ ", expected " ++ expected
  | .invalidLength length expected =>
      some ("invalid length " ++ toString length ++ ", expected " ++ expected)
  | .unfit => none

end ShapeError

/-- A reader of typed values. -/
abbrev Shape (α : Type) := Format → Value → Except ShapeError α

namespace Value

mutual

/-- Whether every number in the value can be read: it has a value, and an integer has at most
128 bits. -/
def isReadable : Value → Bool
  | .number (.int value) =>
      -0x80000000000000000000000000000000 ≤ value &&
        value < 0x100000000000000000000000000000000
  | .number .unreadable => false
  | .list elements => allReadable elements
  | .table entries => entriesReadable entries
  | _ => true

/-- Whether every number in the values can be read. -/
def allReadable : List Value → Bool
  | [] => true
  | value :: rest => isReadable value && allReadable rest

/-- Whether every number in the table can be read. -/
def entriesReadable : List (String × Value) → Bool
  | [] => true
  | (_, value) :: rest => isReadable value && entriesReadable rest

end

end Value

namespace Shape

variable {α β : Type}

/-- The fault of a value that is not of an expected kind. -/
def mismatch (value : Value) (expected : String) : ShapeError :=
  match value with
  | .number _ => if value.isReadable then .invalidType value expected else .unfit
  | _ => .invalidType value expected

def text : Shape String := fun _ value =>
  match value with
  | .string text => .ok text
  | other => .error (mismatch other "a string")

def flag : Shape Bool := fun _ value =>
  match value with
  | .bool flag => .ok flag
  | other => .error (mismatch other "a boolean")

/-- A list of values of one shape; the first that does not fit is the fault. -/
def list (shape : Shape α) : Shape (List α) := fun format value =>
  match value with
  | .list elements => elements.mapM (shape format)
  | other => .error (mismatch other "a sequence")

/-- A value of a shape, or null for none. -/
def nullable (shape : Shape α) : Shape (Option α) := fun format value =>
  match value with
  | .null => .ok none
  | other => (shape format other).map some

/-- A value of a shape, checked or changed further. -/
def check (shape : Shape α) (next : α → Except ShapeError β) : Shape β := fun format value =>
  shape format value >>= next

/-- The choice of a name. -/
def choose (choices : List (String × α)) (name : String) : Except ShapeError α :=
  match choices.lookup name with
  | some choice => .ok choice
  | none => .error (.unknownVariant name (choices.map Prod.fst))

/-- Whether a value may stand beside a name that is written as the only key of a table. -/
def isVoid (format : Format) (payload : Value) : Bool :=
  match format, payload with
  | .json, .null => true
  | .toml, .list [] => true
  | .toml, .table [] => true
  | _, _ => false

/-- One of a few names, written as a string or as the only key of a table that holds nothing. -/
def variant (choices : List (String × α)) : Shape α := fun format value =>
  match value, format with
  | .string name, _ => choose choices name
  | .table [(name, payload)], _ => do
      let choice ← choose choices name
      if isVoid format payload then .ok choice else .error .unfit
  | .table _, _ => .error .unfit
  | other, .json => .error (mismatch other "string or map")
  | _, .toml => .error .unfit

end Shape

end LocaleSite
