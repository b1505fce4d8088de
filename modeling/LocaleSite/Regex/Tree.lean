/-!
# Regular expressions

A `Regex` is the tree of a regular expression as it is written: groups, alternatives and
concatenations keep their nesting, and flags stand where they were set.
-/

namespace LocaleSite

/-- The classes with a one-letter escape. -/
inductive LetterClass where
  | digit
  | space
  | word
deriving DecidableEq, Repr

/-- The property that `\p` asks for. -/
inductive PropertyQuery where
  /-- A property or a value of the general category or of the script. -/
  | name (name : String)
  /-- A value of a property. -/
  | value (property value : String)
deriving DecidableEq, Repr

/-- The binary operations of classes. -/
inductive ClassOp where
  | intersection
  | difference
  | symmetricDifference
deriving DecidableEq, Repr

/-- A member of a class in brackets. -/
inductive ClassItem where
  | empty
  /-- A character; `byte` if it was written as `\x` and two digits. -/
  | literal (char : Char) (byte : Bool)
  | range (first last : ClassItem)
  /-- A class of ASCII characters in the form `[:name:]`. -/
  | ascii (negated : Bool)
  | letter (kind : LetterClass) (negated : Bool)
  | property (query : PropertyQuery)
  | bracketed (negated : Bool) (item : ClassItem)
  | union (items : List ClassItem)
  | op (kind : ClassOp) (left right : ClassItem)
deriving Inhabited

/-- Flags as they are set: each letter with whether it is on. -/
abbrev FlagSet := List (Char × Bool)

/-- A regular expression. -/
inductive Regex where
  | empty
  /-- Flags set for the rest of the group. -/
  | flags (set : FlagSet)
  | literal (char : Char) (byte : Bool)
  | dot
  /-- A condition on the place, such as the start of the text. -/
  | look
  | letter (kind : LetterClass) (negated : Bool)
  | property (query : PropertyQuery)
  | bracketed (negated : Bool) (item : ClassItem)
  | repetition (least : Nat) (most : Option Nat) (body : Regex)
  | group (captures : Bool) (set : FlagSet) (body : Regex)
  | concat (parts : List Regex)
  | alternation (branches : List Regex)
deriving Inhabited

/-- One member of a class for several, without a union around a single one. -/
def ClassItem.ofItems : List ClassItem → ClassItem
  | [] => .empty
  | [item] => item
  | items => .union items

namespace Regex

/-- One expression for a sequence, without a concatenation around a single one. -/
def ofParts : List Regex → Regex
  | [] => .empty
  | [part] => part
  | parts => .concat parts

/-- One expression for alternatives, without an alternation around a single one. -/
def ofBranches : List Regex → Regex
  | [branch] => branch
  | branches => .alternation branches

end Regex

end LocaleSite
