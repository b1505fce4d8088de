import LocaleSite.Regex.Property
import LocaleSite.Regex.Reader

/-!
# Which regular expressions are valid

A regular expression is valid if it can be read, is not nested too deep, asks only for properties
that exist, and can match nothing but valid text.

The flag `u` decides what a class is made of: characters, or, where it is off, single bytes. Then a
class must not go beyond ASCII, since a byte beyond it is no text.
-/

namespace LocaleSite

namespace ClassItem

mutual

/-- The nesting of a member of a class. -/
def nesting : ClassItem → Nat
  | .bracketed _ item => item.nesting + 1
  | .union items => nestingOfAll items + 1
  | .op _ left right => max left.nesting right.nesting + 1
  | _ => 0

/-- The greatest nesting among the members of a class. -/
def nestingOfAll : List ClassItem → Nat
  | [] => 0
  | item :: rest => max item.nesting (nestingOfAll rest)

end

mutual

/-- Whether a member of a class can be used, in classes of characters or of bytes. -/
def isUsable (unicode : Bool) : ClassItem → Bool
  | .empty => true
  | .literal c _ => unicode || c.toNat < 128
  | .range first last => first.isUsable unicode && last.isUsable unicode
  | .ascii negated => unicode || !negated
  | .letter _ negated => unicode || !negated
  | .property query => unicode && query.isKnown
  | .bracketed negated item => (unicode || !negated) && item.isUsable unicode
  | .union items => allUsable unicode items
  | .op _ left right => left.isUsable unicode && right.isUsable unicode

/-- Whether all members of a class can be used. -/
def allUsable (unicode : Bool) : List ClassItem → Bool
  | [] => true
  | item :: rest => item.isUsable unicode && allUsable unicode rest

end

end ClassItem

namespace Regex

mutual

/-- The nesting of groups, classes, repetitions, sequences and alternatives. -/
def nesting : Regex → Nat
  | .bracketed _ item => item.nesting + 1
  | .repetition _ _ body => body.nesting + 1
  | .group _ _ body => body.nesting + 1
  | .concat parts => nestingOfAll parts + 1
  | .alternation branches => nestingOfAll branches + 1
  | _ => 0

def nestingOfAll : List Regex → Nat
  | [] => 0
  | regex :: rest => max regex.nesting (nestingOfAll rest)

end

/-- The nesting a regular expression may have. -/
def maxNesting : Nat := 250

/-- The flags that decide what may be matched. -/
structure Mode where
  unicode : Bool
  ignoreCase : Bool
deriving DecidableEq, Repr

/-- The mode once flags are set. -/
def Mode.set (mode : Mode) (flags : FlagSet) : Mode :=
  ⟨(flags.lookup 'u').getD mode.unicode, (flags.lookup 'i').getD mode.ignoreCase⟩

mutual

/-- The mode after an expression, if the expression is usable in the mode before it. -/
def modeAfter (mode : Mode) : Regex → Option Mode
  | .empty => some mode
  | .flags set => some (mode.set set)
  | .literal c byte =>
      if mode.unicode || c.toNat < 128 || !(byte || mode.ignoreCase) then some mode else none
  | .dot => if mode.unicode then some mode else none
  | .look => some mode
  | .letter _ negated => if mode.unicode || !negated then some mode else none
  | .property query => if mode.unicode && query.isKnown then some mode else none
  | .bracketed negated item =>
      if (mode.unicode || !negated) && item.isUsable mode.unicode then some mode else none
  | .repetition _ _ body => modeAfter mode body
  | .group _ set body => (modeAfter (mode.set set) body).map fun _ => mode
  | .concat parts => modeAfterAll mode parts
  | .alternation branches => modeAfterAll mode branches

/-- The mode after some expressions, one after the other. -/
def modeAfterAll (mode : Mode) : List Regex → Option Mode
  | [] => some mode
  | regex :: rest => (modeAfter mode regex).bind fun mode => modeAfterAll mode rest

end

/-- Whether an expression matches text only. -/
def isUsable (regex : Regex) : Bool := (modeAfter ⟨true, false⟩ regex).isSome

end Regex

end LocaleSite
