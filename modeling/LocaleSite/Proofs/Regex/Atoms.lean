import Mathlib.Tactic.SplitIfs
import LocaleSite.Regex

/-!
# Texts without operators

A text in which no character groups, repeats, chooses or escapes is read as the sequence of its
characters, each an expression of its own, and so it is a regular expression. With an opening
parenthesis as its only operator it is none, for the group is never closed.
-/

namespace LocaleSite.Regex

/-- Whether a character groups, repeats, chooses or escapes. -/
def isOperator (c : Char) : Bool :=
  [')', '|', '(', '[', '?', '*', '+', '{', '\\'].contains c

/-- A text without operators. -/
def IsPlain (text : String) : Prop := ∀ c ∈ text.toList, isOperator c = false

@[simp]
theorem isPlain_append {first second : String} :
    IsPlain (first ++ second) ↔ IsPlain first ∧ IsPlain second := by
  simp [IsPlain, or_imp, forall_and]

@[simp]
theorem isPlain_empty : IsPlain "" := nofun

@[simp]
theorem isPlain_slash : IsPlain "/" := by
  simp [IsPlain, isOperator]

/-- What is taken for granted of what decides on patterns. -/
structure PatternLaws (isPattern : String → Bool) (longest : Nat) : Prop where
  /-- A text without operators is a pattern, unless it is too long. -/
  plain : ∀ text, IsPlain text → text.length ≤ longest → isPattern text = true
  /-- A text with a group that is not closed is none. -/
  unclosed : ∀ before after, IsPlain before → IsPlain after →
    isPattern (before ++ "(" ++ after) = false

/-- The expression that a character other than an operator is by itself. -/
def ofChar (c : Char) : Regex :=
  if c = '.' then .dot else if c = '^' ∨ c = '$' then .look else .literal c false

/-! ## Reading -/

theorem readBranches_atom {c : Char} (atom : isOperator c = false) (fuel : Nat) (rest : List Char)
    (names : List String) (branches parts : List Regex) :
    readBranches (fuel + 1) ⟨c :: rest, false, names⟩ branches parts =
      readBranches fuel ⟨rest, false, names⟩ branches (ofChar c :: parts) := by
  rw [readBranches]
  split
  case h_14 notDot notCaret notDollar same =>
    cases same
    have literal : ofChar c = .literal c false := by
      have notLook : ¬(c = '^' ∨ c = '$') := not_or.2 ⟨notCaret, notDollar⟩
      rw [ofChar, if_neg notDot, if_neg notLook]
    rw [literal]
  -- The other branches are for operators, for the end and for the three characters that match
  -- something else than themselves.
  all_goals
    rename_i same
    cases same
  all_goals first | rfl | cases atom

/-- Characters other than operators are read one by one, whatever follows. -/
theorem readBranches_atoms {chars : List Char} (atoms : ∀ c ∈ chars, isOperator c = false)
    (fuel : Nat) (rest : List Char) (names : List String) (branches parts : List Regex) :
    readBranches (chars.length + fuel) ⟨chars ++ rest, false, names⟩ branches parts =
      readBranches fuel ⟨rest, false, names⟩ branches ((chars.map ofChar).reverse ++ parts) := by
  induction chars generalizing parts with
  | nil => simp
  | cons c chars ih =>
      rcases List.forall_mem_cons.1 atoms with ⟨here, later⟩
      rw [List.length_cons, Nat.succ_add, List.cons_append, readBranches_atom here, ih later]
      simp

theorem readBranches_end (fuel : Nat) (names : List String) (branches parts : List Regex) :
    readBranches (fuel + 1) ⟨[], false, names⟩ branches parts =
      some (finish branches parts, ⟨[], false, names⟩) :=
  rfl

theorem read?_of_plain {text : String} (plain : IsPlain text) :
    read? text = some (ofParts (text.toList.map ofChar)) := by
  have atoms := readBranches_atoms plain 1 [] [] [] []
  rw [List.append_nil, String.length_toList, readBranches_end] at atoms
  rw [read?, atoms]
  simp [finish, ofBranches]

/-- A group that opens with no question mark captures and has no name. -/
theorem readGroupStart_of_atoms {chars : List Char} (atoms : ∀ c ∈ chars, isOperator c = false) :
    readGroupStart chars = some (.group true [] none, chars) := by
  cases chars with
  | nil => rfl
  | cons c rest =>
      have here := (List.forall_mem_cons.1 atoms).1
      unfold readGroupStart
      split
      case h_8 => rfl
      all_goals
        rename_i same
        cases same
        cases here

/-- A group is not read if the text ends in it. -/
theorem readBranches_unclosed {chars : List Char} (atoms : ∀ c ∈ chars, isOperator c = false)
    (names : List String) (branches parts : List Regex) :
    readBranches (chars.length + 1 + 1) ⟨'(' :: chars, false, names⟩ branches parts = none := by
  have inner := readBranches_atoms atoms 1 [] names [] []
  rw [List.append_nil, readBranches_end] at inner
  rw [readBranches]
  simp [skip, readGroupStart_of_atoms atoms, verboseAfter, inner]

theorem read?_of_unclosed {before after : String} (plainBefore : IsPlain before)
    (plainAfter : IsPlain after) : read? (before ++ "(" ++ after) = none := by
  have toList_eq : (before ++ "(" ++ after).toList = before.toList ++ '(' :: after.toList := by
    simp
  have length_eq : (before ++ "(" ++ after).length + 1 =
      before.toList.length + (after.toList.length + 1 + 1) := by
    rw [← String.length_toList, toList_eq, List.length_append, List.length_cons, Nat.add_assoc]
  rw [read?, length_eq, toList_eq, readBranches_atoms plainBefore,
    readBranches_unclosed plainAfter]

/-! ## Sequences of characters -/

@[simp]
theorem nesting_ofChar (c : Char) : (ofChar c).nesting = 0 := by
  unfold ofChar
  split_ifs <;> rfl

@[simp]
theorem modeAfter_ofChar (c : Char) : modeAfter ⟨true, false⟩ (ofChar c) = some ⟨true, false⟩ := by
  unfold ofChar
  split_ifs <;> rfl

/-! A text of one character is that character, and a longer one a sequence. -/

theorem nestingOfAll_map_ofChar (chars : List Char) : nestingOfAll (chars.map ofChar) = 0 := by
  induction chars with
  | nil => rfl
  | cons c rest ih => simp [nestingOfAll, ih]

theorem modeAfterAll_map_ofChar (chars : List Char) :
    modeAfterAll ⟨true, false⟩ (chars.map ofChar) = some ⟨true, false⟩ := by
  induction chars with
  | nil => rfl
  | cons c rest ih => simp [modeAfterAll, ih]

theorem nesting_ofParts_ofChar (chars : List Char) :
    (ofParts (chars.map ofChar)).nesting ≤ 1 := by
  match chars with
  | [] => exact Nat.zero_le 1
  | [c] => rw [List.map_singleton, ofParts, nesting_ofChar]; exact Nat.zero_le 1
  | c :: next :: more =>
      have flat := nestingOfAll_map_ofChar (c :: next :: more)
      simp only [List.map_cons] at flat
      simp only [List.map_cons, ofParts, nesting, flat]
      exact Nat.le_refl 1

theorem isUsable_ofParts_ofChar (chars : List Char) :
    (ofParts (chars.map ofChar)).isUsable = true := by
  match chars with
  | [] => rfl
  | [c] => rw [List.map_singleton, ofParts, isUsable, modeAfter_ofChar]; rfl
  | c :: next :: more =>
      have kept := modeAfterAll_map_ofChar (c :: next :: more)
      simp only [List.map_cons] at kept
      simp only [List.map_cons, ofParts, isUsable, modeAfter, kept]
      rfl

theorem isValid_of_plain {text : String} (plain : IsPlain text) : isValid text = true := by
  have shallow : (ofParts (text.toList.map ofChar)).nesting ≤ maxNesting :=
    Nat.le_trans (nesting_ofParts_ofChar _) (by decide)
  rw [isValid, read?_of_plain plain]
  simp only [shallow, isUsable_ofParts_ofChar, decide_true, Bool.true_and]

theorem isValid_of_unclosed {before after : String} (plainBefore : IsPlain before)
    (plainAfter : IsPlain after) : isValid (before ++ "(" ++ after) = false := by
  rw [isValid, read?_of_unclosed plainBefore plainAfter]

theorem patternLaws_isValid (longest : Nat) : PatternLaws isValid longest where
  plain _ isPlain _ := isValid_of_plain isPlain
  unclosed _ _ := isValid_of_unclosed

end LocaleSite.Regex
