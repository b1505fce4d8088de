import LocaleSite.Expansion

/-!
# One step of an expansion

An equation for each way in which a text can begin, braces that are not closed apart. A reference in
braces is taken apart at the first `:-` in it, which is not in the name where this has no colons.
-/

namespace LocaleSite.Expansion

variable {valueOf : String → Option String}

theorem splitDefault_cons {c : Char} (notColon : c ≠ ':') (rest : List Char) :
    splitDefault (c :: rest) =
      (splitDefault rest).map fun (name, default) => (c :: name, default) := by
  rw [splitDefault]
  rintro more rfl
  exact absurd rfl notColon

theorem splitDefault_eq_none {name : List Char} (free : ':' ∉ name) : splitDefault name = none := by
  induction name with
  | nil => rfl
  | cons c rest ih =>
      rw [List.mem_cons, not_or] at free
      rw [splitDefault_cons (Ne.symm free.1), ih free.2, Option.map_none]

theorem splitDefault_append {name : List Char} (free : ':' ∉ name) (text : List Char) :
    splitDefault (name ++ ':' :: '-' :: text) = some (name, text) := by
  induction name with
  | nil => rfl
  | cons c rest ih =>
      rw [List.mem_cons, not_or] at free
      rw [List.cons_append, splitDefault_cons (Ne.symm free.1), ih free.2, Option.map_some]

/-- Whether a dollar sign right before a character has no meaning. -/
def leavesDollar (next : Char) : Bool := next != '{' && next != '$' && !isNameChar next

theorem expandChars_nil : expandChars valueOf [] = .ok [] := by rw [expandChars]

theorem expandChars_cons {c : Char} (notDollar : c ≠ '$') (rest : List Char) :
    expandChars valueOf (c :: rest) = (expandChars valueOf rest).map (c :: ·) := by
  rw [expandChars]
  · rfl
  all_goals simp [notDollar]

theorem expandChars_doubled (rest : List Char) :
    expandChars valueOf ('$' :: '$' :: rest) = (expandChars valueOf rest).map ('$' :: ·) := by
  rw [expandChars]
  rfl

theorem expandChars_lone {rest : List Char}
    (lone : ∀ next, rest.head? = some next → leavesDollar next = true) :
    expandChars valueOf ('$' :: rest) = (expandChars valueOf rest).map ('$' :: ·) := by
  cases rest with
  | nil =>
      rw [expandChars_nil, expandChars, expandChars_nil]
      · rfl
      all_goals simp
  | cons next more =>
      have leaves := lone next rfl
      simp only [leavesDollar, Bool.and_eq_true, bne_iff_ne, Bool.not_eq_true'] at leaves
      rcases leaves with ⟨⟨notBrace, notDollar⟩, notName⟩
      rw [expandChars]
      · rw [notName]
        rfl
      all_goals simp [notBrace, notDollar]

theorem expandChars_named {c : Char} (isName : isNameChar c = true) (rest : List Char) :
    expandChars valueOf ('$' :: c :: rest) = (do
      let value ← resolve valueOf (c :: rest.takeWhile isNameChar) none
      return value ++ (← expandChars valueOf (rest.dropWhile isNameChar))) := by
  rw [expandChars]
  · rw [isName]
    rfl
  all_goals
    rintro rfl
    exact absurd isName (by decide +kernel)

theorem expandChars_braced {inner : List Char} (isOpen : '}' ∉ inner) (rest : List Char) :
    expandChars valueOf ('$' :: '{' :: (inner ++ '}' :: rest)) = (do
      let value ← resolve valueOf (nameAndDefault inner).1 (nameAndDefault inner).2
      return value ++ (← expandChars valueOf rest)) := by
  have before : ∀ c ∈ inner, (c != '}') = true := by
    intro c c_mem
    simpa using fun same : c = '}' => isOpen (same ▸ c_mem)
  have closing : (inner ++ '}' :: rest).dropWhile (· != '}') = '}' :: rest := by
    rw [List.dropWhile_append_of_pos before]
    simp
  have taken : (inner ++ '}' :: rest).takeWhile (· != '}') = inner := by
    rw [List.takeWhile_append_of_pos before]
    simp
  rw [expandChars]
  split
  · rename_i unclosed
    rw [closing] at unclosed
    cases unclosed
  · rename_i closed
    rw [closing] at closed
    cases closed
    rw [taken]

end LocaleSite.Expansion
