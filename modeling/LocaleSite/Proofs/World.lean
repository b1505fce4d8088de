import LocaleSite.World

/-!
# Bytes read as text

A file or a variable holds bytes. They are the bytes of at most one text, and reading them gives
that text or nothing.
-/

namespace LocaleSite.World

theorem fromUTF8?_eq_some_iff {content : ByteArray} {text : String} :
    String.fromUTF8? content = some text ↔ content = text.toUTF8 := by
  rw [String.fromUTF8?]
  by_cases valid : content.IsValidUTF8
  · rw [dif_pos valid, Option.some.injEq]
    constructor <;> (rintro rfl; rfl)
  · simp only [valid, dite_false, reduceCtorEq, false_iff]
    rintro rfl
    exact valid text.isValidUTF8

/-- A variable has the text as its value when it is set to the bytes of the text. -/
theorem text?_eq_some_iff {world : World} {name value : String} :
    world.text? name = some value ↔ world.environment? name = some value.toUTF8 := by
  rw [text?]
  cases world.environment? name with
  | none => simp
  | some content => simp [fromUTF8?_eq_some_iff]

theorem text?_eq_none_iff {world : World} {name : String} :
    world.text? name = none ↔
      ∀ value : String, world.environment? name ≠ some value.toUTF8 := by
  rw [Option.eq_none_iff_forall_ne_some]
  exact forall_congr' fun value => not_congr text?_eq_some_iff

end LocaleSite.World
