import LocaleSite.Proofs.Value.JsonRoundTrip

/-!
# Compact JSON on one line

A string is written without control characters, be its own as they may, and compact text has no
others. So it has no line break.
-/

namespace LocaleSite.Json

/-- None of the characters is below the blank. -/
def Uncontrolled (chars : List Char) : Prop := ∀ c ∈ chars, 32 ≤ c.toNat

@[simp]
theorem uncontrolled_nil : Uncontrolled [] := by simp [Uncontrolled]

@[simp]
theorem uncontrolled_cons {c : Char} {rest : List Char} :
    Uncontrolled (c :: rest) ↔ 32 ≤ c.toNat ∧ Uncontrolled rest :=
  List.forall_mem_cons

@[simp]
theorem uncontrolled_append {left right : List Char} :
    Uncontrolled (left ++ right) ↔ Uncontrolled left ∧ Uncontrolled right :=
  List.forall_mem_append

end LocaleSite.Json
