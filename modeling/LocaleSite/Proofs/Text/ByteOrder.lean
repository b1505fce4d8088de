import Mathlib.Tactic.SplitIfs

/-!
# The order of texts by their bytes

Texts are ordered by the codes of their characters, and the order of their UTF-8 bytes is the same:
of two characters, the one with the greater code has the greater byte at the first place where
their bytes differ, and there is such a place before either ends.
-/

namespace LocaleSite.Text

/-- The UTF-8 bytes of a text. -/
def bytes (text : String) : List UInt8 := text.toUTF8.data.toList

theorem bytes_eq_flatMap (text : String) :
    bytes text = text.toList.flatMap String.utf8EncodeChar := by
  have encoded : text.toByteArray = text.toList.utf8Encode := by
    rw [← String.toByteArray_ofList, String.ofList_toList]
  rw [bytes, String.toUTF8_eq_toByteArray, encoded, List.utf8Encode,
    List.toList_data_toByteArray]

theorem ofNat_lt_iff {left right : Nat} (leftByte : left < 256) (rightByte : right < 256) :
    UInt8.ofNat left < UInt8.ofNat right ↔ left < right := by
  rw [UInt8.lt_iff_toNat_lt, UInt8.toNat_ofNat', UInt8.toNat_ofNat', Nat.mod_eq_of_lt leftByte,
    Nat.mod_eq_of_lt rightByte]

theorem ofNat_eq_iff {left right : Nat} (leftByte : left < 256) (rightByte : right < 256) :
    UInt8.ofNat left = UInt8.ofNat right ↔ left = right := by
  rw [← UInt8.toNat_inj, UInt8.toNat_ofNat', UInt8.toNat_ofNat', Nat.mod_eq_of_lt leftByte,
    Nat.mod_eq_of_lt rightByte]

/-- The bytes of two characters decide, whatever follows them. -/
theorem utf8EncodeChar_append_lt {left right : Char} (before : left < right)
    (leftRest rightRest : List UInt8) :
    String.utf8EncodeChar left ++ leftRest < String.utf8EncodeChar right ++ rightRest := by
  have ordered : left.val.toNat < right.val.toNat := UInt32.lt_iff_toNat_lt.1 before
  have bound : right.val.toNat < 1114112 := by
    rcases right.valid with small | ⟨_, small⟩
    · exact Nat.lt_trans small (by decide)
    · exact small
  -- Each byte after the first holds one digit of the code to the base 64.
  have digits : ∀ code : Nat, code / 4096 = code / 64 / 64 ∧
      code / 262144 = code / 64 / 64 / 64 := by omega
  simp only [String.utf8EncodeChar, digits]
  generalize left.val.toNat = leftCode at ordered ⊢
  generalize right.val.toNat = rightCode at ordered bound ⊢
  -- Codes with different numbers of bytes differ in the first, others in the highest digit that
  -- differs.
  split_ifs <;>
    simp (disch := omega) only [List.cons_append, List.nil_append, List.cons_lt_cons_iff,
      ofNat_lt_iff, ofNat_eq_iff] <;>
    omega

theorem flatMap_utf8EncodeChar_lt {left right : List Char} (before : left < right) :
    left.flatMap String.utf8EncodeChar < right.flatMap String.utf8EncodeChar := by
  induction left generalizing right with
  | nil =>
      cases right with
      | nil => exact absurd before (List.lt_irrefl [])
      | cons head rest =>
          rw [List.flatMap_nil, List.flatMap_cons]
          cases encoded : String.utf8EncodeChar head with
          | nil => exact absurd encoded String.utf8EncodeChar_ne_nil
          | cons first others => exact List.nil_lt_cons first _
  | cons leftHead leftRest ih =>
      cases right with
      | nil => cases before
      | cons rightHead rightRest =>
          rw [List.flatMap_cons, List.flatMap_cons]
          rcases List.cons_lt_cons_iff.1 before with here | ⟨rfl, later⟩
          · exact utf8EncodeChar_append_lt here _ _
          · exact List.append_left_lt (ih later)

theorem bytes_lt_of_lt {left right : String} (before : left < right) :
    bytes left < bytes right := by
  rw [bytes_eq_flatMap, bytes_eq_flatMap]
  exact flatMap_utf8EncodeChar_lt (String.lt_iff.1 before)

/-- Texts compare as their bytes do. -/
theorem bytes_lt_iff {left right : String} : bytes left < bytes right ↔ left < right := by
  constructor
  · intro before
    rcases Std.lt_trichotomy left right with here | rfl | other
    · exact here
    · exact absurd before (List.lt_irrefl _)
    · exact absurd before (List.lt_asymm (bytes_lt_of_lt other))
  · exact bytes_lt_of_lt

end LocaleSite.Text
