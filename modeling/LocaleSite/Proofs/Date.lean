import LocaleSite.Date
import Mathlib.Logic.Function.Basic

/-!
# Written dates

Different dates are written differently. Month and day take two characters each, so the year is
what stands before the last six; its sign and its digits tell which year it is, whatever the
number of digits.
-/

namespace LocaleSite.Date

/-- Zeros in front do not change the number that digits stand for. -/
theorem ofDigitChars_paddedChars (width n : Nat) :
    Nat.ofDigitChars 10 (paddedChars width n) 0 = n := by
  simp [paddedChars, Nat.ofDigitChars_append]

theorem paddedChars_injective (width : Nat) : Function.Injective (paddedChars width) :=
  Function.LeftInverse.injective (ofDigitChars_paddedChars width)

theorem isDigit_of_mem_paddedChars {width n : Nat} {c : Char} (c_mem : c ∈ paddedChars width n) :
    c.isDigit = true := by
  rcases List.mem_append.1 c_mem with zero | digit
  · rw [(List.mem_replicate.1 zero).2]
    rfl
  · exact Nat.isDigit_of_mem_toDigits (by decide) (by decide) digit

theorem length_paddedChars_two {n : Nat} (small : n < 100) : (paddedChars 2 n).length = 2 := by
  have short : (Nat.toDigits 10 n).length ≤ 2 :=
    (Nat.length_toDigits_le_iff (by decide) (by decide)).2 small
  simp [paddedChars]
  omega

/-- The year that a sign and digits stand for. -/
def yearOfChars : List Char → Int
  | '-' :: digits => -(Nat.ofDigitChars 10 digits 0 : Int)
  | '+' :: digits => Nat.ofDigitChars 10 digits 0
  | digits => Nat.ofDigitChars 10 digits 0

theorem yearOfChars_paddedChars (width n : Nat) : yearOfChars (paddedChars width n) = n := by
  have unsigned : ∀ {sign : Char} {rest : List Char}, sign.isDigit = false →
      paddedChars width n ≠ sign :: rest := by
    intro sign rest notDigit written
    have digit := isDigit_of_mem_paddedChars (written ▸ List.mem_cons_self)
    rw [notDigit] at digit
    cases digit
  unfold yearOfChars
  split
  · rename_i written
    exact absurd written (unsigned rfl)
  · rename_i written
    exact absurd written (unsigned rfl)
  · rw [ofDigitChars_paddedChars]

theorem yearOfChars_yearChars (year : Int) : yearOfChars (yearChars year) = year := by
  simp only [yearChars]
  split
  · simp only [yearOfChars, ofDigitChars_paddedChars]
    omega
  · split
    · simp only [yearOfChars, ofDigitChars_paddedChars]
      omega
    · rw [yearOfChars_paddedChars]
      omega

theorem month_lt (date : Date) : date.month < 100 := by
  have valid := date.valid
  simp only [isDate, Bool.and_eq_true, decide_eq_true_eq] at valid
  omega

theorem day_lt (date : Date) : date.day < 100 := by
  have valid := date.valid
  have days : daysInMonth date.year date.month ≤ 31 := by
    unfold daysInMonth
    split
    · split <;> decide
    · split <;> decide
  simp only [isDate, Bool.and_eq_true, decide_eq_true_eq] at valid
  omega

theorem toText_injective : Function.Injective toText := by
  intro left right same
  have sameChars := String.ofList_injective same
  have sameLength : ('-' :: paddedChars 2 left.day).length =
      ('-' :: paddedChars 2 right.day).length := by
    simp [length_paddedChars_two left.day_lt, length_paddedChars_two right.day_lt]
  rcases List.append_inj' sameChars sameLength with ⟨sameFront, sameDay⟩
  have sameFrontLength : ('-' :: paddedChars 2 left.month).length =
      ('-' :: paddedChars 2 right.month).length := by
    simp [length_paddedChars_two left.month_lt, length_paddedChars_two right.month_lt]
  rcases List.append_inj' sameFront sameFrontLength with ⟨sameYear, sameMonth⟩
  have year_eq : left.year = right.year :=
    Function.LeftInverse.injective yearOfChars_yearChars sameYear
  have month_eq := paddedChars_injective 2 (List.cons.inj sameMonth).2
  have day_eq := paddedChars_injective 2 (List.cons.inj sameDay).2
  cases left
  cases right
  cases year_eq
  cases month_eq
  cases day_eq
  rfl

end LocaleSite.Date
