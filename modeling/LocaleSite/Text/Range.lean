/-!
# Classes of characters as ranges

Classes of characters are listed as ranges of code points, ends included, in ascending order.
-/

namespace LocaleSite.Text

/-- Whether a character lies in one of some ranges of code points. -/
def inRanges (ranges : List (Nat × Nat)) (c : Char) : Bool :=
  ranges.any fun range => range.1 ≤ c.toNat && c.toNat ≤ range.2

end LocaleSite.Text
