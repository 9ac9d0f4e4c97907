/-
  Sets of code points, given as tables of closed ranges.

  A table lists the first and the last code point of each run, in ascending order; a character is
  in the set when some range holds its code point.
-/

namespace HttpRouting.Text

/-- A set of code points: the closed ranges that make it up. -/
abbrev CodePoints := List (Nat × Nat)

namespace CodePoints

/-- Whether `c` lies in one of the ranges. -/
def contains (table : CodePoints) (c : Char) : Bool :=
  table.any fun range => range.1 ≤ c.toNat && c.toNat ≤ range.2

end CodePoints

end HttpRouting.Text
