/-
This file says what it is for a character to lie in a set given by ranges of
code points. The character classes of the library are such sets: a table of
ranges in ascending order, and a shorter rule for the ASCII part, which is the
part that a program's own words are written in.
-/

import Prebuild.Text

namespace Prebuild.Text

/-- A range of code points, both ends included. -/
structure Range where
  first : Nat
  last : Nat

/-- Whether the code point of the character lies in the range. -/
def Range.holds (range : Range) (character : Char) : Bool :=
  decide (range.first ≤ character.toNat) && decide (character.toNat ≤ range.last)

/-- Whether the code point of the character lies in one of the ranges. -/
def inRanges (ranges : List Range) (character : Char) : Bool :=
  ranges.any fun range => range.holds character

end Prebuild.Text
