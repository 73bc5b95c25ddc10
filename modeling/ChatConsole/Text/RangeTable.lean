/-
# Tables of code point ranges

A character property is kept as a list of ranges in increasing order, so that a search may stop at
the first range that begins after the code point.
-/

namespace ChatConsole
namespace Text

/-- Ranges `(first, last)` of code points, both ends included, in increasing order. -/
abbrev RangeTable := List (Nat × Nat)

namespace RangeTable

/-- Whether a code point lies in one of the ranges. -/
def contains : RangeTable → Nat → Bool
  | [], _ => false
  | (first, last) :: rest, n =>
    if n < first then false else if n ≤ last then true else contains rest n

end RangeTable
end Text
end ChatConsole
