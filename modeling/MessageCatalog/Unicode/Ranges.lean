/-!
# Sets of code points given by ranges

A character property is a list of closed ranges of code points in increasing order.

## Main definitions

* `CodeRanges` — closed ranges of code points, in increasing order and apart from each other.
* `CodeRanges.contains` — membership of a code point.
-/

namespace MessageCatalog.Unicode

/-- Closed ranges of code points, in increasing order and apart from each other. -/
abbrev CodeRanges := List (Nat × Nat)

namespace CodeRanges

/-- Whether a code point lies in one of the ranges; the search ends at the first range that
starts above it. -/
def contains : CodeRanges → Nat → Bool
  | [], _ => false
  | (first, last) :: rest, code =>
    if code < first then false
    else if code ≤ last then true
    else contains rest code

/-- The number of code points in the ranges. -/
def count (ranges : CodeRanges) : Nat :=
  ranges.foldl (fun total range => total + (range.2 + 1 - range.1)) 0

@[simp] theorem contains_nil (code : Nat) : contains [] code = false := rfl

theorem contains_cons (first last code : Nat) (rest : CodeRanges) :
    contains ((first, last) :: rest) code =
      if code < first then false else if code ≤ last then true else contains rest code := rfl

end CodeRanges

end MessageCatalog.Unicode
