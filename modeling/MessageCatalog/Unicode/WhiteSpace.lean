import MessageCatalog.Unicode.Ranges

/-!
# White space

## Main definitions

* `whiteSpaceRanges` — the code points of the property `White_Space`.
* `isWhiteSpace` — whether a character is white space.
-/

namespace MessageCatalog.Unicode

/-- The code points of the property `White_Space`. -/
def whiteSpaceRanges : CodeRanges :=
  [(0x9, 0xD), (0x20, 0x20), (0x85, 0x85), (0xA0, 0xA0), (0x1680, 0x1680), (0x2000, 0x200A),
    (0x2028, 0x2029), (0x202F, 0x202F), (0x205F, 0x205F), (0x3000, 0x3000)]

/-- Whether a character is white space. -/
def isWhiteSpace (c : Char) : Bool :=
  whiteSpaceRanges.contains c.toNat

example : whiteSpaceRanges.count = 25 := by decide

end MessageCatalog.Unicode
