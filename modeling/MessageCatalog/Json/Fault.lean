/-!
# Where and why reading JSON stops

A reader works on the characters that are left. When it stops, it says why, what was left, and how
many bytes past that point it had looked; the line and the column are counted from the text as a
whole.

## Main definitions

* `Json.Fault` — the reasons, with their wording in `Fault.message`.
* `Json.Stop` — a reason with the place where reading stopped.
* `Position.after` — the line and column after a number of bytes.
* `Stop.position`, `Stop.describe` — the place of a stop in a text, and its full wording.
-/

namespace MessageCatalog

/-- A place in a text: the line counted from one, and the bytes before it on that line. -/
structure Position where
  line : Nat
  column : Nat
  deriving DecidableEq, Repr

namespace Position

/-- The place after some bytes. -/
def after (bytes : List UInt8) : Position :=
  bytes.foldl (fun place byte =>
    if byte = 10 then ⟨place.line + 1, 0⟩ else ⟨place.line, place.column + 1⟩) ⟨1, 0⟩

end Position

namespace Json

/-- Why reading JSON stops. -/
inductive Fault where
  | endOfList
  | endOfObject
  | endOfString
  | endOfValue
  | expectedColon
  | expectedListComma
  | expectedObjectComma
  | expectedWord
  | expectedValue
  | invalidEscape
  | invalidNumber
  | numberOutOfRange
  | controlCharacter
  | keyNotString
  | loneSurrogate
  | trailingComma
  | trailingCharacters
  | endOfHexEscape
  | nestedTooDeep
  deriving DecidableEq, Repr

/-- The wording of a reason. -/
def Fault.message : Fault → String
  | .endOfList => "EOF while parsing a list"
  | .endOfObject => "EOF while parsing an object"
  | .endOfString => "EOF while parsing a string"
  | .endOfValue => "EOF while parsing a value"
  | .expectedColon => "expected `:`"
  | .expectedListComma => "expected `,` or `]`"
  | .expectedObjectComma => "expected `,` or `\x7d`"
  | .expectedWord => "expected ident"
  | .expectedValue => "expected value"
  | .invalidEscape => "invalid escape"
  | .invalidNumber => "invalid number"
  | .numberOutOfRange => "number out of range"
  | .controlCharacter => "control character (\\u0000-\\u001F) found while parsing a string"
  | .keyNotString => "key must be a string"
  | .loneSurrogate => "lone leading surrogate in hex escape"
  | .trailingComma => "trailing comma"
  | .trailingCharacters => "trailing characters"
  | .endOfHexEscape => "unexpected end of hex escape"
  | .nestedTooDeep => "recursion limit exceeded"

/-- A reason with the place where reading stopped: the characters that were left, and the number of
bytes looked at beyond that point. -/
structure Stop (ε : Type) where
  reason : ε
  rest : List Char
  ahead : Nat
  deriving Repr

namespace Stop

variable {ε δ : Type}

/-- A stop in front of the characters that are left. -/
def before (reason : ε) (rest : List Char) : Stop ε :=
  ⟨reason, rest, 0⟩

/-- A stop behind the first byte of the characters that are left. -/
def behind (reason : ε) (rest : List Char) : Stop ε :=
  ⟨reason, rest, 1⟩

/-- The same place with another reason. -/
def map (f : ε → δ) (stop : Stop ε) : Stop δ :=
  ⟨f stop.reason, stop.rest, stop.ahead⟩

/-- The length of some characters in bytes. -/
def byteLength (cs : List Char) : Nat :=
  cs.foldl (fun total c => total + c.utf8Size) 0

/-- The place of a stop in a text. -/
def position (stop : Stop ε) (text : String) : Position :=
  let left := byteLength stop.rest
  let bytes := text.toUTF8.toList
  Position.after (bytes.take (bytes.length - left + min stop.ahead left))

end Stop

/-- The wording of a reason with its place. -/
def describe (message : String) (place : Position) : String :=
  message ++ " at line " ++ toString place.line ++ " column " ++ toString place.column

/-- What a reader returns: a value and the characters that are left, or a stop. -/
abbrev Read (ε α : Type) := Except (Stop ε) (α × List Char)

end Json

end MessageCatalog
