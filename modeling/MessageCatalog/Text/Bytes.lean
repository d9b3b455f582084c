/-!
# Texts and bytes

A text is written as its UTF-8 bytes. Other bytes are read as a text as well: what starts a
character and breaks off is read as one replacement character, and so is every byte that starts
none. So texts are read back, but different bytes may be read as one text.

## Main definitions

* `bytes` — the UTF-8 bytes of a text.
* `ofBytes` — the text that any bytes are read as.
-/

namespace MessageCatalog.Text

/-- The UTF-8 bytes of a text. -/
def bytes (s : String) : List UInt8 :=
  s.toUTF8.data.toList

/-- The character that stands for bytes which spell none. -/
def replacement : Char :=
  '\uFFFD'

/-- The character that some bytes start with. -/
def firstChar? (bytes : List UInt8) : Option Char :=
  bytes.toByteArray.utf8DecodeChar? 0

/-- Whether a byte goes on with a character that is not at its end before it. -/
def isContinuation (byte : UInt8) : Bool :=
  0x80 ≤ byte && byte ≤ 0xBF

/-- Whether a byte can be the second one of a character of three or four bytes. The others would
spell a character in too many bytes, a half of a pair of units, or none at all. -/
def canFollow (first second : UInt8) : Bool :=
  if first = 0xE0 then 0xA0 ≤ second && second ≤ 0xBF
  else if first = 0xED then 0x80 ≤ second && second ≤ 0x9F
  else if first = 0xF0 then 0x90 ≤ second && second ≤ 0xBF
  else if first = 0xF4 then 0x80 ≤ second && second ≤ 0x8F
  else 0xE1 ≤ first && first ≤ 0xF3 && isContinuation second

/-- How many bytes behind a first one still belong to a character that breaks off there. -/
def stumpLength (first : UInt8) : List UInt8 → Nat
  | [] => 0
  | [second] => if canFollow first second then 1 else 0
  | second :: third :: _ =>
    if canFollow first second then
      if 0xF0 ≤ first && isContinuation third then 2 else 1
    else 0

/-- The characters that some bytes are read as, behind those that have been read already. -/
def charsFrom : Nat → List UInt8 → List Char
  | _, [] => []
  | skipped + 1, _ :: rest => charsFrom skipped rest
  | 0, byte :: rest =>
    match firstChar? (byte :: rest) with
    | some c => c :: charsFrom (c.utf8Size - 1) rest
    | none => replacement :: charsFrom (stumpLength byte rest) rest

@[simp] theorem charsFrom_nil (skipped : Nat) : charsFrom skipped [] = [] := by
  cases skipped <;> rfl

theorem charsFrom_of_firstChar?_eq_some {byte : UInt8} {rest : List UInt8} {c : Char}
    (h : firstChar? (byte :: rest) = some c) :
    charsFrom 0 (byte :: rest) = c :: charsFrom (c.utf8Size - 1) rest := by
  rw [charsFrom, h]

theorem charsFrom_of_firstChar?_eq_none {byte : UInt8} {rest : List UInt8}
    (h : firstChar? (byte :: rest) = none) :
    charsFrom 0 (byte :: rest) = replacement :: charsFrom (stumpLength byte rest) rest := by
  rw [charsFrom, h]

/-- The text that some bytes are read as. -/
def ofBytes (bytes : List UInt8) : String :=
  String.ofList (charsFrom 0 bytes)

@[simp] theorem ofBytes_nil : ofBytes [] = "" := rfl

end MessageCatalog.Text
