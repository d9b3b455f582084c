import MessageCatalog.Unicode.Combining
import MessageCatalog.Unicode.Invisible

/-!
# Quoted string literals

A text is written as one string literal of the generated language. The quote, the backslash and the
four common controls have two-character escapes; a character that combines with the one before it
or leaves no mark is written by its code point; every other character stands for itself.

## Main definitions

* `encodeChar` — the spelling of one character inside a literal.
* `encode` — the characters of a literal, quotes included.
* `Text.literal` — the literal as a string.
-/

namespace MessageCatalog.Text

namespace Literal

open Unicode (isCombining isInvisible)

/-- The escape that names a character by its code point. -/
def codeEscape (c : Char) : List Char :=
  ['\\', 'u', '{'] ++ Nat.toDigits 16 c.toNat ++ ['}']

/-- The spelling of a character inside a literal. -/
def encodeChar (c : Char) : List Char :=
  if c = '\x00' then ['\\', '0']
  else if c = '\t' then ['\\', 't']
  else if c = '\r' then ['\\', 'r']
  else if c = '\n' then ['\\', 'n']
  else if c = '\\' then ['\\', '\\']
  else if c = '"' then ['\\', '"']
  else if isCombining c || isInvisible c then codeEscape c
  else [c]

/-- The spelling of a text between the quotes of a literal. -/
def encodeBody (s : List Char) : List Char :=
  s.flatMap encodeChar

/-- The characters of a literal, quotes included. -/
def encode (s : List Char) : List Char :=
  '"' :: encodeBody s ++ ['"']

@[simp] theorem encodeBody_nil : encodeBody [] = [] := rfl

@[simp] theorem encodeBody_cons (c : Char) (s : List Char) :
    encodeBody (c :: s) = encodeChar c ++ encodeBody s := by
  simp [encodeBody]

end Literal

/-- The string literal of a text. -/
def literal (s : String) : String :=
  String.ofList (Literal.encode s.toList)

@[simp] theorem toList_literal (s : String) : (literal s).toList = Literal.encode s.toList := by
  simp [literal]

end MessageCatalog.Text
