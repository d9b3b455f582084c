import MessageCatalog.Text.HexDigit

/-!
# Reading string literals

The reader of one string literal of the generated language: a quote, then characters and escapes up
to the closing quote. It accepts every escape of that language, so it reads more spellings than the
writer of literals produces.

## Main definitions

* `Mode` — what the reader expects inside a literal.
* `read` — reads the body of a literal up to its closing quote.
* `decode` — reads a literal at the front of a text and returns what it stands for and the rest.
-/

namespace MessageCatalog.Text.LiteralReader

/-- What the reader expects next inside a literal. -/
inductive Mode where
  /-- A character, an escape or the closing quote. -/
  | plain
  /-- The character after a backslash. -/
  | escape
  /-- The first digit of a two-digit escape. -/
  | highDigit
  /-- The second digit of a two-digit escape. -/
  | lowDigit (high : Nat)
  /-- The brace that opens a code point. -/
  | openBrace
  /-- Digits of a code point, given what they denote so far and how many there were. -/
  | code (value digits : Nat)
  /-- Blank space after a backslash at the end of a line. -/
  | continued
  deriving DecidableEq, Repr

/-- The character with a code point, if there is one. -/
def charOfCode? (code : Nat) : Option Char :=
  if code.isValidChar then some (Char.ofNat code) else none

/-- The character that a one-letter escape stands for. -/
def simpleEscape? (c : Char) : Option Char :=
  if c = 'n' then some '\n'
  else if c = 'r' then some '\r'
  else if c = 't' then some '\t'
  else if c = '0' then some '\x00'
  else if c = '\\' then some '\\'
  else if c = '"' then some '"'
  else if c = '\'' then some '\''
  else none

/-- Puts a character in front of the text that was read. -/
def cons (c : Char) (read : Option (List Char × List Char)) : Option (List Char × List Char) :=
  read.map fun (text, rest) => (c :: text, rest)

/-- Reads the body of a literal up to its closing quote, and returns what it stands for and what
follows the quote. -/
def read : Mode → List Char → Option (List Char × List Char)
  | _, [] => none
  | .plain, c :: rest =>
    if c = '"' then some ([], rest)
    else if c = '\\' then read .escape rest
    else if c = '\r' then none
    else cons c (read .plain rest)
  | .escape, c :: rest =>
    if c = 'u' then read .openBrace rest
    else if c = 'x' then read .highDigit rest
    else if c = '\n' then read .continued rest
    else match simpleEscape? c with
      | some d => cons d (read .plain rest)
      | none => none
  | .highDigit, c :: rest =>
    match hexValue? c with
    | some high => if high < 8 then read (.lowDigit high) rest else none
    | none => none
  | .lowDigit high, c :: rest =>
    match hexValue? c with
    | some low => cons (Char.ofNat (16 * high + low)) (read .plain rest)
    | none => none
  | .openBrace, c :: rest => if c = '{' then read (.code 0 0) rest else none
  | .code value digits, c :: rest =>
    if c = '}' then
      if digits = 0 then none
      else match charOfCode? value with
        | some d => cons d (read .plain rest)
        | none => none
    else if c = '_' then
      if digits = 0 then none else read (.code value digits) rest
    else match hexValue? c with
      | some digit =>
        if digits < 6 then read (.code (16 * value + digit) (digits + 1)) rest else none
      | none => none
  | .continued, c :: rest =>
    if c = ' ' ∨ c = '\t' ∨ c = '\n' ∨ c = '\r' then read .continued rest
    else if c = '"' then some ([], rest)
    else if c = '\\' then read .escape rest
    else cons c (read .plain rest)

/-- Reads one literal at the front of a text: what it stands for, and the text after it. -/
def decode : List Char → Option (List Char × List Char)
  | [] => none
  | c :: rest => if c = '"' then read .plain rest else none

end MessageCatalog.Text.LiteralReader
