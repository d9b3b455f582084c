import MessageCatalog.Json.Fault
import MessageCatalog.Text.HexDigit

/-!
# JSON strings

The reader starts behind the opening quote. A code unit is written with four hexadecimal digits, and
two units of a surrogate pair stand for one character.

## Main definitions

* `Json.escape` — the spelling of a character inside a string.
* `Json.quote` — the characters of a string, quotes included.
* `Json.readText` — reads a string behind its opening quote.
* `Json.skipText` — the same for a string whose value is not needed; it lets lone surrogates pass.
-/

namespace MessageCatalog.Json

/-! ## Writing -/

/-- The spelling of a character inside a string. -/
def escape (c : Char) : List Char :=
  if c = '"' then ['\\', '"']
  else if c = '\\' then ['\\', '\\']
  else if c = '\x08' then ['\\', 'b']
  else if c = '\x0c' then ['\\', 'f']
  else if c = '\n' then ['\\', 'n']
  else if c = '\r' then ['\\', 'r']
  else if c = '\t' then ['\\', 't']
  else if c.toNat < 0x20 then
    ['\\', 'u', '0', '0', Nat.digitChar (c.toNat / 16), Nat.digitChar (c.toNat % 16)]
  else [c]

/-- The characters of a string, quotes included. -/
def quote (s : String) : List Char :=
  '"' :: s.toList.flatMap escape ++ ['"']

/-! ## Reading -/

/-- The character that a one-letter escape stands for. -/
def unescape? (c : Char) : Option Char :=
  if c = '"' then some '"'
  else if c = '\\' then some '\\'
  else if c = '/' then some '/'
  else if c = 'b' then some '\x08'
  else if c = 'f' then some '\x0c'
  else if c = 'n' then some '\n'
  else if c = 'r' then some '\r'
  else if c = 't' then some '\t'
  else none

/-- The code unit of four hexadecimal digits. -/
def codeUnit? (a b c d : Char) : Option Nat := do
  let a ← Text.hexValue? a
  let b ← Text.hexValue? b
  let c ← Text.hexValue? c
  let d ← Text.hexValue? d
  return ((a * 16 + b) * 16 + c) * 16 + d

/-- Whether a code unit opens a surrogate pair. -/
def isHighSurrogate (unit : Nat) : Bool :=
  decide (0xD800 ≤ unit ∧ unit ≤ 0xDBFF)

/-- Whether a code unit closes a surrogate pair. -/
def isLowSurrogate (unit : Nat) : Bool :=
  decide (0xDC00 ≤ unit ∧ unit ≤ 0xDFFF)

/-- The character of a surrogate pair. -/
def ofSurrogates (high low : Nat) : Char :=
  Char.ofNat (0x10000 + (high - 0xD800) * 0x400 + (low - 0xDC00))

/-- The stop for fewer than four digits: four bytes are taken at once, so too few of them end the
text, and enough of them are no digits. -/
def noCodeUnit (rest : List Char) : Stop Fault :=
  if Stop.byteLength rest < 4 then .before .endOfString [] else ⟨.invalidEscape, rest, 4⟩

/-- Puts a character in front of the text that is read. -/
def consText (c : Char) (read : Read Fault (List Char)) : Read Fault (List Char) :=
  match read with
  | .ok (text, rest) => .ok (c :: text, rest)
  | .error stop => .error stop

/-- Reads a string behind its opening quote. -/
def readText : List Char → Read Fault (List Char)
  | [] => .error (.before .endOfString [])
  | c :: rest =>
    if c = '"' then .ok ([], rest)
    else if c = '\\' then
      match rest with
      | [] => .error (.before .endOfString [])
      | e :: rest =>
        if e = 'u' then
          match rest with
          | h₁ :: h₂ :: h₃ :: h₄ :: tail =>
            match codeUnit? h₁ h₂ h₃ h₄ with
            | none => .error (noCodeUnit rest)
            | some unit =>
              if isLowSurrogate unit then .error (.before .loneSurrogate tail)
              else if isHighSurrogate unit then
                -- the other half has to follow at once, in the same spelling
                match tail with
                | [] => .error (.before .endOfString [])
                | b :: rest =>
                  if b = '\\' then
                    match rest with
                    | [] => .error (.before .endOfString [])
                    | u :: rest =>
                      if u = 'u' then
                        match rest with
                        | l₁ :: l₂ :: l₃ :: l₄ :: tail =>
                          match codeUnit? l₁ l₂ l₃ l₄ with
                          | none => .error (noCodeUnit rest)
                          | some low =>
                            if isLowSurrogate low then
                              consText (ofSurrogates unit low) (readText tail)
                            else .error (.before .loneSurrogate tail)
                        | _ => .error (noCodeUnit rest)
                      else .error (.behind .endOfHexEscape (u :: rest))
                  else .error (.behind .endOfHexEscape (b :: rest))
              else consText (Char.ofNat unit) (readText tail)
          | _ => .error (noCodeUnit rest)
        else
          match unescape? e with
          | some d => consText d (readText rest)
          | none => .error (.behind .invalidEscape (e :: rest))
    else if c.toNat < 0x20 then .error (.behind .controlCharacter (c :: rest))
    else consText c (readText rest)

/-- Skips a string behind its opening quote; a code unit only has to have its four digits. -/
def skipText : List Char → Except (Stop Fault) (List Char)
  | [] => .error (.before .endOfString [])
  | c :: rest =>
    if c = '"' then .ok rest
    else if c = '\\' then
      match rest with
      | [] => .error (.before .endOfString [])
      | e :: rest =>
        if e = 'u' then
          match rest with
          | h₁ :: h₂ :: h₃ :: h₄ :: tail =>
            match codeUnit? h₁ h₂ h₃ h₄ with
            | none => .error (noCodeUnit rest)
            | some _ => skipText tail
          | _ => .error (noCodeUnit rest)
        else
          match unescape? e with
          | some _ => skipText rest
          | none => .error (.behind .invalidEscape (e :: rest))
    else if c.toNat < 0x20 then .error (.before .controlCharacter (c :: rest))
    else skipText rest

end MessageCatalog.Json
