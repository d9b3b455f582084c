import MessageCatalog.Json
import MessageCatalog.Json.Fault
import MessageCatalog.Number.Shortest

/-!
# JSON numbers

Digits are gathered into a significand as long as it stays below `2 ^ 64`. Whole numbers that fit
are kept as they are; minus zero, larger numbers and all with a fraction or an exponent become
floating-point numbers. Digits of the whole part that no longer fit raise the decimal exponent, and
digits of the fraction that no longer fit are dropped.

## Main definitions

* `Json.Number.render` — the text of a number.
* `Json.readNumber` — reads a number behind its sign.
* `Json.skipNumber` — the same for a number whose value is not needed, of any size.
-/

namespace MessageCatalog.Json

/-- The text of a number. -/
def Number.render : Number → String
  | .natural n => toString n
  | .negative n => "-" ++ toString n
  | .real x => x.render

/-- The largest significand. -/
def maxSignificand : Nat := Nat.pow 2 64 - 1

/-- The largest exponent that is read as a number. -/
def maxWrittenExponent : Nat := Nat.pow 2 31 - 1

/-- The value of a digit. -/
def digitValue (c : Char) : Nat :=
  c.toNat - '0'.toNat

/-- Whether the text goes on with a digit. -/
def startsWithDigit : List Char → Bool
  | [] => false
  | c :: _ => c.isDigit

/-- Appends digits to a significand up to the first one that would take it past the largest; returns
it with the number of digits taken and what is left. -/
def gather (significand count : Nat) : List Char → Nat × Nat × List Char
  | [] => (significand, count, [])
  | c :: rest =>
    if c.isDigit ∧ significand * 10 + digitValue c ≤ maxSignificand then
      gather (significand * 10 + digitValue c) (count + 1) rest
    else (significand, count, c :: rest)

/-- A floating-point number from its decimal parts. -/
def realOf (negative : Bool) (significand : Nat) (exponent : Int) (rest : List Char) :
    Read Fault Number :=
  match Binary64.ofDecimal significand exponent with
  | some x => .ok (.real { x with negative := negative }, rest)
  | none => .error (.before .numberOutOfRange rest)

/-- The digits of an exponent after the first one: its value and what is left, or, where it is past
the largest, what is left behind the digit that took it there. -/
def exponentDigits (exponent : Nat) : List Char → Except (List Char) (Nat × List Char)
  | [] => .ok (exponent, [])
  | c :: rest =>
    if c.isDigit then
      if exponent * 10 + digitValue c ≤ maxWrittenExponent then
        exponentDigits (exponent * 10 + digitValue c) rest
      else .error rest
    else .ok (exponent, c :: rest)

/-- Reads an exponent behind its letter. One past the largest makes zero of every number if it is
negative, and leaves only zero in range if it is positive. -/
def readExponent (negative : Bool) (significand : Nat) (exponent : Int) (cs : List Char) :
    Read Fault Number :=
  let (down, cs) : Bool × List Char :=
    match cs with
    | c :: rest => if c = '+' then (false, rest) else if c = '-' then (true, rest) else (false, cs)
    | [] => (false, [])
  match cs with
  | [] => .error (.before .endOfValue [])
  | c :: rest =>
    if c.isDigit then
      match exponentDigits (digitValue c) rest with
      | .ok (written, rest) =>
        realOf negative significand (if down then exponent - written else exponent + written) rest
      | .error rest =>
        if significand ≠ 0 ∧ !down then .error (.before .numberOutOfRange rest)
        else .ok (.real (Binary64.zero negative), rest.dropWhile Char.isDigit)
    else .error (.behind .invalidNumber (c :: rest))

/-- Reads what may follow the digits of a floating-point number: an exponent, or nothing. -/
def readScale (negative : Bool) (significand : Nat) (exponent : Int) (cs : List Char) :
    Read Fault Number :=
  match cs with
  | c :: rest =>
    if c = 'e' ∨ c = 'E' then readExponent negative significand exponent rest
    else realOf negative significand exponent cs
  | [] => realOf negative significand exponent cs

/-- Reads a fraction behind its point. -/
def readFraction (negative : Bool) (significand : Nat) (exponent : Int) (cs : List Char) :
    Read Fault Number :=
  let (significand, count, rest) := gather significand 0 cs
  -- digits are left only where the next one would not fit
  if startsWithDigit rest then
    readScale negative significand (exponent - count) (rest.dropWhile Char.isDigit)
  else if count = 0 then
    .error (.behind (if rest.isEmpty then .endOfValue else .invalidNumber) rest)
  else readScale negative significand (exponent - count) rest

/-- The number of a significand that stands alone. -/
def wholeNumber (negative : Bool) (significand : Nat) (rest : List Char) : Read Fault Number :=
  if !negative then .ok (.natural significand, rest)
  -- there is no whole number for minus zero
  else if 0 < significand ∧ significand ≤ Nat.pow 2 63 then .ok (.negative significand, rest)
  else realOf true significand 0 rest

/-- Reads what follows a whole part that fits. -/
def readTail (negative : Bool) (significand : Nat) (cs : List Char) : Read Fault Number :=
  match cs with
  | c :: rest =>
    if c = '.' then readFraction negative significand 0 rest
    else if c = 'e' ∨ c = 'E' then readExponent negative significand 0 rest
    else wholeNumber negative significand cs
  | [] => wholeNumber negative significand cs

/-- Reads what follows a significand that the next digit would take past the largest. -/
def readLong (negative : Bool) (significand : Nat) (cs : List Char) : Read Fault Number :=
  let rest := cs.dropWhile Char.isDigit
  let exponent : Int := cs.length - rest.length
  match rest with
  | c :: tail =>
    if c = '.' then readFraction negative significand exponent tail
    else readScale negative significand exponent rest
  | [] => readScale negative significand exponent rest

/-- Reads a number behind its sign. -/
def readNumber (negative : Bool) (cs : List Char) : Read Fault Number :=
  match cs with
  | [] => .error (.before .endOfValue [])
  | c :: rest =>
    if c = '0' then
      if startsWithDigit rest then .error (.behind .invalidNumber rest)
      else readTail negative 0 rest
    else if c.isDigit then
      let (significand, _, rest) := gather (digitValue c) 0 rest
      if startsWithDigit rest then readLong negative significand rest
      else readTail negative significand rest
    else .error (.behind .invalidNumber cs)

/-! ## Skipping -/

/-- Skips an exponent behind its letter. -/
def skipExponent (cs : List Char) : Except (Stop Fault) (List Char) :=
  let cs := match cs with
    | c :: rest => if c = '+' ∨ c = '-' then rest else cs
    | [] => []
  if startsWithDigit cs then .ok (cs.dropWhile Char.isDigit)
  else .error (.behind .invalidNumber cs)

/-- Skips an exponent, if there is one. -/
def skipScale (cs : List Char) : Except (Stop Fault) (List Char) :=
  match cs with
  | c :: rest => if c = 'e' ∨ c = 'E' then skipExponent rest else .ok cs
  | [] => .ok cs

/-- Skips a fraction and an exponent, if there are any. -/
def skipTail (cs : List Char) : Except (Stop Fault) (List Char) :=
  match cs with
  | c :: rest =>
    if c = '.' then
      if startsWithDigit rest then skipScale (rest.dropWhile Char.isDigit)
      else .error (.behind .invalidNumber rest)
    else skipScale cs
  | [] => .ok []

/-- Skips a number behind its sign. -/
def skipNumber (cs : List Char) : Except (Stop Fault) (List Char) :=
  match cs with
  | [] => .error (.before .invalidNumber [])
  | c :: rest =>
    if c = '0' then
      if startsWithDigit rest then .error (.behind .invalidNumber rest) else skipTail rest
    else if c.isDigit then skipTail (rest.dropWhile Char.isDigit)
    else .error (.behind .invalidNumber cs)

end MessageCatalog.Json
