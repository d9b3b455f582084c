import MessageCatalog.Number.Binary64

/-!
# The shortest decimal of a floating-point number

Of the decimals that round to a given number, the one with the fewest digits is written; of several
with the fewest digits, the one nearest to the number.

## Main definitions

* `Decimal` — digits and a power of ten.
* `Binary64.shortest` — the shortest decimal that reads back as the number.
* `Decimal.render` — positional where the leading digit stands for `10 ^ -5` up to `10 ^ 15`, and
  scientific elsewhere.
* `Binary64.render` — the text of a number.
-/

namespace MessageCatalog

/-- The decimal `digits * 10 ^ exponent`. -/
structure Decimal where
  digits : Nat
  exponent : Int
  deriving DecidableEq, Repr

namespace Decimal

/-- The same decimal without zeros at the end of its digits; the fuel bounds their number. -/
def stripZeros : Nat → Decimal → Decimal
  | 0, d => d
  | fuel + 1, d =>
    if d.digits ≠ 0 ∧ d.digits % 10 = 0 then stripZeros fuel ⟨d.digits / 10, d.exponent + 1⟩ else d

end Decimal

namespace Binary64

/-- The reals that round to a positive number, in units of a quarter of its last place, which is
`2 ^ (exponent - 2)`. Below a power of two the next number is half as far away. -/
def interval (x : Binary64) : Nat × Nat :=
  let centre := 4 * x.significand
  let below := if x.significand = Nat.pow 2 52 ∧ minExponent < x.exponent then 1 else 2
  (centre - below, centre + 2)

/-- The exponent of the leading decimal digit of a positive fraction. -/
def leadingExponent (num den : Nat) : Int :=
  let guess : Int := ((Nat.toDigits 10 num).length : Int) - (Nat.toDigits 10 den).length
  -- the numbers of digits fix the exponent up to one
  let reached : Bool :=
    if 0 ≤ guess then decide (den * Nat.pow 10 guess.toNat ≤ num)
    else decide (den ≤ num * Nat.pow 10 (-guess).toNat)
  if reached then guess else guess - 1

/-- The quarter of the last place of a number over a power of ten, as a fraction. -/
def quarterOver (x : Binary64) (power : Int) : Nat × Nat :=
  let (n, d) := inUnits 1 1 (2 - x.exponent)
  if 0 ≤ power then (n, d * Nat.pow 10 power.toNat) else (n * Nat.pow 10 (-power).toNat, d)

/-- The multiple of `10 ^ power` that rounds to a positive number: of its two neighbours on that
grid the nearer one, if it lies in the interval, or else the other. -/
def onGrid? (x : Binary64) (power : Int) : Option Nat :=
  let (n, d) := x.quarterOver power
  let (low, high) := x.interval
  let centre := 4 * x.significand * n
  let inside (c : Nat) : Bool :=
    if x.significand % 2 = 0 then decide (low * n ≤ c * d ∧ c * d ≤ high * n)
    else decide (low * n < c * d ∧ c * d < high * n)
  let nearest := roundDiv centre d
  let floor := centre / d
  let other := if nearest = floor then floor + 1 else floor
  if inside nearest then some nearest
  else if inside other then some other
  else none

/-- The first grid with a point that rounds to a positive number, from coarse to fine. -/
def searchGrids (x : Binary64) : Nat → Int → Decimal
  | 0, power =>
    -- a grid of seventeen digits always has a point
    ⟨roundDiv (4 * x.significand * (x.quarterOver power).1) (x.quarterOver power).2, power⟩
  | fuel + 1, power =>
    match x.onGrid? power with
    | some digits => ⟨digits, power⟩
    | none => searchGrids x fuel (power - 1)

/-- The shortest decimal that rounds to the size of a number. -/
def shortest (x : Binary64) : Decimal :=
  if x.isZero then ⟨0, 0⟩
  else (x.searchGrids 17 (leadingExponent x.ratio.1 x.ratio.2)).stripZeros 20

end Binary64

namespace Decimal

/-- A number of zeros. -/
def zeros (count : Int) : String :=
  String.ofList (List.replicate count.toNat '0')

/-- The text of a decimal: positional with at least one digit after the point where the leading
digit stands for `10 ^ -5` up to `10 ^ 15`, and scientific with a signed exponent elsewhere. -/
def render (d : Decimal) : String :=
  let digits := Nat.toDigits 10 d.digits
  let leading : Int := d.exponent + digits.length - 1
  if d.digits = 0 then "0.0"
  else if 0 ≤ d.exponent ∧ leading ≤ 15 then
    String.ofList digits ++ zeros d.exponent ++ ".0"
  else if 0 ≤ leading ∧ leading ≤ 15 then
    String.ofList (digits.take (leading.toNat + 1)) ++ "." ++
      String.ofList (digits.drop (leading.toNat + 1))
  else if -5 ≤ leading ∧ leading < 0 then
    "0." ++ zeros (-leading - 1) ++ String.ofList digits
  else
    let fraction := String.ofList (digits.drop 1)
    String.ofList (digits.take 1) ++ (if fraction.isEmpty then "" else "." ++ fraction) ++ "e" ++
      (if leading < 0 then "-" else "+") ++ toString leading.natAbs

end Decimal

/-- The text of a floating-point number: its shortest decimal, with a minus for the sign. -/
def Binary64.render (x : Binary64) : String :=
  (if x.negative then "-" else "") ++ x.shortest.render

end MessageCatalog
