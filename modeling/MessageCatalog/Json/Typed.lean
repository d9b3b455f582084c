import MessageCatalog.Json.Reader
import MessageCatalog.Text.Literal

/-!
# JSON values of a wanted type

A reader that wants a value of one type reads no other. A scalar of another type is read to its end
before it is refused, so that what is wrong inside it is reported first; a list or an object is
refused at its bracket.

## Main definitions

* `Json.Found`, `Json.Wanted` — what stands in a place, and what should stand there.
* `Json.TypeFault` — why no value of the wanted type is read.
* `Json.readString`, `readOptionalString`, `readFlag`, `readNatural` — the readers.
-/

namespace MessageCatalog.Json

/-- What stands in a place. -/
inductive Found where
  | null
  | boolean (value : Bool)
  | number (value : Number)
  | string (value : String)
  | sequence
  | map
  deriving DecidableEq, Repr

/-- The description of what stands in a place. -/
def Found.describe : Found → String
  | .null => "null"
  | .boolean true => "boolean `true`"
  | .boolean false => "boolean `false`"
  | .number (.real x) => "floating point `" ++ x.render ++ "`"
  | .number n => "integer `" ++ n.render ++ "`"
  | .string value => "string " ++ Text.literal value
  | .sequence => "sequence"
  | .map => "map"

/-- What should stand in a place. -/
inductive Wanted where
  | text
  | flag
  | natural
  | record (name : String)
  deriving DecidableEq, Repr

/-- The description of what should stand in a place. -/
def Wanted.describe : Wanted → String
  | .text => "a string"
  | .flag => "a boolean"
  | .natural => "usize"
  | .record name => "struct " ++ name

/-- Why no value of the wanted type is read. -/
inductive TypeFault where
  | json (fault : Fault)
  | wrongType (found : Found) (wanted : Wanted)
  | outOfRange (found : Found) (wanted : Wanted)
  deriving DecidableEq, Repr

/-- The wording of a fault. -/
def TypeFault.message : TypeFault → String
  | .json fault => fault.message
  | .wrongType found wanted =>
    "invalid type: " ++ found.describe ++ ", expected " ++ wanted.describe
  | .outOfRange found wanted =>
    "invalid value: " ++ found.describe ++ ", expected " ++ wanted.describe

/-- A step of the untyped reader inside a typed one. -/
def lift {α : Type} : Except (Stop Fault) α → Except (Stop TypeFault) α
  | .ok result => .ok result
  | .error stop => .error (stop.map .json)

/-- Refuses what was read, in front of what is left. -/
def refuseRead (wanted : Wanted) : Read Fault Found → Stop TypeFault
  | .ok (found, rest) => .before (.wrongType found wanted) rest
  | .error stop => stop.map .json

/-- Refuses the value at the front of a text because it is of another type than the wanted one. -/
def refuse (wanted : Wanted) (cs : List Char) : Stop TypeFault :=
  match skipBlank cs with
  | [] => .before (.json .endOfValue) []
  | c :: rest =>
    if c = 'n' then
      refuseRead wanted ((readWord ['u', 'l', 'l'] rest).map fun rest => (.null, rest))
    else if c = 't' then
      refuseRead wanted ((readWord ['r', 'u', 'e'] rest).map fun rest => (.boolean true, rest))
    else if c = 'f' then
      refuseRead wanted ((readWord ['a', 'l', 's', 'e'] rest).map fun rest =>
        (.boolean false, rest))
    else if c = '-' then refuseRead wanted (Read.map .number (readNumber true rest))
    else if c.isDigit then refuseRead wanted (Read.map .number (readNumber false (c :: rest)))
    else if c = '"' then
      refuseRead wanted (Read.map (fun text => .string (String.ofList text)) (readText rest))
    else if c = '[' then .before (.wrongType .sequence wanted) (c :: rest)
    else if c = '{' then .before (.wrongType .map wanted) (c :: rest)
    else .behind (.json .expectedValue) (c :: rest)

/-- Reads a text. -/
def readString (cs : List Char) : Read TypeFault String :=
  match skipBlank cs with
  | '"' :: rest => lift (Read.map String.ofList (readText rest))
  | cs => .error (refuse .text cs)

/-- Reads a text, or `null` for none. -/
def readOptionalString (cs : List Char) : Read TypeFault (Option String) :=
  match skipBlank cs with
  | 'n' :: rest => lift ((readWord ['u', 'l', 'l'] rest).map fun rest => (none, rest))
  | cs => Read.map some (readString cs)

/-- Reads a truth value. -/
def readFlag (cs : List Char) : Read TypeFault Bool :=
  match skipBlank cs with
  | 't' :: rest => lift ((readWord ['r', 'u', 'e'] rest).map fun rest => (true, rest))
  | 'f' :: rest => lift ((readWord ['a', 'l', 's', 'e'] rest).map fun rest => (false, rest))
  | cs => .error (refuse .flag cs)

/-- Accepts a number that counts something. -/
def asNatural : Read Fault Number → Read TypeFault Nat
  | .ok (.natural n, rest) => .ok (n, rest)
  | .ok (.negative n, rest) => .error (.before (.outOfRange (.number (.negative n)) .natural) rest)
  | .ok (.real x, rest) => .error (.before (.wrongType (.number (.real x)) .natural) rest)
  | .error stop => .error (stop.map .json)

/-- Reads a number that counts something. -/
def readNatural (cs : List Char) : Read TypeFault Nat :=
  match skipBlank cs with
  | [] => .error (refuse .natural [])
  | c :: rest =>
    if c = '-' then asNatural (readNumber true rest)
    else if c.isDigit then asNatural (readNumber false (c :: rest))
    else .error (refuse .natural (c :: rest))

end MessageCatalog.Json
