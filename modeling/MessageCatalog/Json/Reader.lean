import MessageCatalog.Json.Numeral
import MessageCatalog.Json.Punctuation

/-!
# Reading JSON values

A value is read by descent. Lists and objects may be open to a depth of 127 at a time. The fuel of
the readers bounds their nesting in calls; twice the length of the text is always enough, since two
calls in a row take a character.

## Main definitions

* `Json.readValue` — reads one value and returns what is left.
* `Json.parse` — reads a text that holds one value.
-/

namespace MessageCatalog.Json

/-- The number of lists and objects that may be open at a time. -/
def maxOpen : Nat := 127

/-- A reader's result with its value changed. -/
def Read.map {ε α β : Type} (f : α → β) : Read ε α → Read ε β
  | .ok (value, rest) => .ok (f value, rest)
  | .error stop => .error stop

mutual

/-- Reads one value; `depth` more lists and objects may be opened. -/
def readValue : Nat → Nat → List Char → Read Fault Json
  | 0, _, cs => .error (.before .endOfValue cs)
  | fuel + 1, depth, cs =>
    match skipBlank cs with
    | [] => .error (.before .endOfValue [])
    | c :: rest =>
      if c = 'n' then (readWord ['u', 'l', 'l'] rest).map fun rest => (.null, rest)
      else if c = 't' then (readWord ['r', 'u', 'e'] rest).map fun rest => (.boolean true, rest)
      else if c = 'f' then
        (readWord ['a', 'l', 's', 'e'] rest).map fun rest => (.boolean false, rest)
      else if c = '-' then Read.map .number (readNumber true rest)
      else if c.isDigit then Read.map .number (readNumber false (c :: rest))
      else if c = '"' then Read.map (fun text => .string (String.ofList text)) (readText rest)
      else if c = '[' then
        match depth with
        | 0 => .error (.behind .nestedTooDeep (c :: rest))
        | depth + 1 => Read.map .array (readElements fuel depth true rest)
      else if c = '{' then
        match depth with
        | 0 => .error (.behind .nestedTooDeep (c :: rest))
        | depth + 1 =>
          Read.map (fun written => .object (membersOf written)) (readMembers fuel depth true rest)
      else .error (.behind .expectedValue (c :: rest))

/-- Reads the elements of a list and its closing bracket. -/
def readElements : Nat → Nat → Bool → List Char → Read Fault (List Json)
  | 0, _, _, cs => .error (.before .endOfList cs)
  | fuel + 1, depth, isFirst, cs =>
    match nextElement? isFirst cs with
    | .error stop => .error stop
    | .ok none => (closeList cs).map fun rest => ([], rest)
    | .ok (some rest) =>
      match readValue fuel depth rest with
      | .error stop => .error stop
      | .ok (value, rest) => Read.map (value :: ·) (readElements fuel depth false rest)

/-- Reads the members of an object, as they are written, and its closing bracket. -/
def readMembers : Nat → Nat → Bool → List Char → Read Fault (List (String × Json))
  | 0, _, _, cs => .error (.before .endOfObject cs)
  | fuel + 1, depth, isFirst, cs =>
    match nextName? isFirst cs with
    | .error stop => .error stop
    | .ok none => (closeObject cs).map fun rest => ([], rest)
    | .ok (some (name, rest)) =>
      match readColon rest with
      | .error stop => .error stop
      | .ok rest =>
        match readValue fuel depth rest with
        | .error stop => .error stop
        | .ok (value, rest) => Read.map ((name, value) :: ·) (readMembers fuel depth false rest)

end

/-- The fuel that is enough for a text. -/
def fuelFor (cs : List Char) : Nat :=
  2 * cs.length + 2

/-- Reads a text that holds one value and nothing else but blanks. -/
def parse (text : String) : Except (Stop Fault) Json :=
  match readValue (fuelFor text.toList) maxOpen text.toList with
  | .error stop => .error stop
  | .ok (value, rest) => (readEnd rest).map fun _ => value

end MessageCatalog.Json
