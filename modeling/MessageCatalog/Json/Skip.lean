import MessageCatalog.Json.Reader

/-!
# Skipping JSON values

A value that is not needed is only checked for its shape: numbers may have any size, strings may
hold lone surrogates, and lists and objects may be nested to any depth. A comma in front of a
closing bracket is reported as the missing element or name.

## Main definitions

* `Json.skipValue` — skips one value and returns what is left.
-/

namespace MessageCatalog.Json

/-- Skips a name behind the blanks in front of it, and the colon. -/
def skipName (cs : List Char) : Except (Stop Fault) (List Char) :=
  match skipBlank cs with
  | [] => .error (.before .endOfObject [])
  | c :: rest =>
    if c = '"' then
      match skipText rest with
      | .error stop => .error stop
      | .ok rest => readColon rest
    else .error (.behind .keyNotString (c :: rest))

mutual

/-- Skips one value. -/
def skipValue : Nat → List Char → Except (Stop Fault) (List Char)
  | 0, cs => .error (.before .endOfValue cs)
  | fuel + 1, cs =>
    match skipBlank cs with
    | [] => .error (.before .endOfValue [])
    | c :: rest =>
      if c = 'n' then readWord ['u', 'l', 'l'] rest
      else if c = 't' then readWord ['r', 'u', 'e'] rest
      else if c = 'f' then readWord ['a', 'l', 's', 'e'] rest
      else if c = '-' then skipNumber rest
      else if c.isDigit then skipNumber (c :: rest)
      else if c = '"' then skipText rest
      else if c = '[' then
        match skipBlank rest with
        | [] => .error (.before .endOfList [])
        | d :: tail => if d = ']' then .ok tail else skipElements fuel (d :: tail)
      else if c = '{' then
        match skipBlank rest with
        | [] => .error (.before .endOfObject [])
        | d :: tail => if d = '}' then .ok tail else skipMembers fuel (d :: tail)
      else .error (.behind .expectedValue (c :: rest))

/-- Skips an element of a list, and what follows it up to the closing bracket. -/
def skipElements : Nat → List Char → Except (Stop Fault) (List Char)
  | 0, cs => .error (.before .endOfList cs)
  | fuel + 1, cs =>
    match skipValue fuel cs with
    | .error stop => .error stop
    | .ok rest =>
      match skipBlank rest with
      | [] => .error (.before .endOfList [])
      | c :: rest =>
        if c = ',' then skipElements fuel rest
        else if c = ']' then .ok rest
        else .error (.behind .expectedListComma (c :: rest))

/-- Skips a member of an object, and what follows it up to the closing bracket. -/
def skipMembers : Nat → List Char → Except (Stop Fault) (List Char)
  | 0, cs => .error (.before .endOfObject cs)
  | fuel + 1, cs =>
    match skipName cs with
    | .error stop => .error stop
    | .ok rest =>
      match skipValue fuel rest with
      | .error stop => .error stop
      | .ok rest =>
        match skipBlank rest with
        | [] => .error (.before .endOfObject [])
        | c :: rest =>
          if c = ',' then skipMembers fuel rest
          else if c = '}' then .ok rest
          else .error (.behind .expectedObjectComma (c :: rest))

end

end MessageCatalog.Json
