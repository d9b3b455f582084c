import MessageCatalog.Json.Text

/-!
# JSON punctuation

What stands between the values of a list or an object, and the three words.

## Main definitions

* `Json.skipBlank` — drops blanks.
* `Json.readWord` — the rest of a word behind its first letter.
* `Json.nextElement?`, `Json.nextName?` — the way to the next element or to the value behind the
  next name, up to the closing bracket.
* `Json.readColon` — the colon between a name and its value.
* `Json.closeList`, `Json.closeObject` — the closing bracket.
-/

namespace MessageCatalog.Json

/-- Whether a character may stand between two tokens. -/
def isBlank (c : Char) : Bool :=
  c == ' ' || c == '\n' || c == '\t' || c == '\r'

/-- The text behind its blanks. -/
def skipBlank (cs : List Char) : List Char :=
  cs.dropWhile isBlank

/-- Reads the rest of a word behind its first letter. -/
def readWord : List Char → List Char → Except (Stop Fault) (List Char)
  | [], cs => .ok cs
  | _ :: _, [] => .error (.before .endOfValue [])
  | expected :: word, c :: rest =>
    if c = expected then readWord word rest else .error (.behind .expectedWord (c :: rest))

/-- The way to the next element of a list: the text at that element, or `none` where the list
ends. -/
def nextElement? (isFirst : Bool) (cs : List Char) :
    Except (Stop Fault) (Option (List Char)) :=
  match skipBlank cs with
  | [] => .error (.before .endOfList [])
  | c :: rest =>
    if c = ']' then .ok none
    else if isFirst then .ok (some (c :: rest))
    else if c = ',' then
      match skipBlank rest with
      | [] => .error (.before .endOfValue [])
      | d :: tail =>
        if d = ']' then .error (.behind .trailingComma (d :: tail)) else .ok (some (d :: tail))
    else .error (.behind .expectedListComma (c :: rest))

/-- Reads a name behind its opening quote. -/
def readName (cs : List Char) : Except (Stop Fault) (Option (String × List Char)) :=
  match readText cs with
  | .ok (name, rest) => .ok (some (String.ofList name, rest))
  | .error stop => .error stop

/-- The way to the next member of an object: its name and the text behind it, or `none` where the
object ends. -/
def nextName? (isFirst : Bool) (cs : List Char) :
    Except (Stop Fault) (Option (String × List Char)) :=
  match skipBlank cs with
  | [] => .error (.before .endOfObject [])
  | c :: rest =>
    if c = '}' then .ok none
    else if isFirst then
      if c = '"' then readName rest else .error (.behind .keyNotString (c :: rest))
    else if c = ',' then
      match skipBlank rest with
      | [] => .error (.before .endOfValue [])
      | d :: tail =>
        if d = '"' then readName tail
        else if d = '}' then .error (.behind .trailingComma (d :: tail))
        else .error (.behind .keyNotString (d :: tail))
    else .error (.behind .expectedObjectComma (c :: rest))

/-- Reads the colon between a name and its value. -/
def readColon (cs : List Char) : Except (Stop Fault) (List Char) :=
  match skipBlank cs with
  | [] => .error (.before .endOfObject [])
  | c :: rest => if c = ':' then .ok rest else .error (.behind .expectedColon (c :: rest))

/-- Reads the bracket that closes a list. -/
def closeList (cs : List Char) : Except (Stop Fault) (List Char) :=
  match skipBlank cs with
  | [] => .error (.before .endOfList [])
  | c :: rest =>
    if c = ']' then .ok rest
    else if c = ',' then
      match skipBlank rest with
      | d :: tail =>
        .error (.behind (if d = ']' then .trailingComma else .trailingCharacters) (d :: tail))
      | [] => .error (.before .trailingCharacters [])
    else .error (.behind .trailingCharacters (c :: rest))

/-- Reads the bracket that closes an object. -/
def closeObject (cs : List Char) : Except (Stop Fault) (List Char) :=
  match skipBlank cs with
  | [] => .error (.before .endOfObject [])
  | c :: rest =>
    if c = '}' then .ok rest
    else if c = ',' then .error (.behind .trailingComma (c :: rest))
    else .error (.behind .trailingCharacters (c :: rest))

/-- Accepts nothing but blanks. -/
def readEnd (cs : List Char) : Except (Stop Fault) Unit :=
  match skipBlank cs with
  | [] => .ok ()
  | c :: rest => .error (.behind .trailingCharacters (c :: rest))

end MessageCatalog.Json
