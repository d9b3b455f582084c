import MessageCatalog.Json.Numeral
import MessageCatalog.Json.Text

/-!
# Writing JSON values

## Main definitions

* `Json.compact` — a value without blanks.
* `Json.indented` — a value with one element or member on a line, indented by two spaces a level.
-/

namespace MessageCatalog.Json

mutual

/-- The characters of a value without blanks. -/
def compactChars : Json → List Char
  | .null => ['n', 'u', 'l', 'l']
  | .boolean true => ['t', 'r', 'u', 'e']
  | .boolean false => ['f', 'a', 'l', 's', 'e']
  | .number n => n.render.toList
  | .string s => quote s
  | .array elements => '[' :: compactElements elements
  | .object members => '{' :: compactMembers members

/-- The characters of the elements of a list, with its closing bracket. -/
def compactElements : List Json → List Char
  | [] => [']']
  | [value] => compactChars value ++ [']']
  | value :: rest => compactChars value ++ ',' :: compactElements rest

/-- The characters of the members of an object, with its closing bracket. -/
def compactMembers : List (String × Json) → List Char
  | [] => ['}']
  | [(name, value)] => quote name ++ ':' :: compactChars value ++ ['}']
  | (name, value) :: rest => quote name ++ ':' :: compactChars value ++ ',' :: compactMembers rest

end

/-- A value without blanks. -/
def compact (value : Json) : String :=
  String.ofList (compactChars value)

/-- The start of a line at a level of nesting. -/
def newLine (level : Nat) : List Char :=
  '\n' :: List.replicate (2 * level) ' '

mutual

/-- The characters of a value with one element or member on a line. -/
def indentedChars (level : Nat) : Json → List Char
  | .array [] => ['[', ']']
  | .array elements => '[' :: indentedElements level elements
  | .object [] => ['{', '}']
  | .object members => '{' :: indentedMembers level members
  | .null => ['n', 'u', 'l', 'l']
  | .boolean true => ['t', 'r', 'u', 'e']
  | .boolean false => ['f', 'a', 'l', 's', 'e']
  | .number n => n.render.toList
  | .string s => quote s

/-- The lines of the elements of a list, with its closing bracket. -/
def indentedElements (level : Nat) : List Json → List Char
  | [] => newLine level ++ [']']
  | [value] => newLine (level + 1) ++ indentedChars (level + 1) value ++ newLine level ++ [']']
  | value :: rest =>
    newLine (level + 1) ++ indentedChars (level + 1) value ++ ',' :: indentedElements level rest

/-- The lines of the members of an object, with its closing bracket. -/
def indentedMembers (level : Nat) : List (String × Json) → List Char
  | [] => newLine level ++ ['}']
  | [(name, value)] =>
    newLine (level + 1) ++ quote name ++ ':' :: ' ' :: indentedChars (level + 1) value ++
      newLine level ++ ['}']
  | (name, value) :: rest =>
    newLine (level + 1) ++ quote name ++ ':' :: ' ' :: indentedChars (level + 1) value ++
      ',' :: indentedMembers level rest

end

/-- A value with one element or member on a line. -/
def indented (value : Json) : String :=
  String.ofList (indentedChars 0 value)

end MessageCatalog.Json
