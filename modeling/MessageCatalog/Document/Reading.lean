import MessageCatalog.Document
import MessageCatalog.FileTree.Operations
import MessageCatalog.Json.Reader
import MessageCatalog.Text.Bytes

/-!
# Reading documents

A document is a text that holds one JSON object, in which objects are nested to a limited depth.
The root counts as the first level; what stands inside an array does not count, since an array is a
leaf.

## Main definitions

* `Node.ofJson?` — the node of a value, unless objects are nested too deep in it.
* `Document.ofJson`, `Document.parse`, `Document.load` — a document from a value, a text, a file.
* `DocumentError` — why something is not a document.
* `documentNameOfBytes`, `Path.documentName` — the name of the document in a file.
-/

namespace MessageCatalog

/-! ## Kinds of values -/

/-- The kinds of JSON values. -/
inductive Json.Kind where
  | null
  | boolean
  | number
  | string
  | array
  | object
  deriving DecidableEq, Repr

/-- The kind of a value. -/
def Json.kind : Json → Json.Kind
  | .null => .null
  | .boolean _ => .boolean
  | .number _ => .number
  | .string _ => .string
  | .array _ => .array
  | .object _ => .object

/-- A kind with its article. -/
def Json.Kind.describe : Json.Kind → String
  | .null => "null"
  | .boolean => "a boolean"
  | .number => "a number"
  | .string => "a string"
  | .array => "an array"
  | .object => "an object"

/-! ## From values to documents -/

/-- Why something is not a document. -/
inductive DocumentError where
  | unreadable (error : FileError)
  | malformed (fault : Json.Fault) (place : Position)
  | notAnObject (found : Json.Kind)
  | tooDeep (limit : Nat)
  deriving DecidableEq, Repr

/-- The wording of an error. -/
def DocumentError.message : DocumentError → String
  | .unreadable error => "failed to read file: " ++ error.message
  | .malformed fault place => "invalid JSON: " ++ Json.describe fault.message place
  | .notAnObject found => "root must be a JSON object, found " ++ found.describe
  | .tooDeep limit =>
    "objects are nested deeper than the maximum depth of " ++ toString limit

mutual

/-- The node of a value in which objects are nested to at most a number of levels. -/
def Node.ofJson? : Json → Nat → Option Node
  | .object members, levels =>
    match levels with
    | 0 => none
    | levels + 1 => (Node.childrenOf? members levels).map .branch
  | value, _ => some (.leaf value)

/-- The nodes of the values of some members. -/
def Node.childrenOf? : List (String × Json) → Nat → Option (List (String × Node))
  | [], _ => some []
  | (key, value) :: rest, levels =>
    match Node.ofJson? value levels, Node.childrenOf? rest levels with
    | some node, some nodes => some ((key, node) :: nodes)
    | _, _ => none

end

namespace Document

/-- The document of an object in which objects are nested to at most `maxDepth` levels. -/
def ofJson (name : String) (value : Json) (maxDepth : Nat) : Except DocumentError Document :=
  match Node.ofJson? value maxDepth with
  | some (.branch children) => .ok ⟨name, children⟩
  | some (.leaf value) => .error (.notAnObject value.kind)
  | none => .error (.tooDeep maxDepth)

/-- Reads a document from a text. -/
def parse (name content : String) (maxDepth : Nat) : Except DocumentError Document :=
  match Json.parse content with
  | .ok value => ofJson name value maxDepth
  | .error stop => .error (.malformed stop.reason (stop.position content))

end Document

/-! ## Files -/

/-- The ending of the files that hold documents. -/
def documentSuffix : List Char :=
  ".json".toList

/-- The name of the document in a file whose name is a text: the ending `.json` does not belong to
it. -/
def documentNameOf (fileName : String) : String :=
  let cs := fileName.toList
  if documentSuffix.isSuffixOf cs then String.ofList (cs.take (cs.length - documentSuffix.length))
  else fileName

/-- The name of the document in a file whose name is made of any bytes. They are read as a text
first, so files whose names are no texts can give their documents one name. -/
def documentNameOfBytes (fileName : List UInt8) : String :=
  documentNameOf (Text.ofBytes fileName)

/-- The name of the document in a file. -/
def Path.documentName (p : Path) : String :=
  documentNameOfBytes (Text.bytes (p.fileName?.getD ""))

/-- Reads the document in a file, which gives it its name. -/
def Document.load (fs : FileSystem) (p : Path) (maxDepth : Nat) : Except DocumentError Document :=
  match fs.readText p with
  | .ok content => Document.parse p.documentName content maxDepth
  | .error error => .error (.unreadable error)

end MessageCatalog
