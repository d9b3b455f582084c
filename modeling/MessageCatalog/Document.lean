import MessageCatalog.Json.Writer
import MessageCatalog.Rows

/-!
# Message documents

A document holds the messages of one locale. Its keys form a tree: a branch has keys of its own, and
every value that is no object is a leaf, arrays included.

## Main definitions

* `Node` — a branch or a leaf.
* `Node.toJson` — the value that a node was made from.
* `Node.displayValue` — the message of a node.
* `Document` — a named tree of keys; `Document.keyCount` is the number of its keys.
-/

namespace MessageCatalog

/-- A node of a document. -/
inductive Node where
  /-- An object: its keys with their nodes. -/
  | branch (children : List (String × Node))
  /-- Any other value. -/
  | leaf (value : Json)

namespace Node

/-- Whether a node is a branch. -/
def isBranch : Node → Bool
  | .branch _ => true
  | .leaf _ => false

mutual

/-- The value that a node was made from. -/
def toJson : Node → Json
  | .branch children => .object (membersToJson children)
  | .leaf value => value

/-- The values of some keys. -/
def membersToJson : List (String × Node) → List (String × Json)
  | [] => []
  | (key, node) :: rest => (key, toJson node) :: membersToJson rest

end

/-- The message of a node: the text itself for a text, and JSON without blanks for all else. -/
def displayValue : Node → String
  | .leaf (.string text) => text
  | node => node.toJson.compact

mutual

/-- The number of keys below a node. -/
def keyCount : Node → Nat
  | .branch children => keyCountOf children
  | .leaf _ => 0

/-- The number of some keys and of all keys below them. -/
def keyCountOf : List (String × Node) → Nat
  | [] => 0
  | (_, node) :: rest => 1 + keyCount node + keyCountOf rest

end

@[simp] theorem displayValue_string (text : String) :
    (leaf (.string text)).displayValue = text := rfl

@[simp] theorem displayValue_branch (children : List (String × Node)) :
    (branch children).displayValue = (branch children).toJson.compact := rfl

end Node

/-- The messages of one locale. -/
structure Document where
  name : String
  children : List (String × Node)

/-- The number of keys at every depth. -/
def Document.keyCount (document : Document) : Nat :=
  Node.keyCountOf document.children

end MessageCatalog
