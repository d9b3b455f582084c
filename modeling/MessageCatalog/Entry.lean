import MessageCatalog.Document

/-!
# Entries

Every key of a document has a dotted key, which spells out the way to it from the root, and a
symbol, which is what the generated constant is called. In a symbol the way to the key is written
with underscores, and the key itself as it is.

## Main definitions

* `Entry` — a symbol with its dotted key.
* `symbolName`, `dottedKey` — the two names of a key below a parent.
* `resolve` — all keys of a tree with their nodes, every key behind the keys below it.
* `Document.flatten` — the entries of a document.
-/

namespace MessageCatalog

/-- A character of a dotted key as it is written in a symbol. -/
def underscoreChar (c : Char) : Char :=
  if c = '.' then '_' else c

/-- A dotted key with its dots written as underscores. -/
def underscored (key : String) : String :=
  String.ofList (key.toList.map underscoreChar)

/-- The name of a constant and the dotted key it stands for. -/
structure Entry where
  symbol : String
  key : String
  deriving DecidableEq, Repr

/-- The dotted key of a key below a parent, which is given by its own dotted key. -/
def dottedKey (parent : Option String) (key : String) : String :=
  match parent with
  | some parent => parent ++ "." ++ key
  | none => key

/-- The symbol of a key below a parent, which is given by its dotted key. -/
def symbolName (parent : Option String) (key : String) : String :=
  match parent with
  | some parent => underscored parent ++ "_" ++ key
  | none => key

/-- The entry of a key below a parent. -/
def Entry.ofKey (parent : Option String) (key : String) : Entry :=
  ⟨symbolName parent key, dottedKey parent key⟩

mutual

/-- The entries of a node and of all nodes below it, its own entry last. -/
def resolveNode (parent : Option String) (key : String) : Node → List (Entry × Node)
  | .leaf value => [(Entry.ofKey parent key, .leaf value)]
  | .branch children =>
    resolve (some (dottedKey parent key)) children ++ [(Entry.ofKey parent key, .branch children)]

/-- The entries of some keys below a parent, each behind the entries below it. -/
def resolve (parent : Option String) : List (String × Node) → List (Entry × Node)
  | [] => []
  | (key, node) :: rest => resolveNode parent key node ++ resolve parent rest

end

/-- Every key of a document with its entry and its node. -/
def Document.resolved (document : Document) : List (Entry × Node) :=
  resolve none document.children

/-- The entries of a document, without those of branches if `skipBranches` is set. -/
def Document.flatten (document : Document) (skipBranches : Bool) : List Entry :=
  (document.resolved.filter fun (_, node) => !(skipBranches && node.isBranch)).map Prod.fst

@[simp] theorem resolve_nil (parent : Option String) : resolve parent [] = [] := by
  rw [resolve]

@[simp] theorem resolve_cons (parent : Option String) (key : String) (node : Node)
    (rest : List (String × Node)) :
    resolve parent ((key, node) :: rest) =
      resolveNode parent key node ++ resolve parent rest := by
  rw [resolve]

@[simp] theorem resolveNode_leaf (parent : Option String) (key : String) (value : Json) :
    resolveNode parent key (.leaf value) = [(Entry.ofKey parent key, .leaf value)] := by
  rw [resolveNode]

@[simp] theorem resolveNode_branch (parent : Option String) (key : String)
    (children : List (String × Node)) :
    resolveNode parent key (.branch children) =
      resolve (some (dottedKey parent key)) children ++
        [(Entry.ofKey parent key, .branch children)] := by
  rw [resolveNode]

end MessageCatalog
