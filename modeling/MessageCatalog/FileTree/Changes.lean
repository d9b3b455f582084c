import MessageCatalog.FileTree

/-!
# Changes to a file tree

What has to be done to one tree to make another one of it. Links are left as they are.

## Main definitions

* `Change` — one thing that has to be done.
* `FileNode.changes` — all that has to be done below a place, in order.
-/

namespace MessageCatalog

/-- One thing that has to be done to a file tree. -/
inductive Change where
  | makeDirectory (place : Place)
  | makeFile (place : Place) (content : ByteArray)
  | replaceFile (place : Place) (content : ByteArray)
  | remove (place : Place)
  deriving DecidableEq

namespace FileNode

/-- The entries of a node, none if it is no directory. -/
def entriesOf : Option FileNode → Rows FileNode
  | some (.directory entries) => entries
  | _ => []

/-- What has to be done where a file is wanted. -/
def fileChanges (place : Place) (content : ByteArray) : Option FileNode → List Change
  | none => [.makeFile place content]
  | some (.file old) => if old = content then [] else [.replaceFile place content]
  | some _ => [.replaceFile place content]

/-- The removal of all entries whose names are not wanted. -/
def removals (place : Place) (before after : Rows FileNode) : List Change :=
  ((Rows.names before).filter fun name => !(Rows.names after).contains name).map fun name =>
    .remove (place ++ [name])

mutual

/-- What has to be done at a place, given the node that is there and the one that is wanted. -/
def changes (place : Place) (before : Option FileNode) : FileNode → List Change
  | .file content => fileChanges place content before
  | .link _ => []
  | .directory entries =>
    (if (before.map isDirectory).getD false then [] else [.makeDirectory place]) ++
      entryChanges place (entriesOf before) entries ++ removals place (entriesOf before) entries

/-- What has to be done in a directory, given its entries and some that are wanted. -/
def entryChanges (place : Place) (before : Rows FileNode) :
    List (String × FileNode) → List Change
  | [] => []
  | (name, node) :: rest =>
    changes (place ++ [name]) (Rows.get? name before) node ++ entryChanges place before rest

end

end FileNode

end MessageCatalog
