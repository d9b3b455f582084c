import MessageCatalog.Path
import MessageCatalog.Rows

/-!
# Trees of files

A file system is a value: a tree of directories, files and symbolic links, and the directory that
relative paths start from. A place is the list of names from the root down to a node.

Three things that a system may have are left out. Names and paths are texts, so a name that is not
UTF-8 is in no tree. Nothing is forbidden and no device fails, so what is found can be read and
listed. And a file has one name: there are symbolic links, but no two entries for one file.

## Main definitions

* `FileNode` — a file, a link or a directory with its entries in the order they were made.
* `FileNode.get?`, `FileNode.put`, `FileNode.erase` — the node at a place, and the tree with another
  node there or none.
* `FileSystem` — a tree with a working directory.
* `FileError` — why an operation on files fails.
-/

namespace MessageCatalog

/-- Why an operation on files fails. -/
inductive FileError where
  | notFound
  | alreadyExists
  | isDirectory
  | notDirectory
  | busy
  | tooManyLinks
  | nameTooLong
  | nulInPath
  | notUtf8
  deriving DecidableEq, Repr

/-- The wording of a failure. -/
def FileError.message : FileError → String
  | .notFound => "No such file or directory (os error 2)"
  | .alreadyExists => "File exists (os error 17)"
  | .isDirectory => "Is a directory (os error 21)"
  | .notDirectory => "Not a directory (os error 20)"
  | .busy => "Device or resource busy (os error 16)"
  | .tooManyLinks => "Too many levels of symbolic links (os error 40)"
  | .nameTooLong => "File name too long (os error 36)"
  | .nulInPath => "file name contained an unexpected NUL byte"
  | .notUtf8 => "stream did not contain valid UTF-8"

/-- Contents are compared as arrays of bytes, whichever instances are in sight. -/
instance (priority := high) decidableEqContent : DecidableEq ByteArray := ByteArray.instDecidableEq

/-- A node of a file tree. -/
inductive FileNode where
  | file (content : ByteArray)
  | link (target : String)
  | directory (entries : List (String × FileNode))

/-- The names from the root down to a node. -/
abbrev Place := List String

/-- The path of a place. -/
def Place.toPath (place : Place) : Path :=
  ⟨"/" ++ "/".intercalate place⟩

namespace FileNode

/-- Whether a node is a directory. -/
def isDirectory : FileNode → Bool
  | .directory _ => true
  | _ => false

/-- Whether a node is a regular file. -/
def isFile : FileNode → Bool
  | .file _ => true
  | _ => false

/-- The node at a place. -/
def get? : FileNode → Place → Option FileNode
  | node, [] => some node
  | .directory entries, name :: rest =>
    match Rows.get? name entries with
    | some child => child.get? rest
    | none => none
  | _, _ :: _ => none

/-- The tree with a node at a place, whose parent is there. -/
def put (new : FileNode) : Place → FileNode → FileNode
  | [], _ => new
  | [name], .directory entries => .directory (Rows.set name new entries)
  | name :: rest, .directory entries =>
    match Rows.get? name entries with
    | some child => .directory (Rows.set name (put new rest child) entries)
    | none => .directory entries
  | _ :: _, node => node

/-- The tree without the node at a place other than the root. -/
def erase : Place → FileNode → FileNode
  | [], node => node
  | [name], .directory entries => .directory (Rows.remove name entries)
  | name :: rest, .directory entries =>
    match Rows.get? name entries with
    | some child => .directory (Rows.set name (erase rest child) entries)
    | none => .directory entries
  | _ :: _, node => node

/-! ## What the operations do to the view `get?` -/

@[simp] theorem get?_nil (node : FileNode) : node.get? [] = some node := by
  cases node <;> rfl

@[simp] theorem get?_directory_cons (entries : List (String × FileNode)) (name : String)
    (rest : Place) :
    (directory entries).get? (name :: rest) =
      (Rows.get? name entries).bind fun child => child.get? rest := by
  rw [get?]
  cases Rows.get? name entries <;> rfl

@[simp] theorem get?_file_cons (content : ByteArray) (name : String) (rest : Place) :
    (file content).get? (name :: rest) = none := rfl

@[simp] theorem get?_link_cons (target : String) (name : String) (rest : Place) :
    (link target).get? (name :: rest) = none := rfl

end FileNode

/-- A tree of files and the directory that relative paths start from. -/
structure FileSystem where
  root : FileNode
  workingDirectory : Place

end MessageCatalog
