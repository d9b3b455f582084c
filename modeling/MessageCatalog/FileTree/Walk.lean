import MessageCatalog.FileTree

/-!
# Walking a path

A path is walked from the root or from the working directory, one segment at a time. A link in the
way is replaced by its target; forty links may be followed in one walk. A slash behind the last name
asks for a directory. Names and paths have a largest length in bytes; a name that is too long is
only refused when it is looked up.

## Main definitions

* `Step` — what a segment asks for.
* `Landing` — where a walk ends: at a node, or at a free name in a directory.
* `FileNode.walk` — the walk itself.
* `FileSystem.locate` — the place of the node at a path, links followed.
* `FileSystem.locateParent` — the directory of the last segment.
* `FileSystem.lookUp` — the entry of a name in a directory.
-/

namespace MessageCatalog

/-- What a segment of a path asks for. -/
inductive Step where
  /-- The directory itself. -/
  | here
  /-- The directory above. -/
  | up
  /-- A directory, for a slash at the end of the path. -/
  | slash
  /-- An entry. -/
  | name (name : String)
  deriving DecidableEq, Repr

/-- Where a walk ends. -/
inductive Landing where
  /-- At a node. -/
  | node (place : Place)
  /-- At a name that is free in a directory. -/
  | vacant (directory : Place) (name : String)
  deriving DecidableEq, Repr

namespace Step

/-- What a segment asks for; an empty one asks for nothing. -/
def ofSegment? (segment : Path.Segment) : Option Step :=
  if segment = [] then none
  else if segment = ['.'] then some .here
  else if segment = ['.', '.'] then some .up
  else some (.name (String.ofList segment))

/-- The steps of the segments of a path. -/
def ofText (text : String) : List Step :=
  (Path.splitAtSlashes text.toList).filterMap ofSegment?

/-- The steps of a path, with one for a slash at its end. -/
def ofWholeText (text : String) : List Step :=
  ofText text ++ if text.toList.getLast? = some '/' then [.slash] else []

/-- Whether nothing but slashes follows. -/
def onlySlashes (steps : List Step) : Bool :=
  !steps.isEmpty && steps.all (· == .slash)

end Step

/-- The largest number of bytes of a path. -/
def maxPathBytes : Nat := 4095

/-- The largest number of bytes of a name. -/
def maxNameBytes : Nat := 255

/-- Whether a name is too long for an entry of a directory. -/
def isTooLong (name : String) : Bool :=
  maxNameBytes < name.utf8ByteSize

namespace Path

/-- Whether a path holds the character that no path may hold. -/
def hasNul (p : Path) : Bool :=
  p.text.toList.contains '\x00'

/-- Why a path leads nowhere in any file system, if that is so. -/
def flaw? (p : Path) : Option FileError :=
  if p.hasNul then some .nulInPath
  else if p.text = "" then some .notFound
  else if maxPathBytes < p.text.utf8ByteSize then some .nameTooLong
  else none

end Path

namespace FileNode

/-- Walks some steps from a place. A link in the way is handed to `follow`, with the place it stands
in and the steps that are left. A walk that may make a file refuses a slash behind the last name. -/
def walkWith (root : FileNode) (making : Bool)
    (follow : Place → String → List Step → Except FileError Landing) :
    Place → List Step → Except FileError Landing
  | place, [] => .ok (.node place)
  | place, step :: rest =>
    match root.get? place with
    | some (.directory entries) =>
      match step with
      | .here => walkWith root making follow place rest
      | .slash => walkWith root making follow place rest
      | .up => walkWith root making follow place.dropLast rest
      | .name name =>
        -- this is refused before the name is looked up
        if making && Step.onlySlashes rest then .error .isDirectory
        else if isTooLong name then .error .nameTooLong
        else
          match Rows.get? name entries with
          | none => if rest.isEmpty then .ok (.vacant place name) else .error .notFound
          | some (.link target) => follow place target rest
          | some _ => walkWith root making follow (place ++ [name]) rest
    | _ => .error .notDirectory

/-- Walks some steps from a place, following at most a number of links. -/
def walk (root : FileNode) (making : Bool) :
    Nat → Place → List Step → Except FileError Landing
  | 0 => walkWith root making fun _ _ _ => .error .tooManyLinks
  | links + 1 => walkWith root making fun place target rest =>
    walk root making links (if Path.isAbsolute ⟨target⟩ then [] else place)
      (Step.ofWholeText target ++ rest)

end FileNode

/-- The number of links that one walk may follow. -/
def maxLinks : Nat := 40

/-- The last segment of a path. -/
inductive LastStep where
  /-- A name, and whether a slash stands behind it. -/
  | name (name : String) (slash : Bool)
  /-- No name: the path ends at the root, in `.` or in `..`. -/
  | unnamed
  deriving DecidableEq, Repr

namespace FileSystem

/-- Where the walk of a path starts. -/
def start (fs : FileSystem) (p : Path) : Place :=
  if p.isAbsolute then [] else fs.workingDirectory

/-- Walks a path. -/
def walk (fs : FileSystem) (making : Bool) (p : Path) : Except FileError Landing :=
  match p.flaw? with
  | some e => .error e
  | none => fs.root.walk making maxLinks (fs.start p) (Step.ofWholeText p.text)

/-- The place of the node at a path, links followed. -/
def locate (fs : FileSystem) (p : Path) : Except FileError Place :=
  match fs.walk false p with
  | .ok (.node place) => .ok place
  | .ok (.vacant _ _) => .error .notFound
  | .error e => .error e

/-- The node at a path, links followed. -/
def nodeAt (fs : FileSystem) (p : Path) : Except FileError FileNode :=
  match fs.locate p with
  | .ok place =>
    match fs.root.get? place with
    | some node => .ok node
    | none => .error .notFound
  | .error e => .error e

/-- The last segment of a path. -/
def lastStep (p : Path) : LastStep :=
  match (Step.ofText p.text).getLast? with
  | some (.name name) => .name name (p.text.toList.getLast? = some '/')
  | _ => .unnamed

/-- The place of the directory that the last segment of a path stands in. -/
def locateParent (fs : FileSystem) (p : Path) : Except FileError Place :=
  match p.flaw? with
  | some e => .error e
  | none =>
    -- the step behind the others fails unless they lead to a directory
    match fs.root.walk false maxLinks (fs.start p) ((Step.ofText p.text).dropLast ++ [.here]) with
    | .ok (.node place) => .ok place
    | .ok (.vacant _ _) => .error .notFound
    | .error e => .error e

/-- The entry of a name in the directory at a place, if there is one; a link is not followed. -/
def lookUp (fs : FileSystem) (directory : Place) (name : String) :
    Except FileError (Option FileNode) :=
  if isTooLong name then .error .nameTooLong else .ok (fs.root.get? (directory ++ [name]))

end FileSystem

end MessageCatalog
