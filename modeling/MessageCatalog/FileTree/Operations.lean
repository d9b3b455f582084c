import MessageCatalog.FileTree.Walk

/-!
# Operations on files

An operation that fails leaves the tree as it was, except for `createDirectories`, which may have
made some of the directories before it failed.

## Main definitions

* `FileSystem.exists?`, `isFile`, `isDirectory` — what is found at a path, links followed.
* `FileSystem.readBytes`, `readText`, `listNames` — the content of a file, and of a directory.
* `FileSystem.enter` — makes a directory the working directory.
* `FileSystem.writeFile` — gives a file new content, making it if it is not there.
* `FileSystem.createDirectory`, `createDirectories` — makes a directory, and those above it.
* `FileSystem.rename`, `removeFile`, `removeTree`, `createLink`.
* `FileSystem.listTree` — all paths below a directory.
-/

namespace MessageCatalog.FileSystem

/-! ## Looking -/

/-- Whether something is found at a path. -/
def exists? (fs : FileSystem) (p : Path) : Bool :=
  match fs.nodeAt p with
  | .ok _ => true
  | .error _ => false

/-- Whether a regular file is found at a path. -/
def isFile (fs : FileSystem) (p : Path) : Bool :=
  match fs.nodeAt p with
  | .ok node => node.isFile
  | .error _ => false

/-- Whether a directory is found at a path. -/
def isDirectory (fs : FileSystem) (p : Path) : Bool :=
  match fs.nodeAt p with
  | .ok node => node.isDirectory
  | .error _ => false

/-- The content of the file at a path. -/
def readBytes (fs : FileSystem) (p : Path) : Except FileError ByteArray :=
  match fs.nodeAt p with
  | .ok (.file content) => .ok content
  | .ok (.directory _) => .error .isDirectory
  | .ok (.link _) => .error .tooManyLinks
  | .error e => .error e

/-- The content of the file at a path as text. -/
def readText (fs : FileSystem) (p : Path) : Except FileError String :=
  match fs.readBytes p with
  | .ok content =>
    match String.fromUTF8? content with
    | some text => .ok text
    | none => .error .notUtf8
  | .error e => .error e

/-- The names of the regular files directly inside the directory at a path, in the order they were
made; links are no regular files. Nothing is found inside anything but a directory. -/
def fileNames (fs : FileSystem) (p : Path) : List String :=
  match fs.nodeAt p with
  | .ok (.directory entries) => (entries.filter fun entry => entry.2.isFile).map Prod.fst
  | _ => []

/-- The same tree with the directory at a path as the one that relative paths start from. -/
def enter (fs : FileSystem) (p : Path) : Except FileError FileSystem :=
  match fs.locate p with
  | .error e => .error e
  | .ok place =>
    if ((fs.root.get? place).map FileNode.isDirectory).getD false then
      .ok { fs with workingDirectory := place }
    else .error .notDirectory

/-! ## Changing -/

/-- The tree with a node at a place. -/
def put (fs : FileSystem) (place : Place) (node : FileNode) : FileSystem :=
  { fs with root := FileNode.put node place fs.root }

/-- The tree without the node at a place. -/
def erase (fs : FileSystem) (place : Place) : FileSystem :=
  { fs with root := FileNode.erase place fs.root }

/-- Gives the file at a path new content; a file that is not there is made, also through a link. -/
def writeFile (fs : FileSystem) (p : Path) (content : ByteArray) : Except FileError FileSystem :=
  match fs.walk true p with
  | .error e => .error e
  | .ok (.vacant directory name) => .ok (fs.put (directory ++ [name]) (.file content))
  | .ok (.node place) =>
    match fs.root.get? place with
    | some (.file _) => .ok (fs.put place (.file content))
    | _ => .error .isDirectory

/-- Makes a node at a path where nothing is, not even a link. A slash behind the last name asks for
a directory. -/
def create (fs : FileSystem) (p : Path) (node : FileNode) : Except FileError FileSystem :=
  match fs.locateParent p with
  | .error e => .error e
  | .ok directory =>
    match lastStep p with
    | .unnamed => .error .alreadyExists
    | .name name slash =>
      match fs.lookUp directory name with
      | .error e => .error e
      | .ok (some _) => .error .alreadyExists
      | .ok none =>
        if slash && !node.isDirectory then .error .notFound
        else .ok (fs.put (directory ++ [name]) node)

/-- Makes an empty directory. -/
def createDirectory (fs : FileSystem) (p : Path) : Except FileError FileSystem :=
  fs.create p (.directory [])

/-- Makes a symbolic link. Its target has to be a path, but nothing has to be found there. -/
def createLink (fs : FileSystem) (p : Path) (target : String) : Except FileError FileSystem :=
  if p.hasNul then .error .nulInPath
  else
    match Path.flaw? ⟨target⟩ with
    | some e => .error e
    | none => fs.create p (.link target)

/-- Goes up from a directory that is wanted to the first that is there or can be made. Returns the
directories that remain to be made, the outermost first. -/
def findFooting (fs : FileSystem) :
    List Path → List Path → FileSystem × Except FileError (List Path)
  | [], missing => (fs, .ok missing)
  | p :: above, missing =>
    -- the empty path is left of a relative one, and the working directory is there
    if p.text = "" then (fs, .ok missing)
    else
      match fs.createDirectory p with
      | .ok made => (made, .ok missing)
      | .error .notFound => findFooting fs above (p :: missing)
      | .error .alreadyExists =>
        if fs.isDirectory p then (fs, .ok missing) else (fs, .error .alreadyExists)
      | .error e => (fs, .error e)

/-- Makes some directories one after the other; one that is there already is left alone. -/
def createAll (fs : FileSystem) : List Path → FileSystem × Except FileError Unit
  | [] => (fs, .ok ())
  | p :: rest =>
    match fs.createDirectory p with
    | .ok made => createAll made rest
    | .error e =>
      -- a segment that names nothing asks for the same directory twice
      if e = .alreadyExists ∧ fs.isDirectory p then createAll fs rest else (fs, .error e)

/-- Makes the directory at a path and every directory above it that is missing. -/
def createDirectories (fs : FileSystem) (p : Path) : FileSystem × Except FileError Unit :=
  match fs.findFooting p.ancestors [] with
  | (fs, .ok missing) => fs.createAll missing
  | (fs, .error e) => (fs, .error e)

/-- Moves a file or link to another path, in place of a file or link that is there. -/
def rename (fs : FileSystem) (source target : Path) : Except FileError FileSystem :=
  match fs.locateParent source, fs.locateParent target with
  | .error e, _ => .error e
  | .ok _, .error e => .error e
  | .ok sourceDirectory, .ok targetDirectory =>
    match lastStep source, lastStep target with
    | .name sourceName sourceSlash, .name targetName targetSlash =>
      match fs.lookUp sourceDirectory sourceName, fs.lookUp targetDirectory targetName with
      | .error e, _ => .error e
      | .ok none, _ => .error .notFound
      | .ok (some _), .error e => .error e
      | .ok (some (.directory _)), .ok _ => .error .isDirectory
      | .ok (some node), .ok replaced =>
        if sourceSlash || targetSlash then .error .notDirectory
        else if (replaced.map FileNode.isDirectory).getD false then .error .isDirectory
        else
          .ok ((fs.erase (sourceDirectory ++ [sourceName])).put (targetDirectory ++ [targetName])
            node)
    | _, _ => .error .busy

/-- Removes a file or link. -/
def removeFile (fs : FileSystem) (p : Path) : Except FileError FileSystem :=
  match fs.locateParent p with
  | .error e => .error e
  | .ok directory =>
    match lastStep p with
    | .unnamed => .error .isDirectory
    | .name name slash =>
      match fs.lookUp directory name with
      | .error e => .error e
      | .ok none => .error .notFound
      | .ok (some (.directory _)) => .error .isDirectory
      | .ok (some _) => if slash then .error .notDirectory else .ok (fs.erase (directory ++ [name]))

/-- Removes a file or link if there is one. -/
def discard (fs : FileSystem) (p : Path) : FileSystem :=
  match fs.removeFile p with
  | .ok removed => removed
  | .error _ => fs

/-- Removes whatever is found at a path, a link itself and a directory with all it holds. -/
def removeTree (fs : FileSystem) (p : Path) : Except FileError FileSystem :=
  match fs.locateParent p with
  | .error e => .error e
  | .ok directory =>
    match lastStep p with
    | .unnamed => .error .busy
    | .name name slash =>
      match fs.lookUp directory name with
      | .error e => .error e
      | .ok none => .error .notFound
      | .ok (some node) =>
        if slash && !node.isDirectory then .error .notDirectory
        else .ok (fs.erase (directory ++ [name]))

/-! ## Listing -/

mutual

/-- The lines of a node under its path. -/
def treeLines (path : String) : FileNode → List String
  | .file _ => [path]
  | .link _ => [path ++ "@"]
  | .directory entries =>
    (path ++ "/") :: ((Rows.sorted (entryLines (path ++ "/") entries)).map Prod.snd).flatten

/-- The names of some entries with their lines. -/
def entryLines (above : String) : List (String × FileNode) → List (String × List String)
  | [] => []
  | (name, node) :: rest => (name, treeLines (above ++ name) node) :: entryLines above rest

end

/-- All paths below a directory, the entries of each directory by name, a directory with a slash
behind it and a link with an at sign. -/
def listTree (fs : FileSystem) (p : Path) : Except FileError (List String) :=
  match fs.nodeAt p with
  | .ok (.directory entries) =>
    .ok ((Rows.sorted (entryLines "" entries)).map Prod.snd).flatten
  | .ok _ => .error .notDirectory
  | .error e => .error e

end MessageCatalog.FileSystem
