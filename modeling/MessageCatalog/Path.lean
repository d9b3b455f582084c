import MessageCatalog.Text.Literal

/-!
# File paths

A path is a text; nothing is resolved against a file system here. Slashes separate segments. Empty
segments and `.` segments are idle: they neither name anything nor stand in the way of taking the
last name off, except that a `.` at the very front is a component of its own.

## Main definitions

* `Path.join` — one path below another; an absolute path stands for itself.
* `Path.fileName?` — the last component, if it is a name.
* `Path.parent?` — the path without its last component.
* `Path.ancestors` — a path, its parent, the parent of that, and so on.
* `Path.withFileName` — another name in the same directory.
-/

namespace MessageCatalog

/-- A file path, as it is written. -/
structure Path where
  text : String
  deriving DecidableEq, Repr

namespace Path

/-- A part of a path between two slashes. -/
abbrev Segment := List Char

/-- The parts of a text between its slashes. -/
def splitAtSlashes : List Char → List Segment
  | [] => [[]]
  | c :: rest =>
    if c = '/' then [] :: splitAtSlashes rest
    else
      match splitAtSlashes rest with
      | [] => [[c]]
      | segment :: segments => (c :: segment) :: segments

/-- Segments with a slash between each two. -/
def joinSegments : List Segment → List Char
  | [] => []
  | [segment] => segment
  | segment :: segments => segment ++ '/' :: joinSegments segments

/-- What stands in front of the segments of a path. -/
inductive Lead where
  /-- A slash: the path is absolute. -/
  | root
  /-- A `.` segment. -/
  | here
  /-- Nothing. -/
  | nothing
  deriving DecidableEq, Repr

/-- Whether a path starts at the root. -/
def isAbsolute (p : Path) : Bool :=
  p.text.toList.head? == some '/'

/-- What stands in front of the segments, and the segments behind it. -/
def split (p : Path) : Lead × List Segment :=
  match p.text.toList with
  | '/' :: rest => (.root, splitAtSlashes rest)
  | cs =>
    match splitAtSlashes cs with
    | ['.'] :: segments => (.here, segments)
    | segments => (.nothing, segments)

/-- The path of some segments behind a lead. -/
def assemble (lead : Lead) (segments : List Segment) : Path :=
  match lead, segments with
  | .root, segments => ⟨String.ofList ('/' :: joinSegments segments)⟩
  | .here, [] => ⟨"."⟩
  | .here, segments => ⟨String.ofList ('.' :: '/' :: joinSegments segments)⟩
  | .nothing, segments => ⟨String.ofList (joinSegments segments)⟩

/-- Whether a segment names nothing. -/
def isIdle (segment : Segment) : Bool :=
  segment == [] || segment == ['.']

/-- The segments from the last to the first, up from the last that is not idle. -/
def fromLast (segments : List Segment) : List Segment :=
  segments.reverse.dropWhile isIdle

/-- The last component of a path, if it is a name. -/
def fileName? (p : Path) : Option String :=
  match fromLast p.split.2 with
  | [] => none
  | segment :: _ => if segment = ['.', '.'] then none else some (String.ofList segment)

/-- The path without its last component; the root and the empty path have none to take off. -/
def parent? (p : Path) : Option Path :=
  match p.split.1, fromLast p.split.2 with
  | lead, _ :: above => some (assemble lead (above.dropWhile isIdle).reverse)
  | .here, [] => some ⟨""⟩
  | _, [] => none

/-- The paths that are left when components are taken off one after the other. The segments are
given from the last to the first. -/
def parentsOf (lead : Lead) : List Segment → List Path
  | [] => if lead = .here then [⟨""⟩] else []
  | segment :: above =>
    if isIdle segment then parentsOf lead above
    else assemble lead (above.dropWhile isIdle).reverse :: parentsOf lead above

/-- A path, its parent, the parent of that, and so on. -/
def ancestors (p : Path) : List Path :=
  p :: parentsOf p.split.1 p.split.2.reverse

/-- A path below another one; an absolute path stands for itself. -/
def join (base p : Path) : Path :=
  if p.isAbsolute then p
  else if base.text = "" ∨ base.text.toList.getLast? = some '/' then ⟨base.text ++ p.text⟩
  else ⟨base.text ++ "/" ++ p.text⟩

/-- The path of another name in the same directory; a path without a name gets it below. -/
def withFileName (p : Path) (name : String) : Path :=
  match p.fileName? with
  | some _ => (p.parent?.getD p).join ⟨name⟩
  | none => p.join ⟨name⟩

/-- The path in quotes. -/
def quoted (p : Path) : String :=
  Text.literal p.text

instance : ToString Path := ⟨Path.text⟩

/-! ## Splitting and joining -/

theorem splitAtSlashes_ne_nil (cs : List Char) : splitAtSlashes cs ≠ [] := by
  cases cs with
  | nil => simp [splitAtSlashes]
  | cons c rest =>
    rw [splitAtSlashes]
    split
    · simp
    · split <;> simp

theorem joinSegments_cons {segments : List Segment} (segment : Segment) (h : segments ≠ []) :
    joinSegments (segment :: segments) = segment ++ '/' :: joinSegments segments := by
  cases segments with
  | nil => exact absurd rfl h
  | cons _ _ => rfl

theorem joinSegments_splitAtSlashes (cs : List Char) : joinSegments (splitAtSlashes cs) = cs := by
  induction cs with
  | nil => rfl
  | cons c rest ih =>
    rw [splitAtSlashes]
    split
    · next h => rw [joinSegments_cons _ (splitAtSlashes_ne_nil rest), ih, h]; rfl
    · split
      · next h => exact absurd h (splitAtSlashes_ne_nil rest)
      · next segment segments h =>
        rw [h] at ih
        cases segments with
        | nil => exact congrArg (c :: ·) ih
        | cons other others => exact congrArg (c :: ·) ih

@[simp] theorem join_of_isAbsolute {base p : Path} (h : p.isAbsolute = true) :
    base.join p = p := by
  simp [join, h]

end Path

end MessageCatalog
