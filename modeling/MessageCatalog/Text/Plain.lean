/-!
# Plain text

A text may hold escape sequences, which a terminal obeys and does not show. Such a sequence begins
with an escape character; what follows it decides where the sequence ends. The plain text is what is
left when sequences, and control characters other than blank ones, are taken out.

A sequence that is not finished reaches up to the next escape character, which begins another one.
Blank control characters break off the short kinds of sequences and are kept.

## Main definitions

* `Phase` — which part of a sequence is read.
* `Phase.next` — the part that follows a character, and whether that character is kept.
* `Text.plain` — a text without its sequences.
-/

namespace MessageCatalog.Text

/-- Which part of a text with escape sequences is read. -/
inductive Phase where
  /-- Characters that are shown. -/
  | shown
  /-- What follows an escape character. -/
  | escape
  /-- The end of a sequence that names a character set or the like. -/
  | designation
  /-- The parameters of a control sequence, up to its final letter. -/
  | control
  /-- The start of a device control string. -/
  | deviceStart
  /-- The parameters of a device control string. -/
  | deviceParameters
  /-- What stands between the parameters and the final letter of a device control string. -/
  | deviceIntermediate
  /-- A command to the operating system, up to a bell. -/
  | command
  /-- A string that only a terminator ends. -/
  | string
  deriving DecidableEq, Repr

/-- Whether a character is a control character that leaves blank space. -/
def isBlankControl (c : Char) : Bool :=
  c = '\t' || c = '\n' || c = '\x0c' || c = '\r'

/-- Whether a character is shown outside all sequences. -/
def isShown (c : Char) : Bool :=
  isBlankControl c || (decide (' ' ≤ c) && c != '\x7f')

/-- Whether the terminator of strings, a single byte, occurs in the encoding of a character. -/
def hasTerminator (c : Char) : Bool :=
  (String.utf8EncodeChar c).contains 0x9C

namespace Phase

/-- What follows an escape character and one more character. -/
def afterEscape (c : Char) : Phase :=
  if c < ' ' then .escape
  else if c ≤ '/' then .designation
  else if c = '[' then .control
  else if c = ']' then .command
  else if c = 'P' then .deviceStart
  else if c = 'X' ∨ c = '^' ∨ c = '_' then .string
  else if c ≤ '~' then .shown
  else .escape

/-- The part that follows the start of a device control string, or its parameters if there are any,
and one more character. -/
def afterDevice (phase : Phase) (c : Char) : Phase :=
  if c < ' ' then phase
  else if c ≤ '/' then .deviceIntermediate
  else if c ≤ ';' then .deviceParameters
  else if c ≤ '?' then if phase = .deviceStart then .deviceParameters else .string
  else if c ≤ '~' then .string
  else phase

/-- The part that follows a character, given the part it stands in; cancelling characters and the
escape character count in every part. -/
def after (phase : Phase) (c : Char) : Phase :=
  if c = '\x18' ∨ c = '\x1a' then .shown
  else if c = '\x1b' then .escape
  else
    match phase with
    | .shown => .shown
    | .escape => afterEscape c
    | .designation => if '0' ≤ c ∧ c ≤ '~' then .shown else .designation
    | .control => if '@' ≤ c ∧ c ≤ '~' then .shown else .control
    | .deviceStart => afterDevice .deviceStart c
    | .deviceParameters => afterDevice .deviceParameters c
    | .deviceIntermediate =>
      if '0' ≤ c ∧ c ≤ '~' then .string else .deviceIntermediate
    | .command => if c = '\x07' then .shown else .command
    | .string => if hasTerminator c then .shown else .string

/-- Whether a character that stands in some part is kept. -/
def keeps : Phase → Char → Bool
  | .shown, c => isShown c
  | .escape, c | .designation, c | .control, c => isBlankControl c
  | _, _ => false

/-- The part that follows a character, and whether that character is kept. -/
def next (phase : Phase) (c : Char) : Phase × Bool :=
  if phase.keeps c then (.shown, true) else (phase.after c, false)

end Phase

/-- The characters of a text that are kept, given the part that is read. -/
def plainChars : Phase → List Char → List Char
  | _, [] => []
  | phase, c :: rest =>
    match phase.next c with
    | (phase, true) => c :: plainChars phase rest
    | (phase, false) => plainChars phase rest

/-- A text without escape sequences and without control characters other than blank ones. -/
def plain (text : String) : String :=
  String.ofList (plainChars .shown text.toList)

example : plain "a\x1b[1;31mb\x1b[0m\x07c" = "abc" := by cbv

end MessageCatalog.Text
