import MessageCatalog.Constants
import MessageCatalog.Proofs.Text.Identifier
import MessageCatalog.Proofs.Text.Literal

/-!
# Reading the file of constants

A reader of the generated file. Between a fixed head and a closing brace, each line declares one
constant; the reader finds the token that is declared and the text that its literal stands for.

## Main definitions

* `Declaration` — what the line of a constant says; `Declaration.read?` — the same, read from its
  characters.
* `Declaration.entry` — the entry that a constant was declared for.
* `headLines`, `footLines` — the lines around the declarations.

## Main results

* `Declaration.read?_spelling`: the line of an entry is read back
* `lines_render_eq`, `lines_render`: the lines of a file are its head, the lines of its entries, and
  its end; an entry whose symbol is an identifier has one line
-/

namespace MessageCatalog.Constants

/-! ## The line of a constant -/

/-- What stands in front of a token. -/
def beforeToken : String :=
  "    pub const "

/-- What stands between a token and its literal. -/
def beforeLiteral : String :=
  ": &'static str = "

/-- What the line of a constant says: the token that is declared, and the text it stands for. -/
structure Declaration where
  token : String
  value : String
  deriving DecidableEq, Repr

namespace Declaration

/-- The declaration that is written for an entry. -/
def ofEntry (entry : Entry) : Declaration :=
  ⟨Text.renderIdentifier entry.symbol, entry.key⟩

/-- The entry that a constant was declared for. -/
def entry (declared : Declaration) : Entry :=
  ⟨Text.bareName declared.token, declared.value⟩

/-- The text of a line. -/
def spelling (declared : Declaration) : String :=
  beforeToken ++ declared.token ++ beforeLiteral ++ Text.literal declared.value ++ ";"

/-- Reads the line of a constant: a token, and the literal behind it, at which the line ends. -/
def read? (line : String) : Option Declaration := do
  let rest ← line.toList.dropPrefix? beforeToken.toList
  let (token, rest) ← Text.readIdentifier? rest
  let rest ← rest.dropPrefix? beforeLiteral.toList
  let (value, rest) ← Text.readLiteral? rest
  if rest = [';'] then some ⟨token, value⟩ else none

theorem entry_ofEntry {entry : Entry} (h : Text.isIdentifier entry.symbol = true) :
    (ofEntry entry).entry = entry := by
  rw [ofEntry, Declaration.entry, Text.bareName_renderIdentifier h]

/-- **The line of an entry is read back.** -/
theorem read?_spelling {entry : Entry} (h : Text.isIdentifier entry.symbol = true) :
    read? (ofEntry entry).spelling = some (ofEntry entry) := by
  have hline : (ofEntry entry).spelling.toList =
      beforeToken.toList ++ ((Text.renderIdentifier entry.symbol).toList ++
        (beforeLiteral.toList ++ ((Text.literal entry.key).toList ++ [';']))) := by
    simp only [spelling, ofEntry, String.toList_append, List.append_assoc]
    rfl
  -- the token ends at the colon
  have hcolon : (beforeLiteral.toList ++ ((Text.literal entry.key).toList ++ [';'])).head? =
      some ':' := rfl
  have hstop : Unicode.isIdentifierContinue ':' = false := by decide +kernel
  have htoken := Text.readIdentifier?_renderIdentifier h hcolon hstop (by decide)
  rw [read?, hline, Text.dropPrefix?_append]
  simp only [Option.bind_eq_bind, Option.bind_some, htoken]
  rw [Text.dropPrefix?_append, Option.bind_some, Text.readLiteral?_literal, Option.bind_some]
  exact if_pos rfl

theorem newline_not_mem_spelling {entry : Entry} (h : Text.isIdentifier entry.symbol = true) :
    '\n' ∉ (ofEntry entry).spelling.toList := by
  have htoken := Text.newline_not_mem_renderIdentifier h
  have hbefore : '\n' ∉ beforeToken.toList := by decide +kernel
  have hbetween : '\n' ∉ beforeLiteral.toList := by decide +kernel
  have hliteral : '\n' ∉ (Text.literal entry.key).toList := by
    rw [Text.toList_literal]
    exact Text.Literal.newline_not_mem_encode _
  simp only [spelling, ofEntry, String.toList_append, List.mem_append, not_or]
  exact ⟨⟨⟨⟨hbefore, htoken⟩, hbetween⟩, hliteral⟩, by decide⟩

end Declaration

/-! ## The file -/

/-- The lines in front of the declarations. -/
def headLines : List String :=
  ["// @generated by glotgen. Do not edit by hand.", "", "pub struct LocaleKeys;", "",
    "#[allow(dead_code, non_upper_case_globals)]", "impl LocaleKeys \x7b"]

/-- The lines behind the declarations; nothing stands behind the last newline. -/
def footLines : List String :=
  ["\x7d", ""]

theorem head_eq : head = Text.unlines headLines := by
  decide +kernel

theorem lines_foot : Text.lines foot = footLines := by
  decide +kernel

theorem declaration_eq (entry : Entry) :
    declaration entry = (Declaration.ofEntry entry).spelling ++ "\n" := by
  have hdeclared : declaration entry = beforeToken ++ Text.renderIdentifier entry.symbol ++
      beforeLiteral ++ Text.literal entry.key ++ (";" ++ "\n") := rfl
  rw [hdeclared, Declaration.spelling, Declaration.ofEntry, ← String.append_assoc]

/-- **The lines of a file**, whatever its entries are: its head, the lines of each entry in order,
and its end. -/
theorem lines_render_eq (entries : List Entry) :
    Text.lines (render entries) =
      headLines ++ (entries.map fun entry => (Declaration.ofEntry entry).spelling).flatMap Text.lines
        ++ footLines := by
  have hrows : String.join (entries.map declaration) =
      Text.unlines (entries.map fun entry => (Declaration.ofEntry entry).spelling) := by
    rw [Text.unlines, List.map_map, List.map_congr_left fun entry _ => declaration_eq entry]
    rfl
  have hhead : ∀ line ∈ headLines, '\n' ∉ line.toList := by decide +kernel
  rw [render, head_eq, hrows, ← Text.unlines_append, Text.lines_unlines_append_eq, lines_foot,
    List.flatMap_append, Text.flatMap_lines_eq_self hhead]

/-- Entries with identifiers for symbols have one line each. -/
theorem lines_render {entries : List Entry}
    (h : ∀ entry ∈ entries, Text.isIdentifier entry.symbol = true) :
    Text.lines (render entries) =
      headLines ++ entries.map (fun entry => (Declaration.ofEntry entry).spelling) ++
        footLines := by
  have hlines : ∀ line ∈ entries.map fun entry => (Declaration.ofEntry entry).spelling,
      '\n' ∉ line.toList := by
    intro line hline
    obtain ⟨entry, hentry, rfl⟩ := List.mem_map.mp hline
    exact Declaration.newline_not_mem_spelling (h entry hentry)
  rw [lines_render_eq, Text.flatMap_lines_eq_self hlines]

end MessageCatalog.Constants
