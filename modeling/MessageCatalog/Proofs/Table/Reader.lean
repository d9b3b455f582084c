import MessageCatalog.Proofs.Text.Lines
import MessageCatalog.Proofs.Text.Literal
import MessageCatalog.Table.Render

/-!
# Reading the file of messages

A reader of the generated file. It finds the lines of the table, tells from the brackets and the
literals of each line what it says, and puts the rows of the locales together again. Where the table
starts cannot be told from the front, since the path that is imported may hold any characters, lines
that look like a table included; but no line of a table looks like the start of one.

## Main definitions

* `Line` — what a line of the table says; `Line.read?` — the same, read from its characters.
* `localesOf?` — the locales that some lines hold.
* `read?` — the table in the text of a file.

## Main results

* `Line.read?_spelling`: a line is read back, whatever its literals stand for
* `localesOf?_linesOf`: the lines of a table hold its locales
* `read?_render`: the table of a file is read back, so two tables never make the same file
-/

namespace MessageCatalog.Table

/-! ## The lines of the table -/

/-- What a line of the table says. -/
inductive Line where
  /-- A message of the locale that is open. -/
  | message (symbol value : String)
  /-- A locale without messages. -/
  | emptyLocale (name : String)
  /-- The start of a locale that has messages. -/
  | openLocale (name : String)
  /-- The end of the locale that is open. -/
  | closeLocale
  deriving DecidableEq, Repr

namespace Line

/-- The text of a line. -/
def spelling : Line → String
  | .message symbol value =>
    "        (" ++ Text.literal symbol ++ ", " ++ Text.literal value ++ "),"
  | .emptyLocale name => "    (" ++ Text.literal name ++ ", &[]),"
  | .openLocale name => "    (" ++ Text.literal name ++ ", &["
  | .closeLocale => "    ]),"

/-- Reads a message behind its opening bracket. -/
def readMessage? (cells : List Char) : Option Line := do
  let (symbol, rest) ← Text.readLiteral? cells
  let rest ← rest.dropPrefix? ", ".toList
  let (value, rest) ← Text.readLiteral? rest
  if rest = "),".toList then some (.message symbol value) else none

/-- Reads the first line of a locale behind its opening bracket. -/
def readLocale? (cells : List Char) : Option Line := do
  let (name, rest) ← Text.readLiteral? cells
  if rest = ", &[]),".toList then some (.emptyLocale name)
  else if rest = ", &[".toList then some (.openLocale name)
  else none

/-- Reads a line of the table: the depth of its bracket tells a message from a locale. -/
def read? (line : String) : Option Line :=
  if line = "    ])," then some .closeLocale
  else
    match line.toList.dropPrefix? "        (".toList with
    | some cells => readMessage? cells
    | none => (line.toList.dropPrefix? "    (".toList).bind readLocale?

theorem readMessage?_literals (symbol value : String) :
    readMessage? ((Text.literal symbol).toList ++
      (", ".toList ++ ((Text.literal value).toList ++ "),".toList))) =
        some (.message symbol value) := by
  rw [readMessage?, Text.readLiteral?_literal]
  simp only [Option.bind_eq_bind, Option.bind_some]
  rw [Text.dropPrefix?_append, Option.bind_some, Text.readLiteral?_literal, Option.bind_some,
    if_pos rfl]

theorem readLocale?_empty (name : String) :
    readLocale? ((Text.literal name).toList ++ ", &[]),".toList) = some (.emptyLocale name) := by
  rw [readLocale?, Text.readLiteral?_literal]
  rfl

theorem readLocale?_open (name : String) :
    readLocale? ((Text.literal name).toList ++ ", &[".toList) = some (.openLocale name) := by
  rw [readLocale?, Text.readLiteral?_literal]
  rfl

theorem read?_message {line : String} {cells : List Char}
    (h : line.toList = "        (".toList ++ cells) : read? line = readMessage? cells := by
  have hclose : line ≠ "    ])," := by
    rintro rfl
    simp at h
  rw [read?, if_neg hclose, h, Text.dropPrefix?_append]

theorem read?_locale {line : String} {cells : List Char}
    (h : line.toList = "    (".toList ++ cells) : read? line = readLocale? cells := by
  have hclose : line ≠ "    ])," := by
    rintro rfl
    simp at h
  have hdepth : ("    (".toList ++ cells).dropPrefix? "        (".toList = none := by
    simp [List.dropPrefix?]
  rw [read?, if_neg hclose, h, hdepth]
  simp only [Text.dropPrefix?_append, Option.bind_some]

/-- **A line is read back**, whatever its literals stand for. -/
theorem read?_spelling (line : Line) : read? line.spelling = some line := by
  cases line with
  | message symbol value =>
    rw [← readMessage?_literals symbol value]
    apply read?_message
    simp only [spelling, String.toList_append, List.append_assoc]
  | emptyLocale name =>
    rw [← readLocale?_empty name]
    apply read?_locale
    simp only [spelling, String.toList_append, List.append_assoc]
  | openLocale name =>
    rw [← readLocale?_open name]
    apply read?_locale
    simp only [spelling, String.toList_append, List.append_assoc]
  | closeLocale => rfl

theorem head?_spelling (line : Line) : line.spelling.toList.head? = some ' ' := by
  cases line with
  | message symbol value => simp [spelling]
  | emptyLocale name => simp [spelling]
  | openLocale name => simp [spelling]
  | closeLocale => rfl

theorem newline_not_mem_spelling (line : Line) : '\n' ∉ line.spelling.toList := by
  cases line with
  | message symbol value => simp [spelling, Text.Literal.newline_not_mem_encode]
  | emptyLocale name => simp [spelling, Text.Literal.newline_not_mem_encode]
  | openLocale name => simp [spelling, Text.Literal.newline_not_mem_encode]
  | closeLocale => decide

end Line

/-! ## The locales of some lines -/

/-- The lines of a locale. -/
def linesOfLocale (locale : String × Messages) : List Line :=
  if locale.2.isEmpty then [.emptyLocale locale.1]
  else
    .openLocale locale.1 :: locale.2.map (fun row => .message row.1 row.2) ++ [.closeLocale]

/-- The lines of a table. -/
def linesOf (table : Table) : List Line :=
  table.flatMap linesOfLocale

mutual

/-- The locales that some lines hold. -/
def localesOf? : List Line → Option Table
  | [] => some []
  | .emptyLocale name :: rest => (localesOf? rest).map fun table => (name, []) :: table
  | .openLocale name :: rest =>
    (messagesOf? rest).map fun (messages, table) => (name, messages) :: table
  | .message _ _ :: _ => none
  | .closeLocale :: _ => none

/-- The messages that some lines hold of the locale that is open, and the locales behind it. -/
def messagesOf? : List Line → Option (Messages × Table)
  | [] => none
  | .message symbol value :: rest =>
    (messagesOf? rest).map fun (messages, table) => ((symbol, value) :: messages, table)
  | .closeLocale :: rest => (localesOf? rest).map fun table => ([], table)
  | .emptyLocale _ :: _ => none
  | .openLocale _ :: _ => none

end

theorem messagesOf?_append (messages : Messages) (rest : List Line) :
    messagesOf? (messages.map (fun row => .message row.1 row.2) ++ .closeLocale :: rest) =
      (localesOf? rest).map fun table => (messages, table) := by
  induction messages with
  | nil => rw [List.map_nil, List.nil_append, messagesOf?]
  | cons row messages ih =>
    rw [List.map_cons, List.cons_append, messagesOf?, ih, Option.map_map]
    rfl

theorem localesOf?_locale (locale : String × Messages) (rest : List Line) :
    localesOf? (linesOfLocale locale ++ rest) =
      (localesOf? rest).map fun table => locale :: table := by
  obtain ⟨name, messages⟩ := locale
  by_cases hempty : messages.isEmpty = true
  · rw [linesOfLocale, if_pos hempty, List.singleton_append, localesOf?,
      List.isEmpty_iff.mp hempty]
  · rw [linesOfLocale, if_neg hempty, List.cons_append, List.cons_append, List.append_assoc,
      localesOf?, List.singleton_append, messagesOf?_append, Option.map_map]
    rfl

/-- **The lines of a table hold its locales.** -/
theorem localesOf?_linesOf (table : Table) : localesOf? (linesOf table) = some table := by
  induction table with
  | nil => rfl
  | cons locale table ih =>
    rw [linesOf, List.flatMap_cons, localesOf?_locale]
    exact congrArg _ ih

/-! ## The text of the table -/

theorem renderRow_eq (row : String × String) :
    renderRow row = (Line.message row.1 row.2).spelling ++ "\n" := by
  have hend : "),\n" = ")," ++ "\n" := rfl
  simp only [renderRow, Line.spelling, hend, String.append_assoc]

/-- The text of a locale is its lines. -/
theorem renderLocale_eq (locale : String × Messages) :
    renderLocale locale = Text.unlines ((linesOfLocale locale).map Line.spelling) := by
  by_cases hempty : locale.2.isEmpty = true
  · have hend : ", &[]),\n" = ", &[])," ++ "\n" := rfl
    rw [renderLocale, if_pos hempty, linesOfLocale, if_pos hempty, List.map_singleton,
      Text.unlines_cons, Text.unlines_nil, String.append_empty, Line.spelling, hend,
      ← String.append_assoc]
  · have hopen : ", &[\n" = ", &[" ++ "\n" := rfl
    have hclose : "    ]),\n" = Text.unlines [Line.closeLocale.spelling] := rfl
    have hrows : String.join (locale.2.map renderRow) =
        Text.unlines ((locale.2.map fun row => Line.message row.1 row.2).map Line.spelling) := by
      rw [Text.unlines, List.map_map, List.map_map,
        List.map_congr_left fun row _ => renderRow_eq row]
      rfl
    rw [renderLocale, if_neg hempty, linesOfLocale, if_neg hempty, List.map_append,
      List.map_cons, Text.unlines_append, Text.unlines_cons, List.map_singleton, hrows, hopen,
      hclose, Line.spelling, ← String.append_assoc]

/-- The text of the rows is the lines of the table. -/
theorem join_renderLocale (table : Table) :
    String.join (table.map renderLocale) = Text.unlines ((linesOf table).map Line.spelling) := by
  induction table with
  | nil => rfl
  | cons locale table ih =>
    rw [linesOf, List.flatMap_cons, List.map_append, Text.unlines_append, ← renderLocale_eq,
      List.map_cons, String.join_cons, ih]
    rfl

/-! ## The file -/

/-- The line in front of the table. -/
def firstLine : String :=
  "pub static LOCALES: &[(&str, Messages)] = &["

/-- The line behind the table. -/
def lastLine : String :=
  "];"

/-- The table in the text of a file: what stands between the last line that starts a table and the
next one that ends it. -/
def read? (text : String) : Option Table := do
  let behind := Text.behindLast firstLine (Text.lines text)
  let found ← (behind.takeWhile fun line => line ≠ lastLine).mapM Line.read?
  localesOf? found

/-- The lines from the end of the table on. -/
def footLines : List String :=
  [lastLine, "", "pub struct CodegenLoader;", "", "impl TranslationProvider for CodegenLoader \x7b",
    "    fn locales(&self) -> &'static [(&'static str, Messages)] \x7b", "        LOCALES",
    "    \x7d", "\x7d"]

theorem foot_eq : foot = Text.unlines footLines := by
  decide +kernel

theorem lines_foot : Text.lines foot = footLines ++ [""] := by
  have hlines : ∀ line ∈ footLines, '\n' ∉ line.toList := by decide +kernel
  have h := Text.lines_unlines_append hlines ""
  rw [String.append_empty] at h
  rw [foot_eq, h]
  rfl

theorem firstLine_not_mem_foot : firstLine ∉ footLines ++ [""] := by
  decide +kernel

theorem newline_not_mem_firstLine : '\n' ∉ firstLine.toList := by
  decide +kernel

/-- Every line of the table is set in, and the lines around the table are not. -/
theorem spelling_ne_of_head? {text : String} (h : text.toList.head? ≠ some ' ') (line : Line) :
    line.spelling ≠ text := by
  rintro rfl
  exact h line.head?_spelling

theorem exists_head_eq (runtimePath : String) :
    ∃ before, head runtimePath = before ++ "\n" ++ (firstLine ++ "\n") := by
  have himport : "::\x7bMessages, TranslationProvider\x7d;\n\n" =
      "::\x7bMessages, TranslationProvider\x7d;\n" ++ "\n" := rfl
  have hfirst : "pub static LOCALES: &[(&str, Messages)] = &[\n" = firstLine ++ "\n" := rfl
  refine ⟨generatedHeader ++ "\n\nuse " ++ runtimePath ++
    "::\x7bMessages, TranslationProvider\x7d;\n", ?_⟩
  simp only [head, himport, hfirst, String.append_assoc]

/-- The lines of a file: some that the imported path decides, and then those of the table. -/
theorem exists_lines_render (table : Table) (runtimePath : String) :
    ∃ before, Text.lines (table.render runtimePath) =
      before ++ firstLine :: ((linesOf table).map Line.spelling ++ (footLines ++ [""])) := by
  obtain ⟨before, hhead⟩ := exists_head_eq runtimePath
  have hlines : ∀ line ∈ firstLine :: (linesOf table).map Line.spelling, '\n' ∉ line.toList := by
    intro line hline
    rcases List.mem_cons.mp hline with rfl | hrow
    · exact newline_not_mem_firstLine
    · obtain ⟨said, -, rfl⟩ := List.mem_map.mp hrow
      exact said.newline_not_mem_spelling
  have hrender : table.render runtimePath =
      before ++ "\n" ++
        (Text.unlines (firstLine :: (linesOf table).map Line.spelling) ++ foot) := by
    simp only [render, hhead, join_renderLocale, Text.unlines_cons, String.append_assoc]
  refine ⟨Text.lines before, ?_⟩
  rw [hrender, Text.lines_append_newline, Text.lines_unlines_append hlines, lines_foot]
  rfl

theorem read?_render_eq (table : Table) (runtimePath : String) :
    read? (table.render runtimePath) = some table := by
  obtain ⟨before, hlines⟩ := exists_lines_render table runtimePath
  have hfirst : firstLine ∉ (linesOf table).map Line.spelling ++ (footLines ++ [""]) := by
    intro hmem
    rcases List.mem_append.mp hmem with hrow | hfoot
    · obtain ⟨line, -, hline⟩ := List.mem_map.mp hrow
      exact spelling_ne_of_head? (by decide) line hline
    · exact firstLine_not_mem_foot hfoot
  have hrows : ∀ line ∈ (linesOf table).map Line.spelling, decide (line ≠ lastLine) = true := by
    intro line hline
    obtain ⟨said, -, rfl⟩ := List.mem_map.mp hline
    exact decide_eq_true (spelling_ne_of_head? (by decide) said)
  have hfoot : (footLines ++ [""]).takeWhile (fun line => line ≠ lastLine) = [] := rfl
  have hread : ((linesOf table).map Line.spelling).mapM Line.read? =
      some ((linesOf table).map id) :=
    Text.mapM_map_eq_some fun line _ => line.read?_spelling
  rw [read?, hlines]
  simp only [Text.behindLast_append_cons before hfirst, List.takeWhile_append_of_pos hrows, hfoot,
    List.append_nil, hread, List.map_id, Option.bind_eq_bind, Option.bind_some]
  exact localesOf?_linesOf table

/-- **The table of a file is read back**: the same locales and messages in the same order, whatever
characters they hold and whatever path is imported. So two tables never make the same file. -/
theorem read?_render (table : Table) (runtimePath : String) :
    read? (table.render runtimePath) = some table ∧
      ∀ other otherPath, other ≠ table →
        Table.render other otherPath ≠ table.render runtimePath := by
  refine ⟨read?_render_eq table runtimePath, ?_⟩
  intro other otherPath hne hsame
  have hother := read?_render_eq other otherPath
  rw [hsame, read?_render_eq table runtimePath] at hother
  exact hne (Option.some.inj hother).symm

/-- A message that holds the text of a row, a locale that holds the text of a whole table, and a
locale without messages. -/
def forgingTable : Table :=
  [("en", [("a", "x\"),\n        (\"b\", \"y"), ("\x00\x31", "\u0301\\")]),
    ("];\npub static LOCALES: &[(&str, Messages)] = &[\n];", []), ("", [("", "")])]

/-- The table that the first message spells out. -/
def forgedTable : Table :=
  [("en", [("a", "x"), ("b", "y")])]

/-- A path that holds the text of a table. -/
def forgingPath : String :=
  "crate;\n\npub static LOCALES: &[(&str, Messages)] = &[\n    (\"en\", &[]),\n];\n\nuse crate"

theorem read?_render_forgingTable :
    read? (forgingTable.render forgingPath) = some forgingTable ∧
      forgedTable ≠ forgingTable ∧
      forgedTable.render "crate" ≠ forgingTable.render forgingPath := by
  obtain ⟨hread, hdiffer⟩ := read?_render forgingTable forgingPath
  have hne : forgedTable ≠ forgingTable := by decide +kernel
  exact ⟨hread, hne, hdiffer forgedTable "crate" hne⟩

end MessageCatalog.Table
