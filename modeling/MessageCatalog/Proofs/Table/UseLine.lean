import MessageCatalog.Proofs.Text.ModulePath
import MessageCatalog.Settings.Validity
import MessageCatalog.Table.Render

/-!
# The import of the file of messages

The file of messages starts with a line that imports two names along the path that the settings
give. Settings are accepted if this path is a module path, which does not make the line a
declaration yet: a keyword may stand in it where a name has to.

## Main definitions

* `Table.importedNames` — the names that are imported.

## Main results

* `Table.getElem?_lines_render`: the third line of the file imports along the given path
* `Table.isUseDeclaration_iff_of_isModulePath`: along a module path, this line is a declaration if
  and only if no keyword stands in the path where a name has to
* `Table.exists_not_isUseDeclaration`: there are accepted settings for which it is none
-/

namespace MessageCatalog.Table

open Text (IsName IsUseDeclaration isModulePath keywords lines plainSegments useLine)

/-- The names that are imported into the file of messages. -/
def importedNames : List String :=
  ["Messages", "TranslationProvider"]

theorem isName_of_mem_importedNames : ∀ name ∈ importedNames, IsName name := by
  have hnames : ∀ name ∈ importedNames,
      (Text.isWord name.toList = true ∧ name.toList ≠ ['_']) ∧ name ∉ keywords := by
    decide +kernel
  intro name hname
  obtain ⟨hword, hkeyword⟩ := hnames name hname
  exact ⟨(Text.isTokenWord_iff _).mpr hword, hkeyword⟩

/-- The line of the file that imports along a path. -/
def useLineOf (path : String) : String :=
  "use " ++ path ++ "::\x7bMessages, TranslationProvider\x7d;"

theorem useLine_importedNames (path : String) : useLine path importedNames = useLineOf path := by
  have hnames : "::\x7b" ++ (", ".intercalate importedNames ++ "\x7d;") =
      "::\x7bMessages, TranslationProvider\x7d;" := by
    decide +kernel
  rw [useLine, String.append_assoc, String.append_assoc, hnames, useLineOf]

/-- The third line of the file imports along the path. -/
theorem getElem?_lines_render (table : Table) {path : String} (h : '\n' ∉ path.toList) :
    (lines (table.render path))[2]? = some (useLineOf path) := by
  have hheader : '\n' ∉ generatedHeader.toList := by decide +kernel
  have hline : '\n' ∉ (useLineOf path).toList := by
    have hbehind : '\n' ∉ "::\x7bMessages, TranslationProvider\x7d;".toList := by decide
    rw [useLineOf, String.toList_append, String.toList_append, List.mem_append, List.mem_append,
      not_or, not_or]
    exact ⟨⟨by decide, h⟩, hbehind⟩
  have hopen : "\n\nuse " = "\n" ++ ("" ++ "\n" ++ "use ") := rfl
  have hclose : "::\x7bMessages, TranslationProvider\x7d;\n\n" =
      "::\x7bMessages, TranslationProvider\x7d;" ++ ("\n" ++ "\n") := rfl
  have hrender : ∃ rest, table.render path =
      generatedHeader ++ "\n" ++ ("" ++ "\n" ++ (useLineOf path ++ "\n" ++ rest)) := by
    refine ⟨"\n" ++ ("pub static LOCALES: &[(&str, Messages)] = &[\n" ++
      (String.join (table.map renderLocale) ++ foot)), ?_⟩
    simp only [render, head, useLineOf, hopen, hclose, String.append_assoc, String.empty_append]
  obtain ⟨rest, hrest⟩ := hrender
  rw [hrest, Text.lines_append_newline, Text.lines_append_newline, Text.lines_append_newline,
    Text.lines_eq_singleton hheader, Text.lines_eq_singleton hline]
  rfl

/-- **The import of the file of messages.** Along a module path, the third line of the file is a
declaration if and only if no keyword stands in the path where a name has to. -/
theorem isUseDeclaration_iff_of_isModulePath (table : Table) {path : String}
    (h : isModulePath path = true) :
    (lines (table.render path))[2]? =
        some ("use " ++ path ++ "::\x7bMessages, TranslationProvider\x7d;") ∧
      (IsUseDeclaration ("use " ++ path ++ "::\x7bMessages, TranslationProvider\x7d;") ↔
        ∀ name ∈ plainSegments path, name ∉ keywords) := by
  have hnewline : '\n' ∉ path.toList :=
    Text.not_mem_of_isModulePath h (by decide +kernel) (by decide)
  constructor
  · exact getElem?_lines_render table hnewline
  · have hiff := Text.isUseDeclaration_iff h isName_of_mem_importedNames
    rw [useLine_importedNames] at hiff
    exact hiff

/-- Settings with a keyword where a name has to stand. -/
def keywordSettings : Settings :=
  { runtimePath := "app::fn::texts" }

/-- There are accepted settings for which the file of messages starts with no declaration. -/
theorem exists_not_isUseDeclaration :
    keywordSettings.flaw? = none ∧ isModulePath keywordSettings.runtimePath = true ∧
      ∃ line, (lines (render [] keywordSettings.runtimePath))[2]? = some line ∧
        ¬ IsUseDeclaration line := by
  have hpath : isModulePath keywordSettings.runtimePath = true := by decide +kernel
  obtain ⟨hline, hiff⟩ := isUseDeclaration_iff_of_isModulePath [] hpath
  refine ⟨by decide +kernel, hpath, _, hline, ?_⟩
  rw [hiff]
  decide +kernel

end MessageCatalog.Table
