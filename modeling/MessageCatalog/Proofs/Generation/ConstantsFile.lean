import MessageCatalog.Proofs.Constants.Reader
import MessageCatalog.Proofs.Generation.Fetching

/-!
# The constants that a run declares

## Main results

* `Constants.nodup_tokens`: distinct identifiers are declared by distinct tokens
* `declares_entries_of_strict`: in the file of a strict run every line declares the entry it was
  written for, by a token of its own
-/

namespace MessageCatalog

namespace Constants

variable {entries : List Entry}

theorem map_entry_ofEntry (h : ∀ entry ∈ entries, Text.isIdentifier entry.symbol = true) :
    (entries.map Declaration.ofEntry).map Declaration.entry = entries := by
  rw [List.map_map]
  exact (List.map_congr_left fun entry hentry => Declaration.entry_ofEntry (h entry hentry)).trans
    (List.map_id entries)

/-- Distinct identifiers are declared by distinct tokens, since a token tells its name. -/
theorem nodup_tokens (h : ∀ entry ∈ entries, Text.isIdentifier entry.symbol = true)
    (hsymbols : (entries.map Entry.symbol).Nodup) :
    ((entries.map Declaration.ofEntry).map Declaration.token).Nodup := by
  have hnames : ((entries.map Declaration.ofEntry).map Declaration.token).map Text.bareName =
      entries.map Entry.symbol := by
    rw [List.map_map, List.map_map]
    exact List.map_congr_left fun entry hentry => Text.bareName_renderIdentifier (h entry hentry)
  exact List.Nodup.of_map Text.bareName (hnames ▸ hsymbols)

end Constants

section Strict

variable {fs : FileSystem} {root : Path} {settings : Settings} {made : Generation}

/-- **The file of the constants of a strict run.** Between its head and its end stands one line for
each entry of the reference; each line declares its entry, by a token that the language accepts and
that no other line declares. -/
theorem declares_entries_of_strict (hstrict : settings.strict = true)
    (h : generate fs root settings = .ok made) :
    ∃ selection reference, made.ComesFrom fs root settings selection reference ∧
      ∃ rows declarations,
        Text.lines made.keys.content = Constants.headLines ++ rows ++ Constants.footLines ∧
        rows.length = made.constantCount ∧
        rows.mapM Constants.Declaration.read? = some declarations ∧
        declarations.map Constants.Declaration.entry =
          reference.flatten settings.skipBranchKeys ∧
        (∀ declared ∈ declarations, Text.IsIdentifierToken declared.token) ∧
        (declarations.map Constants.Declaration.token).Nodup := by
  obtain ⟨selection, reference, hfrom⟩ := exists_comesFrom h
  have hidentifiers := hfrom.isIdentifier_symbol hstrict
  have hsymbols := hfrom.nodup_symbols hstrict
  refine ⟨selection, reference, hfrom,
    (reference.flatten settings.skipBranchKeys).map fun entry =>
      (Constants.Declaration.ofEntry entry).spelling,
    (reference.flatten settings.skipBranchKeys).map Constants.Declaration.ofEntry, ?_, ?_, ?_, ?_,
    ?_, ?_⟩
  · rw [hfrom.keys_eq]
    exact Constants.lines_render hidentifiers
  · rw [List.length_map, hfrom.count_eq]
  · exact Text.mapM_map_eq_some fun entry hentry =>
      Constants.Declaration.read?_spelling (hidentifiers entry hentry)
  · exact Constants.map_entry_ofEntry hidentifiers
  · intro declared hdeclared
    obtain ⟨entry, hentry, rfl⟩ := List.mem_map.mp hdeclared
    exact Text.isIdentifierToken_renderIdentifier (hidentifiers entry hentry)
  · exact Constants.nodup_tokens hidentifiers hsymbols

end Strict

/-- A project with a keyword, with keys that are no names on their own, and with a letter that is
not in the basic alphabet. -/
def keywordProject : FileSystem :=
  projectOf [("en.json",
    "\x7b\"type\":\"Art\",\"a\":\x7b\"self\":\"Selbst\",\"1\":\"Eins\"\x7d,\"größe\":\"Size\"\x7d")]

/-- Strict settings under which branches have constants of their own. -/
def strictFile : Settings :=
  { sourceFile := some "en.json", strict := true }

/-- The constants of that project. -/
def keywordEntries : List Entry :=
  [⟨"type", "type"⟩, ⟨"a_self", "a.self"⟩, ⟨"a_1", "a.1"⟩, ⟨"a", "a"⟩, ⟨"größe", "größe"⟩]

theorem selectDocuments_keywordProject :
    (match selectDocuments keywordProject ⟨""⟩ strictFile with
    | .ok selection => decide (∃ reference ∈ selection.referenceDocument?,
        reference.flatten strictFile.skipBranchKeys = keywordEntries)
    | .error _ => false) = true := by
  decide +kernel

/-- A strict run declares a keyword, and keys that are names only behind their parent. -/
theorem declares_keywordEntries :
    strictFile.strict = true ∧
      ∃ made, generate keywordProject ⟨""⟩ strictFile = .ok made ∧
        ∃ rows declarations,
          Text.lines made.keys.content = Constants.headLines ++ rows ++ Constants.footLines ∧
          rows.length = 5 ∧
          rows.mapM Constants.Declaration.read? = some declarations ∧
          declarations.map Constants.Declaration.entry = keywordEntries ∧
          (∀ declared ∈ declarations, Text.IsIdentifierToken declared.token) ∧
          (declarations.map Constants.Declaration.token).Nodup := by
  have hok : (generate keywordProject ⟨""⟩ strictFile).isOk = true := by decide +kernel
  cases hmade : generate keywordProject ⟨""⟩ strictFile with
  | error e => simp [hmade, Except.isOk, Except.toBool] at hok
  | ok made =>
    obtain ⟨selection, reference, hfrom, rows, declarations, hlines, hcount, hread, hentries,
      htokens, hnodup⟩ := declares_entries_of_strict rfl hmade
    have hcheck := selectDocuments_keywordProject
    rw [hfrom.selected] at hcheck
    obtain ⟨_, href, hflatten⟩ := of_decide_eq_true hcheck
    obtain rfl := Option.some.inj (hfrom.isReference.symm.trans href)
    have hfive : rows.length = 5 := by
      rw [hcount, hfrom.count_eq, hflatten]
      rfl
    exact ⟨rfl, made, rfl, rows, declarations, hlines, hfive, hread, hentries.trans hflatten,
      htokens, hnodup⟩

end MessageCatalog
