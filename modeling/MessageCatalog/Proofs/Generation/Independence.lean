import MessageCatalog.Proofs.Generation.Strictness
import MessageCatalog.Proofs.Table.Reader

/-!
# What a generation does not depend on

The constants come from one file, and the messages of a locale come from one file. Two runs that
agree on that file agree on what comes from it, whatever other files they go through.

## Main definitions

* `Generation.entryWarnings` — the warnings of a generation that are about entries.

## Main results

* `Document.load_congr`: a document comes from the name of its file and the content alone
* `Generation.ComesFrom.messages?_eq`: the messages of a locale are those of its one document
* `same_outputs_of_same_source`: two runs that share the file of the reference, or another one
-/

namespace MessageCatalog

/-- A document comes from the name of its file and the content alone. -/
theorem Document.load_congr {fs fs' : FileSystem} {path path' : Path}
    (hname : path.documentName = path'.documentName)
    (hcontent : fs.readBytes path = fs'.readBytes path') (maxDepth : Nat) :
    load fs path maxDepth = load fs' path' maxDepth := by
  rw [load, load, FileSystem.readText, FileSystem.readText, hname, hcontent]

namespace Generation

/-- The warnings of a generation that are about entries, in order. -/
def entryWarnings (made : Generation) : List Warning :=
  made.warnings.filter fun warning => !warning.isSkip

variable {fs fs' : FileSystem} {root : Path} {settings : Settings} {made made' : Generation}
  {selection selection' : Selection} {reference reference' : Document}

/-- **The warnings about entries come from the reference alone.** -/
theorem ComesFrom.entryWarnings_eq (h : made.ComesFrom fs root settings selection reference) :
    made.entryWarnings =
      (findCollisions (reference.flatten settings.skipBranchKeys)).map .collision ++
        (MessageCatalog.invalidEntries (reference.flatten settings.skipBranchKeys)).map
          .invalidSymbol := by
  obtain ⟨warnings, hcheck, hwarnings⟩ := h.checked
  rw [entryWarnings, hwarnings, warnings_of_checkEntries hcheck]
  simp [Selection.warnings, List.filter_map, Function.comp_def, Warning.isSkip]

/-- **The messages of a locale are those of its one document**; the file of messages holds them. -/
theorem ComesFrom.messages?_eq (h : made.ComesFrom fs root settings selection reference)
    {document : Document} (hmem : document ∈ selection.documents) :
    ∃ table, Table.read? made.messages.content = some table ∧
      table.messages? document.name = some (Table.messagesOf document.resolved) := by
  refine ⟨Table.build selection.documents, h.read?_messages, ?_⟩
  rw [Table.messages?_build_eq_some_iff h.nodup_names]
  exact ⟨document, hmem, rfl, rfl⟩

/-- Runs that have the same document as their reference make the same constants. -/
theorem ComesFrom.constants_eq (h : made.ComesFrom fs root settings selection reference)
    (h' : made'.ComesFrom fs' root settings selection' reference) :
    made.reference = made'.reference ∧ made.keys.content = made'.keys.content ∧
      made.constantCount = made'.constantCount ∧ made.entryWarnings = made'.entryWarnings := by
  rw [h.name_eq, h'.name_eq, h.keys_eq, h'.keys_eq, h.count_eq, h'.count_eq, h.entryWarnings_eq,
    h'.entryWarnings_eq]
  exact ⟨rfl, rfl, rfl, rfl⟩

end Generation

/-- **Two runs that share a file.** If it is the file of the reference in both, all that comes of
the entries is the same; if it takes part in both, so are the messages of its locale, in order. The
other files may differ in any way. -/
theorem same_outputs_of_same_source {fs fs' : FileSystem} {root : Path} {settings : Settings}
    {made made' : Generation} (h : generate fs root settings = .ok made)
    (h' : generate fs' root settings = .ok made') {source source' : DocumentSummary}
    (hsource : source ∈ made.documents) (hsource' : source' ∈ made'.documents)
    (hcontent : fs.readBytes source.path = fs'.readBytes source'.path) :
    (source.name = made.reference → source'.name = made'.reference → source.name = source'.name →
      made.reference = made'.reference ∧ made.keys.content = made'.keys.content ∧
        made.constantCount = made'.constantCount ∧ made.entryWarnings = made'.entryWarnings) ∧
    (source.path = source'.path →
      source.name = source'.name ∧ ∃ table table' messages,
        Table.read? made.messages.content = some table ∧
          Table.read? made'.messages.content = some table' ∧
          table.messages? source.name = some messages ∧
          table'.messages? source.name = some messages) := by
  obtain ⟨selection, reference, hfrom⟩ := exists_comesFrom h
  obtain ⟨selection', reference', hfrom'⟩ := exists_comesFrom h'
  obtain ⟨document, hmem, hload, hname⟩ := hfrom.exists_document hsource
  obtain ⟨document', hmem', hload', hname'⟩ := hfrom'.exists_document hsource'
  -- a shared name and a shared content make one document
  have hsame : source.path.documentName = source'.path.documentName → document = document' := by
    intro hnames
    rw [Document.load_congr hnames hcontent, hload'] at hload
    exact (Except.ok.inj hload).symm
  constructor
  · intro href href' hnames
    obtain rfl : document = document' := hsame (by
      rw [← Document.name_of_load hload, ← Document.name_of_load hload', hname, hname', hnames])
    obtain rfl := hfrom.eq_reference hmem (hname.trans href)
    obtain rfl := hfrom'.eq_reference hmem' (hname'.trans href')
    exact hfrom.constants_eq hfrom'
  · intro hpath
    obtain rfl := hsame (congrArg Path.documentName hpath)
    obtain ⟨table, hread, hmessages⟩ := hfrom.messages?_eq hmem
    obtain ⟨table', hread', hmessages'⟩ := hfrom'.messages?_eq hmem'
    rw [hname] at hmessages hmessages'
    exact ⟨hname.symm.trans hname', table, table', _, hread, hread', hmessages, hmessages'⟩

/-- The file of the reference of `mixedProject` among other files. -/
def movedProject : FileSystem :=
  projectOf [("c.json", "\x7b\"x\":\x7b\"y\":\"1\"\x7d,\"x_y\":\"2\",\"1\":\"3\"\x7d"),
    ("d.json", "\x7b\"k\":\"four\"\x7d"), ("e.json", "[]")]

theorem selectDocuments_movedProject :
    selectDocuments movedProject ⟨""⟩ behindOthers =
      Selection.addAll 0 0 {}
        (loadAll movedProject (["c.json", "d.json", "e.json"].map fun name =>
          Path.join ⟨"./messages"⟩ ⟨name⟩) behindOthers.maxDepth) := by
  apply Selection.selectDocuments_of_sorted
  · decide +kernel
  · rfl
  · decide +kernel
  · decide +kernel
  · decide +kernel
  · simp
  · decide +kernel

/-- The file that both projects share, as both runs tell about it. -/
def sharedSource : DocumentSummary :=
  ⟨"c", ⟨"./messages/c.json"⟩, 4⟩

/-- The shared file is the reference of both runs, in which other files take part and are left
out. -/
theorem same_outputs_mixedProject :
    ∃ made made', generate mixedProject ⟨""⟩ behindOthers = .ok made ∧
      generate movedProject ⟨""⟩ behindOthers = .ok made' ∧
      made.documents.map DocumentSummary.name = ["b.json~", "c"] ∧
      made'.documents.map DocumentSummary.name = ["c", "d"] ∧
      sharedSource ∈ made.documents ∧ sharedSource ∈ made'.documents ∧
      mixedProject.readBytes sharedSource.path = movedProject.readBytes sharedSource.path ∧
      made.keys.content = made'.keys.content ∧ made.entryWarnings = made'.entryWarnings ∧
      ∃ table table' messages, Table.read? made.messages.content = some table ∧
        Table.read? made'.messages.content = some table' ∧
        table.messages? "c" = some messages ∧ table'.messages? "c" = some messages := by
  have hcheck : isOkAnd (generate mixedProject ⟨""⟩ behindOthers) (fun made =>
      made.documents.map DocumentSummary.name = ["b.json~", "c"] ∧
        sharedSource ∈ made.documents ∧ sharedSource.name = made.reference) = true := by
    rw [generate, selectDocuments_mixedProject]
    decide +kernel
  have hcheck' : isOkAnd (generate movedProject ⟨""⟩ behindOthers) (fun made =>
      made.documents.map DocumentSummary.name = ["c", "d"] ∧
        sharedSource ∈ made.documents ∧ sharedSource.name = made.reference) = true := by
    rw [generate, selectDocuments_movedProject]
    decide +kernel
  have hcontent : mixedProject.readBytes sharedSource.path =
      movedProject.readBytes sharedSource.path := by
    decide +kernel
  obtain ⟨made, hmade, hfacts⟩ := exists_of_isOkAnd hcheck
  obtain ⟨made', hmade', hfacts'⟩ := exists_of_isOkAnd hcheck'
  obtain ⟨hnames, hmem, href⟩ := of_decide_eq_true hfacts
  obtain ⟨hnames', hmem', href'⟩ := of_decide_eq_true hfacts'
  obtain ⟨hreference, hlocale⟩ := same_outputs_of_same_source hmade hmade' hmem hmem' hcontent
  obtain ⟨-, hkeys, -, hwarnings⟩ := hreference href href' rfl
  exact ⟨made, made', hmade, hmade', hnames, hnames', hmem, hmem', hcontent, hkeys, hwarnings,
    (hlocale rfl).2⟩

end MessageCatalog
