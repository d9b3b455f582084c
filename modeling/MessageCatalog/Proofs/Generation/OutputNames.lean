import MessageCatalog.Proofs.Generation.FinishedWrite
import MessageCatalog.Proofs.Path.Spelling

/-!
# Names of the two outputs

Valid settings have two different names for the outputs, as texts. The paths that are made of them
may still be two spellings of one path: a name may have idle segments, and one that is absolute may
spell out the other one below the folder of the outputs. Then there is no tree in which both
contents can be read, and no write succeeds.

## Main results

* `Generation.not_readable_of_alike`: two spellings of one path hold one content
* `Generation.write_ne_ok_of_alike`: a write to two spellings of one path fails
* `Generation.outputs_alike_iff`: which names are spellings of one path, and what comes of it
-/

namespace MessageCatalog

open FileSystem

/-- Valid settings have different names for the outputs. -/
theorem Settings.keysFile_ne_of_flaw? {settings : Settings} (h : settings.flaw? = none) :
    settings.keysFile ≠ settings.messagesFile := by
  intro hsame
  -- equal names are a flaw, unless an earlier one is reported
  rw [Settings.flaw?, if_pos hsame] at h
  split at h
  · cases h
  split at h
  · cases h
  split at h
  · cases h
  · cases h

namespace Generation

variable {generation : Generation} {before : FileSystem} {root : Path} {settings : Settings}

/-- Where the outputs go is told by their names and the folder that they are below. -/
theorem alike_iff (hmade : generate before root settings = .ok generation) :
    generation.keys.path.Alike generation.messages.path ↔
      Path.Alike ⟨settings.keysFile⟩ ⟨settings.messagesFile⟩ ∨
      Path.SpellsOut (root.join ⟨settings.outputDir⟩) ⟨settings.keysFile⟩ ⟨settings.messagesFile⟩ ∨
      Path.SpellsOut (root.join ⟨settings.outputDir⟩) ⟨settings.messagesFile⟩
        ⟨settings.keysFile⟩ := by
  obtain ⟨selection, reference, hfrom⟩ := exists_comesFrom hmade
  rw [hfrom.keys_eq, hfrom.messages_eq]
  exact Path.alike_join_iff _ _ _

/-- **Two spellings of one path hold one content**, whatever the tree. -/
theorem not_readable_of_alike (hmade : generate before root settings = .ok generation)
    (h : generation.keys.path.Alike generation.messages.path) (fs : FileSystem) :
    ¬ generation.Readable fs := by
  intro hread
  obtain ⟨place, place', hplace, hplace', hne⟩ :=
    locate_of_readable (content_ne_of_generate hmade) hread
  have haim : fs.aim? generation.keys.path = some place := (locate_eq_ok_iff.mp hplace).2.aim_eq
  have haim' : fs.aim? generation.messages.path = some place' :=
    (locate_eq_ok_iff.mp hplace').2.aim_eq
  -- the two places are the aim of both paths
  rw [h.aim?_eq, haim'] at haim
  exact hne (Option.some.inj haim).symm

/-- **A write to two spellings of one path fails.** Both files are staged in one place, so nothing
is left to be moved there when the first of them has been moved. -/
theorem write_ne_ok_of_alike (h : generation.keys.path.Alike generation.messages.path)
    (fs fs' : FileSystem) : generation.write fs ≠ (fs', .ok ()) := by
  intro hwrite
  obtain ⟨one, two, three, hkeys, hmessages, hfirst, hsecond⟩ := write_eq_ok hwrite
  obtain ⟨staged, staged', hboth⟩ := exists_bothStaged hkeys hmessages
  obtain ⟨directory, name, hlast, hparent, hcurrent, hgone, hmoved, -⟩ :=
    hboth.exists_moved hfirst
  obtain ⟨directory', name', hlast', hparent', -, -, hthere, -, -⟩ :=
    OutputFile.exists_moved_of_rename hsecond
  obtain ⟨rfl, hsteps⟩ := h.entry hlast hlast'
  -- the directory of the second target was there before the first file was moved
  obtain ⟨-, hleads'⟩ := hmoved.directoriesBefore _ _ _ _ (directory_of_locateParent hparent')
    (leads_dropLast_of_locateParent hparent')
  have hstart : three.start generation.messages.path = two.start generation.keys.path := by
    rw [start, hcurrent, ← start, h.start_eq]
  -- it is the directory of the first target, and both files were staged there under one name
  have haim := (leads_dropLast_of_locateParent hparent).aim_eq
  rw [aim_eq_of_filter_isMove hsteps, ← hstart] at haim
  obtain rfl : directory = directory' := Option.some.inj (haim.symm.trans hleads'.aim_eq)
  exact hthere hgone

/-- **When the outputs are two spellings of one path**: if their names are, or if one name is
absolute and spells out the other below the folder of the outputs. Valid settings that have tidy
names of one kind keep the outputs apart. If they are not kept apart, no tree holds both contents
and no write succeeds. -/
theorem outputs_alike_iff (hmade : generate before root settings = .ok generation)
    (hvalid : settings.flaw? = none) :
    (generation.keys.path.Alike generation.messages.path ↔
      Path.Alike ⟨settings.keysFile⟩ ⟨settings.messagesFile⟩ ∨
      Path.SpellsOut (root.join ⟨settings.outputDir⟩) ⟨settings.keysFile⟩ ⟨settings.messagesFile⟩ ∨
      Path.SpellsOut (root.join ⟨settings.outputDir⟩) ⟨settings.messagesFile⟩
        ⟨settings.keysFile⟩) ∧
    (Path.IsTidy ⟨settings.keysFile⟩ → Path.IsTidy ⟨settings.messagesFile⟩ →
      Path.isAbsolute ⟨settings.keysFile⟩ = Path.isAbsolute ⟨settings.messagesFile⟩ →
        ¬ generation.keys.path.Alike generation.messages.path) ∧
    (generation.keys.path.Alike generation.messages.path →
      ∀ fs, ¬ generation.Readable fs ∧ ∀ fs', generation.write fs ≠ (fs', .ok ())) := by
  refine ⟨alike_iff hmade, ?_, ?_⟩
  · intro htidy htidy' hsame halike
    rcases (alike_iff hmade).mp halike with
      halike | ⟨-, habsolute, hrelative, -⟩ | ⟨-, habsolute, hrelative, -⟩
    · -- two tidy spellings are the same text
      have hnames := Path.eq_of_alike_of_isTidy halike htidy htidy'
      exact Settings.keysFile_ne_of_flaw? hvalid (Path.mk.inj hnames)
    · rw [habsolute, hrelative] at hsame
      cases hsame
    · rw [habsolute, hrelative] at hsame
      cases hsame
  · intro halike fs
    exact ⟨not_readable_of_alike hmade halike fs, write_ne_ok_of_alike halike fs⟩

/-- Settings with two spellings of one name for the outputs. -/
def aliasedNames : Settings :=
  { sourceFile := some "en.json", outputDir := "out", keysFile := "out.rs",
    messagesFile := "./out.rs" }

/-- Valid settings may have two spellings of one path for the outputs, and the write fails when a
file has already been moved there. -/
theorem exists_outputs_alike :
    aliasedNames.flaw? = none ∧ ∃ made, generate freshProject ⟨""⟩ aliasedNames = .ok made ∧
      made.keys.path ≠ made.messages.path ∧ made.keys.path.Alike made.messages.path ∧
      made.keysMoved freshProject = true ∧
      ∀ fs, ¬ made.Readable fs ∧ ∀ fs', made.write fs ≠ (fs', .ok ()) := by
  have hvalid : aliasedNames.flaw? = none := by decide +kernel
  have hcheck : isOkAnd (generate freshProject ⟨""⟩ aliasedNames) (fun made =>
      made.keys.path ≠ made.messages.path ∧ made.keysMoved freshProject = true) = true := by
    decide +kernel
  obtain ⟨made, hmade, hfacts⟩ := exists_of_isOkAnd hcheck
  obtain ⟨hpaths, hmoved⟩ := of_decide_eq_true hfacts
  obtain ⟨halike, -, hlost⟩ := outputs_alike_iff hmade hvalid
  have hsame := halike.mpr (.inl (by decide +kernel))
  exact ⟨hvalid, made, hmade, hpaths, hsame, hmoved, hlost hsame⟩

end Generation

end MessageCatalog
