import MessageCatalog.Proofs.FileTree.Naming
import MessageCatalog.Proofs.Session.Outcome

/-!
# Names in the files of a session

A session makes files and directories under names that come from settings, and these may be any
texts. Still every name that it makes has been spelled by a path, so it never leaves a name that is
none of an entry, or two entries of one name in a directory.

## Main results

* `Generation.isWellNamed_of_write`: writing a generation keeps proper names, also where it fails
* `Session.isWellNamed_run`: every session keeps proper names
-/

namespace MessageCatalog

open FileSystem

variable {fs after : FileSystem} (hnamed : fs.root.isWellNamed = true)

include hnamed

namespace OutputFile

variable {file : OutputFile}

theorem isWellNamed_of_makeParent {result : Except WriteError Unit}
    (h : file.makeParent fs = (after, result)) : after.root.isWellNamed = true := by
  rw [makeParent] at h
  split at h
  · obtain ⟨rfl, -⟩ := Prod.mk.inj h
    exact hnamed
  split at h
  · next hmade =>
    obtain ⟨rfl, -⟩ := Prod.mk.inj h
    exact isWellNamed_createDirectories hnamed hmade
  · next hmade =>
    obtain ⟨rfl, -⟩ := Prod.mk.inj h
    exact isWellNamed_createDirectories hnamed hmade

theorem isWellNamed_of_stage {result : Except WriteError Path}
    (h : file.stage fs = (after, result)) : after.root.isWellNamed = true := by
  rw [stage] at h
  split at h
  · next hmade =>
    obtain ⟨rfl, -⟩ := Prod.mk.inj h
    exact isWellNamed_of_makeParent hnamed hmade
  next hparent =>
  have hmade := isWellNamed_of_makeParent hnamed hparent
  split at h
  · next hwritten =>
    obtain ⟨rfl, -⟩ := Prod.mk.inj h
    exact isWellNamed_writeFile hmade hwritten
  · obtain ⟨rfl, -⟩ := Prod.mk.inj h
    exact isWellNamed_discard hmade _

theorem isWellNamed_of_commit {staged : Path} {result : Except WriteError Unit}
    (h : file.commit staged fs = (after, result)) : after.root.isWellNamed = true := by
  rw [commit] at h
  split at h
  · next hrenamed =>
    obtain ⟨rfl, -⟩ := Prod.mk.inj h
    exact isWellNamed_rename hnamed hrenamed
  · obtain ⟨rfl, -⟩ := Prod.mk.inj h
    exact hnamed

end OutputFile

open OutputFile in
/-- **Writing a generation keeps proper names**, also where it fails. -/
theorem Generation.isWellNamed_of_write {made : Generation} {result : Except WriteError Unit}
    (h : made.write fs = (after, result)) : after.root.isWellNamed = true := by
  rw [write] at h
  split at h
  · next hstaged =>
    obtain ⟨rfl, -⟩ := Prod.mk.inj h
    exact isWellNamed_of_stage hnamed hstaged
  next hstaged =>
  have hkeys := isWellNamed_of_stage hnamed hstaged
  split at h
  · next hstaged' =>
    obtain ⟨rfl, -⟩ := Prod.mk.inj h
    exact isWellNamed_discard (isWellNamed_of_stage hkeys hstaged') _
  next hstaged' =>
  have hboth := isWellNamed_of_stage hkeys hstaged'
  rw [commit] at h
  split at h
  · next hmoved =>
    obtain ⟨rfl, -⟩ := Prod.mk.inj h
    exact isWellNamed_of_commit hboth hmoved
  · next hmoved => exact isWellNamed_of_commit (isWellNamed_of_commit hboth hmoved) h

namespace Session

variable {setting : Setting} {args : List String}

theorem Course.isWellNamed {session : Session} (h : Course setting args fs session) :
    session.fileSystem.root.isWellNamed = true := by
  cases h with
  | settingsWritten _ _ hwrite => exact isWellNamed_writeFile hnamed hwrite
  | written _ _ _ hwrite | notWritten _ _ _ hwrite =>
    exact Generation.isWellNamed_of_write hnamed hwrite
  | stopped | overview | settingsThere | settingsNotWritten | noSettings | nothingMade =>
    exact hnamed

variable (setting args) in
/-- **Every session keeps proper names.** -/
theorem isWellNamed_run : (run setting args fs).fileSystem.root.isWellNamed = true :=
  (course_run setting args fs).isWellNamed hnamed

end Session

end MessageCatalog
