import MessageCatalog.Generation.Build
import MessageCatalog.Proofs.Generation.Staging
import MessageCatalog.Settings.Validity

/-!
# Outputs after a failed write

Until both files are staged nothing is done to their targets, and a target that is found stays what
it was. The first renaming is the point of no return: if only the second one fails, the constants
are the new ones and the messages the old ones.

## Main definitions

* `Generation.Apart` — the targets and the files staged for them do not get in each other's way.

## Main results

* `Generation.found_of_write_eq_error`: what is found at both targets after a failed write
* `Generation.outputs_kept_iff_of_write_eq_error`: when a failed write keeps both outputs
-/

namespace MessageCatalog

open FileSystem

namespace Generation

variable {generation : Generation} {fs fs' : FileSystem} {e : WriteError}

/-- The targets and the files staged for them do not get in each other's way. Besides, a target at
which nothing is found is vacant: it is no link that leads nowhere, and no directory is made there
for the files. Without this, what is found at such a target can change before anything is moved. -/
structure Apart (generation : Generation) (fs : FileSystem) : Prop where
  /-- The names that files are staged under are those of no links. -/
  unlinked : ∀ p ∈ generation.stagingPaths, ¬ fs.NamesLink p
  /-- The constants are moved over no link. -/
  keys_unlinked : generation.keysMoved fs = true → ¬ fs.NamesLink generation.keys.path
  /-- The four paths are meant for four places. -/
  distinct : (generation.keys.path :: generation.messages.path ::
    generation.stagingPaths).Pairwise fun p q => ¬ fs.Meet p q
  /-- If nothing is found at a target, nothing is at its aim. -/
  vacant : ∀ file ∈ [generation.keys, generation.messages], fs.found file.path = none →
    ∀ place ∈ fs.aim? file.path, fs.view place = none
  /-- If nothing is found at a target, no directory is made there. -/
  unmade : ∀ file ∈ [generation.keys, generation.messages], fs.found file.path = none →
    ∀ p ∈ generation.above, ¬ fs.Meet file.path p

instance (generation : Generation) (fs : FileSystem) : Decidable (generation.Apart fs) :=
  decidable_of_iff
    ((∀ p ∈ generation.stagingPaths, ¬ fs.NamesLink p) ∧
      (generation.keysMoved fs = true → ¬ fs.NamesLink generation.keys.path) ∧
      ((generation.keys.path :: generation.messages.path ::
        generation.stagingPaths).Pairwise fun p q => ¬ fs.Meet p q) ∧
      (∀ file ∈ [generation.keys, generation.messages], fs.found file.path = none →
        ∀ place ∈ fs.aim? file.path, fs.view place = none) ∧
      ∀ file ∈ [generation.keys, generation.messages], fs.found file.path = none →
        ∀ p ∈ generation.above, ¬ fs.Meet file.path p)
    ⟨fun ⟨unlinked, keysUnlinked, distinct, vacant, unmade⟩ =>
      ⟨unlinked, keysUnlinked, distinct, vacant, unmade⟩,
    fun h => ⟨h.unlinked, h.keys_unlinked, h.distinct, h.vacant, h.unmade⟩⟩

/-! ## Until the constants are moved -/

/-- A write that fails before the constants are moved writes to staging paths only. -/
theorem stays_of_not_moved (hunlinked : ∀ p ∈ generation.stagingPaths, ¬ fs.NamesLink p)
    (h : generation.write fs = (fs', .error e)) (hmoved : generation.keysMoved fs = false) :
    fs.Stays generation.stagingPaths generation.above fs' := by
  have hstays := OutputFile.stays_stage (hunlinked generation.keys.stagingPath
    (by simp [stagingPaths]))
  rcases write_eq_error_cases h with ⟨-, hkeys⟩ | ⟨one, two, -, hkeys, hmessages, rfl⟩ |
    ⟨one, -, hkeys, hmessages⟩ | ⟨one, two, htrue, -⟩
  · -- the constants are not staged
    rw [hkeys] at hstays
    exact hstays.mono (by simp [stagingPaths]) (by simp [above])
  · -- the messages are not staged, and the staged constants are discarded
    rw [hkeys] at hstays
    have hlink : ∀ p ∈ generation.stagingPaths, ¬ one.NamesLink p :=
      fun p hp => mt (hstays.namesLink_iff p).mp (hunlinked p hp)
    have htwo := OutputFile.stays_stage (hlink generation.messages.stagingPath
      (by simp [stagingPaths]))
    rw [hmessages] at htwo
    have hgone : two.Stays [generation.keys.stagingPath] [] (two.discard _) :=
      stays_discard (mt (htwo.namesLink_iff _).mp (hlink _ (by simp [stagingPaths])))
    refine ((hstays.mono ?_ ?_).trans (htwo.mono ?_ ?_)).trans (hgone.mono ?_ ?_) <;>
      simp [stagingPaths, above]
  · -- the first renaming fails
    obtain ⟨place, place', hboth⟩ := exists_bothStaged hkeys hmessages
    exact hboth.stays
  · cases hmoved.symm.trans htrue

namespace Apart

theorem not_meet (h : generation.Apart fs) :
    (∀ p ∈ generation.stagingPaths, ¬ fs.Meet generation.keys.path p) ∧
    (∀ p ∈ generation.keys.path :: generation.stagingPaths,
      ¬ fs.Meet generation.messages.path p) ∧
    ¬ fs.Meet generation.keys.stagingPath generation.messages.stagingPath := by
  have hdistinct := h.distinct
  simp only [stagingPaths, List.pairwise_cons, List.forall_mem_cons] at hdistinct ⊢
  obtain ⟨⟨htargets, hkeys⟩, hmessages, ⟨hstaged, -⟩, -⟩ := hdistinct
  exact ⟨hkeys, ⟨mt Meet.symm htargets, hmessages⟩, hstaged⟩

/-- The constants are found as before as long as only staging paths are written to. -/
theorem found_keys_eq (hapart : generation.Apart fs)
    (hstays : fs.Stays generation.stagingPaths generation.above fs') :
    fs'.found generation.keys.path = fs.found generation.keys.path :=
  hstays.found_eq hapart.not_meet.1 (hapart.vacant _ (by simp)) (hapart.unmade _ (by simp))

/-- The messages are found as before as long as their own target is not written to. -/
theorem found_messages_eq (hapart : generation.Apart fs)
    (hstays : fs.Stays (generation.keys.path :: generation.stagingPaths) generation.above fs') :
    fs'.found generation.messages.path = fs.found generation.messages.path :=
  hstays.found_eq hapart.not_meet.2.1 (hapart.vacant _ (by simp)) (hapart.unmade _ (by simp))

/-! ## Once the constants are moved -/

/-- A write that fails after the constants are moved has them at their target, and cannot move the
messages. -/
theorem exists_moved (hapart : generation.Apart fs) (h : generation.write fs = (fs', .error e))
    (hmoved : generation.keysMoved fs = true) :
    ∃ two place place', generation.BothStaged fs two place place' ∧
      two.Stays [generation.keys.stagingPath, generation.keys.path] [] fs' ∧
      fs'.found generation.keys.path = some (.file generation.keys.content.toUTF8) ∧
      ∀ moved, fs'.rename generation.messages.stagingPath generation.messages.path ≠ .ok moved := by
  rcases write_eq_error_cases h with ⟨hfalse, -⟩ | ⟨one, two, hfalse, -⟩ | ⟨one, hfalse, -⟩ |
    ⟨one, two, -, hkeys, hmessages, hrename, hfail⟩
  iterate 3 cases hmoved.symm.trans hfalse
  obtain ⟨place, place', hboth⟩ := exists_bothStaged hkeys hmessages
  have hsource := mt (hboth.stays.namesLink_iff _).mp
    (hapart.unlinked generation.keys.stagingPath (by simp [stagingPaths]))
  have htarget := mt (hboth.stays.namesLink_iff _).mp (hapart.keys_unlinked hmoved)
  refine ⟨two, place, place', hboth, stays_rename hsource htarget hrename, ?_, hfail⟩
  -- staging the messages has not overwritten the constants
  have hview := hboth.view_keys_eq (mt (hboth.stays.meet_iff _ _).mp hapart.not_meet.2.2)
  exact found_of_rename_eq_ok hsource htarget hrename hboth.leads_keys.aim_eq hview

/-- The constants are moved exactly if both files can be staged and their target takes a file. -/
theorem keysMoved_iff (hapart : generation.Apart fs) :
    generation.keysMoved fs = true ↔
      generation.StagesBoth fs ∧ fs.Replaceable generation.keys.path := by
  constructor
  · intro hmoved
    obtain ⟨one, two, three, hkeys, hmessages, hrename⟩ := keysMoved_eq_true_iff.mp hmoved
    obtain ⟨place, place', hboth⟩ := exists_bothStaged hkeys hmessages
    have hreplaceable : two.Replaceable generation.keys.path := replaceable_of_rename_eq_ok hrename
    exact ⟨⟨one, two, hkeys, hmessages⟩, hboth.stays.replaceable_before hreplaceable⟩
  · rintro ⟨⟨one, two, hkeys, hmessages⟩, hreplaceable⟩
    obtain ⟨place, place', hboth⟩ := exists_bothStaged hkeys hmessages
    have htarget : two.Replaceable generation.keys.path :=
      hboth.stays.replaceable hapart.not_meet.1 (hapart.unmade _ (by simp)) hreplaceable
    have hlink : ¬ two.NamesLink generation.keys.stagingPath :=
      mt (hboth.stays.namesLink_iff _).mp (hapart.unlinked _ (by simp [stagingPaths]))
    have hview := hboth.view_keys_eq (mt (hboth.stays.meet_iff _ _).mp hapart.not_meet.2.2)
    obtain ⟨three, hrename⟩ :=
      OutputFile.exists_rename_eq_ok htarget hboth.flaw?_keys hlink hboth.leads_keys hview
    exact keysMoved_eq_true_iff.mpr ⟨one, two, three, hkeys, hmessages, hrename⟩

/-- The constants are moved only if the messages cannot be: their target does not end in a name, or
it is that of a directory. -/
theorem not_replaceable_of_moved (hapart : generation.Apart fs)
    (h : generation.write fs = (fs', .error e)) (hmoved : generation.keysMoved fs = true) :
    ¬ fs.Replaceable generation.messages.path := by
  -- otherwise the target takes a file to the end, and the messages are still staged
  intro hreplaceable
  obtain ⟨two, place, place', hboth, hthree, -, hfail⟩ := hapart.exists_moved h hmoved
  have hstays : fs.Stays (generation.keys.path :: generation.stagingPaths) generation.above
      fs' := by
    refine (hboth.stays.mono ?_ ?_).trans (hthree.mono ?_ ?_) <;> simp [stagingPaths]
  have htarget : fs'.Replaceable generation.messages.path :=
    hstays.replaceable hapart.not_meet.2.1 (hapart.unmade _ (by simp)) hreplaceable
  have hlink : ¬ fs'.NamesLink generation.messages.stagingPath :=
    mt (hstays.namesLink_iff _).mp (hapart.unlinked _ (by simp [stagingPaths]))
  have hkeys : ¬ two.Meet generation.keys.path generation.messages.stagingPath :=
    mt (hboth.stays.meet_iff _ _).mp (hapart.not_meet.1 _ (by simp [stagingPaths]))
  obtain ⟨hview, hleads⟩ := hboth.messages_kept hthree
    (mt (hboth.stays.meet_iff _ _).mp hapart.not_meet.2.2) hkeys
  obtain ⟨moved, hrename⟩ :=
    OutputFile.exists_rename_eq_ok htarget hboth.flaw?_messages hlink hleads hview
  exact hfail moved hrename

end Apart

/-- **What is found after a failed write**: the old messages, and the old constants unless they are
moved. -/
theorem found_of_write_eq_error (hapart : generation.Apart fs)
    (h : generation.write fs = (fs', .error e)) :
    fs'.found generation.messages.path = fs.found generation.messages.path ∧
      fs'.found generation.keys.path =
        if generation.keysMoved fs then some (.file generation.keys.content.toUTF8)
        else fs.found generation.keys.path := by
  cases hmoved : generation.keysMoved fs with
  | false =>
    have hstays := stays_of_not_moved hapart.unlinked h hmoved
    exact ⟨hapart.found_messages_eq (hstays.mono (List.subset_cons_self _ _) (List.Subset.refl _)),
      hapart.found_keys_eq hstays⟩
  | true =>
    obtain ⟨two, place, place', hboth, hthree, hfound, -⟩ := hapart.exists_moved h hmoved
    refine ⟨hapart.found_messages_eq ?_, hfound⟩
    refine (hboth.stays.mono ?_ ?_).trans (hthree.mono ?_ ?_) <;> simp [stagingPaths]

/-- **When a failed write keeps both outputs** that are apart: exactly if some file cannot be staged,
or the target of the constants takes no file, or the same constants were there before. If the target
of the messages takes a file, a write can only fail in one of the first two ways. -/
theorem outputs_kept_iff_of_write_eq_error (hapart : generation.Apart fs)
    (h : generation.write fs = (fs', .error e)) :
    ((fs'.found generation.keys.path = fs.found generation.keys.path ∧
        fs'.found generation.messages.path = fs.found generation.messages.path) ↔
      (generation.StagesBoth fs → fs.Replaceable generation.keys.path →
        fs.found generation.keys.path = some (.file generation.keys.content.toUTF8))) ∧
    (fs.Replaceable generation.messages.path →
      ¬ (generation.StagesBoth fs ∧ fs.Replaceable generation.keys.path)) := by
  obtain ⟨hmessages, hkeys⟩ := found_of_write_eq_error hapart h
  rw [← and_imp, ← hapart.keysMoved_iff]
  refine ⟨?_, ?_⟩
  · rw [hkeys]
    cases generation.keysMoved fs <;> simp [hmessages, eq_comm]
  · intro hreplaceable hmoved
    exact hapart.not_replaceable_of_moved h hmoved hreplaceable

/-! ## Messages that cannot be moved -/

/-- A project with the constants of an earlier run, and a directory in the place of the messages. -/
def blockedProject : FileSystem where
  root := .directory [
    ("messages", .directory [("en.json", .file "\x7b\"a\":\"A\"\x7d".toUTF8)]),
    ("src", .directory [("generated", .directory [
      ("locale_keys.rs", .file "old keys".toUTF8), ("codegen_loader.rs", .directory [])])])]
  workingDirectory := []

/-- The default settings for one source file. -/
def englishOnly : Settings :=
  { sourceFile := some "en.json" }

theorem generate_blockedProject :
    (match generate blockedProject ⟨""⟩ englishOnly with
    | .ok made => decide (made.Apart blockedProject ∧ made.keysMoved blockedProject = true ∧
        blockedProject.found made.keys.path ≠ some (.file made.keys.content.toUTF8) ∧
        (made.write blockedProject).2.isOk = false)
    | .error _ => false) = true := by
  decide +kernel

/-- A write that fails replaces the constants if only the messages cannot be moved. -/
theorem exists_outputs_not_kept :
    englishOnly.flaw? = none ∧ ∃ made fs' e,
      generate blockedProject ⟨""⟩ englishOnly = .ok made ∧ made.Apart blockedProject ∧
      made.write blockedProject = (fs', .error e) ∧
      ¬ (fs'.found made.keys.path = blockedProject.found made.keys.path ∧
        fs'.found made.messages.path = blockedProject.found made.messages.path) := by
  refine ⟨by decide +kernel, ?_⟩
  have hcheck := generate_blockedProject
  split at hcheck
  · next made hmade =>
    obtain ⟨hapart, hmoved, hother, hfailed⟩ := of_decide_eq_true hcheck
    cases hwrite : made.write blockedProject with
    | mk fs' result =>
      cases result with
      | ok => simp [hwrite, Except.isOk, Except.toBool] at hfailed
      | error e =>
        refine ⟨made, fs', e, hmade, hapart, hwrite, fun hkept => hother ?_⟩
        obtain ⟨hstages, hreplaceable⟩ := hapart.keysMoved_iff.mp hmoved
        exact (outputs_kept_iff_of_write_eq_error hapart hwrite).1.mp hkept hstages hreplaceable
  · cases hcheck

end Generation

end MessageCatalog
