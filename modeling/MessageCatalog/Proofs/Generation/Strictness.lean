import MessageCatalog.Proofs.Generation.Choice

/-!
# Strict and lenient runs

A strict run and a lenient one go through the same files and choose the same documents. They part
where the entries of the constants are checked: what a lenient run warns of stops a strict one.

## Main definitions

* `Warning.isSkip` — whether a warning is about a file that is left out, not about an entry.
* `Generation.collisions`, `Generation.invalidEntries` — what the warnings of a generation tell
  about its entries.
* `Generation.strictly` — what a strict run makes of the generation of a lenient one.

## Main results

* `checkEntries_true`: the checks of a strict run are those of a lenient one, with an error for the
  first kind of entries that is found
* `generate_strict`: a strict run is a lenient run and then `Generation.strictly`
* `generate_strict_iff_lenient`: when the two agree, and how they differ
-/

namespace MessageCatalog

/-- Whether a warning is about a file that is left out, not about an entry. -/
def Warning.isSkip : Warning → Bool
  | .skipped _ _ => true
  | _ => false

/-- The collision that a warning is about. -/
def Warning.collision? : Warning → Option Collision
  | .collision found => some found
  | _ => none

/-- The entry that a warning is about because its symbol is no identifier. -/
def Warning.invalidEntry? : Warning → Option Entry
  | .invalidSymbol entry => some entry
  | _ => none

namespace Generation

/-- The collisions that a generation warns of, in order. -/
def collisions (made : Generation) : List Collision :=
  made.warnings.filterMap Warning.collision?

/-- The entries that a generation warns of because their symbols are no identifiers, in order. -/
def invalidEntries (made : Generation) : List Entry :=
  made.warnings.filterMap Warning.invalidEntry?

/-- What a strict run makes of the generation of a lenient one: collisions stop it, and without any
of them, symbols that are no identifiers do. -/
def strictly (made : Generation) : Except GenerationError Generation :=
  if made.collisions ≠ [] then .error (.collisions made.collisions)
  else if made.invalidEntries ≠ [] then
    .error (.invalidSymbols (made.invalidEntries.map Entry.key))
  else .ok made

/-- The warnings of a generation are about files alone if there is none about an entry. -/
theorem forall_isSkip_iff {made : Generation} :
    (∀ warning ∈ made.warnings, warning.isSkip = true) ↔
      made.collisions = [] ∧ made.invalidEntries = [] := by
  rw [collisions, invalidEntries, List.filterMap_eq_nil_iff, List.filterMap_eq_nil_iff,
    ← forall₂_and]
  refine forall₂_congr fun warning _ => ?_
  cases warning <;> simp [Warning.isSkip, Warning.collision?, Warning.invalidEntry?]

/-- The strict run is told by what the warnings are about. -/
theorem strictly_eq {made : Generation} {collisions : List Collision} {invalid : List Entry}
    (hcollisions : made.warnings.filterMap Warning.collision? = collisions)
    (hinvalid : made.warnings.filterMap Warning.invalidEntry? = invalid) :
    made.strictly =
      if collisions ≠ [] then .error (.collisions collisions)
      else if invalid ≠ [] then .error (.invalidSymbols (invalid.map Entry.key))
      else .ok made := by
  subst hcollisions hinvalid
  rfl

theorem strictly_eq_ok_iff {made other : Generation} :
    made.strictly = .ok other ↔
      (∀ warning ∈ made.warnings, warning.isSkip = true) ∧ made = other := by
  rw [forall_isSkip_iff, strictly]
  split
  · next hcollisions => simp [hcollisions]
  · next hcollisions =>
    split
    · next hinvalid => simp [hinvalid]
    · next hinvalid => simp_all

theorem strictly_eq_error {made : Generation}
    (h : ∃ warning ∈ made.warnings, warning.isSkip = false) :
    made.strictly = .error (if made.collisions = [] then
      .invalidSymbols (made.invalidEntries.map Entry.key) else .collisions made.collisions) := by
  have hsome : ¬ (made.collisions = [] ∧ made.invalidEntries = []) := by
    rw [← forall_isSkip_iff]
    obtain ⟨warning, hmem, hskip⟩ := h
    intro hall
    cases (hall warning hmem).symm.trans hskip
  rw [strictly]
  by_cases hcollisions : made.collisions = []
  · have hinvalid : made.invalidEntries ≠ [] := fun hnil => hsome ⟨hcollisions, hnil⟩
    simp [hcollisions, hinvalid]
  · simp [hcollisions]

end Generation

/-! ## The checks of both runs -/

/-- A lenient run lets all entries pass. -/
theorem checkEntries_false (entries : List Entry) :
    checkEntries false entries = .ok ((findCollisions entries).map .collision ++
      (invalidEntries entries).map .invalidSymbol) := by
  simp [checkEntries]

/-- **The checks of a strict run** are those of a lenient one, but for the first kind of entries
that a lenient one warns of. -/
theorem checkEntries_true (entries : List Entry) :
    checkEntries true entries =
      if findCollisions entries ≠ [] then .error (.collisions (findCollisions entries))
      else if invalidEntries entries ≠ [] then
        .error (.invalidSymbols ((invalidEntries entries).map Entry.key))
      else checkEntries false entries := by
  simp [checkEntries]

section Warnings

variable (selection : Selection) (entries : List Entry)

/-- What a lenient run warns of: the files that are left out, and then its entries. -/
def Selection.lenientWarnings : List Warning :=
  selection.warnings ++
    ((findCollisions entries).map .collision ++ (invalidEntries entries).map .invalidSymbol)

theorem filterMap_collision?_lenientWarnings :
    (selection.lenientWarnings entries).filterMap Warning.collision? = findCollisions entries := by
  simp [Selection.lenientWarnings, Selection.warnings, List.filterMap_map, Function.comp_def,
    Warning.collision?]

theorem filterMap_invalidEntry?_lenientWarnings :
    (selection.lenientWarnings entries).filterMap Warning.invalidEntry? =
      invalidEntries entries := by
  simp [Selection.lenientWarnings, Selection.warnings, List.filterMap_map, Function.comp_def,
    Warning.invalidEntry?]

end Warnings

/-! ## Both runs -/

variable (fs : FileSystem) (root : Path) (settings : Settings)

/-- Documents are chosen before anything is checked. -/
theorem selectDocuments_strict (strict : Bool) :
    selectDocuments fs root { settings with strict := strict } =
      selectDocuments fs root settings := rfl

/-- **A strict run of chosen documents** is a lenient one and then `Generation.strictly`. -/
theorem Selection.generation_strict (selection : Selection) :
    selection.generation root { settings with strict := true } =
      (selection.generation root { settings with strict := false }).bind
        Generation.strictly := by
  rw [generation, generation]
  cases selection.referenceDocument? with
  | none => rfl
  | some reference =>
    simp only [checkEntries_false, checkEntries_true, bind, Except.bind, pure, Except.pure]
    -- the warnings of the lenient run tell which check fails
    rw [Generation.strictly_eq (filterMap_collision?_lenientWarnings selection _)
      (filterMap_invalidEntry?_lenientWarnings selection _)]
    by_cases hcollisions : findCollisions (reference.flatten settings.skipBranchKeys) = []
    · by_cases hinvalid : MessageCatalog.invalidEntries
        (reference.flatten settings.skipBranchKeys) = [] <;> simp [hcollisions, hinvalid]
    · simp [hcollisions]

/-- **A strict run** is a lenient run and then `Generation.strictly`. -/
theorem generate_strict :
    generate fs root { settings with strict := true } =
      (generate fs root { settings with strict := false }).bind Generation.strictly := by
  rw [generate, generate, selectDocuments_strict fs root settings true,
    selectDocuments_strict fs root settings false]
  cases selectDocuments fs root settings with
  | error e => rfl
  | ok selection => exact selection.generation_strict root settings

/-- **Strict and lenient runs** make the same generation as long as no warning is about an entry. A
lenient run that fails fails in the same way if it is strict; one that warns of entries fails with
all collisions that it warns of, or without any of these with the keys of all entries whose symbols
are no identifiers. -/
theorem generate_strict_iff_lenient :
    (∀ made, generate fs root { settings with strict := true } = .ok made ↔
      generate fs root { settings with strict := false } = .ok made ∧
        ∀ warning ∈ made.warnings, warning.isSkip = true) ∧
    (∀ error, generate fs root { settings with strict := false } = .error error →
      generate fs root { settings with strict := true } = .error error) ∧
    ∀ made, generate fs root { settings with strict := false } = .ok made →
      (∃ warning ∈ made.warnings, warning.isSkip = false) →
        generate fs root { settings with strict := true } =
          .error (if made.collisions = [] then
            .invalidSymbols (made.invalidEntries.map Entry.key) else
            .collisions made.collisions) := by
  rw [generate_strict]
  cases generate fs root { settings with strict := false } with
  | error e => simp [Except.bind]
  | ok lenient =>
    refine ⟨fun made => ?_, by simp, ?_⟩
    · rw [Except.bind, Generation.strictly_eq_ok_iff, Except.ok.injEq]
      constructor
      · rintro ⟨hskip, rfl⟩
        exact ⟨rfl, hskip⟩
      · rintro ⟨rfl, hskip⟩
        exact ⟨hskip, rfl⟩
    · rintro made ⟨⟩ hentry
      exact Generation.strictly_eq_error hentry

/-- A lenient run leaves two files out and warns of a collision and of a symbol that is no
identifier; if it is strict, the collision stops it. -/
theorem generate_strict_mixedProject :
    ∃ made, generate mixedProject ⟨""⟩ { behindOthers with strict := false } = .ok made ∧
      made.warnings.length = 4 ∧ (∃ warning ∈ made.warnings, warning.isSkip = false) ∧
      made.invalidEntries.map Entry.key = ["1"] ∧
      generate mixedProject ⟨""⟩ { behindOthers with strict := true } =
        .error (.collisions [⟨"x_y", ["x.y", "x_y"]⟩]) := by
  have hcheck : isOkAnd (generate mixedProject ⟨""⟩ behindOthers) (fun made =>
      made.warnings.length = 4 ∧ (∃ warning ∈ made.warnings, warning.isSkip = false) ∧
        made.invalidEntries.map Entry.key = ["1"] ∧
        made.collisions = [⟨"x_y", ["x.y", "x_y"]⟩]) = true := by
    rw [generate, selectDocuments_mixedProject]
    decide +kernel
  obtain ⟨made, hmade, hfacts⟩ := exists_of_isOkAnd hcheck
  obtain ⟨hwarnings, hentry, hinvalid, hcollisions⟩ := of_decide_eq_true hfacts
  have hstrict :=
    (generate_strict_iff_lenient mixedProject ⟨""⟩ behindOthers).2.2 made hmade hentry
  rw [hcollisions] at hstrict
  exact ⟨made, hmade, hwarnings, hentry, hinvalid, hstrict⟩

end MessageCatalog
