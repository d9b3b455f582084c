import MessageCatalog.Proofs.Path.Parents
import MessageCatalog.Settings.Location

/-!
# The search for settings

The search looks at a directory and then, unless it ends there, at the one above. What it finds is
said by the chain of paths from where it starts: the settings file of the first directory that has
one, unless a directory before that is the root of a repository.

## Main definitions

* `Settings.HasSettings`, `Settings.IsRepository` — a directory has a settings file, or is the root
  of a repository.
* `Settings.ComesTo` — the search along a chain of paths gets to one of them.
* `Settings.MarkedAlike` — a directory has the same marks in two file systems.

## Main results

* `Settings.find?_eq`: the search as a loop that goes from a path to its parent
* `Settings.find?_eq_some_iff`: what is found along the chain of a path
* `Settings.find?_congr`: where the search ends, nothing above has a say
* `Settings.find?_along_chain`: the search ends, and what it finds
-/

namespace MessageCatalog.Settings

variable {fs fs' : FileSystem} {start directory path : Path} {chain nearer above : List Path}

/-- A directory has a settings file. -/
def HasSettings (fs : FileSystem) (directory : Path) : Prop :=
  fs.exists? (directory.join fileName) = true

/-- A directory is the root of a repository. -/
def IsRepository (fs : FileSystem) (directory : Path) : Prop :=
  fs.exists? (directory.join repositoryMark) = true

/-- The search along a chain of paths gets to one of them: it ends at none of those before it. -/
def ComesTo (fs : FileSystem) (chain : List Path) (directory : Path) : Prop :=
  ∃ nearer above, chain = nearer ++ directory :: above ∧
    ∀ other ∈ nearer, ¬ HasSettings fs other ∧ ¬ IsRepository fs other

/-- A directory has the same marks in two file systems, as far as the search asks for them. -/
structure MarkedAlike (fs fs' : FileSystem) (directory : Path) : Prop where
  settings : HasSettings fs' directory ↔ HasSettings fs directory
  repository : IsRepository fs' directory ↔ IsRepository fs directory

/-! ## The loop -/

/-- **The search as a loop**: a settings file is looked for, and then the root of a repository, and
then the search goes on with the parent. -/
theorem find?_eq (fs : FileSystem) (start : Path) :
    find? fs start =
      if fs.exists? (start.join fileName) then some (start.join fileName)
      else if fs.exists? (start.join repositoryMark) then none
      else start.parent?.bind (find? fs) := by
  cases hparent : start.parent? with
  | none => simp [find?, Path.ancestors_of_parent?_eq_none hparent, findAmong]
  | some parent => simp [find?, Path.ancestors_of_parent? hparent, findAmong]

theorem find?_of_hasSettings (h : HasSettings fs start) :
    find? fs start = some (start.join fileName) :=
  (find?_eq fs start).trans (if_pos h)

theorem find?_of_isRepository (hsettings : ¬ HasSettings fs start) (h : IsRepository fs start) :
    find? fs start = none :=
  (find?_eq fs start).trans ((if_neg hsettings).trans (if_pos h))

theorem find?_eq_bind_parent? (hsettings : ¬ HasSettings fs start)
    (hrepository : ¬ IsRepository fs start) :
    find? fs start = start.parent?.bind (find? fs) :=
  (find?_eq fs start).trans ((if_neg hsettings).trans (if_neg hrepository))

/-! ## Along the chain -/

theorem comesTo_cons_iff :
    ComesTo fs (start :: chain) directory ↔ directory = start ∨
      ¬ HasSettings fs start ∧ ¬ IsRepository fs start ∧ ComesTo fs chain directory := by
  constructor
  · rintro ⟨nearer, above, hsplit, hnearer⟩
    rcases List.cons_eq_append_iff.mp hsplit with ⟨rfl, hhead⟩ | ⟨rest, rfl, rfl⟩
    · exact .inl (List.cons.inj hhead).1
    · obtain ⟨⟨hsettings, hrepository⟩, hrest⟩ := List.forall_mem_cons.mp hnearer
      exact .inr ⟨hsettings, hrepository, rest, above, rfl, hrest⟩
  · rintro (rfl | ⟨hsettings, hrepository, nearer, above, rfl, hnearer⟩)
    · exact ⟨[], chain, rfl, by simp⟩
    · exact ⟨start :: nearer, above, rfl,
        List.forall_mem_cons.mpr ⟨⟨hsettings, hrepository⟩, hnearer⟩⟩

theorem not_comesTo_nil : ¬ ComesTo fs [] directory := by
  rintro ⟨nearer, above, hsplit, -⟩
  simp at hsplit

/-- One step of the search, and what the rest of it finds along the rest of the chain. -/
theorem find?_eq_some_iff_of_rest
    (hrest : start.parent?.bind (find? fs) = some path ↔ ∃ directory,
      path = directory.join fileName ∧ HasSettings fs directory ∧ ComesTo fs above directory) :
    find? fs start = some path ↔ ∃ directory, path = directory.join fileName ∧
      HasSettings fs directory ∧ ComesTo fs (start :: above) directory := by
  simp only [comesTo_cons_iff]
  -- a settings file comes first, and then the root of a repository, as in the loop
  by_cases hsettings : HasSettings fs start
  · rw [find?_of_hasSettings hsettings, Option.some.injEq]
    constructor
    · rintro rfl
      exact ⟨start, rfl, hsettings, .inl rfl⟩
    · rintro ⟨directory, rfl, -, rfl | ⟨hno, -⟩⟩
      · rfl
      · exact absurd hsettings hno
  by_cases hrepository : IsRepository fs start
  · rw [find?_of_isRepository hsettings hrepository]
    constructor
    · intro hnone
      cases hnone
    · rintro ⟨directory, rfl, hhas, rfl | ⟨-, hno, -⟩⟩
      · exact absurd hhas hsettings
      · exact absurd hrepository hno
  · rw [find?_eq_bind_parent? hsettings hrepository, hrest]
    constructor
    · rintro ⟨directory, rfl, hhas, hcomes⟩
      exact ⟨directory, rfl, hhas, .inr ⟨hsettings, hrepository, hcomes⟩⟩
    · rintro ⟨directory, rfl, hhas, rfl | ⟨-, -, hcomes⟩⟩
      · exact absurd hhas hsettings
      · exact ⟨directory, rfl, hhas, hcomes⟩

/-- **What is found along the chain of a path.** -/
theorem find?_eq_some_iff (h : start.Climbs chain) :
    find? fs start = some path ↔ ∃ directory, path = directory.join fileName ∧
      HasSettings fs directory ∧ ComesTo fs chain directory := by
  induction h with
  | stop hparent =>
    apply find?_eq_some_iff_of_rest
    rw [hparent]
    simp [not_comesTo_nil]
  | up hparent _ ih =>
    apply find?_eq_some_iff_of_rest
    rw [hparent]
    exact ih

/-- One step of the search in two file systems, the rest of which comes to the same. -/
theorem find?_congr_of_rest (hsame : MarkedAlike fs fs' start)
    (hrest : ¬ HasSettings fs start → ¬ IsRepository fs start →
      start.parent?.bind (find? fs') = start.parent?.bind (find? fs)) :
    find? fs' start = find? fs start := by
  by_cases hsettings : HasSettings fs start
  · rw [find?_of_hasSettings hsettings, find?_of_hasSettings (hsame.settings.mpr hsettings)]
  have hsettings' : ¬ HasSettings fs' start := mt hsame.settings.mp hsettings
  by_cases hrepository : IsRepository fs start
  · rw [find?_of_isRepository hsettings hrepository,
      find?_of_isRepository hsettings' (hsame.repository.mpr hrepository)]
  · rw [find?_eq_bind_parent? hsettings hrepository,
      find?_eq_bind_parent? hsettings' (mt hsame.repository.mp hrepository),
      hrest hsettings hrepository]

/-- **Where the search ends, nothing above has a say.** -/
theorem find?_congr {last : Path} (h : start.Climbs (nearer ++ last :: above))
    (hlast : HasSettings fs last ∨ IsRepository fs last)
    (hsame : ∀ directory ∈ nearer ++ [last], MarkedAlike fs fs' directory) :
    find? fs' start = find? fs start := by
  induction nearer generalizing start with
  | nil =>
    obtain rfl : start = last := by cases h <;> rfl
    apply find?_congr_of_rest (hsame start (by simp))
    -- the search does not get beyond the last directory
    intro hsettings hrepository
    exact absurd hlast (not_or.mpr ⟨hsettings, hrepository⟩)
  | cons first nearer ih =>
    -- the chain goes on behind the first path, so there is a parent
    generalize hchain : first :: nearer ++ last :: above = chain at h
    cases h with
    | stop => simp at hchain
    | up hparent habove =>
      obtain ⟨rfl, rfl⟩ := List.cons.inj hchain
      apply find?_congr_of_rest (hsame first (by simp))
      intro _ _
      rw [hparent]
      apply ih habove
      intro directory hdirectory
      exact hsame directory (List.mem_cons_of_mem _ hdirectory)

/-- **The search for settings.** A chain of paths that it goes along is there, and it is finite,
with no more paths above the first one than there are characters in it. The settings file of a
directory is found exactly if none of those before it has one or is the root of a repository;
otherwise nothing is found. What is above the first directory that has one or the other does not
matter. -/
theorem find?_along_chain (fs : FileSystem) (start : Path) :
    (∃ chain, start.Climbs chain) ∧ ∀ chain, start.Climbs chain →
      chain.length ≤ start.text.length + 1 ∧
      (∀ path, find? fs start = some path ↔ ∃ directory, path = directory.join fileName ∧
        HasSettings fs directory ∧ ComesTo fs chain directory) ∧
      (find? fs start = none ↔ ∀ directory, ComesTo fs chain directory →
        ¬ HasSettings fs directory) ∧
      ∀ fs' nearer last above, chain = nearer ++ last :: above →
        HasSettings fs last ∨ IsRepository fs last →
          (∀ directory ∈ nearer ++ [last], MarkedAlike fs fs' directory) →
            find? fs' start = find? fs start := by
  refine ⟨⟨start.ancestors, Path.climbs_ancestors start⟩, ?_⟩
  intro chain hclimbs
  refine ⟨hclimbs.length_le, fun path => find?_eq_some_iff hclimbs, ?_, ?_⟩
  · rw [Option.eq_none_iff_forall_ne_some]
    constructor
    · intro hnone directory hcomes hhas
      exact hnone _ ((find?_eq_some_iff hclimbs).mpr ⟨directory, rfl, hhas, hcomes⟩)
    · intro hnone path hsome
      obtain ⟨directory, -, hhas, hcomes⟩ := (find?_eq_some_iff hclimbs).mp hsome
      exact hnone directory hcomes hhas
  · rintro fs' nearer last above rfl hlast hsame
    exact find?_congr hclimbs hlast hsame

end MessageCatalog.Settings
