import MessageCatalog.Proofs.FileTree.Effects
import MessageCatalog.Proofs.Path

/-!
# Spellings of a path

Idle segments can be written into a path anywhere without a change to where it leads. Two paths that
differ in nothing else are spellings of one path: whatever the tree, they are meant for the same
place, and so are the entries beside them.

## Main definitions

* `Path.names` — the segments of a path that are not idle.
* `Path.Alike` — two paths differ in idle segments only.
* `Path.SpellsOut` — an absolute path is another spelling of a relative one below a folder.
* `Path.IsTidy` — a path has no idle segments.

## Main results

* `Path.alike_join_iff`: when two paths below a folder are spellings of one path
* `Path.eq_of_alike_of_isTidy`: a path has one tidy spelling only
* `Path.Alike.aim?_eq`, `Path.Alike.entry`: spellings of one path are meant for one place
-/

namespace MessageCatalog

/-- Whether a step goes somewhere. -/
def Step.isMove : Step → Bool
  | .here | .slash => false
  | .up | .name _ => true

namespace Path

variable {p q base : Path}

/-! ## Spellings -/

/-- The segments of a path that are not idle: what is left of it without `.` segments and repeated
slashes, but for a slash in front. -/
def names (p : Path) : List Segment :=
  (splitAtSlashes p.text.toList).filter fun segment => !isIdle segment

/-- Two paths differ in idle segments only. -/
structure Alike (p q : Path) : Prop where
  isAbsolute_eq : p.isAbsolute = q.isAbsolute
  names_eq : p.names = q.names

instance (p q : Path) : Decidable (p.Alike q) :=
  decidable_of_iff (p.isAbsolute = q.isAbsolute ∧ p.names = q.names)
    ⟨fun h => ⟨h.1, h.2⟩, fun h => ⟨h.1, h.2⟩⟩

theorem Alike.symm (h : p.Alike q) : q.Alike p :=
  ⟨h.isAbsolute_eq.symm, h.names_eq.symm⟩

/-- An absolute path has the names of an absolute folder and then those of a relative path. -/
structure SpellsOut (base p q : Path) : Prop where
  base_isAbsolute : base.isAbsolute = true
  isAbsolute : p.isAbsolute = true
  isRelative : q.isAbsolute = false
  names_eq : p.names = base.names ++ q.names

theorem names_join (h : p.isAbsolute = false) : (base.join p).names = base.names ++ p.names := by
  simp only [names, ← List.filterMap_eq_filter]
  exact filterMap_splitAtSlashes_join rfl base h

theorem isAbsolute_join_eq (base p : Path) :
    (base.join p).isAbsolute = (base.isAbsolute || p.isAbsolute) := by
  cases hp : p.isAbsolute with
  | true => simp [hp]
  | false =>
    rw [isAbsolute, toList_text_join hp, isAbsolute]
    by_cases hempty : base.text = ""
    · simpa [hempty, isAbsolute] using hp
    · obtain ⟨c, cs, htext⟩ := List.exists_cons_of_ne_nil (mt String.toList_eq_nil_iff.mp hempty)
      rw [htext]
      split <;> simp

/-- An absolute path is another spelling of one below a folder if it spells that out. -/
theorem alike_join_iff_spellsOut (hp : p.isAbsolute = true) (hq : q.isAbsolute = false) :
    p.Alike (base.join q) ↔ SpellsOut base p q := by
  constructor
  · rintro ⟨habsolute, hnames⟩
    rw [hp, isAbsolute_join_eq, hq, Bool.or_false] at habsolute
    rw [names_join hq] at hnames
    exact ⟨habsolute.symm, hp, hq, hnames⟩
  · rintro ⟨hbase, -, -, hnames⟩
    exact ⟨by rw [isAbsolute_join_eq, hbase, hp, Bool.true_or], by rw [names_join hq, hnames]⟩

/-- **When two paths below a folder are spellings of one path**: if they are so themselves, or one
is absolute and spells out the other. -/
theorem alike_join_iff (base p q : Path) :
    (base.join p).Alike (base.join q) ↔
      p.Alike q ∨ SpellsOut base p q ∨ SpellsOut base q p := by
  -- a path spells out another one only if just the first of them is absolute
  have hnot : ∀ {p q : Path}, p.isAbsolute = q.isAbsolute → ¬ SpellsOut base p q := by
    rintro p q hsame ⟨-, hp, hq, -⟩
    rw [hp, hq] at hsame
    cases hsame
  cases hp : p.isAbsolute with
  | true =>
    rw [join_of_isAbsolute hp]
    cases hq : q.isAbsolute with
    | true => simp [hq, hnot (hp.trans hq.symm), hnot (hq.trans hp.symm)]
    | false =>
      have hdiffer : ¬ p.Alike q := by
        intro h
        simp [h.isAbsolute_eq, hq] at hp
      have hother : ¬ SpellsOut base q p := by
        intro h
        simp [h.isAbsolute] at hq
      simp [alike_join_iff_spellsOut hp hq, hdiffer, hother]
  | false =>
    cases hq : q.isAbsolute with
    | true =>
      have hdiffer : ¬ p.Alike q := by
        intro h
        simp [h.isAbsolute_eq, hq] at hp
      have hother : ¬ SpellsOut base p q := by
        intro h
        simp [h.isAbsolute] at hp
      rw [join_of_isAbsolute hq, ← alike_join_iff_spellsOut hq hp]
      simp only [hdiffer, hother, false_or]
      exact ⟨Alike.symm, Alike.symm⟩
    | false =>
      simp only [hnot (hp.trans hq.symm), hnot (hq.trans hp.symm), or_false]
      -- both begin with the names of the folder
      constructor
      · rintro ⟨-, hnames⟩
        rw [names_join hp, names_join hq, List.append_cancel_left_eq] at hnames
        exact ⟨hp.trans hq.symm, hnames⟩
      · rintro ⟨-, hnames⟩
        exact ⟨by rw [isAbsolute_join_eq, isAbsolute_join_eq, hp, hq],
          by rw [names_join hp, names_join hq, hnames]⟩

/-! ## Tidy paths -/

/-- A path has no idle segments, but for what is in front of an absolute one. -/
structure IsTidy (p : Path) : Prop where
  lead : p.split.1 ≠ .here
  segments : ∀ segment ∈ p.split.2, isIdle segment = false

instance (p : Path) : Decidable p.IsTidy :=
  decidable_of_iff (p.split.1 ≠ .here ∧ ∀ segment ∈ p.split.2, isIdle segment = false)
    ⟨fun h => ⟨h.1, h.2⟩, fun h => ⟨h.1, h.2⟩⟩

theorem IsTidy.names_eq (h : p.IsTidy) : p.names = p.split.2 := by
  have hnames : (p.split.2.filter fun segment => !isIdle segment) = p.split.2 :=
    List.filter_eq_self.mpr fun segment hsegment => by simp [h.segments segment hsegment]
  rw [names, splitAtSlashes_text, List.filter_append, hnames]
  cases hlead : p.split.1 with
  | root => rfl
  | here => exact absurd hlead h.lead
  | nothing => rfl

/-- **A path has one tidy spelling only.** -/
theorem eq_of_alike_of_isTidy (h : p.Alike q) (hp : p.IsTidy) (hq : q.IsTidy) : p = q := by
  -- the lead is the root for both paths, or there is none
  have hlead : p.split.1 = q.split.1 := by
    have hroot := h.isAbsolute_eq
    rw [Bool.eq_iff_iff, isAbsolute_iff_split, isAbsolute_iff_split] at hroot
    have hhere := hp.lead
    have hhere' := hq.lead
    generalize p.split.1 = lead at hroot hhere ⊢
    generalize q.split.1 = lead' at hroot hhere' ⊢
    cases lead <;> cases lead' <;> simp at hroot hhere hhere' ⊢
  have htext : splitAtSlashes p.text.toList = splitAtSlashes q.text.toList := by
    rw [splitAtSlashes_text, splitAtSlashes_text, hlead, ← hp.names_eq, ← hq.names_eq, h.names_eq]
  have htexts := congrArg joinSegments htext
  rw [joinSegments_splitAtSlashes, joinSegments_splitAtSlashes, String.toList_inj] at htexts
  cases p
  cases q
  exact congrArg Path.mk htexts

/-- A `.` in front and repeated slashes make another spelling of a tidy path. -/
example : (⟨"./a//b"⟩ : Path).Alike ⟨"a/b"⟩ ∧ (⟨"a/b"⟩ : Path).IsTidy := by
  decide

/-! ## Steps without idle ones -/

/-- The steps of a path that go somewhere are those of its names. -/
theorem filter_isMove_ofText (p : Path) :
    (Step.ofText p.text).filter Step.isMove = p.names.filterMap Step.ofSegment? := by
  rw [Step.ofText, names, List.filter_filterMap, List.filterMap_filter]
  congr 1
  funext segment
  -- empty segments are no steps, and `.` segments are idle ones
  by_cases hempty : segment = []
  · simp [hempty, Step.ofSegment?, isIdle]
  by_cases hdot : segment = ['.']
  · simp [hdot, Step.ofSegment?, isIdle, Step.isMove]
  · have hidle : isIdle segment = false := by simp [isIdle, hempty, hdot]
    rw [hidle, Step.ofSegment?, if_neg hempty, if_neg hdot]
    split <;> rfl

namespace Alike

/-- Spellings of one path have the same steps, but for idle ones. -/
theorem filter_isMove_ofText (h : p.Alike q) :
    (Step.ofText p.text).filter Step.isMove = (Step.ofText q.text).filter Step.isMove := by
  rw [Path.filter_isMove_ofText, Path.filter_isMove_ofText, h.names_eq]

/-- **Spellings of one path end in the same name**, in directories that have the same steps. -/
theorem entry (h : p.Alike q) {name name' : String} {slash slash' : Bool}
    (hlast : FileSystem.lastStep p = .name name slash)
    (hlast' : FileSystem.lastStep q = .name name' slash') :
    name = name' ∧ (Step.ofText p.text).dropLast.filter Step.isMove =
      (Step.ofText q.text).dropLast.filter Step.isMove := by
  obtain ⟨above, habove⟩ := List.getLast?_eq_some_iff.mp (getLast?_of_lastStep hlast)
  obtain ⟨above', habove'⟩ := List.getLast?_eq_some_iff.mp (getLast?_of_lastStep hlast')
  -- the names are the last steps that go somewhere
  have hsteps := h.filter_isMove_ofText
  rw [habove, habove', List.filter_append, List.filter_append] at hsteps
  obtain ⟨hfront, hend⟩ := List.append_inj' hsteps rfl
  rw [habove, habove', List.dropLast_concat, List.dropLast_concat]
  exact ⟨Step.name.inj (List.singleton_inj.mp hend), hfront⟩

end Alike

end Path

/-! ## Where spellings lead -/

theorem aim_append_filter_isMove (v : View) (links : Nat) (place : Place)
    (front steps : List Step) :
    aim v links place (front ++ steps.filter Step.isMove) = aim v links place (front ++ steps) := by
  -- the steps in front are those that have been gone through
  induction steps generalizing front with
  | nil => rfl
  | cons step rest ih =>
    rw [List.filter_cons]
    split
    · have hfront := ih (front ++ [step])
      rwa [List.append_assoc, List.append_assoc] at hfront
    · next hidle =>
      have hstep : step = .here ∨ step = .slash := by
        cases step <;> simp [Step.isMove] at hidle ⊢
      rw [ih, aim_append_idle_cons hstep]

/-- The aim depends on the steps that go somewhere. -/
theorem aim_eq_of_filter_isMove {v : View} {links : Nat} {place : Place} {steps steps' : List Step}
    (h : steps.filter Step.isMove = steps'.filter Step.isMove) :
    aim v links place steps = aim v links place steps' := by
  calc aim v links place steps
      = aim v links place (steps.filter Step.isMove) :=
        (aim_append_filter_isMove v links place [] steps).symm
    _ = aim v links place (steps'.filter Step.isMove) := by rw [h]
    _ = aim v links place steps' := aim_append_filter_isMove v links place [] steps'

namespace Path.Alike

variable {p q : Path}

theorem start_eq (h : p.Alike q) (fs : FileSystem) : fs.start p = fs.start q := by
  rw [FileSystem.start, FileSystem.start, h.isAbsolute_eq]

/-- **Spellings of one path are meant for one place**, whatever the tree. -/
theorem aim?_eq (h : p.Alike q) (fs : FileSystem) : fs.aim? p = fs.aim? q := by
  obtain ⟨idle, htext, hidle⟩ := FileSystem.ofWholeText_idle p.text
  obtain ⟨idle', htext', hidle'⟩ := FileSystem.ofWholeText_idle q.text
  rw [FileSystem.aim?, FileSystem.aim?, h.start_eq, htext, htext', aim_append_idle hidle,
    aim_append_idle hidle']
  exact aim_eq_of_filter_isMove h.filter_isMove_ofText

end Path.Alike

end MessageCatalog
