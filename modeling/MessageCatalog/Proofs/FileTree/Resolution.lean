import MessageCatalog.FileTree.Walk
import MessageCatalog.Proofs.FileTree.View

/-!
# Where a path leads

A walk reads the tree through its view only, and it is given here by rules: one for each kind of
step. Beside it stands the aim of a path, the place that its links alone determine. The aim takes
every name that is no link for a directory, so it does not change when directories are made or
files are written, and it says where a walk ends if the walk ends at all.

## Main definitions

* `Leads` — the rules of a walk.
* `aim` — the place that a path is meant for, if its links can be followed.
* `SameLinks` — two views with the same links.

## Main results

* `walk_eq_ok_iff`: the walk follows the rules
* `Leads.aim_eq`: a walk ends at the aim
* `aim_congr`: the aim depends on the links only
* `Leads.of_sameLinks`: a walk still leads to its end when files and directories are added
-/

namespace MessageCatalog

/-- The place that the target of a link is walked from. -/
def linkStart (place : Place) (target : String) : Place :=
  if Path.isAbsolute ⟨target⟩ then [] else place

/-- The place where a walk ends. -/
def Landing.place : Landing → Place
  | .node place => place
  | .vacant directory name => directory ++ [name]

/-- The rules of a walk that may follow a number of links. -/
inductive Leads (v : View) : Nat → Place → List Step → Landing → Prop where
  | arrive {links place} : Leads v links place [] (.node place)
  | stay {links place step rest landing} :
      step = .here ∨ step = .slash → v place = some .directory →
      Leads v links place rest landing → Leads v links place (step :: rest) landing
  | up {links place rest landing} :
      v place = some .directory → Leads v links place.dropLast rest landing →
      Leads v links place (.up :: rest) landing
  | vacant {links place name} :
      v place = some .directory → isTooLong name = false → v (place ++ [name]) = none →
      Leads v links place [.name name] (.vacant place name)
  | follow {links place name rest target landing} :
      v place = some .directory → isTooLong name = false →
      v (place ++ [name]) = some (.link target) →
      Leads v links (linkStart place target) (Step.ofWholeText target ++ rest) landing →
      Leads v (links + 1) place (.name name :: rest) landing
  | enter {links place name rest kind landing} :
      v place = some .directory → isTooLong name = false →
      v (place ++ [name]) = some kind → (∀ target, kind ≠ .link target) →
      Leads v links (place ++ [name]) rest landing →
      Leads v links place (.name name :: rest) landing

namespace FileNode

/-- What a walk does with a link when it may follow a number of links. -/
def followLink (root : FileNode) (making : Bool) :
    Nat → Place → String → List Step → Except FileError Landing
  | 0, _, _, _ => .error .tooManyLinks
  | links + 1, place, target, rest =>
    root.walk making links (linkStart place target) (Step.ofWholeText target ++ rest)

theorem walk_eq_walkWith (root : FileNode) (making : Bool) (links : Nat) :
    root.walk making links = root.walkWith making (root.followLink making links) := by
  cases links <;> rfl

theorem leads_of_walkWith {root : FileNode} {making : Bool} {links : Nat}
    (hfollow : ∀ place name target rest landing, root.kindAt place = some .directory →
      isTooLong name = false → root.kindAt (place ++ [name]) = some (.link target) →
      root.followLink making links place target rest = .ok landing →
      Leads root.kindAt links place (.name name :: rest) landing)
    {place : Place} {steps : List Step} {landing : Landing}
    (h : root.walkWith making (root.followLink making links) place steps = .ok landing) :
    Leads root.kindAt links place steps landing := by
  induction steps generalizing place with
  | nil =>
    rw [walkWith] at h
    obtain rfl := Except.ok.inj h
    exact .arrive
  | cons step rest ih =>
    rw [walkWith] at h
    split at h
    · next entries hplace =>
      have hdirectory := kindAt_eq_directory_iff.mpr ⟨entries, hplace⟩
      cases step with
      | here => exact .stay (.inl rfl) hdirectory (ih h)
      | slash => exact .stay (.inr rfl) hdirectory (ih h)
      | up => exact .up hdirectory (ih h)
      | name name =>
        -- the entry decides between the three rules for names
        have hentry := kindAt_concat hplace name
        simp only at h
        split at h
        · cases h
        split at h
        · cases h
        next hshort =>
        have hshort : isTooLong name = false := by simpa using hshort
        split at h
        · next hnone =>
          rw [hnone] at hentry
          split at h
          · next hrest =>
            obtain rfl := Except.ok.inj h
            obtain rfl := List.isEmpty_iff.mp hrest
            exact .vacant hdirectory hshort hentry
          · cases h
        · next target hlink =>
          rw [hlink] at hentry
          exact hfollow place name target rest landing hdirectory hshort hentry h
        · next child hchild hsome =>
          rw [hsome] at hentry
          refine .enter hdirectory hshort hentry ?_ (ih h)
          intro target hkind
          cases child with
          | link other => exact hchild other rfl
          | file | directory => cases hkind
    · cases h

/-- Whatever a walk arrives at, the rules lead to. -/
theorem leads_of_walk {root : FileNode} {making : Bool} {links : Nat} {place : Place}
    {steps : List Step} {landing : Landing}
    (h : root.walk making links place steps = .ok landing) :
    Leads root.kindAt links place steps landing := by
  induction links generalizing place steps landing with
  | zero =>
    rw [walk_eq_walkWith] at h
    refine leads_of_walkWith (fun _ _ _ _ _ _ _ _ hok => ?_) h
    rw [followLink] at hok
    cases hok
  | succ links ih =>
    rw [walk_eq_walkWith] at h
    refine leads_of_walkWith (fun _ _ _ _ _ hdirectory hshort hlink hok => ?_) h
    rw [followLink] at hok
    exact .follow hdirectory hshort hlink (ih hok)

theorem walk_of_leads {root : FileNode} {links : Nat} {place : Place} {steps : List Step}
    {landing : Landing} (h : Leads root.kindAt links place steps landing) :
    root.walk false links place steps = .ok landing := by
  induction h with
  | arrive => rw [walk_eq_walkWith, walkWith]
  | stay hstep hdirectory _ ih =>
    obtain ⟨entries, hplace⟩ := kindAt_eq_directory_iff.mp hdirectory
    rw [walk_eq_walkWith] at ih ⊢
    rcases hstep with rfl | rfl <;> simpa [walkWith, hplace] using ih
  | up hdirectory _ ih =>
    obtain ⟨entries, hplace⟩ := kindAt_eq_directory_iff.mp hdirectory
    rw [walk_eq_walkWith] at ih ⊢
    simpa [walkWith, hplace] using ih
  | vacant hdirectory hshort hnone =>
    obtain ⟨entries, hplace⟩ := kindAt_eq_directory_iff.mp hdirectory
    rw [kindAt_concat hplace, Option.map_eq_none_iff] at hnone
    simp [walk_eq_walkWith, walkWith, hplace, hshort, hnone]
  | follow hdirectory hshort hlink _ ih =>
    obtain ⟨entries, hplace⟩ := kindAt_eq_directory_iff.mp hdirectory
    rw [kindAt_concat_eq_link_iff hplace] at hlink
    rw [walk_eq_walkWith]
    simpa [walkWith, hplace, hshort, hlink, followLink] using ih
  | enter hdirectory hshort hentry hkind _ ih =>
    obtain ⟨entries, hplace⟩ := kindAt_eq_directory_iff.mp hdirectory
    rw [kindAt_concat hplace, Option.map_eq_some_iff] at hentry
    obtain ⟨child, hchild, rfl⟩ := hentry
    rw [walk_eq_walkWith] at ih ⊢
    cases child with
    | link target => exact absurd rfl (hkind target)
    | file | directory => simpa [walkWith, hplace, hshort, hchild] using ih

/-- **The walk follows the rules**: it ends where they lead. -/
theorem walk_eq_ok_iff {root : FileNode} {links : Nat} {place : Place} {steps : List Step}
    {landing : Landing} :
    root.walk false links place steps = .ok landing ↔
      Leads root.kindAt links place steps landing :=
  ⟨leads_of_walk, walk_of_leads⟩

end FileNode

/-- A walk that may follow more links still leads to its end. -/
theorem Leads.mono {v : View} {links more : Nat} {place : Place} {steps : List Step}
    {landing : Landing} (h : Leads v links place steps landing) (hle : links ≤ more) :
    Leads v more place steps landing := by
  induction h generalizing more with
  | arrive => exact .arrive
  | stay hstep hdirectory _ ih => exact .stay hstep hdirectory (ih hle)
  | up hdirectory _ ih => exact .up hdirectory (ih hle)
  | vacant hdirectory hshort hnone => exact .vacant hdirectory hshort hnone
  | follow hdirectory hshort hlink _ ih =>
    -- one link is followed, so there are as many to follow behind it
    obtain ⟨fewer, rfl⟩ := Nat.exists_eq_add_of_le' hle
    exact .follow hdirectory hshort hlink (ih (Nat.le_add_left _ fewer))
  | enter hdirectory hshort hentry hkind _ ih =>
    exact .enter hdirectory hshort hentry hkind (ih hle)

/-- Walks of the same steps end at one place, however many links they may follow. -/
theorem Leads.unique {root : FileNode} {links more : Nat} {place : Place} {steps : List Step}
    {one other : Landing} (hone : Leads root.kindAt links place steps one)
    (hother : Leads root.kindAt more place steps other) : one = other :=
  Except.ok.inj ((FileNode.walk_of_leads (hone.mono (Nat.le_max_left links more))).symm.trans
    (FileNode.walk_of_leads (hother.mono (Nat.le_max_right links more))))

theorem Leads.directory_of_cons {v : View} {links : Nat} {place : Place} {step : Step}
    {rest : List Step} {landing : Landing} (h : Leads v links place (step :: rest) landing) :
    v place = some .directory := by
  cases h <;> assumption

/-! ## The aim of a path -/

/-- The place that some steps are meant for. A link is handed to `follow`, every other name is taken
for a directory. -/
def aimWith (v : View) (follow : Place → String → List Step → Option Place) :
    Place → List Step → Option Place
  | place, [] => some place
  | place, .here :: rest => aimWith v follow place rest
  | place, .slash :: rest => aimWith v follow place rest
  | place, .up :: rest => aimWith v follow place.dropLast rest
  | place, .name name :: rest =>
    match v (place ++ [name]) with
    | some (.link target) => follow place target rest
    | _ => aimWith v follow (place ++ [name]) rest

/-- The place that some steps are meant for when a number of links may be followed. -/
def aim (v : View) : Nat → Place → List Step → Option Place
  | 0 => aimWith v fun _ _ _ => none
  | links + 1 => aimWith v fun place target rest =>
    aim v links (linkStart place target) (Step.ofWholeText target ++ rest)

section Aim

variable {v w : View} {links : Nat} {place : Place} {rest : List Step}

@[simp] theorem aim_nil : aim v links place [] = some place := by
  cases links <;> rfl

@[simp] theorem aim_here : aim v links place (.here :: rest) = aim v links place rest := by
  cases links <;> rfl

@[simp] theorem aim_slash : aim v links place (.slash :: rest) = aim v links place rest := by
  cases links <;> rfl

@[simp] theorem aim_up : aim v links place (.up :: rest) = aim v links place.dropLast rest := by
  cases links <;> rfl

theorem aim_link_zero {name target : String} (h : v (place ++ [name]) = some (.link target)) :
    aim v 0 place (.name name :: rest) = none := by
  rw [aim, aimWith, h]

theorem aim_link_succ {name target : String} (h : v (place ++ [name]) = some (.link target)) :
    aim v (links + 1) place (.name name :: rest) =
      aim v links (linkStart place target) (Step.ofWholeText target ++ rest) := by
  rw [aim, aimWith, h]

theorem aim_name {name : String} (h : ∀ target, v (place ++ [name]) ≠ some (.link target)) :
    aim v links place (.name name :: rest) = aim v links (place ++ [name]) rest := by
  cases links <;>
  · rw [aim, aimWith]
    split
    · next target hlink => exact absurd hlink (h target)
    · rfl

/-- **A walk ends at the aim.** -/
theorem Leads.aim_eq {steps : List Step} {landing : Landing}
    (h : Leads v links place steps landing) : aim v links place steps = some landing.place := by
  induction h with
  | arrive => simp [Landing.place]
  | stay hstep _ _ ih => rcases hstep with rfl | rfl <;> simpa using ih
  | up _ _ ih => simpa using ih
  | vacant _ _ hnone =>
    -- the free name is taken for an entry all the same
    rw [aim_name (by simp [hnone])]
    simp [Landing.place]
  | follow _ _ hlink _ ih => rw [aim_link_succ hlink, ih]
  | enter _ _ hentry hkind _ ih =>
    rw [aim_name, ih]
    intro target hlink
    exact hkind target (Option.some.inj (hentry.symm.trans hlink))

/-- The cases of an aim, as an induction principle. -/
theorem aim_induction {v : View} {motive : Nat → Place → List Step → Prop}
    (nil : ∀ links place, motive links place [])
    (stay : ∀ links place step rest, step = .here ∨ step = .slash → motive links place rest →
      motive links place (step :: rest))
    (up : ∀ links place rest, motive links place.dropLast rest → motive links place (.up :: rest))
    (exhausted : ∀ place name rest target, v (place ++ [name]) = some (.link target) →
      motive 0 place (.name name :: rest))
    (follow : ∀ links place name rest target, v (place ++ [name]) = some (.link target) →
      motive links (linkStart place target) (Step.ofWholeText target ++ rest) →
      motive (links + 1) place (.name name :: rest))
    (enter : ∀ links place name rest, (∀ target, v (place ++ [name]) ≠ some (.link target)) →
      motive links (place ++ [name]) rest → motive links place (.name name :: rest))
    (links : Nat) (place : Place) (steps : List Step) : motive links place steps := by
  -- for one number of links the recursion is on the steps, given what becomes of a link
  have hstep : ∀ links, (∀ place name rest target, v (place ++ [name]) = some (.link target) →
      motive links place (.name name :: rest)) → ∀ place steps, motive links place steps := by
    intro links hlink place steps
    induction steps generalizing place with
    | nil => exact nil links place
    | cons step rest ih =>
      cases step with
      | here => exact stay _ _ _ _ (.inl rfl) (ih place)
      | slash => exact stay _ _ _ _ (.inr rfl) (ih place)
      | up => exact up _ _ _ (ih _)
      | name name =>
        by_cases h : ∃ target, v (place ++ [name]) = some (.link target)
        · obtain ⟨target, h⟩ := h
          exact hlink place name rest target h
        · exact enter _ _ _ _ (not_exists.mp h) (ih _)
  induction links generalizing place steps with
  | zero => exact hstep 0 exhausted place steps
  | succ links ih =>
    exact hstep _ (fun place name rest target h => follow _ _ _ _ _ h (ih _ _)) place steps

/-- Without links every path has an aim. -/
theorem exists_aim_of_no_links (h : ∀ place target, v place ≠ some (.link target)) (links : Nat)
    (place : Place) (steps : List Step) : ∃ last, aim v links place steps = some last := by
  induction links, place, steps using aim_induction (v := v) with
  | nil links place => exact ⟨place, aim_nil⟩
  | stay links place step rest hstep ih => rcases hstep with rfl | rfl <;> simpa using ih
  | up links place rest ih => simpa using ih
  | exhausted place name rest target hlink => exact absurd hlink (h _ target)
  | follow links place name rest target hlink => exact absurd hlink (h _ target)
  | enter links place name rest hlink ih => rwa [aim_name hlink]

/-- A step that goes nowhere does not change the aim. -/
theorem aim_append_idle_cons {step : Step} (hstep : step = .here ∨ step = .slash)
    (steps rest : List Step) :
    aim v links place (steps ++ step :: rest) = aim v links place (steps ++ rest) := by
  induction links, place, steps using aim_induction (v := v) with
  | nil links place => rcases hstep with rfl | rfl <;> simp
  | stay links place other rest hother ih => rcases hother with rfl | rfl <;> simpa using ih
  | up links place rest ih => simpa using ih
  | exhausted place name rest target h =>
    rw [List.cons_append, List.cons_append, aim_link_zero h, aim_link_zero h]
  | follow links place name rest target h ih =>
    rw [List.cons_append, List.cons_append, aim_link_succ h, aim_link_succ h, ← List.append_assoc,
      ← List.append_assoc, ih]
  | enter links place name rest h ih =>
    rw [List.cons_append, List.cons_append, aim_name h, aim_name h, ih]

/-- Steps that go nowhere do not change the aim. -/
theorem aim_append_idle {idle : List Step} (hidle : ∀ step ∈ idle, step = .here ∨ step = .slash)
    (steps : List Step) : aim v links place (steps ++ idle) = aim v links place steps := by
  induction idle with
  | nil => rw [List.append_nil]
  | cons step idle ih =>
    rw [aim_append_idle_cons (hidle step List.mem_cons_self),
      ih fun other hother => hidle other (List.mem_cons_of_mem _ hother)]

/-- An entry that is no link is aimed at through the aim of its directory. -/
theorem aim_concat {steps : List Step} {directory : Place} {name : String}
    (h : aim v links place steps = some directory)
    (hentry : ∀ target, v (directory ++ [name]) ≠ some (.link target)) :
    aim v links place (steps ++ [.name name]) = some (directory ++ [name]) := by
  induction links, place, steps using aim_induction (v := v) with
  | nil links place =>
    obtain rfl := Option.some.inj (aim_nil.symm.trans h)
    rw [List.nil_append, aim_name hentry, aim_nil]
  | stay links place step rest hstep ih =>
    rcases hstep with rfl | rfl <;> exact (by simpa using ih (by simpa using h))
  | up links place rest ih => simpa using ih (by simpa using h)
  | exhausted place other rest target hlink => cases (aim_link_zero hlink).symm.trans h
  | follow links place other rest target hlink ih =>
    rw [aim_link_succ hlink] at h
    rw [List.cons_append, aim_link_succ hlink, ← List.append_assoc, ih h]
  | enter links place other rest hlink ih =>
    rw [aim_name hlink] at h
    rw [List.cons_append, aim_name hlink, ih h]

end Aim

/-! ## Two views with the same links -/

/-- Whether two views have the same links. -/
def SameLinks (v w : View) : Prop :=
  ∀ place target, v place = some (.link target) ↔ w place = some (.link target)

theorem SameLinks.refl (v : View) : SameLinks v v := fun _ _ => Iff.rfl

theorem SameLinks.trans {v w x : View} (h : SameLinks v w) (h' : SameLinks w x) : SameLinks v x :=
  fun place target => (h place target).trans (h' place target)

/-- The aim depends on the links only. -/
theorem aim_congr {v w : View} (h : SameLinks v w) (links : Nat) (place : Place)
    (steps : List Step) : aim v links place steps = aim w links place steps := by
  induction links, place, steps using aim_induction (v := v) with
  | nil => simp
  | stay links place step rest hstep ih => rcases hstep with rfl | rfl <;> simpa using ih
  | up links place rest ih => simpa using ih
  | exhausted place name rest target hlink =>
    rw [aim_link_zero hlink, aim_link_zero ((h _ _).mp hlink)]
  | follow links place name rest target hlink ih =>
    rw [aim_link_succ hlink, aim_link_succ ((h _ _).mp hlink), ih]
  | enter links place name rest hlink ih =>
    rw [aim_name hlink, aim_name fun target => mt (h _ _).mpr (hlink target), ih]

/-- **A walk still leads to its end** when links and directories stay what they are and something is
at its end. -/
theorem Leads.of_sameLinks {v w : View} (hlinks : SameLinks v w)
    (hdirectories : ∀ place, v place = some .directory → w place = some .directory)
    {links : Nat} {place : Place} {steps : List Step} {landing : Landing}
    (h : Leads v links place steps landing) (hlast : w landing.place ≠ none) :
    Leads w links place steps (.node landing.place) := by
  induction h with
  | arrive => exact .arrive
  | stay hstep hdirectory _ ih => exact .stay hstep (hdirectories _ hdirectory) (ih hlast)
  | up hdirectory _ ih => exact .up (hdirectories _ hdirectory) (ih hlast)
  | vacant hdirectory hshort hnone =>
    obtain ⟨kind, hkind⟩ := Option.ne_none_iff_exists'.mp hlast
    refine .enter (hdirectories _ hdirectory) hshort hkind ?_ .arrive
    -- what has come to the free name is no link
    rintro target rfl
    cases hnone.symm.trans ((hlinks _ _).mpr hkind)
  | follow hdirectory hshort hlink _ ih =>
    exact .follow (hdirectories _ hdirectory) hshort ((hlinks _ _).mp hlink) (ih hlast)
  | @enter links place name rest kind landing hdirectory hshort hentry hkind hrest ih =>
    -- the entry is the end of the walk, or else a directory that stays one
    have hstill : ∃ kind, w (place ++ [name]) = some kind := by
      refine Option.ne_none_iff_exists'.mp ?_
      cases rest with
      | nil =>
        cases hrest
        exact hlast
      | cons step rest => simp [hdirectories _ hrest.directory_of_cons]
    obtain ⟨other, hother⟩ := hstill
    refine .enter (hdirectories _ hdirectory) hshort hother ?_ (ih hlast)
    rintro target rfl
    exact hkind target (Option.some.inj (hentry.symm.trans ((hlinks _ _).mpr hother)))

/-! ## The last step of a walk -/

/-- A walk that asks for the directory itself at its end ends in a directory. -/
theorem Leads.directory_of_getLast {v : View} {links : Nat} {place : Place} {steps : List Step}
    {landing : Landing} (h : Leads v links place steps landing)
    (hlast : steps.getLast? = some .here) :
    ∃ last, landing = .node last ∧ v last = some .directory := by
  induction h with
  | arrive => cases hlast
  | @stay links place step rest landing hstep hdirectory hrest ih =>
    cases rest with
    | nil =>
      cases hrest
      exact ⟨place, rfl, hdirectory⟩
    | cons next rest => exact ih (by simpa [List.getLast?_cons_cons] using hlast)
  | @up links place rest landing hdirectory hrest ih =>
    cases rest with
    | nil => cases hlast
    | cons next rest => exact ih (by simpa [List.getLast?_cons_cons] using hlast)
  | vacant => cases hlast
  | @follow links place name rest target landing hdirectory hshort hlink hrest ih =>
    cases rest with
    | nil => cases hlast
    | cons next rest =>
      -- the steps of the target stand in front, so the last step is the same
      refine ih ?_
      rw [List.getLast?_cons_cons] at hlast
      rw [List.getLast?_append, hlast, Option.some_or]
  | @enter links place name rest kind landing hdirectory hshort hentry hkind hrest ih =>
    cases rest with
    | nil => cases hlast
    | cons next rest => exact ih (by simpa [List.getLast?_cons_cons] using hlast)

/-- An entry that is no link is led to through its directory. -/
theorem Leads.concat {v : View} {links : Nat} {place : Place} {steps : List Step}
    {landing : Landing} (h : Leads v links place steps landing) {directory : Place}
    (hlanding : landing = .node directory) {name : String} {kind : Kind}
    (hdirectory : v directory = some .directory) (hshort : isTooLong name = false)
    (hentry : v (directory ++ [name]) = some kind) (hkind : ∀ target, kind ≠ .link target) :
    Leads v links place (steps ++ [.name name]) (.node (directory ++ [name])) := by
  induction h with
  | arrive =>
    cases hlanding
    exact .enter hdirectory hshort hentry hkind .arrive
  | stay hstep hplace _ ih => exact .stay hstep hplace (ih hlanding)
  | up hplace _ ih => exact .up hplace (ih hlanding)
  | vacant => cases hlanding
  | follow hplace hname hlink _ ih =>
    have ih := ih hlanding
    rw [List.append_assoc] at ih
    exact .follow hplace hname hlink ih
  | enter hplace hname hother hno _ ih => exact .enter hplace hname hother hno (ih hlanding)

/-- Steps that go nowhere lead from a directory to itself. -/
theorem Leads.append_idle {v : View} {links : Nat} {place : Place} {steps : List Step}
    {landing : Landing} (h : Leads v links place steps landing) {directory : Place}
    (hlanding : landing = .node directory) (hdirectory : v directory = some .directory)
    {idle : List Step} (hidle : ∀ step ∈ idle, step = .here ∨ step = .slash) :
    Leads v links place (steps ++ idle) (.node directory) := by
  induction h with
  | @arrive links place =>
    cases hlanding
    rw [List.nil_append]
    induction idle with
    | nil => exact .arrive
    | cons step idle ih =>
      obtain ⟨hstep, hidle⟩ := List.forall_mem_cons.mp hidle
      exact .stay hstep hdirectory (ih hidle)
  | stay hstep hplace _ ih => exact .stay hstep hplace (ih hlanding)
  | up hplace _ ih => exact .up hplace (ih hlanding)
  | vacant => cases hlanding
  | follow hplace hname hlink _ ih =>
    have ih := ih hlanding
    rw [List.append_assoc] at ih
    exact .follow hplace hname hlink ih
  | enter hplace hname hother hno _ ih => exact .enter hplace hname hother hno (ih hlanding)

/-- A walk of some steps and more leads to a directory first, from where the rest is walked. -/
theorem Leads.exists_of_append {v : View} {links : Nat} {place : Place} {steps more : List Step}
    {landing : Landing} (h : Leads v links place (steps ++ more) landing) (hmore : more ≠ []) :
    ∃ directory left, left ≤ links ∧ v directory = some .directory ∧
      Leads v links place steps (.node directory) ∧ Leads v left directory more landing := by
  -- where the first steps are over, the walk stands at the directory
  have hnil : ∀ {links place}, Leads v links place more landing →
      ∃ directory left, left ≤ links ∧ v directory = some .directory ∧
        Leads v links place [] (.node directory) ∧ Leads v left directory more landing := by
    intro links place h
    obtain ⟨first, rest, rfl⟩ := List.exists_cons_of_ne_nil hmore
    exact ⟨place, links, Nat.le_refl _, h.directory_of_cons, .arrive, h⟩
  generalize htotal : steps ++ more = total at h
  induction h generalizing steps with
  | arrive => exact absurd (List.append_eq_nil_iff.mp htotal).2 hmore
  | stay hstep hdirectory hrest ih =>
    cases steps with
    | nil =>
      subst htotal
      exact hnil (.stay hstep hdirectory hrest)
    | cons first steps =>
      rw [List.cons_append, List.cons_eq_cons] at htotal
      obtain ⟨rfl, htotal⟩ := htotal
      obtain ⟨directory, left, hle, hat, hto, hfrom⟩ := ih hnil htotal
      exact ⟨directory, left, hle, hat, .stay hstep hdirectory hto, hfrom⟩
  | up hdirectory hrest ih =>
    cases steps with
    | nil =>
      subst htotal
      exact hnil (.up hdirectory hrest)
    | cons first steps =>
      rw [List.cons_append, List.cons_eq_cons] at htotal
      obtain ⟨rfl, htotal⟩ := htotal
      obtain ⟨directory, left, hle, hat, hto, hfrom⟩ := ih hnil htotal
      exact ⟨directory, left, hle, hat, .up hdirectory hto, hfrom⟩
  | vacant hdirectory hshort hnone =>
    cases steps with
    | nil =>
      subst htotal
      exact hnil (.vacant hdirectory hshort hnone)
    | cons first steps =>
      rw [List.cons_append, List.cons_eq_cons] at htotal
      exact absurd (List.append_eq_nil_iff.mp htotal.2).2 hmore
  | @follow links place name rest target landing hdirectory hshort hlink hrest ih =>
    cases steps with
    | nil =>
      subst htotal
      exact hnil (.follow hdirectory hshort hlink hrest)
    | cons first steps =>
      rw [List.cons_append, List.cons_eq_cons] at htotal
      obtain ⟨rfl, htotal⟩ := htotal
      -- the target of the link is walked before the rest of the first steps
      have hsteps : Step.ofWholeText target ++ steps ++ more = Step.ofWholeText target ++ rest := by
        rw [List.append_assoc, htotal]
      obtain ⟨directory, left, hle, hat, hto, hfrom⟩ := ih hnil hsteps
      exact ⟨directory, left, Nat.le_succ_of_le hle, hat,
        .follow hdirectory hshort hlink hto, hfrom⟩
  | enter hdirectory hshort hentry hkind hrest ih =>
    cases steps with
    | nil =>
      subst htotal
      exact hnil (.enter hdirectory hshort hentry hkind hrest)
    | cons first steps =>
      rw [List.cons_append, List.cons_eq_cons] at htotal
      obtain ⟨rfl, htotal⟩ := htotal
      obtain ⟨directory, left, hle, hat, hto, hfrom⟩ := ih hnil htotal
      exact ⟨directory, left, hle, hat, .enter hdirectory hshort hentry hkind hto, hfrom⟩

end MessageCatalog
