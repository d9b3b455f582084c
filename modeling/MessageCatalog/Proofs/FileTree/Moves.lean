import MessageCatalog.Proofs.FileTree.Effects

/-!
# Walks after a move

A leaf is moved to another name in its directory: a file, or a link that leads to no directory.
After the move a walk may pass through the new entry only at its very end, since nothing can be
below it. So a walk either leads where it led before, or it ends where the new entry leads.

## Main definitions

* `Moved` — an entry was moved to another name in the same directory.

## Main results

* `Moved.leads_before_of_directory`: directories are where they were before
* `Moved.leads_before_or`: a walk leads where it led before, or to the end of the new entry
* `Moved.end_of_target`: the new entry leads where the old one led
-/

namespace MessageCatalog

/-- An entry of a directory was moved to another name there. It is no directory, and if it is a link
it leads to none. -/
structure Moved (before after : FileNode) (directory : Place) (source target : String) : Prop where
  view : ∀ place, after.kindAt place =
    if place = directory ++ [target] then before.kindAt (directory ++ [source])
    else if place = directory ++ [source] then none
    else before.kindAt place
  differ : source ≠ target
  short : isTooLong source = false
  isEntry : before.kindAt directory = some .directory
  leaf : before.kindAt (directory ++ [source]) ≠ some .directory
  replaced : before.kindAt (directory ++ [target]) ≠ some .directory
  leads : ∀ links last, Leads before.kindAt links directory [.name source] (.node last) →
    before.kindAt last ≠ some .directory

namespace Moved

variable {before after : FileNode} {directory : Place} {source target : String}

/-- Whether a place is one of the two that a move changes. -/
def Changes (directory : Place) (source target : String) (place : Place) : Prop :=
  place = directory ++ [source] ∨ place = directory ++ [target]

theorem view_of_not_changes (h : Moved before after directory source target) {place : Place}
    (hplace : ¬ Changes directory source target place) :
    after.kindAt place = before.kindAt place := by
  rw [Changes, not_or] at hplace
  rw [h.view, if_neg hplace.2, if_neg hplace.1]

theorem view_source (h : Moved before after directory source target) :
    after.kindAt (directory ++ [source]) = none := by
  rw [h.view, if_neg (by simpa using h.differ), if_pos rfl]

theorem view_target (h : Moved before after directory source target) :
    after.kindAt (directory ++ [target]) = before.kindAt (directory ++ [source]) := by
  rw [h.view, if_pos rfl]

theorem directory_iff (h : Moved before after directory source target) (place : Place) :
    after.kindAt place = some .directory ↔ before.kindAt place = some .directory := by
  by_cases hplace : Changes directory source target place
  · rcases hplace with rfl | rfl
    · simp [h.view_source, h.leaf]
    · simp [h.view_target, h.leaf, h.replaced]
  · rw [h.view_of_not_changes hplace]

theorem not_changes_of_directory (h : Moved before after directory source target) {place : Place}
    (hplace : before.kindAt place = some .directory) : ¬ Changes directory source target place := by
  rintro (rfl | rfl)
  · exact h.leaf hplace
  · exact h.replaced hplace

/-- The target of a link is walked from a place that a move does not change either. -/
theorem not_changes_linkStart {place : Place} (hplace : ¬ Changes directory source target place)
    (link : String) : ¬ Changes directory source target (linkStart place link) := by
  rw [linkStart]
  split
  · simp [Changes]
  · exact hplace

/-- A walk that passes through a changed entry passes through the new one, and ends there. -/
theorem leads_target_of_changes (h : Moved before after directory source target) {bound : Nat}
    (hend : ∀ links ≤ bound, ∀ last,
      Leads after.kindAt links directory [.name target] (.node last) →
      before.kindAt last ≠ some .directory)
    {links : Nat} (hlinks : links ≤ bound) {place : Place} {name : String}
    (hchanges : Changes directory source target (place ++ [name])) {rest : List Step} {last : Place}
    (hleads : Leads after.kindAt links place (.name name :: rest) (.node last)) :
    Leads after.kindAt links directory [.name target] (.node last) := by
  rcases hchanges with hsource | htarget
  · -- the old entry is gone
    have hnone := h.view_source
    rw [← hsource] at hnone
    cases hleads with
    | stay hstep => simp at hstep
    | follow _ _ hlink => cases hnone.symm.trans hlink
    | enter _ _ hentry => cases hnone.symm.trans hentry
  · obtain ⟨rfl, rfl⟩ := List.append_inj' htarget rfl |>.imp_right (List.cons.inj · |>.1)
    cases rest with
    | nil => exact hleads
    | cons step rest =>
      -- a walk that goes on behind the new entry would find a directory there
      have hsplit : Leads after.kindAt links place ([.name name] ++ step :: rest) (.node last) :=
        hleads
      obtain ⟨between, -, -, hdirectory, hto, -⟩ :=
        hsplit.exists_of_append (List.cons_ne_nil step rest)
      exact absurd ((h.directory_iff between).mp hdirectory) (hend links hlinks between hto)

/-- A walk leads where it led before or to the end of the new entry, as long as the new entry leads
to no directory. -/
theorem leads_before_or_of_bound (h : Moved before after directory source target) {bound : Nat}
    (hend : ∀ links ≤ bound, ∀ last,
      Leads after.kindAt links directory [.name target] (.node last) →
      before.kindAt last ≠ some .directory)
    {links : Nat} (hlinks : links ≤ bound) {place : Place} {steps : List Step} {last : Place}
    (hplace : ¬ Changes directory source target place)
    (hleads : Leads after.kindAt links place steps (.node last)) :
    (Leads before.kindAt links place steps (.node last) ∧
      ¬ Changes directory source target last) ∨
    ∃ fewer ≤ links, Leads after.kindAt fewer directory [.name target] (.node last) := by
  generalize hlanding : Landing.node last = landing at hleads
  -- the walk stays at places that the move does not change until it meets the new entry
  induction hleads with
  | arrive =>
    cases hlanding
    exact .inl ⟨.arrive, hplace⟩
  | stay hstep hdirectory hrest ih =>
    refine (ih hlinks hplace hlanding).imp_left ?_
    rintro ⟨hbefore, hlast⟩
    exact ⟨.stay hstep ((h.directory_iff _).mp hdirectory) hbefore, hlast⟩
  | @up links place rest landing hdirectory hrest ih =>
    -- the directory above has an entry, so it is neither of the two
    have hup : ¬ Changes directory source target place.dropLast := by
      rcases List.eq_nil_or_concat place with rfl | ⟨above, name, rfl⟩
      · simp [Changes]
      · rw [List.concat_eq_append] at *
        rw [List.dropLast_concat]
        have hbelow : after.kindAt (above ++ [name]) ≠ none := by simp [hdirectory]
        exact h.not_changes_of_directory
          ((h.directory_iff _).mp (FileNode.kindAt_concat_ne_none hbelow))
    refine (ih hlinks hup hlanding).imp_left ?_
    rintro ⟨hbefore, hlast⟩
    exact ⟨.up ((h.directory_iff _).mp hdirectory) hbefore, hlast⟩
  | vacant => cases hlanding
  | @follow links place name rest link landing hdirectory hshort hlink hrest ih =>
    subst hlanding
    by_cases hchanges : Changes directory source target (place ++ [name])
    · exact .inr ⟨_, Nat.le_refl _, h.leads_target_of_changes hend hlinks hchanges
        (.follow hdirectory hshort hlink hrest)⟩
    · have hstart := not_changes_linkStart hplace link
      rcases ih (Nat.le_of_succ_le hlinks) hstart rfl with ⟨hbefore, hlast⟩ | ⟨fewer, hfewer, hto⟩
      · rw [h.view_of_not_changes hchanges] at hlink
        exact .inl ⟨.follow ((h.directory_iff _).mp hdirectory) hshort hlink hbefore, hlast⟩
      · exact .inr ⟨fewer, Nat.le_succ_of_le hfewer, hto⟩
  | @enter links place name rest kind landing hdirectory hshort hentry hkind hrest ih =>
    subst hlanding
    by_cases hchanges : Changes directory source target (place ++ [name])
    · exact .inr ⟨_, Nat.le_refl _, h.leads_target_of_changes hend hlinks hchanges
        (.enter hdirectory hshort hentry hkind hrest)⟩
    · refine (ih hlinks hchanges rfl).imp_left ?_
      rintro ⟨hbefore, hlast⟩
      rw [h.view_of_not_changes hchanges] at hentry
      exact ⟨.enter ((h.directory_iff _).mp hdirectory) hshort hentry hkind hbefore, hlast⟩

/-- **The new entry leads where the old one led**: it is a file itself, or a link to a place that
the move has not changed. -/
theorem end_of_target (h : Moved before after directory source target) {links : Nat} {last : Place}
    (hleads : Leads after.kindAt links directory [.name target] (.node last)) :
    (∃ content, before.kindAt (directory ++ [source]) = some (.file content) ∧
      last = directory ++ [target]) ∨
    (¬ Changes directory source target last ∧
      Leads before.kindAt links directory [.name source] (.node last)) := by
  -- if the old entry is a link, its walk may pass through the new one, with fewer links left
  induction links using Nat.strongRecOn generalizing last with
  | ind links ih =>
    cases hleads with
    | stay hstep => simp at hstep
    | @enter _ _ _ _ kind _ hdirectory hshort hentry hkind hrest =>
      cases hrest
      rw [h.view_target] at hentry
      cases kind with
      | file content => exact .inl ⟨content, hentry, rfl⟩
      | link link => exact absurd rfl (hkind link)
      | directory => exact absurd hentry h.leaf
    | @follow links _ _ _ link _ hdirectory hshort hlink hrest =>
      rw [h.view_target] at hlink
      have hstart := not_changes_linkStart (h.not_changes_of_directory h.isEntry) link
      have hend : ∀ fewer ≤ links, ∀ last,
          Leads after.kindAt fewer directory [.name target] (.node last) →
          before.kindAt last ≠ some .directory := by
        intro fewer hfewer last hto
        rcases ih fewer (Nat.lt_succ_of_le hfewer) hto with ⟨-, -, rfl⟩ | ⟨-, hbefore⟩
        · exact h.replaced
        · exact h.leads fewer last hbefore
      rcases h.leads_before_or_of_bound hend (Nat.le_refl _) hstart hrest with
        ⟨hbefore, hlast⟩ | ⟨fewer, hfewer, hto⟩
      · exact .inr ⟨hlast, .follow h.isEntry h.short hlink hbefore⟩
      · rcases ih fewer (Nat.lt_succ_of_le hfewer) hto with ⟨content, hfile, -⟩ | ⟨hlast, hbefore⟩
        · cases hlink.symm.trans hfile
        · exact .inr ⟨hlast, hbefore.mono (Nat.le_succ_of_le hfewer)⟩

/-- **A walk leads where it led before**, or to the end of the new entry. -/
theorem leads_before_or (h : Moved before after directory source target) {links : Nat}
    {place : Place} {steps : List Step} {last : Place}
    (hplace : before.kindAt place = some .directory)
    (hleads : Leads after.kindAt links place steps (.node last)) :
    (Leads before.kindAt links place steps (.node last) ∧
      ¬ Changes directory source target last) ∨
    ∃ fewer, Leads after.kindAt fewer directory [.name target] (.node last) := by
  refine (h.leads_before_or_of_bound ?_ (Nat.le_refl _) (h.not_changes_of_directory hplace)
    hleads).imp_right ?_
  · intro fewer _ other hto
    rcases h.end_of_target hto with ⟨-, -, rfl⟩ | ⟨-, hbefore⟩
    · exact h.replaced
    · exact h.leads fewer other hbefore
  · rintro ⟨fewer, -, hto⟩
    exact ⟨fewer, hto⟩

/-- **A directory is where it was**: the new entry does not lead to it. -/
theorem leads_before_of_directory (h : Moved before after directory source target) {links : Nat}
    {place : Place} {steps : List Step} {last : Place}
    (hlast : after.kindAt last = some .directory)
    (hleads : Leads after.kindAt links place steps (.node last)) :
    Leads before.kindAt links place steps (.node last) := by
  have hplace : before.kindAt place = some .directory := by
    refine (h.directory_iff place).mp ?_
    cases steps with
    | nil =>
      cases hleads
      exact hlast
    | cons step steps => exact hleads.directory_of_cons
  rw [h.directory_iff] at hlast
  -- the new entry leads to a leaf, which the directory is not
  rcases h.leads_before_or hplace hleads with ⟨hbefore, -⟩ | ⟨fewer, hto⟩
  · exact hbefore
  · rcases h.end_of_target hto with ⟨-, -, rfl⟩ | ⟨-, hbefore⟩
    · exact absurd hlast h.replaced
    · exact absurd hlast (h.leads fewer last hbefore)

/-! ## Two moves after one another -/

/-- Directories that are led to after some changes were led to before by the same steps. -/
def DirectoriesBefore (before after : FileNode) : Prop :=
  ∀ links place steps last, after.kindAt last = some .directory →
    Leads after.kindAt links place steps (.node last) → before.kindAt last = some .directory ∧
      Leads before.kindAt links place steps (.node last)

theorem directoriesBefore (h : Moved before after directory source target) :
    DirectoriesBefore before after :=
  fun _ _ _ last hlast hleads =>
    ⟨(h.directory_iff last).mp hlast, h.leads_before_of_directory hlast hleads⟩

theorem DirectoriesBefore.trans {between : FileNode} (h : DirectoriesBefore before between)
    (h' : DirectoriesBefore between after) : DirectoriesBefore before after := by
  intro links place steps last hlast hleads
  obtain ⟨hlast, hleads⟩ := h' links place steps last hlast hleads
  exact h links place steps last hlast hleads

/-- An entry that leads somewhere is there. -/
theorem ne_none_of_leads {v : View} {links : Nat} {place : Place} {name : String} {last : Place}
    (h : Leads v links place [.name name] (.node last)) : v (place ++ [name]) ≠ none := by
  cases h with
  | stay hstep => simp at hstep
  | follow _ _ hlink => simp [hlink]
  | enter _ _ hentry => simp [hentry]

/-- An entry that is a file leads to itself. -/
theorem eq_of_leads_file {v : View} {links : Nat} {place : Place} {name : String} {last : Place}
    {content : ByteArray} (hfile : v (place ++ [name]) = some (.file content))
    (h : Leads v links place [.name name] (.node last)) : last = place ++ [name] := by
  cases h with
  | stay hstep => simp at hstep
  | follow _ _ hlink => cases hlink.symm.trans hfile
  | enter _ _ _ _ hrest =>
    cases hrest
    rfl

section Twice

variable {between : FileNode} {other : Place} {source' target' : String}
  {links links' more more' : Nat} {last staged last' staged' : Place}

/-- After two moves the entry that was moved first leads to what its source led to, if both entries
lead to different places. -/
theorem view_first (first : Moved before between directory source target)
    (second : Moved between after other source' target')
    (hlast : Leads after.kindAt links directory [.name target] (.node last))
    (hlast' : Leads after.kindAt links' other [.name target'] (.node last')) (hne : last ≠ last')
    (hstaged : Leads before.kindAt more directory [.name source] (.node staged)) :
    ¬ Changes other source' target' last ∧
      Leads between.kindAt links directory [.name target] (.node last) ∧
      after.kindAt last = before.kindAt staged ∧
      (staged = directory ++ [source] ∨ staged = last) := by
  have hentry := (first.directory_iff directory).mpr first.isEntry
  -- the second move either keeps the walk to the first entry or sends it to its own end
  rcases second.leads_before_or hentry hlast with ⟨hbetween, hkept⟩ | ⟨fewer, hto⟩
  · refine ⟨hkept, hbetween, ?_⟩
    rw [second.view_of_not_changes hkept]
    rcases first.end_of_target hbetween with ⟨content, hfile, rfl⟩ | ⟨hunchanged, hbefore⟩
    · obtain rfl := eq_of_leads_file hfile hstaged
      exact ⟨first.view_target, .inl rfl⟩
    · obtain rfl := Landing.node.inj (hbefore.unique hstaged)
      exact ⟨first.view_of_not_changes hunchanged, .inr rfl⟩
  · exact absurd (Landing.node.inj (hto.unique hlast')) hne

/-- **Two moves after one another** bring what their sources led to, if the new entries lead to
different places and the second source is still there after the first move. -/
theorem view_both (first : Moved before between directory source target)
    (second : Moved between after other source' target')
    (hthere : between.kindAt (other ++ [source']) ≠ none)
    (hlast : Leads after.kindAt links directory [.name target] (.node last))
    (hlast' : Leads after.kindAt links' other [.name target'] (.node last')) (hne : last ≠ last')
    (hstaged : Leads before.kindAt more directory [.name source] (.node staged))
    (hstaged' : Leads before.kindAt more' other [.name source'] (.node staged')) :
    after.kindAt last = before.kindAt staged ∧ after.kindAt last' = before.kindAt staged' ∧
      staged ≠ staged' := by
  obtain ⟨hkept, hbetween, hview, hcases⟩ :=
    view_first first second hlast hlast' hne hstaged
  -- the second source is neither gone with the first move nor what the first move has brought
  have hsource : ¬ Changes directory source target (other ++ [source']) := by
    rintro (hsame | hsame)
    · exact hthere (hsame ▸ first.view_source)
    · exact ne_none_of_leads hlast (hsame ▸ second.view_source)
  refine ⟨hview, ?_⟩
  rcases second.end_of_target hlast' with ⟨content, hfile, rfl⟩ | ⟨hkept', hbetween'⟩
  · rw [first.view_of_not_changes hsource] at hfile
    obtain rfl := eq_of_leads_file hfile hstaged'
    refine ⟨second.view_target.trans (first.view_of_not_changes hsource), ?_⟩
    rintro rfl
    rcases hcases with hsame | rfl
    · exact hsource (.inl hsame)
    · exact hkept (.inl rfl)
  · have hentry := (first.directory_iff other).mp second.isEntry
    rcases first.leads_before_or hentry hbetween' with ⟨hbefore, hunchanged⟩ | ⟨fewer, hto⟩
    · obtain rfl := Landing.node.inj (hbefore.unique hstaged')
      refine ⟨(second.view_of_not_changes hkept').trans (first.view_of_not_changes hunchanged), ?_⟩
      rintro rfl
      rcases hcases with hsame | rfl
      · exact hunchanged (.inl hsame)
      · exact hne rfl
    · exact absurd (Landing.node.inj (hbetween.unique hto)) hne

end Twice

end Moved

end MessageCatalog
