import MessageCatalog.Proofs.FileTree.Above

/-!
# From a path to those above it

The ancestors of a path are listed from its segments in one go. They are the same paths that are met
when the last component is taken off a path again and again: a path that is put together from a lead
and some segments is split into these again, so what is left of it has the ancestors that come next.
Each time the text gets shorter, so this ends.

## Main definitions

* `Path.Climbs` — a path and all that are met above it, up to one that has no parent.

## Main results

* `Path.split_assemble`: what a path is put together from is what it is split into
* `Path.ancestors_of_parent?`: behind a path stand the ancestors of its parent
* `Path.length_text_lt_of_parent?`: a parent has a shorter text
* `Path.climbs_ancestors`, `Path.Climbs.length_le`: the ancestors are all that are met, and above the
  path there are no more of them than characters in its text
-/

namespace MessageCatalog.Path

variable {p q : Path} {lead : Lead} {base segments : List Segment}

/-! ## Splitting what is put together -/

theorem split_eq_of_segments (hsegments : splitAtSlashes p.text.toList = lead.segments ++ segments)
    (hroot : p.isAbsolute = true ↔ lead = .root)
    (hnothing : lead = .nothing → segments.head? ≠ some ['.']) : p.split = (lead, segments) := by
  -- the cases are those in which a path is split: at the root, behind a `.`, and without a lead
  rw [split]
  split
  · next rest htext =>
    obtain rfl := hroot.mp (by simp [isAbsolute, htext])
    rw [htext, splitAtSlashes, if_pos rfl] at hsegments
    rw [List.cons.inj hsegments |>.2]
    rfl
  · next cs htext =>
    have hrelative : lead ≠ .root := by
      intro hlead
      rw [← hroot, isAbsolute, beq_iff_eq] at hlead
      obtain ⟨rest, hrest⟩ := List.head?_eq_some_iff.mp hlead
      exact htext rest hrest
    split
    · next rest hrest =>
      rw [hrest] at hsegments
      cases lead with
      | root => exact absurd rfl hrelative
      | here => rw [List.cons.inj hsegments |>.2]; rfl
      | nothing =>
        obtain rfl : segments = ['.'] :: rest := hsegments.symm
        exact absurd rfl (hnothing rfl)
    · next others hothers =>
      cases lead with
      | root => exact absurd rfl hrelative
      | here => exact absurd hsegments (hothers segments)
      | nothing => rw [hsegments]; rfl

/-- Without a lead, the first segment is not the one that would be a lead. -/
theorem head?_split_of_nothing (h : p.split.1 = .nothing) : p.split.2.head? ≠ some ['.'] := by
  rw [split] at h ⊢
  split at h
  · cases h
  split at h
  · cases h
  next hother =>
  intro hhead
  obtain ⟨rest, hrest⟩ := List.head?_eq_some_iff.mp hhead
  exact hother rest hrest

/-- Without a lead, the first of several segments is not empty. -/
theorem ne_nil_of_split_of_nothing (h : p.split.1 = .nothing) {first : Segment}
    (hsegments : p.split.2 = first :: segments) (hmore : segments ≠ []) : first ≠ [] := by
  rintro rfl
  have htext := joinSegments_splitAtSlashes p.text.toList
  rw [splitAtSlashes_text, h, hsegments] at htext
  have habsolute : p.isAbsolute = true := by
    simp [isAbsolute, ← htext, Lead.segments, joinSegments_cons, hmore]
  rw [isAbsolute_iff_split, h] at habsolute
  cases habsolute

section Assemble

variable (hbase : base <+: p.split.2) (hlast : ∀ last ∈ base.getLast?, isIdle last = false)

include hbase hlast

theorem isAbsolute_assemble (hne : base ≠ []) :
    (assemble p.split.1 base).isAbsolute = true ↔ p.split.1 = .root := by
  obtain ⟨first, rest, rfl⟩ := List.exists_cons_of_ne_nil hne
  cases hlead : p.split.1 with
  | root => simp [assemble, isAbsolute]
  | here => simp [assemble, isAbsolute]
  | nothing =>
    obtain ⟨behind, hsegments⟩ := hbase
    have hslash : '/' ∉ first :=
      slash_not_mem_of_mem_split (p := p) (by simp [← hsegments])
    -- an empty first segment would have to be the last one, or would put a slash first
    have hfirst : first ≠ [] := by
      cases rest with
      | nil => exact ne_nil_of_not_idle (hlast first rfl)
      | cons second rest => exact ne_nil_of_split_of_nothing hlead hsegments.symm (by simp)
    have hrelative : (assemble .nothing (first :: rest)).isAbsolute = false :=
      isAbsolute_joinSegments hslash hfirst
    simp [hrelative]

/-- **What a path is put together from is what it is split into.** -/
theorem split_assemble (hne : base ≠ []) :
    (assemble p.split.1 base).split = (p.split.1, base) := by
  refine split_eq_of_segments ?_ (isAbsolute_assemble hbase hlast hne) ?_
  · rw [toList_text_assemble _ hne, splitAtSlashes_joinSegments (by simp [hne])]
    intro segment hsegment
    apply slash_not_mem_of_mem_split (p := p)
    exact (List.prefix_append_right_inj _).mpr hbase |>.subset hsegment
  · -- the first segment is the one behind the lead of the path
    intro hlead
    obtain ⟨first, rest, rfl⟩ := List.exists_cons_of_ne_nil hne
    obtain ⟨behind, hsegments⟩ := hbase
    have hhead := head?_split_of_nothing hlead
    rwa [← hsegments] at hhead

theorem ancestors_assemble : (assemble p.split.1 base).ancestors =
    assemble p.split.1 base :: parentsOf p.split.1 base.reverse := by
  rcases eq_or_ne base [] with rfl | hne
  · -- a lead alone is split into itself, up to an empty segment
    cases p.split.1 <;> rfl
  · rw [ancestors, split_assemble hbase hlast hne]

end Assemble

/-! ## Ancestors one after the other -/

theorem parentsOf_dropWhile (lead : Lead) (segments : List Segment) :
    parentsOf lead (segments.dropWhile isIdle) = parentsOf lead segments := by
  induction segments with
  | nil => rfl
  | cons segment above ih =>
    rw [List.dropWhile_cons]
    split
    · next hidle => rw [ih, parentsOf, if_pos hidle]
    · rfl

theorem ancestors_eq (p : Path) :
    p.ancestors = p :: parentsOf p.split.1 (fromLast p.split.2) := by
  rw [ancestors, fromLast, parentsOf_dropWhile]

/-- **Behind a path stand the ancestors of its parent.** -/
theorem ancestors_of_parent? (h : p.parent? = some q) : p.ancestors = p :: q.ancestors := by
  rw [ancestors_eq]
  rw [parent?] at h
  split at h
  · next segment above hsegments =>
    obtain rfl := Option.some.inj h
    -- the parent is made of the segments in front of the last name, without idle ones at their end
    have hfront : (above.dropWhile isIdle).reverse <+: p.split.2 := by
      have hsuffix : above <:+ p.split.2.reverse :=
        (List.suffix_cons segment above).trans (hsegments ▸ List.dropWhile_suffix _)
      simpa using List.reverse_prefix.mpr ((List.dropWhile_suffix isIdle).trans hsuffix)
    have hlast : ∀ last ∈ (above.dropWhile isIdle).reverse.getLast?, isIdle last = false := by
      intro last hlast
      rw [List.getLast?_reverse] at hlast
      have hhead := List.head?_dropWhile_not isIdle above
      rw [hlast] at hhead
      simpa using hhead
    rw [ancestors_assemble hfront hlast, hsegments, parentsOf,
      if_neg (by simp [isIdle_of_fromLast hsegments]), List.reverse_reverse, parentsOf_dropWhile]
  · next hlead hsegments =>
    -- only a `.` in front is left, and it is taken off
    obtain rfl := Option.some.inj h
    rw [hlead, hsegments]
    rfl
  · cases h

theorem ancestors_of_parent?_eq_none (h : p.parent? = none) : p.ancestors = [p] := by
  rw [ancestors_eq]
  rw [parent?] at h
  split at h
  · cases h
  · cases h
  · next hsegments hlead => rw [hsegments, parentsOf, if_neg hlead]

/-- **A parent has a shorter text.** -/
theorem length_text_lt_of_parent? (h : p.parent? = some q) : q.text.length < p.text.length := by
  have hprefix : q.text.toList <+: p.text.toList := by
    by_cases hempty : q.text = ""
    · rw [hempty]
      exact List.nil_prefix
    · exact (isAbove_of_parent? hempty h).text
  rw [← String.length_toList, ← String.length_toList]
  apply Nat.lt_of_le_of_ne hprefix.length_le
  intro hlength
  -- a path that is its own parent would have one more ancestor than it has
  obtain rfl : q = p := by
    have htext := hprefix.eq_of_length hlength
    cases p
    cases q
    exact congrArg Path.mk (String.toList_inj.mp htext)
  have hancestors := congrArg List.length (ancestors_of_parent? h)
  simp at hancestors

/-! ## Climbing -/

/-- A path and all that are met above it when components are taken off one after the other, up to a
path that has none to take off. -/
inductive Climbs : Path → List Path → Prop
  /-- There is nothing to take off. -/
  | stop {p : Path} (h : p.parent? = none) : Climbs p [p]
  /-- The last component is taken off. -/
  | up {p q : Path} {above : List Path} (h : p.parent? = some q) (habove : Climbs q above) :
      Climbs p (p :: above)

/-- **The ancestors of a path are all that are met above it.** -/
theorem climbs_ancestors (p : Path) : p.Climbs p.ancestors := by
  -- the induction is on the text of the path, which gets shorter
  induction hlength : p.text.length using Nat.strong_induction_on generalizing p with
  | _ length ih =>
    cases hparent : p.parent? with
    | none =>
      rw [ancestors_of_parent?_eq_none hparent]
      exact .stop hparent
    | some q =>
      have hshorter : q.text.length < length := hlength ▸ length_text_lt_of_parent? hparent
      rw [ancestors_of_parent? hparent]
      exact .up hparent (ih _ hshorter q rfl)

/-- Idle segments go with the name in front of them, those behind the last name too. -/
example : (⟨"./a//b/."⟩ : Path).ancestors = [⟨"./a//b/."⟩, ⟨"./a"⟩, ⟨"."⟩, ⟨""⟩] := by
  decide

/-- There are no more paths above a path than characters in its text. -/
theorem Climbs.length_le {chain : List Path} (h : p.Climbs chain) :
    chain.length ≤ p.text.length + 1 := by
  induction h with
  | stop => simp
  | up hparent _ ih =>
    have hshorter := length_text_lt_of_parent? hparent
    rw [List.length_cons]
    omega

end MessageCatalog.Path
