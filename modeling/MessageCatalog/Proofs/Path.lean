import Mathlib.Data.List.TakeWhile
import MessageCatalog.FileTree.Walk

/-!
# Names beside one another

Another name beside a path is reached by the same steps, up to steps to the directory itself, which
the writing of the path with another name leaves out.

## Main results

* `Path.splitAtSlashes_joinSegments`: segments that are joined are found again
* `Path.lastStep_join`: a path below a folder ends in its name
* `Path.ofText_withFileName`: the steps of a path and of another name beside it
* `Path.isAbsolute_withFileName`: both start from the same directory
-/

namespace MessageCatalog.Path

/-! ## Splitting at slashes -/

theorem splitAtSlashes_of_not_mem {segment : Segment} (h : '/' ∉ segment) :
    splitAtSlashes segment = [segment] := by
  induction segment with
  | nil => rfl
  | cons c rest ih =>
    rw [List.mem_cons, not_or] at h
    obtain ⟨hc, hrest⟩ := h
    rw [splitAtSlashes, if_neg (Ne.symm hc), ih hrest]

/-- A text is split at each of its slashes. -/
theorem splitAtSlashes_append_slash (cs rest : List Char) :
    splitAtSlashes (cs ++ '/' :: rest) = splitAtSlashes cs ++ splitAtSlashes rest := by
  induction cs with
  | nil => simp [splitAtSlashes]
  | cons c cs ih =>
    rw [List.cons_append, splitAtSlashes, splitAtSlashes, ih]
    split
    · rfl
    · obtain ⟨segment, segments, hsegments⟩ :=
        List.exists_cons_of_ne_nil (splitAtSlashes_ne_nil cs)
      rw [hsegments]
      rfl

theorem splitAtSlashes_append {segment : Segment} (h : '/' ∉ segment) (cs : List Char) :
    splitAtSlashes (segment ++ '/' :: cs) = segment :: splitAtSlashes cs := by
  rw [splitAtSlashes_append_slash, splitAtSlashes_of_not_mem h]
  rfl

/-- Segments that are joined are found again, if there are any and none of them holds a slash. -/
theorem splitAtSlashes_joinSegments {segments : List Segment} (hne : segments ≠ [])
    (h : ∀ segment ∈ segments, '/' ∉ segment) :
    splitAtSlashes (joinSegments segments) = segments := by
  induction segments with
  | nil => exact absurd rfl hne
  | cons segment rest ih =>
    have hsegment := h segment List.mem_cons_self
    rcases eq_or_ne rest [] with rfl | hrest
    · exact splitAtSlashes_of_not_mem hsegment
    · rw [joinSegments_cons _ hrest, splitAtSlashes_append hsegment,
        ih hrest fun other hother => h other (List.mem_cons_of_mem _ hother)]

theorem slash_not_mem_of_mem_splitAtSlashes {cs : List Char} {segment : Segment}
    (h : segment ∈ splitAtSlashes cs) : '/' ∉ segment := by
  induction cs generalizing segment with
  | nil =>
    obtain rfl := List.mem_singleton.mp h
    exact List.not_mem_nil
  | cons c rest ih =>
    rw [splitAtSlashes] at h
    split at h
    · rcases List.mem_cons.mp h with rfl | h
      · exact List.not_mem_nil
      · exact ih h
    · next hc =>
      split at h
      · obtain rfl := List.mem_singleton.mp h
        exact fun hslash => hc (List.mem_singleton.mp hslash).symm
      · next first segments hrest =>
        -- the character joins the first segment of the rest
        rcases List.mem_cons.mp h with rfl | h
        · intro hslash
          rcases List.mem_cons.mp hslash with hslash | hslash
          · exact hc hslash.symm
          · exact ih (hrest ▸ List.mem_cons_self) hslash
        · exact ih (hrest ▸ List.mem_cons_of_mem _ h)

theorem joinSegments_concat {segments : List Segment} (h : segments ≠ []) (segment : Segment) :
    joinSegments (segments ++ [segment]) = joinSegments segments ++ '/' :: segment := by
  induction segments with
  | nil => exact absurd rfl h
  | cons first rest ih =>
    rcases eq_or_ne rest [] with rfl | hrest
    · rfl
    · rw [List.cons_append, joinSegments_cons _ (by simp), ih hrest, joinSegments_cons _ hrest,
        List.append_assoc, List.cons_append]

/-- The segments that a lead stands for. -/
def Lead.segments : Lead → List Segment
  | .root => [[]]
  | .here => [['.']]
  | .nothing => []

theorem splitAtSlashes_text (p : Path) :
    splitAtSlashes p.text.toList = p.split.1.segments ++ p.split.2 := by
  rw [split]
  split
  · next rest htext => simp [htext, splitAtSlashes, Lead.segments]
  · split
    · next segments hsegments => simp [hsegments, Lead.segments]
    · rfl

theorem slash_not_mem_of_mem_split {p : Path} {segment : Segment}
    (h : segment ∈ p.split.1.segments ++ p.split.2) : '/' ∉ segment := by
  rw [← splitAtSlashes_text] at h
  exact slash_not_mem_of_mem_splitAtSlashes h

/-! ## Taking the last name off -/

theorem fromLast_idle (segments : List Segment) :
    ∃ idle, segments = (fromLast segments).reverse ++ idle ∧
      ∀ segment ∈ idle, isIdle segment = true := by
  refine ⟨(segments.reverse.takeWhile isIdle).reverse, ?_, ?_⟩
  · rw [fromLast, ← List.reverse_append, List.takeWhile_append_dropWhile, List.reverse_reverse]
  · intro segment hsegment
    exact List.mem_takeWhile_imp (List.mem_reverse.mp hsegment)

theorem isIdle_of_fromLast {segments above : List Segment} {segment : Segment}
    (h : fromLast segments = segment :: above) : isIdle segment = false := by
  have hhead := List.head?_dropWhile_not isIdle segments.reverse
  rw [← fromLast, h] at hhead
  simpa using hhead

theorem ne_nil_of_not_idle {segment : Segment} (h : isIdle segment = false) : segment ≠ [] := by
  rintro rfl
  cases h

/-- A path with a name is made of the path above it, the name and idle segments. -/
theorem exists_base_of_fileName? {p : Path} {name : String} (h : p.fileName? = some name) :
    ∃ base idle segment tail, p.split.2 = base ++ idle ++ segment :: tail ∧
      (∀ other ∈ idle ++ tail, isIdle other = true) ∧ isIdle segment = false ∧
      name = String.ofList segment ∧ segment ≠ ['.', '.'] ∧
      (∀ last ∈ base.getLast?, isIdle last = false) ∧
      p.parent? = some (assemble p.split.1 base) := by
  rw [fileName?] at h
  split at h
  · cases h
  next segment above hlast =>
  split at h
  · cases h
  next hup =>
  obtain rfl := Option.some.inj h
  obtain ⟨tail, hsegments, htail⟩ := fromLast_idle p.split.2
  obtain ⟨idle, habove, hidle⟩ := fromLast_idle above.reverse
  rw [hlast, List.reverse_cons, habove] at hsegments
  -- idle segments are skipped twice: behind the name, and behind the path above it
  refine ⟨(fromLast above.reverse).reverse, idle, segment, tail, ?_, ?_, isIdle_of_fromLast hlast,
    rfl, hup, ?_, ?_⟩
  · simpa using hsegments
  · intro other hother
    rcases List.mem_append.mp hother with hother | hother
    · exact hidle other hother
    · exact htail other hother
  · intro last hbase
    rw [List.getLast?_reverse] at hbase
    obtain ⟨rest, hrest⟩ := List.head?_eq_some_iff.mp hbase
    exact isIdle_of_fromLast hrest
  · rw [parent?, hlast, fromLast, List.reverse_reverse]

theorem slash_not_mem_of_fileName? {p : Path} {name : String} (h : p.fileName? = some name) :
    '/' ∉ name.toList := by
  obtain ⟨base, idle, segment, tail, hsplit, -, -, rfl, -⟩ := exists_base_of_fileName? h
  rw [String.toList_ofList]
  refine slash_not_mem_of_mem_split (p := p) ?_
  simp [hsplit]

/-! ## A name below a path that is put together -/

theorem getLast?_joinSegments {segments : List Segment} {last : Segment}
    (h : last ∈ segments.getLast?) (hne : last ≠ []) :
    (joinSegments segments).getLast? = last.getLast? := by
  obtain ⟨rest, rfl⟩ := List.getLast?_eq_some_iff.mp h
  obtain ⟨c, cs, rfl⟩ := List.exists_cons_of_ne_nil hne
  rcases eq_or_ne rest [] with rfl | hrest
  · rfl
  · rw [joinSegments_concat hrest, List.getLast?_append, List.getLast?_cons_cons]
    simp [List.getLast?_cons]

theorem toList_text_join {base p : Path} (h : p.isAbsolute = false) :
    (base.join p).text.toList =
      if base.text = "" ∨ base.text.toList.getLast? = some '/' then
        base.text.toList ++ p.text.toList
      else base.text.toList ++ '/' :: p.text.toList := by
  rw [join, if_neg (by simp [h])]
  split <;> simp

/-- **What the segments of a path below a folder stand for** is what those of the folder stand for
and then those of the path, if nothing is made of empty segments. -/
theorem filterMap_splitAtSlashes_join {α : Type} {f : Segment → Option α} (hf : f [] = none)
    (base : Path) {p : Path} (h : p.isAbsolute = false) :
    (splitAtSlashes (base.join p).text.toList).filterMap f =
      (splitAtSlashes base.text.toList).filterMap f ++
        (splitAtSlashes p.text.toList).filterMap f := by
  rw [toList_text_join h]
  by_cases hempty : base.text = ""
  · simp [hempty, splitAtSlashes, hf]
  by_cases hlast : base.text.toList.getLast? = some '/'
  · -- the segment behind the last slash of the folder is empty
    obtain ⟨above, htext⟩ := List.getLast?_eq_some_iff.mp hlast
    rw [if_pos (Or.inr hlast), htext, List.append_assoc, List.singleton_append,
      splitAtSlashes_append_slash, splitAtSlashes_append_slash]
    simp [splitAtSlashes, hf]
  · rw [if_neg (by simp [hempty, hlast]), splitAtSlashes_append_slash, List.filterMap_append]

theorem isAbsolute_of_not_mem {name : String} (h : '/' ∉ name.toList) :
    isAbsolute ⟨name⟩ = false := by
  rw [isAbsolute, beq_eq_false_iff_ne]
  intro hhead
  exact h (List.mem_of_mem_head? (Option.mem_def.mpr hhead))

theorem toList_text_assemble (lead : Lead) {base : List Segment} (h : base ≠ []) :
    (assemble lead base).text.toList = joinSegments (lead.segments ++ base) := by
  obtain ⟨first, rest, rfl⟩ := List.exists_cons_of_ne_nil h
  cases lead <;> simp [assemble, Lead.segments, joinSegments_cons]

theorem text_join_assemble (lead : Lead) {base : List Segment} {name : Segment}
    (hslash : ∀ segment ∈ base, '/' ∉ segment)
    (hlast : ∀ last ∈ base.getLast?, isIdle last = false) (hname : '/' ∉ name) :
    ((assemble lead base).join ⟨String.ofList name⟩).text =
      String.ofList (joinSegments (lead.segments ++ base ++ [name])) := by
  have hrelative : isAbsolute ⟨String.ofList name⟩ = false :=
    isAbsolute_of_not_mem (by rwa [String.toList_ofList])
  rw [← String.toList_inj, String.toList_ofList, toList_text_join hrelative, String.toList_ofList]
  -- without segments only the lead decides whether a slash is needed
  rcases List.eq_nil_or_concat base with rfl | ⟨rest, last, rfl⟩
  · cases lead with
    | root => simp [assemble, joinSegments, Lead.segments]
    | here => simp [assemble, joinSegments, Lead.segments]
    | nothing => simp [assemble, joinSegments, Lead.segments]
  · rw [List.concat_eq_append] at *
    have hne := ne_nil_of_not_idle (hlast last (by simp))
    -- the text ends in the last segment, so another slash is needed
    have hend : (joinSegments (lead.segments ++ (rest ++ [last]))).getLast? = last.getLast? :=
      getLast?_joinSegments (by simp) hne
    have hno : last.getLast? ≠ some '/' := fun h =>
      hslash last (by simp) (List.mem_of_getLast? h)
    have htext : (assemble lead (rest ++ [last])).text.toList =
        joinSegments (lead.segments ++ (rest ++ [last])) :=
      toList_text_assemble lead (by simp)
    have hempty : (assemble lead (rest ++ [last])).text ≠ "" := by
      intro h
      rw [h] at htext
      rw [← htext] at hend
      exact hne (List.getLast?_eq_none_iff.mp hend.symm)
    rw [htext, if_neg (by simp [hempty, hend, hno]), joinSegments_concat (by simp)]

/-! ## The steps of another name -/

theorem filterMap_ofSegment?_idle {idle : List Segment}
    (h : ∀ segment ∈ idle, isIdle segment = true) :
    ∃ count, idle.filterMap Step.ofSegment? = List.replicate count .here := by
  induction idle with
  | nil => exact ⟨0, rfl⟩
  | cons segment idle ih =>
    obtain ⟨count, hcount⟩ := ih fun other hother => h other (List.mem_cons_of_mem _ hother)
    have hsegment := h segment List.mem_cons_self
    simp only [isIdle, Bool.or_eq_true, beq_iff_eq] at hsegment
    rcases hsegment with rfl | rfl
    · exact ⟨count, by simp [Step.ofSegment?, hcount]⟩
    · exact ⟨count + 1, by simp [Step.ofSegment?, hcount, List.replicate_succ]⟩

theorem ofSegment?_of_not_idle {segment : Segment} (h : isIdle segment = false)
    (hup : segment ≠ ['.', '.']) :
    Step.ofSegment? segment = some (.name (String.ofList segment)) := by
  simp only [isIdle, Bool.or_eq_false_iff, beq_eq_false_iff_ne] at h
  simp [Step.ofSegment?, h.1, h.2, hup]

theorem getLast?_of_lastStep {p : Path} {last : String} {slash : Bool}
    (h : FileSystem.lastStep p = .name last slash) :
    (Step.ofText p.text).getLast? = some (.name last) := by
  rw [FileSystem.lastStep] at h
  split at h
  · next name hlast =>
    obtain ⟨rfl, -⟩ := LastStep.name.inj h
    exact hlast
  · cases h

/-- Steps that end in a name have no step to the directory itself behind it. -/
theorem eq_of_getLast?_append_replicate {steps : List Step} {step : Step} {count : Nat}
    {last : String}
    (h : (steps ++ step :: List.replicate count .here).getLast? = some (.name last)) :
    count = 0 ∧ step = .name last := by
  cases count with
  | zero => exact ⟨rfl, by simpa using h⟩
  | succ count =>
    rw [List.replicate_succ', ← List.cons_append, ← List.append_assoc, List.getLast?_concat] at h
    cases h

theorem fileName?_of_lastStep {p : Path} {last : String} {slash : Bool}
    (h : FileSystem.lastStep p = .name last slash) : p.fileName? = some last := by
  have hlast := getLast?_of_lastStep h
  obtain ⟨tail, hsegments, htail⟩ := fromLast_idle p.split.2
  obtain ⟨count, hcount⟩ := filterMap_ofSegment?_idle htail
  rw [Step.ofText, splitAtSlashes_text, hsegments] at hlast
  rw [fileName?]
  split
  · next hnone =>
    rw [hnone, List.reverse_nil, List.nil_append, List.filterMap_append, hcount] at hlast
    -- only the lead stands in front of idle segments, and no lead is a name
    cases hlead : p.split.1 <;> rw [hlead] at hlast <;> cases count <;>
      simp [Lead.segments, Step.ofSegment?, List.replicate_succ', List.getLast?_cons] at hlast
  · next segment above hsome =>
    have hidle := isIdle_of_fromLast hsome
    rw [hsome, List.reverse_cons, List.append_assoc, ← List.append_assoc, List.filterMap_append,
      List.singleton_append, List.filterMap_cons] at hlast
    split
    · next hup =>
      -- a path that ends in a step up does not end in a name
      subst hup
      simp only [Step.ofSegment?, hcount] at hlast
      cases (eq_of_getLast?_append_replicate hlast).2
    · next hup =>
      rw [ofSegment?_of_not_idle hidle hup, hcount] at hlast
      rw [Step.name.inj (eq_of_getLast?_append_replicate hlast).2]

theorem slash_not_mem_of_lastStep {p : Path} {last : String} {slash : Bool}
    (h : FileSystem.lastStep p = .name last slash) : '/' ∉ last.toList :=
  slash_not_mem_of_fileName? (fileName?_of_lastStep h)

/-! ## A name below a folder -/

section Below

variable {name : String} (hslash : '/' ∉ name.toList)

include hslash

/-- A path below a folder ends like its last name. -/
theorem getLast?_text_join_ne (folder : Path) (hne : name ≠ "") :
    (folder.join ⟨name⟩).text.toList.getLast? ≠ some '/' := by
  obtain ⟨last, hlast⟩ : ∃ last, name.toList.getLast? = some last :=
    Option.ne_none_iff_exists'.mp (by simpa using hne)
  have hend : (folder.join ⟨name⟩).text.toList.getLast? = some last := by
    rw [toList_text_join (isAbsolute_of_not_mem hslash)]
    split <;> simp [List.getLast?_append, List.getLast?_cons, hlast]
  rw [hend]
  intro hend
  exact hslash (List.mem_of_getLast? (hlast.trans hend))

/-- The steps below a folder are those of the folder and then those of the name. -/
theorem ofText_join_of_not_mem (folder : Path) :
    Step.ofText (folder.join ⟨name⟩).text = Step.ofText folder.text ++ Step.ofText name :=
  filterMap_splitAtSlashes_join rfl folder (isAbsolute_of_not_mem hslash)

variable (hidle : isIdle name.toList = false) (hup : name.toList ≠ ['.', '.'])

include hidle hup

theorem ofText_of_not_idle : Step.ofText name = [.name name] := by
  have hsegment := ofSegment?_of_not_idle hidle hup
  rw [String.ofList_toList] at hsegment
  rw [Step.ofText, splitAtSlashes_of_not_mem hslash]
  simp [hsegment]

/-- A path below a folder ends in its name. -/
theorem lastStep_join (folder : Path) :
    FileSystem.lastStep (folder.join ⟨name⟩) = .name name false := by
  have hne : name ≠ "" := by
    rintro rfl
    exact ne_nil_of_not_idle hidle rfl
  rw [FileSystem.lastStep, ofText_join_of_not_mem hslash folder,
    ofText_of_not_idle hslash hidle hup, List.getLast?_concat]
  simp [getLast?_text_join_ne hslash folder hne]

/-- Another name beside a path has no slash behind it. -/
theorem lastStep_withFileName (p : Path) :
    FileSystem.lastStep (p.withFileName name) = .name name false := by
  rw [withFileName]
  split <;> exact lastStep_join hslash hidle hup _

end Below

/-! ## Another name beside a path -/

theorem isAbsolute_iff_split {p : Path} : p.isAbsolute = true ↔ p.split.1 = .root := by
  rw [isAbsolute, split, beq_iff_eq]
  split
  · next rest htext => simp [htext]
  · next cs hcs =>
    constructor
    · intro hhead
      obtain ⟨rest, hrest⟩ := List.head?_eq_some_iff.mp hhead
      exact absurd hrest (hcs rest)
    · intro hroot
      split at hroot <;> cases hroot

theorem isAbsolute_eq_false_of_split {p : Path} (h : p.split.1 ≠ .root) : p.isAbsolute = false :=
  Bool.eq_false_iff.mpr (mt isAbsolute_iff_split.mp h)

/-- A first segment that is not empty keeps a path from being absolute. -/
theorem isAbsolute_joinSegments {segment : Segment} {segments : List Segment}
    (hslash : '/' ∉ segment) (hne : segment ≠ []) :
    isAbsolute ⟨String.ofList (joinSegments (segment :: segments))⟩ = false := by
  obtain ⟨c, rest, rfl⟩ := List.exists_cons_of_ne_nil hne
  rw [List.mem_cons, not_or] at hslash
  cases segments with
  | nil => simpa [isAbsolute, joinSegments] using Ne.symm hslash.1
  | cons => simpa [isAbsolute, joinSegments] using Ne.symm hslash.1

section Sibling

variable {p : Path} {last name : String} {slash : Bool}

/-- What another name beside a path is written as. -/
theorem exists_base_of_lastStep (h : FileSystem.lastStep p = .name last slash)
    (hname : '/' ∉ name.toList) :
    ∃ base idle segment tail, p.split.2 = base ++ idle ++ segment :: tail ∧
      (∀ other ∈ idle ++ tail, isIdle other = true) ∧
      Step.ofSegment? segment = some (.name last) ∧
      (p.withFileName name).text =
        String.ofList (joinSegments (p.split.1.segments ++ base ++ [name.toList])) := by
  obtain ⟨base, idle, segment, tail, hsplit, hidle, hsegment, hlast, hup, hbase, hparent⟩ :=
    exists_base_of_fileName? (fileName?_of_lastStep h)
  refine ⟨base, idle, segment, tail, hsplit, hidle, hlast ▸ ofSegment?_of_not_idle hsegment hup, ?_⟩
  have hslash : ∀ other ∈ base, '/' ∉ other := by
    intro other hother
    refine slash_not_mem_of_mem_split (p := p) ?_
    rw [hsplit]
    simp [hother]
  have htext := text_join_assemble p.split.1 hslash hbase hname
  rw [String.ofList_toList] at htext
  rw [withFileName, fileName?_of_lastStep h, hparent]
  exact htext

/-- **The steps of another name beside a path** are the same up to the last one, except for steps to
the directory itself. -/
theorem ofText_withFileName (h : FileSystem.lastStep p = .name last slash)
    (hname : '/' ∉ name.toList) (hidle : isIdle name.toList = false)
    (hup : name.toList ≠ ['.', '.']) :
    ∃ above count, Step.ofText p.text = above ++ List.replicate count .here ++ [.name last] ∧
      Step.ofText (p.withFileName name).text = above ++ [.name name] := by
  obtain ⟨base, idle, segment, tail, hsplit, hidles, hsegment, htext⟩ :=
    exists_base_of_lastStep h hname
  obtain ⟨count, hcount⟩ := filterMap_ofSegment?_idle fun other hother =>
    hidles other (List.mem_append_left _ hother)
  obtain ⟨trailing, htrailing⟩ := filterMap_ofSegment?_idle fun other hother =>
    hidles other (List.mem_append_right _ hother)
  refine ⟨(p.split.1.segments ++ base).filterMap Step.ofSegment?, count, ?_, ?_⟩
  · -- what is behind the name are no steps, since the path ends in a name
    have hsteps : Step.ofText p.text =
        (p.split.1.segments ++ base).filterMap Step.ofSegment? ++ List.replicate count .here ++
          .name last :: List.replicate trailing .here := by
      rw [Step.ofText, splitAtSlashes_text, hsplit]
      simp [hcount, htrailing, hsegment]
    have hlast := getLast?_of_lastStep h
    rw [hsteps] at hlast ⊢
    rw [(eq_of_getLast?_append_replicate hlast).1, List.replicate_zero]
  · have hslash : ∀ other ∈ p.split.1.segments ++ base ++ [name.toList], '/' ∉ other := by
      intro other hother
      rcases List.mem_append.mp hother with hother | hother
      · refine slash_not_mem_of_mem_split (p := p) ?_
        rw [hsplit]
        rcases List.mem_append.mp hother with hother | hother <;> simp [hother]
      · exact List.mem_singleton.mp hother ▸ hname
    rw [Step.ofText, htext, String.toList_ofList, splitAtSlashes_joinSegments (by simp) hslash,
      List.filterMap_append]
    simp [ofSegment?_of_not_idle hidle hup]

/-- Another name beside a path starts from the same directory. -/
theorem isAbsolute_withFileName (h : FileSystem.lastStep p = .name last slash)
    (hname : '/' ∉ name.toList) (hidle : isIdle name.toList = false) :
    (p.withFileName name).isAbsolute = p.isAbsolute := by
  obtain ⟨base, idle, segment, tail, hsplit, -, -, htext⟩ := exists_base_of_lastStep h hname
  have hne := ne_nil_of_not_idle hidle
  have hpath : p.withFileName name =
      ⟨String.ofList (joinSegments (p.split.1.segments ++ base ++ [name.toList]))⟩ := by
    rw [← htext]
  rw [hpath]
  cases hlead : p.split.1 with
  | root =>
    rw [isAbsolute_iff_split.mpr hlead]
    simp [isAbsolute, Lead.segments, joinSegments_cons]
  | here =>
    have hrelative : p.isAbsolute = false := isAbsolute_eq_false_of_split (by simp [hlead])
    rw [hrelative]
    exact isAbsolute_joinSegments (by simp) (by simp)
  | nothing =>
    have hrelative : p.isAbsolute = false := isAbsolute_eq_false_of_split (by simp [hlead])
    rw [hrelative]
    cases base with
    | nil => exact isAbsolute_joinSegments hname hne
    | cons first rest =>
      have hsegments := splitAtSlashes_text p
      rw [hlead, hsplit] at hsegments
      refine isAbsolute_joinSegments (slash_not_mem_of_mem_split (p := p) ?_) ?_
      · simp [hsplit]
      · rintro rfl
        -- an empty first segment would put a slash first
        have htext := joinSegments_splitAtSlashes p.text.toList
        rw [hsegments] at htext
        simp [isAbsolute, ← htext, Lead.segments, joinSegments_cons] at hrelative

end Sibling

end MessageCatalog.Path
