import Mathlib.Data.List.DropRight

/-!
# Lines of a text

A text is cut at its newlines. Lines that hold no newline and are written one below the other are
found again, whatever stands behind them.

## Main definitions

* `lines` — the lines of a text; the last is what stands behind its last newline.
* `unlines` — some lines, each with a newline behind it.
* `behindLast` — what stands behind the last line of some wording.

## Main results

* `length_lines`: a text has one line more than newlines
* `lines_unlines_append_eq`, `lines_unlines_append`: lines that were written are found again
* `behindLast_append_cons`: what stands behind the last line of its wording is found
-/

namespace MessageCatalog.Text

/-- The lines of a text without the newlines between them. -/
def lines (text : String) : List String :=
  (text.toList.splitOn '\n').map String.ofList

/-- Some lines one below the other, each with a newline behind it. -/
def unlines (ls : List String) : String :=
  String.join (ls.map fun line => line ++ "\n")

theorem unlines_nil : unlines [] = "" := rfl

theorem unlines_cons (line : String) (ls : List String) :
    unlines (line :: ls) = line ++ "\n" ++ unlines ls := by
  simp [unlines]

theorem unlines_append (ls rest : List String) :
    unlines (ls ++ rest) = unlines ls ++ unlines rest := by
  simp [unlines]

theorem lines_append_newline (text rest : String) :
    lines (text ++ "\n" ++ rest) = lines text ++ lines rest := by
  have hcut : (text ++ "\n" ++ rest).toList = text.toList ++ '\n' :: rest.toList := by simp
  rw [lines, hcut, List.splitOn_append_cons_self, List.map_append]
  rfl

theorem lines_eq_singleton {line : String} (h : '\n' ∉ line.toList) : lines line = [line] := by
  rw [lines, List.splitOn_eq_singleton h, List.map_singleton, String.ofList_toList]

/-- A text has one line more than newlines. -/
theorem length_lines (text : String) : (lines text).length = text.toList.count '\n' + 1 := by
  rw [lines, List.length_map]
  induction text.toList with
  | nil => rfl
  | cons c rest ih =>
    rw [List.splitOn_cons_eq_if_modifyHead, List.count_cons]
    split
    · rw [List.length_cons, ih]
    · rw [List.length_modifyHead, ih, Nat.add_zero]

/-- Texts that are written one below the other are cut at their own newlines, too. -/
theorem lines_unlines_append_eq (ls : List String) (rest : String) :
    lines (unlines ls ++ rest) = ls.flatMap lines ++ lines rest := by
  induction ls with
  | nil => rw [unlines_nil, String.empty_append, List.flatMap_nil, List.nil_append]
  | cons line ls ih =>
    rw [unlines_cons, String.append_assoc, lines_append_newline, ih, List.flatMap_cons,
      List.append_assoc]

theorem flatMap_lines_eq_self {ls : List String} (h : ∀ line ∈ ls, '\n' ∉ line.toList) :
    ls.flatMap lines = ls := by
  rw [List.flatMap_def, List.map_congr_left fun line hline => lines_eq_singleton (h line hline),
    ← List.flatMap_def, List.flatMap_singleton']

/-- **Lines that were written are found again.** -/
theorem lines_unlines_append {ls : List String} (h : ∀ line ∈ ls, '\n' ∉ line.toList)
    (rest : String) : lines (unlines ls ++ rest) = ls ++ lines rest := by
  rw [lines_unlines_append_eq, flatMap_lines_eq_self h]

/-- What stands behind the last line of some wording. -/
def behindLast (wording : String) (ls : List String) : List String :=
  ls.rtakeWhile fun line => line ≠ wording

/-- **What stands behind the last line of its wording is found**, whatever stands before it. -/
theorem behindLast_append_cons {wording : String} (before : List String) {behind : List String}
    (h : wording ∉ behind) : behindLast wording (before ++ wording :: behind) = behind := by
  have hbehind : ∀ line ∈ behind.reverse, decide (line ≠ wording) = true := by
    intro line hline
    rw [decide_eq_true_iff]
    rintro rfl
    exact h (List.mem_reverse.mp hline)
  rw [behindLast, List.rtakeWhile, List.reverse_append, List.reverse_cons, List.append_assoc,
    List.takeWhile_append_of_pos hbehind]
  simp

/-! ## What lines say -/

/-- If each line is read as what it was written for, so are some lines one after the other. -/
theorem mapM_map_eq_some {α β : Type} {read? : String → Option β} {spelling : α → String}
    {said : α → β} {rows : List α} (h : ∀ row ∈ rows, read? (spelling row) = some (said row)) :
    (rows.map spelling).mapM read? = some (rows.map said) := by
  induction rows with
  | nil => rfl
  | cons row rows ih =>
    have hrest := ih fun other hother => h other (List.mem_cons_of_mem _ hother)
    rw [List.map_cons, List.mapM_cons, h row List.mem_cons_self, hrest]
    rfl

theorem dropPrefix?_append (front rest : List Char) :
    (front ++ rest).dropPrefix? front = some rest :=
  List.dropPrefix?_append_of_beq rest (by simp)

end MessageCatalog.Text
