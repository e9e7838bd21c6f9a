import Chip8Assembly.Text.Lines
import Mathlib.Data.List.TakeWhile

/-!
# Lines — how texts fall apart into lines

Everything about the lines of a text follows from one equation,
`lines_append_newline`: what stands before a newline is split there, and what
stands behind it has its own lines.

A *row* is a line that stands for itself: it holds no newline, no carriage
return and no comment, and it has content: some character that is not blank
(`hasContent_eq_true_iff`).  Rows are found again in a text made
of them, whether each is ended by a newline (`lines_flatMap`) or newlines stand between
them only (`lines_joinLines`).
-/

namespace Chip8Assembly.Text

/-! ## Splitting at newlines -/

/-- A piece behind others is the last one. -/
theorem linesOfPieces_append (before : List Text) {pieces : List Text}
    (h : pieces ≠ []) :
    linesOfPieces (before ++ pieces)
      = before.map dropReturn ++ linesOfPieces pieces := by
  have hlast : (before ++ pieces).getLast? = pieces.getLast? := by
    rw [List.getLast?_append, List.getLast?_eq_some_getLast h]
    rfl
  rw [linesOfPieces, List.dropLast_append_of_ne_nil h, List.map_append, hlast,
    List.append_assoc, linesOfPieces]

theorem splitOn_append_newline (x y : Text) :
    (x ++ '\n' :: y).splitOn '\n' = x.splitOn '\n' ++ y.splitOn '\n' := by
  simp only [List.splitOn_eq_splitOnP]
  exact List.splitOnP_append_cons x y (beq_self_eq_true '\n')

/-- **A newline splits a text.** -/
theorem lines_append_newline (x y : Text) :
    lines (x ++ '\n' :: y) = (x.splitOn '\n').map dropReturn ++ lines y := by
  rw [lines, splitOn_append_newline,
    linesOfPieces_append _ (List.splitOn_ne_nil _ _), lines]

theorem splitOn_of_not_mem {t : Text} (h : '\n' ∉ t) : t.splitOn '\n' = [t] := by
  rw [List.splitOn_eq_splitOnP]
  refine List.splitOnP_eq_singleton ?_
  intro c hc
  exact beq_eq_false_iff_ne.mpr fun he => h (he ▸ hc)

/-- Text without newlines is one line, unless it is empty. -/
theorem lines_of_not_mem {t : Text} (hne : t ≠ []) (h : '\n' ∉ t) :
    lines t = [t] := by
  rw [lines, splitOn_of_not_mem h]
  show [t].filter (· ≠ []) = [t]
  exact List.filter_cons_of_pos (decide_eq_true hne)

/-! ## Numbers -/

/-- The lines that carry content keep the order of their numbers. -/
theorem pairwise_contentLines (t : Text) :
    (contentLines t).Pairwise fun a b => a.2 < b.2 := by
  have hrange := List.pairwise_lt_range' (s := 1) (n := (lines t).length) 1
  rw [← List.zipIdx_map_snd] at hrange
  exact (List.pairwise_map.mp hrange).filter _

/-! ## Content -/

/-- Trimming leaves nothing of a text that is blank all over, and something of any
    other. -/
theorem trim_eq_nil_iff {t : Text} : trim t = [] ↔ ∀ c ∈ t, isBlank c = true := by
  rw [trim, List.reverse_eq_nil_iff, List.dropWhile_eq_nil_iff]
  constructor
  · intro h
    -- the first character that is kept at the front would be kept at the end, too
    have hfront : t.dropWhile isBlank = [] := by
      cases hdrop : t.dropWhile isBlank with
      | nil => rfl
      | cons c u =>
          have hhead := List.head?_dropWhile_not isBlank t
          rw [hdrop] at hhead h
          have hkept : isBlank c = false := hhead
          rw [h c (List.mem_reverse.mpr List.mem_cons_self)] at hkept
          exact nomatch hkept
    exact List.dropWhile_eq_nil_iff.mp hfront
  · intro h c hc
    exact h c ((List.dropWhile_sublist isBlank).subset (List.mem_reverse.mp hc))

/-- **A line carries content** exactly if some character before its comment is not
    blank. -/
theorem hasContent_eq_true_iff {line : Text} :
    hasContent line = true ↔ ∃ c ∈ uncommented line, isBlank c = false := by
  rw [hasContent, Bool.not_eq_true', List.isEmpty_eq_false_iff, Ne, trim_eq_nil_iff]
  simp only [not_forall, Bool.not_eq_true, exists_prop]

/-! ## Rows -/

/-- A line that stands for itself. -/
structure IsRow (t : Text) : Prop where
  no_newline : '\n' ∉ t
  no_return : '\r' ∉ t
  no_comment : commentMark ∉ t
  content : ∃ c ∈ t, isBlank c = false

namespace IsRow

variable {t : Text}

theorem ne_nil (h : IsRow t) : t ≠ [] := by
  obtain ⟨c, hc, -⟩ := h.content
  exact List.ne_nil_of_mem hc

/-- No carriage return is taken off a row. -/
theorem dropReturn_eq (h : IsRow t) : dropReturn t = t := by
  refine if_neg fun hlast => h.no_return ?_
  exact List.mem_of_getLast? hlast

/-- A row is all before its comment. -/
theorem uncommented_eq (h : IsRow t) : uncommented t = t := by
  refine List.takeWhile_eq_self_iff.mpr ?_
  intro c hc
  exact bne_iff_ne.mpr fun he => h.no_comment (he ▸ hc)

theorem hasContent (h : IsRow t) : hasContent t = true := by
  obtain ⟨c, hc, hb⟩ := h.content
  refine hasContent_eq_true_iff.mpr ⟨c, ?_, hb⟩
  rw [h.uncommented_eq]
  exact hc

/-- A row with more text of its sort behind it. -/
theorem append {s : Text} (h : IsRow t) (hn : '\n' ∉ s) (hr : '\r' ∉ s)
    (hc : commentMark ∉ s) : IsRow (t ++ s) where
  no_newline := fun hm => (List.mem_append.mp hm).elim h.no_newline hn
  no_return := fun hm => (List.mem_append.mp hm).elim h.no_return hr
  no_comment := fun hm => (List.mem_append.mp hm).elim h.no_comment hc
  content := by
    obtain ⟨c, hct, hb⟩ := h.content
    exact ⟨c, List.mem_append_left s hct, hb⟩

end IsRow

/-- A row and its newline are a line of their own. -/
theorem lines_row_newline {row : Text} (h : IsRow row) (t : Text) :
    lines (row ++ '\n' :: t) = row :: lines t := by
  rw [lines_append_newline, splitOn_of_not_mem h.no_newline, List.map_singleton,
    h.dropReturn_eq]
  rfl

/-- **Rows with newlines between them** are the lines of their text. -/
theorem lines_joinLines {rows : List Text} (h : ∀ row ∈ rows, IsRow row) :
    lines (joinLines rows) = rows := by
  induction rows with
  | nil => rfl
  | cons row rows ih =>
      have hrow : IsRow row := h row List.mem_cons_self
      have hrest : ∀ r ∈ rows, IsRow r :=
        fun r hr => h r (List.mem_cons_of_mem row hr)
      cases rows with
      | nil =>
          rw [joinLines, List.intercalate_singleton]
          exact lines_of_not_mem hrow.ne_nil hrow.no_newline
      | cons next rows =>
          have hjoin : joinLines (row :: next :: rows)
              = row ++ '\n' :: joinLines (next :: rows) := by
            rw [joinLines, List.intercalate_cons_cons, List.append_assoc]
            rfl
          rw [hjoin, lines_row_newline hrow, ih hrest]

/-- If all lines of a text are rows, all of them carry content. -/
theorem contentLines_of_rows {t : Text} {rows : List Text} (hl : lines t = rows)
    (h : ∀ row ∈ rows, IsRow row) : contentLines t = rows.zipIdx 1 := by
  rw [contentLines, numberedLines, hl, List.filter_eq_self]
  rintro ⟨row, n⟩ hmem
  exact (h row (List.fst_mem_of_mem_zipIdx hmem)).hasContent

end Chip8Assembly.Text
