import Chip8Assembly.Proofs.Lines

/-!
# Fields — how a line falls apart into tokens

Everything about the fields of a text follows from `fields_append_blank`: a
blank keeps what stands on its two sides apart.  A *token* is a field that
stands for itself; tokens with single spaces between them are found again
(`fields_spaced`).

Trimming takes off the blanks at the two ends of a text.  What is left is settled
by that: there is one way to trim a text (`IsTrimmed.trim_eq`).
-/

namespace Chip8Assembly.Text

/-! ## Splitting at blanks -/

/-- **A blank splits the fields of a text.** -/
theorem fields_append_blank {b : Char} (hb : isBlank b = true) (x y : Text) :
    fields (x ++ b :: y) = fields x ++ fields y := by
  rw [fields, List.splitOnP_append_cons x y hb, List.filter_append]
  rfl

/-- A blank in front of a text belongs to no field. -/
theorem fields_cons_blank {b : Char} (hb : isBlank b = true) (t : Text) :
    fields (b :: t) = fields t :=
  fields_append_blank hb [] t

/-- Blanks in front of a text belong to no field. -/
theorem fields_blanks_append {w : Text} (hw : ∀ c ∈ w, isBlank c = true)
    (t : Text) : fields (w ++ t) = fields t := by
  induction w with
  | nil => rfl
  | cons b w ih =>
      rw [List.cons_append, fields_cons_blank (hw b List.mem_cons_self),
        ih fun c hc => hw c (List.mem_cons_of_mem b hc)]

/-- **It does not matter which blanks split a text,** or how many. -/
theorem fields_append_blanks {w : Text} (hne : w ≠ [])
    (hw : ∀ c ∈ w, isBlank c = true) (x y : Text) :
    fields (x ++ w ++ y) = fields x ++ fields y := by
  cases w with
  | nil => exact absurd rfl hne
  | cons b w =>
      rw [List.append_assoc, List.cons_append,
        fields_append_blank (hw b List.mem_cons_self),
        fields_blanks_append fun c hc => hw c (List.mem_cons_of_mem b hc)]

/-- A text has fields as soon as one of its characters is not blank. -/
theorem fields_eq_nil_iff {t : Text} :
    fields t = [] ↔ ∀ c ∈ t, isBlank c = true := by
  induction t with
  | nil => exact ⟨fun _ => List.forall_mem_nil _, fun _ => rfl⟩
  | cons c t ih =>
      rw [List.forall_mem_cons]
      cases hc : isBlank c with
      | true => rw [fields_cons_blank hc, ih, and_iff_right rfl]
      | false =>
          -- the piece that starts with `c` is not empty
          refine ⟨fun h => ?_, fun h => Bool.noConfusion h.1⟩
          obtain ⟨p, ps, hs⟩ :=
            List.exists_cons_of_ne_nil (List.splitOnP_ne_nil isBlank t)
          rw [fields, List.splitOnP_cons_eq_if_modifyHead, hc, hs] at h
          exact nomatch h

/-- A line carries content exactly if it has a field before its comment. -/
theorem hasContent_eq_false_iff {line : Text} :
    hasContent line = false ↔ fields (uncommented line) = [] := by
  rw [fields_eq_nil_iff, hasContent, Bool.not_eq_false', List.isEmpty_iff,
    trim_eq_nil_iff]

/-- Text without blanks is one field, unless it is empty. -/
theorem fields_of_no_blank {t : Text} (hne : t ≠ [])
    (ht : ∀ c ∈ t, isBlank c = false) : fields t = [t] := by
  rw [fields, List.splitOnP_eq_singleton ht]
  exact List.filter_cons_of_pos (decide_eq_true hne)

/-! ## The ends of a text -/

/-- What is left of a text without the blanks at its two ends. -/
structure IsTrimmed (t core : Text) : Prop where
  around : ∃ before after, t = before ++ (core ++ after) ∧
    ∀ c ∈ before ++ after, isBlank c = true
  head : ∀ c ∈ core.head?, isBlank c = false
  last : ∀ c ∈ core.getLast?, isBlank c = false

/-- The blanks in front of a text are dropped, and no more. -/
theorem dropWhile_blanks_append {w t : Text} (hw : ∀ c ∈ w, isBlank c = true)
    (ht : ∀ c ∈ t.head?, isBlank c = false) : (w ++ t).dropWhile isBlank = t := by
  rw [List.dropWhile_append_of_pos hw]
  cases t with
  | nil => rfl
  | cons c t => rw [List.dropWhile_cons, ht c rfl]; rfl

/-- Dropping blanks ends at a character that is none. -/
theorem head?_dropWhile_blanks (t : Text) :
    ∀ c ∈ (t.dropWhile isBlank).head?, isBlank c = false := by
  intro c hc
  have hhead := List.head?_dropWhile_not isBlank t
  rwa [Option.mem_def.mp hc] at hhead

/-- **Trimming takes off the blanks at the ends,** and nothing else. -/
theorem isTrimmed_trim (t : Text) : IsTrimmed t (trim t) := by
  obtain ⟨after, hbehind, hafter⟩ : ∃ after,
      t.dropWhile isBlank = trim t ++ after ∧ ∀ c ∈ after, isBlank c = true := by
    refine ⟨((t.dropWhile isBlank).reverse.takeWhile isBlank).reverse, ?_, ?_⟩
    · rw [trim, ← List.reverse_append, List.takeWhile_append_dropWhile,
        List.reverse_reverse]
    · intro c hc
      exact List.mem_takeWhile_imp (List.mem_reverse.mp hc)
  refine ⟨⟨t.takeWhile isBlank, after, ?_, ?_⟩, ?_, ?_⟩
  · rw [← hbehind, List.takeWhile_append_dropWhile]
  · exact List.forall_mem_append.mpr ⟨fun c => List.mem_takeWhile_imp, hafter⟩
  · -- what is left starts where the text behind its first blanks starts
    intro c hc
    obtain ⟨u, hu⟩ := List.head?_eq_some_iff.mp hc
    refine head?_dropWhile_blanks t c ?_
    rw [hbehind, hu]
    rfl
  · intro c hc
    rw [trim, List.getLast?_reverse] at hc
    exact head?_dropWhile_blanks _ c hc

namespace IsTrimmed

variable {t core before after : Text}

/-- Text without blanks is trimmed, whatever blanks are put around it. -/
theorem of_no_blank (ht : t = before ++ (core ++ after))
    (hblank : ∀ c ∈ before ++ after, isBlank c = true)
    (hcore : ∀ c ∈ core, isBlank c = false) : IsTrimmed t core where
  around := ⟨before, after, ht, hblank⟩
  head := fun c hc => hcore c (List.mem_of_head? hc)
  last := fun c hc => hcore c (List.mem_of_getLast? hc)

/-- **There is one way to trim a text.** -/
theorem trim_eq (h : IsTrimmed t core) : trim t = core := by
  obtain ⟨before, after, rfl, hblank⟩ := h.around
  obtain ⟨hbefore, hafter⟩ := List.forall_mem_append.mp hblank
  cases core with
  | nil =>
      -- the text is blank all over
      have hdrop : (before ++ after).dropWhile isBlank = [] :=
        List.dropWhile_eq_nil_iff.mpr hblank
      rw [trim, List.nil_append, hdrop]
      rfl
  | cons c u =>
      have hfront : (before ++ (c :: u ++ after)).dropWhile isBlank = c :: u ++ after :=
        dropWhile_blanks_append hbefore h.head
      have hback : (after.reverse ++ (c :: u).reverse).dropWhile isBlank
          = (c :: u).reverse := by
        refine dropWhile_blanks_append
          (fun d hd => hafter d (List.mem_reverse.mp hd)) ?_
        rw [List.head?_reverse]
        exact h.last
      rw [trim, hfront, List.reverse_append, hback, List.reverse_reverse]

end IsTrimmed

/-! ## Tokens -/

/-- A field that stands for itself. -/
structure IsToken (t : Text) : Prop where
  ne_nil : t ≠ []
  no_blank : ∀ c ∈ t, isBlank c = false
  no_comment : commentMark ∉ t

instance (t : Text) : Decidable (IsToken t) :=
  -- characters are finitely many, but only those of the text are to be tried
  haveI : Decidable (∀ c ∈ t, isBlank c = false) := List.decidableBAll _ t
  decidable_of_iff (t ≠ [] ∧ (∀ c ∈ t, isBlank c = false) ∧ commentMark ∉ t)
    ⟨fun ⟨hne, hb, hc⟩ => ⟨hne, hb, hc⟩, fun h => ⟨h.1, h.2, h.3⟩⟩

namespace IsToken

variable {t : Text}

/-- A token is the only field of itself. -/
theorem fields_eq (h : IsToken t) : fields t = [t] :=
  fields_of_no_blank h.ne_nil h.no_blank

/-- A token with one more character. -/
theorem cons {c : Char} (hb : isBlank c = false) (hc : c ≠ commentMark)
    (h : IsToken t) : IsToken (c :: t) where
  ne_nil := List.cons_ne_nil c t
  no_blank := List.forall_mem_cons.mpr ⟨hb, h.no_blank⟩
  no_comment := List.not_mem_cons_of_ne_of_not_mem hc.symm h.no_comment

/-- The ends of lines are blanks, so a token is a row. -/
theorem isRow (h : IsToken t) : IsRow t where
  no_newline := fun hm => Bool.noConfusion (h.no_blank '\n' hm)
  no_return := fun hm => Bool.noConfusion (h.no_blank '\r' hm)
  no_comment := h.no_comment
  content := by
    obtain ⟨c, hc⟩ := List.exists_mem_of_ne_nil t h.ne_nil
    exact ⟨c, hc, h.no_blank c hc⟩

end IsToken

/-- Tokens with single spaces between them. -/
def spaced (tokens : List Text) : Text := [' '].intercalate tokens

theorem spaced_cons_cons (t u : Text) (ts : List Text) :
    spaced (t :: u :: ts) = t ++ ' ' :: spaced (u :: ts) := by
  rw [spaced, List.intercalate_cons_cons, List.append_assoc]
  rfl

/-- **Tokens are found again** between single spaces. -/
theorem fields_spaced {ts : List Text} (h : ∀ t ∈ ts, IsToken t) :
    fields (spaced ts) = ts := by
  induction ts with
  | nil => rfl
  | cons t ts ih =>
      have ht : IsToken t := h t List.mem_cons_self
      cases ts with
      | nil =>
          rw [spaced, List.intercalate_singleton]
          exact ht.fields_eq
      | cons u ts =>
          rw [spaced_cons_cons, fields_append_blank (by decide), ht.fields_eq,
            ih (fun v hv => h v (List.mem_cons_of_mem t hv))]
          rfl

/-- A character between tokens or in one of them. -/
theorem mem_spaced {c : Char} {ts : List Text} (hc : c ∈ spaced ts) :
    c = ' ' ∨ ∃ t ∈ ts, c ∈ t := by
  induction ts with
  | nil => exact nomatch hc
  | cons t ts ih =>
      cases ts with
      | nil =>
          rw [spaced, List.intercalate_singleton] at hc
          exact Or.inr ⟨t, List.mem_cons_self, hc⟩
      | cons u ts =>
          rw [spaced_cons_cons, List.mem_append, List.mem_cons] at hc
          rcases hc with hc | hc | hc
          · exact Or.inr ⟨t, List.mem_cons_self, hc⟩
          · exact Or.inl hc
          · rcases ih hc with hs | ⟨v, hv, hcv⟩
            · exact Or.inl hs
            · exact Or.inr ⟨v, List.mem_cons_of_mem t hv, hcv⟩

/-- A token, a tab and spaced tokens are a row. -/
theorem isRow_tab_spaced {m : Text} (hm : IsToken m) {ts : List Text}
    (h : ∀ t ∈ ts, IsToken t) : IsRow (m ++ '\t' :: spaced ts) := by
  have hchar : ∀ c, c ≠ '\t' → c ≠ ' ' → (∀ t, IsToken t → c ∉ t) →
      c ∉ '\t' :: spaced ts := by
    intro c htab hspace htoken hc
    rcases List.mem_cons.mp hc with hc | hc
    · exact htab hc
    · rcases mem_spaced hc with hc | ⟨t, ht, hct⟩
      · exact hspace hc
      · exact htoken t (h t ht) hct
  exact hm.isRow.append
    (hchar '\n' (by decide) (by decide) fun t ht => ht.isRow.no_newline)
    (hchar '\r' (by decide) (by decide) fun t ht => ht.isRow.no_return)
    (hchar commentMark (by decide) (by decide) fun t ht => ht.no_comment)

end Chip8Assembly.Text
