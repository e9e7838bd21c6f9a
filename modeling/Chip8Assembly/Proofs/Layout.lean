import Chip8Assembly.Proofs.Concatenation
import Chip8Assembly.Proofs.Fields
import Mathlib.Data.List.Induction
import Mathlib.Logic.Relation

/-!
# Layout — what of a text does not matter to its assembly

The layout of a text is everything but the fields of its lines with content: the
blanks around fields, comments, lines without content, and the way in which
lines end.  `Edit` lists the ways to change it, and `Relaid` is any number of
such changes, each of them made or undone.

No edit changes the fields of the lines with content (`contentFields_edit`),
hence no sequence of edits does, and what a source is assembled to depends on
these fields alone: `assemble_relaid`.
-/

namespace Chip8Assembly

namespace Text

/-! ## Edits -/

/-- A run of blanks within a line. -/
structure IsGap (w : Text) : Prop where
  ne_nil : w ≠ []
  blank : ∀ c ∈ w, isBlank c = true
  no_newline : '\n' ∉ w

instance (w : Text) : Decidable (IsGap w) :=
  -- characters are finitely many, but only those of the text are to be tried
  haveI : Decidable (∀ c ∈ w, isBlank c = true) := List.decidableBAll _ w
  decidable_of_iff (w ≠ [] ∧ (∀ c ∈ w, isBlank c = true) ∧ '\n' ∉ w)
    ⟨fun ⟨hne, hb, hn⟩ => ⟨hne, hb, hn⟩, fun h => ⟨h.1, h.2, h.3⟩⟩

/-- One change of the layout within a line. -/
inductive LineEdit : Text → Text → Prop where
  /-- Blanks, such as those between two fields, become other blanks. -/
  | gap (x : Text) {w v : Text} (y : Text) (hw : IsGap w) (hv : IsGap v) :
      LineEdit (x ++ w ++ y) (x ++ v ++ y)
  /-- Blanks come to stand before the first field. -/
  | indent {w : Text} (x : Text) (hw : IsGap w) : LineEdit x (w ++ x)
  /-- Blanks come to stand behind the last field: at the end of the line or
      before its comment. -/
  | trail (x : Text) {w y : Text} (hw : IsGap w)
      (hy : y = [] ∨ y.head? = some commentMark) : LineEdit (x ++ y) (x ++ w ++ y)
  /-- A comment comes to stand at the end of the line. -/
  | comment (x note : Text) (hnote : '\n' ∉ note) :
      LineEdit x (x ++ commentMark :: note)

/-- **One change of the layout.** -/
inductive Edit : Text → Text → Prop where
  /-- A line is changed within. -/
  | within (before : Text) {line line' : Text} (after : Text)
      (hbefore : before.IsClosed) (hline : '\n' ∉ line)
      (hafter : after = [] ∨ after.head? = some '\n') (h : LineEdit line line') :
      Edit (before ++ line ++ after) (before ++ line' ++ after)
  /-- A line without content is put in. -/
  | newLine (before line after : Text) (hbefore : before.IsClosed)
      (hline : '\n' ∉ line) (hempty : hasContent line = false) :
      Edit (before ++ after) (before ++ (line ++ ['\n']) ++ after)
  /-- A carriage return comes to stand before a newline. -/
  | carriageReturn (before after : Text) :
      Edit (before ++ '\n' :: after) (before ++ '\r' :: '\n' :: after)
  /-- The text is ended by a newline. -/
  | finalNewline (t : Text) : Edit t (t ++ ['\n'])

/-- **A text with its layout changed** by edits, any of which may be undone. -/
def Relaid : Text → Text → Prop := Relation.EqvGen Edit

/-! ## The fields of a line -/

/-- The fields of a line before its comment. -/
def lineFields (line : Text) : List Text := fields (uncommented line)

/-- A comment goes on to the end of the line. -/
theorem uncommented_append_of_mem {x : Text} (h : commentMark ∈ x) (y : Text) :
    uncommented (x ++ y) = uncommented x := by
  rw [uncommented, uncommented, List.takeWhile_append, if_neg]
  intro hlen
  have hself := (List.takeWhile_prefix _).eq_of_length hlen
  exact bne_iff_ne.mp (List.takeWhile_eq_self_iff.mp hself _ h) rfl

theorem uncommented_append_of_not_mem {x : Text} (h : commentMark ∉ x) (y : Text) :
    uncommented (x ++ y) = x ++ uncommented y :=
  List.takeWhile_append_of_pos fun _ hc => bne_iff_ne.mpr fun he => h (he ▸ hc)

/-- No blank starts a comment. -/
theorem IsGap.no_comment {w : Text} (h : IsGap w) : commentMark ∉ w :=
  fun hc => Bool.noConfusion (h.blank commentMark hc)

/-- Blanks in a line only keep apart what stands on their two sides. -/
theorem lineFields_gap {w : Text} (hw : IsGap w) {x : Text}
    (hx : commentMark ∉ x) (y : Text) :
    lineFields (x ++ w ++ y) = fields x ++ lineFields y := by
  rw [lineFields, List.append_assoc, uncommented_append_of_not_mem hx,
    uncommented_append_of_not_mem hw.no_comment, ← List.append_assoc,
    fields_append_blanks hw.ne_nil hw.blank, lineFields]

/-- **The layout of a line takes no part in its fields.** -/
theorem LineEdit.lineFields_eq {line line' : Text} (h : LineEdit line line') :
    lineFields line' = lineFields line := by
  cases h with
  | gap x y hw hv =>
      by_cases hx : commentMark ∈ x
      · rw [lineFields, lineFields, List.append_assoc, List.append_assoc,
          uncommented_append_of_mem hx, uncommented_append_of_mem hx]
      · rw [lineFields_gap hw hx, lineFields_gap hv hx]
  | indent _ hw => exact lineFields_gap hw List.not_mem_nil line
  | @trail x w y hw hy =>
      by_cases hx : commentMark ∈ x
      · rw [lineFields, lineFields, List.append_assoc,
          uncommented_append_of_mem hx, uncommented_append_of_mem hx]
      · -- nothing of what stands behind the blanks is a field
        have hend : uncommented y = [] := by
          rcases hy with rfl | hy
          · rfl
          · obtain ⟨note, rfl⟩ := List.head?_eq_some_iff.mp hy
            rfl
        rw [lineFields_gap hw hx, lineFields, lineFields,
          uncommented_append_of_not_mem hx, hend, List.append_nil]
        exact List.append_nil _
  | comment _ _ hnote =>
      by_cases hx : commentMark ∈ line
      · rw [lineFields, uncommented_append_of_mem hx, lineFields]
      · have hself : uncommented line = line := by
          rw [← List.append_nil line, uncommented_append_of_not_mem hx]
          rfl
        rw [lineFields, uncommented_append_of_not_mem hx, lineFields, hself]
        exact congrArg fields (List.append_nil line)

/-- A carriage return at the end of a line is one more blank. -/
theorem LineEdit.concat_return (line : Text) : LineEdit line (line ++ ['\r']) := by
  have hgap : IsGap ['\r'] := by decide
  have htrail := LineEdit.trail line hgap (Or.inl (rfl : ([] : Text) = []))
  rwa [List.append_nil, List.append_nil] at htrail

/-! ## The fields of a text -/

/-- The fields of each line with content. -/
def contentFields (t : Text) : List (List Text) :=
  (contentLines t).map fun line => lineFields line.1

/-- The end of a line is no field of it. -/
theorem lineFields_dropReturn (line : Text) :
    lineFields (dropReturn line) = lineFields line := by
  unfold dropReturn
  split
  · rename_i hlast
    obtain ⟨x, rfl⟩ := List.getLast?_eq_some_iff.mp hlast
    rw [List.dropLast_concat]
    exact (LineEdit.concat_return x).lineFields_eq.symm
  · rfl

/-- Only lines with content have fields. -/
theorem contentFields_eq_lines (t : Text) :
    contentFields t = ((lines t).map lineFields).filter (· ≠ []) := by
  have hcontent : ((· ≠ []) ∘ lineFields : Text → Bool) = hasContent := by
    funext line
    show decide (lineFields line ≠ []) = hasContent line
    cases h : hasContent line with
    | false => exact decide_eq_false fun hne => hne (hasContent_eq_false_iff.mp h)
    | true =>
        refine decide_eq_true fun hnil => ?_
        rw [hasContent_eq_false_iff.mpr hnil] at h
        exact nomatch h
  have hfst : (numberedLines t).map Prod.fst = lines t := List.zipIdx_map_fst 1 _
  rw [List.filter_map, hcontent, ← hfst, List.filter_map, List.map_map]
  rfl

/-- **The fields of a text are found piece by piece,** whatever the ends of its
    lines are. -/
theorem contentFields_eq_pieces (t : Text) :
    contentFields t
      = ((t.splitOn '\n').map lineFields).filter (· ≠ []) := by
  have hpieces : ∀ ps : List Text,
      ((linesOfPieces ps).map lineFields).filter (· ≠ [])
        = (ps.map lineFields).filter (· ≠ []) := by
    intro ps
    rcases List.eq_nil_or_concat ps with rfl | ⟨ps, p, rfl⟩
    · rfl
    · rw [linesOfPieces, List.concat_eq_append, List.dropLast_concat,
        List.getLast?_concat, List.map_append, List.map_append, List.map_map,
        List.filter_append, List.filter_append]
      congr 1
      · have hreturn : lineFields ∘ dropReturn = lineFields :=
          funext lineFields_dropReturn
        rw [hreturn]
      · -- an empty piece is no line, and has no fields
        cases p with
        | nil => rfl
        | cons c p => rfl
  rw [contentFields_eq_lines, lines, hpieces]

/-- **A newline splits the fields of a text.** -/
theorem contentFields_append_newline (x y : Text) :
    contentFields (x ++ '\n' :: y) = contentFields x ++ contentFields y := by
  rw [contentFields_eq_pieces, splitOn_append_newline, List.map_append,
    List.filter_append, ← contentFields_eq_pieces, ← contentFields_eq_pieces]

theorem contentFields_of_not_mem {line : Text} (h : '\n' ∉ line) :
    contentFields line = [lineFields line].filter (· ≠ []) := by
  rw [contentFields_eq_pieces, splitOn_of_not_mem h, List.map_singleton]

theorem contentFields_concat_newline (t : Text) :
    contentFields (t ++ ['\n']) = contentFields t := by
  rw [contentFields_append_newline]
  exact List.append_nil _

theorem contentFields_append_of_closed {p : Text} (hp : p.IsClosed) (t : Text) :
    contentFields (p ++ t) = contentFields p ++ contentFields t := by
  rcases hp with rfl | hlast
  · rfl
  · obtain ⟨s, rfl⟩ := List.getLast?_eq_some_iff.mp hlast
    rw [List.append_assoc, List.singleton_append, contentFields_append_newline,
      contentFields_concat_newline]

theorem contentFields_append_of_newline {t : Text}
    (ht : t = [] ∨ t.head? = some '\n') (x : Text) :
    contentFields (x ++ t) = contentFields x ++ contentFields t := by
  rcases ht with rfl | hhead
  · rw [List.append_nil]
    exact (List.append_nil _).symm
  · obtain ⟨y, rfl⟩ := List.head?_eq_some_iff.mp hhead
    rw [contentFields_append_newline]
    exact congrArg (contentFields x ++ ·) (contentFields_append_newline [] y).symm

/-- The fields of a text around a line. -/
theorem contentFields_around {before line after : Text} (hbefore : before.IsClosed)
    (hline : '\n' ∉ line) (hafter : after = [] ∨ after.head? = some '\n') :
    contentFields (before ++ line ++ after)
      = contentFields before ++ [lineFields line].filter (· ≠ []) ++
        contentFields after := by
  rw [contentFields_append_of_newline hafter, contentFields_append_of_closed hbefore,
    contentFields_of_not_mem hline]

/-- Every text ends with a line, which may be empty. -/
theorem exists_last_line (t : Text) :
    ∃ before line : Text, t = before ++ line ∧ before.IsClosed ∧ '\n' ∉ line := by
  induction t using List.reverseRecOn with
  | nil => exact ⟨[], [], rfl, Or.inl rfl, List.not_mem_nil⟩
  | append_singleton t c ih =>
      by_cases hc : c = '\n'
      · refine ⟨t ++ [c], [], (List.append_nil _).symm, Or.inr ?_, List.not_mem_nil⟩
        rw [List.getLast?_concat, hc]
      · obtain ⟨before, line, rfl, hbefore, hline⟩ := ih
        refine ⟨before, line ++ [c], List.append_assoc _ _ _, hbefore, fun hm => ?_⟩
        rcases List.mem_append.mp hm with hm | hm
        · exact hline hm
        · exact hc (List.mem_singleton.mp hm).symm

/-! ## What edits keep -/

/-- A line stays a line. -/
theorem LineEdit.no_newline {line line' : Text} (h : LineEdit line line')
    (hline : '\n' ∉ line) : '\n' ∉ line' := by
  cases h with
  | gap x y hw hv =>
      simp only [List.mem_append, not_or] at hline ⊢
      exact ⟨⟨hline.1.1, hv.no_newline⟩, hline.2⟩
  | indent _ hw =>
      rw [List.mem_append, not_or]
      exact ⟨hw.no_newline, hline⟩
  | trail x hw hy =>
      simp only [List.mem_append, not_or] at hline ⊢
      exact ⟨⟨hline.1, hw.no_newline⟩, hline.2⟩
  | comment _ _ hnote =>
      rw [List.mem_append, List.mem_cons, not_or, not_or]
      exact ⟨hline, by decide, hnote⟩

/-- **No edit changes the fields of a text.** -/
theorem contentFields_edit {t t' : Text} (h : Edit t t') :
    contentFields t' = contentFields t := by
  cases h with
  | within before after hbefore hline hafter hedit =>
      rw [contentFields_around hbefore hline hafter,
        contentFields_around hbefore (hedit.no_newline hline) hafter,
        hedit.lineFields_eq]
  | newLine before line after hbefore hline hempty =>
      have hnone : lineFields line = [] := hasContent_eq_false_iff.mp hempty
      rw [List.append_assoc, contentFields_append_of_closed hbefore,
        List.append_assoc, List.singleton_append, contentFields_append_newline,
        contentFields_of_not_mem hline, hnone, contentFields_append_of_closed hbefore]
      rfl
  | carriageReturn before after =>
      obtain ⟨p, line, rfl, hp, hline⟩ := exists_last_line before
      have hedit := LineEdit.concat_return line
      have hmove : p ++ line ++ '\r' :: '\n' :: after
          = p ++ (line ++ ['\r']) ++ '\n' :: after := by
        simp only [List.append_assoc, List.singleton_append]
      rw [hmove, contentFields_around hp (hedit.no_newline hline) (Or.inr rfl),
        contentFields_around hp hline (Or.inr rfl), hedit.lineFields_eq]
  | finalNewline _ => exact contentFields_concat_newline t

/-- **Nor does any number of edits.** -/
theorem contentFields_relaid {t t' : Text} (h : Relaid t t') :
    contentFields t' = contentFields t := by
  induction h with
  | rel t t' h => exact contentFields_edit h
  | refl t => rfl
  | symm t t' _ ih => exact ih.symm
  | trans t u t' _ _ ih ih' => exact ih'.trans ih

end Text

/-! ## What the fields of a text decide -/

/-- A fault without the line that it quotes. -/
def Fault.withoutLine : Fault → Fault
  | .unclassifiedLine _ => .unclassifiedLine []
  | fault => fault

namespace Dialect

open Text (lineFields contentFields contentLines)

/-- **The fields of a numbered line decide** its word, and its fault but for its
    number and the line that the fault quotes. -/
theorem outcome_assembleLine_of_lineFields (d : Dialect) {x y : Text × Nat}
    (h : lineFields x.1 = lineFields y.1) :
    (∃ w, (d.assembleLine x).outcome = .ok w ∧
      (d.assembleLine y).outcome = .ok w) ∨
    (∃ cause cause', (d.assembleLine x).outcome = .error (.onLine x.2 cause) ∧
      (d.assembleLine y).outcome = .error (.onLine y.2 cause') ∧
      cause.withoutLine = cause'.withoutLine) := by
  have hread : Statement.read d.unknownOperands x.1
      = Statement.read d.unknownOperands y.1 :=
    congrArg (Statement.ofFields d.unknownOperands) h
  rw [outcome_assembleLine, outcome_assembleLine, outcome_parse, outcome_parse,
    hread]
  cases (Statement.read d.unknownOperands y.1).outcome with
  | error cause => exact Or.inr ⟨cause, cause, rfl, rfl, rfl⟩
  | ok s =>
      -- an instruction keeps its line, but neither its check nor its word uses it
      have hunknown : (Instruction.ofStatement s x.1).isUnknown
          = (Instruction.ofStatement s y.1).isUnknown := rfl
      simp only [Except.bind, checked, hunknown]
      cases d.strict && (Instruction.ofStatement s y.1).isUnknown with
      | true => exact Or.inr ⟨_, _, rfl, rfl, rfl⟩
      | false => exact Or.inl ⟨_, rfl, rfl⟩

section

variable {ls ls' : List (Text × Nat)}

/-- **Lines with the same fields** are assembled to the same words, or both have
    their first fault at the same place among them. -/
theorem outcome_collect_of_lineFields (d : Dialect)
    (h : List.Forall₂ (fun x y => lineFields x.1 = lineFields y.1) ls ls') :
    (∃ ws, (Traced.collect d.assembleLine ls).outcome = .ok ws ∧
      (Traced.collect d.assembleLine ls').outcome = .ok ws) ∨
    (∃ (k : Nat) (line line' : Text × Nat) (cause cause' : Fault),
      ls[k]? = some line ∧ ls'[k]? = some line' ∧
      (Traced.collect d.assembleLine ls).outcome
        = .error (.onLine line.2 cause) ∧
      (Traced.collect d.assembleLine ls').outcome
        = .error (.onLine line'.2 cause') ∧
      cause.withoutLine = cause'.withoutLine) := by
  induction h with
  | nil => exact Or.inl ⟨[], rfl, rfl⟩
  | @cons x y ls ls' hxy _ ih =>
      simp only [Traced.outcome_collect_cons]
      rcases d.outcome_assembleLine_of_lineFields hxy with
        ⟨w, hx, hy⟩ | ⟨cause, cause', hx, hy, hcause⟩
      · rw [hx, hy]
        rcases ih with ⟨ws, hls, hls'⟩ | ⟨k, line, line', cause, cause', hk, hk',
            hls, hls', hcause⟩
        · rw [hls, hls']
          exact Or.inl ⟨w :: ws, rfl, rfl⟩
        · rw [hls, hls']
          exact Or.inr ⟨k + 1, line, line', cause, cause', hk, hk', rfl, rfl, hcause⟩
      · rw [hx, hy]
        exact Or.inr ⟨0, x, y, cause, cause', rfl, rfl, rfl, rfl, hcause⟩

end

/-- **Layout does not matter.**  A source and one that is laid out differently
    are assembled to the same bytes, or both have their first fault on the same
    one of their lines with content; the two faults are the same but for the
    number of that line and the wording in which they quote it. -/
theorem assemble_relaid (d : Dialect) {source source' : Text}
    (h : Text.Relaid source source') :
    (∃ bytes, (d.assemble source).outcome = .ok bytes ∧
      (d.assemble source').outcome = .ok bytes) ∨
    (∃ (k : Nat) (line line' : Text × Nat) (cause cause' : Fault),
      (contentLines source)[k]? = some line ∧
      (contentLines source')[k]? = some line' ∧
      (d.assemble source).outcome = .error (.onLine line.2 cause) ∧
      (d.assemble source').outcome = .error (.onLine line'.2 cause') ∧
      cause.withoutLine = cause'.withoutLine) := by
  have hfields : List.Forall₂ (fun x y => lineFields x.1 = lineFields y.1)
      (contentLines source) (contentLines source') := by
    have heq : List.Forall₂ (· = ·) (contentFields source)
        (contentFields source') := by
      rw [List.forall₂_eq_eq_eq]
      exact (Text.contentFields_relaid h).symm
    exact List.forall₂_map_left_iff.mp (List.forall₂_map_right_iff.mp heq)
  rw [outcome_assemble, outcome_assemble]
  rcases d.outcome_collect_of_lineFields hfields with
    ⟨ws, hls, hls'⟩ | ⟨k, line, line', cause, cause', hk, hk', hls, hls', hcause⟩
  · rw [hls, hls']
    exact Or.inl ⟨Word.flatten ws, rfl, rfl⟩
  · rw [hls, hls']
    exact Or.inr ⟨k, line, line', cause, cause', hk, hk', rfl, rfl, hcause⟩

/-- A source laid out anew, with the line of its fault further down. -/
theorem assemble_relaid_third_line :
    Text.Relaid "CLS\nFOO v5".toList "; a\n\u2003CLS\r\nFOO\tv5 ; b\n".toList ∧
    (permissive.assemble "CLS\nFOO v5".toList).outcome
      = .ok [0x00, 0xE0, 0x00, 0x05] ∧
    (permissive.assemble "; a\n\u2003CLS\r\nFOO\tv5 ; b\n".toList).outcome
      = .ok [0x00, 0xE0, 0x00, 0x05] ∧
    ((Dialect.mk true .drop).assemble "CLS\nFOO v5".toList).outcome
      = .error (.onLine 2 (.unclassifiedLine "FOO v5".toList)) ∧
    ∃ cause, cause.withoutLine = .unclassifiedLine [] ∧
      ((Dialect.mk true .drop).assemble
          "; a\n\u2003CLS\r\nFOO\tv5 ; b\n".toList).outcome
        = .error (.onLine 3 cause) := by
  have hrelaid : Text.Relaid "CLS\nFOO v5".toList
      "; a\n\u2003CLS\r\nFOO\tv5 ; b\n".toList := by
    have hgap : Text.IsGap [' '] := by decide
    have hindent : Text.LineEdit "CLS".toList "\u2003CLS".toList :=
      .indent "CLS".toList (w := ['\u2003']) (by decide)
    have hseparate : Text.LineEdit "FOO v5".toList "FOO\tv5".toList :=
      .gap "FOO".toList "v5".toList hgap (v := ['\t']) (by decide)
    have htrail : Text.LineEdit "FOO\tv5".toList "FOO\tv5 ".toList :=
      .trail "FOO\tv5".toList hgap (Or.inl rfl)
    have hcomment : Text.LineEdit "FOO\tv5 ".toList "FOO\tv5 ; b".toList :=
      .comment "FOO\tv5 ".toList " b".toList (by decide)
    refine .trans _ "; a\nCLS\nFOO v5".toList _ (.rel _ _ ?newLine) <|
      .trans _ "; a\n\u2003CLS\nFOO v5".toList _ (.rel _ _ ?indent) <|
      .trans _ "; a\n\u2003CLS\r\nFOO v5".toList _ (.rel _ _ ?carriageReturn) <|
      .trans _ "; a\n\u2003CLS\r\nFOO\tv5".toList _ (.rel _ _ ?separate) <|
      .trans _ "; a\n\u2003CLS\r\nFOO\tv5 ".toList _ (.rel _ _ ?trail) <|
      .trans _ "; a\n\u2003CLS\r\nFOO\tv5 ; b".toList _ (.rel _ _ ?comment) <|
      .rel _ _ (.finalNewline _)
    case newLine =>
      exact .newLine [] "; a".toList _ (by decide) (by decide) (by decide)
    case indent =>
      exact .within "; a\n".toList "\nFOO v5".toList (by decide) (by decide)
        (by decide) hindent
    case carriageReturn => exact .carriageReturn "; a\n\u2003CLS".toList _
    case separate =>
      exact .within "; a\n\u2003CLS\r\n".toList [] (by decide) (by decide)
        (by decide) hseparate
    case trail =>
      exact .within "; a\n\u2003CLS\r\n".toList [] (by decide) (by decide)
        (by decide) htrail
    case comment =>
      exact .within "; a\n\u2003CLS\r\n".toList [] (by decide) (by decide)
        (by decide) hcomment
  have hok : (permissive.assemble "CLS\nFOO v5".toList).outcome
      = .ok [0x00, 0xE0, 0x00, 0x05] := by decide
  have herror : ((Dialect.mk true .drop).assemble "CLS\nFOO v5".toList).outcome
      = .error (.onLine 2 (.unclassifiedLine "FOO v5".toList)) := by decide
  refine ⟨hrelaid, hok, ?_, herror, ?_⟩
  · rcases assemble_relaid permissive hrelaid with
      ⟨bytes, h, h'⟩ | ⟨k, line, line', cause, cause', -, -, h, -⟩
    · exact h'.trans (h.symm.trans hok)
    · exact nomatch h.symm.trans hok
  · rcases assemble_relaid ⟨true, .drop⟩ hrelaid with
      ⟨bytes, h, -⟩ | ⟨k, line, line', cause, cause', hk, hk', h, h', hcause⟩
    · exact nomatch h.symm.trans herror
    · obtain ⟨hnumber, rfl⟩ := Fault.onLine.inj (Except.error.inj (h.symm.trans herror))
      refine ⟨cause', hcause.symm, ?_⟩
      -- the second line with content is the one with the fault
      have hlines : Text.contentLines "CLS\nFOO v5".toList
          = [("CLS".toList, 1), ("FOO v5".toList, 2)] := by decide
      have hlines' : Text.contentLines "; a\n\u2003CLS\r\nFOO\tv5 ; b\n".toList
          = [("\u2003CLS".toList, 2), ("FOO\tv5 ; b".toList, 3)] := by decide
      rw [hlines] at hk
      rw [hlines'] at hk'
      match k, hk, hk' with
      | 0, hk, _ =>
          rw [← Option.some.inj hk] at hnumber
          exact nomatch hnumber
      | 1, _, hk' =>
          rw [← Option.some.inj hk'] at h'
          exact h'

end Dialect

end Chip8Assembly
