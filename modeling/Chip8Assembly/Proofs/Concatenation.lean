import Chip8Assembly.Proofs.Lines
import Chip8Assembly.Proofs.Outcomes

/-!
# Concatenation — one source in front of another

A text is *closed* if it is empty or ends in a newline.  Behind a closed text
the lines of another text are found as they were, with their numbers moved on by
the newlines in front of them (`contentLines_append`).  So two sources, one
behind the other, are assembled to the bytes of the first and then those of the
second; a fault of the second is reported further down, and only if the first
has none.
-/

namespace Chip8Assembly

/-! ## Lines behind a closed text -/

namespace Text

/-- No line is left open at the end of the text. -/
def IsClosed (t : Text) : Prop := t = [] ∨ t.getLast? = some '\n'

instance (t : Text) : Decidable t.IsClosed :=
  inferInstanceAs (Decidable (t = [] ∨ t.getLast? = some '\n'))

/-- A numbered line that has `k` more lines in front of it. -/
def moveDown (k : Nat) (line : Text × Nat) : Text × Nat := (line.1, line.2 + k)

/-- There is one piece more than there are newlines. -/
theorem length_splitOn_newline (t : Text) :
    (t.splitOn '\n').length = t.count '\n' + 1 := by
  rw [List.splitOn_eq_splitOnP]
  induction t with
  | nil => rfl
  | cons c t ih =>
      rw [List.splitOnP_cons_eq_if_modifyHead, List.count_cons]
      by_cases hc : (c == '\n') = true
      · rw [if_pos hc, if_pos hc, List.length_cons, ih]
      · rw [if_neg hc, if_neg hc, List.length_modifyHead, ih]

section

variable {p : Text}

/-- **Behind a closed text the lines of another begin afresh.** -/
theorem lines_append (hp : p.IsClosed) (q : Text) :
    lines (p ++ q) = lines p ++ lines q := by
  rcases hp with rfl | hlast
  · rfl
  · obtain ⟨s, rfl⟩ := List.getLast?_eq_some_iff.mp hlast
    rw [List.append_assoc, List.singleton_append, lines_append_newline,
      lines_append_newline]
    -- behind the last newline of the closed text there is nothing
    show _ = _ ++ [] ++ lines q
    rw [List.append_nil]

/-- A closed text has as many lines as newlines. -/
theorem length_lines (hp : p.IsClosed) : (lines p).length = p.count '\n' := by
  rcases hp with rfl | hlast
  · rfl
  · obtain ⟨s, rfl⟩ := List.getLast?_eq_some_iff.mp hlast
    rw [lines_append_newline, List.length_append, List.length_map,
      length_splitOn_newline, List.count_append]
    rfl

theorem numberedLines_append (hp : p.IsClosed) (q : Text) :
    numberedLines (p ++ q)
      = numberedLines p ++ (numberedLines q).map (moveDown (p.count '\n')) := by
  have hmoved : (lines q).zipIdx (1 + p.count '\n')
      = (numberedLines q).map (moveDown (p.count '\n')) := by
    rw [Nat.add_comm]
    exact (List.map_snd_add_zipIdx_eq_zipIdx ..).symm
  rw [numberedLines, lines_append hp, List.zipIdx_append, length_lines hp, hmoved]
  rfl

/-- **The lines with content behind a closed text,** with their new numbers. -/
theorem contentLines_append (hp : p.IsClosed) (q : Text) :
    contentLines (p ++ q)
      = contentLines p ++ (contentLines q).map (moveDown (p.count '\n')) := by
  rw [contentLines, numberedLines_append hp, List.filter_append, List.filter_map]
  rfl

end

end Text

/-! ## Faults behind a closed text -/

/-- A fault on a line that has `k` more lines in front of it. -/
def Fault.moveDown (k : Nat) : Fault → Fault
  | .onLine n cause => .onLine (n + k) cause
  | fault => fault

/-- Steps that differ in their faults only differ so as a whole. -/
theorem Traced.outcome_collect_map {ε δ α α' β : Type} {f : α → Traced ε β}
    {g : α' → Traced δ β} {m : α → α'} {h : ε → δ}
    (hfg : ∀ x, (g (m x)).outcome = (f x).outcome.mapError h) (xs : List α) :
    (collect g (xs.map m)).outcome = (collect f xs).outcome.mapError h := by
  induction xs with
  | nil => rfl
  | cons x xs ih =>
      rw [List.map_cons, outcome_collect_cons, outcome_collect_cons, hfg, ih]
      cases (f x).outcome with
      | error fault => rfl
      | ok y =>
          cases (collect f xs).outcome with
          | error fault => rfl
          | ok ys => rfl

namespace Dialect

/-- A line further down is assembled alike, with its fault further down. -/
theorem outcome_assembleLine_moveDown (d : Dialect) (k : Nat)
    (line : Text × Nat) :
    (d.assembleLine (Text.moveDown k line)).outcome
      = (d.assembleLine line).outcome.mapError (.moveDown k) := by
  rw [outcome_assembleLine, outcome_assembleLine]
  show ((d.parse line.1).outcome.mapError _).map _ = _
  cases (d.parse line.1).outcome with
  | error fault => rfl
  | ok i => rfl

/-- **The outcome of two sources,** one behind the other. -/
theorem outcome_assemble_append (d : Dialect) {p : Text} (hp : p.IsClosed)
    (q : Text) :
    (d.assemble (p ++ q)).outcome
      = (d.assemble p).outcome.bind fun bs =>
          ((d.assemble q).outcome.mapError (.moveDown (p.count '\n'))).map
            (bs ++ ·) := by
  rw [outcome_assemble, outcome_assemble, outcome_assemble,
    Text.contentLines_append hp, Traced.outcome_collect_append,
    Traced.outcome_collect_map (d.outcome_assembleLine_moveDown _)]
  cases (Traced.collect d.assembleLine (Text.contentLines p)).outcome with
  | error fault => rfl
  | ok vs =>
      cases (Traced.collect d.assembleLine (Text.contentLines q)).outcome with
      | error fault => rfl
      | ok ws => exact congrArg Except.ok List.flatMap_append

/-- **Two sources, one behind the other.**  A fault of the first is the fault of
    both; otherwise a fault of the second is theirs, on its line behind the
    first; otherwise their bytes follow one another. -/
theorem assemble_concatenation (d : Dialect) {p : Text} (hp : p.IsClosed)
    (q : Text) :
    (∃ n cause, (d.assemble p).outcome = .error (.onLine n cause) ∧
      (d.assemble (p ++ q)).outcome = .error (.onLine n cause)) ∨
    (∃ bs n cause, (d.assemble p).outcome = .ok bs ∧
      (d.assemble q).outcome = .error (.onLine n cause) ∧
      (d.assemble (p ++ q)).outcome
        = .error (.onLine (n + p.count '\n') cause)) ∨
    (∃ bs cs, (d.assemble p).outcome = .ok bs ∧
      (d.assemble q).outcome = .ok cs ∧
      (d.assemble (p ++ q)).outcome = .ok (bs ++ cs)) := by
  rw [outcome_assemble_append d hp]
  cases hbs : (d.assemble p).outcome with
  | error fault =>
      obtain ⟨line, -, cause, -, rfl⟩ := exists_line_of_assemble hbs
      exact Or.inl ⟨line.2, cause, rfl, rfl⟩
  | ok bs =>
      refine Or.inr ?_
      cases hcs : (d.assemble q).outcome with
      | error fault =>
          obtain ⟨line, -, cause, -, rfl⟩ := exists_line_of_assemble hcs
          exact Or.inl ⟨bs, line.2, cause, rfl, rfl, rfl⟩
      | ok cs => exact Or.inr ⟨bs, cs, rfl, rfl, rfl⟩

/-- A fault on the first line of a source behind one of two lines. -/
theorem assemble_concatenation_third_line :
    Text.IsClosed "CLS\r\n; JMP azz\n".toList ∧
    (permissive.assemble "CLS\r\n; JMP azz\n".toList).outcome
      = .ok [0x00, 0xE0] ∧
    (permissive.assemble "JMP azz".toList).outcome
      = .error (.onLine 1 (.malformedOperand "azz".toList .invalidDigit)) ∧
    (permissive.assemble ("CLS\r\n; JMP azz\n".toList ++ "JMP azz".toList)).outcome
      = .error (.onLine 3 (.malformedOperand "azz".toList .invalidDigit)) := by
  have hclosed : Text.IsClosed "CLS\r\n; JMP azz\n".toList := by decide
  have hfirst : (permissive.assemble "CLS\r\n; JMP azz\n".toList).outcome
      = .ok [0x00, 0xE0] := by decide
  have hsecond : (permissive.assemble "JMP azz".toList).outcome
      = .error (.onLine 1 (.malformedOperand "azz".toList .invalidDigit)) := by
    decide
  refine ⟨hclosed, hfirst, hsecond, ?_⟩
  rcases assemble_concatenation permissive hclosed "JMP azz".toList with
    ⟨n, cause, hp, -⟩ | ⟨bs, n, cause, -, hq, h⟩ | ⟨bs, cs, -, hq, -⟩
  · exact nomatch hfirst.symm.trans hp
  · obtain ⟨rfl, rfl⟩ := Fault.onLine.inj (Except.error.inj (hsecond.symm.trans hq))
    exact h
  · exact nomatch hsecond.symm.trans hq

end Dialect

end Chip8Assembly
