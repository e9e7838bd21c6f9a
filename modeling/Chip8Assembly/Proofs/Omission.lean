import Chip8Assembly.Proofs.Grammar
import Chip8Assembly.Proofs.Layout
import Chip8Assembly.Proofs.Notes

/-!
# Omission — which field decides, and fields that might as well not be there

The fields behind the mnemonic are read from left to right.  Under either policy
the leftmost field that cannot be read decides what a line is faulty with, and a
line without such a field is a statement (`outcome_ofFields_eq_error_iff`,
`exists_ofFields_iff`).

A field that starts with no letter of a kind is such a field under one policy and
is passed over under the other.  To pass it over is to read the line as if it had
been deleted there: `Text.leaveOut` deletes fields from a line and leaves its
blanks and its comment alone, and `outcome_ofFields_drop` compares the two
readings field by field.
-/

namespace Chip8Assembly

/-! ## Deleting fields from a line -/

namespace Text

variable {p : Text → Bool} {field : Text}

/-- A field, or nothing if a test picks it out. -/
def kept (p : Text → Bool) (field : Text) : Text := if p field then [] else field

/-- A text without the fields that a test picks out, where `field` is what comes
    before it of its first field. -/
def leaveOutFrom (p : Text → Bool) (field : Text) : Text → Text
  | [] => kept p field
  | c :: t =>
    if isBlank c then kept p field ++ c :: leaveOutFrom p [] t
    else leaveOutFrom p (field ++ [c]) t

/-- The same for the fields behind the first one, which stays. -/
def leaveOutBehind (p : Text → Bool) (field : Text) : Text → Text
  | [] => field
  | c :: t =>
    if isBlank c then
      if field = [] then c :: leaveOutBehind p [] t
      else field ++ c :: leaveOutFrom p [] t
    else leaveOutBehind p (field ++ [c]) t

/-- A line without those fields behind its first one that a test picks out.  Its
    blanks and its comment stay as they are. -/
def leaveOut (p : Text → Bool) (line : Text) : Text :=
  leaveOutBehind p [] (uncommented line) ++ line.dropWhile (· != commentMark)

/-! ### What is left -/

theorem kept_sublist (p : Text → Bool) (field : Text) :
    (kept p field).Sublist field := by
  unfold kept
  split
  · exact List.nil_sublist field
  · exact List.Sublist.refl field

/-- Nothing is added to a text, and nothing moves. -/
theorem leaveOutFrom_sublist (p : Text → Bool) (field t : Text) :
    (leaveOutFrom p field t).Sublist (field ++ t) := by
  induction t generalizing field with
  | nil =>
      rw [List.append_nil]
      exact kept_sublist p field
  | cons c t ih =>
      rw [leaveOutFrom]
      split
      · exact (kept_sublist p field).append ((ih []).cons_cons c)
      · rw [List.append_cons field c t]
        exact ih (field ++ [c])

theorem leaveOutBehind_sublist (p : Text → Bool) (field t : Text) :
    (leaveOutBehind p field t).Sublist (field ++ t) := by
  induction t generalizing field with
  | nil =>
      rw [List.append_nil]
      exact List.Sublist.refl field
  | cons c t ih =>
      rw [leaveOutBehind]
      split
      · split
        · rename_i hnil
          rw [hnil]
          exact (ih []).cons_cons c
        · exact (List.Sublist.refl field).append
            ((leaveOutFrom_sublist p [] t).cons_cons c)
      · rw [List.append_cons field c t]
        exact ih (field ++ [c])

theorem leaveOut_sublist (p : Text → Bool) (line : Text) :
    (leaveOut p line).Sublist line := by
  have happend := (leaveOutBehind_sublist p [] (uncommented line)).append
    (List.Sublist.refl (line.dropWhile (· != commentMark)))
  rwa [List.nil_append, uncommented, List.takeWhile_append_dropWhile] at happend

/-! ### The fields that are left -/

theorem fields_kept (p : Text → Bool) (hfield : ∀ c ∈ field, isBlank c = false) :
    fields (kept p field) = (fields field).filter fun f => !p f := by
  by_cases hne : field = []
  · have hnil : kept p [] = [] := List.sublist_nil.mp (kept_sublist p [])
    rw [hne, hnil]
    rfl
  · rw [fields_of_no_blank hne hfield, kept]
    cases hp : p field with
    | true => simp [hp, fields_eq_nil_iff]
    | false => simp [hp, fields_of_no_blank hne hfield]

/-- A field goes on with characters that are not blank. -/
theorem forall_concat_no_blank {c : Char} (hc : ¬ isBlank c = true)
    (hfield : ∀ c ∈ field, isBlank c = false) :
    ∀ d ∈ field ++ [c], isBlank d = false := by
  intro d hd
  rcases List.mem_append.mp hd with hd | hd
  · exact hfield d hd
  · rw [List.mem_singleton.mp hd]
    exact Bool.not_eq_true _ ▸ hc

/-- **The fields of a text without some of them** are the others. -/
theorem fields_leaveOutFrom (p : Text → Bool)
    (hfield : ∀ c ∈ field, isBlank c = false) (t : Text) :
    fields (leaveOutFrom p field t)
      = (fields (field ++ t)).filter fun f => !p f := by
  induction t generalizing field with
  | nil =>
      rw [List.append_nil]
      exact fields_kept p hfield
  | cons c t ih =>
      rw [leaveOutFrom]
      split
      · rename_i hc
        rw [fields_append_blank hc, fields_append_blank hc, List.filter_append,
          fields_kept p hfield, ih (List.forall_mem_nil _), List.nil_append]
      · rename_i hc
        rw [ih (forall_concat_no_blank hc hfield), ← List.append_cons]

theorem fields_leaveOutBehind (p : Text → Bool)
    (hfield : ∀ c ∈ field, isBlank c = false) (t : Text) :
    fields (leaveOutBehind p field t)
      = (fields (field ++ t)).take 1
        ++ (fields (field ++ t)).tail.filter fun f => !p f := by
  induction t generalizing field with
  | nil =>
      rw [leaveOutBehind, List.append_nil]
      by_cases hne : field = []
      · rw [hne]
        rfl
      · rw [fields_of_no_blank hne hfield]
        rfl
  | cons c t ih =>
      rw [leaveOutBehind]
      split
      · rename_i hc
        split
        · rename_i hnil
          rw [hnil, List.nil_append, fields_cons_blank hc, fields_cons_blank hc,
            ih (List.forall_mem_nil _), List.nil_append]
        · rename_i hne
          rw [fields_append_blank hc, fields_append_blank hc,
            fields_of_no_blank hne hfield,
            fields_leaveOutFrom p (List.forall_mem_nil _)]
          rfl
      · rename_i hc
        rw [ih (forall_concat_no_blank hc hfield), ← List.append_cons]

/-- **The fields of a line without some of them** are the first and those others
    that are not picked out. -/
theorem lineFields_leaveOut (p : Text → Bool) (line : Text) :
    lineFields (leaveOut p line)
      = (lineFields line).take 1 ++ (lineFields line).tail.filter fun f => !p f := by
  have hcode : commentMark ∉ uncommented line := by
    intro hmem
    rw [uncommented] at hmem
    exact absurd (List.mem_takeWhile_imp hmem) (by decide)
  have hleft : commentMark ∉ leaveOutBehind p [] (uncommented line) :=
    fun hmem => hcode ((leaveOutBehind_sublist p [] _).subset hmem)
  have hcomment : uncommented (line.dropWhile (· != commentMark)) = [] := by
    rw [uncommented, List.takeWhile_eq_nil_iff]
    intro hpos
    exact List.dropWhile_get_zero_not _ _ hpos
  rw [lineFields, leaveOut, uncommented_append_of_not_mem hleft, hcomment,
    List.append_nil, fields_leaveOutBehind p (List.forall_mem_nil _)]
  rfl

end Text

/-! ## Fields, one by one -/

/-- A field that starts with no letter of a kind. -/
def Operand.unlettered (token : Text) : Bool := read? token = .ok none

/-- The fields that start with the letter of a kind. -/
def Statement.lettered (tokens : List Text) : List Text :=
  tokens.filter fun t => !Operand.unlettered t

namespace Traced

variable {ε α β : Type} {xs : List α}

/-- What is found by the steps for a list, from what its first step finds on. -/
theorem found_collect_cons {f : α → Traced ε (Option β)} {x : α}
    {found : Option β} (h : (f x).outcome = .ok found) :
    (collect f (x :: xs)).outcome.map (·.filterMap id)
      = ((collect f xs).outcome.map (·.filterMap id)).map (found.toList ++ ·) := by
  rw [outcome_collect_cons, h]
  cases (collect f xs).outcome with
  | error fault => rfl
  | ok ys =>
      cases found with
      | none => rfl
      | some y => rfl

end Traced

namespace Statement

variable {token mnemonic : Text} {tokens before after : List Text} {fault : Fault}

/-- A field that may be passed over is faulty only if it is malformed. -/
theorem outcome_readOperand_drop (token : Text) :
    (readOperand .drop token).outcome
      = (Operand.read? token).mapError (.malformedOperand token) := by
  cases hread : Operand.read? token with
  | error cause => rw [readOperand_of_fault hread]; rfl
  | ok found =>
      cases found with
      | none => rw [readOperand_drop hread]; rfl
      | some operand => rw [readOperand_of_operand hread]; rfl

theorem exists_readOperand_drop_iff :
    (∃ found, (readOperand .drop token).outcome = .ok found) ↔
      ∃ found, Operand.read? token = .ok found := by
  simp only [outcome_readOperand_drop, mapError_eq_ok_iff]

theorem outcome_readOperand_drop_eq_error_iff :
    (readOperand .drop token).outcome = .error fault ↔
      ∃ cause, Operand.read? token = .error cause ∧
        fault = .malformedOperand token cause := by
  rw [outcome_readOperand_drop, mapError_eq_error_iff]

theorem exists_readOperand_reject_iff :
    (∃ found, (readOperand .reject token).outcome = .ok found) ↔
      ∃ o, Operand.read? token = .ok (some o) := by
  constructor
  · rintro ⟨found, h⟩
    obtain ⟨o, ho, -⟩ := outcome_readOperand_reject.mp h
    exact ⟨o, ho⟩
  · rintro ⟨o, ho⟩
    exact ⟨some o, outcome_readOperand_reject.mpr ⟨o, ho, rfl⟩⟩

/-- A field that must be an operand is faulty for its letter or its number. -/
theorem outcome_readOperand_reject_eq_error_iff :
    (readOperand .reject token).outcome = .error fault ↔
      (Operand.read? token = .ok none ∧ fault = .unknownLetter token) ∨
        ∃ cause, Operand.read? token = .error cause ∧
          fault = .malformedOperand token cause := by
  cases hread : Operand.read? token with
  | error cause => simp [readOperand_of_fault hread, eq_comm]
  | ok found =>
      cases found with
      | none => simp [readOperand_reject hread, eq_comm]
      | some operand => simp [readOperand_of_operand hread]

/-! ## Which field decides -/

theorem outcome_ofFields (p : LetterPolicy) (mnemonic : Text) (tokens : List Text) :
    (ofFields p (mnemonic :: tokens)).outcome
      = ((Traced.collect (readOperand p) tokens).outcome.map
          (·.filterMap id)).map (Statement.mk mnemonic) := by
  rw [ofFields, bind_pure_comp, Traced.outcome_map]
  cases (Traced.collect (readOperand p) tokens).outcome with
  | error fault => rfl
  | ok found => rfl

/-- **Fields are a statement** exactly if each of them can be read. -/
theorem exists_ofFields_iff {p : LetterPolicy} :
    (∃ s, (ofFields p (mnemonic :: tokens)).outcome = .ok s) ↔
      ∀ t ∈ tokens, ∃ found, (readOperand p t).outcome = .ok found := by
  rw [← Traced.exists_outcome_collect_iff, outcome_ofFields]
  simp only [map_eq_ok_iff]
  constructor
  · rintro ⟨s, os, ⟨found, h, -⟩, -⟩
    exact ⟨found, h⟩
  · rintro ⟨found, h⟩
    exact ⟨_, _, ⟨found, h, rfl⟩, rfl⟩

/-- **The leftmost field that cannot be read** decides what a line is faulty
    with. -/
theorem outcome_ofFields_eq_error_iff {p : LetterPolicy} :
    (ofFields p (mnemonic :: tokens)).outcome = .error fault ↔
      ∃ before t after, tokens = before ++ t :: after ∧
        (∀ u ∈ before, ∃ found, (readOperand p u).outcome = .ok found) ∧
        (readOperand p t).outcome = .error fault := by
  rw [outcome_ofFields, map_eq_error_iff, map_eq_error_iff,
    Traced.outcome_collect_eq_error_iff]
  simp only [Traced.exists_outcome_collect_iff]

/-! ### Passing over and deleting -/

/-- A field that is passed over might as well not be there. -/
theorem found_collect_drop (tokens : List Text) :
    (Traced.collect (readOperand .drop) tokens).outcome.map (·.filterMap id)
      = (Traced.collect (readOperand .reject)
          (lettered tokens)).outcome.map (·.filterMap id) := by
  induction tokens with
  | nil => rfl
  | cons token tokens ih =>
      cases hread : Operand.read? token with
      | error cause =>
          have hstays : lettered (token :: tokens) = token :: lettered tokens :=
            List.filter_cons_of_pos (by simp [Operand.unlettered, hread])
          rw [hstays, Traced.outcome_collect_cons, Traced.outcome_collect_cons,
            readOperand_of_fault hread, readOperand_of_fault hread]
          rfl
      | ok found =>
          cases found with
          | none =>
              have hgoes : lettered (token :: tokens) = lettered tokens :=
                List.filter_cons_of_neg (by simp [Operand.unlettered, hread])
              have hstep := congrArg Traced.outcome (readOperand_drop hread)
              rw [hgoes, Traced.found_collect_cons hstep, ih]
              exact congrFun Except.map_id _
          | some operand =>
              have hstays : lettered (token :: tokens) = token :: lettered tokens :=
                List.filter_cons_of_pos (by simp [Operand.unlettered, hread])
              have hstep := fun p =>
                congrArg Traced.outcome (readOperand_of_operand hread p)
              rw [hstays, Traced.found_collect_cons (hstep .drop),
                Traced.found_collect_cons (hstep .reject), ih]

/-- **To pass a field over is to delete it.** -/
theorem outcome_ofFields_drop (mnemonic : Text) (tokens : List Text) :
    (ofFields .drop (mnemonic :: tokens)).outcome
      = (ofFields .reject (mnemonic :: lettered tokens)).outcome := by
  rw [outcome_ofFields, outcome_ofFields, found_collect_drop]

/-! ### What is noted -/

theorem readable_drop_iff :
    readable .drop token = true ↔ ∃ found, Operand.read? token = .ok found := by
  rw [readable]
  cases Operand.read? token with
  | error cause => simp
  | ok found => cases found <;> simp

/-- If every field can be read, all those of no kind are passed over. -/
theorem passedOver_drop (h : ∀ t ∈ tokens, ∃ found, Operand.read? t = .ok found) :
    passedOver .drop tokens = tokens.filter Operand.unlettered := by
  have hall : tokens.takeWhile (readable .drop) = tokens :=
    List.takeWhile_eq_self_iff.mpr fun t ht => readable_drop_iff.mpr (h t ht)
  rw [passedOver, hall]
  rfl

/-- No field behind a malformed one is passed over. -/
theorem passedOver_drop_append {cause : NumeralFault}
    (h : ∀ t ∈ before, ∃ found, Operand.read? t = .ok found)
    (htoken : Operand.read? token = .error cause) (after : List Text) :
    passedOver .drop (before ++ token :: after)
      = before.filter Operand.unlettered := by
  have hstop : ¬ readable .drop token = true := by
    rw [readable_drop_iff, htoken]
    exact nofun
  rw [← passedOver_drop h, passedOver, passedOver,
    List.takeWhile_append_of_pos fun t ht => readable_drop_iff.mpr (h t ht),
    List.takeWhile_cons_of_neg hstop, List.append_nil,
    List.takeWhile_eq_self_iff.mpr fun t ht => readable_drop_iff.mpr (h t ht)]

theorem passedOver_reject (tokens : List Text) : passedOver .reject tokens = [] := by
  rw [passedOver, List.filter_eq_nil_iff]
  intro t ht hnone
  have hread := List.mem_takeWhile_imp ht
  rw [readable, of_decide_eq_true hnone] at hread
  exact Bool.false_ne_true hread

/-! ## The whole of it -/

/-- A line is read from its mnemonic, which is empty if it has no fields, and the
    fields behind it. -/
theorem read_eq_ofFields (p : LetterPolicy) (line : Text) :
    read p line
      = ofFields p ((Text.lineFields line).headD [] ::
          (Text.lineFields line).tail) := by
  show ofFields p (Text.lineFields line) = _
  cases Text.lineFields line with
  | nil => rfl
  | cons mnemonic tokens => rfl

/-- To pass fields over is to read the line with these fields deleted. -/
theorem outcome_read_leaveOut (line : Text) :
    (read .reject (Text.leaveOut Operand.unlettered line)).outcome
      = (read .drop line).outcome := by
  rw [read_eq_ofFields, read_eq_ofFields, outcome_ofFields_drop,
    Text.lineFields_leaveOut]
  cases Text.lineFields line with
  | nil => rfl
  | cons mnemonic tokens => rfl

/-- **The leftmost faulty field decides, and to pass over is to delete.**  If no
    field behind the mnemonic may be passed over, a line is a statement exactly if
    all of them are operands, and its fault is that of the leftmost that is none.
    If fields of no kind may be passed over, it is a statement exactly if no field
    is malformed, its operands are those of the other fields, its fault is that of
    the leftmost malformed one, and the fields noted as passed over are those of no
    kind, up to that one.  Either way it is read as the line is from which the
    fields of no kind have been deleted. -/
theorem leftmost_fault_decides (line : Text) :
    let mnemonic := (Text.lineFields line).headD []
    let tokens := (Text.lineFields line).tail
    let left := Text.leaveOut Operand.unlettered line
    let log := (read .drop line).events
    (((∃ s, (read .reject line).outcome = .ok s) ↔
        ∀ t ∈ tokens, ∃ o, Operand.read? t = .ok (some o)) ∧
      (∀ s, (read .reject line).outcome = .ok s ↔ s.mnemonic = mnemonic ∧
        List.Forall₂ (fun t o => Operand.read? t = .ok (some o)) tokens s.operands) ∧
      ∀ fault, (read .reject line).outcome = .error fault ↔
        ∃ before t after, tokens = before ++ t :: after ∧
          (∀ u ∈ before, ∃ o, Operand.read? u = .ok (some o)) ∧
          ((Operand.read? t = .ok none ∧ fault = .unknownLetter t) ∨
            ∃ cause, Operand.read? t = .error cause ∧
              fault = .malformedOperand t cause)) ∧
    (((∃ s, (read .drop line).outcome = .ok s) ↔
        ∀ t ∈ tokens, ∃ found, Operand.read? t = .ok found) ∧
      (∀ s, (read .drop line).outcome = .ok s ↔ s.mnemonic = mnemonic ∧
        List.Forall₂ (fun t o => Operand.read? t = .ok (some o)) (lettered tokens)
          s.operands) ∧
      ∀ fault, (read .drop line).outcome = .error fault ↔
        ∃ before t after, tokens = before ++ t :: after ∧
          (∀ u ∈ before, ∃ found, Operand.read? u = .ok found) ∧
          ∃ cause, Operand.read? t = .error cause ∧
            fault = .malformedOperand t cause) ∧
    ((read .reject left).outcome = (read .drop line).outcome ∧
      Text.lineFields left = (Text.lineFields line).take 1 ++ lettered tokens ∧
      left.Sublist line) ∧
    ((∀ e ∈ log, e.level = .debug) ∧ (read .reject line).events = [] ∧
      ((∀ t ∈ tokens, ∃ found, Operand.read? t = .ok found) →
        log = (tokens.filter Operand.unlettered).map .droppedOperand) ∧
      ∀ before t after cause, tokens = before ++ t :: after →
        (∀ u ∈ before, ∃ found, Operand.read? u = .ok found) →
        Operand.read? t = .error cause →
        log = (before.filter Operand.unlettered).map .droppedOperand) := by
  intro mnemonic tokens left log
  have hread : ∀ p, read p line = ofFields p (mnemonic :: tokens) :=
    fun p => read_eq_ofFields p line
  have hlog : log = (passedOver .drop tokens).map .droppedOperand :=
    events_read .drop line
  refine ⟨⟨?_, fun s => ?_, fun fault => ?_⟩, ⟨?_, fun s => ?_, fun fault => ?_⟩,
    ⟨outcome_read_leaveOut line, Text.lineFields_leaveOut _ line,
      Text.leaveOut_sublist _ line⟩, ?_, ?_, fun h => ?_, ?_⟩
  · rw [hread, exists_ofFields_iff]
    simp only [exists_readOperand_reject_iff]
  · rw [hread, outcome_ofFields_reject]
  · rw [hread, outcome_ofFields_eq_error_iff]
    simp only [exists_readOperand_reject_iff, outcome_readOperand_reject_eq_error_iff]
  · rw [hread, exists_ofFields_iff]
    simp only [exists_readOperand_drop_iff]
  · rw [hread, outcome_ofFields_drop, outcome_ofFields_reject]
  · rw [hread, outcome_ofFields_eq_error_iff]
    simp only [exists_readOperand_drop_iff, outcome_readOperand_drop_eq_error_iff]
  · intro e he
    rw [hlog] at he
    obtain ⟨t, -, rfl⟩ := List.mem_map.mp he
    rfl
  · rw [events_read, passedOver_reject]
    rfl
  · rw [hlog, passedOver_drop h]
  · intro before t after cause hsplit hbefore ht
    rw [hlog, hsplit, passedOver_drop_append hbefore ht]

/-- One line on which the two policies blame different fields, and one that is
    read once its fields of no kind are deleted. -/
theorem leftmost_fault_decides_mixed :
    ((read .reject "LD v1 q2 #3 czz x4 ; n5".toList).outcome
        = .error (.unknownLetter "q2".toList) ∧
      (read .drop "LD v1 q2 #3 czz x4 ; n5".toList).outcome
        = .error (.malformedOperand "czz".toList .invalidDigit) ∧
      (read .drop "LD v1 q2 #3 czz x4 ; n5".toList).events
        = ["q2".toList, "#3".toList].map .droppedOperand) ∧
    Text.leaveOut Operand.unlettered " q1\tq2 v3 #4 c0x55;q6".toList
      = " q1\t v3  c0x55;q6".toList ∧
    (read .reject " q1\t v3  c0x55;q6".toList).outcome
      = .ok ⟨"q1".toList, [⟨.register, 3⟩, ⟨.constant, 0x55⟩]⟩ := by
  obtain ⟨⟨-, -, hreject⟩, ⟨-, -, hdrop⟩, -, -, -, -, hlog⟩ :=
    leftmost_fault_decides "LD v1 q2 #3 czz x4 ; n5".toList
  have hfields : (Text.lineFields "LD v1 q2 #3 czz x4 ; n5".toList).tail
      = ["v1".toList, "q2".toList, "#3".toList] ++ "czz".toList :: ["x4".toList] := by
    decide
  have hbefore : ∀ u ∈ ["v1".toList, "q2".toList, "#3".toList],
      ∃ found, Operand.read? u = .ok found := by
    intro u hu
    simp only [List.mem_cons, List.not_mem_nil, or_false] at hu
    rcases hu with rfl | rfl | rfl
    · exact ⟨some ⟨.register, 1⟩, by decide⟩
    · exact ⟨none, by decide⟩
    · exact ⟨none, by decide⟩
  have hmalformed : Operand.read? "czz".toList = .error .invalidDigit := by decide
  refine ⟨⟨?_, ?_, ?_⟩, by decide, ?_⟩
  · refine (hreject _).mpr ⟨["v1".toList], "q2".toList,
      ["#3".toList, "czz".toList, "x4".toList], hfields, ?_, Or.inl ⟨by decide, rfl⟩⟩
    intro u hu
    obtain rfl := List.mem_singleton.mp hu
    exact ⟨⟨.register, 1⟩, by decide⟩
  · exact (hdrop _).mpr ⟨_, _, _, hfields, hbefore, _, hmalformed, rfl⟩
  · exact (hlog _ _ _ _ hfields hbefore hmalformed).trans (by decide)
  · obtain ⟨-, ⟨-, hok, -⟩, ⟨hleft, -⟩, -⟩ :=
      leftmost_fault_decides " q1\tq2 v3 #4 c0x55;q6".toList
    have hdeleted : Text.leaveOut Operand.unlettered " q1\tq2 v3 #4 c0x55;q6".toList
        = " q1\t v3  c0x55;q6".toList := by decide
    rw [hdeleted] at hleft
    rw [hleft, hok]
    exact ⟨by decide, .cons (by decide) (.cons (by decide) .nil)⟩

end Statement

end Chip8Assembly
