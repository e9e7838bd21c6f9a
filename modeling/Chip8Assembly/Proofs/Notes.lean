import Chip8Assembly.Proofs.Reassembly

/-!
# Notes — what is noted while a source is assembled

Traced work keeps what it has noted when it fails, so the events of steps along
a list are those of the steps that are taken: all of them
(`events_collect_of_ok`), or those up to and including the first that fails
(`events_collect_of_error`).

What a numbered line has to be noted with is said by `Dialect.notes`, from its
fields and from what they stand for.  `events_assembleLine` says that each line
is noted so, and `assemble_line_by_line` puts the lines of a source together:
its bytes, its fault, and its events.
-/

namespace Chip8Assembly

/-! ## Events of steps -/

namespace Traced

variable {ε α β : Type}

theorem events_bind_of_ok {x : Traced ε α} {a : α} (h : x.outcome = .ok a)
    (f : α → Traced ε β) : (x >>= f).events = x.events ++ (f a).events := by
  rw [bind_of_ok h]

theorem events_bind_of_error {x : Traced ε α} {fault : ε}
    (h : x.outcome = .error fault) (f : α → Traced ε β) :
    (x >>= f).events = x.events := by
  rw [bind_of_error h]

variable {f : α → Traced ε β}

theorem events_collect_cons_of_ok {x : α} {y : β} (h : (f x).outcome = .ok y)
    (xs : List α) :
    (collect f (x :: xs)).events = (f x).events ++ (collect f xs).events := by
  rw [collect_cons, events_bind_of_ok h, events_map]

theorem events_collect_cons_of_error {x : α} {fault : ε}
    (h : (f x).outcome = .error fault) (xs : List α) :
    (collect f (x :: xs)).events = (f x).events := by
  rw [collect_cons, events_bind_of_error h]

/-- **Steps that succeed** are all taken. -/
theorem events_collect_of_ok {xs : List α} {ys : List β}
    (h : (collect f xs).outcome = .ok ys) :
    (collect f xs).events = xs.flatMap fun x => (f x).events := by
  have hsteps := outcome_collect_eq_ok_iff.mp h
  clear h
  induction hsteps with
  | nil => rfl
  | cons hx _ ih => rw [events_collect_cons_of_ok hx, ih, List.flatMap_cons]

/-- **A step that fails** is the last that is taken. -/
theorem events_collect_of_error {before : List α} {ys : List β} {x : α}
    {fault : ε} (hbefore : (collect f before).outcome = .ok ys)
    (hx : (f x).outcome = .error fault) (after : List α) :
    (collect f (before ++ x :: after)).events
      = (before ++ [x]).flatMap fun x => (f x).events := by
  have hsteps := outcome_collect_eq_ok_iff.mp hbefore
  clear hbefore
  induction hsteps with
  | nil =>
      rw [List.nil_append, events_collect_cons_of_error hx, List.nil_append,
        List.flatMap_singleton]
  | cons hy _ ih =>
      rw [List.cons_append, events_collect_cons_of_ok hy, ih, List.cons_append,
        List.flatMap_cons]

end Traced

/-! ## Events of a line -/

namespace Statement

/-- Whether reading goes on behind a field: it is an operand, or a policy passes
    it over. -/
def readable (policy : LetterPolicy) (token : Text) : Bool :=
  match Operand.read? token with
  | .error _ => false
  | .ok (some _) => true
  | .ok none => policy == .drop

/-- The fields that are passed over, up to the first that reading stops at. -/
def passedOver (policy : LetterPolicy) (tokens : List Text) : List Text :=
  (tokens.takeWhile (readable policy)).filter fun token =>
    Operand.read? token = .ok none

/-- **Reading notes the fields that it passes over.** -/
theorem events_collect_readOperand (p : LetterPolicy) (tokens : List Text) :
    (Traced.collect (readOperand p) tokens).events
      = (passedOver p tokens).map .droppedOperand := by
  induction tokens with
  | nil => rfl
  | cons token tokens ih =>
      rw [passedOver, List.takeWhile_cons, readable]
      cases hread : Operand.read? token with
      | error cause =>
          have hstep := readOperand_of_fault hread p
          rw [Traced.events_collect_cons_of_error (congrArg Traced.outcome hstep),
            hstep]
          rfl
      | ok found =>
          cases found with
          | some operand =>
              have hstep := readOperand_of_operand hread p
              rw [Traced.events_collect_cons_of_ok (congrArg Traced.outcome hstep),
                hstep, ih]
              simp [passedOver, hread]
          | none =>
              cases p with
              | reject =>
                  have hstep := readOperand_reject hread
                  rw [Traced.events_collect_cons_of_error
                    (congrArg Traced.outcome hstep), hstep]
                  rfl
              | drop =>
                  have hstep := readOperand_drop hread
                  rw [Traced.events_collect_cons_of_ok
                    (congrArg Traced.outcome hstep), hstep, ih]
                  simp [passedOver, hread]

/-- What is noted while a line is read as a statement. -/
theorem events_read (p : LetterPolicy) (line : Text) :
    (read p line).events
      = (passedOver p (Text.fields (Text.uncommented line)).tail).map
          .droppedOperand := by
  rw [read]
  cases Text.fields (Text.uncommented line) with
  | nil => rfl
  | cons mnemonic tokens =>
      rw [List.tail_cons, ← events_collect_readOperand, ofFields]
      cases h : (Traced.collect (readOperand p) tokens).outcome with
      | error fault => rw [Traced.events_bind_of_error h]
      | ok found =>
          rw [Traced.events_bind_of_ok h, Traced.events_pure, List.append_nil]

end Statement

namespace Dialect

/-- What is to be noted of a numbered line that is a statement: that no shape
    claims it, if none does; what it is read as; and a warning with its number
    and its word, if no shape claims it and the dialect takes it all the same. -/
def notesOfStatement (d : Dialect) (line : Text × Nat) (mnemonic : Text)
    (i : Instruction) : List Event :=
  (if i.isUnknown then [.unclaimedLine line.1 mnemonic] else []) ++
    [.parsed line.1 i] ++
    if i.isUnknown && !d.strict then
      [.unclassifiedLine line.2 i.encode line.1]
    else []

/-- What is to be noted of a numbered line: the fields that are passed over, and
    then what there is to be noted of the statement, if they make one. -/
def notes (d : Dialect) (line : Text × Nat) : List Event :=
  (Statement.passedOver d.unknownOperands
      (Text.fields (Text.uncommented line.1)).tail).map .droppedOperand ++
    match (Statement.read d.unknownOperands line.1).outcome with
    | .error _ => []
    | .ok s =>
      d.notesOfStatement line s.mnemonic (Instruction.ofStatement s line.1)

theorem events_readStatement (d : Dialect) (line : Text) (s : Statement) :
    (d.readStatement line s).events
      = Event.ofLine line s.mnemonic (Instruction.ofStatement s line) :=
  List.append_nil _

/-- What is noted while a line is read, from the fields on. -/
theorem events_parse (d : Dialect) (line : Text) :
    (d.parse line).events
      = (Statement.read d.unknownOperands line).events ++
        match (Statement.read d.unknownOperands line).outcome with
        | .error _ => []
        | .ok s =>
          Event.ofLine line s.mnemonic (Instruction.ofStatement s line) := by
  rw [parse]
  cases h : (Statement.read d.unknownOperands line).outcome with
  | error fault => rw [Traced.events_bind_of_error h, List.append_nil]
  | ok s => rw [Traced.events_bind_of_ok h, events_readStatement]

/-- The warning that a line gives rise to when it is taken as an instruction. -/
def warning? (line : Text × Nat) (i : Instruction) : Option Event :=
  if i.isUnknown then some (.unclassifiedLine line.2 i.encode line.1) else none

/-- What is noted once a numbered line has been read. -/
theorem events_assembleLine_eq (d : Dialect) (line : Text × Nat) :
    (d.assembleLine line).events
      = (d.parse line.1).events ++
        match (d.parse line.1).outcome with
        | .error _ => []
        | .ok i => (warning? line i).toList := by
  rw [assembleLine]
  cases h : (d.parse line.1).outcome with
  | error fault =>
      have hfault : ((d.parse line.1).mapFault (Fault.onLine line.2)).outcome
          = .error (.onLine line.2 fault) := by
        rw [Traced.outcome_mapFault, h]
        rfl
      rw [Traced.events_bind_of_error hfault, List.append_nil]
      rfl
  | ok i =>
      have hok : ((d.parse line.1).mapFault (Fault.onLine line.2)).outcome
          = .ok i := by
        rw [Traced.outcome_mapFault, h]
        rfl
      have hnote : (if i.isUnknown then
            [Event.unclassifiedLine line.2 i.encode line.1] else []) ++ []
          = (warning? line i).toList := by
        rw [List.append_nil, warning?]
        split <;> rfl
      rw [Traced.events_bind_of_ok hok]
      exact congrArg ((d.parse line.1).events ++ ·) hnote

/-- **A line is noted as it has to be.** -/
theorem events_assembleLine (d : Dialect) (line : Text × Nat) :
    (d.assembleLine line).events = d.notes line := by
  rw [events_assembleLine_eq, events_parse, outcome_parse, notes,
    ← Statement.events_read, List.append_assoc]
  congr 1
  cases (Statement.read d.unknownOperands line.1).outcome with
  | error fault => rfl
  | ok s =>
      show Event.ofLine line.1 s.mnemonic (Instruction.ofStatement s line.1) ++
          (match d.checked _ (Instruction.ofStatement s line.1) with
            | .error _ => [] | .ok i => _)
        = d.notesOfStatement line s.mnemonic (Instruction.ofStatement s line.1)
      -- of the unknown instructions a strict dialect takes none
      generalize Instruction.ofStatement s line.1 = i
      cases hu : i.isUnknown with
      | false => simp [Event.ofLine, checked, notesOfStatement, warning?, hu]
      | true =>
          cases hs : d.strict <;>
            simp [Event.ofLine, checked, notesOfStatement, warning?, hu, hs]

/-! ## Warnings -/

/-- Reading a line warns of nothing. -/
theorem not_warn_of_mem_parse {d : Dialect} {line : Text} {e : Event}
    (h : e ∈ (d.parse line).events) : e.level ≠ .warn := by
  rw [events_parse, Statement.events_read, List.mem_append] at h
  rcases h with h | h
  · obtain ⟨token, -, rfl⟩ := List.mem_map.mp h
    exact nofun
  · split at h
    · exact nomatch h
    · unfold Event.ofLine at h
      split at h
      · simp only [List.cons_append, List.nil_append, List.mem_cons,
          List.not_mem_nil, or_false] at h
        rcases h with rfl | rfl <;> exact nofun
      · obtain rfl := List.mem_singleton.mp h
        exact nofun

theorem filter_warn_parse (d : Dialect) (line : Text) :
    ((d.parse line).events.filter fun e => e.level = .warn) = [] := by
  rw [List.filter_eq_nil_iff]
  intro e he
  rw [decide_eq_true_iff]
  exact not_warn_of_mem_parse he

variable {d : Dialect} {line : Text × Nat}

/-- A line that is taken is warned of if no shape claims it. -/
theorem filter_warn_notes_of_ok {i : Instruction}
    (h : (d.parse line.1).outcome = .ok i) :
    ((d.notes line).filter fun e => e.level = .warn)
      = (warning? line i).toList := by
  rw [← events_assembleLine, events_assembleLine_eq, List.filter_append,
    filter_warn_parse, List.nil_append, h]
  show ((warning? line i).toList.filter _) = _
  rw [warning?]
  split <;> rfl

/-- A line that is refused is not warned of. -/
theorem filter_warn_notes_of_error {cause : Fault}
    (h : (d.parse line.1).outcome = .error cause) :
    ((d.notes line).filter fun e => e.level = .warn) = [] := by
  rw [← events_assembleLine, events_assembleLine_eq, List.filter_append,
    filter_warn_parse, h]
  rfl

/-- The warnings of lines that are taken, in order. -/
theorem filter_warn_flatMap_notes {lines : List (Text × Nat)}
    {is : List Instruction}
    (h : List.Forall₂ (fun line i => (d.parse line.1).outcome = .ok i) lines is) :
    ((lines.flatMap d.notes).filter fun e => e.level = .warn)
      = (lines.zip is).filterMap fun p => warning? p.1 p.2 := by
  induction h with
  | nil => rfl
  | cons hline _ ih =>
      rw [List.flatMap_cons, List.filter_append, filter_warn_notes_of_ok hline, ih,
        List.zip_cons_cons, List.filterMap_cons]
      split <;> simp_all

/-- A strict dialect takes no line that it would have to warn of. -/
theorem not_warn_of_strict (hd : d.strict = true) {lines : List (Text × Nat)}
    {is : List Instruction} {log : List Event}
    (h : List.Forall₂ (fun line i => (d.parse line.1).outcome = .ok i) lines is)
    (hlog : (log.filter fun e => e.level = .warn)
      = (lines.zip is).filterMap fun p => warning? p.1 p.2) :
    ∀ e ∈ log, e.level ≠ .warn := by
  have hnone : ((lines.zip is).filterMap fun p => warning? p.1 p.2) = [] := by
    rw [List.filterMap_eq_nil_iff]
    rintro ⟨line, i⟩ hmem
    obtain ⟨s, -, -, hknown⟩ :=
      outcome_parse_eq_ok_iff.mp ((List.forall₂_iff_zip.mp h).2 hmem)
    exact if_neg (by rw [hknown hd]; decide)
  rw [hnone, List.filter_eq_nil_iff] at hlog
  exact fun e he hwarn => hlog e he (decide_eq_true hwarn)

/-! ## The whole of it -/

theorem events_assemble (d : Dialect) (source : Text) :
    (d.assemble source).events
      = (Traced.collect d.assembleLine (Text.contentLines source)).events := by
  rw [assemble]
  cases h : (Traced.collect d.assembleLine
      (Text.contentLines source)).outcome with
  | error fault => rw [Traced.events_bind_of_error h]
  | ok ws => rw [Traced.events_bind_of_ok h, Traced.events_pure, List.append_nil]

section

variable {source : Text} {is : List Instruction}

/-- **The log of a source that is taken** has the notes of all its lines with
    content. -/
theorem events_assemble_of_ok
    (h : List.Forall₂ (fun line i => (d.parse line.1).outcome = .ok i)
      (Text.contentLines source) is) :
    (d.assemble source).events = (Text.contentLines source).flatMap d.notes := by
  rw [events_assemble, Traced.events_collect_of_ok
    (outcome_collect_assembleLine_eq_ok_iff.mpr ⟨is, h, rfl⟩)]
  exact List.flatMap_congr fun line _ => d.events_assembleLine line

/-- **The log of a source that is refused** ends with the notes of the line that is
    refused. -/
theorem events_assemble_of_error {before after : List (Text × Nat)}
    {cause : Fault} (hsplit : Text.contentLines source = before ++ line :: after)
    (h : List.Forall₂ (fun line i => (d.parse line.1).outcome = .ok i) before is)
    (hline : (d.parse line.1).outcome = .error cause) :
    (d.assemble source).events = (before ++ [line]).flatMap d.notes := by
  rw [events_assemble, hsplit, Traced.events_collect_of_error
    (outcome_collect_assembleLine_eq_ok_iff.mpr ⟨is, h, rfl⟩)
    (outcome_assembleLine_eq_error_iff.mpr ⟨cause, hline, rfl⟩)]
  exact List.flatMap_congr fun line _ => d.events_assembleLine line

/-- The warnings of a source that is refused are those of the lines before. -/
theorem filter_warn_flatMap_notes_concat {before : List (Text × Nat)} {cause : Fault}
    (h : List.Forall₂ (fun line i => (d.parse line.1).outcome = .ok i) before is)
    (hline : (d.parse line.1).outcome = .error cause) :
    (((before ++ [line]).flatMap d.notes).filter fun e => e.level = .warn)
      = (before.zip is).filterMap fun p => warning? p.1 p.2 := by
  rw [List.flatMap_append, List.filter_append, filter_warn_flatMap_notes h,
    List.flatMap_singleton, filter_warn_notes_of_error hline, List.append_nil]

end

/-- **A source is assembled line by line, with its log.**  If every line with
    content is taken, there is a word for each; otherwise the first line that is
    not taken gives the fault.  The lines up to then are noted one after the
    other, and a warning names the number and the word of each that was taken
    although no shape claims it; a strict dialect never warns. -/
theorem assemble_line_by_line (d : Dialect) (source : Text) :
    let lines := Text.contentLines source
    let log := (d.assemble source).events
    let warnings := log.filter fun e => e.level = .warn
    ((∃ is bytes,
        List.Forall₂ (fun line i => (d.parse line.1).outcome = .ok i) lines is ∧
        (d.assemble source).outcome = .ok bytes ∧
        bytes.length = 2 * lines.length ∧
        Word.pairs bytes = is.map Instruction.encode ∧
        log = lines.flatMap d.notes ∧
        warnings = (lines.zip is).filterMap fun p => warning? p.1 p.2) ∨
      ∃ before line after is cause,
        lines = before ++ line :: after ∧
        List.Forall₂ (fun line i => (d.parse line.1).outcome = .ok i) before is ∧
        (d.parse line.1).outcome = .error cause ∧
        (d.assemble source).outcome = .error (.onLine line.2 cause) ∧
        log = (before ++ [line]).flatMap d.notes ∧
        warnings = (before.zip is).filterMap fun p => warning? p.1 p.2) ∧
    (d.strict = true → ∀ e ∈ log, e.level ≠ .warn) := by
  intro lines log warnings
  cases h : (Traced.collect d.assembleLine lines).outcome with
  | ok ws =>
      obtain ⟨is, his, rfl⟩ := outcome_collect_assembleLine_eq_ok_iff.mp h
      have hlog : log = lines.flatMap d.notes := events_assemble_of_ok his
      have hwarnings : warnings
          = (lines.zip is).filterMap fun p => warning? p.1 p.2 := by
        show log.filter _ = _
        rw [hlog]
        exact filter_warn_flatMap_notes his
      refine ⟨Or.inl ⟨is, _, his, outcome_assemble_eq_ok_iff.mpr ⟨is, his, rfl⟩,
        ?_, Word.pairs_flatten _, hlog, hwarnings⟩, fun hd =>
        not_warn_of_strict hd his hwarnings⟩
      rw [Word.length_flatten, List.length_map, his.length_eq]
      rfl
  | error fault =>
      obtain ⟨before, line, after, hsplit, ⟨ws, hws⟩, hline⟩ :=
        Traced.outcome_collect_eq_error_iff.mp h
      obtain ⟨is, his, rfl⟩ := outcome_collect_assembleLine_eq_ok_iff.mp hws
      obtain ⟨cause, hcause, rfl⟩ := outcome_assembleLine_eq_error_iff.mp hline
      have hlog : log = (before ++ [line]).flatMap d.notes :=
        events_assemble_of_error hsplit his hcause
      have hwarnings : warnings
          = (before.zip is).filterMap fun p => warning? p.1 p.2 := by
        show log.filter _ = _
        rw [hlog]
        exact filter_warn_flatMap_notes_concat his hcause
      exact ⟨Or.inr ⟨before, line, after, is, cause, hsplit, his, hcause,
        outcome_assemble_eq_error_iff.mpr h, hlog, hwarnings⟩, fun hd =>
        not_warn_of_strict hd his hwarnings⟩

end Dialect

end Chip8Assembly
