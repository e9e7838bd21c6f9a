import Chip8Assembly.Program
import Mathlib.Data.List.Forall2

/-!
# Outcomes — how traced work ends

What is noted on the way never decides how work ends, so the outcome of each
reading is a plain function of what is read.
-/

namespace Chip8Assembly

/-! ## Values and faults -/

section

variable {ε δ α β : Type} {x : Except ε α}

theorem map_eq_ok_iff {f : α → β} {b : β} :
    x.map f = .ok b ↔ ∃ a, x = .ok a ∧ f a = b := by
  cases x with
  | error fault => simp [Except.map]
  | ok a => simp [Except.map]

theorem map_eq_error_iff {f : α → β} {fault : ε} :
    x.map f = .error fault ↔ x = .error fault := by
  cases x with
  | error fault' => simp [Except.map]
  | ok a => simp [Except.map]

theorem mapError_eq_ok_iff {f : ε → δ} {a : α} : x.mapError f = .ok a ↔ x = .ok a := by
  cases x with
  | error fault => simp [Except.mapError]
  | ok a' => simp [Except.mapError]

theorem mapError_eq_error_iff {f : ε → δ} {fault : δ} :
    x.mapError f = .error fault ↔ ∃ cause, x = .error cause ∧ fault = f cause := by
  cases x with
  | error cause => simp [Except.mapError, eq_comm]
  | ok a => simp [Except.mapError]

end

/-! ## Traced work -/

namespace Traced

variable {ε δ α β : Type}

@[simp]
theorem outcome_mapFault (f : ε → δ) (x : Traced ε α) :
    (x.mapFault f).outcome = x.outcome.mapError f := rfl

@[simp]
theorem outcome_ofExcept (x : Except ε α) : (ofExcept x).outcome = x := rfl

@[simp]
theorem outcome_fail (fault : ε) : (fail fault : Traced ε α).outcome = .error fault :=
  rfl

theorem outcome_collect_cons (f : α → Traced ε β) (x : α) (xs : List α) :
    (collect f (x :: xs)).outcome
      = (f x).outcome.bind fun y => (collect f xs).outcome.map (y :: ·) := by
  rw [collect_cons, outcome_bind]
  rfl

/-- **Steps for all elements succeed** exactly if each of them does. -/
theorem outcome_collect_eq_ok_iff {f : α → Traced ε β} {xs : List α}
    {ys : List β} :
    (collect f xs).outcome = .ok ys ↔
      List.Forall₂ (fun x y => (f x).outcome = .ok y) xs ys := by
  induction xs generalizing ys with
  | nil =>
      rw [List.forall₂_nil_left_iff]
      exact ⟨fun h => (Except.ok.inj h).symm, fun h => by rw [h]; rfl⟩
  | cons x xs ih =>
      rw [outcome_collect_cons, List.forall₂_cons_left_iff]
      constructor
      · intro h
        cases hx : (f x).outcome with
        | error fault => rw [hx] at h; exact nomatch h
        | ok y =>
            cases hxs : (collect f xs).outcome with
            | error fault => rw [hx, hxs] at h; exact nomatch h
            | ok zs =>
                rw [hx, hxs] at h
                exact ⟨y, zs, rfl, ih.mp hxs, (Except.ok.inj h).symm⟩
      · rintro ⟨y, zs, hy, hzs, rfl⟩
        rw [hy, ih.mpr hzs]
        rfl

/-- Steps for the elements of two lists, one list after the other. -/
theorem outcome_collect_append (f : α → Traced ε β) (xs ys : List α) :
    (collect f (xs ++ ys)).outcome
      = (collect f xs).outcome.bind fun as =>
          (collect f ys).outcome.map (as ++ ·) := by
  induction xs with
  | nil =>
      show _ = (collect f ys).outcome.map ([] ++ ·)
      cases h : (collect f ys).outcome with
      | error fault => exact h
      | ok bs => exact h
  | cons x xs ih =>
      rw [List.cons_append, outcome_collect_cons, outcome_collect_cons, ih]
      cases (f x).outcome with
      | error fault => rfl
      | ok a =>
          cases (collect f xs).outcome with
          | error fault => rfl
          | ok as =>
              cases (collect f ys).outcome with
              | error fault => rfl
              | ok bs => rfl

/-- **Steps for all elements fail** exactly if one of them does and those
    before it do not. -/
theorem outcome_collect_eq_error_iff {f : α → Traced ε β} {xs : List α}
    {fault : ε} :
    (collect f xs).outcome = .error fault ↔
      ∃ before x after, xs = before ++ x :: after ∧
        (∃ ys, (collect f before).outcome = .ok ys) ∧
        (f x).outcome = .error fault := by
  constructor
  · intro h
    induction xs with
    | nil => exact nomatch h
    | cons x xs ih =>
        rw [outcome_collect_cons] at h
        cases hx : (f x).outcome with
        | error e =>
            rw [hx] at h
            obtain rfl : e = fault := Except.error.inj h
            exact ⟨[], x, xs, rfl, ⟨[], rfl⟩, hx⟩
        | ok y =>
            cases hxs : (collect f xs).outcome with
            | ok ys =>
                rw [hx, hxs] at h
                exact nomatch h
            | error e =>
                rw [hx, hxs] at h
                obtain rfl : e = fault := Except.error.inj h
                obtain ⟨before, x', after, rfl, ⟨ys, hys⟩, hx'⟩ := ih hxs
                refine ⟨x :: before, x', after, rfl, ⟨y :: ys, ?_⟩, hx'⟩
                rw [outcome_collect_cons, hx, hys]
                rfl
  · rintro ⟨before, x, after, rfl, ⟨ys, hys⟩, hx⟩
    rw [outcome_collect_append, hys, outcome_collect_cons, hx]
    rfl

end Traced

/-- Lists that are related through the values of a function. -/
theorem forall₂_exists_iff {α β γ : Type} {R : α → β → Prop} {f : β → γ}
    {xs : List α} {zs : List γ} :
    List.Forall₂ (fun x z => ∃ y, R x y ∧ f y = z) xs zs ↔
      ∃ ys, List.Forall₂ R xs ys ∧ ys.map f = zs := by
  constructor
  · intro h
    induction h with
    | nil => exact ⟨[], List.Forall₂.nil, rfl⟩
    | cons hxz _ ih =>
        obtain ⟨y, hxy, rfl⟩ := hxz
        obtain ⟨ys, hys, rfl⟩ := ih
        exact ⟨y :: ys, List.Forall₂.cons hxy hys, rfl⟩
  · rintro ⟨ys, hys, rfl⟩
    rw [List.forall₂_map_right_iff]
    exact hys.imp fun x y hxy => ⟨y, hxy, rfl⟩

/-- Elements that are all related to something make up a list that is related to
    one. -/
theorem exists_forall₂_iff {α β : Type} {R : α → β → Prop} {xs : List α} :
    (∃ ys, List.Forall₂ R xs ys) ↔ ∀ x ∈ xs, ∃ y, R x y := by
  induction xs with
  | nil => exact ⟨fun _ => nofun, fun _ => ⟨[], List.Forall₂.nil⟩⟩
  | cons x xs ih =>
      rw [List.forall_mem_cons, ← ih]
      constructor
      · rintro ⟨_, _ | ⟨hx, hxs⟩⟩
        exact ⟨⟨_, hx⟩, _, hxs⟩
      · rintro ⟨⟨y, hx⟩, ys, hxs⟩
        exact ⟨y :: ys, List.Forall₂.cons hx hxs⟩

/-- Steps for all elements have values exactly if each step has one. -/
theorem Traced.exists_outcome_collect_iff {ε α β : Type} {f : α → Traced ε β}
    {xs : List α} :
    (∃ ys, (collect f xs).outcome = .ok ys) ↔
      ∀ x ∈ xs, ∃ y, (f x).outcome = .ok y := by
  rw [← exists_forall₂_iff]
  exact exists_congr fun ys => outcome_collect_eq_ok_iff

/-- What follows for everything that is related to something holds of all elements
    of the second list. -/
theorem forall_mem_of_forall₂ {α β : Type} {R : α → β → Prop} {P : β → Prop}
    {xs : List α} {ys : List β} (hP : ∀ x y, R x y → P y)
    (h : List.Forall₂ R xs ys) : ∀ y ∈ ys, P y := by
  induction h with
  | nil => exact fun y hy => absurd hy List.not_mem_nil
  | cons hxy _ ih =>
      intro y hy
      rcases List.mem_cons.mp hy with rfl | hy
      · exact hP _ _ hxy
      · exact ih y hy

/-! ## Fields -/

namespace Statement

section

variable {token : Text}

theorem readOperand_of_fault {cause : NumeralFault}
    (h : Operand.read? token = .error cause) (p : LetterPolicy) :
    readOperand p token = .fail (.malformedOperand token cause) := by
  unfold readOperand
  rw [h]

theorem readOperand_of_operand {operand : Operand}
    (h : Operand.read? token = .ok (some operand)) (p : LetterPolicy) :
    readOperand p token = pure (some operand) := by
  unfold readOperand
  rw [h]

theorem readOperand_reject (h : Operand.read? token = .ok none) :
    readOperand .reject token = .fail (.unknownLetter token) := by
  unfold readOperand
  rw [h]

theorem readOperand_drop (h : Operand.read? token = .ok none) :
    readOperand .drop token = ⟨[.droppedOperand token], .ok none⟩ := by
  unfold readOperand
  rw [h]
  rfl

end

end Statement

/-! ## Lines and sources -/

namespace Dialect

/-- What passes the check of a dialect. -/
theorem checked_eq_ok_iff {d : Dialect} {fault : Fault} {i j : Instruction} :
    d.checked fault i = .ok j ↔
      i = j ∧ (d.strict = true → i.isUnknown = false) := by
  unfold checked
  cases hs : d.strict with
  | false =>
      exact ⟨fun h => ⟨Except.ok.inj h, nofun⟩, fun h => congrArg Except.ok h.1⟩
  | true =>
      cases hu : i.isUnknown with
      | false =>
          exact ⟨fun h => ⟨Except.ok.inj h, fun _ => rfl⟩,
            fun h => congrArg Except.ok h.1⟩
      | true => exact ⟨nofun, fun h => nomatch h.2 rfl⟩

/-- What the check of a dialect refuses. -/
theorem checked_eq_error_iff {d : Dialect} {fault fault' : Fault}
    {i : Instruction} :
    d.checked fault i = .error fault' ↔
      d.strict = true ∧ i.isUnknown = true ∧ fault' = fault := by
  unfold checked
  split
  · rename_i h
    obtain ⟨hs, hu⟩ := Bool.and_eq_true_iff.mp h
    exact ⟨fun hf => ⟨hs, hu, (Except.error.inj hf).symm⟩, fun hf => by rw [hf.2.2]⟩
  · rename_i h
    exact ⟨nofun, fun hf => absurd (Bool.and_eq_true_iff.mpr ⟨hf.1, hf.2.1⟩) h⟩

theorem outcome_decode (d : Dialect) (w : Word) :
    (d.decode w).outcome
      = d.checked (.unclassifiedWord w) (Instruction.ofWord w) := rfl

theorem outcome_parse (d : Dialect) (line : Text) :
    (d.parse line).outcome
      = (Statement.read d.unknownOperands line).outcome.bind fun s =>
          d.checked (.unclassifiedLine line) (Instruction.ofStatement s line) := by
  rw [parse, Traced.outcome_bind]
  rfl

/-- A line is parsed to the instruction of a statement that passes the
    check. -/
theorem outcome_parse_eq_ok_iff {d : Dialect} {line : Text} {i : Instruction} :
    (d.parse line).outcome = .ok i ↔
      ∃ s, (Statement.read d.unknownOperands line).outcome = .ok s ∧
        i = Instruction.ofStatement s line ∧
        (d.strict = true → i.isUnknown = false) := by
  rw [outcome_parse]
  cases h : (Statement.read d.unknownOperands line).outcome with
  | error fault => exact ⟨nofun, fun ⟨s, hs, _⟩ => nomatch hs⟩
  | ok s =>
      show d.checked _ _ = _ ↔ _
      rw [checked_eq_ok_iff]
      constructor
      · rintro ⟨rfl, hu⟩
        exact ⟨s, rfl, rfl, hu⟩
      · rintro ⟨s', hs, rfl, hu⟩
        obtain rfl := Except.ok.inj hs
        exact ⟨rfl, hu⟩

/-- The outcome of a numbered line is that of the line, and its fault names the
    number. -/
theorem outcome_assembleLine (d : Dialect) (line : Text × Nat) :
    (d.assembleLine line).outcome
      = ((d.parse line.1).outcome.mapError (.onLine line.2)).map
          Instruction.encode := by
  rw [assembleLine, Traced.outcome_bind, Traced.outcome_mapFault]
  cases (d.parse line.1).outcome with
  | error fault => rfl
  | ok i => rfl

/-- A numbered line fails with a fault of the line. -/
theorem outcome_assembleLine_eq_error_iff {d : Dialect} {line : Text × Nat}
    {fault : Fault} :
    (d.assembleLine line).outcome = .error fault ↔
      ∃ cause, (d.parse line.1).outcome = .error cause ∧
        fault = .onLine line.2 cause := by
  rw [outcome_assembleLine, map_eq_error_iff, mapError_eq_error_iff]

/-- The outcome of a source is that of its lines with content. -/
theorem outcome_assemble (d : Dialect) (source : Text) :
    (d.assemble source).outcome
      = (Traced.collect d.assembleLine (Text.contentLines source)).outcome.map
          Word.flatten := by
  rw [assemble, Traced.outcome_bind]
  cases (Traced.collect d.assembleLine (Text.contentLines source)).outcome with
  | error fault => rfl
  | ok ws => rfl

/-- A source fails with the fault that its lines with content fail with. -/
theorem outcome_assemble_eq_error_iff {d : Dialect} {source : Text}
    {fault : Fault} :
    (d.assemble source).outcome = .error fault ↔
      (Traced.collect d.assembleLine (Text.contentLines source)).outcome
        = .error fault := by
  rw [outcome_assemble, map_eq_error_iff]

/-- A fault of a source is that of one of its lines. -/
theorem exists_line_of_assemble {d : Dialect} {source : Text} {fault : Fault}
    (h : (d.assemble source).outcome = .error fault) :
    ∃ line ∈ Text.contentLines source, ∃ cause,
      (d.parse line.1).outcome = .error cause ∧ fault = .onLine line.2 cause := by
  obtain ⟨before, line, after, hsource, -, hline⟩ :=
    Traced.outcome_collect_eq_error_iff.mp (outcome_assemble_eq_error_iff.mp h)
  refine ⟨line, ?_, outcome_assembleLine_eq_error_iff.mp hline⟩
  rw [hsource]
  exact List.mem_append_right _ List.mem_cons_self

/-- The word of a line is that of its instruction. -/
theorem outcome_assembleLine_eq_ok_iff {d : Dialect} {line : Text × Nat}
    {w : Word} :
    (d.assembleLine line).outcome = .ok w ↔
      ∃ i, (d.parse line.1).outcome = .ok i ∧ i.encode = w := by
  rw [outcome_assembleLine, map_eq_ok_iff]
  exact exists_congr fun i => and_congr_left fun _ => mapError_eq_ok_iff

/-- The words of numbered lines are those of their instructions, in order. -/
theorem outcome_collect_assembleLine_eq_ok_iff {d : Dialect}
    {lines : List (Text × Nat)} {ws : List Word} :
    (Traced.collect d.assembleLine lines).outcome = .ok ws ↔
      ∃ is, List.Forall₂ (fun line i => (d.parse line.1).outcome = .ok i)
          lines is ∧ is.map Instruction.encode = ws := by
  rw [Traced.outcome_collect_eq_ok_iff, ← forall₂_exists_iff]
  exact ⟨fun h => h.imp fun _ _ => outcome_assembleLine_eq_ok_iff.mp,
    fun h => h.imp fun _ _ => outcome_assembleLine_eq_ok_iff.mpr⟩

/-- **A source is assembled to the words of the instructions** on its lines with
    content, in order. -/
theorem outcome_assemble_eq_ok_iff {d : Dialect} {source : Text}
    {bytes : List Byte} :
    (d.assemble source).outcome = .ok bytes ↔
      ∃ is, List.Forall₂ (fun line i => (d.parse line.1).outcome = .ok i)
          (Text.contentLines source) is ∧
        bytes = Word.flatten (is.map Instruction.encode) := by
  rw [outcome_assemble, map_eq_ok_iff]
  constructor
  · rintro ⟨ws, hws, rfl⟩
    obtain ⟨is, his, rfl⟩ := outcome_collect_assembleLine_eq_ok_iff.mp hws
    exact ⟨is, his, rfl⟩
  · rintro ⟨is, his, rfl⟩
    exact ⟨_, outcome_collect_assembleLine_eq_ok_iff.mpr ⟨is, his, rfl⟩, rfl⟩

/-- A source is assembled exactly if each of its lines with content is parsed. -/
theorem exists_assemble_iff {d : Dialect} {source : Text} :
    (∃ bytes, (d.assemble source).outcome = .ok bytes) ↔
      ∀ line ∈ Text.contentLines source, ∃ i, (d.parse line.1).outcome = .ok i := by
  rw [← exists_forall₂_iff]
  constructor
  · rintro ⟨bytes, h⟩
    obtain ⟨is, his, -⟩ := outcome_assemble_eq_ok_iff.mp h
    exact ⟨is, his⟩
  · rintro ⟨is, his⟩
    exact ⟨_, outcome_assemble_eq_ok_iff.mpr ⟨is, his, rfl⟩⟩

/-- **A stream is read to the instructions of its words,** if it is even and
    none of them is refused. -/
theorem outcome_decodeStream_eq_ok_iff {d : Dialect} {stream : List Byte}
    {is : List Instruction} :
    (d.decodeStream stream).outcome = .ok is ↔
      stream.length % Word.size = 0 ∧
        is = (Word.pairs stream).map Instruction.ofWord ∧
        (d.strict = true → ∀ w ∈ Word.pairs stream,
          (Instruction.ofWord w).isUnknown = false) := by
  rw [decodeStream, Traced.outcome_bind, Traced.outcome_ofExcept, Word.ofStream]
  by_cases hlen : stream.length % Word.size = 0
  · rw [if_pos hlen]
    show (Traced.collect d.decode (Word.pairs stream)).outcome = _ ↔ _
    rw [Traced.outcome_collect_eq_ok_iff]
    constructor
    · intro h
      -- the check of each word, and what the word is read as
      have hall : List.Forall₂
          (fun w i => (d.strict = true → (Instruction.ofWord w).isUnknown = false)
            ∧ Instruction.ofWord w = i) (Word.pairs stream) is := by
        refine h.imp fun w i hi => ?_
        obtain ⟨rfl, hu⟩ := checked_eq_ok_iff.mp hi
        exact ⟨hu, rfl⟩
      obtain ⟨hu, hi⟩ := (List.forall₂_and_left _ _).mp hall
      rw [← List.forall₂_map_left_iff, List.forall₂_eq_eq_eq] at hi
      exact ⟨hlen, hi.symm, fun hs w hw => hu w hw hs⟩
    · rintro ⟨-, rfl, hu⟩
      rw [List.forall₂_map_right_iff, List.forall₂_same]
      intro w hw
      exact checked_eq_ok_iff.mpr ⟨rfl, fun hs => hu hs w hw⟩
  · rw [if_neg hlen]
    exact ⟨nofun, fun h => absurd h.1 hlen⟩

end Dialect

end Chip8Assembly
