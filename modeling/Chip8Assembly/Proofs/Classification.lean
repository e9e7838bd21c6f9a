import Chip8Assembly.Proofs.Rendering

/-!
# Classification — which shape a statement has

A shape is that of a statement if it has its mnemonic and can be put together
with its operands.  The table goes another way: it compares mnemonics and kinds,
one rule after the other, and puts nothing together.

Both come to the same.  No statement has two shapes (`HasShape.unique`), though
one mnemonic belongs to two of them, and the table finds the one there is
(`ofStatement_exact`).  So a strict dialect takes a line exactly if its statement
has a shape; the mnemonic of the unknown one helps no line.
-/

namespace Chip8Assembly

open Instruction

/-- What is put together from operands of the right kinds. -/
theorem Instruction.build_eq_ok_iff {shape : Shape} {os : List Operand}
    {i : Instruction} :
    build shape os = .ok i ↔
      (shape = .unknown ∨ os.map Operand.kind = shape.kinds) ∧
        i = ⟨shape, os, none, none⟩ := by
  have hkinds : (shape = .unknown ∨ os.map Operand.kind = shape.kinds) ↔
      (shape = .unknown ∨ shape.accepts (os.map Operand.kind) = true) :=
    or_congr_right beq_iff_eq.symm
  rw [build, hkinds]
  split_ifs with h
  · constructor
    · intro hi
      exact ⟨h, (Except.ok.inj hi).symm⟩
    · rintro ⟨-, rfl⟩
      rfl
  · exact ⟨nofun, fun hi => absurd hi.1 h⟩

/-! ## The shape of a statement -/

namespace Statement

/-- A shape of a statement: it is not the unknown one, has the mnemonic of the
    statement and can be put together with its operands. -/
structure HasShape (s : Statement) (shape : Shape) : Prop where
  known : shape ≠ .unknown
  mnemonic : shape.mnemonic = s.mnemonic
  built : ∃ i, build shape s.operands = .ok i

variable {s : Statement} {shape other : Shape}

/-- **The kinds of the operands decide** whether they can be put together. -/
theorem hasShape_iff :
    s.HasShape shape ↔
      shape ≠ .unknown ∧ shape.mnemonic = s.mnemonic ∧ s.kinds = shape.kinds := by
  constructor
  · rintro ⟨hu, hm, i, hi⟩
    exact ⟨hu, hm, (build_eq_ok_iff.mp hi).1.resolve_left hu⟩
  · rintro ⟨hu, hm, hk⟩
    exact ⟨hu, hm, _, build_eq_ok_iff.mpr ⟨Or.inr hk, rfl⟩⟩

instance (s : Statement) (shape : Shape) : Decidable (s.HasShape shape) :=
  decidable_of_iff _ hasShape_iff.symm

/-- **The table finds the shape of a statement.** -/
theorem HasShape.shape_forStatement (h : s.HasShape shape) :
    (Rule.forStatement Rule.table s).shape = shape := by
  obtain ⟨-, hm, hk⟩ := hasShape_iff.mp h
  have hs : s = ⟨shape.mnemonic, s.operands⟩ := by rw [hm]
  rw [hs]
  exact Rule.shape_forStatement (Or.inr hk)

/-- **No statement has two shapes.** -/
theorem HasShape.unique (h : s.HasShape shape) (h' : s.HasShape other) :
    other = shape :=
  h'.shape_forStatement.symm.trans h.shape_forStatement

/-- What the table finds is the shape of the statement, if it is not the unknown
    one. -/
theorem hasShape_forStatement
    (hu : (Rule.forStatement Rule.table s).shape ≠ .unknown) :
    s.HasShape (Rule.forStatement Rule.table s).shape := by
  obtain ⟨hm, hk⟩ := (Rule.matchesStatement_iff hu s).mp (Rule.forStatement_spec s).2
  exact hasShape_iff.mpr ⟨hu, hm.symm, hk⟩

/-- A statement without a shape is unknown. -/
theorem isUnknown_ofStatement_eq_false_iff (s : Statement) (line : Text) :
    (ofStatement s line).isUnknown = false ↔ ∃ shape, s.HasShape shape := by
  constructor
  · intro h
    exact ⟨_, hasShape_forStatement (beq_eq_false_iff_ne.mp h)⟩
  · rintro ⟨shape, h⟩
    refine beq_eq_false_iff_ne.mpr ?_
    show (Rule.forStatement Rule.table s).shape ≠ .unknown
    rw [h.shape_forStatement]
    exact h.known

end Statement

namespace Dialect

open Statement

/-- A strict dialect refuses the lines of unknown statements, and no other line
    that can be read. -/
theorem outcome_parse_strict {d : Dialect} (hd : d.strict = true) {s : Statement}
    {line : Text} (h : (Statement.read d.unknownOperands line).outcome = .ok s) :
    (d.parse line).outcome
      = if (ofStatement s line).isUnknown then .error (.unclassifiedLine line)
        else .ok (ofStatement s line) := by
  rw [outcome_parse, h]
  show d.checked _ _ = _
  rw [checked, hd, Bool.true_and]

end Dialect

/-- **The table and putting together agree** on what every statement is.  It is
    known exactly if it has a shape; then it has no other, and is what is put
    together from that shape and its operands.  If it has none it is unknown,
    and keeps its operands too.  So a strict dialect takes the lines of just the
    statements that have a shape. -/
theorem Statement.ofStatement_exact (s : Statement) (line : Text) :
    ((ofStatement s line).isUnknown = false ↔ ∃ shape, s.HasShape shape) ∧
    (∀ shape, s.HasShape shape →
      (∀ other, s.HasShape other → other = shape) ∧
      ∃ i, build shape s.operands = .ok i ∧
        (ofStatement s line).sameAs i = true ∧
        (ofStatement s line).shape = shape) ∧
    ((¬ ∃ shape, s.HasShape shape) → (ofStatement s line).shape = .unknown) ∧
    (ofStatement s line).operands = s.operands ∧
    ∀ d : Dialect, d.strict = true →
      (Statement.read d.unknownOperands line).outcome = .ok s →
      (∀ i, (d.parse line).outcome = .ok i ↔
        (∃ shape, s.HasShape shape) ∧ i = ofStatement s line) ∧
      ((d.parse line).outcome = .error (.unclassifiedLine line) ↔
        ¬ ∃ shape, s.HasShape shape) := by
  have hknown := isUnknown_ofStatement_eq_false_iff s line
  refine ⟨hknown, ?_, ?_, rfl, ?_⟩
  · intro shape h
    obtain ⟨i, hi⟩ := h.built
    obtain ⟨-, rfl⟩ := build_eq_ok_iff.mp hi
    have hshape : (ofStatement s line).shape = shape := h.shape_forStatement
    exact ⟨fun _ => h.unique, _, hi, (sameAs_iff _ _).mpr ⟨hshape, rfl⟩, hshape⟩
  · intro hnone
    by_contra hu
    exact hnone (hknown.mp (beq_eq_false_iff_ne.mpr hu))
  · intro d hd hread
    rw [Dialect.outcome_parse_strict hd hread, ← hknown]
    cases (ofStatement s line).isUnknown with
    | true => exact ⟨fun i => ⟨nofun, nofun⟩, fun _ => nofun, fun _ => rfl⟩
    | false =>
        refine ⟨fun i => ?_, nofun, fun h => absurd rfl h⟩
        constructor
        · intro h
          exact ⟨rfl, (Except.ok.inj h).symm⟩
        · rintro ⟨-, rfl⟩
          rfl

/-- A mnemonic of two shapes with a value that is too wide, and the mnemonic of
    the unknown one. -/
theorem Statement.ofStatement_exact_shared :
    (∃ i, build .addReg [⟨.register, 0x300⟩, ⟨.register, 2⟩] = .ok i ∧
      (Dialect.parse ⟨true, .drop⟩ "ADD v300 V0x2".toList).outcome
        = .ok ⟨.addReg, [⟨.register, 0x300⟩, ⟨.register, 2⟩],
            none, some "ADD v300 V0x2".toList⟩ ∧
      sameAs ⟨.addReg, [⟨.register, 0x300⟩, ⟨.register, 2⟩],
        none, some "ADD v300 V0x2".toList⟩ i = true) ∧
    (Dialect.parse ⟨true, .drop⟩ "ERR! r5".toList).outcome
      = .error (.unclassifiedLine "ERR! r5".toList) := by
  constructor
  · have hshape : HasShape
        ⟨"ADD".toList, [⟨.register, 0x300⟩, ⟨.register, 2⟩]⟩ .addReg := by decide
    obtain ⟨-, hbuilt, -, -, hparse⟩ := ofStatement_exact
      ⟨"ADD".toList, [⟨.register, 0x300⟩, ⟨.register, 2⟩]⟩ "ADD v300 V0x2".toList
    obtain ⟨-, i, hi, hsame, -⟩ := hbuilt .addReg hshape
    have hline := hparse ⟨true, .drop⟩ rfl (by decide)
    exact ⟨i, hi, (hline.1 _).mpr ⟨⟨_, hshape⟩, by decide⟩, hsame⟩
  · obtain ⟨-, -, -, -, hparse⟩ := ofStatement_exact
      ⟨"ERR!".toList, [⟨.raw, 5⟩]⟩ "ERR! r5".toList
    have hline := hparse ⟨true, .drop⟩ rfl (by decide)
    refine hline.2.mpr ?_
    rintro ⟨shape, hshape⟩
    have hnone : ∀ shape ∈ Shape.all,
        ¬ HasShape ⟨"ERR!".toList, [⟨.raw, 5⟩]⟩ shape := by decide
    exact hnone shape shape.mem_all hshape

end Chip8Assembly
