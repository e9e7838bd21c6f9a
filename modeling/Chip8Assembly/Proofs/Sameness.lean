import Chip8Assembly.Proofs.Rendering

/-!
# Sameness — instructions that differ in their origin only

Instructions are the same if they have the same shape and the same operands,
wherever they came from.  Two instructions that are the same have the same line,
and lines tell instructions apart, since a line is read as the instruction that
it was written for (`sameAs_of_render_eq`).

Their words agree too, though the word of an unknown instruction is taken from
its origin: a well-formed one has that word as its operand (`encode_congr`).  So
nothing is lost when an instruction is put together again from its shape and
its operands alone (`exists_build`).
-/

namespace Chip8Assembly.Instruction

variable {i j k : Instruction}

/-! ## An equivalence -/

theorem sameAs_refl (i : Instruction) : i.sameAs i = true :=
  (sameAs_iff i i).mpr ⟨rfl, rfl⟩

theorem sameAs_symm (h : i.sameAs j = true) : j.sameAs i = true := by
  obtain ⟨hs, ho⟩ := (sameAs_iff i j).mp h
  exact (sameAs_iff j i).mpr ⟨hs.symm, ho.symm⟩

theorem sameAs_trans (hij : i.sameAs j = true) (hjk : j.sameAs k = true) :
    i.sameAs k = true := by
  obtain ⟨hs, ho⟩ := (sameAs_iff i j).mp hij
  obtain ⟨hs', ho'⟩ := (sameAs_iff j k).mp hjk
  exact (sameAs_iff i k).mpr ⟨hs.trans hs', ho.trans ho'⟩

theorem isUnknown_congr (h : i.sameAs j = true) : i.isUnknown = j.isUnknown := by
  rw [isUnknown, isUnknown, ((sameAs_iff i j).mp h).1]

/-! ## Lines and words -/

/-- Instructions that are the same have the same line. -/
theorem render_congr (h : i.sameAs j = true) : i.render = j.render := by
  obtain ⟨hs, ho⟩ := (sameAs_iff i j).mp h
  rw [render, render, mnemonic, mnemonic, hs, ho]

theorem reread_congr (h : i.sameAs j = true) : i.reread = j.reread := by
  obtain ⟨hs, ho⟩ := (sameAs_iff i j).mp h
  rw [reread, reread, hs, ho, render_congr h]

/-- **Instructions that are the same have the same word.** -/
theorem encode_congr (hi : i.WellFormed) (hj : j.WellFormed)
    (h : i.sameAs j = true) : i.encode = j.encode := by
  rw [← encode_reread hi, reread_congr h, encode_reread hj]

/-- **Lines tell instructions apart.** -/
theorem sameAs_of_render_eq (hi : i.WellFormed) (hj : j.WellFormed)
    (h : i.render = j.render) : i.sameAs j = true := by
  have hparse := outcome_parse_render hi .permissive
  rw [h, outcome_parse_render hj .permissive] at hparse
  -- the one line is read as both instructions
  have hreread : j.reread = i.reread := Except.ok.inj hparse
  obtain ⟨hshape, hoperands, -⟩ := Instruction.mk.inj hreread
  exact (sameAs_iff i j).mpr ⟨hshape.symm, hoperands.symm⟩

/-- **Two instructions are the same exactly if their lines are,** however they
    were made; and then they have the same word and the same bytes, and both or
    neither of them are unknown. -/
theorem sameAs_iff_render_eq {d e : Dialect} {r s : Recipe}
    (hi : (r.make d).outcome = .ok i) (hj : (s.make e).outcome = .ok j) :
    (i.sameAs j = true ↔ i.render = j.render) ∧
      (i.sameAs j = true → i.encode = j.encode ∧ i.bytes = j.bytes ∧
        i.isUnknown = j.isUnknown) := by
  have hwi : i.WellFormed := wellFormed_of_make hi
  have hwj : j.WellFormed := wellFormed_of_make hj
  refine ⟨⟨render_congr, sameAs_of_render_eq hwi hwj⟩, ?_⟩
  intro h
  have hencode : i.encode = j.encode := encode_congr hwi hwj h
  exact ⟨hencode, congrArg Word.bytes hencode, isUnknown_congr h⟩

/-- A word that no shape claims and a line with nothing but that word, read by
    different dialects; and the two shapes with one mnemonic. -/
theorem sameAs_iff_render_eq_echo :
    (∃ i j : Instruction,
      (Recipe.make .permissive (.word 0xFFFF)).outcome = .ok i ∧
      (Recipe.make ⟨false, .reject⟩ (.line "FOO R0XFFFF ; v1".toList)).outcome
        = .ok j ∧
      i.raw ≠ j.raw ∧ i.source ≠ j.source ∧ i.sameAs j = true ∧
      i.render = j.render ∧
      i.encode = j.encode ∧ i.bytes = j.bytes ∧ i.isUnknown = j.isUnknown) ∧
    ∃ i j : Instruction,
      (Recipe.make .permissive (.line "ADD v1 c2".toList)).outcome = .ok i ∧
      (Recipe.make .permissive (.line "ADD v1 v2".toList)).outcome = .ok j ∧
      i.sameAs j = false ∧ i.render ≠ j.render := by
  constructor
  · have hword : (Recipe.make .permissive (.word 0xFFFF)).outcome
        = .ok ⟨.unknown, [⟨.raw, 0xFFFF⟩], some 0xFFFF, none⟩ := by decide
    have hline : (Recipe.make ⟨false, .reject⟩
          (.line "FOO R0XFFFF ; v1".toList)).outcome
        = .ok ⟨.unknown, [⟨.raw, 0xFFFF⟩], none,
            some "FOO R0XFFFF ; v1".toList⟩ := by decide
    obtain ⟨hiff, hsame⟩ := sameAs_iff_render_eq hword hline
    have h := hsame (by decide)
    exact ⟨_, _, hword, hline, nofun, nofun, by decide, hiff.mp (by decide), h⟩
  · have hconst : (Recipe.make .permissive (.line "ADD v1 c2".toList)).outcome
        = .ok ⟨.addConst, [⟨.register, 1⟩, ⟨.constant, 2⟩],
            none, some "ADD v1 c2".toList⟩ := by decide
    have hreg : (Recipe.make .permissive (.line "ADD v1 v2".toList)).outcome
        = .ok ⟨.addReg, [⟨.register, 1⟩, ⟨.register, 2⟩],
            none, some "ADD v1 v2".toList⟩ := by decide
    refine ⟨_, _, hconst, hreg, by decide, ?_⟩
    intro hrender
    have h := (sameAs_iff_render_eq hconst hreg).1.mpr hrender
    exact absurd h (by decide)

/-! ## Putting an instruction together again -/

/-- **A well-formed instruction can be put together again,** and what it was read
    from is all that is lost. -/
theorem exists_build (h : i.WellFormed) :
    ∃ j, build i.shape i.operands = .ok j ∧ j.raw = none ∧ j.source = none ∧
      j.sameAs i = true ∧ j.encode = i.encode ∧ j.render = i.render := by
  have hbuild : build i.shape i.operands
      = .ok ⟨i.shape, i.operands, none, none⟩ :=
    if_pos (h.kinds.imp_right beq_iff_eq.mpr)
  have hsame : sameAs ⟨i.shape, i.operands, none, none⟩ i = true :=
    (sameAs_iff _ i).mpr ⟨rfl, rfl⟩
  exact ⟨_, hbuild, rfl, rfl, hsame, encode_congr (wellFormed_of_build hbuild) h hsame,
    render_congr hsame⟩

end Chip8Assembly.Instruction
