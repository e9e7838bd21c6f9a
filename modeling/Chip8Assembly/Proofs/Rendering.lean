import Chip8Assembly.Proofs.Encoding
import Chip8Assembly.Proofs.Fields
import Chip8Assembly.Proofs.Numerals
import Chip8Assembly.Proofs.Outcomes
import Chip8Assembly.Session

/-!
# Rendering — instructions written as lines and read again

Every instruction that can be made is *well-formed*: its operands are of the
kinds of its shape, unless it is unknown, and what was read from a word is what
that word stands for.  The line of a well-formed instruction is read as the
instruction again:

* `fields_render` — the fields of the line are the mnemonic and the tokens;
* `read_render` — they are read as the statement that was written;
* `parse_render` — parsing undoes rendering, and the strict dialects refuse the
  line of an unknown instruction.
-/

namespace Chip8Assembly

/-! ## The tokens of a line -/

/-- A number in hexadecimal is written without blanks or comments. -/
theorem Numeral.isToken_hex (width n : Nat) : Text.IsToken (hex width n) := by
  have hdigit : ∀ d < 16, Text.isBlank (Nat.digitChar d) = false ∧
      Nat.digitChar d ≠ Text.commentMark := by decide
  have hdigits : Text.IsToken (hexDigits width n) := by
    refine ⟨hexDigits_ne_nil width n, ?_, ?_⟩
    · intro c hc
      obtain ⟨d, hd, rfl⟩ := mem_hexDigits hc
      exact (hdigit d hd).1
    · intro hc
      obtain ⟨d, hd, h⟩ := mem_hexDigits hc
      exact (hdigit d hd).2 h.symm
  exact (hdigits.cons (by decide) (by decide)).cons (by decide) (by decide)

theorem Operand.isToken_render (o : Operand) : Text.IsToken o.render := by
  have hletter : ∀ k : Kind, Text.isBlank k.letter = false ∧
      k.letter ≠ Text.commentMark := by
    intro k
    cases k <;> decide
  obtain ⟨hb, hc⟩ := hletter o.kind
  exact (Numeral.isToken_hex 1 o.value.toNat).cons hb hc

theorem Shape.isToken_mnemonic (s : Shape) : Text.IsToken s.mnemonic := by
  have h : ∀ s ∈ all, Text.IsToken s.mnemonic := by decide
  exact h s (mem_all s)

namespace Instruction

theorem forall_isToken (os : List Operand) :
    ∀ t ∈ os.map Operand.render, Text.IsToken t := by
  intro t ht
  obtain ⟨o, -, rfl⟩ := List.mem_map.mp ht
  exact o.isToken_render

/-- The line of an instruction is a row. -/
theorem isRow_render (i : Instruction) : Text.IsRow i.render := by
  unfold render
  split
  · exact i.shape.isToken_mnemonic.isRow
  · exact Text.isRow_tab_spaced i.shape.isToken_mnemonic (forall_isToken _)

/-- **The fields of a line** are the mnemonic and the tokens of the
    operands. -/
theorem fields_render (i : Instruction) :
    Text.fields i.render = i.mnemonic :: i.operands.map Operand.render := by
  unfold render
  have hm : Text.fields i.mnemonic = [i.mnemonic] :=
    i.shape.isToken_mnemonic.fields_eq
  split
  · rename_i hnil
    rw [hm, hnil]
    rfl
  · show Text.fields (i.mnemonic ++ '\t' :: Text.spaced _) = _
    rw [Text.fields_append_blank (by decide), hm,
      Text.fields_spaced (forall_isToken _)]
    rfl

end Instruction

/-! ## Reading a line again -/

/-- The tokens of operands are read as the operands, under every policy. -/
theorem Statement.collect_readOperand_render (p : LetterPolicy)
    (os : List Operand) :
    Traced.collect (readOperand p) (os.map Operand.render)
      = pure (os.map some) := by
  induction os with
  | nil => rfl
  | cons o os ih =>
      have ho : readOperand p o.render = pure (some o) :=
        readOperand_of_operand o.read?_render p
      rw [List.map_cons, Traced.collect_cons, ho, ih]
      rfl

/-- **A line is read as the statement that was written.** -/
theorem Statement.read_render (p : LetterPolicy) (i : Instruction) :
    read p i.render = pure ⟨i.mnemonic, i.operands⟩ := by
  rw [read, i.isRow_render.uncommented_eq, i.fields_render, ofFields,
    collect_readOperand_render, pure_bind, List.filterMap_map,
    Function.id_comp, List.filterMap_some]

namespace Instruction

/-- What every instruction satisfies, wherever it comes from. -/
structure WellFormed (i : Instruction) : Prop where
  /-- The operands are of the kinds of the shape. -/
  kinds : i.shape = .unknown ∨ i.operands.map Operand.kind = i.shape.kinds
  /-- It was not read from a word and from a line at once. -/
  origin : i.raw = none ∨ i.source = none
  /-- What was read from a word is what the word stands for. -/
  word : ∀ w, i.raw = some w → i = ofWord w

theorem wellFormed_ofWord (w : Word) : (ofWord w).WellFormed where
  kinds := Or.inr (map_kind_ofWord w)
  origin := Or.inr rfl
  word := by
    intro v hv
    obtain rfl : w = v := Option.some.inj hv
    rfl

theorem wellFormed_ofStatement (s : Statement) (line : Text) :
    (ofStatement s line).WellFormed where
  kinds := by
    obtain ⟨-, hs⟩ := Rule.forStatement_spec s
    by_cases hu : (Rule.forStatement Rule.table s).shape = .unknown
    · exact Or.inl hu
    · exact Or.inr ((Rule.matchesStatement_iff hu s).mp hs).2
  origin := Or.inl rfl
  word := fun _ hw => nomatch hw

theorem wellFormed_of_build {s : Shape} {os : List Operand} {i : Instruction}
    (h : build s os = .ok i) : i.WellFormed := by
  unfold build at h
  split at h
  · rename_i hk
    obtain rfl := Except.ok.inj h
    exact ⟨hk.imp_right beq_iff_eq.mp, Or.inl rfl, fun _ hw => nomatch hw⟩
  · exact nomatch h

/-- **Every instruction that can be made is well-formed.** -/
theorem wellFormed_of_make {d : Dialect} {r : Recipe} {i : Instruction}
    (h : (r.make d).outcome = .ok i) : i.WellFormed := by
  cases r with
  | word w =>
      obtain ⟨rfl, -⟩ := Dialect.checked_eq_ok_iff.mp h
      exact wellFormed_ofWord w
  | line text =>
      obtain ⟨s, -, rfl, -⟩ := Dialect.outcome_parse_eq_ok_iff.mp h
      exact wellFormed_ofStatement s text
  | parts shape operands => exact wellFormed_of_build h

/-- An instruction as it is read from its own line. -/
def reread (i : Instruction) : Instruction := ⟨i.shape, i.operands, none, some i.render⟩

theorem render_reread (i : Instruction) : i.reread.render = i.render := rfl

/-- An instruction keeps its word when it is read from its line. -/
theorem encode_reread {i : Instruction} (h : i.WellFormed) :
    i.reread.encode = i.encode := by
  by_cases hu : i.shape = .unknown
  · have hr : i.reread.shape = .unknown := hu
    rw [encode, encode, hu, hr]
    cases hw : i.raw with
    | none => rfl
    | some w =>
        -- an unknown word has itself as its only operand
        have hops : i.operands = [⟨.raw, w⟩] := by
          rw [h.word w hw] at hu ⊢
          exact operands_ofWord_of_unknown hu
        show ((i.operands.head?.map Operand.value).getD 0) = w
        rw [hops]
        rfl
  · rw [encode_eq_fill hu]
    exact encode_eq_fill hu

/-- A well-formed instruction is what its statement stands for. -/
theorem ofStatement_render {i : Instruction} (h : i.WellFormed) :
    ofStatement ⟨i.mnemonic, i.operands⟩ i.render = i.reread := by
  rw [ofStatement, Rule.readStatement]
  exact congrArg (Instruction.mk · i.operands none (some i.render))
    (Rule.shape_forStatement h.kinds)

/-- The line of an instruction is read as the instruction, if a dialect takes
    its shape. -/
theorem outcome_parse_render {i : Instruction} (h : i.WellFormed)
    (d : Dialect) :
    (d.parse i.render).outcome
      = d.checked (.unclassifiedLine i.render) i.reread := by
  rw [Dialect.outcome_parse, Statement.read_render, Traced.outcome_pure]
  show d.checked _ _ = _
  rw [ofStatement_render h]

/-- **Parsing undoes rendering.** -/
theorem parse_render {d : Dialect} {r : Recipe} {i : Instruction}
    (h : (r.make d).outcome = .ok i) (p : LetterPolicy) :
    ∃ j : Instruction,
      j.sameAs i = true ∧ j.encode = i.encode ∧ j.render = i.render ∧
      (Dialect.parse ⟨false, p⟩ i.render).outcome = .ok j ∧
      (Dialect.parse ⟨true, p⟩ i.render).outcome =
        if i.isUnknown then .error (.unclassifiedLine i.render) else .ok j := by
  have hi : i.WellFormed := wellFormed_of_make h
  refine ⟨i.reread, (sameAs_iff _ _).mpr ⟨rfl, rfl⟩, encode_reread hi,
    i.render_reread, ?_, ?_⟩
  · rw [outcome_parse_render hi]
    rfl
  · rw [outcome_parse_render hi]
    rfl

/-- An unknown instruction with values of several kinds, wider than these. -/
theorem parse_render_unknown :
    (Recipe.make .permissive
        (.parts .unknown [⟨.register, 0x1234⟩, ⟨.nibble, 0xFFFF⟩])).outcome
      = .ok ⟨.unknown, [⟨.register, 0x1234⟩, ⟨.nibble, 0xFFFF⟩], none, none⟩ ∧
    ∃ i j : Instruction,
      i = ⟨.unknown, [⟨.register, 0x1234⟩, ⟨.nibble, 0xFFFF⟩], none, none⟩ ∧
      j.sameAs i = true ∧ j.encode = i.encode ∧ j.render = i.render ∧
      (Dialect.parse ⟨false, .reject⟩ i.render).outcome = .ok j ∧
      (Dialect.parse ⟨true, .reject⟩ i.render).outcome =
        if i.isUnknown then .error (.unclassifiedLine i.render) else .ok j := by
  have h : (Recipe.make .permissive
      (.parts .unknown [⟨.register, 0x1234⟩, ⟨.nibble, 0xFFFF⟩])).outcome
        = .ok ⟨.unknown, [⟨.register, 0x1234⟩, ⟨.nibble, 0xFFFF⟩], none, none⟩ := rfl
  obtain ⟨j, hj⟩ := parse_render h .reject
  exact ⟨h, _, j, rfl, hj⟩

end Instruction

end Chip8Assembly
