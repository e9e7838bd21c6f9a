import Chip8Assembly.Proofs.Classification
import Chip8Assembly.Proofs.Tokens

/-!
# Grammar — the lines that the strictest dialect takes

The notation is simple enough to be said without a reader.  An operand is
*spelled* as the letter of its kind, a mark or none, and the digits of a number
that a word has room for.  A *sentence* is the mnemonic of a shape and, behind it,
one operand for each slot.

The strictest dialect takes the sentences and nothing else, except that it lets a
plus sign stand in front of the digits.  The notation has no signs, so a source
that it takes is within the notation exactly if no plus sign stands in its
fields (`exists_assemble_iff_sentences`).
-/

namespace Chip8Assembly

open Numeral

/-! ## Spelling -/

/-- A field that is spelled as an operand of a kind, with one of the given signs in
    front of its digits. -/
def Kind.Spelled (signs : List Text) (token : Text) (k : Kind) : Prop :=
  ∃ letter ∈ k.letters, ∃ mark ∈ [] :: marks, ∃ sign ∈ signs, ∃ number,
    IsNumber 16 0xFFFF number ∧ token = letter :: (mark ++ (sign ++ number))

/-- A line that is, up to its comment, the mnemonic of a shape and one operand for
    each slot. -/
def Shape.Sentence (signs : List Text) (s : Shape) (line : Text) : Prop :=
  ∃ tokens, Text.fields (Text.uncommented line) = s.mnemonic :: tokens ∧
    List.Forall₂ (Kind.Spelled signs) tokens s.kinds

namespace Kind

variable {token : Text} {k : Kind}

/-- **What is read as an operand is spelled as one,** with a sign or none, and the
    other way round. -/
theorem spelled_iff :
    Spelled signs token k ↔ ∃ o, Operand.read? token = .ok (some o) ∧ o.kind = k := by
  constructor
  · rintro ⟨letter, hletter, mark, hmark, sign, hsign, number, hnumber, rfl⟩
    have hbare : bare (mark ++ (sign ++ number)) = number :=
      bare_append hmark hsign hnumber.only_digits
    have hvalue : Operand.readValue (mark ++ (sign ++ number))
        = .ok (BitVec.ofNat 16 (value 16 number)) := by
      rw [Operand.readValue_eq_ok_iff, hbare]
      exact ⟨hnumber, Operand.toNat_ofNat_of_isNumber hnumber⟩
    exact ⟨⟨k, _⟩, (Operand.read?_cons_eq_ok_iff hletter).mpr ⟨rfl, hvalue⟩, rfl⟩
  · rintro ⟨o, ho, rfl⟩
    obtain ⟨letter, hletter, rest, rfl, hvalue⟩ := Operand.read?_eq_ok_some_iff.mp ho
    obtain ⟨mark, hmark, sign, hsign, hrest⟩ := exists_mark_sign rest
    exact ⟨letter, hletter, mark, hmark, sign, hsign, bare rest,
      (Operand.readValue_eq_ok_iff.mp hvalue).1, congrArg _ hrest⟩

/-- **A spelling without a sign has no plus sign in it,** and the other way
    round. -/
theorem spelled_nil_iff :
    Spelled [[]] token k ↔ Spelled signs token k ∧ '+' ∉ token := by
  constructor
  · rintro ⟨letter, hletter, mark, hmark, sign, hsign, number, hnumber, rfl⟩
    obtain rfl := List.mem_singleton.mp hsign
    refine ⟨⟨letter, hletter, mark, hmark, [], List.mem_cons_self, number, hnumber,
      rfl⟩, ?_⟩
    have hplus : '+' ∉ k.letters ∧ ∀ m ∈ [] :: marks, '+' ∉ m := by
      cases k <;> decide
    have hdigit : '+' ∉ number := not_mem_of_isDigit hnumber.only_digits (by decide)
    intro hmem
    rcases List.mem_cons.mp hmem with rfl | hmem
    · exact hplus.1 hletter
    · rcases List.mem_append.mp hmem with hmem | hmem
      · exact hplus.2 mark hmark hmem
      · exact hdigit hmem
  · rintro ⟨⟨letter, hletter, mark, hmark, sign, hsign, number, hnumber, rfl⟩, hplus⟩
    rcases List.mem_pair.mp hsign with rfl | rfl
    · exact ⟨letter, hletter, mark, hmark, [], List.mem_cons_self, number, hnumber,
        rfl⟩
    · have hmem : '+' ∈ mark ++ ('+' :: number) :=
        List.mem_append_right mark List.mem_cons_self
      exact absurd (List.mem_cons_of_mem letter hmem) hplus

end Kind

/-! ## Sentences -/

namespace Shape

/-- **A sentence without signs has no plus sign in its fields,** and the other way
    round. -/
theorem sentence_nil_iff {s : Shape} {line : Text} :
    s.Sentence [[]] line ↔ s.Sentence signs line ∧
      ∀ field ∈ Text.fields (Text.uncommented line), '+' ∉ field := by
  have hmnemonic : ∀ s ∈ all, '+' ∉ s.mnemonic := by decide
  constructor
  · rintro ⟨tokens, hfields, htokens⟩
    refine ⟨⟨tokens, hfields, htokens.imp fun t k h =>
      (Kind.spelled_nil_iff.mp h).1⟩, ?_⟩
    rw [hfields, List.forall_mem_cons]
    refine ⟨hmnemonic s s.mem_all, ?_⟩
    exact forall_mem_of_forall₂ (fun k t h => (Kind.spelled_nil_iff.mp h).2)
      htokens.flip
  · rintro ⟨⟨tokens, hfields, htokens⟩, hplus⟩
    rw [hfields, List.forall_mem_cons] at hplus
    refine ⟨tokens, hfields, ?_⟩
    have hboth := (List.forall₂_and_left _ _).mpr ⟨hplus.2, htokens⟩
    exact hboth.imp fun t k h => Kind.spelled_nil_iff.mpr ⟨h.2, h.1⟩

end Shape

/-! ## What is taken -/

namespace Statement

/-- A field that must be an operand. -/
theorem outcome_readOperand_reject {token : Text} {found : Option Operand} :
    (readOperand .reject token).outcome = .ok found ↔
      ∃ o, Operand.read? token = .ok (some o) ∧ some o = found := by
  cases hread : Operand.read? token with
  | error cause => simp [readOperand_of_fault hread]
  | ok operand =>
      cases operand with
      | none => simp [readOperand_reject hread]
      | some o => simp [readOperand_of_operand hread]

/-- **The fields of a statement,** if each of them has to be an operand. -/
theorem outcome_ofFields_reject {mnemonic : Text} {tokens : List Text}
    {s : Statement} :
    (ofFields .reject (mnemonic :: tokens)).outcome = .ok s ↔
      s.mnemonic = mnemonic ∧
        List.Forall₂ (fun t o => Operand.read? t = .ok (some o)) tokens s.operands := by
  have hcollect : ∀ found, (Traced.collect (readOperand .reject) tokens).outcome
        = .ok found ↔
      ∃ os, List.Forall₂ (fun t o => Operand.read? t = .ok (some o)) tokens os ∧
        os.map some = found := by
    intro found
    rw [Traced.outcome_collect_eq_ok_iff, ← forall₂_exists_iff]
    exact ⟨fun h => h.imp fun _ _ => outcome_readOperand_reject.mp,
      fun h => h.imp fun _ _ => outcome_readOperand_reject.mpr⟩
  have hfound : ∀ os : List Operand, (os.map some).filterMap id = os := by
    intro os
    rw [List.filterMap_map, Function.id_comp, List.filterMap_some]
  rw [ofFields, bind_pure_comp, Traced.outcome_map, map_eq_ok_iff]
  constructor
  · rintro ⟨found, hread, rfl⟩
    obtain ⟨os, hos, rfl⟩ := (hcollect found).mp hread
    refine ⟨rfl, ?_⟩
    rw [hfound]
    exact hos
  · rintro ⟨rfl, hos⟩
    exact ⟨_, (hcollect _).mpr ⟨s.operands, hos, rfl⟩, by rw [hfound]⟩

end Statement

namespace Dialect

/-- The dialect that refuses most. -/
def strictest : Dialect := ⟨true, .reject⟩

/-- **The strictest dialect parses the sentences,** in which numbers may have
    signs, and no other line. -/
theorem exists_parse_iff_sentence {line : Text} :
    (∃ i, (strictest.parse line).outcome = .ok i) ↔
      ∃ shape : Shape, shape ≠ .unknown ∧ shape.Sentence signs line := by
  constructor
  · rintro ⟨i, hi⟩
    obtain ⟨s, hs, rfl, hknown⟩ := outcome_parse_eq_ok_iff.mp hi
    obtain ⟨shape, hshape⟩ :=
      (Statement.isUnknown_ofStatement_eq_false_iff s line).mp (hknown rfl)
    obtain ⟨hu, hm, hk⟩ := Statement.hasShape_iff.mp hshape
    refine ⟨shape, hu, ?_⟩
    rw [Statement.read] at hs
    cases hfields : Text.fields (Text.uncommented line) with
    | nil =>
        -- a line without fields has no mnemonic of a shape
        rw [hfields] at hs
        obtain rfl : _ = s := Except.ok.inj hs
        exact absurd hm shape.isToken_mnemonic.ne_nil
    | cons mnemonic tokens =>
        rw [hfields] at hs
        obtain ⟨hmnemonic, hread⟩ := Statement.outcome_ofFields_reject.mp hs
        refine ⟨tokens, by rw [hm, hmnemonic, hfields], ?_⟩
        have hkinds := forall₂_exists_iff.mpr ⟨s.operands, hread, hk⟩
        exact hkinds.imp fun t k => Kind.spelled_iff.mpr
  · rintro ⟨shape, hu, tokens, hfields, htokens⟩
    have hkinds := htokens.imp fun t k => Kind.spelled_iff.mp
    obtain ⟨os, hread, hk⟩ := forall₂_exists_iff.mp hkinds
    have hs : (Statement.read .reject line).outcome = .ok ⟨shape.mnemonic, os⟩ := by
      rw [Statement.read, hfields]
      exact Statement.outcome_ofFields_reject.mpr ⟨rfl, hread⟩
    have hshape : Statement.HasShape ⟨shape.mnemonic, os⟩ shape :=
      Statement.hasShape_iff.mpr ⟨hu, rfl, hk⟩
    exact ⟨_, outcome_parse_eq_ok_iff.mpr ⟨_, hs, rfl, fun _ =>
      (Statement.isUnknown_ofStatement_eq_false_iff _ line).mpr ⟨shape, hshape⟩⟩⟩

/-- **What the strictest dialect takes.**  A source is assembled exactly if its
    lines with content are sentences, in which numbers may have signs.  They are
    sentences of the notation, which has no signs, exactly if the source is assembled
    and has no plus sign in a field. -/
theorem exists_assemble_iff_sentences (source : Text) :
    ((∃ bytes, (strictest.assemble source).outcome = .ok bytes) ↔
      ∀ line ∈ Text.contentLines source,
        ∃ shape : Shape, shape ≠ .unknown ∧ shape.Sentence signs line.1) ∧
    ((∀ line ∈ Text.contentLines source,
        ∃ shape : Shape, shape ≠ .unknown ∧ shape.Sentence [[]] line.1) ↔
      (∃ bytes, (strictest.assemble source).outcome = .ok bytes) ∧
        ∀ line ∈ Text.contentLines source,
          ∀ field ∈ Text.fields (Text.uncommented line.1), '+' ∉ field) := by
  have htaken : (∃ bytes, (strictest.assemble source).outcome = .ok bytes) ↔
      ∀ line ∈ Text.contentLines source,
        ∃ shape : Shape, shape ≠ .unknown ∧ shape.Sentence signs line.1 := by
    rw [exists_assemble_iff]
    exact forall₂_congr fun line _ => exists_parse_iff_sentence
  refine ⟨htaken, ?_⟩
  rw [htaken, ← forall₂_and]
  refine forall₂_congr fun line _ => ?_
  simp only [Shape.sentence_nil_iff, ← and_assoc, exists_and_right]

/-- A plus sign is taken that the notation does not have. -/
theorem strictest_takes_sign :
    ¬ ∀ source bytes, (strictest.assemble source).outcome = .ok bytes →
      ∀ line ∈ Text.contentLines source, ∃ shape : Shape,
        shape.Sentence [[]] line.1 := by
  intro h
  have htaken : (strictest.assemble "JMP a+200".toList).outcome = .ok [0x12, 0x00] := by
    decide
  obtain ⟨shape, hsentence⟩ :=
    h _ _ htaken ("JMP a+200".toList, 1) (by decide)
  have hplus := (Shape.sentence_nil_iff.mp hsentence).2
  exact hplus "a+200".toList (by decide) (by decide)

end Dialect

end Chip8Assembly
