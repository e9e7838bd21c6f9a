import Chip8Assembly.Proofs.Reassembly

/-!
# Reading back — from a source to its stream and back

What a strict dialect assembles is read back by every strict dialect, one
instruction for each line with content.  The instruction of a line comes back
*settled*: its operands are cut to their widths, and a native call at the
address of a word that clears the screen or returns has become that shape.
Nothing else in the table overlaps.
-/

namespace Chip8Assembly

namespace Instruction

/-- What an instruction is read back as from its own word. -/
def settled (i : Instruction) : Instruction :=
  if i.shape = .callNative ∧ i.operands.map Operand.masked = [0x0E0] then
    { i with shape := .clearScreen, operands := [] }
  else if i.shape = .callNative ∧ i.operands.map Operand.masked = [0x0EE] then
    { i with shape := .returnFromSub, operands := [] }
  else { i with operands := i.operands.map Operand.cut }

/-- A native call is encoded as its address. -/
theorem map_masked_callNative {i : Instruction} (hs : i.shape = .callNative)
    (hk : i.operands.map Operand.kind = i.shape.kinds) :
    i.operands.map Operand.masked = [i.encode] := by
  have hu : i.shape ≠ .unknown := by
    rw [hs]
    decide
  rw [encode_eq_fill hu]
  rw [hs] at hk ⊢
  obtain ⟨o, ho, -⟩ := List.map_eq_singleton_iff.mp hk
  rw [ho]
  show [o.masked] = [0x0000#16 ||| o.masked <<< 0]
  rw [BitVec.shiftLeft_zero, BitVec.zero_or]

/-- **Reading the word of an instruction settles it.** -/
theorem ofWord_encode_sameAs {i : Instruction} (hu : i.shape ≠ .unknown)
    (hk : i.operands.map Operand.kind = i.shape.kinds) :
    (ofWord i.encode).sameAs i.settled = true := by
  unfold settled
  split
  · rename_i h
    obtain ⟨hs, ho⟩ := h
    have he : i.encode = 0x00E0 :=
      List.singleton_inj.mp ((map_masked_callNative hs hk).symm.trans ho)
    rw [he, sameAs_iff]
    exact ⟨rfl, rfl⟩
  · rename_i hcls
    split
    · rename_i h
      obtain ⟨hs, ho⟩ := h
      have he : i.encode = 0x00EE :=
        List.singleton_inj.mp ((map_masked_callNative hs hk).symm.trans ho)
      rw [he, sameAs_iff]
      exact ⟨rfl, rfl⟩
    · rename_i hrtn
      -- neither of the two words that overlap, so the rule of `i` decides
      have ha : ¬ i.IsAlias := by
        rintro ⟨hs, he | he⟩
        · exact hcls ⟨hs, by rw [map_masked_callNative hs hk, he]⟩
        · exact hrtn ⟨hs, by rw [map_masked_callNative hs hk, he]⟩
      rw [ofWord_encode hu hk ha, sameAs_iff]
      exact ⟨rfl, rfl⟩

/-- No word of a shape is left unclaimed. -/
theorem isUnknown_ofWord_encode {i : Instruction} (hu : i.shape ≠ .unknown)
    (hk : i.operands.map Operand.kind = i.shape.kinds) :
    (ofWord i.encode).isUnknown = false := by
  rw [isUnknown_congr (ofWord_encode_sameAs hu hk), settled]
  split
  · rfl
  · split
    · rfl
    · exact beq_eq_false_iff_ne.mpr hu

end Instruction

namespace Dialect

open Instruction

/-- What a strict dialect parses has a shape and operands of its kinds. -/
theorem kinds_of_parse {d : Dialect} (hd : d.strict = true) {line : Text}
    {i : Instruction} (h : (d.parse line).outcome = .ok i) :
    i.shape ≠ .unknown ∧ i.operands.map Operand.kind = i.shape.kinds := by
  obtain ⟨s, -, rfl, hknown⟩ := outcome_parse_eq_ok_iff.mp h
  have hu : (ofStatement s line).shape ≠ .unknown :=
    beq_eq_false_iff_ne.mp (hknown hd)
  exact ⟨hu, (wellFormed_ofStatement s line).kinds.resolve_left hu⟩

/-- A strict source is assembled from instructions of this sort. -/
theorem kinds_of_assemble {d : Dialect} (hd : d.strict = true) {source : Text}
    {stream : List Byte} (h : (d.assemble source).outcome = .ok stream) :
    ∃ is, List.Forall₂ (fun line i => (d.parse line.1).outcome = .ok i)
        (Text.contentLines source) is ∧
      (∀ i ∈ is, i.shape ≠ .unknown ∧
        i.operands.map Operand.kind = i.shape.kinds) ∧
      stream = Word.flatten (is.map encode) := by
  obtain ⟨is, his, hstream⟩ := outcome_assemble_eq_ok_iff.mp h
  have hkinds := forall_mem_of_forall₂ (fun _ _ hline => kinds_of_parse hd hline) his
  exact ⟨is, his, hkinds, hstream⟩

/-- The words of instructions with shapes are read by every dialect. -/
theorem outcome_decodeStream_encode (d : Dialect) {is : List Instruction}
    (h : ∀ i ∈ is, i.shape ≠ .unknown ∧
      i.operands.map Operand.kind = i.shape.kinds) :
    (d.decodeStream (Word.flatten (is.map encode))).outcome
      = .ok ((is.map encode).map ofWord) := by
  rw [outcome_decodeStream_eq_ok_iff, Word.pairs_flatten]
  refine ⟨Word.length_flatten_mod _, rfl, ?_⟩
  intro _ w hw
  obtain ⟨i, hi, rfl⟩ := List.mem_map.mp hw
  exact isUnknown_ofWord_encode (h i hi).1 (h i hi).2

/-- **A strict program is read back as it was written:** its stream is never
    refused, and holds the settled instruction of every line with content, in
    order. -/
theorem decodeStream_assemble {p : LetterPolicy} {source : Text}
    {stream : List Byte} (h : (assemble ⟨true, p⟩ source).outcome = .ok stream)
    (q : LetterPolicy) :
    ∃ is, (decodeStream ⟨true, q⟩ stream).outcome = .ok is ∧
      List.Forall₂
        (fun line i => ∃ j, (parse ⟨true, p⟩ line.1).outcome = .ok j ∧
          i.sameAs j.settled = true)
        (Text.contentLines source) is := by
  obtain ⟨js, hjs, hkinds, rfl⟩ := kinds_of_assemble rfl h
  refine ⟨_, outcome_decodeStream_encode _ hkinds, ?_⟩
  rw [List.map_map, List.forall₂_map_right_iff]
  refine hjs.imp fun line j hline => ⟨j, hline, ?_⟩
  obtain ⟨hu, hk⟩ := kinds_of_parse rfl hline
  exact ofWord_encode_sameAs hu hk

/-- A native call that comes back as another shape, and values that are too
    wide. -/
theorem decodeStream_assemble_overlap :
    (assemble ⟨true, .drop⟩
        "SYS a10e0 ; CLS\n\n  ; LD\nLD zz v12 c1ff\r\n".toList).outcome
      = .ok [0x00, 0xE0, 0x62, 0xFF] ∧
    ∃ is, (decodeStream ⟨true, .reject⟩ [0x00, 0xE0, 0x62, 0xFF]).outcome
        = .ok is ∧
      List.Forall₂
        (fun line i => ∃ j, (parse ⟨true, .drop⟩ line.1).outcome = .ok j ∧
          i.sameAs j.settled = true)
        (Text.contentLines
          "SYS a10e0 ; CLS\n\n  ; LD\nLD zz v12 c1ff\r\n".toList) is :=
  ⟨by decide, decodeStream_assemble (by decide) .reject⟩

end Dialect

end Chip8Assembly
