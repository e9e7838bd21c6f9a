import Chip8Assembly.Proofs.Table

/-!
# Encoding — from words to instructions and back

Reading a word and encoding its instruction gives the word again, except that
the two shapes that compare registers leave one nibble of their words unread:

* `encode_ofWord` — the word of the instruction of a word is `Word.canonical`;
* `ofWord_encode` — a word is read as the instruction it was encoded from, with
  the operands cut to their widths, unless it is a native call of the address
  that clears the screen or returns;
* `ofWord_canonical` — the lost nibble makes no difference to what is read.
-/

namespace Chip8Assembly

/-- The word in the form in which its instruction is encoded: the last nibble
    of a word whose first is five or nine is cleared. -/
def Word.canonical (w : Word) : Word :=
  if w &&& 0xF000 = 0x5000 ∨ w &&& 0xF000 = 0x9000 then w &&& 0xFFF0 else w

/-! ## Rules and the slots of their shapes -/

namespace Rule

/-- The mask of a rule covers the fixed bits of its shape and no slot. -/
structure Sound (r : Rule) : Prop where
  base : r.shape.base &&& r.mask = r.shape.base
  slots : ∀ s ∈ r.shape.slots, s.field &&& r.mask = 0#16

theorem sound_of_mem {r : Rule} (hr : r ∈ table) : r.Sound := by
  have hbase : ∀ r ∈ table, r.shape.base &&& r.mask = r.shape.base := by
    decide
  have hslots : ∀ r ∈ table, ∀ s ∈ r.shape.slots,
      s.field &&& r.mask = 0#16 := by decide
  exact ⟨hbase r hr, hslots r hr⟩

/-- The shapes that leave the last nibble of their words unread. -/
def ComparesRegisters (s : Shape) : Prop := s = .skipEqReg ∨ s = .skipNeReg

instance (s : Shape) : Decidable (ComparesRegisters s) :=
  inferInstanceAs (Decidable (_ ∨ _))

/-- The mask and the slots of a rule cover the word, but for that nibble. -/
theorem mask_or_fields {r : Rule} (hr : r ∈ table) :
    r.mask ||| Slot.fields r.shape.slots
      = if ComparesRegisters r.shape then 0xFFF0 else BitVec.allOnes 16 := by
  revert r
  decide

/-- A rule of the table matches the words that its shape is encoded to. -/
theorem matchesWord_fill {r : Rule} (hr : r ∈ table) {os : List Operand}
    (hk : os.map Operand.kind = r.shape.kinds) :
    r.matchesWord (Instruction.fill r.shape.base os r.shape.slots) = true :=
  (matchesWord_iff r _).mpr
    (Instruction.fill_and (sound_of_mem hr).slots _ os hk)

/-- What a word holds in the slots of a rule that matches it, laid back. -/
theorem fill_of_matchesWord {r : Rule} (hr : r ∈ table) {w : Word}
    (hw : r.matchesWord w = true) :
    Instruction.fill r.shape.base (r.shape.slots.map (·.operand w))
        r.shape.slots
      = w &&& (r.mask ||| Slot.fields r.shape.slots) := by
  have hbase : r.shape.base = w &&& r.mask := by
    rw [(matchesWord_iff r w).mp hw, (sound_of_mem hr).base]
  rw [Instruction.fill_map_operand, BitVec.and_or_distrib_left, ← hbase]

/-- Which words go to a shape that leaves a nibble unread. -/
theorem comparesRegisters_forWord (w : Word) :
    ComparesRegisters (forWord table w).shape ↔
      w &&& 0xF000 = 0x5000 ∨ w &&& 0xF000 = 0x9000 := by
  obtain ⟨hmem, hw⟩ := forWord_spec w
  have hmask : ∀ r ∈ table, ComparesRegisters r.shape →
      r.mask = byFirstNibble := by decide
  constructor
  · intro h
    have hw := (matchesWord_iff _ w).mp hw
    rw [hmask _ hmem h] at hw
    rcases h with h | h
    · rw [h] at hw; exact Or.inl hw
    · rw [h] at hw; exact Or.inr hw
  · rintro (h | h)
    · have hr : forWord table w = ⟨.skipEqReg, byFirstNibble⟩ :=
        forWord_eq (by decide) ((matchesWord_iff _ w).mpr h) (by decide)
          (fun hc => nomatch hc)
      rw [hr]
      exact Or.inl rfl
    · have hr : forWord table w = ⟨.skipNeReg, byFirstNibble⟩ :=
        forWord_eq (by decide) ((matchesWord_iff _ w).mpr h) (by decide)
          (fun hc => nomatch hc)
      rw [hr]
      exact Or.inr rfl

end Rule

/-! ## From a word to a word -/

namespace Instruction

/-- Every shape but the unknown one is encoded through its slots. -/
theorem encode_eq_fill {i : Instruction} (h : i.shape ≠ .unknown) :
    i.encode = fill i.shape.base i.operands i.shape.slots := by
  unfold encode
  split
  · contradiction
  · rfl

theorem sameAs_iff (i j : Instruction) :
    i.sameAs j = true ↔ i.shape = j.shape ∧ i.operands = j.operands := by
  rw [sameAs, Bool.and_eq_true, beq_iff_eq, beq_iff_eq]

theorem map_kind_ofWord (w : Word) :
    (ofWord w).operands.map Operand.kind = (ofWord w).shape.kinds := by
  show ((Rule.forWord Rule.table w).shape.slots.map _).map _ = _
  rw [List.map_map]
  rfl

theorem forall_fits_ofWord (w : Word) : ∀ o ∈ (ofWord w).operands, o.Fits := by
  intro o ho
  obtain ⟨s, -, rfl⟩ := List.mem_map.mp ho
  exact s.fits_operand w

/-- An unknown word has itself as its only operand. -/
theorem operands_ofWord_of_unknown {w : Word} (h : (ofWord w).shape = .unknown) :
    (ofWord w).operands = [⟨.raw, w⟩] := by
  have hs : (Rule.forWord Rule.table w).shape = .unknown := h
  rw [ofWord, Rule.readWord, hs]
  show [(⟨.raw, w >>> 0 &&& BitVec.allOnes 16⟩ : Operand)] = _
  rw [BitVec.and_allOnes, BitVec.ushiftRight_zero]

/-- **The word of the instruction of a word** is the word, in canonical
    form. -/
theorem encode_ofWord (w : Word) : (ofWord w).encode = w.canonical := by
  obtain ⟨hmem, hw⟩ := Rule.forWord_spec w
  have hcan := Rule.comparesRegisters_forWord w
  by_cases hu : (ofWord w).shape = .unknown
  · -- a word of no shape is echoed, and has no nibble to lose
    have hc : ¬ Rule.ComparesRegisters (Rule.forWord Rule.table w).shape := by
      show ¬ Rule.ComparesRegisters (ofWord w).shape
      rw [hu]
      decide
    rw [Word.canonical, if_neg (fun h => hc (hcan.mpr h)), encode, hu]
    rfl
  · -- the mask and the slots cover the word, but for that nibble
    rw [encode_eq_fill hu]
    show fill _ ((Rule.forWord Rule.table w).shape.slots.map _) _ = _
    rw [show (ofWord w).shape = (Rule.forWord Rule.table w).shape from rfl,
      Rule.fill_of_matchesWord hmem hw, Rule.mask_or_fields hmem,
      Word.canonical]
    by_cases hc : Rule.ComparesRegisters (Rule.forWord Rule.table w).shape
    · rw [if_pos hc, if_pos (hcan.mp hc)]
    · rw [if_neg hc, if_neg (fun h => hc (hcan.mpr h)), BitVec.and_allOnes]

/-! ## From an instruction to an instruction -/

/-- A native call whose word is that of another shape. -/
def IsAlias (i : Instruction) : Prop :=
  i.shape = .callNative ∧ (i.encode = 0x00E0 ∨ i.encode = 0x00EE)

/-- **A word is read as the instruction it was encoded from,** with the
    operands cut to their widths. -/
theorem ofWord_encode {i : Instruction} (hu : i.shape ≠ .unknown)
    (hk : i.operands.map Operand.kind = i.shape.kinds) (ha : ¬ i.IsAlias) :
    ofWord i.encode
      = ⟨i.shape, i.operands.map Operand.cut, some i.encode, none⟩ := by
  obtain ⟨r, hr, hs⟩ := Rule.exists_rule i.shape
  have hfill : i.encode = fill r.shape.base i.operands r.shape.slots := by
    rw [encode_eq_fill hu, hs]
  have hkr : i.operands.map Operand.kind = r.shape.kinds := by rw [hk, hs]
  have hmatch : r.matchesWord i.encode = true := by
    rw [hfill]
    exact Rule.matchesWord_fill hr hkr
  -- the rule of the shape matches the word, and no earlier one takes it
  have hrule : Rule.forWord Rule.table i.encode = r := by
    refine Rule.forWord_eq hr hmatch ?_ ?_
    · rintro rfl
      exact hu hs.symm
    · intro hc
      rw [hs] at hc
      exact ⟨fun h => ha ⟨hc, Or.inl h⟩, fun h => ha ⟨hc, Or.inr h⟩⟩
  obtain ⟨hfits, hbase, hapart⟩ := r.shape.layout_sound
  have hops : r.shape.slots.map (·.operand i.encode)
      = i.operands.map Operand.cut := by
    rw [hfill]
    exact map_operand_fill hfits hapart _ _ hbase hkr
  rw [ofWord, hrule, Rule.readWord, hops, hs]

/-- What is read from a word is no alias. -/
theorem not_isAlias_ofWord (w : Word) : ¬ (ofWord w).IsAlias := by
  rintro ⟨hc, he⟩
  have hw : ¬ (w &&& 0xF000 = 0x5000 ∨ w &&& 0xF000 = 0x9000) := by
    rw [← Rule.comparesRegisters_forWord w]
    show ¬ Rule.ComparesRegisters (ofWord w).shape
    rw [hc]
    decide
  rw [encode_ofWord, Word.canonical, if_neg hw] at he
  rcases he with rfl | rfl
  · exact absurd hc (by decide)
  · exact absurd hc (by decide)

/-- **The lost nibble makes no difference** to what is read. -/
theorem ofWord_canonical (w : Word) :
    (ofWord w.canonical).sameAs (ofWord w) = true := by
  rw [sameAs_iff]
  by_cases hu : (ofWord w).shape = .unknown
  · -- an unclaimed word is canonical: it is echoed by its instruction
    have he : w.canonical = w := by
      rw [← encode_ofWord, encode, hu]
      rfl
    rw [he]
    exact ⟨rfl, rfl⟩
  · have hcut : (ofWord w).operands.map Operand.cut = (ofWord w).operands := by
      show ((Rule.forWord Rule.table w).shape.slots.map _).map _ = _
      rw [List.map_map]
      exact List.map_congr_left fun s _ => Slot.cut_operand s w
    rw [← encode_ofWord,
      ofWord_encode hu (map_kind_ofWord w) (not_isAlias_ofWord w), hcut]
    exact ⟨rfl, rfl⟩

end Instruction

end Chip8Assembly
