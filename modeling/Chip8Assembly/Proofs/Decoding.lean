import Chip8Assembly.Proofs.Precedence
import Chip8Assembly.Proofs.ReadBack

/-!
# Decoding — when an instruction is read again from its own word

The word of an instruction has room for its operands cut to their widths, and
for nothing else.  So reading it gives the instruction again, unless a value is
too wide (`Operand.cut_eq_self_iff`), or the word belongs to a shape that stands
before `callNative`.

An unknown instruction has the word of its first operand.  Reading that gives
one operand and no more, and only if no shape claims the word.

`ofWord_encode_sameAs_iff` says that there are no other exceptions.
-/

namespace Chip8Assembly.Instruction

variable {i : Instruction}

/-! ## Instructions with a shape -/

/-- The operand of a native call is its word, if it fits. -/
theorem operands_callNative (hs : i.shape = .callNative)
    (hk : i.operands.map Operand.kind = i.shape.kinds)
    (hfits : ∀ o ∈ i.operands, o.Fits) : i.operands = [⟨.address, i.encode⟩] := by
  obtain ⟨o, ho, hmasked⟩ :=
    List.map_eq_singleton_iff.mp (map_masked_callNative hs hk)
  have hkind : o.kind = .address := by
    rw [ho, hs] at hk
    exact List.singleton_inj.mp hk
  have hcut : o.cut = o := Operand.cut_eq_self_iff.mpr (hfits o (by simp [ho]))
  rw [ho, ← hcut, Operand.cut, hmasked, hkind]

/-- **An instruction with a shape is read again** exactly if its values fit and
    its word is not that of another shape. -/
theorem ofWord_encode_sameAs_of_kinds (hu : i.shape ≠ .unknown)
    (hk : i.operands.map Operand.kind = i.shape.kinds) :
    (ofWord i.encode).sameAs i = true ↔ ¬ i.IsAlias ∧ ∀ o ∈ i.operands, o.Fits := by
  by_cases ha : i.IsAlias
  · -- the word is read as a shape without operands
    refine iff_of_false ?_ fun h => h.1 ha
    rw [sameAs_iff, ha.1]
    rintro ⟨hshape, -⟩
    rcases ha.2 with he | he
    · rw [he] at hshape
      exact absurd hshape (by decide)
    · rw [he] at hshape
      exact absurd hshape (by decide)
  · have hcut : i.operands.map Operand.cut = i.operands ↔
        ∀ o ∈ i.operands, o.Fits := by
      nth_rewrite 2 [← List.map_id i.operands]
      rw [List.map_inj_left]
      exact forall₂_congr fun o _ => Operand.cut_eq_self_iff
    rw [ofWord_encode hu hk ha, sameAs_iff, hcut]
    exact ⟨fun h => ⟨ha, h.2⟩, fun h => ⟨rfl, h.2⟩⟩

/-- The native calls whose values fit and whose words are those of other shapes
    are two. -/
theorem isAlias_iff_of_fits (hk : i.operands.map Operand.kind = i.shape.kinds)
    (hfits : ∀ o ∈ i.operands, o.Fits) :
    i.IsAlias ↔ i.shape = .callNative ∧
      (i.operands = [⟨.address, 0x0E0⟩] ∨ i.operands = [⟨.address, 0x0EE⟩]) := by
  refine and_congr_right fun hs => ?_
  have hword : ∀ w, i.operands = [⟨.address, w⟩] ↔ i.encode = w := by
    intro w
    rw [operands_callNative hs hk hfits, List.singleton_inj, Operand.mk.injEq]
    exact and_iff_right rfl
  rw [hword, hword]

/-! ## Unknown instructions -/

/-- An unknown instruction has the word of its first operand, wherever it came
    from. -/
theorem encode_of_unknown (h : i.WellFormed) (hu : i.shape = .unknown) :
    i.encode = (i.operands.head?.map Operand.value).getD 0 := by
  have hr : i.reread.shape = .unknown := hu
  rw [← encode_reread h, encode, hr]
  rfl

/-- **An unknown instruction is read again** exactly if its one operand is a word
    that no shape claims. -/
theorem ofWord_encode_sameAs_of_unknown (h : i.WellFormed)
    (hu : i.shape = .unknown) :
    (ofWord i.encode).sameAs i = true ↔
      ∃ w, i.operands = [⟨.raw, w⟩] ∧ ¬ Rule.Claimed w := by
  have hclaimed : ∀ w, ¬ Rule.Claimed w ↔ (ofWord w).shape = .unknown := by
    intro w
    rw [Rule.claimed_iff, isUnknown, beq_eq_false_iff_ne, not_not]
  rw [sameAs_iff, hu]
  constructor
  · rintro ⟨hshape, hops⟩
    rw [operands_ofWord_of_unknown hshape] at hops
    exact ⟨i.encode, hops.symm, (hclaimed _).mpr hshape⟩
  · rintro ⟨w, hops, hw⟩
    have he : i.encode = w := by
      rw [encode_of_unknown h hu, hops]
      rfl
    have hshape := (hclaimed w).mp hw
    rw [he, operands_ofWord_of_unknown hshape]
    exact ⟨hshape, hops.symm⟩

/-! ## Every instruction -/

/-- **When decoding undoes encoding.**  An instruction that was made in any way is
    read again from its own word exactly if its values fit and it is not one of
    two native calls or, if it is unknown, its one operand is a word that no shape
    claims.  A dialect refuses none of these words but the unclaimed ones. -/
theorem ofWord_encode_sameAs_iff {d : Dialect} {r : Recipe}
    (h : (r.make d).outcome = .ok i) :
    ((ofWord i.encode).sameAs i = true ↔
      (i.isUnknown = false ∧ (∀ o ∈ i.operands, o.Fits) ∧
        ¬ (i.shape = .callNative ∧ (i.operands = [⟨.address, 0x0E0⟩] ∨
          i.operands = [⟨.address, 0x0EE⟩]))) ∨
      (i.isUnknown = true ∧
        ∃ w, i.operands = [⟨.raw, w⟩] ∧ ¬ Rule.Claimed w)) ∧
    ∀ e : Dialect, (∃ j, (e.decode i.encode).outcome = .ok j ∧ j.sameAs i = true) ↔
      (ofWord i.encode).sameAs i = true ∧ (e.strict = true → i.isUnknown = false) := by
  have hwf : i.WellFormed := wellFormed_of_make h
  constructor
  · by_cases hu : i.shape = .unknown
    · have hunknown : i.isUnknown = true := beq_iff_eq.mpr hu
      rw [ofWord_encode_sameAs_of_unknown hwf hu, hunknown]
      exact ⟨fun hw => Or.inr ⟨rfl, hw⟩, fun hw => (hw.resolve_left nofun).2⟩
    · have hk := hwf.kinds.resolve_left hu
      have hknown : i.isUnknown = false := beq_eq_false_iff_ne.mpr hu
      rw [ofWord_encode_sameAs_of_kinds hu hk, hknown]
      constructor
      · rintro ⟨ha, hfits⟩
        exact Or.inl ⟨rfl, hfits, fun hc => ha ((isAlias_iff_of_fits hk hfits).mpr hc)⟩
      · intro hc
        obtain ⟨-, hfits, hc⟩ := hc.resolve_right nofun
        exact ⟨fun ha => hc ((isAlias_iff_of_fits hk hfits).mp ha), hfits⟩
  · intro e
    constructor
    · rintro ⟨j, hj, hsame⟩
      obtain ⟨rfl, hknown⟩ := Dialect.checked_eq_ok_iff.mp hj
      exact ⟨hsame, fun he => isUnknown_congr hsame ▸ hknown he⟩
    · rintro ⟨hsame, hknown⟩
      refine ⟨_, Dialect.checked_eq_ok_iff.mpr ⟨rfl, fun he => ?_⟩, hsame⟩
      rw [isUnknown_congr hsame]
      exact hknown he

/-- A native call next to one of the two, that one, an unclaimed word, and the
    same with an operand too many. -/
theorem ofWord_encode_sameAs_iff_edge :
    (∃ i, (Recipe.make ⟨true, .reject⟩ (.line "SYS a0ef".toList)).outcome = .ok i ∧
      (ofWord i.encode).sameAs i = true) ∧
    (∃ i, (Recipe.make ⟨true, .reject⟩ (.line "SYS a0ee".toList)).outcome = .ok i ∧
      ¬ (ofWord i.encode).sameAs i = true) ∧
    (∃ i, (Recipe.make .permissive (.parts .unknown [⟨.raw, 0xFFFF⟩])).outcome
        = .ok i ∧ (ofWord i.encode).sameAs i = true ∧
      ¬ ∃ j, (Dialect.decode ⟨true, .drop⟩ i.encode).outcome = .ok j ∧
        j.sameAs i = true) ∧
    ∃ i, (Recipe.make .permissive
        (.parts .unknown [⟨.raw, 0xFFFF⟩, ⟨.nibble, 0⟩])).outcome = .ok i ∧
      ¬ (ofWord i.encode).sameAs i = true := by
  refine ⟨?_, ?_, ?_, ?_⟩
  · have h : (Recipe.make ⟨true, .reject⟩ (.line "SYS a0ef".toList)).outcome
        = .ok ⟨.callNative, [⟨.address, 0x0EF⟩], none, some "SYS a0ef".toList⟩ := by decide
    refine ⟨_, h, (ofWord_encode_sameAs_iff h).1.mpr (Or.inl ⟨rfl, ?_, ?_⟩)⟩
    · decide
    · decide
  · have h : (Recipe.make ⟨true, .reject⟩ (.line "SYS a0ee".toList)).outcome
        = .ok ⟨.callNative, [⟨.address, 0x0EE⟩], none, some "SYS a0ee".toList⟩ := by decide
    refine ⟨_, h, fun hsame => ?_⟩
    rcases (ofWord_encode_sameAs_iff h).1.mp hsame with ⟨-, -, hc⟩ | ⟨hu, -⟩
    · exact hc ⟨rfl, Or.inr rfl⟩
    · exact nomatch hu
  · have h : (Recipe.make .permissive (.parts .unknown [⟨.raw, 0xFFFF⟩])).outcome
        = .ok ⟨.unknown, [⟨.raw, 0xFFFF⟩], none, none⟩ := rfl
    obtain ⟨hiff, hdecode⟩ := ofWord_encode_sameAs_iff h
    refine ⟨_, h, hiff.mpr (Or.inr ⟨rfl, 0xFFFF, rfl, by decide⟩), ?_⟩
    rw [hdecode]
    rintro ⟨-, hknown⟩
    exact nomatch hknown rfl
  · have h : (Recipe.make .permissive
          (.parts .unknown [⟨.raw, 0xFFFF⟩, ⟨.nibble, 0⟩])).outcome
        = .ok ⟨.unknown, [⟨.raw, 0xFFFF⟩, ⟨.nibble, 0⟩], none, none⟩ := rfl
    refine ⟨_, h, fun hsame => ?_⟩
    rcases (ofWord_encode_sameAs_iff h).1.mp hsame with ⟨hu, -⟩ | ⟨-, w, hops, -⟩
    · exact nomatch hu
    · exact nomatch hops

end Chip8Assembly.Instruction
