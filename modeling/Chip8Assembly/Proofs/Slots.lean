import Chip8Assembly.Instruction

/-!
# Slots — operands laid into a word and taken out again

A slot takes up a *field* of the word.  As long as the fields of a layout lie
within the word, apart from one another and from the fixed bits, an operand
laid into its slot disturbs nothing else:

* `fill_and` — filling slots changes no bit outside their fields;
* `map_operand_fill` — every slot then holds its operand, cut to its width;
* `fill_map_operand` — what a word holds in its slots, laid back, gives the
  bits of these fields again.

`layout_sound` says that the layout of every shape is of this sort.
-/

namespace Chip8Assembly

/-- An operand whose value is cut to the width of its kind. -/
def Operand.cut (o : Operand) : Operand := ⟨o.kind, o.masked⟩

theorem Operand.masked_cut (o : Operand) : o.cut.masked = o.masked := by
  show o.value &&& o.kind.mask &&& o.kind.mask = o.value &&& o.kind.mask
  rw [BitVec.and_assoc, BitVec.and_self]

/-- The value has no more bits than the kind has. -/
def Operand.Fits (o : Operand) : Prop := o.value.toNat < 1 <<< o.kind.bits

instance (o : Operand) : Decidable o.Fits :=
  inferInstanceAs (Decidable (_ < _))

/-- Cutting keeps the low bits of the value. -/
theorem Operand.toNat_masked (o : Operand) :
    o.masked.toNat = o.value.toNat % (1 <<< o.kind.bits) := by
  have hmask : ∀ k : Kind, k.mask.toNat = 2 ^ k.bits - 1 := by
    intro k
    cases k <;> rfl
  rw [masked, BitVec.toNat_and, hmask, Nat.and_two_pow_sub_one_eq_mod,
    Nat.one_shiftLeft]

theorem Operand.fits_cut (o : Operand) : o.cut.Fits := by
  have hpos : 0 < 1 <<< o.kind.bits := by
    rw [Nat.one_shiftLeft]
    exact Nat.two_pow_pos _
  show o.masked.toNat < 1 <<< o.kind.bits
  rw [toNat_masked]
  exact Nat.mod_lt _ hpos

/-- There is nothing to cut from a value that fits. -/
theorem Operand.cut_eq_self_iff {o : Operand} : o.cut = o ↔ o.Fits := by
  constructor
  · intro h
    rw [← h]
    exact o.fits_cut
  · intro h
    have hvalue : o.masked = o.value := by
      apply BitVec.eq_of_toNat_eq
      rw [toNat_masked, Nat.mod_eq_of_lt h]
    rw [cut, hvalue]

/-! ## One slot -/

namespace Slot

/-- The bits of a word that a slot takes up. -/
def field (s : Slot) : Word := s.kind.mask <<< s.shift

/-- No bit of the field lies beyond the word. -/
def Fits (s : Slot) : Prop := s.field >>> s.shift = s.kind.mask

instance (s : Slot) : Decidable s.Fits := inferInstanceAs (Decidable (_ = _))

theorem operand_eq (s : Slot) (w : Word) :
    s.operand w = ⟨s.kind, (w >>> s.shift) &&& s.kind.mask⟩ := rfl

/-- What is read from a word has its width already. -/
theorem cut_operand (s : Slot) (w : Word) : (s.operand w).cut = s.operand w := by
  show (⟨s.kind, (w >>> s.shift) &&& s.kind.mask &&& s.kind.mask⟩ : Operand) = _
  rw [BitVec.and_assoc, BitVec.and_self, operand_eq]

theorem fits_operand (s : Slot) (w : Word) : (s.operand w).Fits := by
  rw [← cut_operand]
  exact (s.operand w).fits_cut

/-- A slot reads its own field and nothing else. -/
theorem operand_of_fits {s : Slot} (h : s.Fits) (w : Word) :
    s.operand w = ⟨s.kind, (w &&& s.field) >>> s.shift⟩ := by
  rw [operand_eq, BitVec.ushiftRight_and_distrib, h]

/-- Words that agree on the field of a slot hold the same operand there. -/
theorem operand_congr {s : Slot} (h : s.Fits) {v w : Word}
    (hvw : v &&& s.field = w &&& s.field) : s.operand v = s.operand w := by
  rw [operand_of_fits h, operand_of_fits h, hvw]

/-- An operand laid into its slot stays within the field. -/
theorem masked_shiftLeft {s : Slot} {o : Operand} (hk : o.kind = s.kind) :
    o.masked <<< s.shift = (o.value <<< s.shift) &&& s.field := by
  rw [Operand.masked, hk, BitVec.shiftLeft_and_distrib, field]

/-- An operand laid into its slot is read back, cut to its width. -/
theorem operand_masked_shiftLeft {s : Slot} (h : s.Fits) {o : Operand}
    (hk : o.kind = s.kind) : s.operand (o.masked <<< s.shift) = o.cut := by
  -- a bit of the mask is still within the word when it is shifted
  have hbit : ∀ i, s.kind.mask.getLsbD i = true → s.shift + i < 16 := by
    intro i hi
    rw [← h, BitVec.getLsbD_ushiftRight] at hi
    exact BitVec.lt_of_getLsbD hi
  have hvalue : (o.masked <<< s.shift) >>> s.shift &&& s.kind.mask = o.masked := by
    apply BitVec.eq_of_getLsbD_eq
    intro i _
    simp only [Operand.masked, hk, BitVec.getLsbD_and,
      BitVec.getLsbD_ushiftRight, BitVec.getLsbD_shiftLeft,
      Nat.add_sub_cancel_left]
    cases hm : s.kind.mask.getLsbD i with
    | false => simp only [Bool.and_false]
    | true =>
        have hlt : ¬ s.shift + i < s.shift := Nat.not_lt.mpr (Nat.le_add_right ..)
        simp [hbit i hm, hlt]
  rw [operand_eq, hvalue, ← hk, Operand.cut]

/-- What a word holds in a slot, laid back into it, is the field of the word. -/
theorem operand_shiftLeft (s : Slot) (w : Word) :
    (s.operand w).masked <<< s.shift = w &&& s.field := by
  apply BitVec.eq_of_getLsbD_eq
  intro i hi
  rw [← cut_operand, Operand.masked_cut, operand_eq, Operand.masked, field]
  simp only [BitVec.getLsbD_shiftLeft, BitVec.getLsbD_and, BitVec.getLsbD_ushiftRight]
  by_cases hlt : i < s.shift
  · simp [hlt]
  · simp [hlt, hi, Nat.add_sub_cancel' (Nat.le_of_not_lt hlt)]

end Slot

/-! ## All the slots of a word -/

/-- The bits of a word that a list of slots takes up. -/
def Slot.fields (slots : List Slot) : Word :=
  slots.foldr (fun s bits => s.field ||| bits) 0#16

namespace Instruction

theorem fill_cons (base : Word) (o : Operand) (os : List Operand) (s : Slot)
    (slots : List Slot) :
    fill base (o :: os) (s :: slots)
      = fill (base ||| o.masked <<< s.shift) os slots := rfl

/-- **Filling slots changes no bit outside their fields.** -/
theorem fill_and {m : Word} {slots : List Slot}
    (hm : ∀ s ∈ slots, s.field &&& m = 0#16) :
    ∀ (base : Word) (os : List Operand),
      os.map Operand.kind = slots.map Slot.kind →
      fill base os slots &&& m = base &&& m := by
  induction slots with
  | nil =>
      intro base os hk
      obtain rfl : os = [] := List.map_eq_nil_iff.mp hk
      rfl
  | cons s slots ih =>
      intro base os hk
      cases os with
      | nil => exact nomatch hk
      | cons o os =>
          obtain ⟨hks, hko⟩ := List.cons.inj hk
          have hs : s.field &&& m = 0#16 := hm s List.mem_cons_self
          have hrest : ∀ t ∈ slots, t.field &&& m = 0#16 :=
            fun t ht => hm t (List.mem_cons_of_mem s ht)
          rw [fill_cons, ih hrest _ os hko, BitVec.and_or_distrib_right,
            Slot.masked_shiftLeft hks, BitVec.and_assoc, hs, BitVec.and_zero,
            BitVec.or_zero]

/-- **Every slot then holds its operand**, cut to its width, if the fields of
    the slots lie apart. -/
theorem map_operand_fill {slots : List Slot} (hfits : ∀ s ∈ slots, s.Fits)
    (hapart : slots.Pairwise fun s t => t.field &&& s.field = 0#16) :
    ∀ (base : Word) (os : List Operand),
      (∀ s ∈ slots, base &&& s.field = 0#16) →
      os.map Operand.kind = slots.map Slot.kind →
      slots.map (·.operand (fill base os slots)) = os.map Operand.cut := by
  induction hapart with
  | nil =>
      intro base os _ hk
      obtain rfl : os = [] := List.map_eq_nil_iff.mp hk
      rfl
  | @cons s slots hs _ ih =>
      intro base os hbase hk
      cases os with
      | nil => exact nomatch hk
      | cons o os =>
          obtain ⟨hks, hko⟩ := List.cons.inj hk
          have hfs : s.Fits := hfits s List.mem_cons_self
          -- the operand is alone in its field, and no later one reaches it
          have hlaid : (base ||| o.masked <<< s.shift) &&& s.field
              = o.masked <<< s.shift &&& s.field := by
            rw [BitVec.and_or_distrib_right, hbase s List.mem_cons_self,
              BitVec.zero_or]
          have hhead : s.operand (fill base (o :: os) (s :: slots)) = o.cut := by
            rw [← Slot.operand_masked_shiftLeft hfs hks]
            refine Slot.operand_congr hfs ?_
            rw [fill_cons, fill_and hs _ os hko, hlaid]
          -- the slots that are left find their fields empty
          have hrest : ∀ t ∈ slots,
              (base ||| o.masked <<< s.shift) &&& t.field = 0#16 := by
            intro t ht
            have hts : s.field &&& t.field = 0#16 := by
              rw [BitVec.and_comm]; exact hs t ht
            rw [BitVec.and_or_distrib_right, Slot.masked_shiftLeft hks,
              BitVec.and_assoc, hts, BitVec.and_zero, BitVec.or_zero]
            exact hbase t (List.mem_cons_of_mem s ht)
          rw [List.map_cons, List.map_cons, hhead, fill_cons,
            ih (fun t ht => hfits t (List.mem_cons_of_mem s ht)) _ os hrest hko]

/-- **What a word holds in its slots, laid back,** gives the bits of their
    fields again. -/
theorem fill_map_operand (w : Word) (slots : List Slot) :
    ∀ base, fill base (slots.map (·.operand w)) slots
      = base ||| (w &&& Slot.fields slots) := by
  induction slots with
  | nil =>
      intro base
      show base = base ||| (w &&& 0#16)
      rw [BitVec.and_zero, BitVec.or_zero]
  | cons s slots ih =>
      intro base
      show fill base (s.operand w :: slots.map (·.operand w)) (s :: slots)
        = base ||| (w &&& (s.field ||| Slot.fields slots))
      rw [fill_cons, ih, Slot.operand_shiftLeft, BitVec.and_or_distrib_left,
        BitVec.or_assoc]

end Instruction

/-! ## The layouts of the shapes -/

/-- The slots of a layout lie within the word, apart from one another and from
    the fixed bits. -/
structure Shape.Layout.Sound (l : Shape.Layout) : Prop where
  fits : ∀ s ∈ l.slots, s.Fits
  base : ∀ s ∈ l.slots, l.base &&& s.field = 0#16
  apart : l.slots.Pairwise fun s t => t.field &&& s.field = 0#16

/-- **Every layout is sound.** -/
theorem Shape.layout_sound (s : Shape) : s.layout.Sound := by
  have hfits : ∀ s ∈ all, ∀ t ∈ s.layout.slots, t.Fits := by decide
  have hbase : ∀ s ∈ all, ∀ t ∈ s.layout.slots,
      s.layout.base &&& t.field = 0#16 := by decide
  have hapart : ∀ s ∈ all,
      s.layout.slots.Pairwise fun s t => t.field &&& s.field = 0#16 := by decide
  have hs := mem_all s
  exact ⟨hfits s hs, hbase s hs, hapart s hs⟩

end Chip8Assembly
