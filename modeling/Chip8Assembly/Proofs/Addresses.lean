import Chip8Assembly.Address
import Chip8Assembly.Proofs.Digits
import Chip8Assembly.Proofs.Fields

/-!
# Addresses — which texts are read, and as what

A text *denotes* a number by a sign or none and by digits, of which there may be
any number.  It denotes an address if, behind a mark, it denotes a number in
hexadecimal, or if it has no mark and denotes one in decimal; the number must not
be too large for an address.  Nothing is read to say so.

`Address.read_exact` says that these texts, with blanks around them or without,
are the ones that are read.  What is written for an address, in whatever width or
radix, denotes it, so it is read back.
-/

namespace Chip8Assembly

open Numeral

/-! ## Numbers -/

namespace Numeral

variable {radix limit : Nat}

/-- A text for a number within a limit: a sign or none, and the digits of the
    number. -/
def Denotes (radix limit : Nat) (t : Text) (n : Nat) : Prop :=
  ∃ sign ∈ signs, ∃ ds, t = sign ++ ds ∧ IsNumber radix limit ds ∧ n = value radix ds

/-- **A numeral is read as the number that it denotes,** and nothing else is
    read. -/
theorem read_eq_ok_iff_denotes (hpos : 0 < radix) (hr : radix ≤ 16) {t : Text}
    {n : Nat} : read radix limit t = .ok n ↔ Denotes radix limit t n := by
  rw [read_eq_ok_iff hpos hr]
  constructor
  · rintro ⟨hnumber, hn⟩
    obtain ⟨sign, hsign, ht⟩ := exists_sign t
    exact ⟨sign, hsign, unsigned t, ht, hnumber, hn⟩
  · rintro ⟨sign, hsign, ds, rfl, hnumber, hn⟩
    have hplus : isDigit radix '+' = false :=
      decide_eq_false (Nat.not_lt.mpr hr)
    rw [unsigned_append hsign (not_mem_of_isDigit hnumber.only_digits hplus)]
    exact ⟨hnumber, hn⟩

/-! ### Marks and blanks -/

/-- The second character of a mark is no decimal digit. -/
theorem not_mark_prefix_decimal (n : Nat) : ∀ mark ∈ marks, ¬ mark <+: decimal n := by
  intro mark hmark hstarts
  rcases List.mem_pair.mp hmark with rfl | rfl
  · exact not_mem_decimal (by decide) n (hstarts.subset (by decide : 'x' ∈ ['0', 'x']))
  · exact not_mem_decimal (by decide) n (hstarts.subset (by decide : 'X' ∈ ['0', 'X']))

/-- No digit is blank. -/
theorem not_isBlank_of_isDigit (hr : radix ≤ 16) {c : Char}
    (h : isDigit radix c = true) : Text.isBlank c = false := by
  have hworth : worth c < 16 := Nat.lt_of_lt_of_le (of_decide_eq_true h) hr
  clear h
  induction c using char_induction with
  | ascii n hn =>
      revert n
      decide +kernel
  | beyond c hc _ => exact absurd hworth (not_worth_lt_of_beyond hc)

/-- What denotes a number has no blanks in it. -/
theorem Denotes.no_blank (hr : radix ≤ 16) {t : Text} {n : Nat}
    (h : Denotes radix limit t n) : ∀ c ∈ t, Text.isBlank c = false := by
  obtain ⟨sign, hsign, ds, rfl, hnumber, -⟩ := h
  have hblank : ∀ c ∈ sign, Text.isBlank c = false := by
    rcases List.mem_pair.mp hsign with rfl | rfl
    · exact List.forall_mem_nil _
    · exact List.forall_mem_singleton.mpr (by decide)
  exact List.forall_mem_append.mpr
    ⟨hblank, fun c hc => not_isBlank_of_isDigit hr (hnumber.only_digits c hc)⟩

end Numeral

/-! ## Addresses -/

namespace Address

variable {t core before after : Text} {n : Nat}

/-- A text for an address. -/
inductive Denotes (t : Text) (n : Nat) : Prop where
  /-- A mark, and behind it a number in hexadecimal. -/
  | marked {mark number : Text} (hmark : mark ∈ marks) (ht : t = mark ++ number)
      (hnumber : Numeral.Denotes 16 largest number n) : Denotes t n
  /-- No mark, and a number in decimal. -/
  | unmarked (hmark : ∀ mark ∈ marks, ¬ mark <+: t)
      (hnumber : Numeral.Denotes 10 largest t n) : Denotes t n

/-- What denotes an address has no blanks in it. -/
theorem Denotes.no_blank (h : Denotes t n) : ∀ c ∈ t, Text.isBlank c = false := by
  have hmarks : ∀ mark ∈ marks, Text.IsToken mark := by decide
  cases h with
  | marked hmark ht hnumber =>
      rw [ht]
      exact List.forall_mem_append.mpr
        ⟨(hmarks _ hmark).no_blank, hnumber.no_blank (Nat.le_refl 16)⟩
  | unmarked _ hnumber => exact hnumber.no_blank (by decide)

/-- **A text is read as the address that it denotes** when it is trimmed. -/
theorem read_eq_ok_iff_denotes : read t = .ok n ↔ Denotes (Text.trim t) n := by
  cases hmark : afterHexMark? (Text.trim t) with
  | some number =>
      obtain ⟨mark, hmem, ht⟩ := afterHexMark?_eq_some_iff.mp hmark
      have hread : read t = Numeral.read 16 largest number := by
        simp only [read, hmark]
      rw [hread, Numeral.read_eq_ok_iff_denotes (by decide) (by decide)]
      constructor
      · exact .marked hmem ht
      · intro h
        cases h with
        | marked hmem' ht' hnumber =>
            -- the reader takes off the mark that the text has
            have hmark' := afterHexMark?_eq_some_iff.mpr ⟨_, hmem', ht'⟩
            obtain rfl := Option.some.inj (hmark.symm.trans hmark')
            exact hnumber
        | unmarked hnone _ => exact absurd ⟨number, ht.symm⟩ (hnone mark hmem)
  | none =>
      have hnone := afterHexMark?_eq_none_iff.mp hmark
      have hread : read t = Numeral.read 10 largest (Text.trim t) := by
        simp only [read, hmark]
      rw [hread, Numeral.read_eq_ok_iff_denotes (by decide) (by decide)]
      constructor
      · exact .unmarked hnone
      · intro h
        cases h with
        | marked hmem ht _ => exact absurd ⟨_, ht.symm⟩ (hnone _ hmem)
        | unmarked _ hnumber => exact hnumber

/-- **Blanks around an address** are passed over. -/
theorem Denotes.read_between (h : Denotes core n)
    (hblank : ∀ c ∈ before ++ after, Text.isBlank c = true) :
    read (before ++ (core ++ after)) = .ok n := by
  rw [read_eq_ok_iff_denotes, (Text.IsTrimmed.of_no_blank rfl hblank h.no_blank).trim_eq]
  exact h

/-- What is written in hexadecimal denotes the address, to whatever width it is
    padded. -/
theorem denotes_hex (width : Nat) (h : n ≤ largest) :
    Denotes (Numeral.hex width n) n := by
  have hread : Numeral.read 16 largest (hexDigits width n) = .ok n :=
    read_hexDigits width h
  have hmark : ['0', 'x'] ∈ marks := List.mem_cons_self
  exact .marked hmark rfl
    ((Numeral.read_eq_ok_iff_denotes (by decide) (by decide)).mp hread)

theorem denotes_decimal (h : n ≤ largest) : Denotes (Numeral.decimal n) n :=
  .unmarked (not_mark_prefix_decimal n)
    ((Numeral.read_eq_ok_iff_denotes (by decide) (by decide)).mp (read_decimal h))

/-- **Which texts are read as addresses.**  Without the blanks at its ends, a text
    has to denote an address, in hexadecimal behind a mark or in decimal without
    one, and it is read as that address; any other text is refused.  In particular
    an address is read back, with blanks around it or without, if it was written in
    hexadecimal with at least four digits or with as many as it needs, or in
    decimal. -/
theorem read_exact :
    (∀ t : Text, Text.IsTrimmed t (Text.trim t) ∧
      (∀ n, read t = .ok n ↔ Denotes (Text.trim t) n) ∧
      ((∃ fault, read t = .error fault) ↔ ∀ n, ¬ Denotes (Text.trim t) n)) ∧
    ∀ n ≤ largest, ∀ core ∈ [render n, Numeral.hex 1 n, Numeral.decimal n],
      ∀ before after : Text, (∀ c ∈ before ++ after, Text.isBlank c = true) →
        read (before ++ (core ++ after)) = .ok n := by
  constructor
  · intro t
    refine ⟨Text.isTrimmed_trim t, fun n => read_eq_ok_iff_denotes, ?_⟩
    simp only [← read_eq_ok_iff_denotes]
    cases read t with
    | ok n => exact ⟨nofun, fun h => absurd rfl (h n)⟩
    | error fault => exact ⟨fun _ => nofun, fun _ => ⟨fault, rfl⟩⟩
  · intro n hn core hcore before after hblank
    have hdenotes : Denotes core n := by
      simp only [List.mem_cons, List.not_mem_nil, or_false] at hcore
      rcases hcore with rfl | rfl | rfl
      · exact denotes_hex 4 hn
      · exact denotes_hex 1 hn
      · exact denotes_decimal hn
    exact hdenotes.read_between hblank

/-- The largest address behind a mark, a sign and forty zeros, the number after it,
    a sign in front of a mark, and an address of five digits between blanks. -/
theorem read_exact_mixed :
    read ("\u3000\t0X+".toList ++ List.replicate 40 '0' ++ "fFfFffff\u00a0\n".toList)
      = .ok 0xFFFFFFFF ∧
    (∀ n, ¬ Denotes (Text.trim "4294967296 ".toList) n) ∧
    (∀ n, ¬ Denotes (Text.trim "+0x1".toList) n) ∧
    read ("\u2029 ".toList ++ (render 0x10000 ++ ['\r'])) = .ok 0x10000 := by
  obtain ⟨hread, hback⟩ := read_exact
  refine ⟨?_, ?_, ?_, ?_⟩
  · obtain ⟨-, hiff, -⟩ := hread
      ("\u3000\t0X+".toList ++ List.replicate 40 '0' ++ "fFfFffff\u00a0\n".toList)
    have hmark : ['0', 'X'] ∈ marks := by decide
    have hnumber : IsNumber 16 largest (List.replicate 40 '0' ++ "fFfFffff".toList) := by
      decide
    exact (hiff 0xFFFFFFFF).mpr (.marked hmark (by decide)
      ⟨['+'], by decide, _, rfl, hnumber, by decide⟩)
  · exact (hread "4294967296 ".toList).2.2.mp ⟨.tooLarge, rfl⟩
  · exact (hread "+0x1".toList).2.2.mp ⟨.invalidDigit, rfl⟩
  · exact hback 0x10000 (by decide) _ List.mem_cons_self _ _
      (List.all_eq_true.mp (by decide))

end Address

end Chip8Assembly
