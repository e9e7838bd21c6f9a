import Chip8Assembly.Proofs.Digits
import Chip8Assembly.Proofs.Outcomes

/-!
# Tokens — which fields are operands, and what is wrong with the others

A field is an operand if it starts with the letter of a kind and goes on with a
number that a word has room for.  The number may have a mark and a sign, in that
order, and nothing else.

`read?_exact` settles all fields.  One that starts with no letter of a kind is
no operand; any other that is not one is faulty in exactly one of three ways, and
the fault of a line names the field.
-/

namespace Chip8Assembly

open Numeral

/-! ## The letters of the kinds -/

namespace Kind

/-- The letter of a kind in either case. -/
def letters (k : Kind) : List Char := [k.letter, k.letter.toUpper]

/-- **A letter names the kind that has it,** in either case. -/
theorem ofLetter?_eq_some_iff {c : Char} {k : Kind} :
    ofLetter? c = some k ↔ c ∈ k.letters := by
  induction c using char_induction with
  | ascii n hn =>
      revert n
      cases k <;> decide +kernel
  | beyond c h hlower =>
      have hletters : (k.letter :: k.letters).all (·.toNat < 128) = true := by
        cases k <;> rfl
      have hmem : c ∉ k.letter :: k.letters := not_mem_of_beyond h hletters
      constructor
      · intro hc
        have hletter := List.find?_some hc
        rw [hlower, beq_iff_eq] at hletter
        exact absurd (hletter ▸ List.mem_cons_self) hmem
      · intro hc
        exact absurd (List.mem_cons_of_mem _ hc) hmem

/-- All other characters name no kind. -/
theorem ofLetter?_eq_none_iff {c : Char} :
    ofLetter? c = none ↔ ∀ k : Kind, c ∉ k.letters := by
  rw [Option.eq_none_iff_forall_ne_some]
  exact forall_congr' fun k => not_congr ofLetter?_eq_some_iff

end Kind

/-! ## The number behind the letter -/

namespace Operand

variable {rest : Text}

theorem readValue_eq (rest : Text) :
    readValue rest = (read 16 0xFFFF (unmarked rest)).map (BitVec.ofNat 16) := by
  rw [readValue, getD_afterHexMark?]

/-- A word has room for the number. -/
theorem toNat_ofNat_of_isNumber {t : Text} (h : IsNumber 16 0xFFFF t) :
    (BitVec.ofNat 16 (Numeral.value 16 t)).toNat = Numeral.value 16 t := by
  rw [BitVec.toNat_ofNat, Nat.mod_eq_of_lt (Nat.lt_succ_of_le h.le)]

/-- **A value is read from a number within a word,** and is that number. -/
theorem readValue_eq_ok_iff {w : Word} :
    readValue rest = .ok w ↔
      IsNumber 16 0xFFFF (bare rest) ∧ w.toNat = Numeral.value 16 (bare rest) := by
  rw [readValue_eq, map_eq_ok_iff]
  constructor
  · rintro ⟨n, hn, rfl⟩
    obtain ⟨hnumber, rfl⟩ := (read_eq_ok_iff (by decide) (by decide)).mp hn
    exact ⟨hnumber, toNat_ofNat_of_isNumber hnumber⟩
  · rintro ⟨hnumber, hw⟩
    refine ⟨w.toNat, (read_eq_ok_iff (by decide) (by decide)).mpr ⟨hnumber, hw⟩, ?_⟩
    rw [BitVec.ofNat_toNat, BitVec.setWidth_eq]

/-! ## Whole fields -/

theorem read?_cons_of_none {c : Char} (hc : Kind.ofLetter? c = none) (rest : Text) :
    read? (c :: rest) = .ok none := by
  rw [read?, hc]

theorem read?_cons {kind : Kind} {c : Char} (hc : c ∈ kind.letters) (rest : Text) :
    read? (c :: rest) = (readValue rest).map fun v => some ⟨kind, v⟩ := by
  rw [read?, Kind.ofLetter?_eq_some_iff.mpr hc]

theorem read?_cons_eq_ok_iff {kind : Kind} {c : Char} (hc : c ∈ kind.letters)
    {o : Operand} :
    read? (c :: rest) = .ok (some o) ↔
      o.kind = kind ∧ readValue rest = .ok o.value := by
  rw [read?_cons hc, map_eq_ok_iff]
  constructor
  · rintro ⟨v, hv, ho⟩
    obtain rfl := Option.some.inj ho
    exact ⟨rfl, hv⟩
  · rintro ⟨rfl, hv⟩
    exact ⟨o.value, hv, rfl⟩

/-- What is wrong with a field is wrong with its digits. -/
theorem read?_cons_eq_error_iff {kind : Kind} {c : Char} (hc : c ∈ kind.letters)
    {cause : NumeralFault} :
    read? (c :: rest) = .error cause ↔
      read 16 0xFFFF (unmarked rest) = .error cause := by
  rw [read?_cons hc, map_eq_error_iff, readValue_eq, map_eq_error_iff]

/-- A field is an operand if it starts with the letter of the kind and goes on
    with the value. -/
theorem read?_eq_ok_some_iff {token : Text} {o : Operand} :
    read? token = .ok (some o) ↔
      ∃ c ∈ o.kind.letters, ∃ rest, token = c :: rest ∧
        readValue rest = .ok o.value := by
  constructor
  · intro h
    cases token with
    | nil => simp [read?] at h
    | cons c rest =>
        cases hc : Kind.ofLetter? c with
        | none => simp [read?_cons_of_none hc] at h
        | some kind =>
            have hmem : c ∈ kind.letters := Kind.ofLetter?_eq_some_iff.mp hc
            obtain ⟨rfl, hvalue⟩ := (read?_cons_eq_ok_iff hmem).mp h
            exact ⟨c, hmem, rest, rfl, hvalue⟩
  · rintro ⟨c, hc, rest, rfl, hvalue⟩
    exact (read?_cons_eq_ok_iff hc).mpr ⟨rfl, hvalue⟩

/-- **What starts with no letter of a kind is no operand,** and nothing else is
    passed by. -/
theorem read?_eq_ok_none_iff {token : Text} :
    read? token = .ok none ↔ ∀ c ∈ token.head?, ∀ k : Kind, c ∉ k.letters := by
  cases token with
  | nil => simp [read?]
  | cons c rest =>
      have hhead : (∀ d ∈ (c :: rest).head?, ∀ k : Kind, d ∉ k.letters) ↔
          Kind.ofLetter? c = none := by
        rw [Kind.ofLetter?_eq_none_iff, List.head?_cons]
        simp only [Option.mem_def, Option.some.injEq, forall_eq']
      rw [hhead]
      cases hc : Kind.ofLetter? c with
      | none => exact iff_of_true (read?_cons_of_none hc rest) rfl
      | some kind =>
          -- with the letter of a kind there is a value or a fault
          simp [read?_cons (Kind.ofLetter?_eq_some_iff.mp hc), map_eq_ok_iff]

/-! ## The fields of a line -/

/-- A line is faulty with the field that no number follows in, and says what is
    wrong with it. -/
theorem outcome_readOperand_malformed_iff {policy : LetterPolicy}
    {token t : Text} {cause : NumeralFault} :
    (Statement.readOperand policy token).outcome = .error (.malformedOperand t cause)
      ↔ t = token ∧ read? token = .error cause := by
  cases hread : read? token with
  | error fault =>
      rw [Statement.readOperand_of_fault hread]
      constructor
      · intro h
        obtain ⟨rfl, rfl⟩ := Fault.malformedOperand.inj (Except.error.inj h)
        exact ⟨rfl, rfl⟩
      · rintro ⟨rfl, h⟩
        obtain rfl := Except.error.inj h
        rfl
  | ok found =>
      cases found with
      | some operand => simp [Statement.readOperand_of_operand hread]
      | none =>
          cases policy with
          | drop => simp [Statement.readOperand_drop hread]
          | reject => simp [Statement.readOperand_reject hread]

/-- **Case is of no account** to what a field is read as. -/
theorem read?_map_toLower (token : Text) :
    read? (token.map Char.toLower) = read? token := by
  cases token with
  | nil => rfl
  | cons c rest =>
      have hletter : Kind.ofLetter? c.toLower = Kind.ofLetter? c := by
        rw [Kind.ofLetter?, toLower_toLower, Kind.ofLetter?]
      have hvalue : readValue (rest.map Char.toLower) = readValue rest := by
        rw [readValue_eq, readValue_eq, unmarked_map_toLower,
          read_map_toLower (by decide) (by decide)]
      rw [List.map_cons, read?, read?, hletter, hvalue]

/-- Zeros in front of a number change nothing, with a mark or without. -/
theorem read?_replicate_zero {kind : Kind} {c : Char} (hc : c ∈ kind.letters)
    (hnumber : IsNumber 16 0xFFFF (bare rest)) {mark : Text}
    (hmark : mark ∈ [] :: marks) (n : Nat) :
    read? (c :: (mark ++ (List.replicate n '0' ++ bare rest))) = read? (c :: rest) := by
  have hdigits : ∀ d ∈ List.replicate n '0' ++ bare rest, isDigit 16 d = true := by
    intro d hd
    rcases List.mem_append.mp hd with hd | hd
    · rw [List.eq_of_mem_replicate hd]
      decide
    · exact hnumber.only_digits d hd
  have hsign : [] ∈ signs := List.mem_cons_self
  have hbare : bare (mark ++ (List.replicate n '0' ++ bare rest))
      = List.replicate n '0' ++ bare rest := bare_append hmark hsign hdigits
  have hvalue := value_replicate_zero_append 16 n (bare rest)
  have hpadded : IsNumber 16 0xFFFF (List.replicate n '0' ++ bare rest) :=
    ⟨List.append_ne_nil_of_right_ne_nil _ hnumber.ne_nil, hdigits,
      hvalue ▸ hnumber.le⟩
  have hword := toNat_ofNat_of_isNumber hnumber
  rw [read?_cons hc, read?_cons hc, readValue_eq_ok_iff.mpr ⟨hnumber, hword⟩]
  refine congrArg _ (readValue_eq_ok_iff.mpr ?_)
  rw [hbare, hvalue]
  exact ⟨hpadded, hword⟩

/-- **What every field is read as.**  It is no operand if it starts with no
    letter of a kind.  Otherwise it is the operand of that kind with the number
    behind the mark and the sign, if these are digits for a number within a word;
    zeros in front of them and the case of letters are of no account.  If not,
    it is empty, too large or invalid, and a line is faulty with just that. -/
theorem read?_exact (token : Text) :
    (read? token = .ok none ↔ ∀ c ∈ token.head?, ∀ k : Kind, c ∉ k.letters) ∧
    (∀ (kind : Kind) (c : Char) (rest : Text), c ∈ kind.letters →
      token = c :: rest →
      (∀ o, read? token = .ok (some o) ↔
        IsNumber 16 0xFFFF (bare rest) ∧
          o.kind = kind ∧ o.value.toNat = Numeral.value 16 (bare rest)) ∧
      (read? token = .error .empty ↔ unmarked rest = []) ∧
      (read? token = .error .tooLarge ↔
        0xFFFF < Numeral.value 16 (leadingDigits 16 (bare rest))) ∧
      (read? token = .error .invalidDigit ↔
        ¬ IsNumber 16 0xFFFF (bare rest) ∧ unmarked rest ≠ [] ∧
          Numeral.value 16 (leadingDigits 16 (bare rest)) ≤ 0xFFFF) ∧
      (IsNumber 16 0xFFFF (bare rest) → ∀ mark ∈ [] :: marks, ∀ n,
        read? (c :: (mark ++ (List.replicate n '0' ++ bare rest))) = read? token)) ∧
    (∀ policy t cause,
      (Statement.readOperand policy token).outcome
          = .error (.malformedOperand t cause) ↔
        t = token ∧ read? token = .error cause) ∧
    read? (token.map Char.toLower) = read? token := by
  refine ⟨read?_eq_ok_none_iff, ?_, fun _ _ _ => outcome_readOperand_malformed_iff,
    read?_map_toLower token⟩
  rintro kind c rest hc rfl
  refine ⟨fun o => ?_, ?_, ?_, ?_, ?_⟩
  · rw [read?_cons_eq_ok_iff hc, readValue_eq_ok_iff]
    exact and_left_comm
  · rw [read?_cons_eq_error_iff hc, read_eq_empty_iff (by decide) (by decide)]
  · rw [read?_cons_eq_error_iff hc, read_eq_tooLarge_iff (by decide) (by decide), bare]
  · rw [read?_cons_eq_error_iff hc, read_eq_invalidDigit_iff (by decide) (by decide),
      bare]
  · intro hnumber mark hmark n
    exact read?_replicate_zero hc hnumber hmark n

/-- A sign behind a mark, a digit too much in front of what is none, a sign in
    front of a mark, a mark alone, and a letter of no kind. -/
theorem read?_exact_mixed :
    read? "V0x+00fF".toList = .ok (some ⟨.register, 255⟩) ∧
    read? "r0x10000g".toList = .error .tooLarge ∧
    read? "n+0x1".toList = .error .invalidDigit ∧
    read? "C0X".toList = .error .empty ∧
    read? "q12".toList = .ok none := by
  refine ⟨?_, ?_, ?_, ?_, ?_⟩
  · have h := (read?_exact "V0x+00fF".toList).2.1 .register 'V' "0x+00fF".toList
      (by decide) rfl
    exact (h.1 _).mpr ⟨by decide, rfl, by decide⟩
  · have h := (read?_exact "r0x10000g".toList).2.1 .raw 'r' "0x10000g".toList
      (by decide) rfl
    exact h.2.2.1.mpr (by decide)
  · have h := (read?_exact "n+0x1".toList).2.1 .nibble 'n' "+0x1".toList
      (by decide) rfl
    exact h.2.2.2.1.mpr ⟨by decide, by decide, by decide⟩
  · have h := (read?_exact "C0X".toList).2.1 .constant 'C' "0X".toList
      (by decide) rfl
    exact h.2.1.mpr (by decide)
  · refine (read?_exact "q12".toList).1.mpr ?_
    intro c hc k
    obtain rfl : 'q' = c := Option.some.inj hc
    cases k <;> decide

end Operand

end Chip8Assembly
