import Chip8Assembly.Operand

/-!
# Numerals — what is written is read back

A number written in a radix of at most sixteen is read back within every limit
that it does not pass, with any number of zeros in front:

* `readDigits_toDigits` — its digits alone;
* `read_hexDigits` — its hexadecimal digits, padded to any width;
* `read_decimal` — its decimal digits;
* `Operand.read?_render` — a token, and with it the kind of its operand.
-/

namespace Chip8Assembly

namespace Numeral

/-- Every digit is read as its value. -/
theorem digit?_digitChar {radix d : Nat} (hr : radix ≤ 16) (hd : d < radix) :
    digit? radix (Nat.digitChar d) = some d := by
  have hvalue : ∀ d < 16, digitValue? (Nat.digitChar d) = some d := by decide
  rw [digit?, hvalue d (Nat.lt_of_lt_of_le hd hr), Option.filter_some,
    if_pos (decide_eq_true hd)]

/-- Reading goes on from the number read so far. -/
theorem readDigits_append (radix limit : Nat) (ds es : Text) :
    ∀ n, readDigits radix limit n (ds ++ es)
      = (readDigits radix limit n ds).bind
          fun m => readDigits radix limit m es := by
  induction ds with
  | nil => intro n; rfl
  | cons c ds ih =>
      intro n
      rw [List.cons_append, readDigits, readDigits]
      cases digit? radix c with
      | none => rfl
      | some d =>
          by_cases hle : n * radix + d ≤ limit
          · simp only [if_pos hle]; exact ih _
          · simp only [if_neg hle]; rfl

/-- One more digit. -/
theorem readDigits_digitChar {radix limit d : Nat} (hr : radix ≤ 16)
    (hd : d < radix) (n : Nat) (hle : n * radix + d ≤ limit) :
    readDigits radix limit n [Nat.digitChar d] = .ok (n * radix + d) := by
  rw [readDigits, digit?_digitChar hr hd]
  exact if_pos hle

/-- **The digits of a number are read back,** if it does not pass the
    limit. -/
theorem readDigits_toDigits {radix limit : Nat} (hb : 1 < radix)
    (hr : radix ≤ 16) :
    ∀ n ≤ limit, readDigits radix limit 0 (Nat.toDigits radix n) = .ok n := by
  intro n
  induction n using Nat.strongRecOn with
  | ind n ih =>
      intro hn
      by_cases hlt : n < radix
      · rw [Nat.toDigits_of_lt_base hlt,
          readDigits_digitChar hr hlt 0 (by omega), Nat.zero_mul, Nat.zero_add]
      · have hge : radix ≤ n := Nat.le_of_not_lt hlt
        have hsmall : n / radix < n := Nat.div_lt_self (by omega) hb
        have hmod : n % radix < radix := Nat.mod_lt n (by omega)
        have hsum : n / radix * radix + n % radix = n := by
          rw [Nat.mul_comm]; exact Nat.div_add_mod n radix
        -- the last digit is read onto the number of those before it
        rw [Nat.toDigits_of_base_le hb hge, readDigits_append,
          ih _ hsmall (by omega)]
        show readDigits radix limit (n / radix) [Nat.digitChar (n % radix)] = _
        rw [readDigits_digitChar hr hmod _ (by omega), hsum]

/-- Zeros in front of a number change nothing. -/
theorem readDigits_replicate_zero (radix limit : Nat) (hr : 0 < radix)
    (k : Nat) (ds : Text) :
    readDigits radix limit 0 (List.replicate k '0' ++ ds)
      = readDigits radix limit 0 ds := by
  induction k with
  | zero => rfl
  | succ k ih =>
      have hzero : digit? radix '0' = some 0 := by
        rw [digit?, show digitValue? '0' = some 0 from rfl, Option.filter_some,
          if_pos (decide_eq_true hr)]
      rw [List.replicate_succ, List.cons_append, readDigits, hzero]
      simp only [Nat.zero_mul, Nat.add_zero, Nat.zero_le, if_true]
      exact ih

/-- Digits without a sign are a numeral. -/
theorem read_eq_readDigits (radix limit : Nat) {ds : Text} (hne : ds ≠ [])
    (hsign : '+' ∉ ds) : read radix limit ds = readDigits radix limit 0 ds := by
  unfold read
  split
  · contradiction
  · exact absurd List.mem_cons_self hsign
  · exact absurd List.mem_cons_self hsign
  · rfl

/-! ## Hexadecimal digits -/

/-- The digits of a number are digits of the radix. -/
theorem mem_toDigits {radix : Nat} (hb : 1 < radix) {c : Char} :
    ∀ n, c ∈ Nat.toDigits radix n → ∃ d < radix, c = Nat.digitChar d := by
  intro n
  induction n using Nat.strongRecOn with
  | ind n ih =>
      intro hc
      by_cases hlt : n < radix
      · rw [Nat.toDigits_of_lt_base hlt, List.mem_singleton] at hc
        exact ⟨n, hlt, hc⟩
      · have hge : radix ≤ n := Nat.le_of_not_lt hlt
        have hsmall : n / radix < n := Nat.div_lt_self (by omega) hb
        rw [Nat.toDigits_of_base_le hb hge, List.mem_append] at hc
        rcases hc with hc | hc
        · exact ih _ hsmall hc
        · exact ⟨n % radix, Nat.mod_lt n (by omega), List.mem_singleton.mp hc⟩

/-- What is written for a number in hexadecimal consists of digits. -/
theorem mem_hexDigits {width n : Nat} {c : Char} (hc : c ∈ hexDigits width n) :
    ∃ d < 16, c = Nat.digitChar d := by
  rcases List.mem_append.mp hc with hc | hc
  · exact ⟨0, by decide, List.eq_of_mem_replicate hc⟩
  · exact mem_toDigits (by decide) n hc

/-- What is no digit is not written. -/
theorem not_mem_hexDigits {width n : Nat} {c : Char}
    (hc : ∀ d < 16, c ≠ Nat.digitChar d) : c ∉ hexDigits width n := by
  intro hmem
  obtain ⟨d, hd, h⟩ := mem_hexDigits hmem
  exact hc d hd h

theorem hexDigits_ne_nil (width n : Nat) : hexDigits width n ≠ [] :=
  List.append_ne_nil_of_right_ne_nil _ Nat.toDigits_ne_nil

/-- **A number written in hexadecimal is read back,** to whatever width it is
    padded. -/
theorem read_hexDigits (width : Nat) {n limit : Nat} (h : n ≤ limit) :
    read 16 limit (hexDigits width n) = .ok n := by
  have hsign : '+' ∉ hexDigits width n := not_mem_hexDigits (by decide)
  rw [read_eq_readDigits 16 limit (hexDigits_ne_nil width n) hsign]
  exact (readDigits_replicate_zero 16 limit (by decide) _ _).trans
    (readDigits_toDigits (by decide) (by decide) n h)

/-! ## Decimal digits -/

/-- What is no digit is not written. -/
theorem not_mem_decimal {c : Char} (hc : ∀ d < 10, c ≠ Nat.digitChar d) (n : Nat) :
    c ∉ decimal n := by
  intro hmem
  obtain ⟨d, hd, h⟩ := mem_toDigits (by decide) n hmem
  exact hc d hd h

/-- **A number written in decimal is read back.** -/
theorem read_decimal {n limit : Nat} (h : n ≤ limit) : read 10 limit (decimal n) = .ok n := by
  have hsign : '+' ∉ decimal n := not_mem_decimal (by decide) n
  exact (read_eq_readDigits 10 limit Nat.toDigits_ne_nil hsign).trans
    (readDigits_toDigits (by decide) (by decide) n h)

end Numeral

/-! ## Tokens -/

namespace Operand

/-- A value is read back. -/
theorem readValue_hex (v : Word) :
    readValue (Numeral.hex 1 v.toNat) = .ok v := by
  have hlimit : v.toNat ≤ 0xFFFF := Nat.le_of_lt_succ v.isLt
  show (Numeral.read 16 0xFFFF (Numeral.hexDigits 1 v.toNat)).map
    (BitVec.ofNat 16) = .ok v
  rw [Numeral.read_hexDigits 1 hlimit]
  exact congrArg Except.ok (BitVec.ofNat_toNat ..)

/-- **A token is read as the operand that it was written for.** -/
theorem read?_render (o : Operand) : read? o.render = .ok (some o) := by
  rw [render, read?, Kind.ofLetter?_letter, readValue_hex]
  rfl

end Operand

end Chip8Assembly
