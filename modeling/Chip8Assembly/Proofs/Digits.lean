import Chip8Assembly.Proofs.Numerals
import Mathlib.Data.List.Basic
import Mathlib.Data.List.TakeWhile
import Mathlib.Data.Nat.Digits.Defs

/-!
# Digits — what any text is read as

A digit counts for its place among `0` to `f`, in either case, and digits stand
for a number by their positions.  Said so, nothing is read and nothing has a
limit; `read_eq` says what reading a text within a limit comes to.

Reading stops at the first digit that cannot be taken, and the number read so
far never gets smaller.  So a text is too large exactly if the digits that it
starts with stand for a number past the limit, whatever comes behind them.
-/

namespace Chip8Assembly.Numeral

/-! ## Digits and their positions -/

/-- The digits from zero to fifteen, in lower case. -/
def digits : Text := "0123456789abcdef".toList

/-- What a digit counts for: its place among the digits.  Any other character
    has the place behind them. -/
def worth (c : Char) : Nat := digits.idxOf c.toLower

/-- A digit of a radix of at most sixteen. -/
def isDigit (radix : Nat) (c : Char) : Bool := worth c < radix

/-- The number that digits stand for, the last of them counting ones. -/
def value (radix : Nat) (ds : Text) : Nat :=
  Nat.ofDigits radix (ds.map worth).reverse

/-- The digits that a text starts with. -/
def leadingDigits (radix : Nat) (t : Text) : Text := t.takeWhile (isDigit radix)

/-- A text without the one plus sign that it may start with. -/
def unsigned (t : Text) : Text := if t.head? = some '+' then t.tail else t

/-- What may stand for the sign of a number: nothing, or a plus sign. -/
def signs : List Text := [[], ['+']]

/-- The two marks of a hexadecimal number. -/
def marks : List Text := [['0', 'x'], ['0', 'X']]

/-- A text without the one mark that it may start with. -/
def unmarked (t : Text) : Text :=
  if marks.contains (t.take 2) then t.drop 2 else t

/-- A text without the mark and the sign behind it. -/
def bare (t : Text) : Text := unsigned (unmarked t)

/-- Digits, and nothing else, for a number within a limit. -/
structure IsNumber (radix limit : Nat) (t : Text) : Prop where
  ne_nil : t ≠ []
  only_digits : ∀ c ∈ t, isDigit radix c = true
  le : value radix t ≤ limit

instance (radix limit : Nat) (t : Text) : Decidable (IsNumber radix limit t) :=
  -- characters are finitely many, but only those of the text are to be tried
  haveI : Decidable (∀ c ∈ t, isDigit radix c = true) := List.decidableBAll _ t
  decidable_of_iff
    (t ≠ [] ∧ (∀ c ∈ t, isDigit radix c = true) ∧ value radix t ≤ limit)
    ⟨fun ⟨hne, hd, hle⟩ => ⟨hne, hd, hle⟩, fun h => ⟨h.1, h.2, h.3⟩⟩

/-- A digit onto the number before it. -/
def push (radix n : Nat) (c : Char) : Nat := n * radix + worth c

/-- The number that digits stand for is pushed together from the first to the
    last. -/
theorem value_eq_foldl (radix : Nat) (ds : Text) :
    value radix ds = ds.foldl (push radix) 0 := by
  rw [value, Nat.ofDigits_eq_foldr, List.foldr_reverse, List.foldl_map]
  congr 1
  funext n c
  show worth c + radix * n = n * radix + worth c
  rw [Nat.add_comm, Nat.mul_comm]

/-- More digits make no smaller number. -/
theorem le_foldl_push {radix : Nat} (hr : 0 < radix) (ds : Text) :
    ∀ n, n ≤ ds.foldl (push radix) n := by
  induction ds with
  | nil => exact Nat.le_refl
  | cons c ds ih =>
      intro n
      have hpush : n ≤ push radix n c :=
        Nat.le_trans (Nat.le_mul_of_pos_right n hr) (Nat.le_add_right _ _)
      exact Nat.le_trans hpush (ih _)

theorem leadingDigits_eq_self_iff {radix : Nat} {t : Text} :
    leadingDigits radix t = t ↔ ∀ c ∈ t, isDigit radix c = true :=
  List.takeWhile_eq_self_iff

/-- Zeros in front stand for nothing. -/
theorem value_replicate_zero_append (radix k : Nat) (ds : Text) :
    value radix (List.replicate k '0' ++ ds) = value radix ds := by
  have hworth : worth '0' = 0 := by decide
  rw [value, value, List.map_append, List.map_replicate, hworth,
    List.reverse_append, List.reverse_replicate,
    Nat.ofDigits_append_replicate_zero]

/-! ## What reading takes for a digit -/

/-- There is nothing to change in a character beyond ASCII. -/
theorem toLower_of_beyond {c : Char} (h : 128 ≤ c.toNat) : c.toLower = c := by
  refine dif_neg ?_
  rintro ⟨-, hle⟩
  have hle' : c.toNat ≤ 90 := hle
  omega

/-- A statement about all characters can be tried on ASCII, if beyond it there is
    nothing to be said. -/
theorem char_induction {P : Char → Prop}
    (ascii : ∀ n < 128, P (Char.ofNat n))
    (beyond : ∀ c : Char, 128 ≤ c.toNat → c.toLower = c → P c) (c : Char) :
    P c := by
  by_cases h : c.toNat < 128
  · have hc := ascii c.toNat h
    rwa [Char.ofNat_toNat] at hc
  · have hc : 128 ≤ c.toNat := Nat.le_of_not_lt h
    exact beyond c hc (toLower_of_beyond hc)

/-- A character beyond ASCII is not among characters of ASCII. -/
theorem not_mem_of_beyond {c : Char} (h : 128 ≤ c.toNat) {cs : List Char}
    (hcs : cs.all (·.toNat < 128) = true) : c ∉ cs := by
  intro hmem
  have hc : c.toNat < 128 := of_decide_eq_true (List.all_eq_true.mp hcs c hmem)
  omega

/-- A character beyond ASCII is no digit. -/
theorem not_worth_lt_of_beyond {c : Char} (h : 128 ≤ c.toNat) : ¬ worth c < 16 := by
  intro hlt
  rw [worth, toLower_of_beyond h] at hlt
  have hmem : c ∈ digits := List.idxOf_lt_length_iff.mp hlt
  exact not_mem_of_beyond h (by decide) hmem

/-- The characters that are read as digits, and what each of them counts for. -/
theorem digitValue?_eq (c : Char) :
    digitValue? c = if worth c < 16 then some (worth c) else none := by
  induction c using char_induction with
  | ascii n hn =>
      revert n
      decide +kernel
  | beyond c h _ =>
      have hworth : ¬ worth c < 16 := not_worth_lt_of_beyond h
      -- the ranges of the reader end before that
      have hrange : ∀ a b : Char, b.toNat < 128 → ¬ (a ≤ c ∧ c ≤ b) := by
        rintro a b hb ⟨-, hcb⟩
        have hle : c.toNat ≤ b.toNat := hcb
        omega
      rw [if_neg hworth, digitValue?, if_neg (hrange '0' '9' (by decide)),
        if_neg (hrange 'a' 'f' (by decide)), if_neg (hrange 'A' 'F' (by decide))]

/-- **A digit of the radix is read as what it counts for,** and nothing else is
    read. -/
theorem digit?_eq {radix : Nat} (hr : radix ≤ 16) (c : Char) :
    digit? radix c = if isDigit radix c then some (worth c) else none := by
  rw [digit?, digitValue?_eq, isDigit]
  by_cases h16 : worth c < 16
  · rw [if_pos h16, Option.filter_some]
  · have hradix : ¬ worth c < radix := fun h => h16 (Nat.lt_of_lt_of_le h hr)
    rw [if_neg h16, Option.filter_none, if_neg (by simpa using hradix)]

/-! ## Reading -/

section

variable {radix limit : Nat} (hpos : 0 < radix) (hr : radix ≤ 16)

include hpos hr

/-- Reading digits onto a number that is within the limit. -/
theorem readDigits_eq_foldl (t : Text) :
    ∀ n ≤ limit, readDigits radix limit n t
      = if limit < (leadingDigits radix t).foldl (push radix) n then
          .error .tooLarge
        else if leadingDigits radix t = t then .ok (t.foldl (push radix) n)
        else .error .invalidDigit := by
  induction t with
  | nil =>
      intro n hn
      show Except.ok n = if limit < n then _ else if [] = [] then _ else _
      rw [if_neg (Nat.not_lt.mpr hn), if_pos rfl]
      rfl
  | cons c t ih =>
      intro n hn
      rw [readDigits, digit?_eq hr, leadingDigits, List.takeWhile_cons]
      cases hc : isDigit radix c with
      | false =>
          -- the digits end here, and so does the reading
          show Except.error NumeralFault.invalidDigit
            = if limit < n then _ else if [] = c :: t then _ else _
          rw [if_neg (Nat.not_lt.mpr hn), if_neg (List.cons_ne_nil c t).symm]
      | true =>
          show (if push radix n c ≤ limit then
              readDigits radix limit (push radix n c) t else .error .tooLarge)
            = if limit < (leadingDigits radix t).foldl (push radix) (push radix n c)
              then .error .tooLarge
              else if c :: leadingDigits radix t = c :: t then
                .ok (t.foldl (push radix) (push radix n c))
              else .error .invalidDigit
          by_cases hle : push radix n c ≤ limit
          · rw [if_pos hle, ih _ hle]
            simp only [List.cons_inj_right]
          · -- the digits behind this one make the number no smaller
            have hlt : limit
                < (leadingDigits radix t).foldl (push radix) (push radix n c) :=
              Nat.lt_of_lt_of_le (Nat.lt_of_not_le hle) (le_foldl_push hpos _ _)
            rw [if_neg hle, if_pos hlt]

/-- **What a text is read as.**  Nothing is no numeral; the digits behind the
    sign must not stand for too much, and there has to be nothing else. -/
theorem read_eq (t : Text) :
    read radix limit t
      = if t = [] then .error .empty
        else if limit < value radix (leadingDigits radix (unsigned t)) then
          .error .tooLarge
        else if unsigned t ≠ [] ∧ leadingDigits radix (unsigned t) = unsigned t then
          .ok (value radix (unsigned t))
        else .error .invalidDigit := by
  have hdigits : ∀ u : Text, u ≠ [] →
      readDigits radix limit 0 u
        = if limit < value radix (leadingDigits radix u) then .error .tooLarge
          else if u ≠ [] ∧ leadingDigits radix u = u then .ok (value radix u)
          else .error .invalidDigit := by
    intro u hu
    rw [readDigits_eq_foldl hpos hr u 0 (Nat.zero_le _), value_eq_foldl,
      value_eq_foldl]
    simp only [ne_eq, hu, not_false_eq_true, true_and]
  unfold read
  split
  · rfl
  · -- a sign alone
    have hzero : ¬ limit < value radix (leadingDigits radix (unsigned ['+'])) :=
      Nat.not_lt_zero limit
    rw [if_neg (List.cons_ne_nil _ _), if_neg hzero]
    exact (if_neg fun h => h.1 rfl).symm
  · rename_i u hne
    have hu : u ≠ [] := fun h => hne (by rw [h])
    rw [if_neg (List.cons_ne_nil _ _)]
    exact hdigits u hu
  · rename_i hnil _ hsign
    have hu : unsigned t = t := by
      refine if_neg fun hhead => ?_
      obtain ⟨u, hu⟩ := List.head?_eq_some_iff.mp hhead
      exact hsign u hu
    rw [if_neg hnil, hu]
    exact hdigits t hnil

/-- The number that digits stand for is read, and no other. -/
theorem read_eq_ok_iff {t : Text} {n : Nat} :
    read radix limit t = .ok n ↔
      IsNumber radix limit (unsigned t) ∧ n = value radix (unsigned t) := by
  rw [read_eq hpos hr]
  split_ifs with hnil hlarge hdigits
  · refine ⟨nofun, fun h => absurd ?_ h.1.ne_nil⟩
    rw [hnil]
    rfl
  · refine ⟨nofun, fun h => absurd h.1.le ?_⟩
    rw [leadingDigits_eq_self_iff.mpr h.1.only_digits] at hlarge
    exact Nat.not_le.mpr hlarge
  · obtain ⟨hne, hall⟩ := hdigits
    rw [hall] at hlarge
    constructor
    · intro h
      exact ⟨⟨hne, leadingDigits_eq_self_iff.mp hall, Nat.le_of_not_lt hlarge⟩,
        (Except.ok.inj h).symm⟩
    · rintro ⟨-, rfl⟩
      rfl
  · refine ⟨nofun, fun h => absurd ⟨h.1.ne_nil, ?_⟩ hdigits⟩
    exact leadingDigits_eq_self_iff.mpr h.1.only_digits

/-- Only nothing at all is empty; a sign alone is not. -/
theorem read_eq_empty_iff {t : Text} :
    read radix limit t = .error .empty ↔ t = [] := by
  rw [read_eq hpos hr]
  split_ifs with hnil hlarge hdigits
  · exact ⟨fun _ => hnil, fun _ => rfl⟩
  · exact ⟨nofun, fun h => absurd h hnil⟩
  · exact ⟨nofun, fun h => absurd h hnil⟩
  · exact ⟨nofun, fun h => absurd h hnil⟩

/-- What comes behind the leading digits does not make a text less large. -/
theorem read_eq_tooLarge_iff {t : Text} :
    read radix limit t = .error .tooLarge ↔
      limit < value radix (leadingDigits radix (unsigned t)) := by
  rw [read_eq hpos hr]
  split_ifs with hnil hlarge hdigits
  · refine ⟨nofun, fun h => absurd h ?_⟩
    rw [hnil]
    exact Nat.not_lt_zero limit
  · exact ⟨fun _ => hlarge, fun _ => rfl⟩
  · exact ⟨nofun, fun h => absurd h hlarge⟩
  · exact ⟨nofun, fun h => absurd h hlarge⟩

/-- All other texts have something in them that is no digit. -/
theorem read_eq_invalidDigit_iff {t : Text} :
    read radix limit t = .error .invalidDigit ↔
      ¬ IsNumber radix limit (unsigned t) ∧ t ≠ [] ∧
        value radix (leadingDigits radix (unsigned t)) ≤ limit := by
  rw [← Nat.not_lt, ← read_eq_tooLarge_iff hpos hr, ne_eq,
    ← read_eq_empty_iff hpos hr]
  cases h : read radix limit t with
  | ok n =>
      have hnumber := ((read_eq_ok_iff hpos hr).mp h).1
      exact ⟨nofun, fun hn => absurd hnumber hn.1⟩
  | error fault =>
      have hnumber : ¬ IsNumber radix limit (unsigned t) := by
        intro hn
        rw [(read_eq_ok_iff hpos hr).mpr ⟨hn, rfl⟩] at h
        exact nomatch h
      cases fault with
      | empty => exact ⟨nofun, fun hn => absurd rfl hn.2.1⟩
      | invalidDigit => exact ⟨fun _ => ⟨hnumber, nofun, nofun⟩, fun _ => rfl⟩
      | tooLarge => exact ⟨nofun, fun hn => absurd rfl hn.2.2⟩

end

/-! ## Marks and signs -/

section

variable {t : Text}

theorem unmarked_of_mem (h : t.take 2 ∈ marks) : unmarked t = t.drop 2 :=
  if_pos (List.contains_iff_mem.mpr h)

theorem unmarked_of_not_mem (h : t.take 2 ∉ marks) : unmarked t = t :=
  if_neg fun hmem => h (List.contains_iff_mem.mp hmem)

/-- A text without the letter of a mark has no mark. -/
theorem unmarked_of_no_letter (hlower : 'x' ∉ t) (hupper : 'X' ∉ t) :
    unmarked t = t := by
  refine unmarked_of_not_mem ?_
  intro hmem
  rcases List.mem_pair.mp hmem with h | h
  · have hx : 'x' ∈ t.take 2 := by simp [h]
    exact hlower (List.mem_of_mem_take hx)
  · have hx : 'X' ∈ t.take 2 := by simp [h]
    exact hupper (List.mem_of_mem_take hx)

end

/-- What stands behind a mark. -/
theorem afterHexMark?_eq_some_iff {t u : Text} :
    afterHexMark? t = some u ↔ ∃ mark ∈ marks, t = mark ++ u := by
  constructor
  · intro h
    unfold afterHexMark? at h
    split at h
    · obtain rfl := Option.some.inj h
      exact ⟨['0', 'x'], List.mem_cons_self, rfl⟩
    · obtain rfl := Option.some.inj h
      exact ⟨['0', 'X'], List.mem_cons_of_mem _ List.mem_cons_self, rfl⟩
    · exact nomatch h
  · rintro ⟨mark, hmark, rfl⟩
    rcases List.mem_pair.mp hmark with rfl | rfl
    · rfl
    · rfl

theorem afterHexMark?_eq_none_iff {t : Text} :
    afterHexMark? t = none ↔ ∀ mark ∈ marks, ¬ mark <+: t := by
  rw [Option.eq_none_iff_forall_ne_some]
  constructor
  · rintro h mark hmark ⟨u, rfl⟩
    exact h u (afterHexMark?_eq_some_iff.mpr ⟨mark, hmark, rfl⟩)
  · intro h u hu
    obtain ⟨mark, hmark, rfl⟩ := afterHexMark?_eq_some_iff.mp hu
    exact h mark hmark (List.prefix_append mark u)

/-- One mark is taken off, whatever follows it. -/
theorem unmarked_append {mark : Text} (h : mark ∈ marks) (t : Text) :
    unmarked (mark ++ t) = t := by
  rcases List.mem_pair.mp h with rfl | rfl
  · rfl
  · rfl

/-- The reader takes off the mark that a text starts with. -/
theorem getD_afterHexMark? (t : Text) : (afterHexMark? t).getD t = unmarked t := by
  cases h : afterHexMark? t with
  | some u =>
      obtain ⟨mark, hmark, rfl⟩ := afterHexMark?_eq_some_iff.mp h
      exact (unmarked_append hmark u).symm
  | none =>
      have hmark : t.take 2 ∉ marks := fun hmem =>
        afterHexMark?_eq_none_iff.mp h _ hmem (List.take_prefix 2 t)
      exact (unmarked_of_not_mem hmark).symm

theorem exists_mark (t : Text) : ∃ mark ∈ [] :: marks, t = mark ++ unmarked t := by
  by_cases h : t.take 2 ∈ marks
  · rw [unmarked_of_mem h]
    exact ⟨t.take 2, List.mem_cons_of_mem _ h, (List.take_append_drop 2 t).symm⟩
  · rw [unmarked_of_not_mem h]
    exact ⟨[], List.mem_cons_self, rfl⟩

theorem unsigned_cons_plus (t : Text) : unsigned ('+' :: t) = t := rfl

theorem unsigned_of_not_mem {t : Text} (h : '+' ∉ t) : unsigned t = t :=
  if_neg fun hhead => h (List.mem_of_head? hhead)

/-- One sign is taken off, if no other one follows it. -/
theorem unsigned_append {sign t : Text} (hsign : sign ∈ signs) (h : '+' ∉ t) :
    unsigned (sign ++ t) = t := by
  rcases List.mem_pair.mp hsign with rfl | rfl
  · exact unsigned_of_not_mem h
  · exact unsigned_cons_plus t

theorem exists_sign (t : Text) : ∃ sign ∈ signs, t = sign ++ unsigned t := by
  by_cases h : t.head? = some '+'
  · obtain ⟨u, rfl⟩ := List.head?_eq_some_iff.mp h
    exact ⟨['+'], List.mem_cons_of_mem _ List.mem_cons_self, rfl⟩
  · exact ⟨[], List.mem_cons_self, (if_neg h).symm⟩

/-- What is no digit is not among digits. -/
theorem not_mem_of_isDigit {radix : Nat} {ds : Text}
    (h : ∀ c ∈ ds, isDigit radix c = true) {x : Char} (hx : isDigit radix x = false) :
    x ∉ ds := by
  intro hmem
  rw [h x hmem] at hx
  exact nomatch hx

/-- Digits with a mark and a sign before them, which may both be missing. -/
theorem bare_append {mark sign ds : Text} (hmark : mark ∈ [] :: marks)
    (hsign : sign ∈ signs) (h : ∀ c ∈ ds, isDigit 16 c = true) :
    bare (mark ++ (sign ++ ds)) = ds := by
  have hx : 'x' ∉ ds := not_mem_of_isDigit h (by decide)
  have hX : 'X' ∉ ds := not_mem_of_isDigit h (by decide)
  have hplus : '+' ∉ ds := not_mem_of_isDigit h (by decide)
  have hsigned : unmarked (sign ++ ds) = sign ++ ds := by
    rcases List.mem_pair.mp hsign with rfl | rfl
    · exact unmarked_of_no_letter hx hX
    · exact unmarked_of_no_letter (List.not_mem_cons_of_ne_of_not_mem (by decide) hx)
        (List.not_mem_cons_of_ne_of_not_mem (by decide) hX)
  have hmarked : unmarked (mark ++ (sign ++ ds)) = sign ++ ds := by
    rcases List.mem_cons.mp hmark with rfl | hmark
    · exact hsigned
    · exact unmarked_append hmark _
  rw [bare, hmarked, unsigned_append hsign hplus]

/-- Every text is a mark, a sign and the rest, of which any may be missing. -/
theorem exists_mark_sign (t : Text) :
    ∃ mark ∈ [] :: marks, ∃ sign ∈ signs, t = mark ++ (sign ++ bare t) := by
  obtain ⟨mark, hmark, ht⟩ := exists_mark t
  obtain ⟨sign, hsign, hu⟩ := exists_sign (unmarked t)
  refine ⟨mark, hmark, sign, hsign, ?_⟩
  rw [bare, ← hu, ← ht]

/-! ## Upper and lower case -/

theorem toLower_toLower (c : Char) : c.toLower.toLower = c.toLower := by
  induction c using char_induction with
  | ascii n hn =>
      revert n
      decide +kernel
  | beyond c _ hlower => rw [hlower, hlower]

/-- A character that no other character of ASCII has for its lower case. -/
theorem toLower_eq_iff {d : Char}
    (h : ∀ n < 128, (Char.ofNat n).toLower = d ↔ Char.ofNat n = d) (c : Char) :
    c.toLower = d ↔ c = d := by
  induction c using char_induction with
  | ascii n hn => exact h n hn
  | beyond c _ hlower => rw [hlower]

theorem worth_toLower (c : Char) : worth c.toLower = worth c := by
  rw [worth, toLower_toLower, worth]

theorem value_map_toLower (radix : Nat) (ds : Text) :
    value radix (ds.map Char.toLower) = value radix ds := by
  rw [value, value, List.map_map]
  congr 2
  exact List.map_congr_left fun c _ => worth_toLower c

theorem leadingDigits_map_toLower (radix : Nat) (t : Text) :
    leadingDigits radix (t.map Char.toLower)
      = (leadingDigits radix t).map Char.toLower := by
  have hdigit : isDigit radix ∘ Char.toLower = isDigit radix := by
    funext c
    show decide (worth c.toLower < radix) = decide (worth c < radix)
    rw [worth_toLower]
  rw [leadingDigits, List.takeWhile_map, hdigit, leadingDigits]

theorem unsigned_map_toLower (t : Text) :
    unsigned (t.map Char.toLower) = (unsigned t).map Char.toLower := by
  have hplus : ∀ c : Char, c.toLower = '+' ↔ c = '+' :=
    toLower_eq_iff (by decide +kernel)
  cases t with
  | nil => rfl
  | cons c t =>
      show (if some c.toLower = some '+' then _ else _)
        = List.map _ (if some c = some '+' then _ else _)
      by_cases h : c = '+'
      · rw [h]
        rfl
      · have hlower : c.toLower ≠ '+' := fun hc => h ((hplus c).mp hc)
        rw [if_neg fun hc => h (Option.some.inj hc),
          if_neg fun hc => hlower (Option.some.inj hc)]

/-- A mark is a mark in either case. -/
theorem map_toLower_mem_marks (t : Text) : t.map Char.toLower ∈ marks ↔ t ∈ marks := by
  have hzero : ∀ c : Char, c.toLower = '0' ↔ c = '0' :=
    toLower_eq_iff (by decide +kernel)
  have hx : ∀ c : Char, c.toLower = 'x' ∨ c.toLower = 'X' ↔ c = 'x' ∨ c = 'X' := by
    intro c
    induction c using char_induction with
    | ascii n hn =>
        revert n
        decide +kernel
    | beyond c _ hlower => rw [hlower]
  match t with
  | [c, e] =>
      simp only [marks, List.map_cons, List.map_nil, List.mem_pair, List.cons.injEq,
        and_true, ← and_or_left, hzero, hx]
  | [] => exact Iff.rfl
  | [c] => simp [marks]
  | c :: e :: f :: t => simp [marks]

theorem unmarked_map_toLower (t : Text) :
    unmarked (t.map Char.toLower) = (unmarked t).map Char.toLower := by
  have hmark : (t.map Char.toLower).take 2 ∈ marks ↔ t.take 2 ∈ marks := by
    rw [← List.map_take]
    exact map_toLower_mem_marks _
  by_cases h : t.take 2 ∈ marks
  · rw [unmarked_of_mem h, unmarked_of_mem (hmark.mpr h), List.map_drop]
  · rw [unmarked_of_not_mem h, unmarked_of_not_mem (hmark.not.mpr h)]

/-- **Case is of no account** to what a text is read as. -/
theorem read_map_toLower {radix limit : Nat} (hpos : 0 < radix) (hr : radix ≤ 16)
    (t : Text) : read radix limit (t.map Char.toLower) = read radix limit t := by
  rw [read_eq hpos hr, read_eq hpos hr, unsigned_map_toLower,
    leadingDigits_map_toLower, value_map_toLower, value_map_toLower]
  have hall : (leadingDigits radix (unsigned t)).map Char.toLower
        = (unsigned t).map Char.toLower ↔
      leadingDigits radix (unsigned t) = unsigned t := by
    rw [← leadingDigits_map_toLower, leadingDigits_eq_self_iff,
      leadingDigits_eq_self_iff, List.forall_mem_map]
    exact forall₂_congr fun c _ => by rw [isDigit, worth_toLower, isDigit]
  simp only [List.map_eq_nil_iff, ne_eq, hall]

end Chip8Assembly.Numeral
