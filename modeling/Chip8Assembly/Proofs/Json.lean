import Chip8Assembly.Json.Record
import Chip8Assembly.Proofs.Numerals
import Mathlib.Data.List.TakeDrop

/-!
# JSON — what is written is read

A text is found again in the body that is written for it (`unescape?_escape`), and
a value in its compact text (`parse?_compact`), if it is made of texts, numbers and
truth values as all JSON of this library is.  A reader of values goes on until it
meets what may *follow* a value; so the text of a value may stand in that of an
array or an object.

A shape, a kind, a policy, an operand or a dialect is therefore read from the text
that is written for it (`read_written`).
-/

namespace Chip8Assembly

namespace Json

/-! ## Strings -/

/-- The four digits of a control character are read back. -/
theorem exists_digits_of_control {n : Nat} (h : n < 0x20) :
    ∃ a b c d, Numeral.hexDigits 4 n = [a, b, c, d] ∧
      unitOfDigits? [a, b, c, d] = some n := by
  have hall : ∀ n < 0x20, (Numeral.hexDigits 4 n).length = 4 ∧
      unitOfDigits? (Numeral.hexDigits 4 n) = some n := by decide
  obtain ⟨hlength, hvalue⟩ := hall n h
  match Numeral.hexDigits 4 n, hlength, hvalue with
  | [a, b, c, d], _, hvalue => exact ⟨a, b, c, d, rfl, hvalue⟩

/-- **What stands for a character** is an escape with a letter, an escape with four
    digits, or the character. -/
theorem escapeChar_cases (c : Char) :
    (∃ letter, letter ≠ 'u' ∧ escapeChar c = ['\\', letter] ∧
      escapedLetter? letter = some c) ∨
    (∃ x y z w, escapeChar c = ['\\', 'u', x, y, z, w] ∧
      unitOfDigits? [x, y, z, w] = some c.toNat) ∨
    (escapeChar c = [c] ∧ c ≠ '"' ∧ c ≠ '\\' ∧ ¬ c.toNat < 0x20) := by
  unfold escapeChar
  split
  · exact Or.inl ⟨'"', by decide, rfl, rfl⟩
  · exact Or.inl ⟨'\\', by decide, rfl, rfl⟩
  · exact Or.inl ⟨'b', by decide, rfl, rfl⟩
  · exact Or.inl ⟨'f', by decide, rfl, rfl⟩
  · exact Or.inl ⟨'n', by decide, rfl, rfl⟩
  · exact Or.inl ⟨'r', by decide, rfl, rfl⟩
  · exact Or.inl ⟨'t', by decide, rfl, rfl⟩
  · rename_i hquote hbackslash _ _ _ _ _
    by_cases hcontrol : c.toNat < 0x20
    · obtain ⟨x, y, z, w, hdigits, hvalue⟩ := exists_digits_of_control hcontrol
      rw [if_pos hcontrol, hdigits]
      exact Or.inr (Or.inl ⟨x, y, z, w, rfl, hvalue⟩)
    · rw [if_neg hcontrol]
      exact Or.inr (Or.inr ⟨rfl, hquote, hbackslash, hcontrol⟩)

theorem readBody?_escapeChar (c : Char) (rest : Text) :
    readBody? (escapeChar c ++ rest)
      = (readBody? rest).map fun p => (escapeChar c ++ p.1, p.2) := by
  rcases escapeChar_cases c with
    ⟨letter, hu, hc, hletter⟩ | ⟨x, y, z, w, hc, hvalue⟩ |
    ⟨hc, hquote, hbackslash, hcontrol⟩
  · rw [hc]
    show readBody? ('\\' :: letter :: rest) = _
    rw [readBody?]
    · rw [hletter]
      cases readBody? rest <;> rfl
    · intro _ _ _ _ _ h
      exact absurd h hu
  · rw [hc]
    show readBody? ('\\' :: 'u' :: x :: y :: z :: w :: rest) = _
    rw [readBody?, hvalue]
    cases readBody? rest <;> rfl
  · rw [hc]
    show readBody? (c :: rest) = _
    rw [readBody?, if_neg hcontrol]
    · rfl
    · exact hquote
    · intro _ _ _ _ _ h
      exact absurd h hbackslash
    · intro _ _ h
      exact absurd h hbackslash

/-- The body of a string ends where its closing quote stands. -/
theorem readBody?_escape (t after : Text) :
    readBody? (escape t ++ '"' :: after) = some (escape t, after) := by
  induction t with
  | nil => rfl
  | cons c t ih =>
      rw [escape, List.flatMap_cons, List.append_assoc, readBody?_escapeChar]
      show (readBody? (escape t ++ _)).map _ = _
      rw [ih]
      rfl

theorem codePoints?_escapeChar (c : Char) (rest : Text) :
    codePoints? (escapeChar c ++ rest) = (codePoints? rest).map (c.toNat :: ·) := by
  rcases escapeChar_cases c with
    ⟨letter, hu, hc, hletter⟩ | ⟨x, y, z, w, hc, hvalue⟩ | ⟨hc, -, hbackslash, -⟩
  · rw [hc]
    show codePoints? ('\\' :: letter :: rest) = _
    rw [codePoints?]
    · rw [hletter]
      cases codePoints? rest <;> rfl
    · intro _ _ _ _ _ h
      exact absurd h hu
  · rw [hc]
    show codePoints? ('\\' :: 'u' :: x :: y :: z :: w :: rest) = _
    rw [codePoints?, hvalue]
    cases codePoints? rest <;> rfl
  · rw [hc]
    show codePoints? (c :: rest) = _
    rw [codePoints?]
    · cases codePoints? rest <;> rfl
    · intro _ _ _ _ _ h
      exact absurd h hbackslash
    · intro _ _ h
      exact absurd h hbackslash

theorem codePoints?_escape (t : Text) :
    codePoints? (escape t) = some (t.map Char.toNat) := by
  induction t with
  | nil => rfl
  | cons c t ih =>
      rw [escape, List.flatMap_cons, codePoints?_escapeChar]
      show (codePoints? (escape t)).map _ = _
      rw [ih]
      rfl

/-- No character is a surrogate. -/
theorem joinSurrogates?_map_toNat (t : Text) :
    joinSurrogates? (t.map Char.toNat) = some t := by
  induction t with
  | nil => rfl
  | cons c t ih =>
      have hc : c.toNat < 0xD800 ∨ 0xE000 ≤ c.toNat := by
        rcases c.valid with h | ⟨h, -⟩
        · exact Or.inl h
        · exact Or.inr (Nat.succ_le_of_lt h)
      have htrailing : isTrailing c.toNat = false := by
        rw [isTrailing, Bool.and_eq_false_iff, decide_eq_false_iff_not,
          decide_eq_false_iff_not]
        omega
      have hleading : isLeading c.toNat = false := by
        rw [isLeading, Bool.and_eq_false_iff, decide_eq_false_iff_not,
          decide_eq_false_iff_not]
        omega
      rw [List.map_cons, joinSurrogates?.eq_def]
      simp only [htrailing, hleading, ih, Char.ofNat_toNat, Bool.false_eq_true, if_false,
        Option.map_some]

/-- **A text is read back from its literal.** -/
theorem unescape?_escape (t : Text) : unescape? (escape t) = some t := by
  rw [unescape?, codePoints?_escape]
  exact joinSurrogates?_map_toNat t

/-! ## Numbers -/

/-- What may follow a value: nothing, a comma or a closing bracket. -/
def Follows (after : Text) : Prop := ∀ c ∈ after.head?, c = ',' ∨ c = ']' ∨ c = '}'

theorem follows_comma (rest : Text) : Follows (',' :: rest) := by
  rintro _ ⟨⟩
  exact Or.inl rfl

theorem follows_bracket (rest : Text) : Follows (']' :: rest) := by
  rintro _ ⟨⟩
  exact Or.inr (Or.inl rfl)

theorem follows_brace (rest : Text) : Follows ('}' :: rest) := by
  rintro _ ⟨⟩
  exact Or.inr (Or.inr rfl)

/-- A number is written with at least one digit. -/
theorem exists_digitChar (n : Nat) :
    ∃ d ds, d < 10 ∧ Numeral.decimal n = Nat.digitChar d :: ds := by
  have hne : Numeral.decimal n ≠ [] := Nat.toDigits_ne_nil
  obtain ⟨c, ds, hdigits⟩ := List.exists_cons_of_ne_nil hne
  have hc : c ∈ Numeral.decimal n := by
    rw [hdigits]
    exact List.mem_cons_self
  obtain ⟨d, hd, rfl⟩ := Numeral.mem_toDigits (by decide) n hc
  exact ⟨d, ds, hd, hdigits⟩

theorem isDigit_of_mem_decimal {n : Nat} {c : Char} (hc : c ∈ Numeral.decimal n) :
    c.isDigit = true := by
  obtain ⟨d, hd, rfl⟩ := Numeral.mem_toDigits (by decide) n hc
  exact (by decide : ∀ d < 10, (Nat.digitChar d).isDigit = true) d hd

/-- Only zero starts with a zero. -/
theorem exists_decimal (n : Nat) :
    ∃ c ds, Numeral.decimal n = c :: ds ∧ (c = '0' → n = 0 ∧ ds = []) := by
  induction n using Nat.strongRecOn with
  | ind n ih =>
      by_cases hlt : n < 10
      · have hzero : ∀ d < 10, Nat.digitChar d = '0' → d = 0 := by decide
        exact ⟨Nat.digitChar n, [], Nat.toDigits_of_lt_base hlt,
          fun hc => ⟨hzero n hlt hc, rfl⟩⟩
      · have hge : 10 ≤ n := Nat.le_of_not_lt hlt
        obtain ⟨c, ds, hdigits, hzero⟩ := ih (n / 10) (by omega)
        refine ⟨c, ds ++ [Nat.digitChar (n % 10)], ?_, ?_⟩
        · rw [Numeral.decimal, Nat.toDigits_of_base_le (by decide) hge]
          show Numeral.decimal (n / 10) ++ _ = _
          rw [hdigits]
          rfl
        · intro hc
          have := (hzero hc).1
          omega

section

variable {after : Text}

/-- Digits are read up to what follows a value. -/
theorem readDigits?_append {ds : Text} (hne : ds ≠ [])
    (hds : ∀ c ∈ ds, c.isDigit = true) (h : Follows after) :
    readDigits? (ds ++ after) = some (ds, after) := by
  have hafter : after.takeWhile Char.isDigit = [] ∧
      after.dropWhile Char.isDigit = after := by
    cases after with
    | nil => exact ⟨rfl, rfl⟩
    | cons c after =>
        have hc : c.isDigit = false := by
          rcases h c rfl with rfl | rfl | rfl <;> rfl
        rw [List.takeWhile_cons, List.dropWhile_cons, hc]
        exact ⟨rfl, rfl⟩
  obtain ⟨d, ds, rfl⟩ := List.exists_cons_of_ne_nil hne
  rw [readDigits?, List.span_eq_takeWhile_dropWhile, List.takeWhile_append_of_pos hds,
    List.dropWhile_append_of_pos hds, hafter.1, hafter.2, List.append_nil]

theorem readFraction?_of_follows (h : Follows after) :
    readFraction? after = some ([], after) := by
  cases after with
  | nil => rfl
  | cons c after => rcases h c rfl with rfl | rfl | rfl <;> rfl

theorem readExponent?_of_follows (h : Follows after) :
    readExponent? after = some ([], after) := by
  cases after with
  | nil => rfl
  | cons c after => rcases h c rfl with rfl | rfl | rfl <;> rfl

/-- **A number ends where its digits end.** -/
theorem readNumber?_decimal (n : Nat) (h : Follows after) :
    readNumber? (Numeral.decimal n ++ after) = some (Numeral.decimal n, after) := by
  obtain ⟨c, ds, hdigits, hzero⟩ := exists_decimal n
  have hwhole : readWhole? (Numeral.decimal n ++ after)
      = some (Numeral.decimal n, after) := by
    by_cases hc : c = '0'
    · obtain ⟨rfl, rfl⟩ := hzero hc
      rfl
    · have hne : Numeral.decimal n ≠ [] := Nat.toDigits_ne_nil
      rw [← readDigits?_append hne (fun _ => isDigit_of_mem_decimal) h, hdigits,
        List.cons_append, readWhole?]
      intro _ heq
      exact hc (List.cons.inj heq).1
  have hsign : c ≠ '-' := by
    rintro rfl
    have hmem : '-' ∈ Numeral.decimal n := by
      rw [hdigits]
      exact List.mem_cons_self
    exact nomatch isDigit_of_mem_decimal hmem
  have hunsigned : readUnsigned? (Numeral.decimal n ++ after)
      = some (Numeral.decimal n, after) := by
    rw [readUnsigned?, hwhole]
    show (readFraction? after >>= _) = _
    rw [readFraction?_of_follows h]
    show (readExponent? after >>= _) = _
    rw [readExponent?_of_follows h]
    show some (Numeral.decimal n ++ [] ++ [], after) = _
    rw [List.append_nil, List.append_nil]
  rw [← hunsigned, hdigits, List.cons_append, readNumber?]
  intro _ heq
  exact hsign (List.cons.inj heq).1

end

/-! ## Values -/

/-- The values that are made of texts, numbers and truth values. -/
inductive Made : Json → Prop where
  | null : Made .null
  | bool (b : Bool) : Made (.bool b)
  | nat (n : Nat) : Made (nat n)
  | text (t : Text) : Made (text t)
  | array {items : List Json} (h : ∀ item ∈ items, Made item) : Made (.array items)
  | record {members : List (Text × Json)} (h : ∀ m ∈ members, Made m.2) :
      Made (record members)

/-- No value starts with a space or with a closing bracket. -/
theorem Made.exists_compact {j : Json} (h : Made j) :
    ∃ c t, j.compact = c :: t ∧ isSpace c = false ∧ c ≠ ']' := by
  cases h with
  | null => exact ⟨'n', _, rfl, rfl, by decide⟩
  | bool b =>
      cases b with
      | false => exact ⟨'f', _, rfl, rfl, by decide⟩
      | true => exact ⟨'t', _, rfl, rfl, by decide⟩
  | nat n =>
      obtain ⟨d, ds, hd, hdigits⟩ := exists_digitChar n
      have hall : ∀ d < 10,
          isSpace (Nat.digitChar d) = false ∧ Nat.digitChar d ≠ ']' := by decide
      exact ⟨_, ds, hdigits, hall d hd⟩
  | text t => exact ⟨'"', _, rfl, rfl, by decide⟩
  | array _ => exact ⟨'[', _, rfl, rfl, by decide⟩
  | record _ => exact ⟨'{', _, rfl, rfl, by decide⟩

theorem skipSpace_cons {c : Char} (h : isSpace c = false) (t : Text) :
    skipSpace (c :: t) = c :: t := by
  rw [skipSpace, List.dropWhile_cons, h]
  rfl

/-- The value is read from its text, if there is fuel enough.  A list of values takes
    one unit for each of its steps and one for the value there, so two units for each
    character are enough. -/
def ReadsBack (j : Json) : Prop :=
  ∀ fuel after, 2 * j.compact.length ≤ fuel + 1 → Follows after →
    readValue? (fuel + 1) (j.compact ++ after) = some (j, after)

section

variable {fuel : Nat} {after : Text}

/-- **The items of an array** are read one after the other. -/
theorem readItems?_compact {items : List Json} (hne : items ≠ [])
    (h : ∀ item ∈ items, item.ReadsBack)
    (hfuel : 2 * ([','].intercalate (compactItems items)).length + 2 ≤ fuel) :
    readItems? fuel ([','].intercalate (compactItems items) ++ ']' :: after)
      = some (items, after) := by
  induction items generalizing fuel with
  | nil => exact absurd rfl hne
  | cons item items ih =>
      obtain ⟨fuel, rfl⟩ := Nat.exists_eq_add_of_le' (by omega : 2 ≤ fuel)
      have hitem := h item List.mem_cons_self
      cases items with
      | nil =>
          rw [compactItems, compactItems, List.intercalate_singleton] at hfuel ⊢
          rw [readItems?, hitem fuel _ (by omega) (follows_bracket after)]
          rfl
      | cons next items =>
          have hcomma : [','].intercalate (compactItems (item :: next :: items))
              = item.compact ++
                ',' :: [','].intercalate (compactItems (next :: items)) := by
            rw [compactItems, compactItems, List.intercalate_cons_cons, List.append_assoc]
            rfl
          rw [hcomma, List.length_append, List.length_cons] at hfuel
          have hrest := @ih (fuel + 1) (List.cons_ne_nil _ _)
            (fun i hi => h i (List.mem_cons_of_mem _ hi)) (by omega)
          rw [hcomma, List.append_assoc, readItems?, List.cons_append,
            hitem fuel _ (by omega) (follows_comma _)]
          show (readItems? (fuel + 1) _ >>= _) = _
          rw [hrest]
          rfl

/-- **A member with another one behind it** is read up to the comma. -/
theorem readMembers?_cons (name : Text) {value : Json} (h : value.ReadsBack)
    (hfuel : 2 * value.compact.length ≤ fuel + 1) (rest : Text) :
    readMembers? (fuel + 2)
        (quotedBody (escape name) ++ ':' :: (value.compact ++ ',' :: rest))
      = (readMembers? (fuel + 1) rest).map fun p =>
          ((escape name, value) :: p.1, p.2) := by
  show (readBody? (escape name ++ ['"'] ++ _) >>= _) = _
  rw [List.append_assoc, List.singleton_append, readBody?_escape]
  show (readValue? (fuel + 1) (value.compact ++ ',' :: rest) >>= _) = _
  rw [h fuel _ hfuel (follows_comma rest)]
  show (readMembers? (fuel + 1) rest >>= _) = _
  cases readMembers? (fuel + 1) rest with
  | none => rfl
  | some p => rfl

/-- **The last member** is read up to the closing brace. -/
theorem readMembers?_last (name : Text) {value : Json} (h : value.ReadsBack)
    (hfuel : 2 * value.compact.length ≤ fuel + 1) (after : Text) :
    readMembers? (fuel + 2)
        (quotedBody (escape name) ++ ':' :: (value.compact ++ '}' :: after))
      = some ([(escape name, value)], after) := by
  show (readBody? (escape name ++ ['"'] ++ _) >>= _) = _
  rw [List.append_assoc, List.singleton_append, readBody?_escape]
  show (readValue? (fuel + 1) (value.compact ++ '}' :: after) >>= _) = _
  rw [h fuel _ hfuel (follows_brace after)]
  rfl

/-- **The members of an object** are read one after the other. -/
theorem readMembers?_compact {members : List (Text × Json)} (hne : members ≠ [])
    (h : ∀ m ∈ members, (∃ name, m.1 = escape name) ∧ m.2.ReadsBack)
    (hfuel : 2 * ([','].intercalate (compactMembers members)).length + 2 ≤ fuel) :
    readMembers? fuel ([','].intercalate (compactMembers members) ++ '}' :: after)
      = some (members, after) := by
  induction members generalizing fuel with
  | nil => exact absurd rfl hne
  | cons m members ih =>
      obtain ⟨body, value⟩ := m
      obtain ⟨fuel, rfl⟩ := Nat.exists_eq_add_of_le' (by omega : 2 ≤ fuel)
      obtain ⟨⟨name, rfl⟩, hvalue⟩ :
          (∃ name, body = escape name) ∧ value.ReadsBack :=
        h (body, value) List.mem_cons_self
      cases members with
      | nil =>
          rw [compactMembers, compactMembers, List.intercalate_singleton] at hfuel ⊢
          rw [List.length_append, List.length_cons] at hfuel
          rw [List.append_assoc, List.cons_append]
          exact readMembers?_last name hvalue (by omega) after
      | cons next members =>
          have hcomma : [','].intercalate
                (compactMembers ((escape name, value) :: next :: members))
              = quotedBody (escape name) ++ ':' :: (value.compact ++
                  ',' :: [','].intercalate (compactMembers (next :: members))) := by
            obtain ⟨body', value'⟩ := next
            rw [compactMembers, compactMembers, List.intercalate_cons_cons]
            simp only [List.append_assoc, List.cons_append, List.nil_append]
          rw [hcomma] at hfuel
          simp only [List.length_append, List.length_cons] at hfuel
          have hrest := @ih (fuel + 1) (List.cons_ne_nil _ _)
            (fun m hm => h m (List.mem_cons_of_mem _ hm)) (by omega)
          rw [hcomma, List.append_assoc, List.cons_append, List.append_assoc,
            List.cons_append, readMembers?_cons name hvalue (by omega), hrest]
          rfl

theorem readValue?_digit {d : Nat} (hd : d < 10) (t : Text) :
    readValue? (fuel + 1) (Nat.digitChar d :: t)
      = (readNumber? (Nat.digitChar d :: t)).map fun p => (.number p.1, p.2) := by
  match d, hd with
  | 0, _ | 1, _ | 2, _ | 3, _ | 4, _ | 5, _ | 6, _ | 7, _ | 8, _ | 9, _ => rfl

theorem readValue?_array {c : Char} (hspace : isSpace c = false) (hc : c ≠ ']')
    (t : Text) :
    readValue? (fuel + 1) ('[' :: c :: t)
      = (readItems? fuel (c :: t)).map fun p => (.array p.1, p.2) := by
  have hopen : skipSpace ('[' :: c :: t) = '[' :: c :: t := skipSpace_cons rfl _
  simp only [readValue?, hopen, skipSpace_cons hspace]
  split
  · rename_i heq
    exact absurd (List.cons.inj heq).1 hc
  · rfl

end

theorem readsBack_array {items : List Json} (hmade : ∀ item ∈ items, Made item)
    (h : ∀ item ∈ items, item.ReadsBack) : (array items).ReadsBack := by
  intro fuel after hfuel _
  cases items with
  | nil => rfl
  | cons item items =>
      obtain ⟨c, t, hitem, hspace, hc⟩ := (hmade item List.mem_cons_self).exists_compact
      obtain ⟨u, hu⟩ :
          ∃ u, [','].intercalate (compactItems (item :: items)) = c :: u := by
        cases items with
        | nil =>
            rw [compactItems, compactItems, List.intercalate_singleton, hitem]
            exact ⟨t, rfl⟩
        | cons next items =>
            rw [compactItems, compactItems, List.intercalate_cons_cons, hitem]
            exact ⟨_, rfl⟩
      rw [compact, List.length_append, List.length_cons, List.length_singleton] at hfuel
      have hread := @readItems?_compact fuel after _ (List.cons_ne_nil _ _) h (by omega)
      rw [hu, List.cons_append] at hread
      rw [compact, List.append_assoc, List.cons_append, List.singleton_append, hu,
        List.cons_append, readValue?_array hspace hc, hread]
      rfl

theorem readsBack_object {members : List (Text × Json)}
    (h : ∀ m ∈ members, (∃ name, m.1 = escape name) ∧ m.2.ReadsBack) :
    (object members).ReadsBack := by
  intro fuel after hfuel _
  cases members with
  | nil => rfl
  | cons m members =>
      obtain ⟨body, value⟩ := m
      obtain ⟨u, hu⟩ : ∃ u, [','].intercalate (compactMembers ((body, value) :: members))
          = '"' :: u := by
        cases members with
        | nil => exact ⟨_, rfl⟩
        | cons next members => exact ⟨_, rfl⟩
      rw [compact, List.length_append, List.length_cons, List.length_singleton] at hfuel
      have hread := @readMembers?_compact fuel after _ (List.cons_ne_nil _ _) h
        (by omega)
      rw [hu] at hread
      rw [compact, List.append_assoc, List.cons_append, List.singleton_append, hu]
      show (readMembers? fuel ('"' :: u ++ _)).map _ = _
      rw [hread]
      rfl

/-- **A value that is made is read from its text.** -/
theorem readsBack_of_made {j : Json} (h : Made j) : j.ReadsBack := by
  induction h with
  | null => exact fun _ _ _ _ => rfl
  | bool b =>
      intro fuel after _ _
      cases b with
      | false => rfl
      | true => rfl
  | nat n =>
      intro fuel after _ hafter
      obtain ⟨d, ds, hd, hdigits⟩ := exists_digitChar n
      have hnumber := readNumber?_decimal n hafter
      show readValue? (fuel + 1) (Numeral.decimal n ++ after) = _
      rw [hdigits, List.cons_append] at hnumber ⊢
      rw [readValue?_digit hd, hnumber, nat, hdigits]
      rfl
  | text t =>
      intro fuel after _ _
      show (readBody? (escape t ++ ['"'] ++ after)).map _ = _
      rw [List.append_assoc, List.singleton_append, readBody?_escape]
      rfl
  | array hmade ih => exact readsBack_array hmade ih
  | record _ ih =>
      refine readsBack_object fun m hm => ?_
      obtain ⟨m', hm', rfl⟩ := List.mem_map.mp hm
      exact ⟨⟨m'.1, rfl⟩, ih m' hm'⟩

/-- **JSON is read from its text.** -/
theorem parse?_compact {j : Json} (h : Made j) : parse? j.compact = some j := by
  have hread := readsBack_of_made h (2 * j.compact.length + 1) [] (by omega) nofun
  rw [List.append_nil] at hread
  rw [parse?, hread]
  rfl

/-! ## Taking values apart -/

theorem nat?_nat {n limit : Nat} (h : n ≤ limit) : (nat n).nat? limit = some n := by
  rw [nat, nat?, Numeral.decimal,
    Numeral.readDigits_toDigits (by decide) (by decide) n h]
  rfl

theorem members?_record (members : List (Text × Json)) :
    (record members).members? = some members := by
  rw [record, members?]
  induction members with
  | nil => rfl
  | cons m members ih =>
      rw [List.map_cons, List.mapM_cons, ih, unescape?_escape]
      rfl

/-- A name is found among the names of all values. -/
theorem variant?_text {α : Type} {all : List α} {name : α → Text} {a : α}
    (h : all.find? (fun b => name b == name a) = some a) :
    variant? all name (text (name a)) = some a := by
  have hname : variantName? (text (name a)) = some (name a) := unescape?_escape _
  rw [variant?, hname]
  exact h

/-- **Two fields are found under their names.** -/
theorem twoFields?_record {first second : Text} (hne : first ≠ second) (a b : Json) :
    twoFields? first second (record [(first, a), (second, b)]) = some (a, b) := by
  have hfirst : (second == first) = false := beq_eq_false_iff_ne.mpr hne.symm
  have hsecond : (first == second) = false := beq_eq_false_iff_ne.mpr hne
  show ((record _).members? >>= _) = _
  rw [members?_record]
  simp [field?, hfirst, hsecond]

end Json

/-! ## The JSON of operands, instructions, dialects and reports -/

section

variable {α : Type} {toJson : α → Json} {ofJson? : Json → Option α}

/-- What is found in a value is found in the text of it. -/
theorem Json.bind_parse? (hmade : ∀ a, (toJson a).Made)
    (h : ∀ a, ofJson? (toJson a) = some a) (a : α) :
    (Json.parse? (toJson a).compact).bind ofJson? = some a := by
  rw [Json.parse?_compact (hmade a)]
  exact h a

end

namespace Shape

theorem made_toJson (s : Shape) : s.toJson.Made := .text s.name

theorem ofJson?_toJson (s : Shape) : ofJson? s.toJson = some s :=
  Json.variant?_text (by cases s <;> rfl)

end Shape

namespace Kind

theorem made_toJson (k : Kind) : k.toJson.Made := .text k.name

theorem ofJson?_toJson (k : Kind) : ofJson? k.toJson = some k :=
  Json.variant?_text (by cases k <;> rfl)

end Kind

namespace LetterPolicy

theorem made_toJson (p : LetterPolicy) : p.toJson.Made := .text p.name

theorem ofJson?_toJson (p : LetterPolicy) : ofJson? p.toJson = some p :=
  Json.variant?_text (by cases p <;> rfl)

end LetterPolicy

namespace Operand

theorem made_toJson (o : Operand) : o.toJson.Made := by
  refine .record fun m hm => ?_
  simp only [List.mem_cons, List.not_mem_nil, or_false] at hm
  rcases hm with rfl | rfl
  · exact o.kind.made_toJson
  · exact .nat _

theorem ofJson?_toJson (o : Operand) : ofJson? o.toJson = some o := by
  have hvalue : o.value.toNat ≤ 0xFFFF := Nat.le_of_lt_succ o.value.isLt
  rw [ofJson?, toJson, Json.twoFields?_record (by decide)]
  show (Kind.ofJson? o.kind.toJson >>= _) = _
  rw [Kind.ofJson?_toJson]
  show ((Json.nat o.value.toNat).nat? 0xFFFF >>= _) = _
  rw [Json.nat?_nat hvalue]
  show some (Operand.mk o.kind (BitVec.ofNat 16 o.value.toNat)) = _
  rw [BitVec.ofNat_toNat, BitVec.setWidth_eq]

end Operand

namespace Dialect

theorem made_toJson (d : Dialect) : d.toJson.Made := by
  refine .record fun m hm => ?_
  simp only [List.mem_cons, List.not_mem_nil, or_false] at hm
  rcases hm with rfl | rfl
  · exact .bool _
  · exact d.unknownOperands.made_toJson

theorem ofJson?_toJson (d : Dialect) : ofJson? d.toJson = some d := by
  rw [ofJson?, toJson, Json.twoFields?_record (by decide)]
  show (LetterPolicy.ofJson? d.unknownOperands.toJson >>= _) = _
  rw [LetterPolicy.ofJson?_toJson]
  rfl

end Dialect

theorem Instruction.made_toJson (i : Instruction) : i.toJson.Made := by
  have hoperands : Json.Made (.array (i.operands.map Operand.toJson)) := by
    refine .array fun item hitem => ?_
    obtain ⟨o, -, rfl⟩ := List.mem_map.mp hitem
    exact o.made_toJson
  refine .record fun m hm => ?_
  simp only [List.mem_append, List.mem_cons, List.not_mem_nil, or_false, List.mem_map]
    at hm
  rcases hm with ((rfl | rfl) | ⟨w, -, rfl⟩) | ⟨t, -, rfl⟩
  · exact i.shape.made_toJson
  · exact hoperands
  · exact .nat _
  · exact .text t

theorem Row.made_toJson (row : Row) : row.toJson.Made := by
  refine .record fun m hm => ?_
  simp only [List.mem_cons, List.not_mem_nil, or_false] at hm
  rcases hm with rfl | rfl | rfl | rfl
  · exact .nat _
  · exact .nat _
  · exact .text _
  · exact .bool _

theorem Report.made_toJson (r : Report) : r.toJson.Made := by
  have hrows : Json.Made (.array (r.rows.map Row.toJson)) := by
    refine .array fun item hitem => ?_
    obtain ⟨row, -, rfl⟩ := List.mem_map.mp hitem
    exact row.made_toJson
  refine .record fun m hm => ?_
  simp only [List.mem_cons, List.not_mem_nil, or_false] at hm
  rcases hm with rfl | rfl | rfl | rfl | rfl
  · exact .text _
  · exact .nat _
  · exact .nat _
  · exact .nat _
  · exact hrows

/-- **What is written is read.**  Shapes, kinds, policies, operands and dialects are
    found again in the texts that are written for them; the text of an instruction
    or a report holds its JSON. -/
theorem Json.read_written :
    (∀ s : Shape, (parse? s.toJson.compact).bind Shape.ofJson? = some s) ∧
    (∀ k : Kind, (parse? k.toJson.compact).bind Kind.ofJson? = some k) ∧
    (∀ p : LetterPolicy,
      (parse? p.toJson.compact).bind LetterPolicy.ofJson? = some p) ∧
    (∀ o : Operand, (parse? o.toJson.compact).bind Operand.ofJson? = some o) ∧
    (∀ d : Dialect, (parse? d.toJson.compact).bind Dialect.ofJson? = some d) ∧
    (∀ i : Instruction, parse? i.toJson.compact = some i.toJson) ∧
    ∀ r : Report, parse? r.toJson.compact = some r.toJson :=
  ⟨bind_parse? Shape.made_toJson Shape.ofJson?_toJson,
    bind_parse? Kind.made_toJson Kind.ofJson?_toJson,
    bind_parse? LetterPolicy.made_toJson LetterPolicy.ofJson?_toJson,
    bind_parse? Operand.made_toJson Operand.ofJson?_toJson,
    bind_parse? Dialect.made_toJson Dialect.ofJson?_toJson,
    fun i => parse?_compact i.made_toJson, fun r => parse?_compact r.made_toJson⟩

end Chip8Assembly
