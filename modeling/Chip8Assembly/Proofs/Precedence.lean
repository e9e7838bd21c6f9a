import Chip8Assembly.Proofs.Table
import Mathlib.Data.List.Nodup

/-!
# Precedence — which orders of the rules are right

The first match of a list is the matching element with the least position
(`find?_eq_some_iff_idxOf`).  So reordering a list changes no first match as
long as it keeps the order of those elements that match together, and in the
table few rules do: the fallback with every other rule, and `callNative` with
the two single words.

`scan_eq_iff_ordered` says that these are all: an order of the rules chooses as
the table does exactly if it keeps both of the single words in front of
`callNative`, and the fallback last.
-/

namespace Chip8Assembly.Rule

/-! ## First matches and positions -/

section Positions

variable {α : Type} [DecidableEq α] {l l' : List α} {p : α → Bool} {r : α}

/-- **The first match has the least position** of all that match. -/
theorem find?_eq_some_iff_idxOf :
    l.find? p = some r ↔
      r ∈ l ∧ p r = true ∧ ∀ a ∈ l, p a = true → l.idxOf r ≤ l.idxOf a := by
  induction l with
  | nil => exact ⟨nofun, fun h => nomatch h.1⟩
  | cons b l ih =>
      by_cases hb : p b = true
      · -- the head is found, and nothing else has its position
        rw [List.find?_cons_of_pos hb]
        constructor
        · intro h
          obtain rfl := Option.some.inj h
          refine ⟨List.mem_cons_self, hb, fun a _ _ => ?_⟩
          rw [List.idxOf_cons_self]
          exact Nat.zero_le _
        · rintro ⟨hr, -, hleast⟩
          have hzero := hleast b List.mem_cons_self hb
          rw [List.idxOf_cons_self, Nat.le_zero, ← List.idxOf_cons_self (l := l),
            List.idxOf_inj hr] at hzero
          rw [hzero]
      · rw [List.find?_cons_of_neg hb, ih]
        -- an element that matches is not the head, so its position is one more
        have hpos : ∀ a, p a = true → (b :: l).idxOf a = l.idxOf a + 1 := by
          intro a ha
          refine List.idxOf_cons_ne l ?_
          rintro rfl
          exact hb ha
        constructor
        · rintro ⟨hr, hpr, hleast⟩
          refine ⟨List.mem_cons_of_mem b hr, hpr, fun a ha hpa => ?_⟩
          rcases List.mem_cons.mp ha with rfl | ha
          · exact absurd hpa hb
          · rw [hpos r hpr, hpos a hpa]
            exact Nat.succ_le_succ (hleast a ha hpa)
        · rintro ⟨hr, hpr, hleast⟩
          have hrl : r ∈ l := by
            rcases List.mem_cons.mp hr with rfl | hr
            · exact absurd hpr hb
            · exact hr
          refine ⟨hrl, hpr, fun a ha hpa => ?_⟩
          have h := hleast a (List.mem_cons_of_mem b ha) hpa
          rw [hpos r hpr, hpos a hpa] at h
          exact Nat.le_of_succ_le_succ h

/-- **Reordering a list changes no first match** if elements that match together
    keep their order. -/
theorem find?_of_perm (h : l'.Perm l)
    (hkeep : ∀ r ∈ l, ∀ a ∈ l, p r = true → p a = true →
      l.idxOf r < l.idxOf a → l'.idxOf r ≤ l'.idxOf a) :
    l'.find? p = l.find? p := by
  cases hl : l.find? p with
  | none =>
      rw [List.find?_eq_none] at hl ⊢
      exact fun a ha => hl a (h.mem_iff.mp ha)
  | some r =>
      obtain ⟨hr, hpr, hleast⟩ := find?_eq_some_iff_idxOf.mp hl
      refine find?_eq_some_iff_idxOf.mpr ⟨h.mem_iff.mpr hr, hpr, fun a ha hpa => ?_⟩
      have hal : a ∈ l := h.mem_iff.mp ha
      rcases Nat.lt_or_eq_of_le (hleast a hal hpa) with hlt | heq
      · exact hkeep r hr a hal hpr hpa hlt
      · obtain rfl := (List.idxOf_inj hr).mp heq
        exact Nat.le_refl _

/-- What holds of all pairs in order holds of two elements in order. -/
theorem rel_of_idxOf_lt {R : α → α → Prop} (h : l.Pairwise R) {a b : α}
    (ha : a ∈ l) (hb : b ∈ l) (hlt : l.idxOf a < l.idxOf b) : R a b := by
  have hR := List.pairwise_iff_getElem.mp h _ _ (List.idxOf_lt_length_of_mem ha)
    (List.idxOf_lt_length_of_mem hb) hlt
  rwa [List.getElem_idxOf, List.getElem_idxOf] at hR

/-- The last element has the greatest position, if none occurs twice. -/
theorem getLast?_eq_some_iff_idxOf (h : l.Nodup) (hr : r ∈ l) :
    l.getLast? = some r ↔ ∀ a ∈ l, l.idxOf a ≤ l.idxOf r := by
  obtain ⟨x, hx⟩ : ∃ x, l.getLast? = some x :=
    ⟨_, List.getLast?_eq_some_getLast (List.ne_nil_of_mem hr)⟩
  rw [hx]
  obtain ⟨before, rfl⟩ := List.getLast?_eq_some_iff.mp hx
  have hfresh : x ∉ before := by
    intro hmem
    exact List.disjoint_of_nodup_append h hmem List.mem_cons_self
  have hlast : (before ++ [x]).idxOf x = before.length := by
    rw [List.idxOf_append_of_notMem hfresh, List.idxOf_cons_self, Nat.add_zero]
  -- the last position is that of the last element, and of no other
  have hbound : ∀ a ∈ before ++ [x], (before ++ [x]).idxOf a ≤ before.length := by
    intro a ha
    have hlt := List.idxOf_lt_length_of_mem ha
    rw [List.length_append] at hlt
    exact Nat.le_of_lt_succ hlt
  constructor
  · intro hxr a ha
    rw [← Option.some.inj hxr, hlast]
    exact hbound a ha
  · intro hmax
    have hle := hmax x (List.mem_append_right _ List.mem_cons_self)
    have heq : (before ++ [x]).idxOf r = (before ++ [x]).idxOf x :=
      Nat.le_antisymm (hlast ▸ hbound r hr) hle
    rw [(List.idxOf_inj hr).mp heq]

end Positions

/-! ## Orders of the table -/

/-- The rules that match together stand in the order of the table. -/
structure Ordered (rules : List Rule) : Prop where
  clearScreen : rules.idxOf ⟨.clearScreen, exact⟩
    < rules.idxOf ⟨.callNative, byFirstNibble⟩
  returnFromSub : rules.idxOf ⟨.returnFromSub, exact⟩
    < rules.idxOf ⟨.callNative, byFirstNibble⟩
  fallback : rules.getLast? = some fallback

theorem nodup_table : table.Nodup := by
  decide +kernel

/-- The unknown shape has one rule. -/
theorem eq_fallback_of_shape {r : Rule} (hr : r ∈ table)
    (h : r.shape = .unknown) : r = fallback := by
  revert r
  decide

/-- Two rules that match one word are the fallback and another, or `callNative`
    and that of a single word. -/
theorem eq_of_matchesWord {r a : Rule} (hr : r ∈ table) (ha : a ∈ table)
    (hlt : table.idxOf r < table.idxOf a) {w : Word}
    (hrw : r.matchesWord w = true) (haw : a.matchesWord w = true) :
    a = fallback ∨ (a = ⟨.callNative, byFirstNibble⟩ ∧
      (r = ⟨.clearScreen, exact⟩ ∨ r = ⟨.returnFromSub, exact⟩)) := by
  have hcall : ∀ a ∈ table, a.shape = .callNative →
      a = ⟨.callNative, byFirstNibble⟩ := by decide
  have hsingle : ∀ r ∈ table, r.mask = exact →
      r = ⟨.clearScreen, exact⟩ ∨ r = ⟨.returnFromSub, exact⟩ := by decide
  rcases rel_of_idxOf_lt pairwise_before hr ha hlt with
    hconf | hfall | ⟨hshape, hexact, -⟩
  · rw [hconf.not_matchesWord haw] at hrw
    exact nomatch hrw
  · exact Or.inl hfall
  · exact Or.inr ⟨hcall a ha hshape, hsingle r hr hexact⟩

/-- Two rules that match one statement are the fallback and another. -/
theorem eq_of_matchesStatement {r a : Rule} (hr : r ∈ table) (ha : a ∈ table)
    (hlt : table.idxOf r < table.idxOf a) {s : Statement}
    (hrs : r.matchesStatement s = true) (has : a.matchesStatement s = true) :
    a = fallback := by
  obtain ⟨hru, hdiff⟩ := rel_of_idxOf_lt pairwise_distinct hr ha hlt
  by_cases hau : a.shape = .unknown
  · exact eq_fallback_of_shape ha hau
  · obtain ⟨hrm, hrk⟩ := (matchesStatement_iff hru s).mp hrs
    obtain ⟨ham, hak⟩ := (matchesStatement_iff hau s).mp has
    rcases hdiff with hm | ⟨-, hk⟩
    · exact absurd (hrm.symm.trans ham) hm
    · exact absurd (hrk.symm.trans hak) hk

section Orders

variable {rules : List Rule} (h : rules.Perm table)

include h

/-- No rule stands behind the fallback of an ordered list. -/
theorem Ordered.le_fallback (ho : Ordered rules) {r : Rule} (hr : r ∈ table) :
    rules.idxOf r ≤ rules.idxOf Rule.fallback :=
  (getLast?_eq_some_iff_idxOf (h.nodup_iff.mpr nodup_table)
    (h.mem_iff.mpr fallback_mem)).mp ho.fallback r (h.mem_iff.mpr hr)

/-- **An ordered list chooses as the table does,** for words and for
    statements. -/
theorem Ordered.scan_eq (ho : Ordered rules) :
    (∀ w, forWord rules w = forWord table w) ∧
      ∀ s, forStatement rules s = forStatement table s := by
  constructor
  · intro w
    rw [forWord, forWord, find?_of_perm h]
    intro r hr a ha hrw haw hlt
    rcases eq_of_matchesWord hr ha hlt hrw haw with rfl | ⟨rfl, rfl | rfl⟩
    · exact ho.le_fallback h hr
    · exact Nat.le_of_lt ho.clearScreen
    · exact Nat.le_of_lt ho.returnFromSub
  · intro s
    rw [forStatement, forStatement, find?_of_perm h]
    intro r hr a ha hrs has hlt
    obtain rfl := eq_of_matchesStatement hr ha hlt hrs has
    exact ho.le_fallback h hr

/-- A rule that is chosen for a word stands before all that match it too. -/
theorem idxOf_lt_of_forWord {w : Word} {r a : Rule} (hw : forWord rules w = r)
    (ha : a ∈ table) (haw : a.matchesWord w = true) (hne : r ≠ a) :
    rules.idxOf r < rules.idxOf a := by
  have hfind : rules.find? (·.matchesWord w) = some r := by
    rw [forWord] at hw
    cases hf : rules.find? (·.matchesWord w) with
    | some r' => rw [hf] at hw; exact congrArg some hw
    | none =>
        have hnone := List.find?_eq_none.mp hf a (h.mem_iff.mpr ha)
        exact absurd haw hnone
  obtain ⟨hr, -, hleast⟩ := find?_eq_some_iff_idxOf.mp hfind
  refine Nat.lt_of_le_of_ne (hleast a (h.mem_iff.mpr ha) haw) fun heq => ?_
  exact hne ((List.idxOf_inj hr).mp heq)

/-- **A list that chooses as the table does for all words is ordered.**  The
    words that show it are those of the shapes without operands, and the fixed
    bits of every shape. -/
theorem ordered_of_forWord (hw : ∀ w, forWord rules w = forWord table w) :
    Ordered rules where
  clearScreen :=
    idxOf_lt_of_forWord h ((hw 0x00E0).trans (by decide)) (by decide) (by decide)
      (by decide)
  returnFromSub :=
    idxOf_lt_of_forWord h ((hw 0x00EE).trans (by decide)) (by decide) (by decide)
      (by decide)
  fallback := by
    have hown : ∀ r ∈ table, r ≠ Rule.fallback →
        forWord table r.shape.base = r := by decide +kernel
    refine (getLast?_eq_some_iff_idxOf (h.nodup_iff.mpr nodup_table)
      (h.mem_iff.mpr fallback_mem)).mpr fun r hr => ?_
    -- every other rule is chosen for its own fixed bits, which the fallback
    -- matches too
    by_cases hr' : r = Rule.fallback
    · exact Nat.le_of_eq (congrArg (rules.idxOf ·) hr')
    · have hrt : r ∈ table := h.mem_iff.mp hr
      exact Nat.le_of_lt (idxOf_lt_of_forWord h ((hw _).trans (hown r hrt hr'))
        fallback_mem (fallback_matchesWord _) hr')

/-- **Which orders of the rules are right.**  An order chooses the rules that
    the table chooses, for every word and every statement, exactly if it keeps
    the single words in front of `callNative` and the fallback last. -/
theorem scan_eq_iff_ordered :
    ((∀ w, forWord rules w = forWord table w) ∧
      ∀ s, forStatement rules s = forStatement table s) ↔ Ordered rules :=
  ⟨fun hscan => ordered_of_forWord h hscan.1, fun ho => ho.scan_eq h⟩

end Orders

/-- An order that keeps three rules where they have to be and reverses the
    others is right, and the reversed table is not. -/
theorem scan_eq_iff_ordered_reversed :
    (∃ rules, rules = (table.drop 3).dropLast.reverse ++ table.take 3 ++ [fallback] ∧
      rules.Perm table ∧ (∀ w, forWord rules w = forWord table w) ∧
      ∀ s, forStatement rules s = forStatement table s) ∧
    table.reverse.Perm table ∧
    ¬ ((∀ w, forWord table.reverse w = forWord table w) ∧
      ∀ s, forStatement table.reverse s = forStatement table s) := by
  have hperm : ((table.drop 3).dropLast.reverse ++ table.take 3 ++ [fallback]).Perm
      table := by decide +kernel
  have hreverse : table.reverse.Perm table := List.reverse_perm table
  refine ⟨⟨_, rfl, hperm, ?_⟩, hreverse, ?_⟩
  · exact (scan_eq_iff_ordered hperm).mpr
      ⟨by decide +kernel, by decide +kernel, by decide +kernel⟩
  · rw [scan_eq_iff_ordered hreverse]
    intro ho
    exact absurd ho.fallback (by decide +kernel)

/-! ## Claimed words -/

/-- Some shape claims the word: a rule that is not the fallback's matches it. -/
def Claimed (w : Word) : Prop :=
  ∃ r ∈ table, r.shape ≠ .unknown ∧ r.matchesWord w = true

instance (w : Word) : Decidable (Claimed w) :=
  inferInstanceAs (Decidable (∃ r ∈ table, _))

/-- **The words that some shape claims** are those that are not unknown. -/
theorem claimed_iff (w : Word) :
    Claimed w ↔ (Instruction.ofWord w).isUnknown = false := by
  obtain ⟨hmem, hmatch⟩ := forWord_spec w
  constructor
  · rintro ⟨r, hr, hru, hrw⟩
    refine beq_eq_false_iff_ne.mpr fun hu => ?_
    have hchosen : forWord table w = fallback := eq_fallback_of_shape hmem hu
    have hne : fallback ≠ r := by
      rintro rfl
      exact hru rfl
    -- nothing stands behind the fallback
    have hlt := idxOf_lt_of_forWord (List.Perm.refl table) hchosen hr hrw hne
    have hle := (getLast?_eq_some_iff_idxOf nodup_table fallback_mem).mp rfl r hr
    exact absurd hlt (Nat.not_lt.mpr hle)
  · intro hu
    exact ⟨_, hmem, beq_eq_false_iff_ne.mp hu, hmatch⟩

end Chip8Assembly.Rule
