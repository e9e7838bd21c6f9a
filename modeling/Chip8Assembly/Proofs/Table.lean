import Chip8Assembly.Proofs.Slots
import Chip8Assembly.Rule

/-!
# The table — which rule decides

A word or a statement goes to the first rule of the table that matches it, and
the last one matches everything.  What makes the table easy to reason about is
that the order hardly matters:

* `forWord_eq` — a shape whose rule matches a word gets the word, unless no
  other shape is left for it or the word is one of the two that `callNative`
  yields;
* `shape_forStatement` — a shape whose mnemonic and kinds a statement has gets
  the statement.

Both rest on facts about pairs of rules that hold of the concrete table by
computation.
-/

namespace Chip8Assembly.Rule

/-! ## First matches -/

/-- The first match is an element that matches, if the elements before it are
    known not to. -/
theorem find?_of_pairwise {α : Type} {l : List α} {R : α → α → Prop}
    (hl : l.Pairwise R) {p : α → Bool} {r : α} (hr : r ∈ l) (hp : p r = true)
    (hR : ∀ a ∈ l, R a r → p a = false) : l.find? p = some r := by
  obtain ⟨before, after, rfl⟩ := List.append_of_mem hr
  refine List.find?_eq_some_iff_append.mpr ⟨hp, before, after, rfl, ?_⟩
  intro a ha
  have hRa : R a r :=
    (List.pairwise_append.mp hl).2.2 a ha r List.mem_cons_self
  rw [hR a (List.mem_append_left _ ha) hRa]
  rfl

/-- With a default that matches itself, what is found is in the list and
    matches. -/
theorem find?_getD_spec {α : Type} {l : List α} {p : α → Bool} {d : α}
    (hd : d ∈ l) (hp : p d = true) :
    (l.find? p).getD d ∈ l ∧ p ((l.find? p).getD d) = true := by
  cases h : l.find? p with
  | none => exact ⟨hd, hp⟩
  | some r => exact ⟨List.mem_of_find?_eq_some h, List.find?_some h⟩

theorem fallback_mem : fallback ∈ table := by
  decide

theorem fallback_matchesWord (w : Word) : fallback.matchesWord w = true := by
  show (w &&& 0#16 == 0#16) = true
  rw [BitVec.and_zero]
  rfl

/-- The rule chosen for a word is in the table and matches it. -/
theorem forWord_spec (w : Word) :
    forWord table w ∈ table ∧ (forWord table w).matchesWord w = true :=
  find?_getD_spec fallback_mem (fallback_matchesWord w)

/-- The rule chosen for a statement is in the table and matches it. -/
theorem forStatement_spec (s : Statement) :
    forStatement table s ∈ table
      ∧ (forStatement table s).matchesStatement s = true :=
  find?_getD_spec fallback_mem rfl

/-- Every shape has a rule. -/
theorem exists_rule (s : Shape) : ∃ r ∈ table, r.shape = s :=
  List.mem_map.mp (map_shape_table ▸ Shape.mem_all s)

/-! ## Words -/

theorem matchesWord_iff (r : Rule) (w : Word) :
    r.matchesWord w = true ↔ w &&& r.mask = r.shape.base &&& r.mask :=
  beq_iff_eq

/-- Two rules in conflict fix a bit to different values. -/
def Conflict (r r' : Rule) : Prop :=
  r.shape.base &&& r.mask &&& r'.mask ≠ r'.shape.base &&& r'.mask &&& r.mask

instance (r r' : Rule) : Decidable (Conflict r r') :=
  inferInstanceAs (Decidable (_ ≠ _))

/-- No word matches two rules in conflict. -/
theorem Conflict.not_matchesWord {r r' : Rule} (h : Conflict r r') {w : Word}
    (hr : r'.matchesWord w = true) : r.matchesWord w = false := by
  cases hw : r.matchesWord w with
  | false => rfl
  | true =>
      refine absurd ?_ h
      rw [← (matchesWord_iff r w).mp hw, ← (matchesWord_iff r' w).mp hr,
        BitVec.and_assoc, BitVec.and_assoc, BitVec.and_comm r.mask]

/-- How a rule stands to a later one in the table: the two conflict, unless the
    later one is the fallback, or a single word is taken from the words of
    `callNative`. -/
def Before (r r' : Rule) : Prop :=
  Conflict r r' ∨ r' = fallback ∨
    (r'.shape = .callNative ∧ r.mask = exact ∧
      (r.shape.base = 0x00E0 ∨ r.shape.base = 0x00EE))

instance (r r' : Rule) : Decidable (Before r r') :=
  inferInstanceAs (Decidable (_ ∨ _))

theorem pairwise_before : table.Pairwise Before := by
  decide +kernel

/-- **A rule that matches a word is the one chosen for it,** unless it is the
    fallback, or that of `callNative` and the word clears the screen or
    returns. -/
theorem forWord_eq {r : Rule} {w : Word} (hr : r ∈ table)
    (hw : r.matchesWord w = true) (hf : r ≠ fallback)
    (hn : r.shape = .callNative → w ≠ 0x00E0 ∧ w ≠ 0x00EE) :
    forWord table w = r := by
  have hfind : table.find? (·.matchesWord w) = some r := by
    -- an earlier rule fixes other bits, or is that of a single word
    refine find?_of_pairwise pairwise_before hr hw ?_
    rintro a - (hconf | hfall | ⟨hcall, hexact, hbase⟩)
    · exact hconf.not_matchesWord hw
    · exact absurd hfall hf
    · -- a rule that is exact matches its own word only
      obtain ⟨hcls, hrtn⟩ := hn hcall
      cases ha : a.matchesWord w with
      | false => rfl
      | true =>
          have hwa : w = a.shape.base := by
            have h := (matchesWord_iff a w).mp ha
            rwa [hexact, show exact = BitVec.allOnes 16 from rfl,
              BitVec.and_allOnes, BitVec.and_allOnes] at h
          rcases hbase with h | h
          · exact absurd (hwa.trans h) hcls
          · exact absurd (hwa.trans h) hrtn
  rw [forWord, hfind]
  rfl

/-! ## Statements -/

theorem matchesStatement_iff {r : Rule} (hr : r.shape ≠ .unknown)
    (s : Statement) :
    r.matchesStatement s = true ↔
      s.mnemonic = r.shape.mnemonic ∧ s.kinds = r.shape.kinds := by
  unfold matchesStatement Shape.accepts
  split
  · contradiction
  · rw [Bool.and_eq_true, beq_iff_eq, beq_iff_eq]

/-- Two shapes are told apart in text by their mnemonics or, if neither is
    unknown, by the kinds of their operands. -/
def Distinct (r r' : Rule) : Prop :=
  r.shape ≠ .unknown ∧ (r.shape.mnemonic ≠ r'.shape.mnemonic ∨
    (r'.shape ≠ .unknown ∧ r.shape.kinds ≠ r'.shape.kinds))

instance (r r' : Rule) : Decidable (Distinct r r') :=
  inferInstanceAs (Decidable (_ ∧ _))

theorem pairwise_distinct : table.Pairwise Distinct := by
  decide +kernel

/-- **A shape gets every statement with its mnemonic and operands of its
    kinds;** the unknown one gets all that have its mnemonic. -/
theorem shape_forStatement {s : Shape} {os : List Operand}
    (h : s = .unknown ∨ os.map Operand.kind = s.kinds) :
    (forStatement table ⟨s.mnemonic, os⟩).shape = s := by
  obtain ⟨r, hr, rfl⟩ := exists_rule s
  have hmatch : r.matchesStatement ⟨r.shape.mnemonic, os⟩ = true := by
    rcases h with hu | hk
    · rw [matchesStatement, hu]
    · by_cases hu : r.shape = .unknown
      · rw [matchesStatement, hu]
      · exact (matchesStatement_iff hu _).mpr ⟨rfl, hk⟩
  have hfind : table.find? (·.matchesStatement ⟨r.shape.mnemonic, os⟩)
      = some r := by
    refine find?_of_pairwise pairwise_distinct hr hmatch ?_
    rintro a - ⟨hau, hne⟩
    cases ha : a.matchesStatement ⟨r.shape.mnemonic, os⟩ with
    | false => rfl
    | true =>
        obtain ⟨hm, hk⟩ := (matchesStatement_iff hau _).mp ha
        rcases hne with hne | ⟨hru, hne⟩
        · exact absurd hm.symm hne
        · exact absurd (hk.symm.trans (h.resolve_left hru)) hne
  rw [forStatement, hfind]
  rfl

end Chip8Assembly.Rule
