import Chip8Assembly.Proofs.Lines
import Chip8Assembly.Proofs.Streams

/-!
# Strictness — a stricter dialect refuses more and changes nothing else

Dialects are ordered by how much they refuse, question by question.  The work
of two dialects is compared by `Traced.Admits`: the laxer one admits what the
stricter one does, with the same value.  Composition keeps this relation, and
so do steps for the elements of a list; hence it holds of every reading, from a
single field to a whole source.

Where the stricter one fails is a question of order.  Of two such walks along
the same list the stricter fails no later (`collect_fails_earlier`), and the
lines of a source are walked in the order of their numbers.
-/

namespace Chip8Assembly

/-! ## The order of dialects -/

/-- What one policy refuses, a stricter one does not pass over. -/
instance : LE LetterPolicy := ⟨fun p q => p = .reject → q = .reject⟩

/-- A stricter dialect is at least as strict in both questions. -/
instance : LE Dialect :=
  ⟨fun d e => d.strict ≤ e.strict ∧ d.unknownOperands ≤ e.unknownOperands⟩

instance (p q : LetterPolicy) : Decidable (p ≤ q) :=
  inferInstanceAs (Decidable (p = .reject → q = .reject))

instance (d e : Dialect) : Decidable (d ≤ e) :=
  inferInstanceAs (Decidable (d.strict ≤ e.strict ∧ _))

/-! ## Work that admits more -/

namespace Traced

variable {ε δ α β : Type}

/-- The first work succeeds whenever the second does, with the same value. -/
def Admits (x y : Traced ε α) : Prop := ∀ a, y.outcome = .ok a → x.outcome = .ok a

namespace Admits

variable {x y : Traced ε α}

theorem refl (x : Traced ε α) : Admits x x := fun _ h => h

/-- When the laxer work fails, so does the stricter. -/
theorem exists_error (h : Admits x y) {fault : ε}
    (hx : x.outcome = .error fault) : ∃ fault', y.outcome = .error fault' := by
  cases hy : y.outcome with
  | error fault' => exact ⟨fault', rfl⟩
  | ok a =>
      rw [h a hy] at hx
      exact nomatch hx

theorem bind {f g : α → Traced ε β} (h : Admits x y)
    (hfg : ∀ a, Admits (f a) (g a)) : Admits (x >>= f) (y >>= g) := by
  intro b hb
  rw [outcome_bind] at hb ⊢
  cases hy : y.outcome with
  | error fault =>
      rw [hy] at hb
      exact nomatch hb
  | ok a =>
      rw [hy] at hb
      rw [h a hy]
      exact hfg a b hb

theorem map (f : α → β) (h : Admits x y) : Admits (f <$> x) (f <$> y) := by
  rw [map_eq_pure_bind, map_eq_pure_bind]
  exact h.bind fun a => refl (pure (f a))

theorem mapFault (f : ε → δ) (h : Admits x y) :
    Admits (x.mapFault f) (y.mapFault f) := by
  intro a ha
  rw [outcome_mapFault] at ha ⊢
  cases hy : y.outcome with
  | error fault =>
      rw [hy] at ha
      exact nomatch ha
  | ok b =>
      rw [hy] at ha
      rw [h b hy]
      exact ha

theorem collect {f g : α → Traced ε β} (h : ∀ a, Admits (f a) (g a))
    (xs : List α) : Admits (collect f xs) (collect g xs) := by
  induction xs with
  | nil => exact refl _
  | cons x xs ih =>
      rw [collect_cons, collect_cons]
      exact (h x).bind fun y => ih.map (y :: ·)

end Admits

/-- **The stricter of two walks along a list fails no later.** -/
theorem collect_fails_earlier {f g : α → Traced ε β}
    (h : ∀ a, Admits (f a) (g a)) {R : α → α → Prop} {xs : List α}
    (hxs : xs.Pairwise R) {fault : ε}
    (hf : (collect f xs).outcome = .error fault) :
    ∃ x y fault', (f x).outcome = .error fault ∧
      (g y).outcome = .error fault' ∧
      (collect g xs).outcome = .error fault' ∧ (y = x ∨ R y x) := by
  obtain ⟨before, x, after, rfl, hbefore, hx⟩ :=
    outcome_collect_eq_error_iff.mp hf
  -- both walks fail by the end of the part that the laxer one gets through
  have hpart : (collect f (before ++ [x])).outcome = .error fault :=
    outcome_collect_eq_error_iff.mpr ⟨before, x, [], rfl, hbefore, hx⟩
  obtain ⟨fault', hg⟩ := (Admits.collect h _).exists_error hpart
  have hwhole : (collect g (before ++ x :: after)).outcome = .error fault' := by
    rw [← List.singleton_append, ← List.append_assoc, outcome_collect_append, hg]
    rfl
  obtain ⟨before', y, after', hsplit, -, hy⟩ :=
    outcome_collect_eq_error_iff.mp hg
  refine ⟨x, y, fault', hx, hy, hwhole, ?_⟩
  have hmem : y ∈ before ++ [x] := by
    rw [hsplit]
    exact List.mem_append_right _ List.mem_cons_self
  rcases List.mem_append.mp hmem with hy | hy
  · exact Or.inr ((List.pairwise_append.mp hxs).2.2 y hy x List.mem_cons_self)
  · exact Or.inl (List.mem_singleton.mp hy)

end Traced

/-! ## Readings of two dialects -/

namespace Statement

variable {p q : LetterPolicy}

theorem admits_readOperand (h : p ≤ q) (token : Text) :
    (readOperand p token).Admits (readOperand q token) := by
  intro o ho
  unfold readOperand at ho ⊢
  cases hread : Operand.read? token with
  | error cause =>
      rw [hread] at ho
      exact ho
  | ok found =>
      rw [hread] at ho
      cases found with
      | some operand => exact ho
      | none =>
          -- only a letter that is not known is read by the policy
          cases q with
          | reject => exact nomatch ho
          | drop =>
              cases p with
              | drop => exact ho
              | reject => exact nomatch h rfl

theorem admits_read (h : p ≤ q) (line : Text) :
    (read p line).Admits (read q line) := by
  rw [read, read]
  cases Text.fields (Text.uncommented line) with
  | nil => exact .refl _
  | cons mnemonic tokens =>
      exact (Traced.Admits.collect (admits_readOperand h) tokens).bind
        fun _ => .refl _

/-- A field that is refused is malformed, or the policy rejects its letter. -/
theorem fault_of_readOperand {token : Text} {fault : Fault}
    (h : (readOperand p token).outcome = .error fault) :
    (∃ token cause, fault = .malformedOperand token cause) ∨
      p = .reject ∧ ∃ token, fault = .unknownLetter token := by
  unfold readOperand at h
  cases hread : Operand.read? token with
  | error cause =>
      rw [hread] at h
      exact Or.inl ⟨token, cause, (Except.error.inj h).symm⟩
  | ok found =>
      rw [hread] at h
      cases found with
      | some operand => exact nomatch h
      | none =>
          cases p with
          | drop => exact nomatch h
          | reject => exact Or.inr ⟨rfl, token, (Except.error.inj h).symm⟩

theorem fault_of_read {line : Text} {fault : Fault}
    (h : (read p line).outcome = .error fault) :
    (∃ token cause, fault = .malformedOperand token cause) ∨
      p = .reject ∧ ∃ token, fault = .unknownLetter token := by
  rw [read] at h
  cases hfields : Text.fields (Text.uncommented line) with
  | nil =>
      rw [hfields] at h
      exact nomatch h
  | cons mnemonic tokens =>
      rw [hfields, ofFields, Traced.outcome_bind] at h
      cases hfound : (Traced.collect (readOperand p) tokens).outcome with
      | ok found =>
          rw [hfound] at h
          exact nomatch h
      | error fault' =>
          rw [hfound] at h
          obtain rfl : fault' = fault := Except.error.inj h
          obtain ⟨_, token, _, _, _, htoken⟩ :=
            Traced.outcome_collect_eq_error_iff.mp hfound
          exact fault_of_readOperand htoken

end Statement

namespace Dialect

variable {d e : Dialect}

theorem admits_checked (h : d ≤ e) (fault : Fault) (ins : Instruction) :
    (Traced.ofExcept (d.checked fault ins)).Admits
      (.ofExcept (e.checked fault ins)) := by
  intro i hi
  obtain ⟨rfl, hknown⟩ := checked_eq_ok_iff.mp hi
  exact checked_eq_ok_iff.mpr ⟨rfl, fun hs => hknown (h.1 hs)⟩

theorem admits_decode (h : d ≤ e) (w : Word) : (d.decode w).Admits (e.decode w) :=
  (Traced.Admits.refl _).bind fun _ => admits_checked h _ _

theorem admits_decodeStream (h : d ≤ e) (stream : List Byte) :
    (d.decodeStream stream).Admits (e.decodeStream stream) :=
  (Traced.Admits.refl _).bind fun ws => .collect (admits_decode h) ws

theorem admits_parse (h : d ≤ e) (line : Text) :
    (d.parse line).Admits (e.parse line) :=
  (Statement.admits_read h.2 line).bind fun _ =>
    (Traced.Admits.refl _).bind fun _ => admits_checked h _ _

theorem admits_assembleLine (h : d ≤ e) (line : Text × Nat) :
    (d.assembleLine line).Admits (e.assembleLine line) :=
  ((admits_parse h line.1).mapFault _).bind fun _ => .refl _

theorem admits_assemble (h : d ≤ e) (source : Text) :
    (d.assemble source).Admits (e.assemble source) :=
  (Traced.Admits.collect (admits_assembleLine h) _).bind fun _ => .refl _

/-- **The faults of a line,** and which dialects they belong to. -/
theorem fault_of_parse {line : Text} {fault : Fault}
    (h : (d.parse line).outcome = .error fault) :
    (∃ token cause, fault = .malformedOperand token cause) ∨
      (d.unknownOperands = .reject ∧ ∃ token, fault = .unknownLetter token) ∨
      (d.strict = true ∧ fault = .unclassifiedLine line) := by
  rw [outcome_parse] at h
  cases hread : (Statement.read d.unknownOperands line).outcome with
  | error fault' =>
      rw [hread] at h
      obtain rfl : fault' = fault := Except.error.inj h
      exact (Statement.fault_of_read hread).imp_right Or.inl
  | ok s =>
      rw [hread] at h
      obtain ⟨hs, -, rfl⟩ := checked_eq_error_iff.mp h
      exact Or.inr (Or.inr ⟨hs, rfl⟩)

/-- **A stricter dialect fails on no later line.** -/
theorem fails_earlier_of_le (h : d ≤ e) {source : Text} {fault : Fault}
    (hd : (d.assemble source).outcome = .error fault) :
    ∃ n cause m cause', fault = .onLine n cause ∧ m ≤ n ∧
      (e.assemble source).outcome = .error (.onLine m cause') := by
  obtain ⟨x, y, _, hx, hy, he, horder⟩ := Traced.collect_fails_earlier
    (admits_assembleLine h) (Text.pairwise_contentLines source)
    (outcome_assemble_eq_error_iff.mp hd)
  obtain ⟨cause, -, rfl⟩ := outcome_assembleLine_eq_error_iff.mp hx
  obtain ⟨cause', -, rfl⟩ := outcome_assembleLine_eq_error_iff.mp hy
  refine ⟨x.2, cause, y.2, cause', rfl, ?_, outcome_assemble_eq_error_iff.mpr he⟩
  rcases horder with rfl | hlt
  · exact Nat.le_refl _
  · exact Nat.le_of_lt hlt

/-! ## Words and streams -/

/-- A word that one dialect refuses is refused alike by a stricter one. -/
theorem decode_error_of_le (h : d ≤ e) {w : Word} {fault : Fault}
    (hd : (d.decode w).outcome = .error fault) :
    (e.decode w).outcome = .error fault := by
  obtain ⟨hs, hrefused⟩ := outcome_decode_eq_error_iff.mp hd
  exact outcome_decode_eq_error_iff.mpr ⟨h.1 hs, hrefused⟩

theorem decodeStream_error_of_le (h : d ≤ e) {stream : List Byte} {fault : Fault}
    (hd : (d.decodeStream stream).outcome = .error fault) :
    (e.decodeStream stream).outcome = .error fault := by
  rcases Nat.mod_two_eq_zero_or_one stream.length with heven | hodd
  · obtain ⟨ws, rfl⟩ := Word.exists_flatten_eq heven
    obtain ⟨hs, hrefused⟩ := outcome_decodeStream_flatten_eq_error_iff.mp hd
    exact outcome_decodeStream_flatten_eq_error_iff.mpr ⟨h.1 hs, hrefused⟩
  · rw [decodeStream_of_odd d hodd] at hd
    rwa [decodeStream_of_odd e hodd]

/-! ## The whole of it -/

/-- **A stricter dialect refuses more and changes nothing else.**  What it
    accepts, a laxer one accepts with the same result, and what the laxer one
    refuses, it refuses too, on a line that comes no later.  The two dialects
    that are not strict have few reasons to refuse a source. -/
theorem stricter_refuses_more (h : d ≤ e) :
    (∀ source bytes, (e.assemble source).outcome = .ok bytes →
      (d.assemble source).outcome = .ok bytes) ∧
    (∀ source fault, (d.assemble source).outcome = .error fault →
      ∃ n cause m cause', fault = .onLine n cause ∧ m ≤ n ∧
        (e.assemble source).outcome = .error (.onLine m cause')) ∧
    (∀ line i, (e.parse line).outcome = .ok i →
      (d.parse line).outcome = .ok i) ∧
    (∀ line fault, (d.parse line).outcome = .error fault →
      ∃ fault', (e.parse line).outcome = .error fault') ∧
    (∀ w i, (e.decode w).outcome = .ok i → (d.decode w).outcome = .ok i) ∧
    (∀ w fault, (d.decode w).outcome = .error fault →
      (e.decode w).outcome = .error fault) ∧
    (∀ stream is, (e.decodeStream stream).outcome = .ok is →
      (d.decodeStream stream).outcome = .ok is) ∧
    (∀ stream fault, (d.decodeStream stream).outcome = .error fault →
      (e.decodeStream stream).outcome = .error fault) ∧
    (∀ source fault, (permissive.assemble source).outcome = .error fault →
      ∃ n token cause, fault = .onLine n (.malformedOperand token cause)) ∧
    (∀ source fault, (assemble ⟨false, .reject⟩ source).outcome = .error fault →
      ∃ n, (∃ token cause, fault = .onLine n (.malformedOperand token cause)) ∨
        ∃ token, fault = .onLine n (.unknownLetter token)) := by
  refine ⟨admits_assemble h, fun source fault => fails_earlier_of_le h,
    admits_parse h, fun line fault => (admits_parse h line).exists_error,
    admits_decode h, fun w fault => decode_error_of_le h,
    admits_decodeStream h, fun stream fault => decodeStream_error_of_le h, ?_, ?_⟩
  · intro source fault hfault
    obtain ⟨line, -, cause, hline, rfl⟩ := exists_line_of_assemble hfault
    rcases fault_of_parse hline with ⟨token, why, rfl⟩ | ⟨hpolicy, -⟩ | ⟨hs, -⟩
    · exact ⟨line.2, token, why, rfl⟩
    · exact nomatch hpolicy
    · exact nomatch hs
  · intro source fault hfault
    obtain ⟨line, -, cause, hline, rfl⟩ := exists_line_of_assemble hfault
    rcases fault_of_parse hline with ⟨token, why, rfl⟩ | ⟨-, token, rfl⟩ | ⟨hs, -⟩
    · exact ⟨line.2, Or.inl ⟨token, why, rfl⟩⟩
    · exact ⟨line.2, Or.inr ⟨token, rfl⟩⟩
    · exact nomatch hs

/-- A source that the laxest dialect refuses on its third line, and a stricter
    one before that. -/
theorem stricter_refuses_second_line :
    permissive ≤ ⟨true, .reject⟩ ∧
    (permissive.assemble "CLS\nJMP q1 a200\nJMP azz\n".toList).outcome
      = .error (.onLine 3 (.malformedOperand "azz".toList .invalidDigit)) ∧
    ∃ m cause, m ≤ 3 ∧
      (assemble ⟨true, .reject⟩ "CLS\nJMP q1 a200\nJMP azz\n".toList).outcome
        = .error (.onLine m cause) := by
  have hle : permissive ≤ ⟨true, .reject⟩ := by decide
  have hlax : (permissive.assemble "CLS\nJMP q1 a200\nJMP azz\n".toList).outcome
      = .error (.onLine 3 (.malformedOperand "azz".toList .invalidDigit)) := by
    decide
  obtain ⟨n, _, m, cause, hn, hm, hstrict⟩ :=
    (stricter_refuses_more hle).2.1 _ _ hlax
  obtain ⟨rfl, -⟩ := Fault.onLine.inj hn
  exact ⟨hle, hlax, m, cause, hm, hstrict⟩

end Dialect

end Chip8Assembly
