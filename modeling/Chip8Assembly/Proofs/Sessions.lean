import Chip8Assembly.Proofs.Sameness

/-!
# Sessions — what holds of every instruction that comes about

A step of a session changes its dialect, or makes an instruction and holds it,
or leaves the session as it was (`step_cases`).  So a session that holds nothing
at first holds nothing but well-formed instructions (`sound_after`), in whatever
order words, lines and parts follow one another and whatever they are taken
from: `set` follows any recipe, also one taken from an answer given long before.
`holding_invariant` says what this comes to.

An instruction that was read from a word is found again by every step that
writes it in some way and reads what it wrote.  Its word is canonical already,
so it does not matter how many such steps follow one another, and in which
order (`run_confirms_decoded`).
-/

namespace Chip8Assembly

namespace Session

/-! ## Steps -/

theorem step_eq_follow {s : Session} {st : Step} {r : Recipe}
    (h : s.recipe? st = some r) : s.step st = s.follow r := by
  cases st with
  | configure d => exact nomatch h
  | _ => simp only [step, h]

/-- A recipe that can be followed leads to an instruction that is held. -/
theorem step_of_make {s : Session} {st : Step} {r : Recipe} {i : Instruction}
    (hr : s.recipe? st = some r) (hi : (r.make s.dialect).outcome = .ok i) :
    s.step st
      = ({ s with held := some i }, .holding i (s.held.any i.sameAs)) := by
  rw [step_eq_follow hr, follow, hi]

/-- **What a step does:** it changes the dialect, or it has nothing to work on,
    or its recipe fails and nothing changes, or it holds what it has made. -/
theorem step_cases (s : Session) (st : Step) :
    (∃ d, st = .configure d ∧
      s.step st = ({ s with dialect := d }, .configured)) ∨
    (s.recipe? st = none ∧ s.step st = (s, .nothingHeld)) ∨
    (∃ r fault, s.recipe? st = some r ∧
      (r.make s.dialect).outcome = .error fault ∧
      s.step st = (s, .refused fault)) ∨
    ∃ r i, s.recipe? st = some r ∧ (r.make s.dialect).outcome = .ok i ∧
      s.step st
        = ({ s with held := some i }, .holding i (s.held.any i.sameAs)) := by
  cases hr : s.recipe? st with
  | none =>
      cases st with
      | configure d => exact Or.inl ⟨d, rfl, rfl⟩
      | _ => exact Or.inr (Or.inl ⟨rfl, by simp only [step, hr]⟩)
  | some r =>
      refine Or.inr (Or.inr ?_)
      cases hi : (r.make s.dialect).outcome with
      | error fault =>
          refine Or.inl ⟨r, fault, rfl, hi, ?_⟩
          rw [step_eq_follow hr, follow, hi]
      | ok i => exact Or.inr ⟨r, i, rfl, hi, step_of_make hr hi⟩

/-- A step shows the instruction that is held from then on, or it shows none and
    holds what was held before. -/
theorem held_step (s : Session) (st : Step) :
    (∃ i same, i.WellFormed ∧ (s.step st).1.held = some i ∧
      (s.step st).2 = .holding i same) ∨
    ((s.step st).1.held = s.held ∧ ∀ i same, (s.step st).2 ≠ .holding i same) := by
  rcases s.step_cases st with
    ⟨d, -, hst⟩ | ⟨-, hst⟩ | ⟨_, fault, -, -, hst⟩ | ⟨r, i, -, hi, hst⟩
  · rw [hst]
    exact Or.inr ⟨rfl, nofun⟩
  · rw [hst]
    exact Or.inr ⟨rfl, nofun⟩
  · rw [hst]
    exact Or.inr ⟨rfl, nofun⟩
  · rw [hst]
    exact Or.inl ⟨i, _, Instruction.wellFormed_of_make hi, rfl, rfl⟩

/-! ## Every instruction of a run -/

/-- What the session holds is well-formed. -/
def Sound (s : Session) : Prop := ∀ i, s.held = some i → i.WellFormed

theorem sound_start (d : Dialect) : (start d).Sound := by
  intro i hi
  exact nomatch hi

theorem sound_step {s : Session} (h : s.Sound) (st : Step) :
    (s.step st).1.Sound := by
  intro i hi
  rcases s.held_step st with ⟨j, _, hj, hheld, -⟩ | ⟨hkept, -⟩
  · obtain rfl : j = i := Option.some.inj (hheld.symm.trans hi)
    exact hj
  · exact h i (hkept.symm.trans hi)

/-- The session that steps lead to. -/
def after (s : Session) (steps : List Step) : Session :=
  steps.foldl (fun s st => (s.step st).1) s

theorem sound_after {s : Session} (h : s.Sound) (steps : List Step) :
    (s.after steps).Sound := by
  induction steps generalizing s with
  | nil => exact h
  | cons st steps ih => exact ih (sound_step h st)

/-- Every instruction that a run shows was held on the way. -/
theorem exists_after_of_mem_run {s : Session} {steps : List Step}
    {i : Instruction} {same : Bool} (h : .holding i same ∈ s.run steps) :
    ∃ before, before <+: steps ∧ (s.after before).held = some i := by
  induction steps generalizing s with
  | nil => exact nomatch h
  | cons st steps ih =>
      rcases List.mem_cons.mp h with hfirst | hrest
      · rcases s.held_step st with ⟨j, _, -, hheld, hshown⟩ | ⟨-, hnone⟩
        · obtain ⟨rfl, -⟩ := Answer.holding.inj (hfirst.trans hshown)
          exact ⟨[st], ⟨steps, rfl⟩, hheld⟩
        · exact absurd hfirst.symm (hnone i same)
      · obtain ⟨before, hbefore, hheld⟩ := ih hrest
        exact ⟨st :: before, List.cons_prefix_cons.mpr ⟨rfl, hbefore⟩, hheld⟩

/-- **Every instruction of a run is well-formed.** -/
theorem wellFormed_of_mem_run {d : Dialect} {steps : List Step}
    {i : Instruction} {same : Bool}
    (h : .holding i same ∈ (start d).run steps) : i.WellFormed := by
  obtain ⟨before, -, hheld⟩ := exists_after_of_mem_run h
  exact sound_after (sound_start d) before i hheld

/-- **What every instruction of a run satisfies.**  Its operands are of the
    kinds of its shape, unless it is unknown; it comes from a word or from a
    line or from neither; if it comes from a word, it is what the word stands
    for, with operands that fit.  It can be put together again from its shape
    and its operands, with its word and its line, though it is not read from
    them then. -/
theorem holding_invariant {d : Dialect} {steps : List Step} {i : Instruction}
    {same : Bool} (h : .holding i same ∈ (start d).run steps) :
    (i.isUnknown = false → i.operands.map Operand.kind = i.shape.kinds) ∧
    (i.raw = none ∨ i.source = none) ∧
    (∀ w, i.raw = some w → i.sameAs (.ofWord w) = true ∧
      (∀ o ∈ i.operands, o.Fits) ∧
      (i.isUnknown = true → i.operands = [⟨.raw, w⟩])) ∧
    ∃ j, Instruction.build i.shape i.operands = .ok j ∧
      j.sameAs i = true ∧ j.encode = i.encode ∧ j.render = i.render ∧
      j.raw = none ∧ j.source = none := by
  have hi : i.WellFormed := wellFormed_of_mem_run h
  refine ⟨?_, ?_, ?_, ?_⟩
  · intro hu
    exact hi.kinds.resolve_left (beq_eq_false_iff_ne.mp hu)
  · exact hi.origin
  · intro w hw
    obtain rfl : i = .ofWord w := hi.word w hw
    refine ⟨Instruction.sameAs_refl _, Instruction.forall_fits_ofWord w, ?_⟩
    intro hu
    exact Instruction.operands_ofWord_of_unknown (beq_iff_eq.mp hu)
  · obtain ⟨j, hj, hraw, hsource, hsame, hencode, hrender⟩ :=
      Instruction.exists_build hi
    exact ⟨j, hj, hsame, hencode, hrender, hraw, hsource⟩

/-- A line that no shape claims, the word that it echoes, and what becomes of the
    two under other dialects and in another shape. -/
theorem holding_invariant_echo :
    ∃ (steps : List Step) (i : Instruction),
      steps = [.set (.line "FOO rffff v2".toList), .redecode, .recast .jump,
        .configure ⟨true, .reject⟩, .rebuild, .configure .permissive,
        .redecode] ∧
      .holding i true ∈ (start .permissive).run steps ∧
      i.raw = some 0xFFFF ∧ i.sameAs (.ofWord 0xFFFF) = true ∧
      i.operands = [⟨.raw, 0xFFFF⟩] ∧
      ∃ j, Instruction.build i.shape i.operands = .ok j ∧
        j.sameAs i = true ∧ j.encode = i.encode ∧ j.render = i.render ∧
        j.raw = none ∧ j.source = none := by
  have hmem : .holding ⟨.unknown, [⟨.raw, 0xFFFF⟩], some 0xFFFF, none⟩ true
      ∈ (start .permissive).run
        [.set (.line "FOO rffff v2".toList), .redecode, .recast .jump,
          .configure ⟨true, .reject⟩, .rebuild, .configure .permissive,
          .redecode] := by decide
  obtain ⟨-, -, hword, hbuild⟩ := holding_invariant hmem
  obtain ⟨hsame, -, hecho⟩ := hword 0xFFFF rfl
  exact ⟨_, _, rfl, hmem, rfl, hsame, hecho rfl, hbuild⟩

end Session

/-! ## Instructions that were read from words -/

/-- The dialect does not refuse the instruction for being unknown. -/
def Dialect.Takes (d : Dialect) (i : Instruction) : Prop :=
  d.strict = true → i.isUnknown = false

instance (d : Dialect) (i : Instruction) : Decidable (d.Takes i) :=
  inferInstanceAs (Decidable (_ → _))

/-- The step has the held instruction written and read again, or goes over to a
    dialect that takes the instruction `h`. -/
def Step.Revisits (h : Instruction) : Step → Prop
  | .configure d => d.Takes h
  | .redecode => True
  | .reparse => True
  | .rebuild => True
  | _ => False

instance (h : Instruction) (st : Step) : Decidable (st.Revisits h) :=
  match st with
  | .configure d => inferInstanceAs (Decidable (d.Takes h))
  | .redecode => isTrue trivial
  | .reparse => isTrue trivial
  | .rebuild => isTrue trivial
  | .set _ => isFalse id
  | .reread => isFalse id
  | .recast _ => isFalse id

/-- The answer to such a step is that the instruction `h` is found again. -/
def Answer.Confirms (h : Instruction) : Step → Answer → Prop
  | .configure _, answer => answer = .configured
  | _, answer => ∃ i, answer = .holding i true ∧ i.sameAs h = true ∧
      i.encode = h.encode

theorem Dialect.checked_of_takes {d : Dialect} {i : Instruction}
    (h : d.Takes i) (fault : Fault) : d.checked fault i = .ok i :=
  checked_eq_ok_iff.mpr ⟨rfl, h⟩

theorem Dialect.takes_congr {d : Dialect} {i j : Instruction}
    (h : i.sameAs j = true) (hj : d.Takes j) : d.Takes i := by
  intro hs
  rw [Instruction.isUnknown_congr h]
  exact hj hs

/-- **The word of an instruction that was read from a word** is read as the same
    instruction. -/
theorem Instruction.ofWord_encode_of_sameAs {i : Instruction} {w : Word}
    (hi : i.WellFormed) (h : i.sameAs (ofWord w) = true) :
    (ofWord i.encode).sameAs (ofWord w) = true := by
  rw [encode_congr hi (wellFormed_ofWord w) h, encode_ofWord]
  exact ofWord_canonical w

namespace Session

/-- The session holds what the word stands for, in a dialect that takes it. -/
structure Holds (w : Word) (s : Session) : Prop where
  takes : s.dialect.Takes (.ofWord w)
  held : ∃ i, s.held = some i ∧ i.WellFormed ∧ i.sameAs (.ofWord w) = true

variable {s : Session} {w : Word}

/-- A step that makes the instruction of the word again. -/
theorem Holds.of_make (hs : s.Holds w) {st : Step} {r : Recipe}
    {i : Instruction} (hr : s.recipe? st = some r)
    (hi : (r.make s.dialect).outcome = .ok i) (h : i.sameAs (.ofWord w) = true) :
    (s.step st).1.Holds w ∧ ∃ j, (s.step st).2 = .holding j true ∧
      j.sameAs (.ofWord w) = true ∧ j.encode = (Instruction.ofWord w).encode := by
  have hwf : i.WellFormed := Instruction.wellFormed_of_make hi
  obtain ⟨k, hk, -, hsame⟩ := hs.held
  -- the one before was the same too
  have hagain : s.held.any i.sameAs = true := by
    rw [hk]
    exact Instruction.sameAs_trans h (Instruction.sameAs_symm hsame)
  rw [step_of_make hr hi, hagain]
  exact ⟨⟨hs.takes, i, rfl, hwf, h⟩, i, rfl, h,
    Instruction.encode_congr hwf (Instruction.wellFormed_ofWord w) h⟩

/-- One step finds the instruction again. -/
theorem Holds.step_confirms (hs : s.Holds w) {st : Step}
    (hst : st.Revisits (.ofWord w)) :
    (s.step st).1.Holds w ∧ Answer.Confirms (.ofWord w) st (s.step st).2 := by
  obtain ⟨i, hheld, hi, hsame⟩ := hs.held
  cases st with
  | configure d => exact ⟨⟨hst, hs.held⟩, rfl⟩
  | redecode =>
      have hsame' := Instruction.ofWord_encode_of_sameAs hi hsame
      have hr : s.recipe? .redecode = some (.word i.encode) := by
        rw [recipe?, hheld, Option.map_some]
      exact hs.of_make hr
        (Dialect.checked_of_takes (Dialect.takes_congr hsame' hs.takes) _) hsame'
  | reparse =>
      have hsame' : i.reread.sameAs (.ofWord w) = true := hsame
      have hr : s.recipe? .reparse = some (.line i.render) := by
        rw [recipe?, hheld, Option.map_some]
      have hmake : (Recipe.make s.dialect (.line i.render)).outcome
          = .ok i.reread := by
        rw [Recipe.make, Instruction.outcome_parse_render hi]
        exact Dialect.checked_of_takes (Dialect.takes_congr hsame' hs.takes) _
      exact hs.of_make hr hmake hsame'
  | rebuild =>
      obtain ⟨j, hj, -, -, hji, -⟩ := Instruction.exists_build hi
      have hr : s.recipe? .rebuild = some (.parts i.shape i.operands) := by
        rw [recipe?, hheld, Option.map_some]
      exact hs.of_make hr hj (Instruction.sameAs_trans hji hsame)
  | set recipe => exact hst.elim
  | reread => exact hst.elim
  | recast shape => exact hst.elim

theorem Holds.run_confirms (hs : s.Holds w) {steps : List Step}
    (hsteps : ∀ st ∈ steps, st.Revisits (.ofWord w)) :
    List.Forall₂ (Answer.Confirms (.ofWord w)) steps (s.run steps) := by
  induction steps generalizing s with
  | nil => exact .nil
  | cons st steps ih =>
      obtain ⟨hnext, hanswer⟩ := hs.step_confirms (hsteps st List.mem_cons_self)
      refine .cons hanswer (ih hnext ?_)
      intro st' hst'
      exact hsteps st' (List.mem_cons_of_mem st hst')

/-- **Reading an instruction from its word settles it.**  Whatever the word of
    an instruction is read as, any number of steps that write it as a word, as a
    line or as its parts, and read what they wrote, find it again with its word,
    as long as no strict dialect meets an unknown one. -/
theorem run_confirms_decoded (i : Instruction) {d : Dialect}
    (hd : d.Takes (.ofWord i.encode)) {steps : List Step}
    (hsteps : ∀ st ∈ steps, st.Revisits (.ofWord i.encode)) :
    ∃ h, (d.decode i.encode).outcome = .ok h ∧ h = .ofWord i.encode ∧
      List.Forall₂ (Answer.Confirms h) steps (run ⟨d, some h⟩ steps) := by
  have hholds : Holds i.encode ⟨d, some (.ofWord i.encode)⟩ :=
    ⟨hd, _, rfl, Instruction.wellFormed_ofWord _, Instruction.sameAs_refl _⟩
  exact ⟨_, Dialect.checked_of_takes hd _, rfl, hholds.run_confirms hsteps⟩

/-- An unknown line whose value is too wide for its kind: the word that it
    echoes is that of a comparison, with a nibble to lose. -/
theorem run_confirms_decoded_comparison :
    ∃ (i h : Instruction) (steps : List Step),
      (Dialect.permissive.parse "FOO v5012".toList).outcome = .ok i ∧
      i.isUnknown = true ∧ i.encode = 0x5012 ∧
      steps = [.redecode, .reparse, .configure ⟨true, .reject⟩, .rebuild,
        .reparse, .redecode] ∧
      (∀ st ∈ steps, st.Revisits (.ofWord 0x5012)) ∧
      Dialect.Takes ⟨true, .drop⟩ (.ofWord 0x5012) ∧
      (Dialect.decode ⟨true, .drop⟩ 0x5012).outcome = .ok h ∧
      h.shape = .skipEqReg ∧ h.encode = 0x5010 ∧
      List.Forall₂ (Answer.Confirms h) steps
        (run ⟨⟨true, .drop⟩, some h⟩ steps) := by
  have hparse : (Dialect.permissive.parse "FOO v5012".toList).outcome
      = .ok ⟨.unknown, [⟨.register, 0x5012⟩], none, some "FOO v5012".toList⟩ := by
    decide
  have hsteps : ∀ st ∈ ([.redecode, .reparse, .configure ⟨true, .reject⟩,
      .rebuild, .reparse, .redecode] : List Step),
      st.Revisits (.ofWord 0x5012) := by decide
  have htakes : Dialect.Takes ⟨true, .drop⟩ (.ofWord 0x5012) := by decide
  obtain ⟨h, hdecode, rfl, hrun⟩ := run_confirms_decoded
    ⟨.unknown, [⟨.register, 0x5012⟩], none, some "FOO v5012".toList⟩ htakes hsteps
  exact ⟨_, _, _, hparse, rfl, rfl, rfl, hsteps, htakes, hdecode, rfl, rfl, hrun⟩

end Session

end Chip8Assembly
