import Chip8Assembly.Command.Script
import Chip8Assembly.Proofs.Outcomes

/-!
# Scripts — composition, and failures that leave nothing behind

A run of composed scripts is a run of the first and then one of the second
(`run_bind`), and it succeeds exactly if both do (`run_bind_eq_ok_iff`).

A script is *quiet* if it only reads files and notes events, and *careful* if it
fails only as long as it has been quiet, whatever files it meets: it cannot fail
behind the first text that is printed or the first file that is written.  Careful
scripts are composed of quiet ones and of what cannot fail (`Quiet.bind`,
`Careful.bind`), and one that fails has printed nothing and written nothing
(`Careful.run_of_failed`).
-/

namespace Chip8Assembly.Command

/-! ## Runs -/

/-- Events may be noted, but no text is printed. -/
def OnlyNotes (shown : List Shown) : Prop := ∀ x ∈ shown, ∃ e : Event, x = .event e

theorem onlyNotes_map (es : List Event) : OnlyNotes (es.map .event) := by
  intro x hx
  obtain ⟨e, -, rfl⟩ := List.mem_map.mp hx
  exact ⟨e, rfl⟩

namespace Run

variable {α β : Type} {log : Log}

/-- A run with another one behind it, unless it failed. -/
def andThen (r : Run α) (f : α → Script β) : Run β :=
  match r.result with
  | .ok a =>
    let next := (f a).run r.files
    ⟨next.result, r.shown ++ next.shown, next.files⟩
  | .error failure => ⟨.error failure, r.shown, r.files⟩

theorem andThen_cons (x : Shown) (r : Run α) (f : α → Script β) :
    (r.cons x).andThen f = (r.andThen f).cons x := by
  obtain ⟨result, shown, files⟩ := r
  cases result with
  | ok a => rfl
  | error failure => rfl

/-- A run that exits with zero has a value. -/
theorem exists_of_exitCode {r : Run α} (h : r.exitCode = 0) :
    ∃ a, r = ⟨.ok a, r.shown, r.files⟩ := by
  obtain ⟨result, shown, files⟩ := r
  cases result with
  | ok a => exact ⟨a, rfl⟩
  | error failure => exact nomatch h

/-- What a command prints itself, besides all events. -/
def printed (r : Run α) : Text := r.stdout fun _ => []

/-- **Without a filter the standard output is what is printed,** since no event is
    an error. -/
theorem stdout_eq_printed (hlog : log.IsDefault) (r : Run α) :
    r.stdout log = r.printed := by
  have hsilent : log = fun _ => [] := funext fun e => hlog e e.level_ne_error
  rw [printed, hsilent]

section

variable {result : Except Failure α} {files : FileSystem}

theorem printed_cons_event (e : Event) (shown : List Shown) :
    (Run.mk result (.event e :: shown) files).printed
      = (Run.mk result shown files).printed := rfl

/-- Events in front of all else are not printed. -/
theorem printed_append {front : List Shown} (h : OnlyNotes front)
    (back : List Shown) :
    (Run.mk result (front ++ back) files).printed
      = (Run.mk result back files).printed := by
  induction front with
  | nil => rfl
  | cons x front ih =>
      obtain ⟨⟨e, rfl⟩, hfront⟩ := List.forall_mem_cons.mp h
      rw [List.cons_append, printed_cons_event, ih hfront]

end

theorem printed_of_onlyNotes {r : Run α} (h : OnlyNotes r.shown) : r.printed = [] := by
  obtain ⟨result, shown, files⟩ := r
  rw [← List.append_nil shown, printed_append h]
  rfl

end Run

namespace Script

variable {α β : Type} {fs fs' : FileSystem} {shown : List Shown}

/-! ## Runs of composed scripts -/

/-- **Scripts run one after the other.** -/
theorem run_bind (s : Script α) (f : α → Script β) (fs : FileSystem) :
    (s >>= f).run fs = (s.run fs).andThen f := by
  show (s.andThen f).run fs = _
  induction s generalizing fs with
  | done a => rfl
  | fail failure => rfl
  | read path next ih => exact ih (fs.read path) fs
  | write path content next ih =>
      cases h : fs.write path content with
      | ok fs' =>
          simp only [andThen, run, h]
          exact ih (.ok ()) fs'
      | error fault =>
          simp only [andThen, run, h]
          exact ih (.error fault) fs
  | print text next ih => rw [andThen, run, ih, run, Run.andThen_cons]
  | note event next ih => rw [andThen, run, ih, run, Run.andThen_cons]

/-- **A composed script succeeds exactly if both parts do.** -/
theorem run_bind_eq_ok_iff {s : Script α} {f : α → Script β} {b : β} :
    (s >>= f).run fs = ⟨.ok b, shown, fs'⟩ ↔
      ∃ a front between back, s.run fs = ⟨.ok a, front, between⟩ ∧
        (f a).run between = ⟨.ok b, back, fs'⟩ ∧ shown = front ++ back := by
  rw [run_bind]
  constructor
  · intro h
    cases hs : s.run fs with
    | mk result front between =>
        rw [hs] at h
        cases result with
        | error failure => exact nomatch (Run.mk.inj h).1
        | ok a =>
            obtain ⟨hresult, hshown, hfiles⟩ := Run.mk.inj h
            refine ⟨a, front, between, ((f a).run between).shown, rfl, ?_,
              hshown.symm⟩
            rw [← hresult, ← hfiles]
  · rintro ⟨a, front, between, back, hs, hf, rfl⟩
    simp only [hs, Run.andThen, hf]

theorem run_within (context : Text) (s : Script α) (fs : FileSystem) :
    (s.within context).run fs
      = ⟨(s.run fs).result.mapError (.within context), (s.run fs).shown,
          (s.run fs).files⟩ := by
  induction s generalizing fs with
  | done a => rfl
  | fail failure => rfl
  | read path next ih => exact ih (fs.read path) fs
  | write path content next ih =>
      cases h : fs.write path content with
      | ok fs' =>
          simp only [within, run, h]
          exact ih (.ok ()) fs'
      | error fault =>
          simp only [within, run, h]
          exact ih (.error fault) fs
  | print text next ih =>
      rw [within, run, ih]
      rfl
  | note event next ih =>
      rw [within, run, ih]
      rfl

/-- It does not matter for a success what a failure would be about. -/
theorem run_within_eq_ok_iff {context : Text} {s : Script α} {a : α} :
    (s.within context).run fs = ⟨.ok a, shown, fs'⟩ ↔
      s.run fs = ⟨.ok a, shown, fs'⟩ := by
  rw [run_within]
  cases s.run fs with
  | mk result shown files =>
      cases result with
      | ok a => exact Iff.rfl
      | error failure => exact ⟨nofun, nofun⟩

/-! ## Runs of single steps -/

theorem run_ofExcept (x : Except Failure α) (fs : FileSystem) :
    (ofExcept x).run fs = ⟨x, [], fs⟩ := by
  cases x with
  | ok a => rfl
  | error failure => rfl

theorem run_ofTraced (x : Traced Failure α) (fs : FileSystem) :
    (ofTraced x).run fs = ⟨x.outcome, x.events.map .event, fs⟩ := by
  rw [ofTraced]
  induction x.events with
  | nil => exact run_ofExcept x.outcome fs
  | cons e es ih =>
      rw [List.foldr_cons, run, ih]
      rfl

theorem run_ofExcept_eq_ok_iff {x : Except Failure α} {a : α} :
    (ofExcept x).run fs = ⟨.ok a, shown, fs'⟩ ↔ x = .ok a ∧ shown = [] ∧ fs' = fs := by
  rw [run_ofExcept, Run.mk.injEq, eq_comm (a := []), eq_comm (a := fs)]

theorem run_readFile_eq_ok_iff {path : Text} {content : List Byte} :
    (readFile path).run fs = ⟨.ok content, shown, fs'⟩ ↔
      fs.read path = .ok content ∧ shown = [] ∧ fs' = fs := by
  rw [readFile, run, run_ofExcept_eq_ok_iff, mapError_eq_ok_iff]

/-- **A file is read and taken apart,** whatever is said of a failure to read it. -/
theorem run_readFile_bind_eq_ok_iff {path : Text} {s : Script (List Byte)}
    (hs : ∀ {content shown fs'}, s.run fs = ⟨.ok content, shown, fs'⟩ ↔
      (readFile path).run fs = ⟨.ok content, shown, fs'⟩)
    {f : List Byte → Except Failure β} {b : β} :
    (do .ofExcept (f (← s)) : Script β).run fs = ⟨.ok b, shown, fs'⟩ ↔
      (∃ content, fs.read path = .ok content ∧ f content = .ok b) ∧
        shown = [] ∧ fs' = fs := by
  rw [run_bind_eq_ok_iff]
  simp only [hs, run_readFile_eq_ok_iff, run_ofExcept_eq_ok_iff]
  constructor
  · rintro ⟨content, _, _, _, ⟨hread, rfl, rfl⟩, ⟨hf, rfl, rfl⟩, rfl⟩
    exact ⟨⟨content, hread, hf⟩, rfl, rfl⟩
  · rintro ⟨⟨content, hread, hf⟩, rfl, rfl⟩
    exact ⟨content, [], fs', [], ⟨hread, rfl, rfl⟩, ⟨hf, rfl, rfl⟩, rfl⟩

theorem run_writeFile_eq_ok_iff {path : Text} {content : List Byte} {u : Unit} :
    (writeFile path content).run fs = ⟨.ok u, shown, fs'⟩ ↔
      fs.write path content = .ok fs' ∧ shown = [] := by
  rw [writeFile, run]
  cases fs.write path content with
  | ok fs'' =>
      simp only [run_ofExcept, Except.mapError, Run.mk.injEq, Except.ok.injEq, true_and,
        and_comm, eq_comm]
  | error fault =>
      simp only [run_ofExcept]
      exact ⟨nofun, fun h => nomatch h.1⟩

/-! ## Scripts that leave nothing behind when they fail -/

/-- The script only reads files and notes events. -/
def Quiet : Script α → Prop
  | .done _ | .fail _ => True
  | .read _ next => ∀ content, (next content).Quiet
  | .write _ _ _ | .print _ _ => False
  | .note _ next => next.Quiet

/-- The script fails only as long as nothing has been printed or written, and not
    at all if something was `left` behind before it. -/
def Careful : Bool → Script α → Prop
  | _, .done _ => True
  | left, .fail _ => left = false
  | left, .read _ next => ∀ content, (next content).Careful left
  | left, .write _ _ next =>
    (∀ fault, (next (.error fault)).Careful left) ∧ (next (.ok ())).Careful true
  | _, .print _ next => next.Careful true
  | left, .note _ next => next.Careful left

variable {left : Bool} {s : Script α} {f : α → Script β}

/-- What cannot fail is careful, whatever was left behind. -/
theorem Careful.of_true (h : s.Careful true) : s.Careful left := by
  induction s with
  | done a => trivial
  | fail failure => exact nomatch h
  | read path next ih => exact fun content => ih content (h content)
  | write path content next ih => exact ⟨fun fault => ih _ (h.1 fault), h.2⟩
  | print text next _ => exact h
  | note event next ih => exact ih h

/-- **What cannot fail may follow** anything careful. -/
theorem Careful.bind (h : s.Careful left) (hf : ∀ a, (f a).Careful true) :
    (s >>= f).Careful left := by
  show (s.andThen f).Careful left
  induction s generalizing left with
  | done a => exact (hf a).of_true
  | fail failure => exact h
  | read path next ih => exact fun content => ih content (h content)
  | write path content next ih => exact ⟨fun fault => ih _ (h.1 fault), ih _ h.2⟩
  | print text next ih => exact ih h
  | note event next ih => exact ih h

/-- **Anything careful may follow** what is quiet. -/
theorem Quiet.bind (h : s.Quiet) (hf : ∀ a, (f a).Careful false) :
    (s >>= f).Careful false := by
  show (s.andThen f).Careful false
  induction s with
  | done a => exact hf a
  | fail failure => rfl
  | read path next ih => exact fun content => ih content (h content)
  | write path content next _ => exact h.elim
  | print text next _ => exact h.elim
  | note event next ih => exact ih h

theorem Quiet.within (h : s.Quiet) (context : Text) : (s.within context).Quiet := by
  induction s with
  | done a => trivial
  | fail failure => trivial
  | read path next ih => exact fun content => ih content (h content)
  | write path content next _ => exact h.elim
  | print text next _ => exact h.elim
  | note event next ih => exact ih h

theorem Careful.within (h : s.Careful left) (context : Text) :
    (s.within context).Careful left := by
  induction s generalizing left with
  | done a => trivial
  | fail failure => exact h
  | read path next ih => exact fun content => ih content (h content)
  | write path content next ih => exact ⟨fun fault => ih _ (h.1 fault), ih _ h.2⟩
  | print text next ih => exact ih h
  | note event next ih => exact ih h

theorem Quiet.bind_quiet (h : s.Quiet) (hf : ∀ a, (f a).Quiet) :
    (s >>= f).Quiet := by
  show (s.andThen f).Quiet
  induction s with
  | done a => exact hf a
  | fail failure => trivial
  | read path next ih => exact fun content => ih content (h content)
  | write path content next _ => exact h.elim
  | print text next _ => exact h.elim
  | note event next ih => exact ih h

theorem quiet_ofExcept (x : Except Failure α) : (ofExcept x).Quiet := by
  cases x with
  | ok a => trivial
  | error failure => trivial

theorem quiet_ofTraced (x : Traced Failure α) : (ofTraced x).Quiet := by
  rw [ofTraced]
  induction x.events with
  | nil => exact quiet_ofExcept x.outcome
  | cons e es ih => exact ih

theorem quiet_readFile (path : Text) : (readFile path).Quiet :=
  fun content => quiet_ofExcept (content.mapError Failure.ofFile)

theorem careful_writeFile (path : Text) (content : List Byte) :
    (writeFile path content).Careful false :=
  ⟨fun _ => rfl, trivial⟩

/-- **A quiet script leaves nothing behind** but events. -/
theorem Quiet.run (h : s.Quiet) (fs : FileSystem) :
    OnlyNotes (s.run fs).shown ∧ (s.run fs).files = fs := by
  induction s with
  | done a => exact ⟨List.forall_mem_nil _, rfl⟩
  | fail failure => exact ⟨List.forall_mem_nil _, rfl⟩
  | read path next ih => exact ih (fs.read path) (h _)
  | write path content next _ => exact h.elim
  | print text next _ => exact h.elim
  | note event next ih =>
      obtain ⟨hnotes, hfiles⟩ := ih h
      exact ⟨List.forall_mem_cons.mpr ⟨⟨event, rfl⟩, hnotes⟩, hfiles⟩

/-- **A careful script that fails leaves nothing behind** but events, and it does
    not fail if something was left behind before it. -/
theorem Careful.run_of_failed (h : s.Careful left)
    (hfailed : (s.run fs).exitCode = 1) :
    left = false ∧ OnlyNotes (s.run fs).shown ∧ (s.run fs).files = fs := by
  induction s generalizing left fs with
  | done a => exact nomatch hfailed
  | fail failure => exact ⟨h, List.forall_mem_nil _, rfl⟩
  | read path next ih => exact ih _ (h _) hfailed
  | write path content next ih =>
      cases hwrite : fs.write path content with
      | ok fs' =>
          -- the file is written, and nothing fails any more
          simp only [run, hwrite] at hfailed
          exact nomatch (ih _ h.2 hfailed).1
      | error fault =>
          simp only [run, hwrite] at hfailed ⊢
          exact ih _ (h.1 fault) hfailed
  | print text next ih => exact nomatch (ih h hfailed).1
  | note event next ih =>
      obtain ⟨hleft, hnotes, hfiles⟩ := ih h hfailed
      exact ⟨hleft, List.forall_mem_cons.mpr ⟨⟨event, rfl⟩, hnotes⟩, hfiles⟩

end Script

end Chip8Assembly.Command
