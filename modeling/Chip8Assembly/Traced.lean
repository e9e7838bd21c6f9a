import Chip8Assembly.Event

/-!
# Traced work — an outcome with the events on the way to it

Traced work ends in a value or in a fault, and keeps the events noted until
then; a fault does not undo them.  Steps compose as their outcomes do, and
their events follow one another.

`collect` does one step for each element of a list and stops at the first
fault.
-/

namespace Chip8Assembly

/-- The events of some work, and how it ended. -/
structure Traced (ε α : Type) where
  /-- What was noted, in order. -/
  events : List Event
  /-- The value, or the fault that ended the work. -/
  outcome : Except ε α

namespace Traced

variable {ε δ α β γ : Type}

/-- Work that ends at once, with nothing noted. -/
def ofExcept (x : Except ε α) : Traced ε α := ⟨[], x⟩

/-- Work that fails at once. -/
def fail (fault : ε) : Traced ε α := ⟨[], .error fault⟩

def note (events : List Event) : Traced ε Unit := ⟨events, .ok ()⟩

/-- One piece of work after another.  The second is not begun if the first
    fails. -/
def andThen (x : Traced ε α) (f : α → Traced ε β) : Traced ε β :=
  match x.outcome with
  | .ok a =>
    let y := f a
    ⟨x.events ++ y.events, y.outcome⟩
  | .error fault => ⟨x.events, .error fault⟩

/-- The same work with its value changed. -/
def map (f : α → β) (x : Traced ε α) : Traced ε β := ⟨x.events, x.outcome.map f⟩

instance : Monad (Traced ε) where
  pure a := ⟨[], .ok a⟩
  bind := andThen
  map := map

/-- The same work with its fault reworded. -/
def mapFault (f : ε → δ) (x : Traced ε α) : Traced δ α :=
  ⟨x.events, x.outcome.mapError f⟩

/-- One step for each element of a list, with the values of all of them; the
    first fault ends the work. -/
def collect (f : α → Traced ε β) (xs : List α) : Traced ε (List β) :=
  xs.foldr (fun x rest => f x >>= fun y => (y :: ·) <$> rest) (pure [])

/-! ## The laws of composition -/

@[ext]
theorem ext {x y : Traced ε α} (he : x.events = y.events)
    (ho : x.outcome = y.outcome) : x = y := by
  cases x
  cases y
  simp_all

@[simp]
theorem events_pure (a : α) : (pure a : Traced ε α).events = [] := rfl

@[simp]
theorem outcome_pure (a : α) : (pure a : Traced ε α).outcome = .ok a := rfl

/-- A value is handed on, and the events follow one another. -/
theorem bind_of_ok {x : Traced ε α} {a : α} (h : x.outcome = .ok a)
    (f : α → Traced ε β) :
    x >>= f = ⟨x.events ++ (f a).events, (f a).outcome⟩ := by
  show andThen x f = _
  rw [andThen, h]

/-- A fault ends the work. -/
theorem bind_of_error {x : Traced ε α} {fault : ε}
    (h : x.outcome = .error fault) (f : α → Traced ε β) :
    x >>= f = ⟨x.events, .error fault⟩ := by
  show andThen x f = _
  rw [andThen, h]

/-- The outcome of a composition is the composition of the outcomes. -/
@[simp]
theorem outcome_bind (x : Traced ε α) (f : α → Traced ε β) :
    (x >>= f).outcome = x.outcome.bind fun a => (f a).outcome := by
  cases h : x.outcome with
  | ok a => rw [bind_of_ok h]; rfl
  | error fault => rw [bind_of_error h]; rfl

@[simp]
theorem events_map (f : α → β) (x : Traced ε α) : (f <$> x).events = x.events := rfl

@[simp]
theorem outcome_map (f : α → β) (x : Traced ε α) :
    (f <$> x).outcome = x.outcome.map f := rfl

/-- Handing on a changed value notes nothing more. -/
private theorem bind_pure_eq_map (f : α → β) (x : Traced ε α) :
    (x >>= fun a => pure (f a)) = f <$> x := by
  cases h : x.outcome with
  | ok a =>
    rw [bind_of_ok h]
    ext1
    · simp
    · simp [h, Except.map]
  | error fault =>
    rw [bind_of_error h]
    ext1
    · simp
    · simp [h, Except.map]

/-- It does not matter how steps are grouped. -/
private theorem bind_bind (x : Traced ε α) (f : α → Traced ε β)
    (g : β → Traced ε γ) : x >>= f >>= g = x >>= fun a => f a >>= g := by
  cases hx : x.outcome with
  | error fault =>
    rw [bind_of_error hx, bind_of_error hx]
    rfl
  | ok a =>
    rw [bind_of_ok hx, bind_of_ok hx]
    cases hf : (f a).outcome with
    | error fault => rw [bind_of_error rfl, bind_of_error hf]
    | ok b => rw [bind_of_ok rfl, bind_of_ok hf, List.append_assoc]

instance : LawfulMonad (Traced ε) :=
  LawfulMonad.mk' (Traced ε)
    (fun x => by
      ext1
      · rfl
      · cases h : x.outcome <;> simp [h, Except.map])
    (fun a f => bind_of_ok rfl f) bind_bind
    (fun _ _ => rfl) (fun _ _ => rfl) (fun _ _ => rfl) bind_pure_eq_map
    (fun _ _ => rfl)

theorem collect_cons (f : α → Traced ε β) (x : α) (xs : List α) :
    collect f (x :: xs) = f x >>= fun y => (y :: ·) <$> collect f xs := rfl

theorem collect_map (f : β → Traced ε γ) (m : α → β) (xs : List α) :
    collect f (xs.map m) = collect (fun x => f (m x)) xs :=
  List.foldr_map

end Traced

end Chip8Assembly
