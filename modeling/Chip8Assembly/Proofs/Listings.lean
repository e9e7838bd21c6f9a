import Chip8Assembly.Listing
import Chip8Assembly.Proofs.Rendering

/-!
# Listings — the rows of a whole image

The listing of a whole image has a row for each of its words, and the addresses
of these rows follow one another from the base of the image.  As text, each row
is a line that consists of its address and the line of its instruction.
-/

namespace Chip8Assembly

/-! ## Rows -/

/-- The row of a word at an address. -/
def Row.ofWord (address : Nat) (w : Word) : Row :=
  ⟨address, w, (Instruction.ofWord w).render, (Instruction.ofWord w).isUnknown⟩

/-- A row is read if its word is, and its fault is that of the word. -/
theorem Row.outcome_read_eq (d : Dialect) (address : Nat) (w : Word) :
    (read d address w).outcome
      = ((d.decode w).outcome.mapError (.refused address)).map
          fun i => ⟨address, w, i.render, i.isUnknown⟩ := by
  rw [read, Traced.outcome_bind, Traced.outcome_mapFault]
  cases (d.decode w).outcome with
  | error fault => rfl
  | ok i => rfl

namespace Image

end Image

/-! ## Text -/

namespace Listing

end Listing

end Chip8Assembly
