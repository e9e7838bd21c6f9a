import Chip8Assembly.Proofs.Outcomes
import Chip8Assembly.Proofs.Precedence

/-!
# Streams — bytes as words, and words as instructions

An even stream and the list of its words are two forms of one thing: a stream is
read as some words exactly if they are written as the stream
(`Word.ofStream_eq_ok_iff`).  An odd stream is refused before anything is read
from it (`decodeStream_of_odd`).

The words of an even stream are read one after the other, each for itself.  A
strict dialect refuses the first that no shape claims, and nothing else is ever
refused (`decodeStream_exact`).
-/

namespace Chip8Assembly

/-! ## Bytes and words -/

namespace Word

variable {stream : List Byte}

theorem length_flatten (ws : List Word) :
    (flatten ws).length = size * ws.length := by
  induction ws with
  | nil => rfl
  | cons w ws ih =>
      rw [flatten_cons, List.length_cons, List.length_cons, ih,
        List.length_cons]
      rfl

theorem length_flatten_mod (ws : List Word) :
    (flatten ws).length % size = 0 := by
  rw [length_flatten]
  exact Nat.mul_mod_right _ _

/-- Half as many words as bytes. -/
theorem size_mul_length_pairs {stream : List Byte}
    (h : stream.length % size = 0) :
    size * (pairs stream).length = stream.length := by
  rw [← length_flatten, flatten_pairs stream h]

/-- **A stream is read as the words that are written as it,** and as no
    others. -/
theorem ofStream_eq_ok_iff {ws : List Word} :
    ofStream stream = .ok ws ↔ flatten ws = stream := by
  constructor
  · intro h
    unfold ofStream at h
    split at h
    · rename_i hlen
      rw [← Except.ok.inj h]
      exact flatten_pairs stream hlen
    · exact nomatch h
  · rintro rfl
    rw [ofStream, if_pos (length_flatten_mod ws), pairs_flatten]

theorem ofStream_of_odd (h : stream.length % size = 1) :
    ofStream stream
      = .error (.truncatedStream (stream.length - 1) stream.length) :=
  if_neg fun heven => absurd (h.symm.trans heven) (by decide)

/-- An even stream is that of some words. -/
theorem exists_flatten_eq (h : stream.length % size = 0) :
    ∃ ws, flatten ws = stream :=
  ⟨pairs stream, flatten_pairs stream h⟩

end Word

/-! ## Words and instructions -/

namespace Dialect

variable {d : Dialect} {w : Word} {ws : List Word} {i : Instruction} {fault : Fault}

theorem outcome_decode_eq_ok_iff :
    (d.decode w).outcome = .ok i ↔
      (d.strict = true → Rule.Claimed w) ∧ i = Instruction.ofWord w := by
  rw [outcome_decode, checked_eq_ok_iff, Rule.claimed_iff]
  constructor
  · rintro ⟨rfl, hknown⟩
    exact ⟨hknown, rfl⟩
  · rintro ⟨hknown, rfl⟩
    exact ⟨rfl, hknown⟩

theorem outcome_decode_eq_error_iff :
    (d.decode w).outcome = .error fault ↔
      d.strict = true ∧ ¬ Rule.Claimed w ∧ fault = .unclassifiedWord w := by
  rw [outcome_decode, checked_eq_error_iff, Rule.claimed_iff, Bool.not_eq_false]

/-- Nothing is read from an odd stream, and nothing is noted. -/
theorem decodeStream_of_odd (d : Dialect) {stream : List Byte}
    (h : stream.length % Word.size = 1) :
    d.decodeStream stream
      = ⟨[], .error (.truncatedStream (stream.length - 1) stream.length)⟩ := by
  rw [decodeStream, Word.ofStream_of_odd h]
  exact Traced.bind_of_error rfl _

/-- The words of a stream are read one after the other. -/
theorem outcome_decodeStream_flatten (d : Dialect) (ws : List Word) :
    (d.decodeStream (Word.flatten ws)).outcome
      = (Traced.collect d.decode ws).outcome := by
  rw [decodeStream, Word.ofStream_eq_ok_iff.mpr rfl, Traced.outcome_bind]
  rfl

/-- **Words are read as an instruction each,** unless the dialect is strict and
    some word is not claimed. -/
theorem outcome_decodeStream_flatten_eq_ok_iff {is : List Instruction} :
    (d.decodeStream (Word.flatten ws)).outcome = .ok is ↔
      (d.strict = true → ∀ w ∈ ws, Rule.Claimed w) ∧
        List.Forall₂ (fun w i => i = Instruction.ofWord w ∧ i.raw = some w) ws is := by
  rw [outcome_decodeStream_eq_ok_iff, Word.pairs_flatten,
    and_iff_right (Word.length_flatten_mod ws), and_comm]
  refine and_congr (by simp only [Rule.claimed_iff]) ⟨?_, fun h => ?_⟩
  · rintro rfl
    rw [List.forall₂_map_right_iff, List.forall₂_same]
    exact fun w _ => ⟨rfl, rfl⟩
  · have hall : List.Forall₂ (fun w i => Instruction.ofWord w = i) ws is :=
      h.imp fun w i hi => hi.1.symm
    rw [← List.forall₂_map_left_iff, List.forall₂_eq_eq_eq] at hall
    exact hall.symm

/-- **A strict dialect refuses the first word that is not claimed.** -/
theorem outcome_decodeStream_flatten_eq_error_iff :
    (d.decodeStream (Word.flatten ws)).outcome = .error fault ↔
      d.strict = true ∧ ∃ before w after, ws = before ++ w :: after ∧
        (∀ v ∈ before, Rule.Claimed v) ∧ ¬ Rule.Claimed w ∧
          fault = .unclassifiedWord w := by
  rw [outcome_decodeStream_flatten, Traced.outcome_collect_eq_error_iff]
  simp only [Traced.exists_outcome_collect_iff, outcome_decode_eq_error_iff]
  constructor
  · rintro ⟨before, w, after, rfl, hbefore, hstrict, hw, rfl⟩
    refine ⟨hstrict, before, w, after, rfl, fun v hv => ?_, hw, rfl⟩
    obtain ⟨i, hi⟩ := hbefore v hv
    exact (outcome_decode_eq_ok_iff.mp hi).1 hstrict
  · rintro ⟨hstrict, before, w, after, rfl, hbefore, hw, rfl⟩
    exact ⟨before, w, after, rfl,
      fun v hv => ⟨_, outcome_decode_eq_ok_iff.mpr ⟨fun _ => hbefore v hv, rfl⟩⟩,
      hstrict, hw, rfl⟩

/-- **What is read from a stream.**  Words are read back from their bytes.  An even
    stream is that of the words that are read from it, and these are read as one
    instruction each, in their order; only a strict dialect refuses any, namely the
    first that no shape claims.  An odd stream is refused before any of its words is
    read. -/
theorem decodeStream_exact (d : Dialect) :
    (∀ ws, Word.ofStream (Word.flatten ws) = .ok ws) ∧
    (∀ stream : List Byte, stream.length % Word.size = 0 →
      ∃ ws, Word.ofStream stream = .ok ws ∧ Word.flatten ws = stream ∧
        (∀ is, (d.decodeStream stream).outcome = .ok is ↔
          (d.strict = true → ∀ w ∈ ws, Rule.Claimed w) ∧
            List.Forall₂ (fun w i => i = Instruction.ofWord w ∧ i.raw = some w)
              ws is) ∧
        ∀ fault, (d.decodeStream stream).outcome = .error fault ↔
          d.strict = true ∧ ∃ before w after, ws = before ++ w :: after ∧
            (∀ v ∈ before, Rule.Claimed v) ∧ ¬ Rule.Claimed w ∧
              fault = .unclassifiedWord w) ∧
    ∀ stream : List Byte, stream.length % Word.size = 1 →
      Word.ofStream stream
          = .error (.truncatedStream (stream.length - 1) stream.length) ∧
        d.decodeStream stream
          = ⟨[], .error (.truncatedStream (stream.length - 1) stream.length)⟩ := by
  refine ⟨fun ws => Word.ofStream_eq_ok_iff.mpr rfl, fun stream heven => ?_,
    fun stream hodd => ⟨Word.ofStream_of_odd hodd, d.decodeStream_of_odd hodd⟩⟩
  obtain ⟨ws, rfl⟩ := Word.exists_flatten_eq heven
  exact ⟨ws, Word.ofStream_eq_ok_iff.mpr rfl, rfl,
    fun is => outcome_decodeStream_flatten_eq_ok_iff,
    fun fault => outcome_decodeStream_flatten_eq_error_iff⟩

/-- A strict dialect with two words that it could refuse, and the same words with
    a byte too many behind them. -/
theorem decodeStream_exact_refused :
    (decodeStream ⟨true, .drop⟩ [0x00, 0xE0, 0xFF, 0xFF, 0x80, 0x0F]).outcome
      = .error (.unclassifiedWord 0xFFFF) ∧
    (∃ is, (decodeStream ⟨false, .drop⟩
        [0x00, 0xE0, 0xFF, 0xFF, 0x80, 0x0F]).outcome = .ok is ∧
      is.map Instruction.raw = [some 0x00E0, some 0xFFFF, some 0x800F]) ∧
    decodeStream ⟨true, .drop⟩ [0xFF, 0xFF, 0x12]
      = ⟨[], .error (.truncatedStream 2 3)⟩ := by
  have heven : List.length [0x00, 0xE0, 0xFF, 0xFF, 0x80, (0x0F : Byte)] % Word.size
      = 0 := rfl
  have hwords : Word.ofStream [0x00, 0xE0, 0xFF, 0xFF, 0x80, 0x0F]
      = .ok [0x00E0, 0xFFFF, 0x800F] := by decide
  refine ⟨?_, ?_, ?_⟩
  · obtain ⟨ws, hws, -, -, herror⟩ :=
      (decodeStream_exact ⟨true, .drop⟩).2.1 _ heven
    obtain rfl := Except.ok.inj (hwords.symm.trans hws)
    have hclaimed : Rule.Claimed 0x00E0 ∧ ¬ Rule.Claimed 0xFFFF := by decide
    exact (herror _).mpr ⟨rfl, [0x00E0], 0xFFFF, [0x800F], rfl,
      List.forall_mem_singleton.mpr hclaimed.1, hclaimed.2, rfl⟩
  · obtain ⟨ws, hws, -, hok, -⟩ :=
      (decodeStream_exact ⟨false, .drop⟩).2.1 _ heven
    obtain rfl := Except.ok.inj (hwords.symm.trans hws)
    refine ⟨[0x00E0, 0xFFFF, 0x800F].map Instruction.ofWord, (hok _).mpr ⟨nofun, ?_⟩,
      rfl⟩
    exact .cons ⟨rfl, rfl⟩ (.cons ⟨rfl, rfl⟩ (.cons ⟨rfl, rfl⟩ .nil))
  · exact ((decodeStream_exact ⟨true, .drop⟩).2.2 [0xFF, 0xFF, 0x12] rfl).2

end Dialect

end Chip8Assembly
