import Chip8Assembly.FileSystem
import Mathlib.Data.List.Basic
import Mathlib.Data.List.Induction

/-!
# Files — what is written is read

Writing a file changes what is found under one path and nothing else
(`find_put`).  A walk looks up folders until its last step, and the path written
is no folder, so the walk that led to the place of the file leads to the file
afterwards: `read_write`.  `Wrote` says all of this of two file systems.
-/

namespace Chip8Assembly.FileSystem

/-! ## Finding -/

/-- Removing a file does not change what is stored under another path. -/
theorem lookup_filter_ne {p q : Path} (h : q ≠ p)
    (files : List (Path × List Byte)) :
    (files.filter (·.1 ≠ p)).lookup q = files.lookup q := by
  induction files with
  | nil => rfl
  | cons file files ih =>
      obtain ⟨r, content⟩ := file
      by_cases hr : r = p
      · have hqr : (q == r) = false := by
          rw [hr]
          exact beq_eq_false_iff_ne.mpr h
        rw [List.filter_cons_of_neg (by simp [hr]), ih, List.lookup_cons, hqr]
      · rw [List.filter_cons_of_pos (by simp [hr]), List.lookup_cons,
          List.lookup_cons, ih]

/-- **A write is found under its path,** and everything else as before. -/
theorem find_put (fs : FileSystem) (p : Path) (content : List Byte) (q : Path) :
    (fs.put p content).find q = if q = p then .file p content else fs.find q := by
  by_cases h : q = p
  · have hnone : (fs.files.filter (·.1 ≠ p)).lookup p = none := by
      rw [List.lookup_eq_none_iff]
      intro file hfile
      have hne : file.1 ≠ p := by simpa using (List.mem_filter.mp hfile).2
      exact bne_iff_ne.mpr hne.symm
    rw [if_pos h, h, find, put, List.lookup_append, hnone, Option.none_or,
      List.lookup_cons_self]
  · have hother : [(p, content)].lookup q = none := by
      rw [List.lookup_cons, beq_eq_false_iff_ne.mpr h]
      rfl
    rw [if_neg h, find, put, List.lookup_append, lookup_filter_ne h, hother,
      Option.or_none, find]

/-! ## Walking -/

/-- One can go on from the place. -/
def Place.IsFolder : Place → Prop
  | .folder _ => True
  | _ => False

/-- A file can be written to the place, under this path. -/
def Place.Admits (p : Path) : Place → Prop
  | .file q _ | .vacant q => q = p
  | _ => False

theorem find_cases (fs : FileSystem) (q : Path) :
    (∃ content, fs.find q = .file q content) ∨
      fs.find q = .folder q ∨ fs.find q = .vacant q := by
  unfold find
  split
  · exact Or.inl ⟨_, rfl⟩
  · split
    · exact Or.inr (Or.inl rfl)
    · exact Or.inr (Or.inr rfl)

/-- What is found where a file can be written. -/
theorem eq_of_admits_find {fs : FileSystem} {p q : Path}
    (h : (fs.find q).Admits p) : q = p ∧ ¬ (fs.find q).IsFolder := by
  rcases find_cases fs q with ⟨content, hq⟩ | hq | hq
  · rw [hq] at h ⊢
    exact ⟨h, id⟩
  · rw [hq] at h
    exact h.elim
  · rw [hq] at h ⊢
    exact ⟨h, id⟩

/-- **What one step of a walk can do:** it fails, or goes from a folder to a
    folder, without a look at the files; or it looks up one path. -/
theorem enter_cases (place : Place) (component : Text) :
    (∃ fault, ∀ fs, enter fs place component = .nowhere fault) ∨
    (place.IsFolder ∧ ∃ next, ∀ fs, enter fs place component = .folder next) ∨
    (place.IsFolder ∧ ∃ path, ∀ fs, enter fs place component = find fs path) := by
  cases place with
  | folder path =>
      by_cases hstay : component = [] ∨ component = ['.']
      · refine Or.inr (Or.inl ⟨trivial, path, ?_⟩)
        intro fs
        exact if_pos hstay
      · by_cases hback : component = ['.', '.']
        · refine Or.inr (Or.inl ⟨trivial, path.dropLast, ?_⟩)
          intro fs
          rw [enter, if_neg hstay, if_pos hback]
        · by_cases hlong : Path.longestName < (Text.toUtf8 component).length
          · refine Or.inl ⟨.nameTooLong, ?_⟩
            intro fs
            rw [enter, if_neg hstay, if_neg hback, if_pos hlong]
          · refine Or.inr (Or.inr ⟨trivial, path ++ [component], ?_⟩)
            intro fs
            rw [enter, if_neg hstay, if_neg hback, if_neg hlong]
  | file path content => exact Or.inl ⟨.notFolder, fun fs => rfl⟩
  | vacant path => exact Or.inl ⟨.notFound, fun fs => rfl⟩
  | nowhere fault => exact Or.inl ⟨fault, fun fs => rfl⟩

variable {fs : FileSystem} {p : Path} {place : Place}

/-- A walk that leads to a folder does so after a write, too. -/
theorem foldl_enter_put_folder (hp : ¬ (fs.find p).IsFolder)
    (content : List Byte) (components : List Text)
    (h : (components.foldl fs.enter place).IsFolder) :
    components.foldl (fs.put p content).enter place
      = components.foldl fs.enter place := by
  induction components using List.reverseRecOn with
  | nil => rfl
  | append_singleton components component ih =>
      rw [List.foldl_concat] at h ⊢
      rw [List.foldl_concat]
      rcases enter_cases (components.foldl fs.enter place) component with
        ⟨fault, hstep⟩ | ⟨hfolder, next, hstep⟩ | ⟨hfolder, q, hstep⟩
      · rw [hstep] at h
        exact h.elim
      · rw [ih hfolder, hstep, hstep]
      · -- the walk went on, so what was found is not the place of the file
        have hq : q ≠ p := by
          rintro rfl
          rw [hstep] at h
          exact hp h
        rw [ih hfolder, hstep, hstep, find_put, if_neg hq]

/-- **A walk to the place of a file** leads to the file once it is written. -/
theorem foldl_enter_put_file (hplace : place.IsFolder) (content : List Byte)
    (components : List Text)
    (h : (components.foldl fs.enter place).Admits p) :
    components.foldl (fs.put p content).enter place = .file p content := by
  rcases List.eq_nil_or_concat components with rfl | ⟨before, component, rfl⟩
  · -- a walk has to start in a folder, which no file is written to
    cases place with
    | folder _ => exact h.elim
    | file _ _ | vacant _ | nowhere _ => exact hplace.elim
  · rw [List.concat_eq_append, List.foldl_concat] at h ⊢
    rcases enter_cases (before.foldl fs.enter place) component with
      ⟨fault, hstep⟩ | ⟨-, next, hstep⟩ | ⟨hfolder, q, hstep⟩
    · rw [hstep] at h
      exact h.elim
    · rw [hstep] at h
      exact h.elim
    · rw [hstep] at h
      obtain ⟨rfl, hq⟩ := eq_of_admits_find h
      rw [foldl_enter_put_folder hq content before hfolder, hstep, find_put,
        if_pos rfl]

/-- The walk along a path leads to the file that was put at its end. -/
theorem walk_put {components : List Text} (h : (fs.walk components).Admits p)
    (content : List Byte) :
    (fs.put p content).walk components = .file p content := by
  -- the walk starts where it did before, whether that is the root or not
  have hstart : (Place.folder (fs.start components)).IsFolder := trivial
  exact foldl_enter_put_file hstart content components h

/-! ## Reading and writing -/

theorem writeAt_eq_ok_iff {fs' : FileSystem} {content : List Byte} :
    fs.writeAt p content = .ok fs' ↔
      fs.refusals.lookup p = none ∧ fs' = fs.put p content := by
  unfold writeAt
  cases fs.refusals.lookup p with
  | none => simp only [Except.ok.injEq, true_and, eq_comm]
  | some fault => exact ⟨nofun, fun h => nomatch h.1⟩

/-- What is written was put where the path leads. -/
theorem exists_put_of_write {fs' : FileSystem} {path : Text}
    {content : List Byte} (h : fs.write path content = .ok fs') :
    ∃ p, path ≠ [] ∧ ¬ Path.longest < (Text.toUtf8 path).length ∧
      (fs.walk (Path.components path)).Admits p ∧ fs' = fs.put p content := by
  unfold write at h
  split at h
  · exact nomatch h
  · rename_i hne
    split at h
    · exact nomatch h
    · rename_i hshort
      by_cases hslash : (Path.components path).reverse.takeWhile (· = []) = []
      · simp only [hslash, List.length_nil, Nat.sub_zero, List.take_length,
          if_true] at h
        split at h
        · rename_i p _ hwalk
          refine ⟨p, hne, hshort, ?_, (writeAt_eq_ok_iff.mp h).2⟩
          rw [hwalk]
          exact rfl
        · rename_i p hwalk
          refine ⟨p, hne, hshort, ?_, (writeAt_eq_ok_iff.mp h).2⟩
          rw [hwalk]
          exact rfl
        all_goals exact nomatch h
      · simp only [if_neg hslash] at h
        split at h
        all_goals exact nomatch h

/-- **What is written is read** under the same path. -/
theorem read_write {fs' : FileSystem} {path : Text} {content : List Byte}
    (h : fs.write path content = .ok fs') : fs'.read path = .ok content := by
  obtain ⟨p, hne, hshort, hplace, rfl⟩ := exists_put_of_write h
  rw [read, if_neg hne, if_neg hshort, walk_put hplace]

/-- **One file is written,** and nothing else is changed. -/
structure Wrote (fs : FileSystem) (path : Text) (content : List Byte)
    (fs' : FileSystem) : Prop where
  read : fs'.read path = .ok content
  /-- The folders are the same, and so is all else but the files. -/
  around : { fs' with files := fs.files } = fs
  /-- What is found anywhere but at the place of the file. -/
  elsewhere : ∃ p, (fs.walk (Path.components path)).Admits p ∧
    ∀ q, q ≠ p → fs'.find q = fs.find q

/-- **A write changes one file.** -/
theorem wrote_of_write {fs' : FileSystem} {path : Text} {content : List Byte}
    (h : fs.write path content = .ok fs') : fs.Wrote path content fs' := by
  have hread := read_write h
  obtain ⟨p, -, -, hplace, rfl⟩ := exists_put_of_write h
  refine ⟨hread, rfl, p, hplace, fun q hq => ?_⟩
  rw [find_put, if_neg hq]

end Chip8Assembly.FileSystem
