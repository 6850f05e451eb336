import LexerConsole.Files
import Mathlib.Data.List.Basic

/-!
# Folders that are made

Making folders puts something only where nothing was. So every name that could be followed before
still leads to the same place, and every file that could be read before is still read alike. A name
that could not be followed may lead somewhere afterwards.
-/

namespace LexerConsole

/-- A computation that succeeds has done so step by step. -/
theorem exists_of_bind_ok {ε α β : Type} {x : Except ε α} {f : α → Except ε β} {b : β}
    (h : x >>= f = .ok b) : ∃ a, x = .ok a ∧ f a = .ok b := by
  cases x with
  | error cause => cases h
  | ok a => exact ⟨a, rfl, h⟩

namespace Files

/-- Whatever was there is still there, and names are followed from the same folder. -/
structure Keeps (f g : Files) : Prop where
  working : g.working = f.working
  there : ∀ p e, f.at? p = some e → g.at? p = some e

variable {f g : Files} {here there : Path} {part name : Text}

theorem Keeps.refl (f : Files) : Keeps f f :=
  ⟨rfl, fun _ _ h => h⟩

theorem Keeps.trans {k : Files} (h : Keeps f g) (h' : Keeps g k) : Keeps f k :=
  ⟨h'.working.trans h.working, fun p e he => h'.there p e (h.there p e he)⟩

theorem keeps_put {p : Path} (absent : f.at? p = none) (e : Entry) : Keeps f (f.put p e) := by
  rw [put, absent]
  refine ⟨rfl, ?_⟩
  intro q old found
  rw [at?] at found ⊢
  by_cases top : q.isEmpty
  · rwa [if_pos top] at found ⊢
  · rw [if_neg top] at found ⊢
    obtain ⟨entry, stands, rfl⟩ := Option.map_eq_some_iff.1 found
    simp [List.find?_append, stands]

section Making

theorem keeps_grow {state : Files × Path} (h : grow state part = .ok (g, there)) :
    Keeps state.1 g := by
  obtain ⟨place, -, made⟩ := exists_of_bind_ok h
  cases found : state.1.at? place with
  | some e =>
    simp only [found, Option.isSome_some, if_true] at made
    cases made
    exact .refl _
  | none =>
    simp only [found, Option.isSome_none, Bool.false_eq_true, if_false] at made
    cases made
    exact keeps_put found .folder

theorem keeps_foldlM_grow {parts : List Text} {state : Files × Path}
    (h : parts.foldlM grow state = .ok (g, there)) : Keeps state.1 g := by
  induction parts generalizing state with
  | nil =>
    cases h
    exact .refl _
  | cons part parts ih =>
    rw [List.foldlM_cons] at h
    obtain ⟨next, first, rest⟩ := exists_of_bind_ok h
    exact (keeps_grow first).trans (ih rest)

theorem keeps_makeFolders (h : f.makeFolders name = .ok g) : Keeps f g := by
  obtain ⟨_, -, h⟩ := exists_of_bind_ok h
  obtain ⟨⟨made, place⟩, grown, h⟩ := exists_of_bind_ok h
  have kept : Keeps f made := keeps_foldlM_grow grown
  simp only at h
  split at h
  · cases h
    exact kept
  · cases h

end Making

section Reading

theorem Keeps.enter (k : Keeps f g) (h : f.enter here part = .ok there) :
    g.enter here part = .ok there := by
  obtain ⟨place, child, h⟩ := exists_of_bind_ok h
  have child' : g.childPath here part = .ok place := by
    rw [childPath] at child ⊢
    split at child
    · cases child
    · cases child
    · rename_i folder
      rwa [k.there _ _ folder]
  have placed : f.at? place ≠ none ∧ place = there := by
    cases found : f.at? place with
    | none =>
      rw [found] at h
      cases h
    | some e =>
      rw [found] at h
      exact ⟨Option.some_ne_none e, Except.ok.inj h⟩
  obtain ⟨e, found⟩ := Option.ne_none_iff_exists'.1 placed.1
  rw [Files.enter, child', ← placed.2]
  simp only [bind, Except.bind, k.there _ _ found, Option.isSome_some, if_true]
  rfl

theorem Keeps.foldlM_enter (k : Keeps f g) {parts : List Text}
    (h : parts.foldlM f.enter here = .ok there) : parts.foldlM g.enter here = .ok there := by
  induction parts generalizing here with
  | nil => exact h
  | cons part parts ih =>
    rw [List.foldlM_cons] at h ⊢
    obtain ⟨next, first, rest⟩ := exists_of_bind_ok h
    rw [k.enter first]
    exact ih rest

theorem ne_nil_of_read {content : List UInt8} (h : f.read name = .ok content) : name ≠ [] := by
  rintro rfl
  cases h

/-- What could be read is read alike. -/
theorem Keeps.read (k : Keeps f g) {content : List UInt8} (h : f.read name = .ok content) :
    g.read name = .ok content := by
  obtain ⟨_, checked, h⟩ := exists_of_bind_ok h
  obtain ⟨place, entered, h⟩ := exists_of_bind_ok h
  have origin : g.origin name = f.origin name := by rw [Files.origin, Files.origin, k.working]
  have entered' := k.foldlM_enter entered
  rw [← origin] at entered'
  rw [Files.read, checked]
  simp only [bind, Except.bind, entered']
  split at h
  · rename_i stands
    rw [k.there _ _ stands]
    exact h
  · cases h
  · cases h

/-- Bytes that are no text are no text afterwards either. -/
theorem Keeps.readText (k : Keeps f g) {content : List UInt8} (h : f.read name = .ok content) :
    g.readText name = f.readText name := by
  rw [Files.readText, Files.readText, h, k.read h]

end Reading
end Files
end LexerConsole
