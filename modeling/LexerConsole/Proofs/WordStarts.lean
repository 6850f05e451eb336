import LexerConsole.Proofs.Completions

/-!
# Where a word begins

The search for the word at the cut goes backwards over characters of one to four bytes and answers
with a byte offset. `Begins` says which offset this is without going backwards: what lies between it
and the cut belongs to a word, and the character in front of it does not. There is one such offset
for each cut, it is the least from which a word reaches the cut, and nothing behind the cut has a
part in it.
-/

namespace LexerConsole.Completion

/-- ASCII letters and digits, the underscore and the point. -/
def Joins (c : Char) : Prop :=
  ('A' ≤ c ∧ c ≤ 'Z') ∨ ('a' ≤ c ∧ c ≤ 'z') ∨ ('0' ≤ c ∧ c ≤ '9') ∨ c = '_' ∨ c = '.'

/-- The longest word that ends at `pos` begins at `start`. -/
structure Begins (line : Text) (pos start : Nat) : Prop where
  start_le : start ≤ pos
  boundary : line.IsBoundary start
  joined : ∃ word, line.slice? start pos = some word ∧ ∀ c ∈ word, Joins c
  stopped : start = 0 ∨ ∃ before c after, line = before ++ c :: after ∧
    Text.byteLength before + c.utf8Size = start ∧ ¬ Joins c

theorem isWordChar_iff {c : Char} : isWordChar c ↔ Joins c := by
  show ((decide ('A' ≤ c ∧ c ≤ 'Z') || (decide ('a' ≤ c) && decide (c ≤ 'z'))) ||
    (decide ('0' ≤ c) && decide (c ≤ '9')) || decide (c = '_') || decide (c = '.')) = true ↔ _
  simp only [Bool.or_eq_true, Bool.and_eq_true, decide_eq_true_eq, or_assoc, Joins]

section Line

variable {line front word after : Text} {pos start : Nat}

namespace WordBefore

theorem begins (h : WordBefore line pos front word after) : Begins line pos front.byteLength := by
  have stop := h.stop
  rw [Text.byteLength_append] at stop
  constructor
  · omega
  · exact ⟨front, word ++ after, by rw [h.whole, List.append_assoc], rfl⟩
  · exact ⟨word, h.slice?_eq, fun c hc => isWordChar_iff.1 (h.inside c hc)⟩
  · rcases List.eq_nil_or_concat front with rfl | ⟨before, c, rfl⟩
    · exact Or.inl rfl
    · right
      have ends : isWordChar c = false := h.ends c (by simp)
      refine ⟨before, c, word ++ after, by simp [h.whole], ?_, ?_⟩
      · simp [Text.byteLength_append, Text.byteLength]
      · rw [← isWordChar_iff, ends]
        exact Bool.false_ne_true

/-- No word that reaches the cut begins further to the left. -/
theorem byteLength_le (h : WordBefore line pos front word after) {other : Nat} {longer : Text}
    (cut : line.slice? other pos = some longer) (joined : ∀ c ∈ longer, Joins c) :
    front.byteLength ≤ other := by
  obtain ⟨before, behind, whole, rfl, stop⟩ := Text.append_of_slice? cut
  have split : before ++ longer ++ behind = front ++ word ++ after := whole.symm.trans h.whole
  obtain ⟨same, -⟩ := Text.append_inj_of_byteLength split (stop.trans h.stop.symm)
  rcases List.append_eq_append_iff.1 same with ⟨between, rfl, rfl⟩ | ⟨between, rfl, -⟩
  · -- What the other word has in front would end with a character that stops this one.
    rcases List.eq_nil_or_concat between with rfl | ⟨more, c, rfl⟩
    · simp
    · have ends : isWordChar c = false := h.ends c (by simp)
      have inside : isWordChar c = true := isWordChar_iff.2 (joined c (by simp))
      exact absurd (ends.symm.trans inside) Bool.false_ne_true
  · simp [Text.byteLength_append]

end WordBefore

theorem exists_of_wordStart? (h : wordStart? line pos = some start) : ∃ front word after,
    WordBefore line pos front word after ∧ front.byteLength = start := by
  obtain ⟨parts, cut, -⟩ := Option.map_eq_some_iff.1 h
  have boundary : line.IsBoundary pos := (Text.isBoundary_iff_cut? line pos).2 (by simp [cut])
  obtain ⟨front, word, after, parts⟩ := exists_wordBefore boundary
  exact ⟨front, word, after, parts, Option.some.inj (parts.wordStart?_eq.symm.trans h)⟩

/-- A word that reaches the cut and cannot be made longer is the one that is found. -/
theorem Begins.exists_wordBefore (h : Begins line pos start) : ∃ front word after,
    WordBefore line pos front word after ∧ front.byteLength = start := by
  obtain ⟨word, cut, joined⟩ := h.joined
  obtain ⟨front, after, whole, size, stop⟩ := Text.append_of_slice? cut
  refine ⟨front, word, after, ⟨whole, stop, fun c hc => isWordChar_iff.2 (joined c hc), ?_⟩, size⟩
  rcases h.stopped with rfl | ⟨before, c, behind, split, bound, stopped⟩
  · rw [Text.eq_nil_of_byteLength_eq_zero size]
    nofun
  · have same : front = before ++ [c] := by
      refine (Text.append_inj_of_byteLength (b := word ++ after) (d := behind) ?_ ?_).1
      · have both : front ++ (word ++ after) = line := by rw [whole, List.append_assoc]
        simp [both, split]
      · simp [Text.byteLength_append, Text.byteLength, size, bound]
    subst same
    intro d hd
    obtain rfl : c = d := by simpa using hd
    exact Bool.eq_false_iff.2 fun inside => stopped (isWordChar_iff.1 inside)

theorem wordStart?_eq_some_iff : wordStart? line pos = some start ↔ Begins line pos start := by
  constructor
  · intro h
    obtain ⟨front, word, after, parts, rfl⟩ := exists_of_wordStart? h
    exact parts.begins
  · intro h
    obtain ⟨front, word, after, parts, rfl⟩ := h.exists_wordBefore
    exact parts.wordStart?_eq

end Line

/-- What is found for the word at an offset, and when nothing is. -/
structure Finds (line : Text) (pos : Nat) : Prop where
  absent : wordStart? line pos = none ↔ line.byteLength < pos ∨ line.IsInside pos
  found : line.IsBoundary pos → ∃ start, wordStart? line pos = some start
  begins : ∀ start, wordStart? line pos = some start ↔ Begins line pos start
  longest : ∀ start other word, wordStart? line pos = some start →
    line.slice? other pos = some word → (∀ c ∈ word, Joins c) → start ≤ other
  /-- Lines that are alike up to the cut have the same word there. -/
  front : ∀ before after, line.cut? pos = some (before, after) →
    ∀ rest, wordStart? (before ++ rest) pos = wordStart? line pos

/-- The word at an offset is the longest one that ends there. -/
theorem finds (line : Text) (pos : Nat) : Finds line pos := by
  constructor
  · rw [wordStart?, Option.map_eq_none_iff, Text.cut?_eq_none_iff]
  · intro boundary
    obtain ⟨front, word, after, parts⟩ := exists_wordBefore boundary
    exact ⟨front.byteLength, parts.wordStart?_eq⟩
  · intro start
    exact wordStart?_eq_some_iff
  · intro start other word found cut joined
    obtain ⟨front, shorter, after, parts, rfl⟩ := exists_of_wordStart? found
    exact parts.byteLength_le cut joined
  · intro before after cut rest
    obtain ⟨-, rfl⟩ := Text.append_of_cut? cut
    simp only [wordStart?, cut, Text.cut?_append, Option.map_some]

example : wordStart? "漢 é.lo)".toList 9 = some 6 := by decide

end LexerConsole.Completion
