import LexerConsole.Proofs.WordStarts
import Mathlib.Data.List.Nodup

/-!
# When a hint is shown

Hint and completion search the known words each in its own way: the hint takes the first word that
is longer than what is typed, completion takes every word that begins like it. No two known words
begin with the same two characters (`eq_of_isPrefix`), so from two bytes on both find one word or
none. A hint is therefore shown just where completion has something to add, it is what completion
adds, between the codes that dim it, and there is no second offer beside it.
-/

namespace LexerConsole.Completion

/-- A hint and the offers for the same word. -/
structure Agree (word : Text) (offers : List Candidate) (hint : Option Text) : Prop where
  shown_iff : (∃ shown, hint = some shown) ↔
    2 ≤ word.byteLength ∧ ∃ offer ∈ offers, offer.insertion ≠ []
  single : ∀ shown, hint = some shown → ∃ offer, offers = [offer] ∧
    shown = "\x1b[2m".toList ++ offer.insertion ++ "\x1b[0m".toList
  /-- Nothing is missing of a known word. A shorter name of a command is not among them. -/
  complete : word ∈ words → hint = none

section Words

variable {word w v rest : Text} {offer : Candidate}

/-- No two known words begin with the same two characters. -/
theorem eq_of_isPrefix (long : 2 ≤ word.length) (hw : w ∈ words) (hv : v ∈ words)
    (before : word <+: w) (beside : word <+: v) : w = v := by
  have checked : ∀ w ∈ words, ∀ v ∈ words, w.take 2 = v.take 2 → w = v := by decide
  have front : ∀ u : Text, word <+: u → u.take 2 = word.take 2 := by
    rintro u ⟨rest, rfl⟩
    exact List.take_append_of_le_length long
  exact checked w hw v hv ((front w before).trans (front v beside).symm)

theorem utf8Size_of_isWordChar {c : Char} (h : isWordChar c) : c.utf8Size = 1 := by
  rw [Char.utf8Size_eq_one_iff]
  rcases isWordChar_iff.1 h with ⟨-, upper⟩ | ⟨-, upper⟩ | ⟨-, upper⟩ | rfl | rfl
  · exact UInt32.le_trans upper (by decide)
  · exact UInt32.le_trans upper (by decide)
  · exact UInt32.le_trans upper (by decide)
  · decide
  · decide

theorem byteLength_eq_length (inside : ∀ c ∈ word, isWordChar c) :
    word.byteLength = word.length := by
  induction word with
  | nil => rfl
  | cons c word ih =>
    obtain ⟨here, there⟩ := List.forall_mem_cons.1 inside
    simp [Text.byteLength, utf8Size_of_isWordChar here, ih there, Nat.add_comm]

theorem byteLength_eq_length_of_isPrefix (known : w ∈ words) (before : word <+: w) :
    word.byteLength = word.length :=
  byteLength_eq_length fun c hc => isWordChar_of_mem_words known c (before.mem hc)

/-- From two bytes on there is one word to go on to, or none. -/
theorem eq_of_mem_candidates {other : Candidate} (long : 2 ≤ word.byteLength)
    (member : offer ∈ candidates word) (beside : other ∈ candidates word) : other = offer := by
  obtain ⟨-, known, split⟩ := mem_candidates_iff.1 member
  obtain ⟨-, known', split'⟩ := mem_candidates_iff.1 beside
  have before : word <+: offer.display := ⟨offer.insertion, split.symm⟩
  rw [byteLength_eq_length_of_isPrefix known before] at long
  have same : other.display = offer.display :=
    eq_of_isPrefix long known' known ⟨other.insertion, split'.symm⟩ before
  have rest : other.insertion = offer.insertion :=
    List.append_cancel_left (split'.symm.trans (same.trans split))
  cases other
  cases offer
  simp_all

theorem candidates_eq_singleton (long : 2 ≤ word.byteLength) (member : offer ∈ candidates word) :
    candidates word = [offer] := by
  have copies := List.eq_replicate_of_mem fun _ beside => eq_of_mem_candidates long member beside
  have distinct := List.Nodup.of_map Candidate.display (offers_candidates word).once
  rw [copies, List.nodup_replicate] at distinct
  have found := List.length_pos_of_mem member
  have one : (candidates word).length = 1 := by omega
  rw [copies, one, List.replicate_one]

/-- What goes on from a word is offered for it. -/
theorem exists_of_continuation? (h : continuation? word = some rest) :
    2 ≤ word.byteLength ∧ rest ≠ [] ∧ ⟨word ++ rest, rest⟩ ∈ candidates word := by
  rw [continuation?] at h
  split at h
  · cases h
  · rename_i passed
    obtain ⟨w, found, rfl⟩ := Option.map_eq_some_iff.1 h
    have known := List.mem_of_find?_eq_some found
    have longer := List.find?_some found
    simp only [Bool.or_eq_true, decide_eq_true_eq, not_or, Nat.not_lt] at passed
    simp only [Bool.and_eq_true, List.isPrefixOf_iff_prefix, decide_eq_true_eq] at longer
    obtain ⟨⟨rest, rfl⟩, more⟩ := longer
    rw [List.drop_left]
    refine ⟨passed.1, ?_, mem_candidates_iff.2 ⟨?_, known, rfl⟩⟩
    · rintro rfl
      simp at more
    · rintro rfl
      exact absurd passed.1 (by decide)

/-- A known word is offered for itself. -/
theorem insertion_eq_nil (long : 2 ≤ word.byteLength) (known : word ∈ words)
    (member : offer ∈ candidates word) : offer.insertion = [] := by
  have given : word ≠ [] := by
    rintro rfl
    exact absurd long (by decide)
  have whole : ⟨word, []⟩ ∈ candidates word :=
    mem_candidates_iff.2 ⟨given, known, (List.append_nil word).symm⟩
  rw [← eq_of_mem_candidates long member whole]

theorem continuation?_eq (long : 2 ≤ word.byteLength) (member : offer ∈ candidates word)
    (more : offer.insertion ≠ []) : continuation? word = some offer.insertion := by
  obtain ⟨given, known, split⟩ := mem_candidates_iff.1 member
  have plain : Keyword.ofWord? word = none := by
    refine Option.eq_none_iff_forall_not_mem.2 ?_
    intro k spelled
    have whole : word ∈ words :=
      List.mem_append_left _ (List.mem_map.2 ⟨k, k.mem_all, Keyword.ofWord?_eq_some_iff.1 spelled⟩)
    exact more (insertion_eq_nil long whole member)
  have passed : ¬ (word.byteLength < 2 || (none : Option Keyword).isSome) := by
    rw [Option.isSome_none, Bool.or_false, decide_eq_true_eq]
    exact Nat.not_lt.2 long
  have missing : 0 < Text.byteLength offer.insertion :=
    Nat.pos_of_ne_zero fun empty => more (Text.eq_nil_of_byteLength_eq_zero empty)
  have goes : (words.find? fun w =>
      word.isPrefixOf w && word.byteLength < Text.byteLength w).isSome := by
    refine List.find?_isSome.2 ⟨offer.display, known, ?_⟩
    simp [split, Text.byteLength_append, missing]
  obtain ⟨w, found⟩ := Option.isSome_iff_exists.1 goes
  have first := List.find?_some found
  simp only [Bool.and_eq_true, List.isPrefixOf_iff_prefix, decide_eq_true_eq] at first
  obtain ⟨⟨rest, rfl⟩, -⟩ := first
  have beside : ⟨word ++ rest, rest⟩ ∈ candidates word :=
    mem_candidates_iff.2 ⟨given, List.mem_of_find?_eq_some found, rfl⟩
  rw [continuation?, plain, found, if_neg passed, Option.map_some, List.drop_left,
    ← eq_of_mem_candidates long member beside]

/-- A hint is shown just where completion has something to add. -/
theorem agree (word : Text) :
    Agree word (candidates word) ((continuation? word).map Effect.dim.apply) := by
  constructor
  · constructor
    · rintro ⟨shown, h⟩
      obtain ⟨rest, goes, -⟩ := Option.map_eq_some_iff.1 h
      obtain ⟨long, more, member⟩ := exists_of_continuation? goes
      exact ⟨long, _, member, more⟩
    · rintro ⟨long, offer, member, more⟩
      rw [continuation?_eq long member more]
      exact ⟨_, rfl⟩
  · intro shown h
    obtain ⟨rest, goes, rfl⟩ := Option.map_eq_some_iff.1 h
    obtain ⟨long, -, member⟩ := exists_of_continuation? goes
    exact ⟨_, candidates_eq_singleton long member, rfl⟩
  · intro known
    refine Option.map_eq_none_iff.2 (Option.eq_none_iff_forall_not_mem.2 ?_)
    intro rest goes
    obtain ⟨long, more, member⟩ := exists_of_continuation? goes
    exact more (insertion_eq_nil long known member)

end Words

section Lines

variable {line front word : Text}

/-- At the end of a line there is nothing behind its last word. -/
theorem exists_wordBefore_end (line : Text) :
    ∃ front word, WordBefore line line.byteLength front word [] := by
  have boundary : line.IsBoundary line.byteLength := ⟨line, [], (List.append_nil line).symm, rfl⟩
  obtain ⟨front, word, after, parts⟩ := exists_wordBefore boundary
  have empty : after.byteLength = 0 := by
    have whole := congrArg Text.byteLength parts.whole
    rw [Text.byteLength_append, parts.stop] at whole
    omega
  exact ⟨front, word, Text.eq_nil_of_byteLength_eq_zero empty ▸ parts⟩

theorem WordBefore.hint?_eq (h : WordBefore line line.byteLength front word []) :
    hint? line line.byteLength = some ((continuation? word).map Effect.dim.apply) := by
  rw [hint?, if_neg (Nat.lt_irrefl _), h.cut?_eq, Option.map_some, hintAtEnd,
    (parts_append h.inside h.ends).2]

end Lines

/-- What is shown and what is offered at the end of a line; before its end nothing is shown. -/
structure Hints (line : Text) : Prop where
  atEnd : ∃ start word offers hint, wordStart? line line.byteLength = some start ∧
    line.slice? start line.byteLength = some word ∧
    complete? line line.byteLength = some (line.byteLength, offers) ∧
    hint? line line.byteLength = some hint ∧ Agree word offers hint
  earlier : ∀ pos < line.byteLength, hint? line pos = some none

theorem hints (line : Text) : Hints line := by
  constructor
  · obtain ⟨front, word, parts⟩ := exists_wordBefore_end line
    exact ⟨front.byteLength, word, candidates word, _, parts.wordStart?_eq, parts.slice?_eq,
      parts.complete?_eq, parts.hint?_eq, agree word⟩
  · intro pos early
    rw [hint?, if_pos early]

example : hint? "é = ret".toList 8 = some (some "\x1b[2murn\x1b[0m".toList) := by decide

end LexerConsole.Completion
