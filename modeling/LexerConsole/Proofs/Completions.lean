import LexerConsole.Session.Completion
import Mathlib.Data.List.TakeWhile

/-!
# What completion offers

Completion looks at the longest word that ends at the cut, and offers the known words that go on
from it, each once and in their order. An offer is the word and what is still missing of it, so the
line with an offer inserted ends in the offered word at the cut, and completing there again offers
that word with nothing missing. The answer is absent just where a line cannot be cut.

Everything is said of a line that is taken apart around the word (`WordBefore`); inserting an offer
makes the word longer and leaves the other parts as they are.
-/

namespace LexerConsole.Completion

/-- A line that is cut at `pos` behind a word. No longer word ends there. -/
structure WordBefore (line : Text) (pos : Nat) (front word after : Text) : Prop where
  whole : line = front ++ word ++ after
  stop : Text.byteLength (front ++ word) = pos
  inside : ∀ c ∈ word, isWordChar c
  ends : ∀ c ∈ front.getLast?, isWordChar c = false

/-- The line with a text inserted at an offset. -/
def inserted? (line : Text) (pos : Nat) (t : Text) : Option Text :=
  (line.cut? pos).map fun parts => parts.1 ++ t ++ parts.2

/-- What is offered to go on from a word. -/
structure Offers (word : Text) (offers : List Candidate) : Prop where
  nothing : word = [] → offers = []
  listed : word ≠ [] → offers.map Candidate.display = words.filter fun w => word <+: w
  once : (offers.map Candidate.display).Nodup
  split : ∀ offer ∈ offers, offer.display = word ++ offer.insertion
  /-- What is missing of a known word begins at a boundary of it. -/
  cut : ∀ offer ∈ offers, offer.display.cut? word.byteLength = some (word, offer.insertion)

/-- A known word ends at `stop`, and completing there adds nothing to it. -/
structure Resumes (line : Text) (stop start : Nat) (word : Text) : Prop where
  begins : wordStart? line stop = some start
  ends : line.slice? start stop = some word
  again : ∃ offers, complete? line stop = some (stop, offers) ∧ ⟨word, []⟩ ∈ offers

section Words

variable {front word : Text} {offer : Candidate}

theorem words_nodup : words.Nodup := by
  decide

theorem isWordChar_of_mem_words {w : Text} (h : w ∈ words) : ∀ c ∈ w, isWordChar c := by
  have checked : ∀ w ∈ words, w.all isWordChar := by decide
  exact List.all_eq_true.1 (checked w h)

/-- A word that cannot be made longer to the left is the last one of a text. -/
theorem parts_append (inside : ∀ c ∈ word, isWordChar c)
    (ends : ∀ c ∈ front.getLast?, isWordChar c = false) :
    beforeLastWord (front ++ word) = front ∧ lastWord (front ++ word) = word := by
  have backwards : ∀ c ∈ word.reverse, isWordChar c :=
    fun c hc => inside c (List.mem_reverse.1 hc)
  have stop : ∀ c ∈ front.reverse.head?, isWordChar c = false := by
    rwa [List.head?_reverse]
  obtain ⟨run, rest⟩ := Text.takeWhile_run backwards stop
  rw [beforeLastWord, lastWord, List.reverse_append, run, rest, List.reverse_reverse,
    List.reverse_reverse]
  exact ⟨rfl, rfl⟩

theorem isWordChar_of_mem_lastWord (t : Text) : ∀ c ∈ lastWord t, isWordChar c := by
  intro c hc
  exact List.mem_takeWhile_imp (List.mem_reverse.1 hc)

theorem isWordChar_getLast?_beforeLastWord (t : Text) :
    ∀ c ∈ (beforeLastWord t).getLast?, isWordChar c = false := by
  intro c hc
  rw [beforeLastWord, List.getLast?_reverse] at hc
  exact Text.eq_false_of_mem_head?_dropWhile hc

theorem candidates_nil : candidates [] = [] :=
  rfl

theorem candidates_of_ne_nil (given : word ≠ []) :
    candidates word = (words.filter fun w => word <+: w).map fun w => ⟨w, w.drop word.length⟩ := by
  have same : (fun w : Text => word.isPrefixOf w) = fun w => decide (word <+: w) := by
    funext w
    rw [Bool.eq_iff_iff, List.isPrefixOf_iff_prefix, decide_eq_true_eq]
  rw [candidates, if_neg (fun h => given (List.isEmpty_iff.1 h)), same]

/-- An offer is a known word, taken apart behind the word that has begun. -/
theorem mem_candidates_iff : offer ∈ candidates word ↔
    word ≠ [] ∧ offer.display ∈ words ∧ offer.display = word ++ offer.insertion := by
  by_cases given : word = []
  · subst given
    simp [candidates_nil]
  · rw [candidates_of_ne_nil given, List.mem_map]
    constructor
    · rintro ⟨w, member, rfl⟩
      obtain ⟨known, rest, rfl⟩ := by simpa using List.mem_filter.1 member
      exact ⟨given, known, by simp⟩
    · rintro ⟨-, known, split⟩
      refine ⟨offer.display, List.mem_filter.2 ⟨known, ?_⟩, ?_⟩
      · simp [split]
      · rw [split, List.drop_left, ← split]

theorem isWordChar_of_mem_candidates (h : offer ∈ candidates word) :
    ∀ c ∈ offer.insertion, isWordChar c := by
  obtain ⟨-, known, split⟩ := mem_candidates_iff.1 h
  intro c hc
  refine isWordChar_of_mem_words known c ?_
  rw [split]
  exact List.mem_append_right word hc

theorem offers_candidates (word : Text) : Offers word (candidates word) := by
  have listed : word ≠ [] →
      (candidates word).map Candidate.display = words.filter fun w => word <+: w := by
    intro given
    rw [candidates_of_ne_nil given, List.map_map]
    exact List.map_id _
  constructor
  · rintro rfl
    exact candidates_nil
  · exact listed
  · by_cases given : word = []
    · rw [given, candidates_nil]
      exact List.nodup_nil
    · rw [listed given]
      exact words_nodup.filter _
  · intro offer member
    exact (mem_candidates_iff.1 member).2.2
  · intro offer member
    rw [(mem_candidates_iff.1 member).2.2]
    exact Text.cut?_append word offer.insertion

end Words

section Lines

variable {line front word after : Text} {pos : Nat} {offer : Candidate}

/-- Wherever a line can be cut, a word ends, if only the empty one. -/
theorem exists_wordBefore (h : line.IsBoundary pos) :
    ∃ front word after, WordBefore line pos front word after := by
  obtain ⟨before, after, rfl, rfl⟩ := h
  have split := beforeLastWord_append_lastWord before
  exact ⟨beforeLastWord before, lastWord before, after, by rw [split], by rw [split],
    isWordChar_of_mem_lastWord before, isWordChar_getLast?_beforeLastWord before⟩

namespace WordBefore

variable (h : WordBefore line pos front word after)
include h

theorem cut?_eq : line.cut? pos = some (front ++ word, after) := by
  rw [h.whole, ← h.stop]
  exact Text.cut?_append (front ++ word) after

theorem wordStart?_eq : wordStart? line pos = some front.byteLength := by
  rw [wordStart?, h.cut?_eq, Option.map_some, (parts_append h.inside h.ends).1]

theorem complete?_eq : complete? line pos = some (pos, candidates word) := by
  rw [complete?, h.cut?_eq, Option.map_some, (parts_append h.inside h.ends).2]

theorem slice?_eq : line.slice? front.byteLength pos = some word := by
  rw [h.whole, ← h.stop, Text.byteLength_append]
  exact Text.slice?_append front word after

/-- Word characters that are inserted at the cut make the word longer. -/
theorem insert {more : Text} (hm : ∀ c ∈ more, isWordChar c) :
    WordBefore (front ++ word ++ more ++ after) (pos + more.byteLength) front (word ++ more)
      after := by
  constructor
  · rw [List.append_assoc front]
  · rw [← h.stop, ← Text.byteLength_append, List.append_assoc]
  · intro c hc
    exact (List.mem_append.1 hc).elim (h.inside c) (hm c)
  · exact h.ends

/-- After an offer has been taken, the same word is on offer once more. -/
theorem resumes (member : offer ∈ candidates word) :
    Resumes (front ++ word ++ offer.insertion ++ after) (pos + offer.insertion.byteLength)
      front.byteLength offer.display := by
  obtain ⟨given, known, split⟩ := mem_candidates_iff.1 member
  have longer := h.insert (isWordChar_of_mem_candidates member)
  rw [← split] at longer
  have visible : offer.display ≠ [] := by
    rw [split]
    exact List.append_ne_nil_of_left_ne_nil given _
  refine ⟨longer.wordStart?_eq, longer.slice?_eq, _, longer.complete?_eq, ?_⟩
  exact mem_candidates_iff.2 ⟨visible, known, (List.append_nil _).symm⟩

end WordBefore

theorem complete?_eq_none_iff :
    complete? line pos = none ↔ line.byteLength < pos ∨ line.IsInside pos := by
  rw [complete?, Option.map_eq_none_iff, Text.cut?_eq_none_iff]

end Lines

/-- What completing a line at an offset gives, and what it gives again after an offer is taken. -/
structure Completes (line : Text) (pos : Nat) : Prop where
  absent : complete? line pos = none ↔ line.byteLength < pos ∨ line.IsInside pos
  offered : line.IsBoundary pos → ∃ start word offers,
    wordStart? line pos = some start ∧ line.slice? start pos = some word ∧
    complete? line pos = some (pos, offers) ∧ Offers word offers ∧
    ∀ offer ∈ offers, ∃ edited, inserted? line pos offer.insertion = some edited ∧
      Resumes edited (pos + offer.insertion.byteLength) start offer.display

/-- The offers are the known words that go on from the word at the cut, and stay so once taken. -/
theorem completes (line : Text) (pos : Nat) : Completes line pos := by
  constructor
  · exact complete?_eq_none_iff
  · intro boundary
    obtain ⟨front, word, after, parts⟩ := exists_wordBefore boundary
    refine ⟨front.byteLength, word, candidates word, parts.wordStart?_eq, parts.slice?_eq,
      parts.complete?_eq, offers_candidates word, ?_⟩
    intro offer member
    refine ⟨front ++ word ++ offer.insertion ++ after, ?_, parts.resumes member⟩
    rw [inserted?, parts.cut?_eq, Option.map_some]

example : complete? "éret".toList 5 = some (5, [⟨"return".toList, "urn".toList⟩]) := by decide

end LexerConsole.Completion
