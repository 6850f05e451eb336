import LexerConsole.Proofs.EscapeCodes
import LexerConsole.Proofs.Hints

/-!
# What an accepted hint does to a line

A hint is one text: what is shown of it is what goes into the line when it is accepted. The text
has the codes in it that dim it on a terminal, so no accepted hint finishes the word at the end of the
line (`not_finishes_of_hint?`), while what completion inserts does. The escape characters stay in the
line, and the scanner takes them for illegal tokens.
-/

namespace LexerConsole.Completion

/-- With `more` at its end, a line ends in a known word, from where its last word begins. -/
def Finishes (line more : Text) : Prop :=
  ∃ start, wordStart? line line.byteLength = some start ∧
    ∃ w ∈ words, Text.slice? (line ++ more) start (line ++ more).byteLength = some w

section Lines

variable {line front word more shown : Text} {offer : Candidate}

/-- A line is finished by what makes its last word a known one. -/
theorem WordBefore.finishes_iff (h : WordBefore line line.byteLength front word []) :
    Finishes line more ↔ word ++ more ∈ words := by
  have whole : line = front ++ word := by simpa using h.whole
  have last : Text.slice? (line ++ more) front.byteLength (line ++ more).byteLength =
      some (word ++ more) := by
    have cut := Text.slice?_append front (word ++ more) []
    rw [← Text.byteLength_append] at cut
    simpa [whole] using cut
  constructor
  · rintro ⟨start, begins, w, known, cut⟩
    obtain rfl : front.byteLength = start := Option.some.inj (h.wordStart?_eq.symm.trans begins)
    rw [last] at cut
    rwa [Option.some.inj cut]
  · intro known
    exact ⟨_, h.wordStart?_eq, _, known, last⟩

theorem exists_of_hint? (h : hint? line line.byteLength = some (some shown)) :
    ∃ front word rest, WordBefore line line.byteLength front word [] ∧
      ⟨word ++ rest, rest⟩ ∈ candidates word ∧ 2 ≤ word.byteLength ∧
      shown = Effect.dim.apply rest := by
  obtain ⟨front, word, parts⟩ := exists_wordBefore_end line
  rw [parts.hint?_eq] at h
  obtain ⟨rest, goes, rfl⟩ := Option.map_eq_some_iff.1 (Option.some.inj h)
  obtain ⟨long, -, member⟩ := exists_of_continuation? goes
  exact ⟨front, word, rest, parts, member, long, rfl⟩

theorem calm_of_isWordChar {t : Text} (inside : ∀ c ∈ t, isWordChar c) : Calm t.utf8 := by
  refine calm_of_forall_ne ?_
  rintro b hb rfl
  exact absurd (inside _ (Text.shownByte_mem hb (by decide))) (by decide)

/-- The escape character of a code is in no known word. -/
theorem not_finishes_of_hint? (h : hint? line line.byteLength = some (some shown)) :
    ¬ Finishes line shown := by
  obtain ⟨front, word, rest, parts, -, -, rfl⟩ := exists_of_hint? h
  rw [parts.finishes_iff]
  intro known
  have escape : '\x1b' ∈ word ++ Effect.dim.apply rest := by simp [Effect.apply, Effect.code]
  exact absurd (isWordChar_of_mem_words known _ escape) (by decide)

end Lines

/-- What a line becomes when its hint is accepted. -/
structure Accepted (line : Text) : Prop where
  /-- The word is finished only where there is no hint to accept. -/
  finishes_iff : (∀ shown, hint? line line.byteLength = some (some shown) → Finishes line shown) ↔
    hint? line line.byteLength = some none
  offered : ∀ shown, hint? line line.byteLength = some (some shown) → ∃ offer,
    complete? line line.byteLength = some (line.byteLength, [offer]) ∧
    Finishes line offer.insertion ∧ withoutCodes shown.utf8 = offer.insertion.utf8
  scanned : ∀ shown, hint? line line.byteLength = some (some shown) →
    Token.stray line.byteLength 0x1B ∈ tokenize (line ++ shown)

theorem accepted (line : Text) : Accepted line := by
  constructor
  · constructor
    · intro finishes
      obtain ⟨front, word, parts⟩ := exists_wordBefore_end line
      rw [parts.hint?_eq]
      cases goes : continuation? word with
      | none => rfl
      | some rest =>
        have shown : hint? line line.byteLength = some (some (Effect.dim.apply rest)) := by
          rw [parts.hint?_eq, goes]
          rfl
        exact absurd (finishes _ shown) (not_finishes_of_hint? shown)
    · intro absent shown given
      rw [absent] at given
      cases given
  · intro shown h
    obtain ⟨front, word, rest, parts, member, long, rfl⟩ := exists_of_hint? h
    have calm := calm_of_isWordChar (isWordChar_of_mem_candidates member)
    have deleted := Effect.dim.withoutCodes_apply (isStyled_of_calm calm) []
    refine ⟨⟨word ++ rest, rest⟩, ?_, parts.finishes_iff.2 (mem_candidates_iff.1 member).2.1, ?_⟩
    · rw [parts.complete?_eq, candidates_eq_singleton long member]
    · simpa [withoutCodes] using deleted
  · intro shown h
    obtain ⟨front, word, rest, parts, -, -, rfl⟩ := exists_of_hint? h
    have found : (line ++ Effect.dim.apply rest).utf8[line.byteLength]? = some 0x1B := by
      rw [Text.utf8_append, ← Text.length_utf8, List.getElem?_append_right (Nat.le_refl _),
        Nat.sub_self]
      rfl
    exact (mem_tokenize_illegal_iff.2 ⟨_, _, found, by decide, rfl⟩).1

/-- The hint for the beginning of a keyword does not finish it. -/
theorem not_finishes_ret : hint? "ret".toList 3 = some (some "\x1b[2murn\x1b[0m".toList) ∧
    Finishes "ret".toList "urn".toList ∧ ¬ Finishes "ret".toList "\x1b[2murn\x1b[0m".toList := by
  have shown : hint? "ret".toList 3 = some (some "\x1b[2murn\x1b[0m".toList) := by decide
  have whole : "ret".toList ++ "urn".toList ∈ words := by decide
  exact ⟨shown, ⟨0, by decide, _, whole, by decide⟩, not_finishes_of_hint? shown⟩

end LexerConsole.Completion
