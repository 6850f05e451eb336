import LexerConsole.Proofs.CommandGrammar
import LexerConsole.Proofs.Completions
import LexerConsole.Proofs.Locality

/-!
# What an accepted offer means

Completion finds where a word begins going backwards over characters, with a point as part of a
word; the scanner finds it going forwards over bytes, and takes no point into a word. They agree on
where a keyword that has been completed begins: what stands in front of it ends in no word
character, so no token in front of it reaches into it (`not_fuses_of_isWord`). A dot command behind
blanks is read as the command that was offered.
-/

namespace LexerConsole

open Alphabet

section Bytes

variable {lexeme : List UInt8} {kind : Kind} {b : UInt8}

theorem Whole.isWord_of_takes (h : Whole lexeme kind) (letter : isLetter b)
    (takes : kind.takes b) : IsWord lexeme := by
  cases h with
  | stray => cases takes
  | spelled spells =>
    rcases spells_iff.1 spells with ⟨isWord, -⟩ | ⟨-, rfl⟩ | ⟨s, -, rfl⟩
    · exact isWord
    · have digit : isDigit b := takes
      rw [isDigit_eq_false_of_isLetter letter] at digit
      cases digit
    · rw [Kind.takes_symbol, Bool.and_eq_true, decide_eq_true_eq] at takes
      obtain ⟨-, rfl⟩ := takes
      exact absurd letter (by decide)

theorem Lexes.exists_isSuffix {offset : Nat} {bytes : List UInt8} {ts : List Token}
    (h : Lexes offset bytes ts) {t : Token} (ht : t ∈ ts) (visible : t.isEof = false)
    (stop : t.span.stop = offset + bytes.length) :
    ∃ lexeme, Whole lexeme t.kind ∧ lexeme <:+ bytes := by
  induction h with
  | done hb =>
    rw [List.mem_singleton.1 ht, Token.isEof_eof] at visible
    cases visible
  | @token offset blanks lexeme after kind ts hb hl longest tail ih =>
    simp only [List.length_append] at stop
    rcases List.mem_cons.1 ht with rfl | ht
    · have nothing : after = [] := by
        refine List.eq_nil_of_length_eq_zero ?_
        dsimp only at stop
        omega
      refine ⟨lexeme, longest.complete.whole, ?_⟩
      rw [nothing, List.append_nil]
      exact List.suffix_append blanks lexeme
    · obtain ⟨last, whole, suffix⟩ := ih ht (by omega)
      exact ⟨last, whole,
        (suffix.trans (List.suffix_append lexeme after)).trans (List.suffix_append blanks _)⟩

theorem isWordChar_shownByte (h : isWordByte b) : Completion.isWordChar (shownByte b) := by
  have checked : ∀ n < 0x80, isWordByte n.toUInt8 →
      Completion.isWordChar (shownByte n.toUInt8) := by decide
  have small := UInt8.lt_iff_toNat_lt.1 (ascii_of_isWordByte h)
  have holds := checked b.toNat small
  rw [Nat.toUInt8, UInt8.ofNat_toNat] at holds
  exact holds h

/-- The last byte of a text is its last character, if it is ASCII. -/
theorem Text.getLast?_of_utf8 {t : Text} {before : List UInt8} (h : t.utf8 = before ++ [b])
    (hb : b < 0x80) : t.getLast? = some (shownByte b) := by
  obtain ⟨front, rest, rfl, -, none⟩ := exists_of_utf8_eq_cons h hb
  rw [eq_nil_of_utf8_eq_nil none, List.getLast?_concat]

end Bytes

section Keywords

variable {front word : Text}

/-- No token in front of a word reaches into it where no word character touches it. -/
theorem not_fuses_of_isWord (ends : ∀ c ∈ front.getLast?, Completion.isWordChar c = false)
    (isWord : IsWord word.utf8) : ¬ Fuses front word := by
  rintro ⟨t, b, last, stop, head, takes⟩
  obtain ⟨rest, split⟩ := List.head?_eq_some_iff.1 head
  have letter : isLetter b := by
    rw [split] at isWord
    exact isWord.1
  have member := List.mem_of_getLast? last
  obtain ⟨lexeme, whole, before, whole_eq⟩ := (lexes_tokenize front).exists_isSuffix
    (List.dropLast_subset _ member) ((openTokens_spec front).2 t member)
    (by rw [stop, Nat.zero_add, Text.length_utf8])
  have touching := whole.isWord_of_takes letter takes
  obtain ⟨more, c, rfl⟩ := (List.eq_nil_or_concat lexeme).resolve_left touching.ne_nil
  have wordByte : isWordByte c := touching.isWordByte_of_mem c (by simp)
  rw [List.concat_eq_append, ← List.append_assoc] at whole_eq
  have shown := Text.getLast?_of_utf8 whole_eq.symm (ascii_of_isWordByte wordByte)
  have other := ends _ shown
  rw [isWordChar_shownByte wordByte] at other
  cases other

theorem Keyword.isWord_spelling (k : Keyword) : IsWord k.spelling.utf8 := by
  cases k <;> exact ⟨by decide, List.all_eq_true.1 rfl⟩

theorem openTokens_spelling (k : Keyword) : openTokens k.spelling =
    [⟨.keyword k, k.spelling, ⟨0, k.spelling.byteLength⟩⟩] := by
  have isWord := k.isWord_spelling
  have complete : Complete k.spelling.utf8 (.keyword k) [] :=
    ⟨.spelled (.keyword k isWord rfl), nofun⟩
  have solid : ∀ b ∈ k.spelling.utf8.head?, isBlank b = false := fun b hb =>
    isBlank_eq_false_of_isWordByte (isWord.isWordByte_of_mem b (List.mem_of_mem_head? hb))
  have run : Lexes 0 ([] ++ (k.spelling.utf8 ++ [])) _ :=
    .token (List.forall_mem_nil _) solid complete.longest (.done (List.forall_mem_nil _))
  rw [List.nil_append, List.append_nil] at run
  refine openTokens_eq ?_
  simpa [Keyword.shown_utf8_spelling, Text.length_utf8] using run

/-- A keyword that no word character touches is the last token of the text it ends. -/
theorem getLast?_openTokens_keyword
    (ends : ∀ c ∈ front.getLast?, Completion.isWordChar c = false) (k : Keyword) :
    (openTokens (front ++ k.spelling)).getLast? =
      some ⟨.keyword k, k.spelling, ⟨front.byteLength, (front ++ k.spelling).byteLength⟩⟩ := by
  rw [openTokens_append_of_not_fuses front k.spelling (not_fuses_of_isWord ends k.isWord_spelling),
    openTokens_spelling, List.map_singleton, List.getLast?_concat, Text.byteLength_append,
    Nat.add_comm front.byteLength]
  simp [Token.shift, Span.shift]

end Keywords

theorem Command.exists_completionWord (c : Command) :
    ∃ name ∈ c.spellings, c.completionWord = '.' :: name := by
  cases c <;> exact ⟨_, List.mem_cons_self, rfl⟩

theorem Command.parse?_completionWord {front : Text} (blank : front.isBlank) (c : Command) :
    parse? (front ++ c.completionWord) = some (c, none) := by
  obtain ⟨name, spelled, written⟩ := c.exists_completionWord
  have solid : ∀ d ∈ c.completionWord, Text.isSpace d = false := by
    have checked : c.completionWord.all fun d => !Text.isSpace d := by
      cases c <;> decide
    simpa using List.all_eq_true.1 checked
  have notBlank : ∀ d ∈ c.completionWord, Text.isBlankChar d = false :=
    fun d hd => Bool.eq_false_iff.2 fun h =>
      Bool.false_ne_true ((solid d hd).symm.trans (Text.isSpace_of_isBlankChar h))
  refine parse?_iff_reads.2 ⟨name, [], ⟨⟨front, [], ?_, ?_, ?_⟩, ?_, ?_⟩, ?_, ?_, ?_, ?_⟩
  · simp [written]
  · exact List.all_eq_true.1 blank
  · nofun
  · rw [List.append_nil, ← written]
    exact fun d hd => notBlank d (List.mem_of_mem_head? hd)
  · rw [List.append_nil, ← written]
    exact fun d hd => notBlank d (List.mem_of_getLast? hd)
  · exact fun d hd => solid d (written ▸ List.mem_cons_of_mem _ hd)
  · nofun
  · exact ⟨name, spelled, List.forall₂_same.2 fun d _ => Or.inl rfl⟩
  · exact .nothing (List.forall_mem_nil _)

namespace Completion

/-- What a line up to the cut is when an offer has been taken there. -/
structure Meant (before : Text) (start : Nat) (offer : Candidate) : Prop where
  known : (∃ k : Keyword, offer.display = k.spelling) ∨
    ∃ c : Command, offer.display = c.completionWord
  /-- A keyword is the last token, from the beginning of its word to the end. -/
  keyword : ∀ k : Keyword, offer.display = k.spelling →
    (openTokens (before ++ offer.insertion)).getLast? =
      some ⟨.keyword k, offer.display, ⟨start, (before ++ offer.insertion).byteLength⟩⟩
  /-- A command behind blanks is that command. -/
  command : ∃ front word, before.cut? start = some (front, word) ∧ (front.isBlank →
    ∀ c : Command, offer.display = c.completionWord →
      Command.parse? (before ++ offer.insertion) = some (c, none))

/-- What is shown for an offer is what the line means when the offer is taken. -/
theorem exists_meant {line : Text} {pos : Nat} (boundary : line.IsBoundary pos) :
    ∃ before after start offers, line.cut? pos = some (before, after) ∧
      wordStart? line pos = some start ∧ complete? line pos = some (pos, offers) ∧
      ∀ offer ∈ offers, Meant before start offer := by
  obtain ⟨front, word, after, parts⟩ := exists_wordBefore boundary
  refine ⟨front ++ word, after, front.byteLength, candidates word, parts.cut?_eq,
    parts.wordStart?_eq, parts.complete?_eq, ?_⟩
  intro offer member
  obtain ⟨-, known, split⟩ := mem_candidates_iff.1 member
  have edited : front ++ word ++ offer.insertion = front ++ offer.display := by
    rw [List.append_assoc, ← split]
  constructor
  · rcases List.mem_append.1 known with keyword | command
    · obtain ⟨k, -, same⟩ := List.mem_map.1 keyword
      exact Or.inl ⟨k, same.symm⟩
    · obtain ⟨c, -, same⟩ := List.mem_map.1 command
      exact Or.inr ⟨c, same.symm⟩
  · intro k same
    rw [edited, same]
    exact getLast?_openTokens_keyword parts.ends k
  · refine ⟨front, word, Text.cut?_append front word, ?_⟩
    intro blank c same
    rw [edited, same]
    exact Command.parse?_completionWord blank c

/-- A keyword is completed behind an operator and a longer character, a command behind a tab. -/
theorem exists_meant_return :
    (Text.IsBoundary "漢=re)".toList 6 ∧ (openTokens "漢=return".toList).getLast? =
      some ⟨.keyword .returnWord, "return".toList, ⟨4, 10⟩⟩) ∧
    Text.IsBoundary "\t.lo".toList 4 ∧
      Command.parse? "\t.load".toList = some (.load, none) := by
  have inner : Text.IsBoundary "漢=re)".toList 6 := ⟨"漢=re".toList, [')'], rfl, by decide⟩
  have last : Text.IsBoundary "\t.lo".toList 4 := ⟨"\t.lo".toList, [], rfl, by decide⟩
  refine ⟨⟨inner, ?_⟩, last, ?_⟩
  · obtain ⟨before, after, start, offers, cut, begins, offered, meant⟩ := exists_meant inner
    obtain ⟨rfl, -⟩ := Prod.mk.inj (Option.some.inj cut)
    obtain rfl : 4 = start := Option.some.inj begins
    obtain rfl : [⟨"return".toList, "turn".toList⟩] = offers :=
      (Prod.mk.inj (Option.some.inj offered)).2
    exact (meant _ List.mem_cons_self).keyword .returnWord rfl
  · obtain ⟨before, after, start, offers, cut, begins, offered, meant⟩ := exists_meant last
    obtain ⟨rfl, -⟩ := Prod.mk.inj (Option.some.inj cut)
    obtain rfl : 1 = start := Option.some.inj begins
    obtain rfl : [⟨".load".toList, "ad".toList⟩] = offers :=
      (Prod.mk.inj (Option.some.inj offered)).2
    obtain ⟨front, word, parts, read⟩ := (meant _ List.mem_cons_self).command
    obtain ⟨rfl, -⟩ := Prod.mk.inj (Option.some.inj parts)
    exact read rfl .load rfl

end Completion
end LexerConsole
