import LexerConsole.Scan.Lexeme

/-!
# Classes of lexemes

Words, numbers and symbols begin with different bytes, so the first byte of a lexeme
decides its class. From this follow the facts that tie whole lexemes to one byte of
look-ahead: bytes have one kind, a byte that the kind takes makes a longer lexeme, and
a longer lexeme has such a byte behind the shorter one.
-/

namespace LexerConsole

open Alphabet

theorem Spells.ne_nil {lexeme : List UInt8} {kind : Kind} (h : Spells lexeme kind) :
    lexeme ≠ [] :=
  (Whole.spelled h).ne_nil

theorem Spells.ascii {lexeme : List UInt8} {kind : Kind} (h : Spells lexeme kind) :
    ∀ b ∈ lexeme, b < 0x80 := by
  rcases spells_iff.1 h with ⟨isWord, -⟩ | ⟨isNumber, -⟩ | ⟨s, rfl, -⟩
  · exact isWord.ascii
  · exact isNumber.ascii
  · exact fun _ => Symbol.ascii_of_mem_bytes

section FirstByte

variable {b : UInt8} {rest : List UInt8} {kind : Kind}

theorem Spells.word_of_isLetter (h : Spells (b :: rest) kind) (hb : isLetter b) :
    IsWord (b :: rest) ∧ kind = .ofWord (shown (b :: rest)) := by
  rcases spells_iff.1 h with word | ⟨isNumber, _⟩ | ⟨s, hs, _⟩
  · exact word
  · have digit := isNumber.2 b List.mem_cons_self
    rw [isDigit_eq_false_of_isLetter hb] at digit
    cases digit
  · have other := isWordByte_eq_false_of_mem_bytes (hs ▸ List.mem_cons_self)
    rw [isWordByte_of_isLetter hb] at other
    cases other

theorem Spells.number_of_isDigit (h : Spells (b :: rest) kind) (hb : isDigit b) :
    IsNumber (b :: rest) ∧ kind = .int := by
  rcases spells_iff.1 h with ⟨isWord, _⟩ | number | ⟨s, hs, _⟩
  · rw [isDigit_eq_false_of_isLetter isWord.1] at hb
    cases hb
  · exact number
  · have other := isWordByte_eq_false_of_mem_bytes (hs ▸ List.mem_cons_self)
    rw [isWordByte_of_isDigit hb] at other
    cases other

theorem Spells.symbol_of_not_isWordByte (h : Spells (b :: rest) kind)
    (hb : isWordByte b = false) : ∃ s : Symbol, b :: rest = s.bytes ∧ kind = .symbol s := by
  rcases spells_iff.1 h with ⟨isWord, _⟩ | ⟨isNumber, _⟩ | symbol
  · rw [isWordByte_of_isLetter isWord.1] at hb
    cases hb
  · rw [isWordByte_of_isDigit (isNumber.2 b List.mem_cons_self)] at hb
    cases hb
  · exact symbol

end FirstByte

/-- The first byte of a lexeme decides its class, and the bytes decide its kind. -/
theorem Spells.kind_unique {lexeme : List UInt8} {k k' : Kind} (h : Spells lexeme k)
    (h' : Spells lexeme k') : k = k' := by
  obtain ⟨b, rest, rfl⟩ := List.exists_cons_of_ne_nil h.ne_nil
  rcases spells_iff.1 h with ⟨isWord, rfl⟩ | ⟨isNumber, rfl⟩ | ⟨s, hs, rfl⟩
  · exact (h'.word_of_isLetter isWord.1).2.symm
  · exact (h'.number_of_isDigit (isNumber.2 b List.mem_cons_self)).2.symm
  · have other := isWordByte_eq_false_of_mem_bytes (hs ▸ List.mem_cons_self)
    obtain ⟨t, ht, rfl⟩ := h'.symbol_of_not_isWordByte other
    rw [Symbol.bytes_injective (hs.symm.trans ht)]

/-- A lexeme with a byte behind it that its kind takes is a lexeme. -/
theorem Spells.exists_longer {lexeme : List UInt8} {kind : Kind} {c : UInt8}
    (h : Spells lexeme kind) (hc : kind.takes c) : ∃ k, Spells (lexeme ++ [c]) k := by
  obtain ⟨b, rest, rfl⟩ := List.exists_cons_of_ne_nil h.ne_nil
  rcases spells_iff.1 h with ⟨isWord, rfl⟩ | ⟨isNumber, rfl⟩ | ⟨s, hs, rfl⟩
  · rw [Kind.takes_ofWord] at hc
    have longer : IsWord (b :: (rest ++ [c])) := by
      refine ⟨isWord.1, ?_⟩
      intro d hd
      rcases List.mem_append.1 hd with hd | hd
      · exact isWord.2 d hd
      · exact List.mem_singleton.1 hd ▸ hc
    exact ⟨_, longer.spells⟩
  · have longer : IsNumber (b :: rest ++ [c]) := by
      refine ⟨List.cons_ne_nil _ _, ?_⟩
      intro d hd
      rcases List.mem_append.1 hd with hd | hd
      · exact isNumber.2 d hd
      · exact List.mem_singleton.1 hd ▸ hc
    exact ⟨_, .int longer⟩
  · rw [Kind.takes_symbol, Bool.and_eq_true, Option.isSome_iff_exists, decide_eq_true_eq] at hc
    obtain ⟨⟨longer, hw⟩, rfl⟩ := hc
    rw [hs, ← Symbol.bytes_of_withEquals? hw]
    exact ⟨_, .symbol longer⟩

/-- If a lexeme goes on behind another, the byte there is one that the kind of the other takes. -/
theorem Spells.takes_of_append {lexeme rest : List UInt8} {k k' : Kind} {c : UInt8}
    (h : Spells lexeme k) (h' : Spells (lexeme ++ c :: rest) k') : k.takes c := by
  obtain ⟨b, more, rfl⟩ := List.exists_cons_of_ne_nil h.ne_nil
  have inside : c ∈ more ++ c :: rest := List.mem_append_right _ List.mem_cons_self
  rcases spells_iff.1 h with ⟨isWord, rfl⟩ | ⟨isNumber, rfl⟩ | ⟨s, hs, rfl⟩
  · rw [Kind.takes_ofWord]
    exact (h'.word_of_isLetter isWord.1).1.2 c inside
  · have digit := isNumber.2 b List.mem_cons_self
    exact (h'.number_of_isDigit digit).1.2 c (List.mem_cons_of_mem b inside)
  · have other := isWordByte_eq_false_of_mem_bytes (hs ▸ List.mem_cons_self)
    obtain ⟨t, ht, rfl⟩ := h'.symbol_of_not_isWordByte other
    rcases t.bytes_cases with ⟨d, single⟩ | ⟨u, d, hw, hu, double⟩
    · rw [single] at ht
      simp at ht
    · rw [double] at ht
      obtain ⟨rfl, rfl, rfl, rfl⟩ : b = d ∧ more = [] ∧ c = 0x3D ∧ rest = [] := by
        cases more <;> simp_all
      rw [Symbol.bytes_injective (hs.symm.trans hu.symm), Kind.takes_symbol, hw]
      rfl

theorem IsStray.not_spells {b : UInt8} {rest : List UInt8} {kind : Kind} (h : IsStray b) :
    ¬ Spells (b :: rest) kind := by
  intro spells
  obtain ⟨s, hs, -⟩ := spells.symbol_of_not_isWordByte h.1
  rcases s.bytes_cases with ⟨c, single⟩ | ⟨t, c, -, ht, double⟩
  · rw [single] at hs
    obtain ⟨rfl, -⟩ := List.cons.inj hs
    exact h.2 s single
  · rw [double] at hs
    obtain ⟨rfl, -⟩ := List.cons.inj hs
    exact h.2 t ht

end LexerConsole
