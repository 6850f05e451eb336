import LexerConsole.Alphabet
import LexerConsole.Text.Ascii
import LexerConsole.Token.Basic

/-!
# Lexemes

A lexeme is a word, a number or a symbol, and its bytes alone decide its kind. A
byte that belongs to none of them is a stray and makes a lexeme by itself. Where a
lexeme ends depends on one more byte: on whether the byte behind it would make it
longer. Nothing here says how a scanner finds the end.
-/

namespace LexerConsole

open Alphabet

/-- A letter and the word bytes behind it. -/
def IsWord : List UInt8 → Prop
  | [] => False
  | b :: rest => isLetter b ∧ ∀ c ∈ rest, isWordByte c

def IsNumber (bytes : List UInt8) : Prop :=
  bytes ≠ [] ∧ ∀ b ∈ bytes, isDigit b

/-- A byte that is neither in a word, nor in a number, nor a symbol. -/
def IsStray (b : UInt8) : Prop :=
  isWordByte b = false ∧ ∀ s : Symbol, s.bytes ≠ [b]

/-- The words, numbers and symbols with their kinds. A word is a keyword only as a whole. -/
inductive Spells : List UInt8 → Kind → Prop where
  | keyword {word : List UInt8} (k : Keyword) (isWord : IsWord word)
      (reserved : k.spelling.utf8 = word) : Spells word (.keyword k)
  | ident {word : List UInt8} (isWord : IsWord word)
      (free : ∀ k : Keyword, k.spelling.utf8 ≠ word) : Spells word .ident
  | int {digits : List UInt8} (isNumber : IsNumber digits) : Spells digits .int
  | symbol (s : Symbol) : Spells s.bytes (.symbol s)

/-- The lexemes with their kinds, strays among them. -/
inductive Whole : List UInt8 → Kind → Prop where
  | spelled {lexeme : List UInt8} {kind : Kind} (h : Spells lexeme kind) : Whole lexeme kind
  | stray {b : UInt8} (h : IsStray b) : Whole [b] .illegal

/-- Whether a byte right behind a lexeme of this kind makes it longer. -/
def Kind.takes : Kind → UInt8 → Bool
  | .ident, b | .keyword _, b => isWordByte b
  | .int, b => isDigit b
  | .symbol .assign, b | .symbol .bang, b => b = 0x3D
  | _, _ => false

/-- A lexeme that ends where `after` begins. -/
structure Complete (lexeme : List UInt8) (kind : Kind) (after : List UInt8) : Prop where
  whole : Whole lexeme kind
  ends : ∀ b ∈ after.head?, kind.takes b = false

theorem isDigit_eq_false_of_isLetter {b : UInt8} (h : isLetter b) : isDigit b = false := by
  simp only [isLetter, isDigit, Bool.or_eq_true, Bool.and_eq_true, decide_eq_true_eq,
    Bool.and_eq_false_iff, decide_eq_false_iff_not, UInt8.le_iff_toNat_le] at h ⊢
  rcases h with (h | h) | rfl
  · simp at h ⊢; omega
  · simp at h ⊢; omega
  · decide

theorem ascii_of_isWordByte {b : UInt8} (h : isWordByte b) : b < 0x80 := by
  simp only [isWordByte, isLetter, isDigit, Bool.or_eq_true, Bool.and_eq_true, decide_eq_true_eq,
    UInt8.le_iff_toNat_le] at h
  rw [UInt8.lt_iff_toNat_lt]
  rcases h with ((h | h) | rfl) | h
  · simp at h ⊢; omega
  · simp at h ⊢; omega
  · decide
  · simp at h ⊢; omega

theorem isBlank_eq_false_of_isWordByte {b : UInt8} (h : isWordByte b) : isBlank b = false := by
  rw [Bool.eq_false_iff]
  intro hb
  simp only [isBlank, Bool.or_eq_true, decide_eq_true_eq] at hb
  rcases hb with ((rfl | rfl) | rfl) | rfl <;> exact absurd h (by decide)

theorem isWordByte_eq_false_of_mem_bytes {s : Symbol} {b : UInt8} (h : b ∈ s.bytes) :
    isWordByte b = false := by
  have checked : ∀ s ∈ Symbol.all, s.bytes.all fun b => !isWordByte b := by decide
  simpa using List.all_eq_true.1 (checked s s.mem_all) b h

theorem isBlank_eq_false_of_mem_bytes {s : Symbol} {b : UInt8} (h : b ∈ s.bytes) :
    isBlank b = false := by
  have checked : ∀ s ∈ Symbol.all, s.bytes.all fun b => !isBlank b := by decide
  simpa using List.all_eq_true.1 (checked s s.mem_all) b h

theorem isWordByte_of_isLetter {b : UInt8} (h : isLetter b) : isWordByte b := by
  simp [isWordByte, h]

theorem isWordByte_of_isDigit {b : UInt8} (h : isDigit b) : isWordByte b := by
  simp [isWordByte, h]

theorem IsWord.isWordByte_of_mem {word : List UInt8} (h : IsWord word) :
    ∀ b ∈ word, isWordByte b := by
  cases word with
  | nil => exact False.elim h
  | cons b rest =>
    intro c hc
    rcases List.mem_cons.1 hc with rfl | hc
    · exact isWordByte_of_isLetter h.1
    · exact h.2 c hc

theorem IsWord.ascii {word : List UInt8} (h : IsWord word) : ∀ b ∈ word, b < 0x80 :=
  fun b hb => ascii_of_isWordByte (h.isWordByte_of_mem b hb)

theorem IsNumber.ascii {digits : List UInt8} (h : IsNumber digits) : ∀ b ∈ digits, b < 0x80 :=
  fun b hb => ascii_of_isWordByte (isWordByte_of_isDigit (h.2 b hb))

theorem Keyword.shown_utf8_spelling (k : Keyword) : shown k.spelling.utf8 = k.spelling := by
  cases k <;> decide

/-- Looking up the whole word decides its kind. -/
theorem IsWord.spells {word : List UInt8} (h : IsWord word) :
    Spells word (.ofWord (shown word)) := by
  rw [Kind.ofWord]
  cases hk : Keyword.ofWord? (shown word) with
  | some k =>
    have spelling := Keyword.ofWord?_eq_some_iff.1 hk
    exact .keyword k h (by rw [spelling, Text.utf8_shown h.ascii])
  | none =>
    refine .ident h ?_
    rintro k rfl
    rw [Keyword.shown_utf8_spelling, Keyword.ofWord?_spelling] at hk
    cases hk

/-- The three classes of lexemes, each with the kind that the bytes decide. -/
theorem spells_iff {lexeme : List UInt8} {kind : Kind} :
    Spells lexeme kind ↔ (IsWord lexeme ∧ kind = .ofWord (shown lexeme)) ∨
      (IsNumber lexeme ∧ kind = .int) ∨ ∃ s : Symbol, lexeme = s.bytes ∧ kind = .symbol s := by
  constructor
  · rintro (⟨k, isWord, rfl⟩ | ⟨isWord, free⟩ | isNumber | s)
    · refine Or.inl ⟨isWord, ?_⟩
      rw [Keyword.shown_utf8_spelling, Kind.ofWord, Keyword.ofWord?_spelling]
    · refine Or.inl ⟨isWord, ?_⟩
      cases hk : Keyword.ofWord? (shown lexeme) with
      | none => rw [Kind.ofWord, hk]
      | some k =>
        refine absurd ?_ (free k)
        rw [Keyword.ofWord?_eq_some_iff.1 hk, Text.utf8_shown isWord.ascii]
    · exact Or.inr (Or.inl ⟨isNumber, rfl⟩)
    · exact Or.inr (Or.inr ⟨s, rfl, rfl⟩)
  · rintro (⟨isWord, rfl⟩ | ⟨isNumber, rfl⟩ | ⟨s, rfl, rfl⟩)
    · exact isWord.spells
    · exact .int isNumber
    · exact .symbol s

/-- A symbol is made longer by an equals sign or by nothing. -/
theorem Kind.takes_symbol (s : Symbol) (b : UInt8) :
    (symbol s).takes b = (s.withEquals?.isSome && b = 0x3D) := by
  cases s <;> rfl

theorem Kind.takes_ofWord (word : Text) (b : UInt8) : (ofWord word).takes b = isWordByte b := by
  rw [ofWord]
  split <;> rfl

theorem IsWord.ne_nil {word : List UInt8} (h : IsWord word) : word ≠ [] := by
  rintro rfl
  exact h

theorem Whole.ne_nil {lexeme : List UInt8} {kind : Kind} (h : Whole lexeme kind) :
    lexeme ≠ [] := by
  cases h with
  | spelled h =>
    cases h with
    | keyword _ isWord => exact isWord.ne_nil
    | ident isWord => exact isWord.ne_nil
    | int isNumber => exact isNumber.1
    | symbol s => exact s.bytes_ne_nil
  | stray => exact List.cons_ne_nil _ _

/-- No byte of a lexeme is a blank, unless it is a stray one. -/
theorem Whole.isBlank_eq_false {lexeme : List UInt8} {kind : Kind} (h : Whole lexeme kind)
    (hl : ∀ b ∈ lexeme.head?, isBlank b = false) : ∀ b ∈ lexeme, isBlank b = false := by
  intro b hb
  cases h with
  | spelled h =>
    rcases spells_iff.1 h with ⟨isWord, _⟩ | ⟨isNumber, _⟩ | ⟨s, rfl, _⟩
    · exact isBlank_eq_false_of_isWordByte (isWord.isWordByte_of_mem b hb)
    · exact isBlank_eq_false_of_isWordByte (isWordByte_of_isDigit (isNumber.2 b hb))
    · exact isBlank_eq_false_of_mem_bytes hb
  | stray => exact hl b (List.mem_singleton.1 hb ▸ rfl)

theorem Whole.kind_ne_eof {lexeme : List UInt8} {kind : Kind} (h : Whole lexeme kind) :
    kind ≠ .eof := by
  rintro rfl
  rcases h with ⟨⟨⟩⟩

end LexerConsole
