import LexerConsole.Proofs.MaximalMunch
import LexerConsole.Text.Blank

/-!
# Tokens tile their text

The spans of a token list lie in order side by side, and what they leave out is blank.
So the text can be put together again from its gaps and spans, byte for byte. The shown
texts of the tokens are less: they lose the blanks, and every byte of a character
outside ASCII is shown by one replacement character.

The facts are proved along a derivation of the grammar, for a token list that starts at
any offset; `tiles_tokenize` collects them for a whole text.
-/

namespace LexerConsole

open Alphabet

/-- The bytes from an offset to the end of the last span, gap by gap and span by span. -/
def retrace? (bytes : List UInt8) : Nat → List Token → Option (List UInt8)
  | _, [] => some []
  | cursor, t :: ts => do
    let gap ← Span.slice? ⟨cursor, t.span.start⟩ bytes
    let piece ← t.span.slice? bytes
    let more ← retrace? bytes t.span.stop ts
    return gap ++ piece ++ more

structure Tiles (source : Text) (ts : List Token) : Prop where
  ordered : ts.Pairwise fun a b => a.span.start < b.span.start ∧ a.span.stop ≤ b.span.start
  inside : ∀ t ∈ ts, t.span.start ≤ t.span.stop ∧ t.span.stop ≤ source.byteLength
  /-- Only the closing token covers nothing. -/
  nonempty : ∀ t ∈ ts.dropLast, t.span.start < t.span.stop
  /-- The blanks are the bytes between the spans. -/
  covered : ∀ i b, source.utf8[i]? = some b →
    (isBlank b = false ↔ ∃ t ∈ ts, t.span.start ≤ i ∧ i < t.span.stop)
  sliced : ∀ t ∈ ts, (t.span.slice? source.utf8).isSome
  retraced : retrace? source.utf8 0 ts = some source.utf8
  /-- The shown texts are the other bytes, each of them shown by itself. -/
  texts : ts.flatMap Token.text = shown (source.utf8.filter fun b => !isBlank b)
  texts_iff : ts.flatMap Token.text = source.filter (fun c => !Text.isBlankChar c) ↔
    ∀ c ∈ source, c.toNat < 0x80

section Derivation

variable {offset : Nat} {bytes : List UInt8} {ts : List Token}

theorem Lexes.inside (h : Lexes offset bytes ts) : ∀ t ∈ ts, offset ≤ t.span.start ∧
    t.span.start ≤ t.span.stop ∧ t.span.stop ≤ offset + bytes.length := by
  induction h with
  | done hb => simp [Token.eof]
  | @token offset blanks lexeme after kind ts hb hl longest tail ih =>
    intro t ht
    simp only [List.length_append]
    rcases List.mem_cons.1 ht with rfl | ht
    · dsimp only
      omega
    · obtain ⟨lower, upper, last⟩ := ih t ht
      omega

theorem Lexes.nonempty (h : Lexes offset bytes ts) :
    ∀ t ∈ ts.dropLast, t.span.start < t.span.stop := by
  induction h with
  | done hb => simp
  | @token offset blanks lexeme after kind ts hb hl longest tail ih =>
    obtain ⟨body, rfl, -⟩ := tail.exists_body
    intro t ht
    rw [List.dropLast_cons_of_ne_nil (by simp)] at ht
    rcases List.mem_cons.1 ht with rfl | ht
    · have positive := List.length_pos_iff.2 longest.ne_nil
      dsimp only
      omega
    · exact ih t ht

theorem Lexes.ordered (h : Lexes offset bytes ts) : ts.Pairwise fun a b =>
    a.span.start < b.span.start ∧ a.span.stop ≤ b.span.start := by
  induction h with
  | done hb => simp
  | @token offset blanks lexeme after kind ts hb hl longest tail ih =>
    refine List.pairwise_cons.2 ⟨?_, ih⟩
    intro t ht
    have lower := (tail.inside t ht).1
    have positive := List.length_pos_iff.2 longest.ne_nil
    dsimp only
    omega

/-- A byte is covered by a token just when it is no blank. -/
theorem Lexes.covered (h : Lexes offset bytes ts) {i : Nat} {b : UInt8} (hi : bytes[i]? = some b) :
    isBlank b = false ↔ ∃ t ∈ ts, t.span.start ≤ offset + i ∧ offset + i < t.span.stop := by
  induction h generalizing i with
  | @done offset blanks hb =>
    have blank := hb b (List.mem_of_getElem? hi)
    have inside : i < blanks.length := (List.getElem?_eq_some_iff.1 hi).1
    constructor
    · intro other
      rw [blank] at other
      cases other
    · rintro ⟨t, ht, lower, upper⟩
      rw [List.mem_singleton.1 ht] at lower
      simp only [Token.eof] at lower
      omega
  | @token offset blanks lexeme after kind ts hb hl longest tail ih =>
    by_cases h₁ : i < blanks.length
    · -- In the gap every token begins further right.
      rw [List.getElem?_append_left h₁] at hi
      have blank := hb b (List.mem_of_getElem? hi)
      constructor
      · intro other
        rw [blank] at other
        cases other
      · rintro ⟨t, ht, lower, upper⟩
        rcases List.mem_cons.1 ht with rfl | ht
        · dsimp only at lower
          omega
        · have := (tail.inside t ht).1
          omega
    rw [List.getElem?_append_right (Nat.le_of_not_lt h₁)] at hi
    by_cases h₂ : i - blanks.length < lexeme.length
    · rw [List.getElem?_append_left h₂] at hi
      have whole := longest.complete.whole
      constructor
      · intro _
        exact ⟨_, List.mem_cons_self, by dsimp only; omega, by dsimp only; omega⟩
      · intro _
        exact whole.isBlank_eq_false hl b (List.mem_of_getElem? hi)
    · rw [List.getElem?_append_right (Nat.le_of_not_lt h₂)] at hi
      have place : offset + blanks.length + lexeme.length +
          (i - blanks.length - lexeme.length) = offset + i := by omega
      rw [ih hi, place]
      constructor
      · rintro ⟨t, ht, cover⟩
        exact ⟨t, List.mem_cons_of_mem _ ht, cover⟩
      · rintro ⟨t, ht, cover⟩
        rcases List.mem_cons.1 ht with rfl | ht
        · dsimp only at cover
          omega
        · exact ⟨t, ht, cover⟩

theorem Lexes.retraced (h : Lexes offset bytes ts) {before : List UInt8}
    (hl : before.length = offset) :
    retrace? (before ++ bytes) offset ts = some bytes := by
  induction h generalizing before with
  | @done offset blanks hb =>
    subst hl
    have gap := Span.slice?_append before blanks []
    have point := Span.slice?_append (before ++ blanks) [] []
    simp only [List.append_nil, List.length_append, List.length_nil, Nat.add_zero] at gap point
    simp only [retrace?, Token.eof, gap, point, Option.bind_eq_bind, Option.bind_some,
      Option.pure_def, List.append_nil]
  | @token offset blanks lexeme after kind ts hb hl' longest tail ih =>
    subst hl
    have gap := Span.slice?_append before blanks (lexeme ++ after)
    have piece := Span.slice?_append (before ++ blanks) lexeme after
    have place : (before ++ (blanks ++ lexeme)).length =
        before.length + blanks.length + lexeme.length := by
      rw [List.length_append, List.length_append]
      omega
    have more := ih place
    simp only [List.append_assoc, List.length_append] at gap piece more
    simp only [retrace?, gap, piece, more, Option.bind_eq_bind, Option.bind_some,
      Option.pure_def, List.append_assoc]

theorem Lexes.sliced (h : Lexes offset bytes ts) {before : List UInt8}
    (hl : before.length = offset) : ∀ t ∈ ts, (t.span.slice? (before ++ bytes)).isSome := by
  intro t ht
  obtain ⟨-, lower, upper⟩ := h.inside t ht
  rw [Span.slice?, if_pos ⟨lower, by rw [List.length_append, hl]; exact upper⟩]
  rfl

theorem Lexes.texts (h : Lexes offset bytes ts) :
    ts.flatMap Token.text = shown (bytes.filter fun b => !isBlank b) := by
  induction h with
  | @done offset blanks hb =>
    have none : blanks.filter (fun b => !isBlank b) = [] :=
      List.filter_eq_nil_iff.2 (fun b hm => by simp [hb b hm])
    rw [none]
    rfl
  | @token offset blanks lexeme after kind ts hb hl longest tail ih =>
    have whole := longest.complete.whole
    have none : blanks.filter (fun b => !isBlank b) = [] :=
      List.filter_eq_nil_iff.2 (fun b hm => by simp [hb b hm])
    have all : lexeme.filter (fun b => !isBlank b) = lexeme :=
      List.filter_eq_self.2 (fun b hm => by simp [whole.isBlank_eq_false hl b hm])
    rw [List.flatMap_cons, ih, List.filter_append, List.filter_append, none, all]
    simp [shown]

end Derivation

section Shown

variable {c : Char} (t : Text)

/-- The bytes of a text that are no blanks. -/
def solid (t : Text) : List UInt8 :=
  t.utf8.filter fun b => !isBlank b

theorem solid_cons_of_ascii (hc : c.toNat < 0x80) :
    solid (c :: t) = if Text.isBlankChar c then solid t else c.toNat.toUInt8 :: solid t := by
  rw [solid, Text.utf8_cons, Text.utf8EncodeChar_of_ascii hc, List.singleton_append,
    List.filter_cons, Text.isBlank_toUInt8 hc]
  by_cases blank : Text.isBlankChar c
  · rw [if_pos blank, if_neg (by simp [blank])]
    rfl
  · rw [if_neg blank, if_pos (by simp [blank])]
    rfl

theorem solid_cons_of_longer (hc : ¬ c.toNat < 0x80) :
    solid (c :: t) = String.utf8EncodeChar c ++ solid t := by
  have all : (String.utf8EncodeChar c).filter (fun b => !isBlank b) =
      String.utf8EncodeChar c := by
    refine List.filter_eq_self.2 ?_
    intro b hb
    rw [Bool.not_eq_true', Bool.eq_false_iff]
    intro blank
    exact Text.not_lt_of_mem_utf8EncodeChar hc hb (Text.ascii_of_isBlank blank)
  rw [solid, Text.utf8_cons, List.filter_append, all]
  rfl

theorem length_filter_le_solid :
    (t.filter fun c => !Text.isBlankChar c).length ≤ (solid t).length := by
  induction t with
  | nil => exact Nat.le_refl 0
  | cons c t ih =>
    by_cases hc : c.toNat < 0x80
    · rw [solid_cons_of_ascii t hc]
      by_cases blank : Text.isBlankChar c
      · simpa [blank] using ih
      · simpa [blank] using ih
    · have long := Text.one_lt_length_utf8EncodeChar hc
      have short := List.length_filter_le (fun c => !Text.isBlankChar c) [c]
      rw [solid_cons_of_longer t hc, ← List.singleton_append, List.filter_append]
      simp only [List.length_append, List.length_singleton] at short ⊢
      omega

/-- One character outside ASCII is enough to make the shown text longer than the characters. -/
theorem shown_solid_iff :
    shown (solid t) = t.filter (fun c => !Text.isBlankChar c) ↔ ∀ c ∈ t, c.toNat < 0x80 := by
  induction t with
  | nil => simp [shown, solid, Text.utf8]
  | cons c t ih =>
    rw [List.forall_mem_cons]
    by_cases hc : c.toNat < 0x80
    · rw [solid_cons_of_ascii t hc, and_iff_right hc, ← ih]
      by_cases blank : Text.isBlankChar c
      · simp [blank]
      · simp [blank, shown, Text.shownByte_toUInt8 hc]
    · constructor
      · intro same
        have size := congrArg List.length same
        have long := Text.one_lt_length_utf8EncodeChar hc
        have short := List.length_filter_le (fun c => !Text.isBlankChar c) [c]
        have rest := length_filter_le_solid t
        rw [solid_cons_of_longer t hc, ← List.singleton_append, List.filter_append] at size
        simp only [shown, List.length_map, List.length_append, List.length_singleton] at size short
        omega
      · rintro ⟨ascii, -⟩
        exact absurd ascii hc

end Shown

/-- Gaps and spans of the tokens tile the text, whatever characters are in it, and the shown texts
give it back without its blanks just when all of it is ASCII. -/
theorem tiles_tokenize (source : Text) : Tiles source (tokenize source) := by
  have run := lexes_tokenize source
  have size := source.length_utf8
  constructor
  · exact run.ordered
  · intro t ht
    obtain ⟨-, lower, upper⟩ := run.inside t ht
    rw [Nat.zero_add, size] at upper
    exact ⟨lower, upper⟩
  · exact run.nonempty
  · intro i b hi
    have cover := run.covered hi
    rwa [Nat.zero_add] at cover
  · exact run.sliced List.length_nil
  · exact run.retraced List.length_nil
  · exact run.texts
  · rw [run.texts]
    exact shown_solid_iff source

end LexerConsole
