import LexerConsole.Proofs.MaximalMunch
import Mathlib.Data.List.Chain

/-!
# Layouts

A list of lexemes is printed with blanks before, between and behind them. Blanks may be
left out wherever the first byte of a lexeme does not make the one before it longer. The
scanner reads every such layout back: the same lexemes with their kinds, where they were
put.
-/

namespace LexerConsole

open Alphabet

/-- An ASCII lexeme with the blanks that are printed behind it. -/
structure Piece where
  kind : Kind
  text : Text
  gap : Text
  ascii : text.all fun c => c.toNat < 0x80
  whole : Whole text.utf8 kind
  /-- A stray is not a blank. -/
  solid : text.all fun c => !Text.isBlankChar c
  blank : gap.isBlank

namespace Piece

/-- The first byte of `q` would make `p` longer. -/
def Fuses (p q : Piece) : Prop :=
  ∃ b, q.text.utf8.head? = some b ∧ p.kind.takes b

instance (p q : Piece) : Decidable (p.Fuses q) :=
  decidable_of_iff (q.text.utf8.head?.any p.kind.takes = true) (Option.any_eq_true _ _)

def printed (pieces : List Piece) : Text :=
  pieces.flatMap fun p => p.text ++ p.gap

/-- The tokens of lexemes that are printed from an offset on. -/
def tokensFrom : Nat → List Piece → List Token
  | _, [] => []
  | offset, p :: pieces =>
    let stop := offset + p.text.byteLength
    ⟨p.kind, p.text, ⟨offset, stop⟩⟩ :: tokensFrom (stop + p.gap.byteLength) pieces

end Piece

structure Layout where
  /-- The blanks before the first lexeme. -/
  lead : Text
  pieces : List Piece
  blank : lead.isBlank
  /-- Neighbours that would fuse are kept apart. -/
  apart : pieces.IsChain fun p q => p.Fuses q → p.gap ≠ []

namespace Layout

def print (l : Layout) : Text :=
  l.lead ++ Piece.printed l.pieces

def tokens (l : Layout) : List Token :=
  Piece.tokensFrom l.lead.byteLength l.pieces ++ [.eof l.print.byteLength]

end Layout

theorem Kind.takes_eq_false_of_isBlank {b : UInt8} (h : isBlank b) (kind : Kind) :
    kind.takes b = false := by
  simp only [isBlank, Bool.or_eq_true, decide_eq_true_eq] at h
  rcases h with ((rfl | rfl) | rfl) | rfl <;>
    cases kind with
    | symbol s => cases s <;> rfl
    | _ => rfl

namespace Piece

theorem printed_cons (p : Piece) (pieces : List Piece) :
    printed (p :: pieces) = p.text ++ (p.gap ++ printed pieces) := by
  rw [printed, List.flatMap_cons, List.append_assoc]
  rfl

theorem text_ne_nil (p : Piece) : p.text.utf8 ≠ [] :=
  p.whole.ne_nil

theorem head?_printed (p : Piece) (pieces : List Piece) :
    (printed (p :: pieces)).utf8.head? = p.text.utf8.head? := by
  obtain ⟨b, rest, hb⟩ := List.exists_cons_of_ne_nil p.text_ne_nil
  rw [printed_cons, Text.utf8_append, hb]
  rfl

theorem ascii_of_mem (p : Piece) : ∀ c ∈ p.text, c.toNat < 0x80 := by
  intro c hc
  simpa using List.all_eq_true.1 p.ascii c hc

theorem isBlank_head? (p : Piece) : ∀ b ∈ p.text.utf8.head?, isBlank b = false := by
  intro b hb
  obtain ⟨c, hc, hb⟩ := List.mem_flatMap.1 (List.mem_of_mem_head? hb)
  have ascii := p.ascii_of_mem c hc
  rw [Text.utf8EncodeChar_of_ascii ascii, List.mem_singleton] at hb
  rw [hb, Text.isBlank_toUInt8 ascii]
  simpa using List.all_eq_true.1 p.solid c hc

/-- A lexeme ends where it was printed, before its blanks or before a neighbour. -/
theorem complete {p : Piece} {pieces : List Piece}
    (apart : (p :: pieces).IsChain fun p q => p.Fuses q → p.gap ≠ []) :
    Complete p.text.utf8 p.kind (p.gap.utf8 ++ (printed pieces).utf8) := by
  refine ⟨p.whole, ?_⟩
  intro b hb
  by_cases tight : p.gap = []
  · cases pieces with
    | nil =>
      rw [tight] at hb
      cases hb
    | cons q pieces =>
      rw [tight, ← Text.utf8_append, List.nil_append, head?_printed] at hb
      rw [Bool.eq_false_iff]
      intro takes
      exact (List.isChain_cons_cons.1 apart).1 ⟨b, hb, takes⟩ tight
  · have gap : p.gap.utf8 ≠ [] := fun none => tight (Text.eq_nil_of_utf8_eq_nil none)
    rw [List.head?_append_of_ne_nil _ gap] at hb
    have blank := Text.isBlank_of_mem_utf8 p.blank b (List.mem_of_mem_head? hb)
    exact Kind.takes_eq_false_of_isBlank blank p.kind

/-- Printed lexemes are lexed where they stand, behind any blanks. -/
theorem lexes_printed {pieces : List Piece} (offset : Nat) {lead : Text}
    (hl : lead.isBlank)
    (apart : pieces.IsChain fun p q => p.Fuses q → p.gap ≠ []) :
    Lexes offset (lead ++ printed pieces).utf8
      (tokensFrom (offset + lead.byteLength) pieces ++
        [.eof (offset + (lead ++ printed pieces).byteLength)]) := by
  induction pieces generalizing offset lead with
  | nil =>
    rw [printed, List.flatMap_nil, List.append_nil, ← Text.length_utf8 lead]
    exact .done (Text.isBlank_of_mem_utf8 hl)
  | cons p pieces ih =>
    have tail := ih (offset + lead.utf8.length + p.text.utf8.length) p.blank apart.tail
    rw [Text.utf8_append] at tail
    have token := Lexes.token (Text.isBlank_of_mem_utf8 hl) p.isBlank_head?
      (complete apart).longest tail
    have stop : offset + lead.byteLength + p.text.byteLength +
        (p.gap ++ printed pieces).byteLength =
        offset + (lead ++ printed (p :: pieces)).byteLength := by
      simp only [printed_cons, Text.byteLength_append]
      omega
    rw [Text.shown_utf8 p.ascii_of_mem, Text.length_utf8, Text.length_utf8, stop] at token
    rw [Text.utf8_append, printed_cons, Text.utf8_append, Text.utf8_append, ← printed_cons]
    exact token

end Piece

/-- Scanning a layout gives its tokens back. -/
theorem tokenize_print (l : Layout) : tokenize l.print = l.tokens := by
  have run := Piece.lexes_printed 0 l.blank l.apart
  rw [Nat.zero_add, Nat.zero_add] at run
  exact (lexes_tokenize l.print).unique run

theorem whole_letter {b : UInt8} (h : isLetter b)
    (free : ∀ k ∈ Keyword.all, k.spelling.utf8 ≠ [b]) : Whole [b] .ident :=
  .spelled (.ident ⟨h, by simp⟩ fun k => free k k.mem_all)

/-- Seven lexemes with two blanks. -/
def Layout.tight : Layout where
  lead := []
  pieces := [
    ⟨.keyword .letWord, "let".toList, [' '], by decide,
      .spelled (.keyword .letWord ⟨by decide, List.all_eq_true.1 rfl⟩ rfl), by decide, by decide⟩,
    ⟨.ident, ['x'], [], by decide, whole_letter (by decide) (by decide), by decide, by decide⟩,
    ⟨.symbol .equal, ['=', '='], [], by decide, .spelled (.symbol .equal), by decide, by decide⟩,
    ⟨.symbol .notEqual, ['!', '='], [' '], by decide, .spelled (.symbol .notEqual), by decide,
      by decide⟩,
    ⟨.int, ['7'], [], by decide, .spelled (.int ⟨by decide, List.all_eq_true.1 rfl⟩), by decide,
      by decide⟩,
    ⟨.ident, ['y'], [], by decide, whole_letter (by decide) (by decide), by decide, by decide⟩,
    ⟨.illegal, ['#'], [], by decide,
      .stray ⟨by decide, Symbol.ofByte?_eq_none_iff.1 (by decide)⟩, by decide, by decide⟩]
  blank := by decide
  apart := by decide

/-- Where no lexeme makes its neighbour longer, no blank is needed. -/
theorem tokenize_print_tight : tokenize "let x==!= 7y#".toList =
    [⟨.keyword .letWord, "let".toList, ⟨0, 3⟩⟩, ⟨.ident, ['x'], ⟨4, 5⟩⟩,
      ⟨.symbol .equal, ['=', '='], ⟨5, 7⟩⟩, ⟨.symbol .notEqual, ['!', '='], ⟨7, 9⟩⟩,
      ⟨.int, ['7'], ⟨10, 11⟩⟩, ⟨.ident, ['y'], ⟨11, 12⟩⟩, ⟨.illegal, ['#'], ⟨12, 13⟩⟩,
      .eof 13] := by
  have text : Layout.tight.print = "let x==!= 7y#".toList := by decide
  have run := tokenize_print Layout.tight
  rw [text] at run
  rw [run]
  decide

end LexerConsole
