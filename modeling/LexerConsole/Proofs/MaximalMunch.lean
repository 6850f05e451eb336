import LexerConsole.Proofs.LexemeClasses
import LexerConsole.Scan.Tokens

/-!
# Maximal munch

The lexical grammar, said without a cursor and without look-ahead: pass over all blanks,
then take the longest beginning of the bytes that is a word, a number or a symbol, or a
single byte if no beginning is. The token list of a text is the only list that follows
the grammar.

The grammar quantifies over all beginnings of the bytes, the scanner looks at one byte
more than it takes. `longest_iff_complete` says that this is enough.
-/

namespace LexerConsole

open Alphabet

/-- `Longest bytes lexeme kind`: the lexeme is the longest beginning of the bytes that is a word,
a number or a symbol, or their first byte when there is none. -/
inductive Longest : List UInt8 → List UInt8 → Kind → Prop where
  | spelled {bytes lexeme : List UInt8} {kind : Kind} (front : lexeme <+: bytes)
      (spells : Spells lexeme kind)
      (longest : ∀ other k, other <+: bytes → Spells other k → other.length ≤ lexeme.length) :
      Longest bytes lexeme kind
  | stray {b : UInt8} {rest : List UInt8}
      (without : ∀ other k, other <+: b :: rest → ¬ Spells other k) :
      Longest (b :: rest) [b] .illegal

/-- `Lexes offset bytes ts`: the bytes, the first of them at `offset`, are cut into the tokens
`ts`, one longest lexeme after the other. -/
inductive Lexes : Nat → List UInt8 → List Token → Prop where
  | done {offset : Nat} {blanks : List UInt8} (hb : ∀ b ∈ blanks, isBlank b) :
      Lexes offset blanks [.eof (offset + blanks.length)]
  | token {offset : Nat} {blanks lexeme after : List UInt8} {kind : Kind} {ts : List Token}
      (hb : ∀ b ∈ blanks, isBlank b) (hl : ∀ b ∈ lexeme.head?, isBlank b = false)
      (longest : Longest (lexeme ++ after) lexeme kind)
      (tail : Lexes (offset + blanks.length + lexeme.length) after ts) :
      Lexes offset (blanks ++ (lexeme ++ after))
        (⟨kind, shown lexeme,
          ⟨offset + blanks.length, offset + blanks.length + lexeme.length⟩⟩ :: ts)

theorem isStray_of_without {b : UInt8} {rest : List UInt8}
    (without : ∀ other k, other <+: b :: rest → ¬ Spells other k) : IsStray b := by
  have alone : [b] <+: b :: rest := ⟨rest, rfl⟩
  constructor
  · rw [Bool.eq_false_iff]
    intro word
    rw [isWordByte, Bool.or_eq_true] at word
    rcases word with letter | digit
    · have isWord : IsWord [b] := ⟨letter, by simp⟩
      exact without _ _ alone isWord.spells
    · have isNumber : IsNumber [b] := ⟨List.cons_ne_nil b [], by simpa using digit⟩
      exact without _ _ alone (.int isNumber)
  · intro s hs
    exact without _ (.symbol s) alone (hs ▸ Spells.symbol s)

section LookAhead

variable {lexeme after : List UInt8} {kind : Kind}

theorem Longest.complete (h : Longest (lexeme ++ after) lexeme kind) :
    Complete lexeme kind after := by
  generalize hb : lexeme ++ after = bytes at h
  cases h with
  | spelled front spells longest =>
    refine ⟨.spelled spells, ?_⟩
    intro b hb'
    rw [Bool.eq_false_iff]
    intro takes
    obtain ⟨k, longer⟩ := spells.exists_longer takes
    obtain ⟨rest, rfl⟩ : ∃ rest, after = b :: rest := List.head?_eq_some_iff.1 hb'
    have front : lexeme ++ [b] <+: bytes := ⟨rest, by rw [← hb]; simp⟩
    have short := longest _ k front longer
    rw [List.length_append, List.length_singleton] at short
    omega
  | stray without => exact ⟨.stray (isStray_of_without without), fun _ _ => rfl⟩

theorem Complete.longest (h : Complete lexeme kind after) :
    Longest (lexeme ++ after) lexeme kind := by
  obtain ⟨whole, ends⟩ := h
  cases whole with
  | spelled spells =>
    refine .spelled (List.prefix_append _ _) spells ?_
    intro other k front spells'
    by_cases short : other.length ≤ lexeme.length
    · exact short
    · -- The other beginning goes on behind the lexeme, with a byte that the kind takes.
      obtain ⟨more, rfl⟩ := List.prefix_of_prefix_length_le (List.prefix_append _ _) front
        (Nat.le_of_not_le short)
      cases more with
      | nil => simp at short
      | cons c more =>
        obtain ⟨rest, rfl⟩ := (List.prefix_append_right_inj _).1 front
        have takes := spells.takes_of_append spells'
        rw [ends c rfl] at takes
        cases takes
  | stray hs =>
    refine .stray ?_
    intro other k front spells
    cases other with
    | nil => exact spells.ne_nil rfl
    | cons c other =>
      obtain ⟨rfl, -⟩ := List.cons_prefix_cons.1 front
      exact hs.not_spells spells

/-- One byte of look-ahead tells where the longest lexeme ends. -/
theorem longest_iff_complete : Longest (lexeme ++ after) lexeme kind ↔ Complete lexeme kind after :=
  ⟨Longest.complete, Complete.longest⟩

end LookAhead

theorem Longest.ne_nil {bytes lexeme : List UInt8} {kind : Kind} (h : Longest bytes lexeme kind) :
    lexeme ≠ [] := by
  cases h with
  | spelled front spells => exact spells.ne_nil
  | stray => exact List.cons_ne_nil _ _

theorem Longest.head?_append {lexeme after : List UInt8} {kind : Kind}
    (h : Longest (lexeme ++ after) lexeme kind) : (lexeme ++ after).head? = lexeme.head? := by
  obtain ⟨b, rest, rfl⟩ := List.exists_cons_of_ne_nil h.ne_nil
  rfl

theorem Longest.unique {bytes l l' : List UInt8} {k k' : Kind} (h : Longest bytes l k)
    (h' : Longest bytes l' k') : l = l' ∧ k = k' := by
  cases h with
  | spelled front spells longest =>
    cases h' with
    | spelled front' spells' longest' =>
      have same : l = l' := List.IsPrefix.eq_of_length
        (List.prefix_of_prefix_length_le front front' (longest' _ _ front spells))
        (Nat.le_antisymm (longest' _ _ front spells) (longest _ _ front' spells'))
      subst same
      exact ⟨rfl, spells.kind_unique spells'⟩
    | stray without => exact absurd spells (without _ _ front)
  | stray without =>
    cases h' with
    | spelled front' spells' => exact absurd spells' (without _ _ front')
    | stray => exact ⟨rfl, rfl⟩

theorem Step.lexes {offset : Nat} {bytes after : List UInt8} {t : Token} {ts : List Token}
    (h : Step offset bytes t after) (ht : t.isEof = false) (tail : Lexes t.span.stop after ts) :
    Lexes offset bytes (t :: ts) := by
  cases h with
  | eof => cases ht
  | lexeme hb hl hc => exact .token hb hl hc.longest tail

theorem Step.lexes_eof {offset : Nat} {bytes after : List UInt8} {t : Token}
    (h : Step offset bytes t after) (ht : t.isEof = true) : Lexes offset bytes [t] := by
  cases h with
  | eof hb => exact .done hb
  | lexeme hb hl hc => exact absurd (by simpa [Token.isEof] using ht) hc.whole.kind_ne_eof

/-- Every run of the scanner follows the grammar. -/
theorem Scanner.lexes_tokens (s : Scanner) : Lexes s.position s.rest s.tokens := by
  fun_induction Scanner.tokens s with
  | case1 s ht => exact s.step_next.lexes_eof ht
  | case2 s ht ih =>
    rw [s.position_next] at ih
    exact s.step_next.lexes (by simpa using ht) ih

theorem lexes_tokenize (source : Text) : Lexes 0 source.utf8 (tokenize source) :=
  (Scanner.ofText source).lexes_tokens

theorem Lexes.eq_eof {offset : Nat} {blanks : List UInt8} {ts : List Token}
    (h : Lexes offset blanks ts) (hb : ∀ b ∈ blanks, isBlank b) :
    ts = [.eof (offset + blanks.length)] := by
  cases h with
  | done => rfl
  | @token _ blanks lexeme after kind ts hb' hl longest tail =>
    obtain ⟨c, more, rfl⟩ := List.exists_cons_of_ne_nil longest.ne_nil
    have blank := hb c (by simp)
    rw [hl c rfl] at blank
    cases blank

/-- A token list begins with the longest lexeme behind the blanks and goes on behind it. -/
theorem Lexes.exists_tail {offset : Nat} {blanks lexeme after : List UInt8} {kind : Kind}
    {ts : List Token} (h : Lexes offset (blanks ++ (lexeme ++ after)) ts)
    (hb : ∀ b ∈ blanks, isBlank b) (hl : ∀ b ∈ lexeme.head?, isBlank b = false)
    (longest : Longest (lexeme ++ after) lexeme kind) :
    ∃ tail, ts = ⟨kind, shown lexeme,
        ⟨offset + blanks.length, offset + blanks.length + lexeme.length⟩⟩ :: tail ∧
      Lexes (offset + blanks.length + lexeme.length) after tail := by
  have hf : ∀ b ∈ (lexeme ++ after).head?, isBlank b = false := longest.head?_append ▸ hl
  generalize hs : blanks ++ (lexeme ++ after) = bytes at h
  cases h with
  | done hb' =>
    obtain ⟨-, none⟩ := run_unique (hs.trans (List.append_nil _).symm) hb hf hb' (by simp)
    exact absurd (List.append_eq_nil_iff.1 none).1 longest.ne_nil
  | @token _ blanks' lexeme' after' kind' tail hb' hl' longest' rest =>
    have hf' : ∀ b ∈ (lexeme' ++ after').head?, isBlank b = false :=
      longest'.head?_append ▸ hl'
    obtain ⟨rfl, front⟩ := run_unique hs hb hf hb' hf'
    rw [← front] at longest'
    obtain ⟨rfl, rfl⟩ := longest.unique longest'
    obtain rfl := List.append_cancel_left front
    exact ⟨tail, rfl, rest⟩

theorem Lexes.unique {offset : Nat} {bytes : List UInt8} {ts ts' : List Token}
    (h : Lexes offset bytes ts) (h' : Lexes offset bytes ts') : ts = ts' := by
  induction h generalizing ts' with
  | done hb => exact (h'.eq_eof hb).symm
  | token hb hl longest tail ih =>
    obtain ⟨tail', rfl, rest⟩ := h'.exists_tail hb hl longest
    rw [ih rest]

/-- The closing token comes last and nowhere else, and stands at the end of the bytes. -/
theorem Lexes.exists_body {offset : Nat} {bytes : List UInt8} {ts : List Token}
    (h : Lexes offset bytes ts) :
    ∃ body, ts = body ++ [.eof (offset + bytes.length)] ∧ ∀ t ∈ body, t.isEof = false := by
  induction h with
  | done hb => exact ⟨[], rfl, by simp⟩
  | @token offset blanks lexeme after kind ts hb hl longest tail ih =>
    obtain ⟨body, rfl, hn⟩ := ih
    have stop : offset + blanks.length + lexeme.length + after.length =
        offset + (blanks ++ (lexeme ++ after)).length := by
      rw [List.length_append, List.length_append]
      omega
    refine ⟨_ :: body, by rw [stop]; rfl, ?_⟩
    intro t ht
    rcases List.mem_cons.1 ht with rfl | ht
    · simpa [Token.isEof] using longest.complete.whole.kind_ne_eof
    · exact hn t ht

/-- The scanner's tokens are the one list that the grammar allows, closed at the end of the text
and only there. -/
theorem lexes_iff_eq_tokenize (source : Text) :
    (∀ ts, Lexes 0 source.utf8 ts ↔ ts = tokenize source) ∧
      ∃ body, tokenize source = body ++ [⟨.eof, [], ⟨source.byteLength, source.byteLength⟩⟩] ∧
        ∀ t ∈ body, t.kind ≠ .eof := by
  have run := lexes_tokenize source
  constructor
  · intro ts
    constructor
    · exact fun h => h.unique run
    · rintro rfl
      exact run
  · obtain ⟨body, whole, hn⟩ := run.exists_body
    rw [Nat.zero_add, Text.length_utf8] at whole
    refine ⟨body, whole, ?_⟩
    intro t ht
    simpa [Token.isEof] using hn t ht

end LexerConsole
