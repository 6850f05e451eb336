import LexerConsole.Proofs.Tiling

/-!
# Scanning is local

What the scanner does behind a token depends on nothing in front of it, and what it does
up to the end of a token depends on one byte more. So the tokens of two texts side by
side are those of the first and then those of the second, moved to their place, unless
the last token of the first text touches the second and goes on there.
-/

namespace LexerConsole

open Alphabet

/-- The tokens of a text without the closing one. -/
def openTokens (source : Text) : List Token :=
  (tokenize source).dropLast

/-- The last token of `a` reaches the end of `a`, and the first byte of `b` makes it longer. -/
def Fuses (a b : Text) : Prop :=
  ∃ t c, (openTokens a).getLast? = some t ∧ t.span.stop = a.byteLength ∧
    b.utf8.head? = some c ∧ t.kind.takes c

theorem openTokens_spec (source : Text) :
    tokenize source = openTokens source ++ [.eof source.byteLength] ∧
      ∀ t ∈ openTokens source, t.isEof = false := by
  obtain ⟨body, whole, hn⟩ := (lexes_tokenize source).exists_body
  rw [Nat.zero_add, Text.length_utf8] at whole
  have same : openTokens source = body := by rw [openTokens, whole, List.dropLast_concat]
  rw [same]
  exact ⟨whole, hn⟩

theorem tokenize_eq_openTokens (source : Text) :
    tokenize source = openTokens source ++ [.eof source.byteLength] :=
  (openTokens_spec source).1

theorem openTokens_eq {source : Text} {ts : List Token}
    (h : Lexes 0 source.utf8 (ts ++ [.eof source.byteLength])) : openTokens source = ts := by
  rw [openTokens, ← h.unique (lexes_tokenize source), List.dropLast_concat]

theorem lexes_openTokens (source : Text) :
    Lexes 0 source.utf8 (openTokens source ++ [.eof source.byteLength]) :=
  tokenize_eq_openTokens source ▸ lexes_tokenize source

/-- Only the first byte behind a lexeme matters. -/
theorem Complete.append {lexeme after more : List UInt8} {kind : Kind}
    (h : Complete lexeme kind after)
    (hm : after = [] → ∀ b ∈ more.head?, kind.takes b = false) :
    Complete lexeme kind (after ++ more) := by
  refine ⟨h.whole, ?_⟩
  cases after with
  | nil => exact hm rfl
  | cons b after => exact h.ends

section Derivation

variable {offset : Nat} {bytes more : List UInt8} {ts : List Token}

theorem Lexes.shift (h : Lexes offset bytes ts) (n : Nat) :
    Lexes (offset + n) bytes (ts.map (Token.shift n)) := by
  induction h with
  | @done offset blanks hb =>
    have place : offset + blanks.length + n = offset + n + blanks.length := by omega
    have moved : (Token.eof (offset + blanks.length)).shift n =
        .eof (offset + n + blanks.length) := by
      rw [← place]
      rfl
    rw [List.map_singleton, moved]
    exact .done hb
  | @token offset blanks lexeme after kind ts hb hl longest tail ih =>
    have start : offset + blanks.length + n = offset + n + blanks.length := by omega
    have stop : offset + blanks.length + lexeme.length + n =
        offset + n + blanks.length + lexeme.length := by omega
    rw [stop] at ih
    rw [List.map_cons, Token.shift, Span.shift, start, stop]
    exact .token hb hl longest ih

/-- Blanks in front of the bytes are passed over. -/
theorem Lexes.blanks_append {blanks : List UInt8} (hb : ∀ b ∈ blanks, isBlank b)
    (h : Lexes (offset + blanks.length) bytes ts) : Lexes offset (blanks ++ bytes) ts := by
  generalize hn : offset + blanks.length = n at h
  cases h with
  | @done _ blanks' hb' =>
    have all : ∀ b ∈ blanks ++ bytes, isBlank b :=
      fun b hm => (List.mem_append.1 hm).elim (hb b) (hb' b)
    have stop : offset + (blanks ++ bytes).length = n + bytes.length := by
      rw [List.length_append]
      omega
    rw [← stop]
    exact .done all
  | @token _ blanks' lexeme after kind ts hb' hl longest tail =>
    have all : ∀ b ∈ blanks ++ blanks', isBlank b :=
      fun b hm => (List.mem_append.1 hm).elim (hb b) (hb' b)
    have start : offset + (blanks ++ blanks').length = n + blanks'.length := by
      rw [List.length_append]
      omega
    rw [← start] at tail ⊢
    rw [← List.append_assoc]
    exact .token all hl longest tail

/-- Tokens go on behind the last of a text as if that text were not there. -/
theorem Lexes.append (h : Lexes offset bytes ts) {us : List Token}
    (h' : Lexes (offset + bytes.length) more us)
    (apart : ∀ t ∈ ts.dropLast.getLast?, t.span.stop = offset + bytes.length →
      ∀ b ∈ more.head?, t.kind.takes b = false) :
    Lexes offset (bytes ++ more) (ts.dropLast ++ us) := by
  induction h with
  | done hb => exact h'.blanks_append hb
  | @token offset blanks lexeme after kind ts hb hl longest tail ih =>
    have place : offset + (blanks ++ (lexeme ++ after)).length =
        offset + blanks.length + lexeme.length + after.length := by
      rw [List.length_append, List.length_append]
      omega
    rw [place] at h' apart
    obtain ⟨body, rfl, -⟩ := tail.exists_body
    rw [List.dropLast_cons_of_ne_nil (by simp), List.dropLast_concat] at apart ⊢
    rw [List.dropLast_concat] at ih
    have behind : Lexes (offset + blanks.length + lexeme.length) (after ++ more) (body ++ us) := by
      refine ih h' ?_
      intro t ht
      refine apart t ?_
      rw [Option.mem_def] at ht ⊢
      rw [List.getLast?_cons, ht]
      rfl
    have complete : Complete lexeme kind (after ++ more) := by
      refine longest.complete.append ?_
      rintro rfl
      -- Behind the last token nothing is left, so the lexeme itself touches what follows.
      have none : body = [] := by simpa using tail.eq_eof (by simp)
      exact apart _ (by rw [none]; rfl) rfl
    rw [List.append_assoc, List.append_assoc]
    exact .token hb hl complete.longest behind

/-- All tokens but the last are cut out of a text in the same way if more follows. -/
theorem Lexes.dropLast_isPrefix (h : Lexes offset bytes ts) {us : List Token}
    (h' : Lexes offset (bytes ++ more) us) : ts.dropLast.dropLast <+: us := by
  induction h generalizing us with
  | done hb => exact List.nil_prefix
  | @token offset blanks lexeme after kind ts hb hl longest tail ih =>
    obtain ⟨body, rfl, -⟩ := tail.exists_body
    rw [List.dropLast_cons_of_ne_nil (by simp)]
    rw [List.dropLast_concat] at ih ⊢
    cases body with
    | nil => exact List.nil_prefix
    | cons t body =>
      have complete : Complete lexeme kind (after ++ more) := by
        refine longest.complete.append ?_
        rintro rfl
        have single := tail.eq_eof (by simp)
        simp at single
      rw [List.append_assoc, List.append_assoc] at h'
      obtain ⟨us, rfl, rest⟩ := h'.exists_tail hb hl complete.longest
      rw [List.dropLast_cons_of_ne_nil (List.cons_ne_nil t body)]
      exact List.cons_prefix_cons.2 ⟨rfl, ih rest⟩

/-- No token is made longer by the byte behind it. -/
theorem Lexes.takes_eq_false (h : Lexes offset bytes ts) : ∀ t ∈ ts, ∀ i, t.span.stop = offset + i →
    ∀ b ∈ (bytes.drop i).head?, t.kind.takes b = false := by
  induction h with
  | @done offset blanks hb =>
    intro t ht i _ b _
    rw [List.mem_singleton.1 ht]
    rfl
  | @token offset blanks lexeme after kind ts hb hl longest tail ih =>
    intro t ht i hi b hm
    rcases List.mem_cons.1 ht with rfl | ht
    · obtain rfl : i = blanks.length + lexeme.length := by
        dsimp only at hi
        omega
      rw [← List.drop_drop, List.drop_left, List.drop_left] at hm
      exact longest.complete.ends b hm
    · obtain ⟨lower, upper, -⟩ := tail.inside t ht
      obtain ⟨j, rfl⟩ : ∃ j, i = blanks.length + lexeme.length + j :=
        ⟨i - blanks.length - lexeme.length, by omega⟩
      rw [← List.drop_drop, ← List.drop_drop, List.drop_left, List.drop_left] at hm
      exact ih t ht j (by omega) b hm

end Derivation

section Texts

variable (a b : Text)

theorem openTokens_dropLast_isPrefix : (openTokens a).dropLast <+: openTokens (a ++ b) := by
  have whole := lexes_tokenize (a ++ b)
  rw [Text.utf8_append] at whole
  have front := (lexes_tokenize a).dropLast_isPrefix whole
  rw [tokenize_eq_openTokens (a ++ b)] at front
  rcases List.prefix_concat_iff.1 front with last | inside
  · -- The closing token is not among the others.
    have member : Token.eof (a ++ b).byteLength ∈ openTokens a :=
      List.dropLast_subset _ (by rw [openTokens, last]; simp)
    have other := (openTokens_spec a).2 _ member
    rw [Token.isEof_eof] at other
    cases other
  · exact inside

theorem openTokens_append_of_not_fuses (apart : ¬ Fuses a b) :
    openTokens (a ++ b) = openTokens a ++ (openTokens b).map (Token.shift a.byteLength) := by
  have free : ∀ t ∈ (openTokens a).getLast?, t.span.stop = 0 + a.utf8.length →
      ∀ c ∈ b.utf8.head?, t.kind.takes c = false := by
    intro t last stop c head
    rw [Nat.zero_add, Text.length_utf8] at stop
    rw [Bool.eq_false_iff]
    intro takes
    exact apart ⟨t, c, last, stop, head, takes⟩
  have joined := (lexes_tokenize a).append ((lexes_openTokens b).shift a.utf8.length) free
  have stop : (Token.eof b.byteLength).shift a.utf8.length = .eof (a ++ b).byteLength := by
    rw [Text.length_utf8, Text.byteLength_append, Nat.add_comm]
    rfl
  rw [List.map_append, ← List.append_assoc, ← Text.utf8_append, List.map_singleton, stop,
    Text.length_utf8] at joined
  exact openTokens_eq joined

/-- A token that ends where the first text ends is not one that the second text makes longer. -/
theorem not_fuses_of_isPrefix (kept : openTokens a <+: openTokens (a ++ b)) : ¬ Fuses a b := by
  rintro ⟨t, c, last, stop, head, takes⟩
  have member : t ∈ tokenize (a ++ b) := by
    rw [tokenize_eq_openTokens]
    exact List.mem_append_left _ (kept.subset (List.mem_of_getLast? last))
  have free := (lexes_tokenize (a ++ b)).takes_eq_false t member a.byteLength
    (by rw [stop, Nat.zero_add]) c
  rw [Text.utf8_append, ← a.length_utf8, List.drop_left] at free
  rw [free head] at takes
  cases takes

end Texts

/-- The tokens of a text but its last are kept whatever follows, and all are kept, with those of
the second text behind them, just when the texts do not fuse. -/
theorem openTokens_append (a b : Text) :
    (openTokens a).dropLast <+: openTokens (a ++ b) ∧
      (openTokens (a ++ b) = openTokens a ++ (openTokens b).map (Token.shift a.byteLength) ↔
        ¬ Fuses a b) := by
  refine ⟨openTokens_dropLast_isPrefix a b, ?_⟩
  constructor
  · intro same
    exact not_fuses_of_isPrefix a b ⟨_, same.symm⟩
  · intro apart
    exact openTokens_append_of_not_fuses a b apart

end LexerConsole
