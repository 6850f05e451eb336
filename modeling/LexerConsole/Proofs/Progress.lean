import LexerConsole.Proofs.Reads
import LexerConsole.Proofs.Tiling

/-!
# Progress

A request at the end of the source gives the closing token and changes nothing; every other
request moves the scanner on, by as many bytes as it reads. So whoever asks for tokens until
the closing one is given makes at most one request for each byte and one more.
-/

namespace LexerConsole

open Alphabet

namespace Step

variable {n : Nat} {rest rest' : List UInt8} {t : Token}

/-- Blanks are passed over too when nothing but blanks is left. -/
theorem lt_stop (h : Step n rest t rest') (hr : rest ≠ []) : n < t.span.stop := by
  cases h with
  | eof =>
    have positive := List.length_pos_iff.2 hr
    simp only [Token.eof]
    omega
  | lexeme hb hl hc =>
    have positive := List.length_pos_iff.2 hc.whole.ne_nil
    simp only
    omega

theorem isEof_iff (h : Step n rest t rest') : t.isEof ↔ ∀ b ∈ rest, isBlank b := by
  cases h with
  | eof hb => exact iff_of_true (Token.isEof_eof _) hb
  | lexeme hb hl hc =>
    obtain ⟨b, more, rfl⟩ := List.exists_cons_of_ne_nil hc.whole.ne_nil
    refine iff_of_false ?_ ?_
    · simpa [Token.isEof] using hc.whole.kind_ne_eof
    · intro all
      have blank := all b (by simp)
      rw [hl b rfl] at blank
      cases blank

/-- The closing token stands at the end. -/
theorem of_isEof (h : Step n rest t rest') (ht : t.isEof) :
    t = .eof (n + rest.length) ∧ rest' = [] := by
  cases h with
  | eof => exact ⟨rfl, rfl⟩
  | lexeme hb hl hc => exact absurd (by simpa [Token.isEof] using ht) hc.whole.kind_ne_eof

end Step

namespace Scanner

variable {s s' : Scanner}

theorem eq_of_cursor (hs : s.source = s'.source) (hc : s.cursor = s'.cursor) : s = s' := by
  cases s
  cases s'
  subst hs hc
  rfl

theorem rest_ne_nil (h : s.position ≠ s.source.bytes.length) : s.rest ≠ [] := by
  have inside : s.position ≤ s.source.bytes.length := s.follows.inside
  rw [rest, Ne, List.drop_eq_nil_iff]
  omega

/-- Only the end of the source is closed, whatever blanks are in front of it. -/
theorem next_of_isEof (h : s.next.1.isEof) :
    s.next.1 = .eof s.source.bytes.length ∧ s.next.2.rest = [] := by
  obtain ⟨token, none⟩ := s.step_next.of_isEof h
  have inside : s.position ≤ s.source.bytes.length := s.follows.inside
  have stop : s.position + s.rest.length = s.source.bytes.length := by
    rw [rest, List.length_drop]
    omega
  rw [stop] at token
  exact ⟨token, none⟩

/-- At the end of the source nothing changes any more. -/
theorem next_of_position_eq (h : s.position = s.source.bytes.length) :
    s.next = (.eof s.source.bytes.length, s) := by
  have none : s.rest = [] := by
    rw [rest, h, List.drop_length]
  have closed : s.next.1.isEof := by
    rw [s.step_next.isEof_iff, none]
    exact List.forall_mem_nil _
  have token := (next_of_isEof closed).1
  have place : s.next.2.position = s.position := by
    rw [s.position_next, token, h]
    rfl
  have same : s.next.2.cursor = s.cursor := by
    rw [s.next.2.follows.settled, s.follows.settled]
    exact congrArg (Cursor.atOffset s.source) place
  exact Prod.ext token (eq_of_cursor s.source_next same)

theorem position_lt_next (h : s.position ≠ s.source.bytes.length) :
    s.position < s.next.2.position := by
  rw [s.position_next]
  exact s.step_next.lt_stop (rest_ne_nil h)

/-- A request makes one read for each byte that it passes over. -/
theorem position_next_eq (s : Scanner) :
    s.next.2.position = s.position + (s.cursor.nextReads s.source).length := by
  have moved := (Cursor.walk_nextReads s.next?_cursor).readPosition_eq
  rw [s.next.2.follows.inStep.ahead, s.follows.inStep.ahead] at moved
  simp only [position]
  omega

/-- The scanner behind a number of requests. -/
def after : Nat → Scanner → Scanner
  | 0, s => s
  | k + 1, s => after k s.next.2

/-- The `n`-th request is the first that is given the closing token. -/
def StopsAfter (s : Scanner) (n : Nat) : Prop :=
  ∃ k, n = k + 1 ∧ (s.after k).next.1.isEof ∧ ∀ j < k, (s.after j).next.1.isEof = false

theorem StopsAfter.unique {m n : Nat} (h : s.StopsAfter m) (h' : s.StopsAfter n) : m = n := by
  obtain ⟨j, rfl, closed, before⟩ := h
  obtain ⟨k, rfl, closed', before'⟩ := h'
  rcases Nat.lt_trichotomy j k with lt | rfl | lt
  · rw [before' j lt] at closed
    cases closed
  · rfl
  · rw [before k lt] at closed'
    cases closed'

/-- One request is made for each token of the list. -/
theorem stopsAfter_length (s : Scanner) : s.StopsAfter s.tokens.length := by
  fun_induction tokens s with
  | case1 s closed => exact ⟨0, rfl, closed, by simp⟩
  | case2 s more ih =>
    obtain ⟨k, size, closed, before⟩ := ih
    refine ⟨k + 1, by rw [List.length_cons, size], closed, ?_⟩
    intro j hj
    cases j with
    | zero => exact (Bool.not_eq_true _).mp more
    | succ j => exact before j (by omega)

end Scanner

/-- Each token but the closing one takes a byte. If they take just one each and leave no byte
out, there are as many of them as bytes. -/
theorem Lexes.length_le {offset : Nat} {bytes : List UInt8} {ts : List Token}
    (h : Lexes offset bytes ts) : ts.length ≤ bytes.length + 1 ∧
      (ts.length = bytes.length + 1 ↔
        ∀ i < bytes.length, ∃ t ∈ ts, t.span = ⟨offset + i, offset + i + 1⟩) := by
  induction h with
  | @done offset blanks hb =>
    refine ⟨by simp, ?_⟩
    constructor
    · intro size i hi
      simp only [List.length_singleton] at size
      omega
    · intro single
      by_cases none : blanks.length = 0
      · simp [none]
      · obtain ⟨t, ht, span⟩ := single 0 (by omega)
        rw [List.mem_singleton.1 ht, Token.eof, Span.mk.injEq] at span
        omega
  | @token offset blanks lexeme after kind ts hb hl longest tail ih =>
    obtain ⟨bound, exact_iff⟩ := ih
    have positive := List.length_pos_iff.2 longest.ne_nil
    have later := tail.inside
    simp only [List.length_cons, List.length_append]
    refine ⟨by omega, ?_⟩
    constructor
    · intro size i hi
      have single := exact_iff.1 (by omega)
      cases i with
      | zero =>
        refine ⟨_, List.mem_cons_self, ?_⟩
        simp only [Span.mk.injEq]
        omega
      | succ i =>
        obtain ⟨t, ht, span⟩ := single i (by omega)
        refine ⟨t, List.mem_cons_of_mem _ ht, ?_⟩
        rw [span, Span.mk.injEq]
        omega
    · intro single
      -- The first byte can be covered by no later token, so it is the whole first lexeme.
      have first : blanks.length = 0 ∧ lexeme.length = 1 := by
        obtain ⟨t, ht, span⟩ := single 0 (by omega)
        rcases List.mem_cons.1 ht with rfl | ht
        · simp only [Span.mk.injEq] at span
          omega
        · have lower := (later t ht).1
          rw [span] at lower
          simp only at lower
          omega
      have rest : ∀ i < after.length, ∃ t ∈ ts,
          t.span = ⟨offset + blanks.length + lexeme.length + i,
            offset + blanks.length + lexeme.length + i + 1⟩ := by
        intro i hi
        obtain ⟨t, ht, span⟩ := single (i + 1) (by omega)
        rcases List.mem_cons.1 ht with rfl | ht
        · simp only [Span.mk.injEq] at span
          omega
        · refine ⟨t, ht, ?_⟩
          rw [span, Span.mk.injEq]
          omega
      have size := exact_iff.2 rest
      omega

/-- A request at the end of the source gives the closing token and leaves the scanner as it is; any
other makes a read and moves on; it gives the closing token just when nothing but blanks is left. So
there is one number of requests after which the closing token is given, one more than there are
bytes at the most, and that many just when each byte is a token of its own. -/
theorem next_progress :
    (∀ s : Scanner,
      (s.position = s.source.bytes.length ∧ s.next = (.eof s.source.bytes.length, s) ∨
        s.position < s.next.2.position) ∧
      s.next.2.position = s.position + (s.cursor.nextReads s.source).length ∧
      (s.next.1.isEof ↔ ∀ b ∈ s.rest, isBlank b)) ∧
    ∀ source : Text,
      (∃ n ≤ source.byteLength + 1, ∀ m, (Scanner.ofText source).StopsAfter m ↔ m = n) ∧
      ((Scanner.ofText source).StopsAfter (source.byteLength + 1) ↔
        ∀ i < source.byteLength, ∃ t ∈ tokenize source, t.span = ⟨i, i + 1⟩) := by
  constructor
  · intro s
    refine ⟨?_, s.position_next_eq, s.step_next.isEof_iff⟩
    by_cases h : s.position = s.source.bytes.length
    · exact Or.inl ⟨h, Scanner.next_of_position_eq h⟩
    · exact Or.inr (Scanner.position_lt_next h)
  · intro source
    obtain ⟨bound, exact_iff⟩ := (lexes_tokenize source).length_le
    rw [Text.length_utf8] at bound exact_iff
    have stops : (Scanner.ofText source).StopsAfter (tokenize source).length :=
      (Scanner.ofText source).stopsAfter_length
    have stops_iff : ∀ m, (Scanner.ofText source).StopsAfter m ↔ m = (tokenize source).length := by
      intro m
      constructor
      · exact fun h => h.unique stops
      · rintro rfl
        exact stops
    refine ⟨⟨_, bound, stops_iff⟩, ?_⟩
    rw [stops_iff, eq_comm, exact_iff]
    simp only [Nat.zero_add]

end LexerConsole
