import LexerConsole.Proofs.Unlimited

/-!
# Listings into a buffer

A buffer keeps the first bytes of what is written to it, wherever in a line or in an escape code
it is full. A listing into a buffer is therefore a beginning of the listing without a limit. Both
a line that does not fit and a token that is denied end it, and the one that is met first decides
its fault.
-/

namespace LexerConsole

/-- Pieces that do not fit are taken up to the last byte that does. -/
theorem Sink.putAll_limited (cause : Cause) (n : Nat) (pieces : List Text) :
    putAll ⟨some n, cause⟩ pieces =
      if (Text.utf8 pieces.flatten).length ≤ n then
        (Text.utf8 pieces.flatten, .ok ⟨some (n - (Text.utf8 pieces.flatten).length), cause⟩)
      else ((Text.utf8 pieces.flatten).take n, .error cause) := by
  induction pieces generalizing n with
  | nil => simp [putAll, Text.utf8]
  | cons piece pieces ih =>
    rw [List.flatten_cons, Text.utf8_append, List.length_append]
    by_cases here : piece.utf8.length ≤ n
    · have step : putAll ⟨some n, cause⟩ (piece :: pieces) =
          (piece.utf8 ++ (putAll ⟨some (n - piece.utf8.length), cause⟩ pieces).1,
            (putAll ⟨some (n - piece.utf8.length), cause⟩ pieces).2) := by
        simp [putAll, put, here]
      rw [step, ih]
      by_cases there : (Text.utf8 pieces.flatten).length ≤ n - piece.utf8.length
      · rw [if_pos there, if_pos (by omega), Nat.sub_sub]
      · rw [if_neg there, if_neg (by omega), List.take_append, List.take_of_length_le here]
    · have step : putAll ⟨some n, cause⟩ (piece :: pieces) = (piece.utf8.take n, .error cause) := by
        simp [putAll, put, here]
      rw [step, if_neg (by omega), List.take_append_of_le_length (by omega)]

namespace Listing

variable {o : Options} {cause : Cause} {n : Nat} {t : Token}

theorem putAll_line_of_le (fits : (line o t).utf8.length ≤ n) :
    Sink.putAll ⟨some n, cause⟩ (linePieces o t) =
      ((line o t).utf8, .ok ⟨some (n - (line o t).utf8.length), cause⟩) := by
  rw [Sink.putAll_limited, ← line, if_pos fits]

theorem putAll_line_of_lt (full : n < (line o t).utf8.length) :
    Sink.putAll ⟨some n, cause⟩ (linePieces o t) = ((line o t).utf8.take n, .error cause) := by
  rw [Sink.putAll_limited, ← line, if_neg (Nat.not_le.2 full)]

theorem ofTokens_eof_of_fitting {k : Nat} (fits : (lines o (listed o [.eof k])).length ≤ n) :
    ofTokens o ⟨some n, cause⟩ [.eof k] = ofTokens o ⟨none, cause⟩ [.eof k] := by
  rw [ofTokens_eof fun _ => Sink.putAll_unlimited cause _]
  refine ofTokens_eof fun shown => putAll_line_of_le ?_
  rwa [listed_eof, if_pos shown, lines_singleton] at fits

/-- What is left of the listing `whole` of the tokens `ts` where only `n` bytes fit. -/
structure Truncated (o : Options) (ts : List Token) (cause : Cause) (n : Nat)
    (whole part : Report) : Prop where
  kept : part.bytes = whole.bytes.take n
  fits : whole.bytes.length ≤ n → part = whole
  full : n < whole.bytes.length → part.result = .error (.unwritable cause)
  /-- The last token that is looked at is the first whose line does not fit. -/
  first : n < whole.bytes.length → ∃ before t after, listed o ts = before ++ t :: after ∧
    (lines o before).length ≤ n ∧ n < (lines o (before ++ [t])).length ∧
    part.drawn = before ++ [t]

namespace Truncated

variable {ts : List Token} {whole part : Report}

theorem of_fits (h : whole.bytes.length ≤ n) : Truncated o ts cause n whole whole := by
  have no : ¬ n < whole.bytes.length := Nat.not_lt.2 h
  exact ⟨(List.take_of_length_le h).symm, fun _ => rfl, fun h => absurd h no,
    fun h => absurd h no⟩

theorem of_overflow {after : List Token} (hl : listed o ts = t :: after)
    (hw : whole.bytes = lines o (t :: after)) (h : n < (line o t).utf8.length) :
    Truncated o ts cause n whole ⟨(line o t).utf8.take n, [t], .error (.unwritable cause)⟩ := by
  rw [lines_cons] at hw
  constructor
  · rw [hw, List.take_append_of_le_length (Nat.le_of_lt h)]
  · intro fits
    rw [hw, List.length_append] at fits
    omega
  · exact fun _ => rfl
  · intro _
    refine ⟨[], t, after, hl, Nat.zero_le n, ?_, rfl⟩
    rw [List.nil_append, lines_cons, List.length_append]
    omega

/-- A line that fits takes its bytes from the room for the others. -/
theorem cons (h : Truncated o ts cause (n - (line o t).utf8.length) whole part)
    (hl : listed o (t :: ts) = t :: listed o ts) (fits : (line o t).utf8.length ≤ n) :
    Truncated o (t :: ts) cause n (whole.cons o t) (part.cons o t) := by
  have size : (whole.cons o t).bytes.length = (line o t).utf8.length + whole.bytes.length :=
    List.length_append
  constructor
  · simp only [Report.cons, h.kept, List.take_append, List.take_of_length_le fits]
  · intro fits
    rw [h.fits (by omega)]
  · intro full
    have failed := h.full (by omega)
    simp only [Report.cons, failed]
    rfl
  · intro full
    obtain ⟨before, u, after, split, lower, upper, drawn⟩ := h.first (by omega)
    refine ⟨t :: before, u, after, by rw [hl, split]; rfl, ?_, ?_, by rw [Report.cons, drawn]; rfl⟩
    · rw [lines_cons, List.length_append]
      omega
    · rw [List.cons_append, lines_cons, List.length_append]
      omega

/-- A fault about an illegal token is reported only if everything listed before it fits. -/
theorem illegal_iff (h : Truncated o ts cause n whole part) (text : Text) (offset : Nat) :
    part.result = .error (.illegalToken text offset) ↔
      whole.bytes.length ≤ n ∧ whole.result = .error (.illegalToken text offset) := by
  by_cases fits : whole.bytes.length ≤ n
  · rw [h.fits fits, and_iff_right fits]
  · rw [h.full (Nat.not_le.1 fits)]
    exact iff_of_false nofun fun both => fits both.1

end Truncated

theorem truncated_ofTokens {body : List Token} (hb : ∀ t ∈ body, t.isEof = false) (k n : Nat) :
    Truncated o (body ++ [.eof k]) cause n (ofTokens o ⟨none, cause⟩ (body ++ [.eof k]))
      (ofTokens o ⟨some n, cause⟩ (body ++ [.eof k])) := by
  induction body generalizing n with
  | nil =>
    have whole : (ofTokens o ⟨none, cause⟩ [.eof k]).bytes = lines o (listed o [.eof k]) :=
      ofTokens_bytes hb k
    rw [List.nil_append]
    by_cases fits : (lines o (listed o [.eof k])).length ≤ n
    · rw [ofTokens_eof_of_fitting fits]
      exact .of_fits (whole ▸ fits)
    · have shown : o.showEof = true := by
        refine Decidable.byContradiction fun hidden => fits ?_
        rw [listed_eof, if_neg hidden]
        exact Nat.zero_le n
      have single : listed o [.eof k] = [.eof k] := by rw [listed_eof, if_pos shown]
      rw [single, lines_singleton, Nat.not_le] at fits
      rw [ofTokens_of_refused (by simp [shown]) (denies_eof o k) (putAll_line_of_lt fits)]
      exact .of_overflow single (whole.trans (congrArg (lines o) single)) fits
  | cons t body ih =>
    have whole : (ofTokens o ⟨none, cause⟩ (t :: (body ++ [.eof k]))).bytes =
        lines o (listed o (t :: (body ++ [.eof k]))) := ofTokens_bytes hb k
    obtain ⟨ht, hb⟩ := List.forall_mem_cons.1 hb
    rw [List.cons_append]
    cases hd : denies o t with
    | true =>
      rw [ofTokens_of_denied _ hd, ofTokens_of_denied _ hd]
      exact .of_fits (Nat.zero_le n)
    | false =>
      have here := listed_cons ht hd (body ++ [.eof k])
      by_cases fits : (line o t).utf8.length ≤ n
      · rw [ofTokens_of_taken ht hd (Sink.putAll_unlimited cause _),
          ofTokens_of_taken ht hd (putAll_line_of_le fits)]
        exact (ih hb _).cons here fits
      · have shown : (t.isEof && !o.showEof) = false := by rw [ht, Bool.false_and]
        rw [Nat.not_le] at fits
        rw [ofTokens_of_refused shown hd (putAll_line_of_lt fits)]
        exact .of_overflow here (whole.trans (congrArg (lines o) here)) fits

/-- A buffer is filled with the beginning of the listing, and the fault that comes first in the
order of the tokens is the one that is reported. -/
theorem truncated_report_buffer (o : Options) (n : Nat) (source : Text) :
    Truncated o (tokenize source) .bufferFull n (report o .unlimited source)
        (report o (.buffer n) source) ∧
      ∀ text offset, (report o (.buffer n) source).result = .error (.illegalToken text offset) ↔
        (report o .unlimited source).bytes.length ≤ n ∧
          (report o .unlimited source).result = .error (.illegalToken text offset) := by
  obtain ⟨body, whole, hn⟩ := (lexes_tokenize source).exists_body
  have cut : Truncated o (tokenize source) .bufferFull n (report o .unlimited source)
      (report o (.buffer n) source) := by
    rw [report, report, whole]
    exact truncated_ofTokens hn _ n
  exact ⟨cut, cut.illegal_iff⟩

end Listing
end LexerConsole
