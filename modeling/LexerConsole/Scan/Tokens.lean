import LexerConsole.Scan.Scanner

/-!
# Token lists

The tokens of a text, up to and including the one that closes it.
-/

namespace LexerConsole

namespace Scanner

/-- Every token from here on; the closing token is the last and the only one of its kind. -/
def tokens (s : Scanner) : List Token :=
  if _h : s.next.1.isEof = true then [s.next.1]
  else s.next.1 :: s.next.2.tokens
termination_by s.rest.length
decreasing_by exact length_rest_next_lt (by simpa using _h)

theorem tokens_of_isEof {s : Scanner} (h : s.next.1.isEof = true) : s.tokens = [s.next.1] := by
  rw [tokens, dif_pos h]

theorem tokens_of_not_isEof {s : Scanner} (h : s.next.1.isEof = false) :
    s.tokens = s.next.1 :: s.next.2.tokens := by
  rw [tokens, dif_neg (by simp [h])]

end Scanner

/-- The tokens of a source text. -/
def tokenize (source : Text) : List Token :=
  (Scanner.ofText source).tokens

end LexerConsole
