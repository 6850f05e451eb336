import LexerConsole.Text.Basic

/-!
# Blanks and white space

Two sets of characters separate things. The four blanks separate tokens and are
trimmed from a line; the characters with the Unicode property White_Space, of
which the blanks are four, separate a command from its argument.
-/

namespace LexerConsole.Text

def isBlankChar (c : Char) : Bool :=
  c = ' ' || c = '\t' || c = '\n' || c = '\r'

/-- The Unicode property White_Space: 25 characters in ten ranges. -/
def isSpace (c : Char) : Bool :=
  let n := c.toNat
  (9 ≤ n && n ≤ 13) || n = 32 || n = 0x85 || n = 0xA0 || n = 0x1680 ||
    (0x2000 ≤ n && n ≤ 0x200A) || n = 0x2028 || n = 0x2029 || n = 0x202F || n = 0x205F ||
    n = 0x3000

/-- The text without its longest ends of characters that satisfy `p`. -/
def trimWhere (p : Char → Bool) (t : Text) : Text :=
  ((t.dropWhile p).reverse.dropWhile p).reverse

def trimBlanks (t : Text) : Text :=
  t.trimWhere isBlankChar

def trimSpace (t : Text) : Text :=
  t.trimWhere isSpace

/-- A line on which the scanner finds nothing. -/
def isBlank (t : Text) : Bool :=
  t.all isBlankChar

theorem isSpace_of_isBlankChar {c : Char} (h : isBlankChar c = true) : isSpace c = true := by
  simp only [isBlankChar, Bool.or_eq_true, decide_eq_true_eq] at h
  rcases h with ((rfl | rfl) | rfl) | rfl <;> rfl

end LexerConsole.Text
