/-!
# The lexical alphabet

The scanner looks at bytes. Every byte is a blank, a letter (the underscore
counts as one), a digit, the first byte of a symbol, or outside the alphabet.
No byte of a character beyond ASCII belongs to the alphabet.
-/

namespace LexerConsole.Alphabet

def isBlank (b : UInt8) : Bool :=
  b = 0x20 || b = 0x09 || b = 0x0A || b = 0x0D

def isDigit (b : UInt8) : Bool :=
  0x30 ≤ b && b ≤ 0x39

/-- A byte that can begin a word: an ASCII letter or the underscore. -/
def isLetter (b : UInt8) : Bool :=
  (0x41 ≤ b && b ≤ 0x5A) || (0x61 ≤ b && b ≤ 0x7A) || b = 0x5F

def isWordByte (b : UInt8) : Bool :=
  isLetter b || isDigit b

/-- A byte is shown as its ASCII character, or as the replacement character when
it is part of a longer one. -/
def shownByte (b : UInt8) : Char :=
  if b < 0x80 then Char.ofNat b.toNat else '\uFFFD'

/-- The text that stands for a lexeme. -/
def shown (bytes : List UInt8) : List Char :=
  bytes.map shownByte

end LexerConsole.Alphabet
