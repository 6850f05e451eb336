import LexerConsole.Token.Kind
import LexerConsole.Token.Span

/-!
# Tokens

A token has a kind, the text that stands for it and the bytes that it covers.
The three are independent data; the scanner is what makes them agree.
-/

namespace LexerConsole

structure Token where
  kind : Kind
  text : Text
  span : Span
  deriving DecidableEq, Repr

namespace Token

/-- The token that closes an input of the given length. -/
def eof (offset : Nat) : Token :=
  ⟨.eof, [], ⟨offset, offset⟩⟩

def isEof (t : Token) : Bool :=
  t.kind = .eof

def isIllegal (t : Token) : Bool :=
  t.kind = .illegal

/-- The pieces of a token's plain form, in writing order. -/
def plainPieces (t : Token) : List Text :=
  ["\x7bType:".toList, t.kind.name, " Literal:".toList, t.text, "\x7d".toList]

/-- The plain form: kind and text in braces. -/
def plain (t : Token) : Text :=
  t.plainPieces.flatten

/-- The same token further to the right. -/
def shift (n : Nat) (t : Token) : Token :=
  { t with span := t.span.shift n }

theorem isEof_eof (offset : Nat) : (eof offset).isEof = true := by
  simp [eof, isEof]

end Token
end LexerConsole
