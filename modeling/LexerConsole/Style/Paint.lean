import LexerConsole.Style.Effect
import LexerConsole.Token.Basic

/-!
# Colours of tokens

Each kind of token has its colours. Identifiers, the comma, the semicolon and the
end of the input are left plain.
-/

namespace LexerConsole

/-- The effects of a kind, the outermost first. -/
def Kind.effects : Kind → List Effect
  | .keyword .trueWord | .keyword .falseWord => [.blue]
  | .keyword _ => [.bold, .magenta]
  | .int => [.yellow]
  | .symbol s => if s.isOperator then [.cyan] else if s.isBracket then [.yellow] else []
  | .illegal => [.underline, .red]
  | .ident | .eof => []

def paint (k : Kind) (t : Text) : Text :=
  k.effects.foldr Effect.apply t

/-- The coloured form of a token: kind name in bold, text in the colours of the
kind, all between them dimmed. -/
def Token.coloured (t : Token) : Text :=
  Effect.dim.apply "\x7bType:".toList ++ Effect.bold.apply t.kind.name ++
    Effect.dim.apply " Literal:".toList ++ paint t.kind t.text ++ Effect.dim.apply "\x7d".toList

end LexerConsole
