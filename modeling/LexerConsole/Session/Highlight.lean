import LexerConsole.Scan.Tokens
import LexerConsole.Session.Command
import LexerConsole.Style.Paint
import LexerConsole.Text.Boundary

/-!
# Highlighting

A line is shown with its tokens in their colours and all else as it stands. The
scanner gives one token for each byte of a character beyond ASCII; such a character
is shown whole with the first of them, and the others are passed over. A line that
is a command has one colour throughout. The pieces are cut at byte offsets, so the
answer would be absent if one of them were inside a character.
-/

namespace LexerConsole.Highlight

/-- The line from `cursor` on, with these of its tokens in colour. -/
def tokensFrom? (line : Text) (cursor : Nat) : List Token → Option Text
  | [] => line.slice? cursor line.byteLength
  | t :: rest =>
    if t.span.start < cursor then tokensFrom? line cursor rest
    else do
      let stop := line.nextBoundary t.span.stop
      let gap ← line.slice? cursor t.span.start
      let lexeme ← line.slice? t.span.start stop
      let more ← tokensFrom? line stop rest
      return gap ++ paint t.kind lexeme ++ more

def sourceLine? (line : Text) : Option Text :=
  tokensFrom? line 0 ((tokenize line).filter fun t => !t.isEof)

def line? (line : Text) : Option Text :=
  if (Command.parse? line).isSome then some (Effect.magenta.apply line)
  else sourceLine? line

/-- The colours may change with every key, wherever the cursor is. -/
def refreshes (_line : Text) (_pos : Nat) (_forced : Bool) : Bool :=
  true

end LexerConsole.Highlight
