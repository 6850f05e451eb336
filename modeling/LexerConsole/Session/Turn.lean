import LexerConsole.Session.Keys

/-!
# Turns

What a session is given, one turn at a time: a line, a line that was dropped, the
end of the input, or the news that the input cannot be read on. Each turn carries
the history as it stands after it. Lines that come through a pipe leave no trace in
the history; accepted lines of a keyboard do.
-/

namespace LexerConsole

inductive Turn where
  | line (text : Text)
  | dropped
  | ended
  | unreadable (cause : Cause)
  deriving DecidableEq, Repr

namespace Turn

/-- The turns of a byte stream, up to its end or to the first line that is no text. -/
def ofLines : List (List UInt8) → List Turn
  | [] => [ended]
  | bytes :: rest =>
    match Text.ofUtf8? bytes with
    | some text => line text :: ofLines rest
    | none => [unreadable .notUtf8]

def ofBytes (input : List UInt8) : List Turn :=
  ofLines (linesOf input)

/-- The turns of a keyboard, given as what is typed for each line, with the history
after each of them. The keyboard is closed when nothing is left to type. -/
def ofKeys (h : History) : List Text → List (Turn × History)
  | [] => [(ended, h)]
  | keys :: rest =>
    match Keys.typed h .start keys with
    | .accepted text => (line text, h.add text) :: ofKeys (h.add text) rest
    | .dropped => (dropped, h) :: ofKeys h rest
    | .closed => [(ended, h)]

end Turn
end LexerConsole
