import LexerConsole.Scan.Step

/-!
# The scanner

A scanner is a cursor that follows its source. The cursor may stand inside a character,
but it never stands past the end and its registers never disagree with the source, so
that every request is answered. At the end of the input every request gives the closing
token again and moves over nothing but blanks.
-/

namespace LexerConsole

structure Scanner where
  source : EncodedText
  cursor : Cursor
  follows : cursor.Follows source
  deriving DecidableEq, Repr

namespace Scanner

/-- A scanner before the first byte of a text. -/
def ofText (text : Text) : Scanner :=
  ⟨.ofText text, .start (.ofText text), .start⟩

/-- The byte offset of the byte under inspection. -/
def position (s : Scanner) : Nat :=
  s.cursor.position

/-- The byte at the position; none at the end of the input. -/
def current (s : Scanner) : Option UInt8 :=
  s.cursor.current

def atEnd (s : Scanner) : Bool :=
  s.current.isNone

/-- The bytes that no request has passed over yet. -/
def rest (s : Scanner) : List UInt8 :=
  s.source.bytes.drop s.position

/-- The next token and the scanner behind it. -/
def next (s : Scanner) : Token × Scanner :=
  let answer := (s.cursor.next? s.source).get s.follows.isSome_next?
  (answer.1, ⟨s.source, answer.2, s.follows.of_next? (Option.some_get _).symm⟩)

theorem next?_cursor (s : Scanner) :
    s.cursor.next? s.source = some (s.next.1, s.next.2.cursor) := by
  rw [next, Option.some_get]

theorem source_next (s : Scanner) : s.next.2.source = s.source :=
  rfl

theorem position_next (s : Scanner) : s.next.2.position = s.next.1.span.stop :=
  (s.follows.step_of_next? s.next?_cursor).1

theorem step_next (s : Scanner) : Step s.position s.rest s.next.1 s.next.2.rest :=
  (s.follows.step_of_next? s.next?_cursor).2

/-- A request that does not meet the end leaves fewer bytes. -/
theorem length_rest_next_lt {s : Scanner} (h : s.next.1.isEof = false) :
    s.next.2.rest.length < s.rest.length :=
  s.step_next.length_lt h

end Scanner
end LexerConsole
