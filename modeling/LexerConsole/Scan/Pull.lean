import LexerConsole.Scan.Scanner

/-!
# Drawing tokens from a scanner

Requests in the plural. Each of them asks for tokens one after the other and stops
as soon as its answer is known, so it leaves the scanner right behind the last
token it looked at. The closing token counts as the absence of a token.
-/

namespace LexerConsole.Scanner

/-- The next token before the end. -/
def draw (s : Scanner) : Option Token × Scanner :=
  if s.next.1.isEof then (none, s.next.2) else (some s.next.1, s.next.2)

/-- Pass over `n` tokens and give the next. -/
def drawNth : Nat → Scanner → Option Token × Scanner
  | 0, s => s.draw
  | n + 1, s =>
    match s.draw with
    | (none, s) => (none, s)
    | (some _, s) => drawNth n s

/-- The next tokens, `n` of them or as many as there are. -/
def take : Nat → Scanner → List Token × Scanner
  | 0, s => ([], s)
  | n + 1, s =>
    match s.draw with
    | (none, s) => ([], s)
    | (some t, s) => let (ts, s) := take n s; (t :: ts, s)

/-- The tokens before the first that satisfies `p`, that token if there is one, and
the scanner behind it. -/
def drawUntil (p : Token → Bool) (s : Scanner) : List Token × Option Token × Scanner :=
  if _h : s.next.1.isEof = true then ([], none, s.next.2)
  else if p s.next.1 then ([], some s.next.1, s.next.2)
  else
    let (before, found, after) := drawUntil p s.next.2
    (s.next.1 :: before, found, after)
termination_by s.rest.length
decreasing_by exact length_rest_next_lt (by simpa using _h)

/-- The first token of a kind; the tokens before it are passed over. -/
def find (k : Kind) (s : Scanner) : Option Token × Scanner :=
  let (_, found, after) := s.drawUntil fun t => t.kind = k
  (found, after)

/-- The tokens before the first of a kind, which is passed over too. -/
def takeWhileNot (k : Kind) (s : Scanner) : List Token × Scanner :=
  let (before, _, after) := s.drawUntil fun t => t.kind = k
  (before, after)

def drawRest (s : Scanner) : List Token × Scanner :=
  let (before, _, after) := s.drawUntil fun _ => false
  (before, after)

def count (s : Scanner) : Nat × Scanner :=
  let (ts, after) := s.drawRest
  (ts.length, after)

def last (s : Scanner) : Option Token × Scanner :=
  let (ts, after) := s.drawRest
  (ts.getLast?, after)

end LexerConsole.Scanner
