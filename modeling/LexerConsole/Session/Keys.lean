import LexerConsole.Session.Completion
import LexerConsole.Session.History

/-!
# Typing a line

A line is typed key by key; the cursor stays at its end. Return accepts the line,
Control-C drops it, and Control-D ends the session when nothing is typed. The tab
key goes round the completions of the word under the cursor and back to the word
itself, as long as no other key comes between. Control-P goes back in the history.
Other control keys do nothing.
-/

namespace LexerConsole.Keys

/-- A round of completions: the line before it and the candidates still to come. -/
structure Round where
  base : Text
  candidates : List Completion.Candidate
  upcoming : List Completion.Candidate
  deriving DecidableEq, Repr

structure Typing where
  line : Text
  /-- How many entries back in the history the line was taken from. -/
  back : Nat
  /-- The round that the last key belonged to, if it was a tab. -/
  round : Option Round
  deriving DecidableEq, Repr

def Typing.start : Typing :=
  ⟨[], 0, none⟩

inductive Ending where
  | accepted (line : Text)
  | dropped
  | closed
  deriving DecidableEq, Repr

/-- One step of a round; after the last candidate the line is as it was before. -/
def stepRound (r : Round) : Text × Round :=
  match r.upcoming with
  | [] => (r.base, { r with upcoming := r.candidates })
  | c :: rest => (r.base ++ c.insertion, { r with upcoming := rest })

def tab (t : Typing) : Typing :=
  let round :=
    match t.round with
    | some r => r
    | none =>
      let found := Completion.candidates (Completion.lastWord t.line)
      ⟨t.line, found, found⟩
  if round.candidates.isEmpty then { t with round := none }
  else
    let (line, round) := stepRound round
    { t with line := line, round := some round }

def previous (h : History) (t : Typing) : Typing :=
  match h.entryBack? (t.back + 1) with
  | some entry => ⟨entry, t.back + 1, none⟩
  | none => { t with round := none }

def isPrintable (c : Char) : Bool :=
  0x20 ≤ c.toNat && c.toNat ≠ 0x7F

def press (h : History) (c : Char) (t : Typing) : Except Ending Typing :=
  if c = '\r' then throw (.accepted t.line)
  else if c = '\x03' then throw .dropped
  else if c = '\x04' then
    if t.line.isEmpty then throw .closed else return { t with round := none }
  else if c = '\t' then return tab t
  else if c = '\x10' then return previous h t
  else if isPrintable c then return ⟨t.line ++ [c], t.back, none⟩
  else return { t with round := none }

/-- Type keys until one of them ends the line. Keys that run out end the session. -/
def typed (h : History) (t : Typing) : Text → Ending
  | [] => .closed
  | c :: rest =>
    match press h c t with
    | .ok t => typed h t rest
    | .error ending => ending

end LexerConsole.Keys
