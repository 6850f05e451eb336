import LexerConsole.Text.Blank

/-!
# Modes of a pattern

A pattern describes texts. Its mode says how it is written and what it is compared with:
whether white space and comments may stand in it, whether letters stand for both cases,
and whether it is compared with whole characters or, in a narrow mode, with bytes.

Patterns are carried out without tables of characters, and a match never ends inside a
character. So in the wide mode nothing can be asked for that needs a table, such as both
cases of a letter, and in a narrow mode nothing that a byte beyond ASCII could satisfy.
-/

namespace LexerConsole.Pattern

structure Mode where
  isSpaced : Bool
  isCaseless : Bool
  isWide : Bool
  deriving DecidableEq, Repr

namespace Mode

def initial : Mode :=
  ⟨false, false, true⟩

/-- The letters that switch something on, or off behind a dash. Only three of them
change what can be written. -/
def letters : Text :=
  "imsUuRx".toList

/-- A word that switches modes has each letter once and at most one dash, with a
letter behind it. -/
def isWord (word : Text) : Bool :=
  word.all (fun c => c = '-' || letters.contains c) && decide word.Nodup &&
    word.getLast? ≠ some '-'

def switched (m : Mode) (word : Text) : Mode :=
  let on := word.takeWhile (· ≠ '-')
  let off := word.drop on.length
  let after (letter : Char) (now : Bool) : Bool :=
    (now || on.contains letter) && !off.contains letter
  ⟨after 'x' m.isSpaced, after 'i' m.isCaseless, after 'u' m.isWide⟩

/-- Skip white space and comments; the flag says whether a comment is open. A comment
begins with a number sign and ends with its line. -/
def skipFrom : Bool → Text → Text
  | _, [] => []
  | true, c :: rest => skipFrom (c ≠ '\n') rest
  | false, c :: rest =>
    if Text.isSpace c then skipFrom false rest
    else if c = '#' then skipFrom true rest
    else c :: rest

def skip (m : Mode) (t : Text) : Text :=
  if m.isSpaced then skipFrom false t else t

/-- The character by which a dash in a class is judged. In a spaced pattern it is the next
one that is not white space, where one number sign is passed over as well; if there is none
it is the very next one. -/
def following? (m : Mode) (t : Text) : Option Char :=
  if !m.isSpaced then t.head?
  else
    match t.dropWhile Text.isSpace with
    | [] => t.head?
    | '#' :: rest => (rest.dropWhile Text.isSpace).head?.or t.head?
    | c :: _ => some c

/-- Whether a character can be asked for by itself. -/
def allowsChar (m : Mode) : Bool :=
  !(m.isWide && m.isCaseless)

/-- Whether a named set, or all but its members, can be asked for. -/
def allowsNamedSet (m : Mode) (isNegated : Bool) : Bool :=
  if m.isWide then !m.isCaseless else !isNegated

end Mode
end LexerConsole.Pattern
