import LexerConsole.Session.Command
import LexerConsole.Style.Effect
import LexerConsole.Text.Boundary
import LexerConsole.Token.Keyword

/-!
# Completion and hints

Both look at the word that ends at a byte offset of the line: the longest run of
ASCII letters, digits, underscores and points before it. Completion offers every
known word that continues it; a hint shows the first one that adds something, when
the word has two bytes or more and is not already a keyword. An offset that is not
a boundary of the line has no word before it, and the answers are absent.
-/

namespace LexerConsole.Completion

def isWordChar (c : Char) : Bool :=
  c.isAlphanum || c = '_' || c = '.'

def words : List Text :=
  Keyword.all.map Keyword.spelling ++ Command.all.map Command.completionWord

def lastWord (t : Text) : Text :=
  (t.reverse.takeWhile isWordChar).reverse

def beforeLastWord (t : Text) : Text :=
  (t.reverse.dropWhile isWordChar).reverse

/-- The byte offset at which the word before `pos` begins. -/
def wordStart? (line : Text) (pos : Nat) : Option Nat :=
  (line.cut? pos).map fun parts => (beforeLastWord parts.1).byteLength

/-- A word on offer, and the part of it that is still to be typed. -/
structure Candidate where
  display : Text
  insertion : Text
  deriving DecidableEq, Repr

/-- The words that continue a word which has begun; nothing continues the empty one. -/
def candidates (word : Text) : List Candidate :=
  if word.isEmpty then []
  else (words.filter fun w => word.isPrefixOf w).map fun w => ⟨w, w.drop word.length⟩

/-- The candidates at `pos`, to be inserted there. -/
def complete? (line : Text) (pos : Nat) : Option (Nat × List Candidate) :=
  (line.cut? pos).map fun parts => (pos, candidates (lastWord parts.1))

/-- The rest of the first word that goes on after `word`. -/
def continuation? (word : Text) : Option Text :=
  if word.byteLength < 2 || (Keyword.ofWord? word).isSome then none
  else
    (words.find? fun w => word.isPrefixOf w && word.byteLength < Text.byteLength w).map fun w =>
      w.drop word.length

def hintAtEnd (line : Text) : Option Text :=
  (continuation? (lastWord line)).map Effect.dim.apply

/-- The hint at `pos`: there is none before the end, and no answer past it. -/
def hint? (line : Text) (pos : Nat) : Option (Option Text) :=
  if pos < line.byteLength then some none
  else (line.cut? pos).map fun parts => hintAtEnd parts.1

theorem beforeLastWord_append_lastWord (t : Text) : beforeLastWord t ++ lastWord t = t := by
  have whole := List.takeWhile_append_dropWhile (p := isWordChar) (l := t.reverse)
  rw [beforeLastWord, lastWord, ← List.reverse_append, whole, List.reverse_reverse]

end LexerConsole.Completion
