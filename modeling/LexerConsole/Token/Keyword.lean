import LexerConsole.Text.Basic

/-!
# Keywords

The reserved words of the language. A word is a keyword only as a whole: the
lookup compares complete words and plays no part in finding where they end.
-/

namespace LexerConsole

inductive Keyword where
  | fnWord
  | letWord
  | trueWord
  | falseWord
  | ifWord
  | elseWord
  | returnWord
  deriving DecidableEq, Repr

namespace Keyword

/-- Every keyword, in the order in which completion offers them. -/
def all : List Keyword :=
  [fnWord, letWord, trueWord, falseWord, ifWord, elseWord, returnWord]

def spelling : Keyword → Text
  | fnWord => "fn".toList
  | letWord => "let".toList
  | trueWord => "true".toList
  | falseWord => "false".toList
  | ifWord => "if".toList
  | elseWord => "else".toList
  | returnWord => "return".toList

/-- The keyword that a whole word spells. -/
def ofWord? (word : Text) : Option Keyword :=
  all.find? fun k => k.spelling = word

theorem mem_all (k : Keyword) : k ∈ all := by
  cases k <;> decide

theorem ofWord?_spelling (k : Keyword) : ofWord? k.spelling = some k := by
  cases k <;> decide

theorem ofWord?_eq_some_iff {word : Text} {k : Keyword} :
    ofWord? word = some k ↔ k.spelling = word := by
  constructor
  · intro h
    simpa using List.find?_some h
  · rintro rfl
    exact ofWord?_spelling k

end Keyword
end LexerConsole
