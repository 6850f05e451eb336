import LexerConsole.Text.Blank

/-!
# Commands

A line whose first visible character is a point may be a command. Its name runs up
to the first white space and is read without regard to the case of ASCII letters;
the rest of the line, trimmed, is its argument. A name that no command has makes
the line an ordinary one.
-/

namespace LexerConsole

inductive Command where
  | help
  | exit
  | clear
  | version
  | load
  deriving DecidableEq, Repr

namespace Command

def all : List Command :=
  [help, exit, clear, version, load]

/-- The names under which a command is known, in lower case. -/
def spellings : Command → List Text
  | help => ["help".toList, "h".toList, "?".toList]
  | exit => ["exit".toList, "quit".toList, "q".toList]
  | clear => ["clear".toList, "cls".toList]
  | version => ["version".toList, "v".toList]
  | load => ["load".toList, "l".toList]

/-- The command with a given name, in any case. -/
def ofName? (name : Text) : Option Command :=
  all.find? fun c => c.spellings.contains (name.map Char.toLower)

/-- Read a line as a command with its argument. -/
def parse? (line : Text) : Option (Command × Option Text) :=
  match line.trimBlanks with
  | '.' :: rest =>
    let name := rest.takeWhile fun c => !Text.isSpace c
    let argument := Text.trimSpace (rest.dropWhile fun c => !Text.isSpace c)
    (ofName? name).map fun c => (c, if argument.isEmpty then none else some argument)
  | _ => none

/-- How a command is shown in the help text. -/
def usage : Command → Text
  | help => ".help".toList
  | exit => ".exit".toList
  | clear => ".clear".toList
  | version => ".version".toList
  | load => ".load <file>".toList

def description : Command → Text
  | help => "Show this help message".toList
  | exit => "Exit the REPL".toList
  | clear => "Clear the screen".toList
  | version => "Show version information".toList
  | load => "Tokenize a Monkey source file".toList

/-- What completion offers for a command. -/
def completionWord : Command → Text
  | load => ".load".toList
  | c => c.usage

theorem mem_all (c : Command) : c ∈ all := by
  cases c <;> decide

theorem ofName?_eq_some_iff {name : Text} {c : Command} :
    ofName? name = some c ↔ name.map Char.toLower ∈ c.spellings := by
  constructor
  · intro h
    simpa using List.find?_some h
  · intro h
    have apart : ∀ a ∈ all, ∀ b ∈ all, ∀ w ∈ b.spellings, a.spellings.contains w = true → a = b := by
      decide
    rw [ofName?]
    cases found : all.find? fun c => c.spellings.contains (name.map Char.toLower) with
    | none =>
      have absent := List.find?_eq_none.1 found c (mem_all c)
      simp [h] at absent
    | some a =>
      have holds := List.find?_some found
      rw [apart a (mem_all a) c (mem_all c) _ h holds]

end Command
end LexerConsole
