import LexerConsole.Text.Basic

/-!
# The environment of a run

Its settings by name, the folder of the user, and what follows from them: who is greeted, where
the history is kept, whether the terminal is too plain for a line editor, and what
the log should show. A place has two names, one that messages show and one under
which it is looked up; they differ only when the folder of the user has a name of
its own.
-/

namespace LexerConsole

structure Place where
  shown : Text
  lookup : Text
  deriving DecidableEq, Repr

namespace Place

/-- A place that is shown as it is looked up. -/
def named (name : Text) : Place :=
  ⟨name, name⟩

def joined (name part : Text) : Text :=
  if name.getLast? = some '/' then name ++ part else name ++ '/' :: part

/-- A place inside a folder. -/
def under (p : Place) (part : Text) : Place :=
  ⟨joined p.shown part, joined p.lookup part⟩

end Place

structure Environment where
  settings : List (Text × Text)
  /-- The folder of the user, where no setting says otherwise. -/
  account : Place
  deriving DecidableEq, Repr

namespace Environment

def value? (e : Environment) (name : String) : Option Text :=
  (e.settings.find? fun v => v.1 = name.toList).map Prod.snd

/-- The name in the greeting. -/
def user (e : Environment) : Text :=
  ((e.value? "USER").orElse fun _ => e.value? "USERNAME").getD "there".toList

def home (e : Environment) : Place :=
  match e.value? "HOME" with
  | some (c :: rest) => .named (c :: rest)
  | _ => e.account

/-- The folder for data; a relative name for it is disregarded. -/
def dataFolder (e : Environment) : Place :=
  let usual := e.home.under ".local/share".toList
  match e.value? "XDG_DATA_HOME" with
  | some name => if name.head? = some '/' then .named name else usual
  | none => usual

def historyFolder (e : Environment) : Place :=
  e.dataFolder.under "monkey".toList

def historyFile (e : Environment) : Place :=
  e.historyFolder.under ".monkey_history".toList

/-- Terminals, by name in any case, on which lines are read without an editor. -/
def plainTerminals : List Text :=
  ["dumb".toList, "cons25".toList, "emacs".toList]

def hasPlainTerminal (e : Environment) : Bool :=
  (e.value? "TERM").any fun name => plainTerminals.contains (name.map Char.toLower)

def logFilterText (e : Environment) : Option Text :=
  e.value? "MONKEY_LOG"

end Environment
end LexerConsole
