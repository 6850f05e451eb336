import LexerConsole.Session.Command
import LexerConsole.Style.Effect

/-!
# Screens of a session

The fixed texts that a session prints: the greeting, the help, the version, and the
marks for a dropped line and for the end of the input.
-/

namespace LexerConsole.Screen

def version : Text :=
  "0.1.0".toList

/-- Fill up with spaces on the right. -/
def padTo (n : Nat) (t : Text) : Text :=
  t ++ List.replicate (n - t.length) ' '

def textLine (pieces : List Text) : Text :=
  pieces.flatten ++ ['\n']

def greeting (user : Text) : Text :=
  textLine ["Hello ".toList, Effect.bold.apply (Effect.brightCyan.apply user),
    "! This is the ".toList, Effect.bold.apply (Effect.brightYellow.apply "Monkey".toList),
    " programming language!".toList] ++
  textLine ["Feel free to type in commands".toList] ++
  textLine [Effect.dim.apply "Type".toList, [' '], Effect.cyan.apply ".help".toList, [' '],
    Effect.dim.apply "for available commands".toList]

/-- One entry of the help: a name in a column of sixteen, and what it does. -/
def helpEntry (colour : Effect) (name description : Text) : Text :=
  textLine ["  ".toList, colour.apply (padTo 16 name), [' '], Effect.dim.apply description]

def heading (t : Text) : Text :=
  textLine [Effect.bold.apply (Effect.white.apply t)]

def shortcuts : List (Text × Text) :=
  [("Ctrl+C".toList, "Cancel current input".toList), ("Ctrl+D".toList, "Exit REPL".toList),
    ("Tab".toList, "Complete keyword".toList)]

def help : Text :=
  textLine [] ++ heading "REPL Commands:".toList ++ textLine [] ++
    (Command.all.flatMap fun c => helpEntry .cyan c.usage c.description) ++
    textLine [] ++ heading "Keyboard Shortcuts:".toList ++ textLine [] ++
    (shortcuts.flatMap fun s => helpEntry .yellow s.1 s.2) ++ textLine []

def versionLine : Text :=
  textLine [Effect.bold.apply (Effect.brightCyan.apply "monkey".toList), [' '],
    Effect.yellow.apply version]

/-- Clears the screen and moves the cursor to its first place. -/
def clear : Text :=
  "\x1b[2J\x1b[H".toList

def droppedMark : Text :=
  textLine [Effect.dim.apply "^C".toList]

def endMark : Text :=
  textLine [Effect.dim.apply "^D".toList]

def prompt : Text :=
  ">> ".toList

/-- Complaint about a load command without a path. -/
def pathRequired : Text :=
  Effect.cyan.apply ".load".toList ++ [' '] ++ Effect.dim.apply "requires a file path".toList

end LexerConsole.Screen
