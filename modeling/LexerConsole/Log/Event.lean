import LexerConsole.Fault
import LexerConsole.Token.Basic

/-!
# Log events

What the program notes about its own work. Each event has a level, a target that
says which part of the program speaks, and a line of text with named fields.

A log puts the time in front of each line and may write level, target and fields in
colours. Neither belongs to the event: the time is the clock's, and the codes are the
choice of what prints the log. The lines here stand behind the time and have no codes.
-/

namespace LexerConsole

/-- How much is wanted, or how much an event matters; a larger rank says more. -/
inductive Level where
  | off
  | error
  | warn
  | info
  | debug
  | trace
  deriving DecidableEq, Repr

namespace Level

def all : List Level :=
  [off, error, warn, info, debug, trace]

def rank : Level → Nat
  | off => 0
  | error => 1
  | warn => 2
  | info => 3
  | debug => 4
  | trace => 5

def name : Level → Text
  | off => "OFF".toList
  | error => "ERROR".toList
  | warn => "WARN".toList
  | info => "INFO".toList
  | debug => "DEBUG".toList
  | trace => "TRACE".toList

end Level

inductive Event where
  | inlineCode (bytes : Nat)
  | readingFile (path : Text)
  | startingSession
  | scanned (t : Token)
  | listed (tokens bytes : Nat)
  | noHistory (path : Text)
  | historyFolderMissing (path : Text) (cause : Cause)
  | historyNotSaved (path : Text) (cause : Cause)
  | badHistoryLine (line : Text)
  | readingPipe
  | readingPlainTerminal
  deriving DecidableEq, Repr

namespace Event

def level : Event → Level
  | inlineCode _ | readingFile _ | startingSession | listed _ _ | noHistory _ | readingPipe |
    readingPlainTerminal => .debug
  | scanned _ => .trace
  | historyFolderMissing _ _ | historyNotSaved _ _ | badHistoryLine _ => .warn

def target : Event → Text
  | inlineCode _ | readingFile _ | startingSession => "monkey".toList
  | scanned _ => "monkey_lexer::lexer::scanner".toList
  | listed _ _ => "monkey::output".toList
  | noHistory _ | historyFolderMissing _ _ | historyNotSaved _ _ => "monkey::repl".toList
  | badHistoryLine _ | readingPipe | readingPlainTerminal => "rustyline".toList

/-- A character of an event's text as the log shows it: controls that a terminal acts on
are written by number. -/
def shownChar (c : Char) : Text :=
  if c = '\x07' || c = '\x08' || c = '\x0c' || c = '\x1b' || c = '\x7f' then
    '\\' :: 'x' :: (if c.toNat < 0x10 then ['0'] else []) ++ Text.hexadecimal c.toNat
  else if 0x80 ≤ c.toNat && c.toNat ≤ 0x9F then
    ['\\', 'u', '\x7b'] ++ Text.hexadecimal c.toNat ++ ['\x7d']
  else [c]

/-- What an event says apart from its fields. -/
def text : Event → Text
  | inlineCode _ => "tokenizing inline code".toList
  | readingFile _ => "reading source file".toList
  | startingSession => "starting REPL".toList
  | scanned _ => "scanned token".toList
  | listed _ _ => "listed tokens".toList
  | noHistory _ => "no history loaded".toList
  | historyFolderMissing _ _ => "could not create history directory".toList
  | historyNotSaved _ _ => "could not save history".toList
  | badHistoryLine line => "bad escaped line: ".toList ++ line.flatMap shownChar
  | readingPipe => "stdin is not a tty".toList
  | readingPlainTerminal => "unsupported terminal".toList

/-- The named fields of an event, in the order in which they are shown. -/
def fields : Event → List (Text × Text)
  | inlineCode bytes => [("bytes".toList, Text.decimal bytes)]
  | readingFile path => [("path".toList, path)]
  | scanned t =>
    [("kind".toList, t.kind.name), ("start".toList, Text.decimal t.span.start),
      ("end".toList, Text.decimal t.span.stop)]
  | listed tokens bytes =>
    [("tokens".toList, Text.decimal tokens), ("bytes".toList, Text.decimal bytes)]
  | noHistory path => [("path".toList, path)]
  | historyFolderMissing path cause | historyNotSaved path cause =>
    [("path".toList, path), ("error".toList, cause.message)]
  | startingSession | badHistoryLine _ | readingPipe | readingPlainTerminal => []

def message (e : Event) : Text :=
  e.text ++ e.fields.flatMap fun field => ' ' :: (field.1 ++ '=' :: field.2)

/-- The line in the log, behind the time stamp and apart from escape codes. -/
def line (e : Event) : Text :=
  e.level.name ++ ' ' :: (e.target ++ ": ".toList ++ e.message)

end Event
end LexerConsole
