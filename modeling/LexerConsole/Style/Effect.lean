import LexerConsole.Text.Basic

/-!
# Terminal styles

A styled text stands between two escape codes, each an escape character, a
bracket, a decimal number and the letter m. Colours share one closing code and
the other effects share another. The codes are written for an empty text too.
-/

namespace LexerConsole

inductive Effect where
  | bold
  | dim
  | underline
  | red
  | yellow
  | blue
  | magenta
  | cyan
  | white
  | brightYellow
  | brightCyan
  deriving DecidableEq, Repr

namespace Effect

/-- The number that switches the effect on. -/
def opening : Effect → Nat
  | bold => 1
  | dim => 2
  | underline => 4
  | red => 31
  | yellow => 33
  | blue => 34
  | magenta => 35
  | cyan => 36
  | white => 37
  | brightYellow => 93
  | brightCyan => 96

/-- The number that switches it off: 0 for a manner of writing, 39 for a colour. -/
def closing : Effect → Nat
  | bold | dim | underline => 0
  | _ => 39

def code (n : Nat) : Text :=
  '\x1b' :: '[' :: (Text.decimal n ++ ['m'])

def apply (e : Effect) (t : Text) : Text :=
  code e.opening ++ t ++ code e.closing

end Effect
end LexerConsole
