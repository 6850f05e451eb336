import LexerConsole.Pattern.Mode

/-!
# Escapes in a pattern

A backslash gives the character behind it another meaning. Before a sign it takes the
sign's meaning away, before a letter it writes a character that is hard to type, a
character by its number, a set of characters, or a place in the text.
-/

namespace LexerConsole.Pattern

/-- What one unit of a pattern stands for. -/
inductive Atom where
  | char (c : Char)
  | set
  | place
  deriving DecidableEq, Repr

def controlOf? : Char → Option Char
  | 'a' => some '\x07'
  | 'f' => some '\x0c'
  | 't' => some '\t'
  | 'n' => some '\n'
  | 'r' => some '\r'
  | 'v' => some '\x0b'
  | _ => none

/-- How many digits follow a letter that introduces a character's number. -/
def digitsBehind? : Char → Option Nat
  | 'x' => some 2
  | 'u' => some 4
  | 'U' => some 8
  | _ => none

def hexValue? (c : Char) : Option Nat :=
  let lower := c.toLower
  if c.isDigit then some (c.toNat - '0'.toNat)
  else if 'a' ≤ lower && lower ≤ 'f' then some (lower.toNat - 'a'.toNat + 10)
  else none

/-- Read so many hexadecimal digits, adding them to a number. -/
def readNumber (m : Mode) : Nat → Nat → Text → Option (Nat × Text)
  | 0, value, t => some (value, t)
  | count + 1, value, t =>
    match m.skip t with
    | [] => none
    | c :: rest => (hexValue? c).bind fun digit => readNumber m count (16 * value + digit) rest

/-- Read an escape from behind its backslash on. A number of two digits stands for a byte
in a narrow mode, where only those of ASCII can be asked for; digits, blanks and word
characters, and the places where words end, are known for ASCII alone, and so in narrow
modes only. -/
def readEscape (m : Mode) : Text → Option (Atom × Text)
  | [] => none
  | c :: rest =>
    match digitsBehind? c, controlOf? c with
    | some digits, _ => do
      let (value, rest) ← readNumber m digits 0 rest
      if !value.isValidChar || (!m.isWide && digits = 2 && 0x80 ≤ value) then none
      else return (.char (Char.ofNat value), rest)
    | none, some control => some (.char control, rest)
    | none, none =>
      if c = 'A' || c = 'z' then some (.place, rest)
      else if c = 'b' || c = 'B' || c = '<' || c = '>' then
        if m.isWide then none else some (.place, rest)
      else if c = 'd' || c = 's' || c = 'w' then
        if m.isWide then none else some (.set, rest)
      else if c.toNat < 0x80 && !c.isAlphanum then some (.char c, rest)
      else none

end LexerConsole.Pattern
