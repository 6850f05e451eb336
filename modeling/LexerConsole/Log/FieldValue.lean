import LexerConsole.Pattern.Reading

/-!
# Values asked for in a log filter

A filter can ask for the value of a field as a number or as a pattern. Numbers are patterns
too, save for those behind a plus sign, with which no pattern begins.
-/

namespace LexerConsole.FieldValue

/-- An exponent: a letter, perhaps a sign, and digits. -/
def isExponent : Text → Bool
  | [] => false
  | letter :: rest =>
    let digits := if rest.head? = some '+' || rest.head? = some '-' then rest.tail else rest
    letter.toLower = 'e' && !digits.isEmpty && digits.all Char.isDigit

/-- A decimal number without a sign. One point may stand before, among or behind its digits. -/
def isDecimal (t : Text) : Bool :=
  let whole := t.takeWhile Char.isDigit
  let rest := t.drop whole.length
  let behindPoint := if rest.head? = some '.' then rest.tail else []
  let fraction := behindPoint.takeWhile Char.isDigit
  let rest := if rest.head? = some '.' then behindPoint.drop fraction.length else rest
  !(whole.isEmpty && fraction.isEmpty) && (rest.isEmpty || isExponent rest)

def numberWords : List Text :=
  ["inf".toList, "infinity".toList, "nan".toList]

def isNumber (t : Text) : Bool :=
  isDecimal t || numberWords.contains (t.map Char.toLower)

def isReadable : Text → Bool
  | '+' :: rest => isNumber rest
  | t => Pattern.isUsable t

end LexerConsole.FieldValue
