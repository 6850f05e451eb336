import LexerConsole.Token.Keyword
import LexerConsole.Token.Symbol

/-!
# Kinds of tokens

A token is a word, a number, a symbol, a byte outside the alphabet, or the end
of the input. Words are keywords or identifiers. Each kind has one name, which
is what a listing shows.
-/

namespace LexerConsole

inductive Kind where
  | illegal
  | eof
  | ident
  | int
  | symbol (s : Symbol)
  | keyword (k : Keyword)
  deriving DecidableEq, Repr

namespace Kind

def all : List Kind :=
  [illegal, eof, ident, int] ++ Symbol.all.map symbol ++ Keyword.all.map keyword

def name : Kind → Text
  | illegal => "ILLEGAL".toList
  | eof => "EOF".toList
  | ident => "IDENT".toList
  | int => "INT".toList
  | symbol .assign => "ASSIGN".toList
  | symbol .plus => "PLUS".toList
  | symbol .minus => "MINUS".toList
  | symbol .asterisk => "ASTERISK".toList
  | symbol .slash => "SLASH".toList
  | symbol .bang => "BANG".toList
  | symbol .less => "LT".toList
  | symbol .greater => "GT".toList
  | symbol .equal => "EQ".toList
  | symbol .notEqual => "NOT_EQ".toList
  | symbol .comma => "COMMA".toList
  | symbol .semicolon => "SEMICOLON".toList
  | symbol .leftParen => "LPAREN".toList
  | symbol .rightParen => "RPAREN".toList
  | symbol .leftBrace => "LBRACE".toList
  | symbol .rightBrace => "RBRACE".toList
  | keyword .fnWord => "FUNCTION".toList
  | keyword .letWord => "LET".toList
  | keyword .trueWord => "TRUE".toList
  | keyword .falseWord => "FALSE".toList
  | keyword .ifWord => "IF".toList
  | keyword .elseWord => "ELSE".toList
  | keyword .returnWord => "RETURN".toList

/-- The kind with a given name. -/
def ofName? (n : Text) : Option Kind :=
  all.find? fun k => k.name = n

def isKeyword : Kind → Bool
  | keyword _ => true
  | _ => false

/-- Kinds whose tokens stand for a value by themselves. -/
def isLiteral : Kind → Bool
  | ident | int | keyword .trueWord | keyword .falseWord => true
  | _ => false

def isOperator : Kind → Bool
  | symbol s => s.isOperator
  | _ => false

/-- A whole word is a keyword when it spells one and an identifier otherwise. -/
def ofWord (word : Text) : Kind :=
  match Keyword.ofWord? word with
  | some k => keyword k
  | none => ident

theorem mem_all (k : Kind) : k ∈ all := by
  cases k with
  | illegal | eof | ident | int => decide
  | symbol s => cases s <;> decide
  | keyword k => cases k <;> decide

theorem ofName?_name (k : Kind) : ofName? k.name = some k := by
  have checked : ∀ k ∈ all, ofName? k.name = some k := by decide
  exact checked k (mem_all k)

theorem name_injective {a b : Kind} (h : a.name = b.name) : a = b := by
  have found := ofName?_name b
  rw [← h, ofName?_name a] at found
  exact Option.some.inj found

end Kind
end LexerConsole
