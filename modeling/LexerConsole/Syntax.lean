import LexerConsole.Scan.Pull

/-!
# Shapes of syntax

The shapes that a first reader of programs needs: a program is a list of
statements, a statement binds a name, and an expression is an identifier. Every
node keeps the token that it was built from, and its literal is the text of that
token.

The shapes are plain data, and nothing here reads a grammar. Whoever uses them puts
them together from the tokens of a scanner and changes them through their fields.
`LetStatement.draft` is the way in which this is done for a statement: it takes the
tokens as they come and does not check that they make sense together.
`Statement.ofText` and `Program.ofTexts` do so for whole texts. The operations on a
program are those of its list of statements, and `rename` writes to the field that
spells a bound name.
-/

namespace LexerConsole

structure Identifier where
  token : Token
  name : Text
  deriving DecidableEq, Repr

namespace Identifier

def ofToken (t : Token) : Identifier :=
  ⟨t, t.text⟩

def literal (i : Identifier) : Text :=
  i.token.text

end Identifier

inductive Expression where
  | identifier (i : Identifier)
  deriving DecidableEq, Repr

def Expression.literal : Expression → Text
  | .identifier i => i.literal

structure LetStatement where
  token : Token
  name : Identifier
  /-- The bound value, absent when there was nothing left to read. -/
  value : Option Expression
  deriving DecidableEq, Repr

namespace LetStatement

def literal (s : LetStatement) : Text :=
  s.token.text

/-- Build a statement from the next tokens: its own, the name, one that is dropped,
and the value if there is a token before the end. -/
def draft (scanner : Scanner) : LetStatement :=
  let (token, scanner) := scanner.next
  let (name, scanner) := scanner.next
  let (_, scanner) := scanner.next
  let (value, _) := scanner.draw
  ⟨token, .ofToken name, value.map fun t => .identifier (.ofToken t)⟩

/-- Give the bound name another spelling; its token stays. -/
def rename (spelling : Text) (s : LetStatement) : LetStatement :=
  { s with name := { s.name with name := spelling } }

end LetStatement

inductive Statement where
  | letBinding (s : LetStatement)
  deriving DecidableEq, Repr

namespace Statement

def literal : Statement → Text
  | letBinding s => s.literal

def ofText (source : Text) : Statement :=
  letBinding (.draft (.ofText source))

def rename (spelling : Text) : Statement → Statement
  | letBinding s => letBinding (s.rename spelling)

end Statement

structure Program where
  statements : List Statement
  deriving DecidableEq, Repr

namespace Program

def empty : Program :=
  ⟨[]⟩

/-- The literal of the first statement; empty for an empty program. -/
def literal (p : Program) : Text :=
  match p.statements with
  | [] => []
  | s :: _ => s.literal

def push (s : Statement) (p : Program) : Program :=
  ⟨p.statements ++ [s]⟩

/-- Insert before position `i`, or at the end when there is no such position. -/
def insert (i : Nat) (s : Statement) (p : Program) : Program :=
  ⟨p.statements.take i ++ s :: p.statements.drop i⟩

def get? (i : Nat) (p : Program) : Option Statement :=
  p.statements[i]?

def remove (i : Nat) (p : Program) : Program :=
  ⟨p.statements.eraseIdx i⟩

def rename (i : Nat) (spelling : Text) (p : Program) : Program :=
  ⟨p.statements.modify i (Statement.rename spelling)⟩

def ofTexts (sources : List Text) : Program :=
  ⟨sources.map .ofText⟩

end Program
end LexerConsole
