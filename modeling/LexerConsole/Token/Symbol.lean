import LexerConsole.Text.Basic

/-!
# Symbols

Operators and delimiters. All but two are written with one byte; these two are
other operators with an equals sign behind them.
-/

namespace LexerConsole

inductive Symbol where
  | assign
  | plus
  | minus
  | asterisk
  | slash
  | bang
  | less
  | greater
  | equal
  | notEqual
  | comma
  | semicolon
  | leftParen
  | rightParen
  | leftBrace
  | rightBrace
  deriving DecidableEq, Repr

namespace Symbol

def all : List Symbol :=
  [assign, plus, minus, asterisk, slash, bang, less, greater, equal, notEqual, comma, semicolon,
    leftParen, rightParen, leftBrace, rightBrace]

def spelling : Symbol → Text
  | assign => ['=']
  | plus => ['+']
  | minus => ['-']
  | asterisk => ['*']
  | slash => ['/']
  | bang => ['!']
  | less => ['<']
  | greater => ['>']
  | equal => ['=', '=']
  | notEqual => ['!', '=']
  | comma => [',']
  | semicolon => [';']
  | leftParen => ['(']
  | rightParen => [')']
  | leftBrace => ['{']
  | rightBrace => ['}']

def bytes (s : Symbol) : List UInt8 :=
  s.spelling.map fun c => c.toNat.toUInt8

/-- Symbols that stand between or before operands; the others separate or group. -/
def isOperator : Symbol → Bool
  | assign | plus | minus | asterisk | slash | bang | less | greater | equal | notEqual => true
  | comma | semicolon | leftParen | rightParen | leftBrace | rightBrace => false

def isBracket : Symbol → Bool
  | leftParen | rightParen | leftBrace | rightBrace => true
  | _ => false

/-- The symbol that is written with a single byte. -/
def ofByte? (b : UInt8) : Option Symbol :=
  all.find? fun s => s.bytes = [b]

/-- The symbol that this one becomes with an equals sign behind it. -/
def withEquals? : Symbol → Option Symbol
  | assign => some equal
  | bang => some notEqual
  | _ => none

theorem mem_all (s : Symbol) : s ∈ all := by
  cases s <;> decide

theorem utf8_spelling (s : Symbol) : s.spelling.utf8 = s.bytes := by
  cases s <;> decide

theorem bytes_ne_nil (s : Symbol) : s.bytes ≠ [] := by
  cases s <;> decide

theorem bytes_injective {s t : Symbol} (h : s.bytes = t.bytes) : s = t := by
  have checked : ∀ s ∈ all, ∀ t ∈ all, s.bytes = t.bytes → s = t := by decide
  exact checked s (mem_all s) t (mem_all t) h

theorem ofByte?_eq_some_iff {b : UInt8} {s : Symbol} : ofByte? b = some s ↔ s.bytes = [b] := by
  constructor
  · intro h
    simpa using List.find?_some h
  · intro h
    obtain ⟨t, ht⟩ : ∃ t, ofByte? b = some t :=
      Option.isSome_iff_exists.1 (List.find?_isSome.2 ⟨s, mem_all s, by simpa using h⟩)
    have written : t.bytes = [b] := by simpa using List.find?_some ht
    rw [ht, bytes_injective (written.trans h.symm)]

theorem ofByte?_eq_none_iff {b : UInt8} : ofByte? b = none ↔ ∀ s : Symbol, s.bytes ≠ [b] := by
  simp [ofByte?, mem_all]

theorem bytes_of_withEquals? {s t : Symbol} (h : s.withEquals? = some t) :
    t.bytes = s.bytes ++ [0x3D] := by
  have checked : ∀ s ∈ all, ∀ t ∈ s.withEquals?, t.bytes = s.bytes ++ [0x3D] := by decide
  exact checked s (mem_all s) t h

theorem withEquals?_of_withEquals? {s t : Symbol} (h : s.withEquals? = some t) :
    t.withEquals? = none := by
  have checked : ∀ s ∈ all, ∀ t ∈ s.withEquals?, t.withEquals? = none := by decide
  exact checked s (mem_all s) t h

/-- A symbol is one byte, or another symbol that is one byte with an equals sign behind it. -/
theorem bytes_cases (s : Symbol) :
    (∃ b, s.bytes = [b]) ∨
      ∃ (t : Symbol) (b : UInt8), t.withEquals? = some s ∧ t.bytes = [b] ∧ s.bytes = [b, 0x3D] := by
  cases s with
  | equal => exact Or.inr ⟨assign, 0x3D, rfl, by decide, by decide⟩
  | notEqual => exact Or.inr ⟨bang, 0x21, rfl, by decide, by decide⟩
  | _ => exact Or.inl ⟨_, rfl⟩

theorem ascii_of_mem_bytes {s : Symbol} {b : UInt8} (h : b ∈ s.bytes) : b < 0x80 := by
  have checked : ∀ s ∈ all, s.bytes.all (· < 0x80) := by decide
  simpa using List.all_eq_true.1 (checked s (mem_all s)) b h

end Symbol
end LexerConsole
