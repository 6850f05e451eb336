import LexerConsole.Proofs.LogLines

/-!
# Complaints about illegal tokens

The text of an illegal token may hold anything, the rest of a complaint included. It is quoted, and
a quoted text can be read back: a backslash is met only where an escape begins, the escape is over
where its letter or its number says so, and the first bare quote is the closing one
(`readQuoted?_append`). So a complaint tells its token and its place, no two complaints are alike,
and every character of one is shown on a single line.
-/

namespace LexerConsole

namespace Text

/-- What is open at some place between quotes. -/
inductive Escape where
  | closed
  | backslash
  /-- In front of the brace that opens a number. -/
  | brace
  /-- Inside the braces, behind digits of this value. -/
  | number (value : Nat)
  deriving DecidableEq, Repr

def ofLetter? : Char → Option Char
  | '"' => some '"'
  | '\\' => some '\\'
  | 't' => some '\t'
  | 'n' => some '\n'
  | 'r' => some '\r'
  | '0' => some '\x00'
  | _ => none

def ofDigit? (c : Char) : Option Nat :=
  (List.range 16).find? fun d => d.digitChar = c

/-- The first of two parts with a character put in front of it. -/
def putFront (c : Char) (parts : Text × Text) : Text × Text :=
  (c :: parts.1, parts.2)

/-- The text up to the closing quote, and what stands behind the quote. -/
def readFrom? : Escape → Text → Option (Text × Text)
  | _, [] => none
  | .closed, c :: rest =>
    if c = '"' then some ([], rest)
    else if c = '\\' then readFrom? .backslash rest
    else (readFrom? .closed rest).map (putFront c)
  | .backslash, c :: rest =>
    if c = 'u' then readFrom? .brace rest
    else (ofLetter? c).bind fun d => (readFrom? .closed rest).map (putFront d)
  | .brace, c :: rest => if c = '\x7b' then readFrom? (.number 0) rest else none
  | .number value, c :: rest =>
    if c = '\x7d' then (readFrom? .closed rest).map (putFront (Char.ofNat value))
    else (ofDigit? c).bind fun d => readFrom? (.number (16 * value + d)) rest

def readQuoted? : Text → Option (Text × Text)
  | [] => none
  | c :: rest => if c = '"' then readFrom? .closed rest else none

def lineEnds : List Char :=
  ['\n', '\x0b', '\x0c', '\r', '\x85', '\u2028', '\u2029']

theorem isUnshown_of_mem_lineEnds {c : Char} (h : c ∈ lineEnds) : isUnshown c = true := by
  have checked : lineEnds.all isInvisible = true := by decide +kernel
  rw [isUnshown, List.all_eq_true.1 checked c h, Bool.or_true, Bool.true_or]

theorem ofDigit?_digitChar {d : Nat} (h : d < 16) : ofDigit? d.digitChar = some d := by
  have checked : ∀ d < 16, ofDigit? d.digitChar = some d := by decide
  exact checked d h

theorem readFrom?_digit {d : Nat} (h : d < 16) (value : Nat) (rest : Text) :
    readFrom? (.number value) (d.digitChar :: rest) = readFrom? (.number (16 * value + d)) rest := by
  have other : d.digitChar ≠ '\x7d' := by simp
  rw [readFrom?, if_neg other, ofDigit?_digitChar h]
  rfl

/-- The digits of a number lead to its value. -/
theorem readFrom?_hexadecimal (n : Nat) (rest : Text) :
    readFrom? (.number 0) (hexadecimal n ++ rest) = readFrom? (.number n) rest := by
  rw [hexadecimal]
  induction n using Nat.base_induction 16 (by decide) generalizing rest with
  | single m hm =>
    rw [Nat.toDigits_of_lt_base hm, List.singleton_append, readFrom?_digit hm, Nat.mul_zero,
      Nat.zero_add]
  | digit m k hk hm ih =>
    rw [← Nat.toDigits_append_toDigits (by decide) hm hk, List.append_assoc, ih,
      Nat.toDigits_of_lt_base hk, List.singleton_append, readFrom?_digit hk]

/-- What is written for a character is read as that character. -/
theorem readFrom?_quotedChar (c : Char) (rest : Text) :
    readFrom? .closed (quotedChar c ++ rest) = (readFrom? .closed rest).map (putFront c) := by
  unfold quotedChar
  split_ifs with quote backslash tab lineFeed carriage nul unshown
  · rw [quote]
    rfl
  · rw [backslash]
    rfl
  · rw [tab]
    rfl
  · rw [lineFeed]
    rfl
  · rw [carriage]
    rfl
  · obtain rfl : c = '\x00' := Char.toNat_inj.1 nul
    rfl
  · -- Behind the backslash, the letter and the brace the number begins with nothing read of it.
    rw [List.append_assoc, List.append_assoc]
    show readFrom? (.number 0) (hexadecimal c.toNat ++ '\x7d' :: rest) = _
    rw [readFrom?_hexadecimal, readFrom?, if_pos rfl, Char.ofNat_toNat]
  · rw [List.singleton_append, readFrom?, if_neg quote, if_neg backslash]

/-- A quoted text ends at its own closing quote, whatever stands in it and behind it. -/
theorem readQuoted?_append (t rest : Text) : readQuoted? (t.quoted ++ rest) = some (t, rest) := by
  show readFrom? .closed (t.flatMap quotedChar ++ ['"'] ++ rest) = some (t, rest)
  induction t with
  | nil => rfl
  | cons c t ih =>
    rw [List.flatMap_cons, List.append_assoc, List.append_assoc, readFrom?_quotedChar,
      ← List.append_assoc, ih]
    rfl

end Text

namespace Fault

def readIllegalToken? (message : Text) : Option (Text × Nat) := do
  let behind ← "illegal token ".toList.isPrefixOf? message
  let (text, rest) ← Text.readQuoted? behind
  let digits ← " at byte ".toList.isPrefixOf? rest
  return (text, Nat.ofDigitChars 10 digits 0)

theorem readIllegalToken?_message (text : Text) (offset : Nat) :
    readIllegalToken? (illegalToken text offset).message = some (text, offset) := by
  have split : "illegal token ".toList ++ (text.quoted ++ (" at byte ".toList ++
      Text.decimal offset)) = (illegalToken text offset).message := by
    rw [← List.append_assoc, ← List.append_assoc]
    rfl
  have opening := List.isPrefixOf?_eq_some_iff_append_eq.2 split
  have place : " at byte ".toList.isPrefixOf? (" at byte ".toList ++ Text.decimal offset) =
      some (Text.decimal offset) :=
    List.isPrefixOf?_eq_some_iff_append_eq.2 rfl
  have number : Nat.ofDigitChars 10 (Text.decimal offset) 0 = offset :=
    Nat.ofDigitChars_ten_toDigits
  simp only [readIllegalToken?, opening, Text.readQuoted?_append, place, number,
    Option.bind_eq_bind, Option.bind_some]
  rfl

/-- What the complaint about an illegal token tells, and how it is written. -/
structure Unmistakable (text : Text) (offset : Nat) : Prop where
  read : readIllegalToken? (illegalToken text offset).message = some (text, offset)
  distinct : ∀ other place, (illegalToken other place).message = (illegalToken text offset).message →
    other = text ∧ place = offset
  oneLine : ∀ c ∈ (illegalToken text offset).message, c ∉ Text.lineEnds
  noControl : ∀ c ∈ (illegalToken text offset).message, 0x20 ≤ c.toNat ∧ c.toNat ≠ 0x7F

/-- A complaint tells the illegal token and its place, even where the token imitates a complaint. -/
theorem unmistakable (text : Text) (offset : Nat) : Unmistakable text offset := by
  constructor
  · exact readIllegalToken?_message text offset
  · intro other place same
    have there := readIllegalToken?_message other place
    rw [same, readIllegalToken?_message] at there
    obtain ⟨rfl, rfl⟩ := Prod.mk.inj (Option.some.inj there)
    exact ⟨rfl, rfl⟩
  · intro c member ends
    have shown := isUnshown_eq_false_of_mem_illegalToken c member
    rw [Text.isUnshown_of_mem_lineEnds ends] at shown
    cases shown
  · intro c member
    have shown := isUnshown_eq_false_of_mem_illegalToken c member
    by_contra control
    rw [Text.isUnshown_of_control (by omega)] at shown
    cases shown

example : (illegalToken "\" at byte 7".toList 3).message =
    "illegal token \"\\\" at byte 7\" at byte 3".toList := by decide +kernel

end Fault
end LexerConsole
