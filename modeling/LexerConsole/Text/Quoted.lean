import LexerConsole.Text.Basic
import LexerConsole.Text.Extending
import LexerConsole.Text.Ignorable
import LexerConsole.Text.Invisible

/-!
# Quoted texts

A text inside a message stands between double quotes, on one line. The quote and
the backslash are written behind a backslash, four controls have a letter of their
own, and every other character that could not be read where it stands is written by
number: the invisible and the ignorable ones, and those that would change the look of
the one before.
-/

namespace LexerConsole.Text

/-- A character that is written by number. -/
def isUnshown (c : Char) : Bool :=
  isExtending c || isInvisible c || isIgnorable c

/-- An ASCII character that is no control. -/
def isPrintable (c : Char) : Bool :=
  0x20 ≤ c.toNat && c.toNat < 0x7F

/-- A character as it is written between quotes. -/
def quotedChar (c : Char) : Text :=
  if c = '"' then ['\\', '"']
  else if c = '\\' then ['\\', '\\']
  else if c = '\t' then ['\\', 't']
  else if c = '\n' then ['\\', 'n']
  else if c = '\r' then ['\\', 'r']
  else if c.toNat = 0 then ['\\', '0']
  else if isUnshown c then
    ['\\', 'u', '\x7b'] ++ hexadecimal c.toNat ++ ['\x7d']
  else [c]

def quoted (t : Text) : Text :=
  '"' :: (t.flatMap quotedChar ++ ['"'])

theorem isUnshown_eq_false_of_isPrintable {c : Char} (h : isPrintable c = true) :
    isUnshown c = false := by
  obtain ⟨lower, upper⟩ : 0x20 ≤ c.toNat ∧ c.toNat < 0x7F := by simpa [isPrintable] using h
  have extending : extendingRanges.covers c.toNat = false :=
    Ranges.covers_eq_false_of_lt areAscending_extendingRanges (by omega)
  have ignorable : ignorableRanges.covers c.toNat = false :=
    Ranges.covers_eq_false_of_lt areAscending_ignorableRanges (by omega)
  -- They lie between the first two ranges of invisible characters.
  have behind := Ranges.covers_eq_false_of_lt (n := c.toNat)
    (Ranges.areAscending_of_cons areAscending_invisibleRanges) (by omega)
  have invisible : invisibleRanges.covers c.toNat = false := by
    rw [invisibleRanges, Ranges.covers_cons, behind, Bool.or_false, Bool.and_eq_false_iff]
    exact Or.inr (decide_eq_false (Nat.not_le.2 (Nat.lt_of_lt_of_le (by decide) lower)))
  rw [isUnshown, isExtending, extending, isInvisible, invisible, isIgnorable, ignorable]
  rfl

theorem isUnshown_of_control {c : Char} (h : c.toNat < 0x20 ∨ c.toNat = 0x7F) :
    isUnshown c = true := by
  have invisible : invisibleRanges.covers c.toNat = true := by
    rw [Ranges.covers_iff]
    rcases h with low | high
    · exact ⟨(0x0, 0x1F), List.mem_cons_self, Nat.zero_le _, Nat.le_of_lt_succ low⟩
    · refine ⟨(0x7F, 0xA0), List.mem_cons_of_mem _ List.mem_cons_self, ?_, ?_⟩
      · exact Nat.le_of_eq high.symm
      · rw [high]
        decide
  rw [isUnshown, isInvisible, invisible, Bool.or_true, Bool.true_or]

end LexerConsole.Text
