import LexerConsole.Text.Basic

/-!
# Texts without controls

A channel that is no terminal gets a text without its controls and without the
sequences that an escape character begins. A sequence has a form of its own: it is
two or more characters up to a final one, or a string up to its terminator. A line
break inside a sequence is kept, and from there on the text is shown again up to
the next control; only then does what was left open go on.
-/

namespace LexerConsole.Text

def isBreak (c : Char) : Bool :=
  c = '\t' || c = '\n' || c = '\x0c' || c = '\r'

/-- A character that is shown where no sequence is open. The ASCII controls are not,
except for the breaks; every character beyond ASCII is. -/
def isLegible (c : Char) : Bool :=
  isBreak c || (0x20 ≤ c.toNat && c.toNat ≠ 0x7F)

/-- What is open at some place of a text. -/
inductive Sequence where
  | closed
  | escape
  /-- Behind an escape character and characters that select a set. -/
  | selection
  | control
  /-- The head of a device string. -/
  | head
  | headNumbers
  | headSelection
  /-- A string that ends with the byte 9C. -/
  | string
  /-- A command to the system, which ends with the bell. -/
  | command
  deriving DecidableEq, Repr

namespace Sequence

def between (low : Nat) (c : Char) (high : Nat) : Bool :=
  low ≤ c.toNat && c.toNat ≤ high

/-- What is open behind a character that is not shown. -/
def after (s : Sequence) (c : Char) : Sequence :=
  if c = '\x1b' then escape
  else if c = '\x18' || c = '\x1a' then closed
  else match s with
    | closed => closed
    | escape =>
      if between 0x20 c 0x2F then selection
      else if c = '[' then control
      else if c = ']' then command
      else if c = 'P' then head
      else if c = 'X' || c = '^' || c = '_' then string
      else if between 0x30 c 0x7E then closed
      else escape
    | selection => if between 0x30 c 0x7E then closed else selection
    | control => if between 0x40 c 0x7E then closed else control
    | head =>
      if between 0x20 c 0x2F then headSelection
      else if between 0x30 c 0x3F then headNumbers
      else if between 0x40 c 0x7E then string
      else head
    | headNumbers =>
      if between 0x20 c 0x2F then headSelection
      else if between 0x3C c 0x7E then string
      else headNumbers
    | headSelection => if between 0x30 c 0x7E then string else headSelection
    | string => if (String.utf8EncodeChar c).contains 0x9C then closed else string
    | command => if c = '\x07' then closed else command

def shows (s : Sequence) (c : Char) : Bool :=
  match s with
  | closed => isLegible c
  | escape | selection | control => isBreak c
  | head | headNumbers | headSelection | string | command => false

/-- The same where the character before may have been shown: showing goes on up to the
next control. -/
def showsBehind (s : Sequence) (showing : Bool) (c : Char) : Bool :=
  if showing then isLegible c else s.shows c

end Sequence

/-- The part of a text that is shown. `showing` says that the character before it was
shown, and `s` is what is open, or was left open when showing began. -/
def legibleFrom (s : Sequence) (showing : Bool) : Text → Text
  | [] => []
  | c :: rest =>
    if s.showsBehind showing c then
      c :: legibleFrom (if c.toNat < 0x80 then s else .closed) true rest
    else legibleFrom (s.after c) false rest

def withoutControls (t : Text) : Text :=
  legibleFrom .closed false t

theorem isLegible_of_showsBehind {s : Sequence} {showing : Bool} {c : Char}
    (h : s.showsBehind showing c = true) : isLegible c = true := by
  cases showing with
  | true => exact h
  | false => cases s <;> simp_all [Sequence.showsBehind, Sequence.shows, isLegible]

theorem isLegible_of_mem_legibleFrom {s : Sequence} {showing : Bool} {t : Text} :
    ∀ c ∈ legibleFrom s showing t, isLegible c = true := by
  induction t generalizing s showing with
  | nil => simp [legibleFrom]
  | cons d rest ih =>
    intro c member
    by_cases shown : s.showsBehind showing d = true
    · rw [legibleFrom, if_pos shown] at member
      rcases List.mem_cons.1 member with rfl | later
      · exact isLegible_of_showsBehind shown
      · exact ih c later
    · rw [legibleFrom, if_neg shown] at member
      exact ih c member

theorem legibleFrom_of_legible {showing : Bool} {t : Text}
    (h : ∀ c ∈ t, isLegible c = true) : legibleFrom .closed showing t = t := by
  induction t generalizing showing with
  | nil => rfl
  | cons c rest ih =>
    have first : isLegible c = true := h c List.mem_cons_self
    have shown : Sequence.closed.showsBehind showing c = true := by
      cases showing <;> exact first
    have others := fun d member => h d (List.mem_cons_of_mem c member)
    rw [legibleFrom, if_pos shown, ite_self, ih others]

theorem isLegible_of_mem_withoutControls {t : Text} :
    ∀ c ∈ t.withoutControls, isLegible c = true :=
  isLegible_of_mem_legibleFrom

theorem withoutControls_of_legible {t : Text} (h : ∀ c ∈ t, isLegible c = true) :
    t.withoutControls = t :=
  legibleFrom_of_legible h

end LexerConsole.Text
