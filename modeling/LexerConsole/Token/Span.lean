/-!
# Spans

A half-open range of byte offsets. A span is plain data: it may be reversed or
reach past the input, and the operations that need more than that give no answer.
-/

namespace LexerConsole

structure Span where
  start : Nat
  stop : Nat
  deriving DecidableEq, Repr

namespace Span

/-- The number of bytes covered; a reversed span has no length. -/
def length? (s : Span) : Option Nat :=
  if s.start ≤ s.stop then some (s.stop - s.start) else none

def isEmpty (s : Span) : Bool :=
  s.start = s.stop

/-- The bytes covered, if the span is in order and within them. -/
def slice? (s : Span) (bytes : List UInt8) : Option (List UInt8) :=
  if s.start ≤ s.stop ∧ s.stop ≤ bytes.length then
    some ((bytes.drop s.start).take (s.stop - s.start))
  else none

/-- The span moved to the right. -/
def shift (n : Nat) (s : Span) : Span :=
  ⟨s.start + n, s.stop + n⟩

theorem slice?_append (before middle after : List UInt8) :
    slice? ⟨before.length, before.length + middle.length⟩ (before ++ middle ++ after) =
      some middle := by
  have inside : before.length ≤ before.length + middle.length ∧
      before.length + middle.length ≤ (before ++ middle ++ after).length := by
    simp
  have width : before.length + middle.length - before.length = middle.length := by omega
  rw [slice?, if_pos inside, width, List.append_assoc, List.drop_left, List.take_left]

end Span
end LexerConsole
