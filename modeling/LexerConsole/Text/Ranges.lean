/-!
# Ranges of code points

A set of characters given as closed ranges of code points, first and last. The
ranges of a table ascend and leave room between each other, so that every set has
one table.
-/

namespace LexerConsole

abbrev Ranges := List (Nat × Nat)

namespace Ranges

/-- Whether a code point lies in one of the ranges. -/
def covers (ranges : Ranges) (n : Nat) : Bool :=
  ranges.any fun range => range.1 ≤ n && n ≤ range.2

def areAscending : Ranges → Bool
  | [] => true
  | [range] => range.1 ≤ range.2
  | range :: next :: rest =>
    range.1 ≤ range.2 && range.2 + 1 < next.1 && areAscending (next :: rest)

theorem covers_iff (ranges : Ranges) (n : Nat) :
    ranges.covers n = true ↔ ∃ range ∈ ranges, range.1 ≤ n ∧ n ≤ range.2 := by
  simp [covers]

theorem covers_cons (range : Nat × Nat) (rest : Ranges) (n : Nat) :
    covers (range :: rest) n =
      (decide (range.1 ≤ n) && decide (n ≤ range.2) || covers rest n) :=
  List.any_cons

section Ascending

variable {range : Nat × Nat} {rest : Ranges} {n : Nat}

theorem areAscending_of_cons (h : areAscending (range :: rest) = true) :
    areAscending rest = true := by
  cases rest with
  | nil => rfl
  | cons next rest =>
    rw [areAscending, Bool.and_eq_true] at h
    exact h.2

/-- The ranges of a table cover nothing in front of the first. -/
theorem covers_eq_false_of_lt (h : areAscending (range :: rest) = true) (hn : n < range.1) :
    covers (range :: rest) n = false := by
  induction rest generalizing range with
  | nil => rw [covers_cons, decide_eq_false (Nat.not_le.2 hn), Bool.false_and, Bool.false_or]; rfl
  | cons next rest ih =>
    have later := areAscending_of_cons h
    simp only [areAscending, Bool.and_eq_true, decide_eq_true_eq] at h
    rw [covers_cons, decide_eq_false (Nat.not_le.2 hn), Bool.false_and, Bool.false_or]
    exact ih later (by omega)

end Ascending

end Ranges
end LexerConsole
