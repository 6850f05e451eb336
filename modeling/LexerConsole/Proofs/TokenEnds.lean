import LexerConsole.Proofs.Highlighting

/-!
# Ends of tokens and of characters

An offset of a text is rounded up to the least boundary that is not in front of it, or to the end
of the text where there is none. `RoundsUp` says what this comes to for offsets between characters,
inside of one and past the end, and that a search from the offset on would stop there.

The scanner counts bytes, so a token may end inside a character. Only a byte of a character beyond
ASCII does, and rounding its end up gives the end of that character. The end of every other token
is a boundary and stays where it is.
-/

namespace LexerConsole

namespace Text

/-- What an offset of a text is rounded up to. -/
structure RoundsUp (t : Text) (offset up : Nat) : Prop where
  boundary : t.IsBoundary up
  within : up ≤ t.byteLength
  least : offset ≤ t.byteLength →
    offset ≤ up ∧ ∀ n, t.IsBoundary n → offset ≤ n → up ≤ n
  kept : t.IsBoundary offset → up = offset
  /-- An offset inside a character goes to the end of that character. -/
  inside : offset ≤ t.byteLength → ¬ t.IsBoundary offset → ∃ before c after,
    t = before ++ c :: after ∧ byteLength before < offset ∧
      offset < byteLength before + c.utf8Size ∧ up = byteLength before + c.utf8Size
  past : t.byteLength < offset → up = t.byteLength
  searched : ((List.range' offset (t.byteLength - offset)).find? fun n =>
    decide (t.IsBoundary n)).getD t.byteLength = up

/-- A search that looks at no offset from the end on falls back to the end. -/
theorem find?_isBoundary (t : Text) (n : Nat) :
    ((List.range' n (t.byteLength - n)).find? fun i => decide (t.IsBoundary i)).getD t.byteLength =
      t.nextBoundary n := by
  have boundary := isBoundary_nextBoundary t n
  have passed : ∀ i, n ≤ i → i < t.nextBoundary n → (!decide (t.IsBoundary i)) = true := by
    intro i lower upper
    rw [decide_eq_false (not_isBoundary_of_lt_nextBoundary lower upper), Bool.not_false]
  rcases Nat.lt_or_eq_of_le boundary.le_byteLength with ahead | last
  · have within : n < t.byteLength := by
      by_contra past
      rw [nextBoundary_of_le (Nat.not_lt.1 past)] at ahead
      exact Nat.lt_irrefl _ ahead
    have reached := le_nextBoundary (Nat.le_of_lt within)
    have member : t.nextBoundary n ∈ List.range' n (t.byteLength - n) :=
      List.mem_range'_1.2 ⟨reached, by omega⟩
    rw [List.find?_range'_eq_some.2 ⟨decide_eq_true boundary, member, passed⟩, Option.getD_some]
  · have nothing := List.find?_range'_eq_none.2 fun i lower (upper : i < n + (t.byteLength - n)) =>
      passed i lower (by omega)
    rw [nothing, Option.getD_none, last]

theorem roundsUp_nextBoundary (t : Text) (n : Nat) : t.RoundsUp n (t.nextBoundary n) := by
  have boundary := isBoundary_nextBoundary t n
  constructor
  · exact boundary
  · exact boundary.le_byteLength
  · intro within
    exact ⟨le_nextBoundary within, fun m other lower => nextBoundary_le other lower⟩
  · exact IsBoundary.nextBoundary_eq
  · intro within other
    obtain ⟨before, c, after, rfl, lower, upper⟩ := isInside_of_not_isBoundary within other
    exact ⟨before, c, after, rfl, lower, upper, nextBoundary_inside lower (Nat.le_of_lt upper)⟩
  · intro past
    exact nextBoundary_of_le (Nat.le_of_lt past)
  · exact find?_isBoundary t n

theorem one_lt_utf8Size {c : Char} (h : ¬ c.toNat < 0x80) : 1 < c.utf8Size := by
  have long := one_lt_length_utf8EncodeChar h
  rwa [String.length_utf8EncodeChar] at long

end Text

/-- An illegal byte of a longer character `c`, which stands behind `before`. -/
structure Token.IsByteOf (t : Token) (line before : Text) (c : Char) : Prop where
  stands : ∃ after, line = before ++ c :: after
  longer : 1 < c.utf8Size
  illegal : t.isIllegal
  lower : before.byteLength ≤ t.span.start
  upper : t.span.start < before.byteLength + c.utf8Size

namespace Highlight

/-- A token of parts side by side is a token of one of them, at the place where it stands. -/
theorem exists_of_mem_tokensFrom {t : Token} {offset : Nat} {parts : List Part}
    (h : t ∈ Part.tokensFrom offset parts) : ∃ front p back, parts = front ++ p :: back ∧
      t ∈ p.tokens (offset + Text.byteLength (front.flatMap Part.source)) := by
  induction parts generalizing offset with
  | nil => exact absurd h List.not_mem_nil
  | cons p parts ih =>
    rcases List.mem_append.1 h with here | later
    · exact ⟨[], p, parts, rfl, here⟩
    · obtain ⟨front, q, back, rfl, member⟩ := ih later
      refine ⟨p :: front, q, back, rfl, ?_⟩
      rwa [List.flatMap_cons, Text.byteLength_append, ← Nat.add_assoc]

/-- Blanks have no token, a lexeme ends where its token does, and the bytes of a character beyond
ASCII have a token each. -/
theorem Part.isBoundary_or_isByteOf {t : Token} {p : Part} (before after : Text)
    (h : t ∈ p.tokens before.byteLength) :
    Text.IsBoundary (before ++ p.source ++ after) t.span.stop ∨
      ∃ c, t.IsByteOf (before ++ p.source ++ after) before c := by
  cases p with
  | blank c blank => exact absurd h List.not_mem_nil
  | lexeme kind text ascii whole =>
    obtain rfl := List.mem_singleton.1 h
    exact Or.inl ⟨before ++ text, after, rfl, Text.byteLength_append before text⟩
  | foreign c beyond =>
    obtain ⟨i, hi, rfl⟩ := List.mem_map.1 h
    obtain ⟨lower, upper⟩ := List.mem_range'_1.1 hi
    refine Or.inr ⟨c, ⟨after, ?_⟩, Text.one_lt_utf8Size beyond, rfl, lower, upper⟩
    rw [Part.source, List.append_assoc, List.singleton_append]

end Highlight

section Line

variable {line : Text} {t : Token}

theorem isBoundary_or_isByteOf (h : t ∈ tokenize line) :
    line.IsBoundary t.span.stop ∨ ∃ before c, t.IsByteOf line before c := by
  obtain ⟨parts, split, lexes⟩ := Highlight.exists_parts line 0
  rw [(lexes_tokenize line).unique lexes] at h
  rcases List.mem_append.1 h with body | closing
  · obtain ⟨front, p, back, rfl, member⟩ := Highlight.exists_of_mem_tokensFrom body
    rw [Nat.zero_add] at member
    have ends := p.isBoundary_or_isByteOf (front.flatMap Highlight.Part.source)
      (back.flatMap Highlight.Part.source) member
    rw [List.flatMap_append, List.flatMap_cons, ← List.append_assoc] at split
    rw [← split] at ends
    exact ends.imp_right fun ⟨c, byte⟩ => ⟨_, c, byte⟩
  · obtain rfl := List.mem_singleton.1 closing
    left
    simpa [Token.eof] using line.isBoundary_byteLength

/-- The end of an illegal byte of a longer character is inside of the character or at its end. -/
theorem Token.IsByteOf.nextBoundary_eq {before : Text} {c : Char} (h : t.IsByteOf line before c)
    (member : t ∈ tokenize line) :
    line.nextBoundary t.span.stop = before.byteLength + c.utf8Size := by
  obtain ⟨⟨after, rfl⟩, -, illegal, lower, upper⟩ := h
  obtain ⟨i, b, -, -, rfl⟩ := mem_tokenize_illegal_iff.1 ⟨member, illegal⟩
  exact Text.nextBoundary_inside (Nat.lt_succ_of_le lower) (Nat.succ_le_of_lt upper)

end Line

/-- How offsets of a line are rounded up, and the ends of its tokens among them. -/
structure RoundsEnds (line : Text) : Prop where
  roundsUp : ∀ offset, line.RoundsUp offset (line.nextBoundary offset)
  kept : ∀ t ∈ tokenize line, (¬ ∃ before c, t.IsByteOf line before c) →
    line.nextBoundary t.span.stop = t.span.stop
  completed : ∀ t ∈ tokenize line, ∀ before c, t.IsByteOf line before c →
    line.nextBoundary t.span.stop = before.byteLength + c.utf8Size

/-- The end of a token is moved only to complete a character of which the token is a byte. -/
theorem roundsEnds (line : Text) : RoundsEnds line := by
  constructor
  · exact line.roundsUp_nextBoundary
  · intro t member other
    exact ((isBoundary_or_isByteOf member).resolve_right other).nextBoundary_eq
  · intro t member before c byte
    exact byte.nextBoundary_eq member

example : (tokenize "a é".toList).map (fun t => Text.nextBoundary "a é".toList t.span.stop) =
    [1, 4, 4, 4] := by decide +kernel

end LexerConsole
