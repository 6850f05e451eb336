import LexerConsole.Text.Basic

/-!
# Cuts at byte offsets

A text can be cut at a byte offset only between two characters. Cutting anywhere
else, or past the end, gives no result; the callers of the library see that as
the absence of an answer and never as a wrong piece. Any offset can be rounded up,
to the least boundary that is not in front of it.
-/

namespace LexerConsole.Text

/-- The parts before and after a byte offset, if the offset is a boundary. -/
def cut? : Text → Nat → Option (Text × Text)
  | t, 0 => some ([], t)
  | [], _ + 1 => none
  | c :: rest, n + 1 =>
    if c.utf8Size ≤ n + 1 then
      (cut? rest (n + 1 - c.utf8Size)).map fun parts => (c :: parts.1, parts.2)
    else none

/-- An offset between two characters, or at either end. -/
def IsBoundary (t : Text) (n : Nat) : Prop :=
  ∃ before after, t = before ++ after ∧ before.byteLength = n

/-- An offset behind the first byte of a character and before its end. -/
def IsInside (t : Text) (n : Nat) : Prop :=
  ∃ before c after, t = before ++ c :: after ∧ byteLength before < n ∧
    n < byteLength before + c.utf8Size

/-- The part between two byte offsets, if both are boundaries in this order. -/
def slice? (t : Text) (start stop : Nat) : Option Text :=
  if start ≤ stop then do
    let (_, rest) ← t.cut? start
    let (part, _) ← cut? rest (stop - start)
    return part
  else none

/-- The least boundary at or after a byte offset; the end of the text when the
offset lies past it. -/
def nextBoundary : Text → Nat → Nat
  | _, 0 => 0
  | [], _ + 1 => 0
  | c :: rest, n + 1 => c.utf8Size + nextBoundary rest (n + 1 - c.utf8Size)

theorem append_of_cut? {t : Text} {n : Nat} {parts : Text × Text} (h : t.cut? n = some parts) :
    t = parts.1 ++ parts.2 ∧ byteLength parts.1 = n := by
  fun_induction cut? t n generalizing parts with
  | case1 t =>
    obtain rfl := Option.some.inj h
    exact ⟨rfl, rfl⟩
  | case2 => simp at h
  | case3 c rest n fits ih =>
    obtain ⟨inner, found, rfl⟩ := Option.map_eq_some_iff.1 h
    obtain ⟨same, size⟩ := ih found
    refine ⟨by simp [← same], ?_⟩
    simp only [byteLength] at size ⊢
    omega
  | case4 => simp at h

theorem cut?_append (before after : Text) :
    cut? (before ++ after) before.byteLength = some (before, after) := by
  induction before with
  | nil => simp [byteLength, cut?]
  | cons c before ih =>
    have positive := c.utf8Size_pos
    obtain ⟨n, hn⟩ : ∃ n, byteLength (c :: before) = n + 1 :=
      ⟨byteLength (c :: before) - 1, by rw [byteLength]; omega⟩
    have rest : n + 1 - c.utf8Size = byteLength before := by
      rw [← hn]
      simp [byteLength]
    have fits : c.utf8Size ≤ n + 1 := by
      rw [← hn]
      simp [byteLength]
    rw [hn, List.cons_append, cut?, if_pos fits, rest, ih]
    rfl

/-- What stands between two other parts is cut out between their ends. -/
theorem slice?_append (before middle after : Text) :
    slice? (before ++ middle ++ after) before.byteLength (before.byteLength + middle.byteLength) =
      some middle := by
  have width : before.byteLength + middle.byteLength - before.byteLength = middle.byteLength := by
    omega
  simp only [slice?, if_pos (Nat.le_add_right _ _), List.append_assoc, cut?_append, width,
    Option.bind_eq_bind, Option.bind_some]
  rfl

theorem isBoundary_iff_cut? (t : Text) (n : Nat) : t.IsBoundary n ↔ (t.cut? n).isSome := by
  constructor
  · rintro ⟨before, after, rfl, rfl⟩
    simp [cut?_append]
  · intro h
    obtain ⟨parts, found⟩ := Option.isSome_iff_exists.1 h
    obtain ⟨same, size⟩ := append_of_cut? found
    exact ⟨parts.1, parts.2, same, size⟩

instance (t : Text) (n : Nat) : Decidable (t.IsBoundary n) :=
  decidable_of_iff _ (isBoundary_iff_cut? t n).symm

theorem isInside_cons_iff {c : Char} {rest : Text} {n : Nat} (h : c.utf8Size ≤ n) :
    IsInside (c :: rest) n ↔ IsInside rest (n - c.utf8Size) := by
  constructor
  · rintro ⟨before, d, after, split, lower, upper⟩
    cases before with
    | nil =>
      obtain ⟨rfl, -⟩ := List.cons.inj split
      simp only [byteLength] at upper
      omega
    | cons e before =>
      obtain ⟨rfl, rfl⟩ := List.cons.inj split
      simp only [byteLength] at lower upper
      exact ⟨before, d, after, rfl, by omega, by omega⟩
  · rintro ⟨before, d, after, rfl, lower, upper⟩
    refine ⟨c :: before, d, after, rfl, ?_, ?_⟩
    · simp only [byteLength]
      omega
    · simp only [byteLength]
      omega

/-- A text cannot be cut past its end and inside a character, and can be cut anywhere else. -/
theorem cut?_eq_none_iff (t : Text) (n : Nat) :
    t.cut? n = none ↔ t.byteLength < n ∨ t.IsInside n := by
  fun_induction cut? t n with
  | case1 t =>
    constructor
    · nofun
    · rintro (past | ⟨before, c, after, -, lower, -⟩)
      · exact absurd past (Nat.not_lt_zero _)
      · exact absurd lower (Nat.not_lt_zero _)
  | case2 n => exact ⟨fun _ => Or.inl (Nat.succ_pos n), fun _ => rfl⟩
  | case3 c rest n fits ih =>
    have past : byteLength (c :: rest) < n + 1 ↔ byteLength rest < n + 1 - c.utf8Size := by
      simp only [byteLength]
      omega
    rw [Option.map_eq_none_iff, ih, past, isInside_cons_iff fits]
  | case4 c rest n wide =>
    refine ⟨fun _ => Or.inr ⟨[], c, rest, rfl, ?_, ?_⟩, fun _ => rfl⟩
    · exact Nat.succ_pos n
    · simp only [byteLength]
      omega

/-- What is cut out stands between what is in front of it and what is behind it. -/
theorem append_of_slice? {t part : Text} {start stop : Nat}
    (h : t.slice? start stop = some part) : ∃ before after, t = before ++ part ++ after ∧
      byteLength before = start ∧ byteLength (before ++ part) = stop := by
  rw [slice?] at h
  split at h
  · rename_i order
    obtain ⟨⟨before, rest⟩, first, h⟩ := Option.bind_eq_some_iff.1 h
    obtain ⟨⟨middle, after⟩, second, h⟩ := Option.bind_eq_some_iff.1 h
    obtain rfl : middle = part := Option.some.inj h
    obtain ⟨rfl, start⟩ := append_of_cut? first
    obtain ⟨rfl, width⟩ := append_of_cut? second
    refine ⟨before, after, (List.append_assoc _ _ _).symm, start, ?_⟩
    rw [byteLength_append, start, width]
    omega
  · cases h

/-- What is cut out lies between two boundaries. -/
theorem isBoundary_of_slice? {t part : Text} {start stop : Nat}
    (h : t.slice? start stop = some part) : t.IsBoundary start ∧ t.IsBoundary stop := by
  obtain ⟨before, after, rfl, start, stop⟩ := append_of_slice? h
  exact ⟨⟨before, part ++ after, List.append_assoc _ _ _, start⟩, before ++ part, after, rfl, stop⟩

/-- Two ways to cut a text at one offset are the same. -/
theorem append_inj_of_byteLength {a b c d : Text} (h : a ++ b = c ++ d)
    (size : byteLength a = byteLength c) : a = c ∧ b = d := by
  have first := cut?_append a b
  rw [h, size, cut?_append c d] at first
  obtain ⟨rfl, rfl⟩ := Prod.mk.inj (Option.some.inj first)
  exact ⟨rfl, rfl⟩

theorem isBoundary_zero (t : Text) : t.IsBoundary 0 :=
  ⟨[], t, rfl, rfl⟩

theorem isBoundary_byteLength (t : Text) : t.IsBoundary t.byteLength :=
  ⟨t, [], (List.append_nil t).symm, rfl⟩

section Boundaries

variable {c : Char} {t rest : Text} {m n : Nat}

theorem IsBoundary.le_byteLength (h : t.IsBoundary n) : n ≤ t.byteLength := by
  obtain ⟨before, after, rfl, rfl⟩ := h
  rw [byteLength_append]
  exact Nat.le_add_right _ _

theorem IsBoundary.cons (h : IsBoundary rest n) : IsBoundary (c :: rest) (c.utf8Size + n) := by
  obtain ⟨before, after, rfl, rfl⟩ := h
  exact ⟨c :: before, after, rfl, rfl⟩

/-- Behind the start, boundaries of a text are those of what follows its first character. -/
theorem IsBoundary.of_cons (h : IsBoundary (c :: rest) n) :
    n = 0 ∨ ∃ m, n = c.utf8Size + m ∧ IsBoundary rest m := by
  obtain ⟨before, after, split, rfl⟩ := h
  cases before with
  | nil => exact Or.inl rfl
  | cons d before =>
    obtain ⟨rfl, rfl⟩ := List.cons.inj split
    exact Or.inr ⟨byteLength before, rfl, before, after, rfl, rfl⟩

/-- An offset up to the end of a text is a boundary or inside a character. -/
theorem isInside_of_not_isBoundary (within : n ≤ t.byteLength) (h : ¬ t.IsBoundary n) :
    t.IsInside n := by
  rw [isBoundary_iff_cut?, Bool.not_eq_true, Option.isSome_eq_false_iff, Option.isNone_iff_eq_none,
    cut?_eq_none_iff] at h
  exact h.resolve_left (Nat.not_lt.2 within)

theorem isBoundary_nextBoundary (t : Text) (n : Nat) : t.IsBoundary (t.nextBoundary n) := by
  fun_induction nextBoundary t n with
  | case1 t => exact isBoundary_zero t
  | case2 n => exact isBoundary_zero []
  | case3 c rest n ih => exact ih.cons

theorem le_nextBoundary (h : n ≤ t.byteLength) : n ≤ t.nextBoundary n := by
  fun_induction nextBoundary t n with
  | case1 t => exact Nat.le_refl 0
  | case2 n => exact h
  | case3 c rest n ih =>
    rw [byteLength] at h
    have behind := ih (by omega)
    omega

/-- No boundary at or after the offset comes earlier. -/
theorem nextBoundary_le (h : t.IsBoundary m) (hn : n ≤ m) : t.nextBoundary n ≤ m := by
  fun_induction nextBoundary t n generalizing m with
  | case1 t => exact Nat.zero_le m
  | case2 n => exact Nat.zero_le m
  | case3 c rest n ih =>
    rcases h.of_cons with rfl | ⟨k, rfl, later⟩
    · exact absurd hn (Nat.not_succ_le_zero n)
    · have behind := ih later (by omega)
      omega

theorem not_isBoundary_of_lt_nextBoundary (lower : n ≤ m) (upper : m < t.nextBoundary n) :
    ¬ t.IsBoundary m :=
  fun boundary => Nat.not_lt.2 (nextBoundary_le boundary lower) upper

theorem nextBoundary_of_le (h : t.byteLength ≤ n) : t.nextBoundary n = t.byteLength := by
  fun_induction nextBoundary t n with
  | case1 t => exact (Nat.le_zero.1 h).symm
  | case2 n => rfl
  | case3 c rest n ih =>
    rw [byteLength] at h
    rw [byteLength, ih (by omega)]

theorem IsBoundary.nextBoundary_eq (h : t.IsBoundary n) : t.nextBoundary n = n :=
  Nat.le_antisymm (nextBoundary_le h (Nat.le_refl n)) (le_nextBoundary h.le_byteLength)

/-- Behind the first byte of a character, and up to its end, the next boundary is the end of the
character. -/
theorem nextBoundary_inside {before after : Text} (lower : before.byteLength < n)
    (upper : n ≤ before.byteLength + c.utf8Size) :
    nextBoundary (before ++ c :: after) n = before.byteLength + c.utf8Size := by
  have ends : IsBoundary (before ++ c :: after) (before.byteLength + c.utf8Size) :=
    ⟨before ++ [c], after, by simp, by rw [byteLength_append]; rfl⟩
  refine Nat.le_antisymm (nextBoundary_le ends upper) ?_
  obtain ⟨front, back, split, size⟩ := isBoundary_nextBoundary (before ++ c :: after) n
  have reached := le_nextBoundary (Nat.le_trans upper ends.le_byteLength)
  -- A boundary that is not yet at the end would be a cut inside of the character.
  rcases List.append_eq_append_iff.1 split with ⟨more, rfl, tail⟩ | ⟨more, rfl, tail⟩
  · cases more with
    | nil =>
      rw [List.append_nil] at size
      omega
    | cons d more =>
      obtain ⟨rfl, -⟩ := List.cons.inj tail
      rw [← size, byteLength_append, byteLength]
      omega
  · rw [byteLength_append] at lower
    omega

end Boundaries

end LexerConsole.Text
