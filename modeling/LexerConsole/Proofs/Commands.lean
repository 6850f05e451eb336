import LexerConsole.Session.Command
import Mathlib.Data.List.DropRight

/-!
# Lines that are commands

A command with an argument may stand between blanks, and any white space may stand between its name
and the argument, which is read as it is typed as long as no white space is at its own ends.
-/

namespace LexerConsole

namespace Text

variable {p : Char → Bool} {t left right : Text}

/-- Nothing is to be trimmed from a text. -/
structure Trimmed (p : Char → Bool) (t : Text) : Prop where
  first : ∀ c ∈ t.head?, p c = false
  last : ∀ c ∈ t.getLast?, p c = false

/-- What is trimmed does not begin or end with what is removed. -/
theorem trimmed_trimWhere (p : Char → Bool) (t : Text) : Trimmed p (t.trimWhere p) := by
  constructor
  · intro c hc
    obtain ⟨rest, split⟩ : t.trimWhere p <+: t.dropWhile p :=
      List.rdropWhile_prefix p (t.dropWhile p)
    refine eq_false_of_mem_head?_dropWhile (t := t) ?_
    rw [← split, List.head?_append, Option.mem_def.1 hc]
    rfl
  · intro c hc
    rw [trimWhere, List.getLast?_reverse] at hc
    exact eq_false_of_mem_head?_dropWhile hc

theorem trimWhere_around (h : Trimmed p t) (given : t ≠ []) (hl : ∀ c ∈ left, p c)
    (hr : ∀ c ∈ right, p c) : trimWhere p (left ++ t ++ right) = t := by
  have front : (left ++ (t ++ right)).dropWhile p = t ++ right := by
    refine (takeWhile_run hl ?_).2
    rw [List.head?_append_of_ne_nil t given]
    exact h.first
  have back : (right.reverse ++ t.reverse).dropWhile p = t.reverse := by
    refine (takeWhile_run (fun c hc => hr c (List.mem_reverse.1 hc)) ?_).2
    rw [List.head?_reverse]
    exact h.last
  rw [trimWhere, List.append_assoc, front, List.reverse_append, back, List.reverse_reverse]

end Text

namespace Command

variable {command : Command} {name gap argument left right : Text}

theorem toLower_of_isSpace {c : Char} (h : Text.isSpace c) : c.toLower = c := by
  refine dif_neg ?_
  rintro ⟨lower, upper⟩
  have low : 65 ≤ c.toNat := lower
  have high : c.toNat ≤ 90 := upper
  simp only [Text.isSpace, Bool.or_eq_true, Bool.and_eq_true, decide_eq_true_eq] at h
  omega

/-- No spelling of a command, in whatever case, has white space in it. -/
theorem isSpace_eq_false_of_spelled (spelled : name.map Char.toLower ∈ command.spellings) :
    ∀ c ∈ name, Text.isSpace c = false := by
  have solid : ∀ w ∈ command.spellings, w.all fun c => !Text.isSpace c := by
    cases command <;> decide
  intro c hc
  refine Bool.eq_false_iff.2 ?_
  intro space
  have lower := List.all_eq_true.1 (solid _ spelled) _ (List.mem_map_of_mem hc)
  rw [toLower_of_isSpace space, space] at lower
  cases lower

/-- A command and its argument are found between blanks, with any white space between them. -/
theorem parse?_argument (spelled : name.map Char.toLower ∈ command.spellings)
    (spaces : ∀ c ∈ gap, Text.isSpace c) (apart : gap ≠ [])
    (given : argument ≠ []) (trimmed : Text.Trimmed Text.isSpace argument)
    (hl : ∀ c ∈ left, Text.isBlankChar c) (hr : ∀ c ∈ right, Text.isBlankChar c) :
    parse? (left ++ '.' :: (name ++ (gap ++ argument)) ++ right) =
      some (command, some argument) := by
  have whole : Text.Trimmed Text.isBlankChar ('.' :: (name ++ (gap ++ argument))) := by
    constructor
    · rintro c ⟨⟩
      rfl
    · intro c hc
      rw [← List.cons_append, ← List.append_assoc,
        List.getLast?_append_of_ne_nil _ given] at hc
      refine Bool.eq_false_iff.2 ?_
      intro blank
      exact Bool.false_ne_true
        ((trimmed.last c hc).symm.trans (Text.isSpace_of_isBlankChar blank))
  have solid : ∀ c ∈ name, !Text.isSpace c := by
    simpa using isSpace_eq_false_of_spelled spelled
  have alone : Text.trimSpace (gap ++ argument) = argument := by
    have bare := Text.trimWhere_around trimmed given spaces (List.forall_mem_nil _)
    rwa [List.append_nil] at bare
  have ends : ∀ c ∈ (gap ++ argument).head?, (fun c => !Text.isSpace c) c = false := by
    intro c hc
    rw [List.head?_append_of_ne_nil gap apart] at hc
    simp [spaces c (List.mem_of_mem_head? hc)]
  obtain ⟨front, behind⟩ := Text.takeWhile_run solid ends
  rw [parse?, Text.trimBlanks, Text.trimWhere_around whole (List.cons_ne_nil _ _) hl hr]
  simp only [front, behind, alone, ofName?_eq_some_iff.2 spelled, Option.map_some,
    List.isEmpty_iff, given, if_false]

example : parse? " .Load\u00a0 a b\t".toList = some (.load, some "a b".toList) := by decide

end Command
end LexerConsole
