import LexerConsole.Proofs.Commands
import LexerConsole.Text.Ascii
import Mathlib.Data.List.Forall2

/-!
# The grammar of commands

Which lines are commands, said without looking for anything in them: between its blanks the line
is a point and a name, and behind the name stands white space, with or without an argument in it.
`accepts_parse?` says that reading a line finds the command of the grammar and no other.

The name may be written in either case. A lower-casing that knows more than ASCII gives the same
commands, since no character beyond ASCII turns into a letter of a spelling.
-/

namespace LexerConsole

namespace Text

variable {p : Char → Bool} {whole part : Text}

/-- A text between two ends of characters that are removed. -/
structure Trims (p : Char → Bool) (whole part : Text) : Prop where
  ends : ∃ left right, whole = left ++ part ++ right ∧ (∀ c ∈ left, p c) ∧ ∀ c ∈ right, p c
  trimmed : Trimmed p part

theorem trims_trimWhere (p : Char → Bool) (t : Text) : Trims p t (t.trimWhere p) := by
  have front := List.takeWhile_append_dropWhile (p := p) (l := t)
  have back := List.takeWhile_append_dropWhile (p := p) (l := (t.dropWhile p).reverse)
  have inner : t.dropWhile p =
      t.trimWhere p ++ ((t.dropWhile p).reverse.takeWhile p).reverse := by
    rw [trimWhere, ← List.reverse_append, back, List.reverse_reverse]
  refine ⟨⟨t.takeWhile p, ((t.dropWhile p).reverse.takeWhile p).reverse, ?_, ?_, ?_⟩,
    trimmed_trimWhere p t⟩
  · rw [List.append_assoc, ← inner, front]
  · intro c hc
    exact List.mem_takeWhile_imp hc
  · intro c hc
    exact List.mem_takeWhile_imp (List.mem_reverse.1 hc)

/-- Nothing is left of a text just when every character of it is removed. -/
theorem trimWhere_eq_nil_iff : whole.trimWhere p = [] ↔ ∀ c ∈ whole, p c := by
  constructor
  · intro none c hc
    obtain ⟨left, right, split, hl, hr⟩ := (trims_trimWhere p whole).ends
    rw [split, none, List.append_nil] at hc
    exact (List.mem_append.1 hc).elim (hl c) (hr c)
  · intro all
    rw [trimWhere, List.dropWhile_eq_nil_iff.2 all]
    rfl

/-- There is only one way to trim a text. -/
theorem trims_iff : Trims p whole part ↔ whole.trimWhere p = part := by
  constructor
  · rintro ⟨⟨left, right, rfl, hl, hr⟩, trimmed⟩
    by_cases given : part = []
    · subst given
      refine trimWhere_eq_nil_iff.2 ?_
      intro c hc
      rw [List.append_nil] at hc
      exact (List.mem_append.1 hc).elim (hl c) (hr c)
    · exact trimWhere_around trimmed given hl hr
  · rintro rfl
    exact trims_trimWhere p whole

theorem Trims.isInfix (h : Trims p whole part) : part <:+: whole := by
  obtain ⟨left, right, rfl, -⟩ := h.ends
  exact ⟨left, right, rfl⟩

end Text

namespace Command

/-- The first of two characters is the second, with or without a capital. -/
def SameLetter (c d : Char) : Prop :=
  c = d ∨ c = d.toUpper

/-- The name is a spelling of the command with its letters in either case. -/
def IsNamed (command : Command) (name : Text) : Prop :=
  ∃ w ∈ command.spellings, List.Forall₂ SameLetter name w

/-- What may stand for a character in lower case. An ASCII letter loses its case and any other ASCII
character stays as it is; beyond ASCII only the Kelvin sign has a lower case that is ASCII. -/
inductive IsLower (c : Char) : Text → Prop where
  | ascii (small : c.toNat < 0x80) : IsLower c [c.toLower]
  | kelvin (sign : c = '\u212A') : IsLower c ['k']
  | foreign {piece : Text} {d : Char} (beyond : ¬ c.toNat < 0x80) (member : d ∈ piece)
      (other : ¬ d.toNat < 0x80) : IsLower c piece

/-- A lower-casing of texts. The lower case of a character may depend on where it stands. -/
def Lowers (lower : Text → Text) : Prop :=
  ∀ t, ∃ pieces, List.Forall₂ IsLower t pieces ∧ lower t = pieces.flatten

/-- What stands behind the name of a command. -/
inductive Argues (rest : Text) : Option Text → Prop where
  | nothing (space : ∀ c ∈ rest, Text.isSpace c) : Argues rest none
  | given {argument : Text} (trims : Text.Trims Text.isSpace rest argument)
      (visible : argument ≠ []) : Argues rest (some argument)

/-- A line that is a command. The name ends at the first white space behind the point. -/
inductive Reads (line : Text) (command : Command) (argument : Option Text) : Prop where
  | intro (name rest : Text) (trims : Text.Trims Text.isBlankChar line ('.' :: (name ++ rest)))
      (word : ∀ c ∈ name, Text.isSpace c = false) (ends : ∀ c ∈ rest.head?, Text.isSpace c)
      (named : command.IsNamed name) (argues : Argues rest argument)

section Letters

variable {c d : Char}

theorem toLower_of_foreign (h : ¬ c.toNat < 0x80) : c.toLower = c := by
  refine dif_neg ?_
  rintro ⟨-, upper⟩
  have high : c.toNat ≤ 90 := upper
  omega

theorem ascii_of_sameLetter (h : SameLetter c d) (hd : d.toNat < 0x80) : c.toNat < 0x80 := by
  rcases h with rfl | rfl
  · exact hd
  · exact Text.forall_ascii (P := fun d => d.toUpper.toNat < 0x80) (by decide) hd

theorem toLower_eq_iff_sameLetter (hc : c.toNat < 0x80) (hd : d.toNat < 0x80)
    (low : d.toLower = d) : c.toLower = d ↔ SameLetter c d := by
  constructor
  · rintro rfl
    exact Text.forall_ascii (P := fun c => c = c.toLower ∨ c = c.toLower.toUpper) (by decide) hc
  · rintro (rfl | rfl)
    · exact low
    · exact Text.forall_ascii (P := fun d => d.toLower = d → d.toUpper.toLower = d) (by decide)
        hd low

end Letters

section Names

variable {command : Command} {name w : Text} {lower : Text → Text}

/-- A character that a spelling may have. -/
structure IsPlain (d : Char) : Prop where
  ascii : d.toNat < 0x80
  low : d.toLower = d
  ne_k : d ≠ 'k'

theorem isPlain_of_mem_spellings (hw : w ∈ command.spellings) : ∀ d ∈ w, IsPlain d := by
  have checked : ∀ w ∈ command.spellings,
      w.all fun d => d.toNat < 0x80 && d.toLower = d && d ≠ 'k' := by
    cases command <;> decide
  intro d hd
  have holds := List.all_eq_true.1 (checked w hw) d hd
  simp only [Bool.and_eq_true, decide_eq_true_eq] at holds
  exact ⟨holds.1.1, holds.1.2, holds.2⟩

/-- Beyond ASCII no lower case is part of a spelling. -/
theorem IsLower.exists_not_isPlain {c : Char} {piece : Text} (h : IsLower c piece)
    (hc : ¬ c.toNat < 0x80) : ∃ d ∈ piece, ¬ IsPlain d := by
  cases h with
  | ascii small => exact absurd small hc
  | kelvin => exact ⟨'k', List.mem_cons_self, fun plain => plain.ne_k rfl⟩
  | foreign _ member other => exact ⟨_, member, fun plain => other plain.ascii⟩

theorem flatten_eq_iff {t : Text} {pieces : List Text} (h : List.Forall₂ IsLower t pieces)
    (hw : ∀ d ∈ w, IsPlain d) : pieces.flatten = w ↔ List.Forall₂ SameLetter t w := by
  induction h generalizing w with
  | nil => rw [List.forall₂_nil_left_iff, List.flatten_nil, eq_comm]
  | @cons c piece t pieces lowered others ih =>
    by_cases hc : c.toNat < 0x80
    · obtain rfl : piece = [c.toLower] := by
        cases lowered with
        | ascii => rfl
        | kelvin sign => exact absurd hc (sign ▸ by decide)
        | foreign beyond => exact absurd hc beyond
      cases w with
      | nil => simp
      | cons d w =>
        obtain ⟨plain, rest⟩ := List.forall_mem_cons.1 hw
        rw [List.flatten_cons, List.singleton_append, List.cons_eq_cons, List.forall₂_cons,
          ih rest, toLower_eq_iff_sameLetter hc plain.ascii plain.low]
    · constructor
      · rintro rfl
        obtain ⟨d, member, other⟩ := lowered.exists_not_isPlain hc
        exact absurd (hw d (List.mem_append_left _ member)) other
      · intro same
        cases same with
        | cons first =>
          exact absurd (ascii_of_sameLetter first (hw _ List.mem_cons_self).ascii) hc

/-- Every lower-casing finds the spellings in either case, and nothing else. -/
theorem Lowers.mem_spellings_iff (h : Lowers lower) :
    lower name ∈ command.spellings ↔ command.IsNamed name := by
  obtain ⟨pieces, lowered, written⟩ := h name
  constructor
  · intro member
    exact ⟨_, member, (flatten_eq_iff lowered (isPlain_of_mem_spellings member)).1 written.symm⟩
  · rintro ⟨w, member, same⟩
    rw [written, (flatten_eq_iff lowered (isPlain_of_mem_spellings member)).2 same]
    exact member

/-- Leaving alone what is not an ASCII letter is a lower-casing too. -/
theorem lowers_toLower : Lowers (List.map Char.toLower) := by
  intro t
  refine ⟨t.map fun c => [c.toLower], ?_, ?_⟩
  · refine List.forall₂_map_right_iff.2 (List.forall₂_same.2 ?_)
    intro c _
    by_cases hc : c.toNat < 0x80
    · exact .ascii hc
    · exact .foreign hc List.mem_cons_self (by rwa [toLower_of_foreign hc])
  · rw [← List.flatMap_def]
    exact List.map_eq_flatMap

theorem ofName?_iff_isNamed : ofName? name = some command ↔ command.IsNamed name := by
  rw [ofName?_eq_some_iff]
  exact lowers_toLower.mem_spellings_iff

end Names

section Lines

variable {line name rest : Text} {command : Command} {argument : Option Text}

/-- Trimming what stands behind the name gives the argument. -/
theorem argues_iff : (if rest.trimSpace.isEmpty then none else some rest.trimSpace) = argument ↔
    Argues rest argument := by
  constructor
  · rintro rfl
    by_cases empty : rest.trimSpace = []
    · rw [if_pos (List.isEmpty_iff.2 empty)]
      exact .nothing (Text.trimWhere_eq_nil_iff.1 empty)
    · rw [if_neg (fun h => empty (List.isEmpty_iff.1 h))]
      exact .given (Text.trims_trimWhere Text.isSpace rest) empty
  · rintro (space | ⟨trims, visible⟩)
    · rw [Text.trimSpace, Text.trimWhere_eq_nil_iff.2 space]
      rfl
    · rw [Text.trimSpace, Text.trims_iff.1 trims, if_neg (fun h => visible (List.isEmpty_iff.1 h))]

theorem parse?_of_trims (trims : Text.Trims Text.isBlankChar line ('.' :: (name ++ rest)))
    (word : ∀ c ∈ name, Text.isSpace c = false) (ends : ∀ c ∈ rest.head?, Text.isSpace c) :
    parse? line = (ofName? name).map fun c =>
      (c, if rest.trimSpace.isEmpty then none else some rest.trimSpace) := by
  have solid : ∀ c ∈ name, !Text.isSpace c := by simpa using word
  have stop : ∀ c ∈ rest.head?, (fun c => !Text.isSpace c) c = false := by simpa using ends
  obtain ⟨front, behind⟩ := Text.takeWhile_run solid stop
  rw [parse?, Text.trimBlanks, Text.trims_iff.1 trims]
  simp only [front, behind]

/-- A command begins with its point. -/
theorem exists_trims_of_parse? {found : Command × Option Text} (h : parse? line = some found) :
    ∃ name rest, Text.Trims Text.isBlankChar line ('.' :: (name ++ rest)) ∧
      (∀ c ∈ name, Text.isSpace c = false) ∧ ∀ c ∈ rest.head?, Text.isSpace c := by
  rw [parse?] at h
  split at h
  · rename_i rest trimmed
    refine ⟨rest.takeWhile fun c => !Text.isSpace c, rest.dropWhile fun c => !Text.isSpace c,
      ?_, ?_, ?_⟩
    · rw [List.takeWhile_append_dropWhile]
      exact Text.trims_iff.2 trimmed
    · intro c hc
      simpa using List.mem_takeWhile_imp hc
    · intro c hc
      simpa using Text.eq_false_of_mem_head?_dropWhile hc
  · cases h

theorem parse?_iff_reads :
    parse? line = some (command, argument) ↔ Reads line command argument := by
  constructor
  · intro h
    obtain ⟨name, rest, trims, word, ends⟩ := exists_trims_of_parse? h
    rw [parse?_of_trims trims word ends] at h
    obtain ⟨found, known, same⟩ := Option.map_eq_some_iff.1 h
    obtain ⟨rfl, argued⟩ := Prod.mk.inj same
    exact ⟨name, rest, trims, word, ends, ofName?_iff_isNamed.1 known, argues_iff.1 argued⟩
  · rintro ⟨name, rest, trims, word, ends, named, argues⟩
    rw [parse?_of_trims trims word ends, ofName?_iff_isNamed.2 named, Option.map_some,
      argues_iff.2 argues]

end Lines

/-- Which lines are commands, and what is read of them. -/
structure Accepts (line : Text) : Prop where
  grammar : ∀ command argument,
    parse? line = some (command, argument) ↔ Reads line command argument
  /-- An argument is a piece of the line with something visible at both ends. -/
  argument : ∀ command a, parse? line = some (command, some a) →
    a ≠ [] ∧ Text.Trimmed Text.isSpace a ∧ a <:+: line
  /-- What is written as a command is read as it was meant. -/
  written : ∀ (command : Command) (left name gap a right : Text),
    line = left ++ '.' :: (name ++ (gap ++ a)) ++ right → command.IsNamed name →
    gap ≠ [] → (∀ c ∈ gap, Text.isSpace c) → a ≠ [] → a.trimSpace = a →
    (∀ c ∈ left, Text.isBlankChar c) → (∀ c ∈ right, Text.isBlankChar c) →
    parse? line = some (command, some a)
  /-- The case of the name may be removed beyond ASCII as well. -/
  lowered : ∀ lower, Lowers lower → ∀ name command,
    ofName? name = some command ↔ lower name ∈ command.spellings

/-- Reading a line is recognising the grammar. -/
theorem accepts_parse? (line : Text) : Accepts line := by
  constructor
  · intro command argument
    exact parse?_iff_reads
  · intro command a h
    obtain ⟨name, rest, trims, -, -, -, argues⟩ := parse?_iff_reads.1 h
    cases argues with
    | given inner visible =>
      refine ⟨visible, inner.trimmed, inner.isInfix.trans (List.IsInfix.trans ?_ trims.isInfix)⟩
      exact (List.suffix_append ('.' :: name) rest).isInfix
  · rintro command left name gap a right rfl named apart spaces given alone hl hr
    have trimmed := (Text.trims_iff.2 alone).trimmed
    exact parse?_argument (lowers_toLower.mem_spellings_iff.2 named) spaces apart given trimmed hl hr
  · intro lower lowers name command
    rw [ofName?_iff_isNamed, lowers.mem_spellings_iff]

example : parse? "\t.CLS\u00a0\x0b\n".toList = some (.clear, none) := by decide

end Command
end LexerConsole
