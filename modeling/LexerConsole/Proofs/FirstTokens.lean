import LexerConsole.Proofs.CommandGrammar
import LexerConsole.Proofs.Strays

/-!
# Lines before and after scanning

A session tells blank lines and commands from source lines before it scans anything, character by
character. The scanner tells them apart byte by byte: a blank line has no token but the closing
one, and the first token of a command is its point, which is illegal. So no line of legal source is
blank or a command by mistake.
-/

namespace LexerConsole

open Alphabet

theorem Text.isBlank_iff_trimBlanks {t : Text} : t.isBlank ↔ t.trimBlanks = [] := by
  rw [isBlank, List.all_eq_true, trimBlanks, trimWhere_eq_nil_iff]

/-- The characters of a text are blanks just when its bytes are. -/
theorem Text.isBlank_iff_utf8 {t : Text} : t.isBlank ↔ ∀ b ∈ t.utf8, Alphabet.isBlank b := by
  constructor
  · exact isBlank_of_mem_utf8
  · intro blank
    refine List.all_eq_true.2 ?_
    intro c hc
    have bytes : ∀ b ∈ String.utf8EncodeChar c, Alphabet.isBlank b :=
      fun b hb => blank b (List.mem_flatMap.2 ⟨c, hc, hb⟩)
    by_cases ascii : c.toNat < 0x80
    · rw [utf8EncodeChar_of_ascii ascii, List.forall_mem_singleton, isBlank_toUInt8 ascii] at bytes
      exact bytes
    · have long := one_lt_length_utf8EncodeChar ascii
      obtain ⟨b, hb⟩ := List.exists_mem_of_length_pos (Nat.lt_of_succ_lt long)
      exact absurd (ascii_of_isBlank (bytes b hb)) (not_lt_of_mem_utf8EncodeChar ascii hb)

theorem Lexes.isBlank_of_singleton {offset : Nat} {bytes : List UInt8} {t : Token}
    (h : Lexes offset bytes [t]) : ∀ b ∈ bytes, isBlank b := by
  cases h with
  | done hb => exact hb
  | token _ _ _ tail =>
    obtain ⟨body, closed, -⟩ := tail.exists_body
    simp at closed

section Lines

variable {line : Text}

theorem isBlank_iff_tokenize : line.isBlank ↔ tokenize line = [.eof line.byteLength] := by
  have run := lexes_tokenize line
  constructor
  · intro blank
    have alone := run.eq_eof (Text.isBlank_iff_utf8.1 blank)
    rwa [Nat.zero_add, Text.length_utf8] at alone
  · intro alone
    rw [alone] at run
    exact Text.isBlank_iff_utf8.2 run.isBlank_of_singleton

/-- The point of a command is no part of a lexeme. -/
theorem exists_tokenize_point {left : Text} (blank : left.isBlank) (more : Text) :
    ∃ rest, tokenize (left ++ '.' :: more) =
      ⟨.illegal, ['.'], ⟨left.byteLength, left.byteLength + 1⟩⟩ :: rest := by
  have run := lexes_tokenize (left ++ '.' :: more)
  have bytes : (left ++ '.' :: more).utf8 = left.utf8 ++ ([0x2E] ++ more.utf8) := by
    rw [Text.utf8_append, Text.utf8_cons]
    rfl
  rw [bytes] at run
  obtain ⟨stray, solid⟩ := isKnown_eq_false_iff.1 (show isKnown 0x2E = false by decide)
  have complete : Complete [0x2E] .illegal more.utf8 := ⟨.stray stray, fun _ _ => rfl⟩
  obtain ⟨rest, first, -⟩ :=
    run.exists_tail (Text.isBlank_of_mem_utf8 blank) (by simpa using solid) complete.longest
  refine ⟨rest, ?_⟩
  rw [first, Nat.zero_add, Text.length_utf8]
  rfl

theorem exists_tokenize_of_parse? {found : Command × Option Text}
    (h : Command.parse? line = some found) :
    ∃ n rest, tokenize line = ⟨.illegal, ['.'], ⟨n, n + 1⟩⟩ :: rest := by
  obtain ⟨name, rest, trims, -⟩ := Command.exists_trims_of_parse? h
  obtain ⟨left, right, rfl, blank, -⟩ := trims.ends
  rw [List.append_assoc, List.cons_append]
  exact ⟨_, exists_tokenize_point (List.all_eq_true.2 blank) _⟩

/-- Without that point in front a line is not a command. -/
theorem parse?_eq_none (h : ∀ n rest, tokenize line ≠ ⟨.illegal, ['.'], ⟨n, n + 1⟩⟩ :: rest) :
    Command.parse? line = none := by
  refine Option.eq_none_iff_forall_not_mem.2 ?_
  intro found parsed
  obtain ⟨n, rest, first⟩ := exists_tokenize_of_parse? parsed
  exact h n rest first

namespace Listing

variable {o : Options} {sink : Sink}

/-- A listing that looks at a token before the closing one fails or has lines. -/
theorem ofTokens_result_ne_zero {t : Token} (ht : t.isEof = false) (rest : List Token) :
    (ofTokens o sink (t :: rest)).result ≠ .ok 0 := by
  intro zero
  rw [ofTokens, ht, Bool.false_and, if_neg Bool.false_ne_true] at zero
  split at zero
  · cases zero
  · split at zero
    · cases zero
    · rename_i next _
      rw [if_neg Bool.false_ne_true] at zero
      dsimp only at zero
      cases behind : (ofTokens o next rest).result with
      | error fault =>
        rw [behind] at zero
        cases zero
      | ok n =>
        rw [behind] at zero
        exact absurd (Except.ok.inj zero) (Nat.succ_ne_zero n)

/-- A listing without the closing token is empty just for a blank line, whatever it is written
into. -/
theorem report_silent_iff (hidden : o.showEof = false) : line.isBlank ↔
    (report o sink line).bytes = [] ∧ (report o sink line).result = .ok 0 := by
  constructor
  · intro blank
    have unlisted : o.showEof → sink.putAll (linePieces o (.eof line.byteLength)) =
        ((Listing.line o (.eof line.byteLength)).utf8, .ok sink) := by
      simp [hidden]
    rw [report, isBlank_iff_tokenize.1 blank, ofTokens_eof unlisted, hidden]
    exact ⟨rfl, rfl⟩
  · rintro ⟨-, zero⟩
    obtain ⟨tokens, spec⟩ := openTokens_spec line
    rw [report, tokens] at zero
    rw [isBlank_iff_tokenize, tokens]
    cases body : openTokens line with
    | nil => rfl
    | cons t body =>
      rw [body, List.cons_append] at zero
      exact absurd zero (ofTokens_result_ne_zero (spec t (body ▸ List.mem_cons_self)) _)

end Listing
end Lines

/-- The scanner sees of a line what is seen without it. -/
structure SeenAlike (line : Text) : Prop where
  trimmed : line.isBlank ↔ line.trimBlanks = []
  blank : line.isBlank ↔ tokenize line = [.eof line.byteLength]
  /-- Only of a blank line nothing is listed. -/
  silent : ∀ (o : Listing.Options) (sink : Sink), o.showEof = false → (line.isBlank ↔
    (Listing.report o sink line).bytes = [] ∧ (Listing.report o sink line).result = .ok 0)
  ordinary : line.isBlank → Command.parse? line = none
  point : ∀ found, Command.parse? line = some found →
    ∃ n rest, tokenize line = ⟨.illegal, ['.'], ⟨n, n + 1⟩⟩ :: rest
  legal : (∀ t ∈ tokenize line, t.isIllegal = false) → Command.parse? line = none

theorem seenAlike (line : Text) : SeenAlike line := by
  constructor
  · exact Text.isBlank_iff_trimBlanks
  · exact isBlank_iff_tokenize
  · intro o sink hidden
    exact Listing.report_silent_iff hidden
  · intro blank
    refine parse?_eq_none ?_
    intro n rest first
    rw [isBlank_iff_tokenize.1 blank] at first
    cases (List.cons.inj first).1
  · intro found parsed
    exact exists_tokenize_of_parse? parsed
  · intro legal
    refine parse?_eq_none ?_
    intro n rest first
    have illegal := legal _ (first ▸ List.mem_cons_self)
    cases illegal

end LexerConsole
