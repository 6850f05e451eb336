import LexerConsole.Proofs.EscapeCodes
import LexerConsole.Session.Highlight

/-!
# Lines in colour

A source line in colour is put together from parts: blanks as they stand, ASCII lexemes in the
colours of their kinds, and characters beyond ASCII, each of them once and whole in the colours of
an illegal token, although the scanner cuts it into its bytes. No part is cut out of the line at an
offset inside a character, so the answer is always there. Without its escape codes it is the line.

The parts are found along the text (`exists_parts`), and the highlighter is then followed along the
parts (`tokensFrom?_parts`), where nothing has to be known about the scanner any more.
-/

namespace LexerConsole

open Alphabet

namespace Text

theorem utf8_cons_of_ascii {c : Char} (h : c.toNat < 0x80) (rest : Text) :
    utf8 (c :: rest) = [c.toNat.toUInt8] ++ rest.utf8 := by
  rw [utf8_cons, utf8EncodeChar_of_ascii h]

theorem byteLength_singleton (c : Char) : byteLength [c] = c.utf8Size :=
  Nat.add_zero _

theorem ascii_of_mem_shown {run : List UInt8} (h : ∀ b ∈ run, b < 0x80) :
    ∀ c ∈ shown run, c.toNat < 0x80 := by
  intro c hc
  obtain ⟨b, hb, rfl⟩ := List.mem_map.1 hc
  by_cases ascii : (shownByte b).toNat < 0x80
  · exact ascii
  · have long := one_lt_length_utf8EncodeChar ascii
    rw [utf8EncodeChar_shownByte (h b hb), List.length_singleton] at long
    omega

end Text

/-- A lexeme is ASCII as soon as its first byte is. -/
theorem Whole.ascii {lexeme : List UInt8} {kind : Kind} (h : Whole lexeme kind)
    (first : ∀ b ∈ lexeme.head?, b < 0x80) : ∀ b ∈ lexeme, b < 0x80 := by
  cases h with
  | spelled spells => exact spells.ascii
  | stray => simpa using first

/-- Only an illegal byte can be a bracket that opens the rest of an escape code. -/
theorem Whole.head?_ne_bracket {lexeme : List UInt8} {kind : Kind} (h : Whole lexeme kind)
    (bare : kind.effects = []) : lexeme.head? ≠ some 0x5B := by
  intro head
  cases h with
  | spelled spells =>
    have known := spells.isKnown 0x5B (List.mem_of_mem_head? head)
    exact absurd known (by decide)
  | stray => exact absurd bare (by decide)

/-- The bytes of a character beyond ASCII are illegal one by one. -/
theorem Lexes.foreign_append {foreign bytes : List UInt8} {ts : List Token} {offset : Nat}
    (hf : ∀ b ∈ foreign, ¬ b < 0x80) (h : Lexes (offset + foreign.length) bytes ts) :
    Lexes offset (foreign ++ bytes) (strays offset foreign ++ ts) := by
  induction foreign generalizing offset with
  | nil => exact h
  | cons b foreign ih =>
    obtain ⟨first, others⟩ := List.forall_mem_cons.1 hf
    have unknown := isKnown_eq_false_of_foreign first
    obtain ⟨stray, solid⟩ := isKnown_eq_false_iff.1 unknown
    have complete : Complete [b] .illegal (foreign ++ bytes) := ⟨.stray stray, fun _ _ => rfl⟩
    have place : offset + (b :: foreign).length = offset + 1 + foreign.length := by
      rw [List.length_cons]
      omega
    rw [place] at h
    rw [strays_cons_of_unknown unknown]
    exact .token (List.forall_mem_nil _) (by simpa using solid) complete.longest (ih others h)

namespace Highlight

/-- What a source line is made of. -/
inductive Part where
  | blank (c : Char) (isBlank : Text.isBlankChar c)
  | lexeme (kind : Kind) (text : Text) (ascii : ∀ c ∈ text, c.toNat < 0x80)
      (whole : Whole text.utf8 kind)
  | foreign (c : Char) (beyond : ¬ c.toNat < 0x80)

namespace Part

def source : Part → Text
  | blank c _ => [c]
  | lexeme _ text _ _ => text
  | foreign c _ => [c]

def coloured : Part → Text
  | blank c _ => [c]
  | lexeme kind text _ _ => paint kind text
  | foreign c _ => paint .illegal [c]

/-- The tokens of the part where it begins at an offset: none, one, or one for each byte. -/
def tokens (offset : Nat) : Part → List Token
  | blank _ _ => []
  | lexeme kind text _ _ => [⟨kind, text, ⟨offset, offset + text.byteLength⟩⟩]
  | foreign c _ =>
    (List.range' offset c.utf8Size).map fun i => ⟨.illegal, ['\uFFFD'], ⟨i, i + 1⟩⟩

def tokensFrom : Nat → List Part → List Token
  | _, [] => []
  | offset, p :: parts => p.tokens offset ++ tokensFrom (offset + p.source.byteLength) parts

end Part

section Scan

/-- A part stands at the front of a text, and its tokens come first. -/
structure Part.Leads (p : Part) (t more : Text) : Prop where
  split : t = p.source ++ more
  visible : p.source ≠ []
  lexes : ∀ (offset : Nat) (ts : List Token), Lexes (offset + p.source.byteLength) more.utf8 ts →
    Lexes offset t.utf8 (p.tokens offset ++ ts)

variable {c : Char} (rest : Text)

theorem leads_blank (blank : Text.isBlankChar c) : (Part.blank c blank).Leads (c :: rest) rest := by
  have ascii := Text.ascii_of_isBlankChar blank
  refine ⟨rfl, List.cons_ne_nil c [], ?_⟩
  intro offset ts h
  have size : Text.byteLength [c] = 1 := by
    rw [← Text.length_utf8, Text.utf8_cons_of_ascii ascii]
    rfl
  rw [Part.source, size] at h
  rw [Text.utf8_cons_of_ascii ascii]
  exact Lexes.blanks_append (by simpa [Text.isBlank_toUInt8 ascii] using blank) h

/-- A lexeme that begins with an ASCII character is a piece of the text. -/
theorem exists_leads_lexeme (ascii : c.toNat < 0x80) (solid : Text.isBlankChar c = false) :
    ∃ (p : Part) (more : Text), p.Leads (c :: rest) more := by
  have bytes := Text.utf8_cons_of_ascii ascii rest
  obtain ⟨lexeme, kind, after, split, complete, -⟩ :=
    Cursor.lexeme?_atOffset (.ofText (c :: rest)) (n := 0) bytes
  obtain ⟨b, tail, rfl⟩ := List.exists_cons_of_ne_nil complete.whole.ne_nil
  obtain ⟨rfl, -⟩ := List.cons.inj split
  have small : c.toNat.toUInt8 < 0x80 := by
    rw [UInt8.lt_iff_toNat_lt]
    simp
    omega
  have run := complete.whole.ascii (by simpa using small)
  obtain ⟨more, cut, rfl⟩ := Text.exists_of_utf8_eq_append (bytes.trans split) run
  have written := Text.utf8_shown run
  have size := Text.length_utf8 (shown (c.toNat.toUInt8 :: tail))
  rw [written] at size
  refine ⟨.lexeme kind (shown (c.toNat.toUInt8 :: tail)) (Text.ascii_of_mem_shown run)
    (written.symm ▸ complete.whole), more, cut, List.cons_ne_nil _ _, ?_⟩
  intro offset ts h
  rw [Part.source, ← size] at h
  rw [bytes.trans split, Part.tokens, ← size]
  exact .token (List.forall_mem_nil _) (by simpa [Text.isBlank_toUInt8 ascii] using solid)
    complete.longest h

theorem leads_foreign (beyond : ¬ c.toNat < 0x80) :
    (Part.foreign c beyond).Leads (c :: rest) rest := by
  have foreign : ∀ b ∈ String.utf8EncodeChar c, ¬ b < 0x80 :=
    fun b hb => Text.not_lt_of_mem_utf8EncodeChar beyond hb
  refine ⟨rfl, List.cons_ne_nil c [], ?_⟩
  intro offset ts h
  rw [Part.source, Text.byteLength_singleton, ← String.length_utf8EncodeChar] at h
  have cut := Lexes.foreign_append foreign h
  rw [strays_of_foreign foreign, String.length_utf8EncodeChar] at cut
  rw [Text.utf8_cons]
  exact cut

theorem exists_leads (c : Char) (rest : Text) :
    ∃ (p : Part) (more : Text), p.Leads (c :: rest) more := by
  by_cases ascii : c.toNat < 0x80
  · cases blank : Text.isBlankChar c with
    | true => exact ⟨.blank c blank, rest, leads_blank rest blank⟩
    | false => exact exists_leads_lexeme rest ascii blank
  · exact ⟨.foreign c ascii, rest, leads_foreign rest ascii⟩

/-- Every text is made of parts, and their tokens are those of the grammar. -/
theorem exists_parts (t : Text) (offset : Nat) : ∃ parts : List Part,
    t = parts.flatMap Part.source ∧
      Lexes offset t.utf8 (Part.tokensFrom offset parts ++ [.eof (offset + t.byteLength)]) := by
  induction hn : t.length using Nat.strongRecOn generalizing t offset with
  | ind n ih =>
    subst hn
    cases t with
    | nil => exact ⟨[], rfl, .done (by simp [Text.utf8])⟩
    | cons c rest =>
      obtain ⟨p, more, split, visible, first⟩ := exists_leads c rest
      have shorter : more.length < (c :: rest).length := by
        have positive := List.length_pos_iff.2 visible
        rw [split, List.length_append]
        omega
      obtain ⟨parts, rfl, lexes⟩ := ih more.length shorter more (offset + p.source.byteLength) rfl
      refine ⟨p :: parts, split, ?_⟩
      have whole := first offset _ lexes
      rw [Nat.add_assoc, ← Text.byteLength_append, ← split, ← List.append_assoc] at whole
      exact whole

end Scan

section Colours

variable {line : Text}

/-- Tokens that begin in front of the cursor are passed over. -/
theorem tokensFrom?_append {cursor : Nat} {passed : List Token}
    (behind : ∀ t ∈ passed, t.span.start < cursor) (rest : List Token) :
    tokensFrom? line cursor (passed ++ rest) = tokensFrom? line cursor rest := by
  induction passed with
  | nil => rfl
  | cons t passed ih =>
    obtain ⟨first, others⟩ := List.forall_mem_cons.1 behind
    rw [List.cons_append, tokensFrom?, if_pos first, ih others]

/-- A token behind a gap is shown up to the boundary at or behind its end. -/
theorem tokensFrom?_cons {before gap lexeme after : Text} {t : Token}
    (start : t.span.start = (before ++ gap).byteLength)
    (stop : Text.nextBoundary (before ++ gap ++ lexeme ++ after) t.span.stop =
      (before ++ gap ++ lexeme).byteLength) (rest : List Token) :
    tokensFrom? (before ++ gap ++ lexeme ++ after) before.byteLength (t :: rest) =
      (tokensFrom? (before ++ gap ++ lexeme ++ after) (before ++ gap ++ lexeme).byteLength
        rest).map fun more => gap ++ paint t.kind lexeme ++ more := by
  have first := Text.slice?_append before gap (lexeme ++ after)
  have second := Text.slice?_append (before ++ gap) lexeme after
  rw [← List.append_assoc, ← Text.byteLength_append] at first
  rw [← Text.byteLength_append] at second
  have ahead : ¬ t.span.start < before.byteLength := by
    rw [start, Text.byteLength_append]
    omega
  rw [tokensFrom?, if_neg ahead, stop, start]
  simp only [first, second, Option.bind_eq_bind, Option.bind_some]
  cases tokensFrom? (before ++ gap ++ lexeme ++ after) (before ++ gap ++ lexeme).byteLength rest with
  | none => rfl
  | some more => rfl

/-- The first byte of a character shows all of it, and the others begin inside of it. -/
theorem tokensFrom?_foreign (before gap after : Text) {c : Char} (beyond : ¬ c.toNat < 0x80)
    (rest : List Token) :
    tokensFrom? (before ++ gap ++ [c] ++ after) before.byteLength
        ((Part.foreign c beyond).tokens (before ++ gap).byteLength ++ rest) =
      (tokensFrom? (before ++ gap ++ [c] ++ after) (before ++ gap ++ [c]).byteLength
        rest).map fun more => gap ++ paint .illegal [c] ++ more := by
  have size : (before ++ gap ++ [c]).byteLength = (before ++ gap).byteLength + c.utf8Size := by
    rw [Text.byteLength_append, Text.byteLength_singleton]
  have stop : Text.nextBoundary (before ++ gap ++ [c] ++ after)
      ((before ++ gap).byteLength + 1) = (before ++ gap ++ [c]).byteLength := by
    have positive := c.utf8Size_pos
    rw [size, List.append_assoc, List.singleton_append]
    exact Text.nextBoundary_inside (Nat.lt_succ_self _) (by omega)
  obtain ⟨k, hk⟩ : ∃ k, c.utf8Size = k + 1 :=
    ⟨c.utf8Size - 1, by have := c.utf8Size_pos; omega⟩
  have inside : ∀ t ∈ (List.range' ((before ++ gap).byteLength + 1) k).map fun i =>
      (⟨.illegal, ['\uFFFD'], ⟨i, i + 1⟩⟩ : Token),
      t.span.start < (before ++ gap ++ [c]).byteLength := by
    intro t ht
    obtain ⟨i, hi, rfl⟩ := List.mem_map.1 ht
    have upper := (List.mem_range'_1.1 hi).2
    dsimp only
    omega
  rw [Part.tokens, hk, List.range'_succ, List.map_cons, List.cons_append,
    tokensFrom?_cons rfl stop, tokensFrom?_append inside]

/-- Parts behind a gap are shown one after the other. -/
theorem tokensFrom?_parts (before gap : Text) (parts : List Part) :
    tokensFrom? (before ++ gap ++ parts.flatMap Part.source) before.byteLength
        (Part.tokensFrom (before ++ gap).byteLength parts) =
      some (gap ++ parts.flatMap Part.coloured) := by
  induction parts generalizing before gap with
  | nil =>
    have last := Text.slice?_append before gap []
    simp only [List.append_nil, ← Text.byteLength_append] at last
    simpa [Part.tokensFrom, tokensFrom?] using last
  | cons p parts ih =>
    rw [Part.tokensFrom, List.flatMap_cons, List.flatMap_cons, ← Text.byteLength_append,
      ← List.append_assoc, ← List.append_assoc]
    cases p with
    | blank c blank =>
      have more := ih before (gap ++ [c])
      rw [← List.append_assoc] at more
      exact more
    | lexeme kind text ascii whole =>
      have more := ih (before ++ gap ++ text) []
      have ends : Text.IsBoundary (before ++ gap ++ text ++ parts.flatMap Part.source)
          (before ++ gap ++ text).byteLength := ⟨_, _, rfl, rfl⟩
      have stop := ends.nextBoundary_eq
      simp only [List.append_nil, List.nil_append] at more
      rw [Part.tokens, List.singleton_append]
      exact (tokensFrom?_cons rfl (Text.byteLength_append _ _ ▸ stop) _).trans
        (congrArg (Option.map _) more)
    | foreign c beyond =>
      have more := ih (before ++ gap ++ [c]) []
      simp only [List.append_nil, List.nil_append] at more
      exact (tokensFrom?_foreign before gap _ beyond _).trans
        (congrArg (Option.map _) more)

/-- Behind the front of a line in colour there is never a bare bracket. -/
theorem Part.head?_coloured (p : Part) (rest : List UInt8) :
    (p.coloured.utf8 ++ rest).head? ≠ some 0x5B := by
  have opens : ∀ (e : Effect) (t : Text), ((e.apply t).utf8 ++ rest).head? ≠ some 0x5B := by
    intro e t
    rw [Effect.apply, Text.utf8_append, Text.utf8_append, List.append_assoc, List.append_assoc]
    exact Effect.head?_code_append _ _
  cases p with
  | blank c blank =>
    have bytes := Text.utf8EncodeChar_of_ascii (Text.ascii_of_isBlankChar blank)
    have visible : c.toNat.toUInt8 ≠ 0x5B := by
      intro bracket
      have class_eq := Text.isBlank_toUInt8 (Text.ascii_of_isBlankChar blank)
      rw [bracket, blank] at class_eq
      exact absurd class_eq (by decide)
    rw [coloured, Text.utf8_cons, bytes]
    simpa using visible
  | lexeme kind text ascii whole =>
    rw [coloured, paint]
    cases effects : kind.effects with
    | nil =>
      rw [List.foldr_nil, List.head?_append_of_ne_nil _ whole.ne_nil]
      exact whole.head?_ne_bracket effects
    | cons e effects => exact opens e _
  | foreign c beyond => exact opens .underline _

theorem Part.isStyled (p : Part) : IsStyled p.coloured p.source := by
  cases p with
  | blank c blank =>
    have bytes : Text.utf8 [c] = [c.toNat.toUInt8] :=
      Text.utf8_cons_of_ascii (Text.ascii_of_isBlankChar blank) []
    exact isStyled_of_calm (bytes ▸ .singleton _)
  | lexeme kind text ascii whole =>
    have calm := whole.calm
    rw [Text.shown_utf8 ascii] at calm
    exact isStyled_paint kind calm
  | foreign c beyond =>
    refine isStyled_paint .illegal (calm_of_forall_ne ?_)
    rintro b hb rfl
    have inside : (0x1B : UInt8) ∈ String.utf8EncodeChar c := by simpa [Text.utf8] using hb
    exact Text.not_lt_of_mem_utf8EncodeChar beyond inside (by decide)

theorem withoutCodes_coloured (parts : List Part) :
    withoutCodes (Text.utf8 (parts.flatMap Part.coloured)) =
      Text.utf8 (parts.flatMap Part.source) := by
  induction parts with
  | nil => simp [Text.utf8, withoutCodes]
  | cons p parts ih =>
    have bare : (Text.utf8 (parts.flatMap Part.coloured)).head? ≠ some 0x5B := by
      cases parts with
      | nil => simp [Text.utf8]
      | cons q parts =>
        rw [List.flatMap_cons, Text.utf8_append]
        exact q.head?_coloured _
    rw [List.flatMap_cons, List.flatMap_cons, Text.utf8_append, Text.utf8_append,
      p.isStyled _ bare, ih]

end Colours

/-- What is shown of a line. -/
structure Highlights (line : Text) : Prop where
  /-- The line, its tokens and its coloured form, part by part. -/
  parts : ∃ parts : List Part, line = parts.flatMap Part.source ∧
    openTokens line = Part.tokensFrom 0 parts ∧
    sourceLine? line = some (parts.flatMap Part.coloured)
  /-- Nothing of the line is lost behind the codes. -/
  lossless : ∃ shown, sourceLine? line = some shown ∧ withoutCodes shown.utf8 = line.utf8
  ordinary : Command.parse? line = none → line? line = sourceLine? line
  command : ∀ found, Command.parse? line = some found →
    line? line = some ("\x1b[35m".toList ++ line ++ "\x1b[39m".toList)

/-- Every line has a coloured form, made of its parts in their order. -/
theorem highlights (line : Text) : Highlights line := by
  obtain ⟨parts, split, lexes⟩ := exists_parts line 0
  rw [Nat.zero_add] at lexes
  have tokens := openTokens_eq lexes
  have open_eq : (tokenize line).filter (fun t => !t.isEof) = Part.tokensFrom 0 parts := by
    rw [← tokens, tokenize_eq_openTokens, List.filter_append, List.filter_eq_self.2]
    · simp [Token.isEof_eof]
    · intro t ht
      simp [(openTokens_spec line).2 t ht]
  have shown : sourceLine? line = some (parts.flatMap Part.coloured) := by
    have run := tokensFrom?_parts [] [] parts
    rw [List.append_nil, List.nil_append, List.nil_append, ← split] at run
    rw [sourceLine?, open_eq]
    exact run
  constructor
  · exact ⟨parts, split, tokens, shown⟩
  · refine ⟨_, shown, ?_⟩
    rw [withoutCodes_coloured, ← split]
  · intro none
    rw [line?, none]
    rfl
  · intro found parsed
    rw [line?, parsed]
    rfl

end Highlight
end LexerConsole
