import LexerConsole.Proofs.Strays
import Mathlib.Data.List.Chain

/-!
# Escape codes

Colours add escape codes to a text and change nothing else: when the codes are deleted in one
pass from left to right, the text is there again. A text could spoil this by an escape character
that a bracket follows, since the two might be the beginning of a code. The scanner never puts the
two into one token, and behind the text of a token there is always the escape character of a code.
-/

namespace LexerConsole

open Alphabet

/-- An escape character, a bracket, a number and the letter m. -/
def IsCode (code : List UInt8) : Prop :=
  ∃ digits, IsNumber digits ∧ code = 0x1B :: 0x5B :: (digits ++ [0x6D])

/-- The bytes behind the code at the front, if there is one. -/
def behindCode? : List UInt8 → Option (List UInt8)
  | esc :: bracket :: rest =>
    if esc = 0x1B ∧ bracket = 0x5B ∧ rest.takeWhile isDigit ≠ [] ∧
        (rest.dropWhile isDigit).head? = some 0x6D then
      some (rest.dropWhile isDigit).tail
    else none
  | _ => none

theorem behindCode?_eq_some_iff {bytes after : List UInt8} :
    behindCode? bytes = some after ↔ ∃ code, IsCode code ∧ bytes = code ++ after := by
  constructor
  · intro h
    match bytes, h with
    | esc :: bracket :: rest, h =>
      rw [behindCode?, Option.ite_none_right_eq_some] at h
      obtain ⟨⟨rfl, rfl, digits, final⟩, behind⟩ := h
      obtain ⟨more, split⟩ := List.head?_eq_some_iff.1 final
      rw [split, List.tail_cons] at behind
      obtain rfl := Option.some.inj behind
      have number : IsNumber (rest.takeWhile isDigit) :=
        ⟨digits, List.all_eq_true.1 List.all_takeWhile⟩
      refine ⟨_, ⟨_, number, rfl⟩, ?_⟩
      have whole : rest.takeWhile isDigit ++ 0x6D :: more = rest :=
        split ▸ List.takeWhile_append_dropWhile
      rw [List.cons_append, List.cons_append, List.append_assoc, List.singleton_append, whole]
  · rintro ⟨code, ⟨digits, number, rfl⟩, rfl⟩
    have run : (digits ++ 0x6D :: after).takeWhile isDigit = digits := by
      rw [List.takeWhile_append_of_pos number.2, List.takeWhile_cons_of_neg (by decide),
        List.append_nil]
    have rest : (digits ++ 0x6D :: after).dropWhile isDigit = 0x6D :: after := by
      rw [List.dropWhile_append_of_pos number.2, List.dropWhile_cons_of_neg (by decide)]
    simp [behindCode?, run, rest, number.1]

theorem length_lt_of_behindCode? {bytes after : List UInt8} (h : behindCode? bytes = some after) :
    after.length < bytes.length := by
  obtain ⟨code, ⟨digits, -, rfl⟩, rfl⟩ := behindCode?_eq_some_iff.1 h
  simp only [List.length_append, List.length_cons]
  omega

/-- The bytes without codes. What is put together by a deletion is not looked at again. -/
def withoutCodes : List UInt8 → List UInt8
  | [] => []
  | b :: rest =>
    match _h : behindCode? (b :: rest) with
    | some after => withoutCodes after
    | none => b :: withoutCodes rest
termination_by bytes => bytes.length
decreasing_by
  · exact length_lt_of_behindCode? _h
  · exact Nat.lt_succ_self _

/-- No escape character has a bracket right behind it. -/
def Calm (bytes : List UInt8) : Prop :=
  bytes.IsChain fun a b => a = 0x1B → b ≠ 0x5B

instance (bytes : List UInt8) : Decidable (Calm bytes) :=
  inferInstanceAs (Decidable (bytes.IsChain _))

section Deletion

variable {code bytes rest : List UInt8} {b : UInt8}

theorem withoutCodes_code_append (hc : IsCode code) (rest : List UInt8) :
    withoutCodes (code ++ rest) = withoutCodes rest := by
  have found : behindCode? (code ++ rest) = some rest := behindCode?_eq_some_iff.2 ⟨code, hc, rfl⟩
  obtain ⟨digits, -, rfl⟩ := hc
  rw [List.cons_append] at found ⊢
  rw [withoutCodes]
  split
  · rename_i after h
    rw [found] at h
    rw [Option.some.inj h]
  · rename_i h
    rw [found] at h
    cases h

theorem withoutCodes_cons (h : b = 0x1B → rest.head? ≠ some 0x5B) :
    withoutCodes (b :: rest) = b :: withoutCodes rest := by
  rw [withoutCodes]
  split
  · rename_i after found
    obtain ⟨code, ⟨digits, -, rfl⟩, split⟩ := behindCode?_eq_some_iff.1 found
    obtain ⟨rfl, rfl⟩ := List.cons.inj split
    exact absurd rfl (h rfl)
  · rfl

-- What a deletion brings together may read like a code, and it stays.
example : withoutCodes [0x1B, 0x1B, 0x5B, 0x33, 0x6D, 0x5B, 0x33, 0x6D] =
    [0x1B, 0x5B, 0x33, 0x6D] := by cbv

theorem withoutCodes_calm_append (hb : Calm bytes) (hr : rest.head? ≠ some 0x5B) :
    withoutCodes (bytes ++ rest) = bytes ++ withoutCodes rest := by
  induction bytes with
  | nil => rfl
  | cons b bytes ih =>
    obtain ⟨here, there⟩ := List.isChain_cons.1 hb
    have apart : b = 0x1B → (bytes ++ rest).head? ≠ some 0x5B := by
      intro escape
      cases bytes with
      | nil => exact hr
      | cons c bytes => simpa using here c rfl escape
    rw [List.cons_append, withoutCodes_cons apart, ih there]
    rfl

theorem calm_of_forall_ne (h : ∀ b ∈ bytes, b ≠ 0x1B) : Calm bytes := by
  induction bytes with
  | nil => exact .nil
  | cons b bytes ih =>
    obtain ⟨here, there⟩ := List.forall_mem_cons.1 h
    exact List.isChain_cons.2 ⟨fun _ _ escape => absurd escape here, ih there⟩

end Deletion

section Style

theorem isDigit_toUInt8 {c : Char} (h : c.isDigit) : isDigit c.toNat.toUInt8 := by
  have ascii : c.toNat < 0x80 := Nat.lt_of_le_of_lt (Char.isDigit_iff_toNat.1 h).2 (by decide)
  exact Text.forall_ascii (P := fun c => c.isDigit → isDigit c.toNat.toUInt8) (by decide) ascii h

theorem isNumber_utf8_decimal (n : Nat) : IsNumber (Text.decimal n).utf8 := by
  constructor
  · intro none
    exact Nat.toDigits_ne_nil (Text.eq_nil_of_utf8_eq_nil none)
  · intro b hb
    obtain ⟨c, hc, hb⟩ := List.mem_flatMap.1 hb
    have digit := Nat.isDigit_of_mem_toDigits (by decide) (by decide) hc
    have ascii : c.toNat < 0x80 :=
      Nat.lt_of_le_of_lt (Char.isDigit_iff_toNat.1 digit).2 (by decide)
    rw [Text.utf8EncodeChar_of_ascii ascii, List.mem_singleton] at hb
    exact hb ▸ isDigit_toUInt8 digit

theorem Effect.isCode_code (n : Nat) : IsCode (code n).utf8 := by
  refine ⟨_, isNumber_utf8_decimal n, ?_⟩
  rw [code, Text.utf8_cons, Text.utf8_cons, Text.utf8_append]
  rfl

theorem Effect.head?_code_append (n : Nat) (rest : List UInt8) :
    ((code n).utf8 ++ rest).head? ≠ some 0x5B := by
  obtain ⟨digits, -, written⟩ := isCode_code n
  rw [written, List.cons_append, List.head?_cons]
  decide

/-- The first text is the second with codes put in. Where the second stands bare at its end, what
is behind it must not begin with a bracket. -/
def IsStyled (styled t : Text) : Prop :=
  ∀ rest : List UInt8, rest.head? ≠ some 0x5B →
    withoutCodes (styled.utf8 ++ rest) = t.utf8 ++ withoutCodes rest

variable {styled t : Text}

theorem isStyled_of_calm (ht : Calm t.utf8) : IsStyled t t :=
  fun _ hr => withoutCodes_calm_append ht hr

/-- Behind an effect anything may stand. -/
theorem Effect.withoutCodes_apply (e : Effect) (h : IsStyled styled t) (rest : List UInt8) :
    withoutCodes ((e.apply styled).utf8 ++ rest) = t.utf8 ++ withoutCodes rest := by
  rw [apply, Text.utf8_append, Text.utf8_append, List.append_assoc, List.append_assoc,
    withoutCodes_code_append (isCode_code _), h _ (head?_code_append _ _),
    withoutCodes_code_append (isCode_code _)]

theorem isStyled_paint (k : Kind) (ht : Calm t.utf8) : IsStyled (paint k t) t := by
  rw [paint]
  induction k.effects with
  | nil => exact isStyled_of_calm ht
  | cons e effects ih => exact fun rest _ => e.withoutCodes_apply ih rest

end Style

section Tokens

theorem Kind.calm_name (k : Kind) : Calm k.name.utf8 := by
  have checked : ∀ k ∈ all, Calm k.name.utf8 := by decide
  exact checked k k.mem_all

theorem Whole.calm {lexeme : List UInt8} {kind : Kind} (h : Whole lexeme kind) :
    Calm (Text.utf8 (shown lexeme)) := by
  cases h with
  | spelled spells =>
    rw [Text.utf8_shown spells.ascii]
    refine calm_of_forall_ne ?_
    rintro b hb rfl
    exact absurd (spells.isKnown _ hb) (by decide)
  | @stray b =>
    -- A stray byte has nothing behind it, and the replacement character has no escape in it.
    by_cases ascii : b < 0x80
    · rw [Text.utf8_shown (by simpa using ascii)]
      exact .singleton b
    · rw [shown, List.map_singleton, shownByte, if_neg ascii]
      decide

theorem Lexes.calm {offset : Nat} {bytes : List UInt8} {ts : List Token}
    (h : Lexes offset bytes ts) : ∀ t ∈ ts, Calm t.text.utf8 := by
  induction h with
  | done =>
    intro t ht
    rw [List.mem_singleton.1 ht]
    exact .nil
  | token hb hl longest tail ih => exact List.forall_mem_cons.2 ⟨longest.complete.whole.calm, ih⟩

/-- The coloured form of a token without its codes is the plain one. -/
theorem Token.withoutCodes_coloured {t : Token} (ht : Calm t.text.utf8) (rest : List UInt8) :
    withoutCodes (t.coloured.utf8 ++ rest) = t.plain.utf8 ++ withoutCodes rest := by
  have calm : Calm (Text.utf8 "\x7bType:".toList) ∧ Calm (Text.utf8 " Literal:".toList) ∧
      Calm (Text.utf8 "\x7d".toList) := by decide
  have opening := isStyled_of_calm calm.1
  have name := isStyled_of_calm t.kind.calm_name
  have middle := isStyled_of_calm calm.2.1
  have closing := isStyled_of_calm calm.2.2
  have apart : ((Effect.dim.apply "\x7d".toList).utf8 ++ rest).head? ≠ some 0x5B := by
    rw [Effect.apply, Text.utf8_append, Text.utf8_append, List.append_assoc, List.append_assoc]
    exact Effect.head?_code_append _ _
  simp only [coloured, plain, plainPieces, Text.utf8_append, List.append_assoc, List.flatten_cons,
    List.flatten_nil, Effect.withoutCodes_apply _ opening, Effect.withoutCodes_apply _ name,
    Effect.withoutCodes_apply _ middle, isStyled_paint _ ht _ apart,
    Effect.withoutCodes_apply _ closing]
  rfl

end Tokens

namespace Listing

variable {o : Options}

theorem withoutCodes_lines (hc : o.coloured) {ts : List Token}
    (h : ∀ t ∈ ts, Calm t.text.utf8) :
    withoutCodes (lines o ts) = lines { o with coloured := false } ts := by
  induction ts with
  | nil => simp [lines, withoutCodes]
  | cons t ts ih =>
    obtain ⟨ht, hts⟩ := List.forall_mem_cons.1 h
    have step : withoutCodes (0x0A :: lines o ts) = 0x0A :: withoutCodes (lines o ts) :=
      withoutCodes_cons fun escape => absurd escape (by decide)
    rw [lines_cons, lines_cons, utf8_line, utf8_line, if_pos hc, if_neg Bool.false_ne_true,
      List.append_assoc, List.append_assoc, Token.withoutCodes_coloured ht, List.singleton_append,
      step, ih hts]
    rfl

/-- A coloured listing without its codes is the plain one, and both end alike. -/
theorem withoutCodes_report (o : Options) (cause : Cause) (source : Text) :
    let coloured := report { o with coloured := true } ⟨none, cause⟩ source
    let plain := report { o with coloured := false } ⟨none, cause⟩ source
    coloured.result = plain.result ∧ withoutCodes coloured.bytes = plain.bytes := by
  have calm : ∀ t ∈ listed o (tokenize source), Calm t.text.utf8 := by
    intro t ht
    have member := List.mem_of_mem_filter ((List.takeWhile_prefix _).mem ht)
    exact (lexes_tokenize source).calm t member
  constructor
  · rw [report_result, report_result]
    rfl
  · rw [report_bytes, report_bytes]
    exact withoutCodes_lines rfl calm

end Listing
end LexerConsole
