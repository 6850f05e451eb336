import LexerConsole.Output.Transcript
import LexerConsole.Proofs.Decoding
import LexerConsole.Proofs.EscapeCodes

/-!
# Lines of a log and of a listing

What is said about tokens is one line for each notice. Numbers are written with digits and letters,
the names of kinds are plain words, and a quoted text holds only characters that can be read where
they stand, which a line break is not. So the lines can be told apart again. A listing has one line
for each listed token, with colours or without, since no escape code has a line break in it.
-/

namespace LexerConsole

open Alphabet

namespace Text

section Digits

variable {base n : Nat} {c : Char}

/-- In any base a number is written with digits of that base. -/
theorem exists_of_mem_toDigits (hb : 1 < base) (h : c ∈ Nat.toDigits base n) :
    ∃ d < base, c = d.digitChar := by
  induction n using Nat.strong_induction_on with
  | _ n ih =>
    by_cases small : n < base
    · rw [Nat.toDigits_of_lt_base small, List.mem_singleton] at h
      exact ⟨n, small, h⟩
    · have large : base ≤ n := Nat.not_lt.1 small
      rw [Nat.toDigits_of_base_le hb large] at h
      rcases List.mem_append.1 h with front | last
      · exact ih (n / base) (Nat.div_lt_self (by omega) hb) front
      · exact ⟨n % base, Nat.mod_lt n (by omega), List.mem_singleton.1 last⟩

theorem isAlphanum_of_mem_toDigits (hb : 1 < base) (hs : base ≤ 16)
    (h : c ∈ Nat.toDigits base n) : c.isAlphanum := by
  obtain ⟨d, hd, rfl⟩ := exists_of_mem_toDigits hb h
  have checked : ∀ d < 16, d.digitChar.isAlphanum := by decide
  exact checked d (Nat.lt_of_lt_of_le hd hs)

theorem isAlphanum_of_mem_decimal (h : c ∈ decimal n) : c.isAlphanum :=
  isAlphanum_of_mem_toDigits (by decide) (by decide) h

theorem decimal_injective {m : Nat} (h : decimal m = decimal n) : m = n := by
  have same := congrArg (Nat.ofDigitChars 10 · 0) h
  have read : ∀ k, Nat.ofDigitChars 10 (decimal k) 0 = k :=
    fun _ => Nat.ofDigitChars_toDigits (by decide) (by decide)
  simpa only [read] using same

end Digits

theorem break_not_mem_decimal (n : Nat) : '\n' ∉ decimal n :=
  fun h => absurd (isAlphanum_of_mem_decimal h) (by decide)

section Shown

variable {base n : Nat} {c d : Char}

theorem isUnshown_eq_false_of_mem_toDigits (hb : 1 < base) (hs : base ≤ 16)
    (h : c ∈ Nat.toDigits base n) : isUnshown c = false := by
  obtain ⟨d, hd, rfl⟩ := exists_of_mem_toDigits hb h
  have checked : ∀ d < 16, isPrintable d.digitChar = true := by decide
  exact isUnshown_eq_false_of_isPrintable (checked d (Nat.lt_of_lt_of_le hd hs))

theorem isUnshown_eq_false_of_mem {t : Text} (h : d ∈ t) (printed : t.all isPrintable = true) :
    isUnshown d = false :=
  isUnshown_eq_false_of_isPrintable (List.all_eq_true.1 printed d h)

/-- What is written for a character can be read, whatever the character is. -/
theorem isUnshown_eq_false_of_mem_quotedChar (h : d ∈ quotedChar c) : isUnshown d = false := by
  unfold quotedChar at h
  split_ifs at h with quote backslash tab lineFeed carriage nul unshown
  · exact isUnshown_eq_false_of_mem h (by decide)
  · exact isUnshown_eq_false_of_mem h (by decide)
  · exact isUnshown_eq_false_of_mem h (by decide)
  · exact isUnshown_eq_false_of_mem h (by decide)
  · exact isUnshown_eq_false_of_mem h (by decide)
  · exact isUnshown_eq_false_of_mem h (by decide)
  · rcases List.mem_append.1 h with front | closing
    · rcases List.mem_append.1 front with opening | digits
      · exact isUnshown_eq_false_of_mem opening (by decide)
      · exact isUnshown_eq_false_of_mem_toDigits (by decide) (by decide) digits
    · exact isUnshown_eq_false_of_mem closing (by decide)
  · rw [List.mem_singleton.1 h]
    exact Bool.eq_false_iff.2 unshown

theorem isUnshown_eq_false_of_mem_quoted {t : Text} (h : d ∈ quoted t) : isUnshown d = false := by
  rcases List.mem_cons.1 h with rfl | h
  · exact isUnshown_eq_false_of_isPrintable (by decide)
  · rcases List.mem_append.1 h with inside | closing
    · obtain ⟨c, -, member⟩ := List.mem_flatMap.1 inside
      exact isUnshown_eq_false_of_mem_quotedChar member
    · exact isUnshown_eq_false_of_mem closing (by decide)

end Shown

end Text

/-- A complaint about an illegal token can be read, whatever the token is. -/
theorem Fault.isUnshown_eq_false_of_mem_illegalToken {text : Text} {offset : Nat} :
    ∀ c ∈ (Fault.illegalToken text offset).message, Text.isUnshown c = false := by
  intro c h
  rcases List.mem_append.1 h with front | digits
  · rcases List.mem_append.1 front with front | place
    · rcases List.mem_append.1 front with opening | quoted
      · exact Text.isUnshown_eq_false_of_mem opening (by decide)
      · exact Text.isUnshown_eq_false_of_mem_quoted quoted
    · exact Text.isUnshown_eq_false_of_mem place (by decide)
  · exact Text.isUnshown_eq_false_of_mem_toDigits (by decide) (by decide) digits

/-- It stands on one line. -/
theorem Fault.break_not_mem_illegalToken (text : Text) (offset : Nat) :
    '\n' ∉ (Fault.illegalToken text offset).message := by
  intro h
  have shown := isUnshown_eq_false_of_mem_illegalToken '\n' h
  rw [Text.isUnshown_of_control (by decide)] at shown
  cases shown

theorem IsCode.break_not_mem {code : List UInt8} (h : IsCode code) : 0x0A ∉ code := by
  obtain ⟨digits, number, rfl⟩ := h
  have absent : 0x0A ∉ digits := fun hm => absurd (number.2 _ hm) (by decide)
  simp [absent]

/-- Codes are deleted without any line break. -/
theorem count_withoutCodes (bytes : List UInt8) :
    (withoutCodes bytes).count 0x0A = bytes.count 0x0A := by
  fun_induction withoutCodes bytes with
  | case1 => rfl
  | case2 b rest after found ih =>
    obtain ⟨code, isCode, split⟩ := behindCode?_eq_some_iff.1 found
    rw [split, List.count_append, List.count_eq_zero.2 isCode.break_not_mem, Nat.zero_add, ih]
  | case3 b rest other ih => rw [List.count_cons, List.count_cons, ih]

namespace Listing

variable {o : Options} {cause : Cause} {source : Text}

theorem mem_of_mem_listed {ts : List Token} {t : Token} (h : t ∈ listed o ts) : t ∈ ts :=
  List.mem_of_mem_filter ((List.takeWhile_prefix _).mem h)

/-- There are as many lines as there are listed tokens, coloured or not. -/
theorem count_report (o : Options) (cause : Cause) (source : Text) :
    (report o ⟨none, cause⟩ source).bytes.count 0x0A = (listed o (tokenize source)).length := by
  have unbroken : ∀ t ∈ listed o (tokenize source), '\n' ∉ t.text :=
    fun t ht => (break_not_mem_text (mem_of_mem_listed ht)).1
  have calm : ∀ t ∈ listed o (tokenize source), Calm t.text.utf8 :=
    fun t ht => (lexes_tokenize source).calm t (mem_of_mem_listed ht)
  rw [report_bytes]
  cases coloured : o.coloured with
  | false => exact count_lines coloured unbroken
  | true =>
    rw [← count_withoutCodes, withoutCodes_lines coloured calm]
    exact count_lines rfl unbroken

/-- The number that a listing reports is that of its lines. -/
theorem eq_count_of_ok {n : Nat} (ok : (report o ⟨none, cause⟩ source).result = .ok n) :
    n = (report o ⟨none, cause⟩ source).bytes.count 0x0A := by
  rw [count_report, listed_eq_chosen_of_ok ok]
  exact ((report_ok_iff source n).1 ok).2

end Listing

end LexerConsole
