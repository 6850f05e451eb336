import LexerConsole.Text.Ascii

/-!
# Lenient reading

Any byte list can be shown as a text. What is well-formed is read as it stands, and
each longest beginning of a character that is broken off, like each byte that begins
no character, is shown as one replacement character.
-/

namespace LexerConsole.Text

open Alphabet

/-- The ranges of the bytes behind a first byte in a well-formed character. -/
def followerRanges (b : UInt8) : List (UInt8 × UInt8) :=
  if 0xC2 ≤ b && b ≤ 0xDF then [(0x80, 0xBF)]
  else if b = 0xE0 then [(0xA0, 0xBF), (0x80, 0xBF)]
  else if b = 0xED then [(0x80, 0x9F), (0x80, 0xBF)]
  else if 0xE1 ≤ b && b ≤ 0xEF then [(0x80, 0xBF), (0x80, 0xBF)]
  else if b = 0xF0 then [(0x90, 0xBF), (0x80, 0xBF), (0x80, 0xBF)]
  else if 0xF1 ≤ b && b ≤ 0xF3 then [(0x80, 0xBF), (0x80, 0xBF), (0x80, 0xBF)]
  else if b = 0xF4 then [(0x80, 0x8F), (0x80, 0xBF), (0x80, 0xBF)]
  else []

/-- The bytes at the front that lie in these ranges, one in each. -/
def followers : List (UInt8 × UInt8) → List UInt8 → List UInt8
  | (low, high) :: ranges, b :: rest =>
    if low ≤ b && b ≤ high then b :: followers ranges rest else []
  | _, _ => []

/-- The text that stands for any bytes. -/
def ofBytes : List UInt8 → Text
  | [] => []
  | b :: rest =>
    let behind := followers (followerRanges b) rest
    (ofUtf8? (b :: behind)).getD ['\uFFFD'] ++ ofBytes (rest.drop behind.length)
termination_by bytes => bytes.length

theorem followers_nil (bytes : List UInt8) : followers [] bytes = [] := by
  simp [followers]

theorem followerRanges_of_ascii {b : UInt8} (h : b < 0x80) : followerRanges b = [] := by
  have small : b.toNat < 0x80 := UInt8.lt_iff_toNat_lt.1 h
  have below : ∀ n : UInt8, 0x80 ≤ n.toNat → ¬ n ≤ b := by
    intro n hn hb
    have := UInt8.le_iff_toNat_le.1 hb
    omega
  have other : ∀ n : UInt8, 0x80 ≤ n.toNat → b ≠ n := by
    rintro n hn rfl
    omega
  simp [followerRanges, below, other]

theorem ofUtf8?_ascii {b : UInt8} (h : b < 0x80) : ofUtf8? [b] = some [shownByte b] := by
  have whole : utf8 [shownByte b] = [b] := by simp [utf8, utf8EncodeChar_shownByte h]
  rw [← whole, ofUtf8?_utf8]

/-- A byte of a longer character is not the UTF-8 form of a text. -/
theorem ofUtf8?_singleton_eq_none {b : UInt8} (h : ¬ b < 0x80) : ofUtf8? [b] = none := by
  rw [Option.eq_none_iff_forall_not_mem]
  intro t ht
  have whole : utf8 t = [b] := utf8_of_ofUtf8? ht
  cases t with
  | nil => simp [utf8] at whole
  | cons c t =>
    rw [utf8_cons] at whole
    by_cases hc : c.toNat < 0x80
    · rw [utf8EncodeChar_of_ascii hc] at whole
      obtain ⟨rfl, -⟩ := List.cons.inj whole
      exact h (UInt8.lt_iff_toNat_lt.2 (by simp; omega))
    · have long := one_lt_length_utf8EncodeChar hc
      have size := congrArg List.length whole
      rw [List.length_append, List.length_singleton] at size
      omega

theorem ofBytes_of_ascii {run : List UInt8} (h : ∀ b ∈ run, b < 0x80) :
    ofBytes run = shown run := by
  induction run with
  | nil => simp [ofBytes, shown]
  | cons b run ih =>
    have hb := h b List.mem_cons_self
    have tail := ih (fun d hd => h d (List.mem_cons_of_mem b hd))
    rw [ofBytes, followerRanges_of_ascii hb, followers_nil, ofUtf8?_ascii hb]
    simpa [shown] using tail

theorem ofBytes_singleton (b : UInt8) : ofBytes [b] = shown [b] := by
  by_cases h : b < 0x80
  · exact ofBytes_of_ascii (by simpa using h)
  · have none : followers (followerRanges b) [] = [] := by simp [followers]
    rw [ofBytes, none, ofUtf8?_singleton_eq_none h]
    simp [ofBytes, shown, shownByte, h]

end LexerConsole.Text
