import LexerConsole.Alphabet
import LexerConsole.Text.Blank
import LexerConsole.Text.Boundary

/-!
# ASCII in the UTF-8 form

A byte below 0x80 is a character by itself, and every byte of a longer character
is at least 0x80. So a run of ASCII bytes can be cut out of a text wherever it
stands, and the piece is the run read byte by byte.
-/

namespace LexerConsole.Text

open Alphabet

theorem utf8_cons (c : Char) (t : Text) : utf8 (c :: t) = String.utf8EncodeChar c ++ utf8 t := by
  simp [utf8]

theorem utf8EncodeChar_of_ascii {c : Char} (h : c.toNat < 0x80) :
    String.utf8EncodeChar c = [c.toNat.toUInt8] := by
  have small : c.val.toNat ≤ 0x7f := Nat.le_of_lt_succ h
  simp only [String.utf8EncodeChar, if_pos small]
  rfl

/-- The bytes of a longer character are all outside ASCII. -/
theorem not_lt_of_mem_utf8EncodeChar {c : Char} {b : UInt8} (h : ¬ c.toNat < 0x80)
    (hb : b ∈ String.utf8EncodeChar c) : ¬ b < 0x80 := by
  have large : ¬ c.val.toNat ≤ 0x7f := fun hc => h (Nat.lt_succ_of_le hc)
  rw [String.utf8EncodeChar, if_neg large] at hb
  rw [UInt8.lt_iff_toNat_lt]
  split at hb
  · simp only [List.mem_cons, List.not_mem_nil, or_false] at hb
    rcases hb with rfl | rfl <;> rw [UInt8.toNat_ofNat'] <;> simp <;> omega
  · split at hb
    · simp only [List.mem_cons, List.not_mem_nil, or_false] at hb
      rcases hb with rfl | rfl | rfl <;> rw [UInt8.toNat_ofNat'] <;> simp <;> omega
    · simp only [List.mem_cons, List.not_mem_nil, or_false] at hb
      rcases hb with rfl | rfl | rfl | rfl <;> rw [UInt8.toNat_ofNat'] <;> simp <;> omega

theorem one_lt_length_utf8EncodeChar {c : Char} (h : ¬ c.toNat < 0x80) :
    1 < (String.utf8EncodeChar c).length := by
  have large : ¬ c.val.toNat ≤ 0x7f := fun hc => h (Nat.lt_succ_of_le hc)
  rw [String.utf8EncodeChar, if_neg large]
  split
  · simp
  · split <;> simp

theorem utf8EncodeChar_shownByte {b : UInt8} (h : b < 0x80) :
    String.utf8EncodeChar (shownByte b) = [b] := by
  have small : b.toNat < 0x80 := UInt8.lt_iff_toNat_lt.1 h
  have valid : b.toNat.isValidChar := Or.inl (by omega)
  have same : (shownByte b).toNat = b.toNat := by
    rw [shownByte, if_pos h, Char.ofNat, dif_pos valid]
    rfl
  rw [utf8EncodeChar_of_ascii (by rw [same]; exact small), same]
  simp

theorem shownByte_toUInt8 {c : Char} (h : c.toNat < 0x80) : shownByte c.toNat.toUInt8 = c := by
  have same : (c.toNat.toUInt8).toNat = c.toNat := by simp; omega
  have small : c.toNat.toUInt8 < 0x80 := UInt8.lt_iff_toNat_lt.2 (by rw [same]; exact h)
  rw [shownByte, if_pos small, same, Char.ofNat_toNat]

/-- What is checked number by number holds of every ASCII character. -/
theorem forall_ascii {P : Char → Prop} (checked : ∀ n < 0x80, P (Char.ofNat n)) {c : Char}
    (h : c.toNat < 0x80) : P c := by
  have holds := checked c.toNat h
  rwa [Char.ofNat_toNat] at holds

/-- The blanks among the bytes are the blanks among the characters. -/
theorem isBlank_toUInt8 {c : Char} (h : c.toNat < 0x80) :
    Alphabet.isBlank c.toNat.toUInt8 = isBlankChar c :=
  forall_ascii (P := fun c => Alphabet.isBlank c.toNat.toUInt8 = isBlankChar c) (by decide) h

theorem ascii_of_isBlankChar {c : Char} (h : isBlankChar c) : c.toNat < 0x80 := by
  simp only [isBlankChar, Bool.or_eq_true, decide_eq_true_eq] at h
  rcases h with ((rfl | rfl) | rfl) | rfl <;> decide

theorem ascii_of_isBlank {b : UInt8} (h : Alphabet.isBlank b) : b < 0x80 := by
  simp only [Alphabet.isBlank, Bool.or_eq_true, decide_eq_true_eq] at h
  rcases h with ((rfl | rfl) | rfl) | rfl <;> decide

theorem isBlank_of_mem_utf8 {t : Text} (h : t.isBlank) : ∀ b ∈ t.utf8, Alphabet.isBlank b := by
  intro b hb
  obtain ⟨c, hc, hb⟩ := List.mem_flatMap.1 hb
  have blank := List.all_eq_true.1 h c hc
  have ascii := ascii_of_isBlankChar blank
  rw [utf8EncodeChar_of_ascii ascii, List.mem_singleton] at hb
  rw [hb, isBlank_toUInt8 ascii, blank]

/-- An ASCII text is read byte by byte. -/
theorem shown_utf8 {t : Text} (h : ∀ c ∈ t, c.toNat < 0x80) : shown t.utf8 = t := by
  induction t with
  | nil => rfl
  | cons c t ih =>
    have ascii := h c List.mem_cons_self
    have tail := ih (fun d hd => h d (List.mem_cons_of_mem c hd))
    rw [utf8_cons, utf8EncodeChar_of_ascii ascii, List.singleton_append, shown, List.map_cons,
      shownByte_toUInt8 ascii]
    exact congrArg (c :: ·) tail

/-- An ASCII byte stands behind all bytes of a longer character in front of it. -/
theorem exists_of_longer_append {c : Char} {bytes before after : List UInt8} {b : UInt8}
    (hc : ¬ c.toNat < 0x80) (hb : b < 0x80)
    (h : String.utf8EncodeChar c ++ bytes = before ++ b :: after) :
    ∃ more, before = String.utf8EncodeChar c ++ more ∧ bytes = more ++ b :: after := by
  rcases List.append_eq_append_iff.1 h with behind | ⟨inside, hi, ha⟩
  · exact behind
  · cases inside with
    | nil => exact ⟨[], by simpa using hi.symm, by simpa using ha.symm⟩
    | cons d inside =>
      obtain ⟨rfl, -⟩ := List.cons.inj ha
      have member : b ∈ String.utf8EncodeChar c := by simp [hi]
      exact absurd hb (not_lt_of_mem_utf8EncodeChar hc member)

/-- An ASCII byte in the UTF-8 form is a character of the text. -/
theorem exists_of_utf8_eq_cons {t : Text} {before after : List UInt8} {b : UInt8}
    (h : t.utf8 = before ++ b :: after) (hb : b < 0x80) :
    ∃ t₁ t₂, t = t₁ ++ shownByte b :: t₂ ∧ utf8 t₁ = before ∧ utf8 t₂ = after := by
  induction t generalizing before with
  | nil => simp [utf8] at h
  | cons c t ih =>
    rw [utf8_cons] at h
    by_cases hc : c.toNat < 0x80
    · have whole := utf8EncodeChar_of_ascii hc
      rw [whole] at h
      cases before with
      | nil =>
        obtain ⟨rfl, rfl⟩ := List.cons.inj h
        exact ⟨[], t, by rw [shownByte_toUInt8 hc]; rfl, rfl, rfl⟩
      | cons d before =>
        obtain ⟨rfl, tail⟩ := List.cons.inj h
        obtain ⟨t₁, t₂, rfl, rfl, rfl⟩ := ih tail
        exact ⟨c :: t₁, t₂, rfl, by rw [utf8_cons, whole]; rfl, rfl⟩
    · obtain ⟨more, rfl, tail⟩ := exists_of_longer_append hc hb h
      obtain ⟨t₁, t₂, rfl, rfl, rfl⟩ := ih tail
      exact ⟨c :: t₁, t₂, rfl, utf8_cons c t₁, rfl⟩

theorem shownByte_mem {t : Text} {b : UInt8} (h : b ∈ t.utf8) (hb : b < 0x80) :
    shownByte b ∈ t := by
  obtain ⟨before, after, split⟩ := List.append_of_mem h
  obtain ⟨t₁, t₂, rfl, -, -⟩ := exists_of_utf8_eq_cons split hb
  exact List.mem_append_right t₁ List.mem_cons_self

/-- A run of ASCII bytes at the front is read byte by byte. -/
theorem exists_of_utf8_eq_append {t : Text} {run after : List UInt8}
    (h : t.utf8 = run ++ after) (hr : ∀ b ∈ run, b < 0x80) :
    ∃ rest, t = shown run ++ rest ∧ utf8 rest = after := by
  induction run generalizing t with
  | nil => exact ⟨t, rfl, h⟩
  | cons b run ih =>
    obtain ⟨t₁, t₂, rfl, empty, hu⟩ :=
      exists_of_utf8_eq_cons (show t.utf8 = [] ++ b :: (run ++ after) from h)
        (hr b List.mem_cons_self)
    obtain rfl := eq_nil_of_utf8_eq_nil empty
    obtain ⟨rest, rfl, ha⟩ := ih hu (fun d hd => hr d (List.mem_cons_of_mem b hd))
    exact ⟨rest, rfl, ha⟩

theorem utf8_shown {run : List UInt8} (h : ∀ b ∈ run, b < 0x80) : utf8 (shown run) = run := by
  induction run with
  | nil => rfl
  | cons b run ih =>
    have tail := ih (fun d hd => h d (List.mem_cons_of_mem b hd))
    rw [shown, List.map_cons, utf8_cons, utf8EncodeChar_shownByte (h b List.mem_cons_self)]
    exact congrArg (b :: ·) tail

/-- A run of ASCII bytes can be cut out between its own ends. -/
theorem slice?_of_ascii {t : Text} {before run after : List UInt8}
    (h : t.utf8 = before ++ run ++ after) (hn : run ≠ []) (hr : ∀ b ∈ run, b < 0x80) :
    t.slice? before.length (before.length + run.length) = some (shown run) := by
  obtain ⟨b, tail, rfl⟩ := List.exists_cons_of_ne_nil hn
  obtain ⟨t₁, t₂, rfl, rfl, hu⟩ :=
    exists_of_utf8_eq_cons (by simpa using h) (hr b List.mem_cons_self)
  obtain ⟨rest, rfl, -⟩ :=
    exists_of_utf8_eq_append hu (fun d hd => hr d (List.mem_cons_of_mem b hd))
  have size : (b :: tail).length = byteLength (shown (b :: tail)) := by
    rw [← length_utf8, utf8_shown hr]
  rw [length_utf8, size, ← slice?_append t₁ (shown (b :: tail)) rest]
  simp [shown]

end LexerConsole.Text
