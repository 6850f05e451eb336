/-!
# Texts and their bytes

A text is a list of characters. Its UTF-8 form is a list of bytes, and all
offsets of the library count these bytes. Reading is strict: a byte list that is
not the UTF-8 form of a text has no text.
-/

namespace LexerConsole

abbrev Text := List Char

namespace Text

/-- The UTF-8 form, character by character. -/
def utf8 (t : Text) : List UInt8 :=
  t.flatMap String.utf8EncodeChar

/-- The number of bytes in the UTF-8 form. -/
def byteLength : Text → Nat
  | [] => 0
  | c :: t => c.utf8Size + byteLength t

/-- The text whose UTF-8 form is given, if there is one. -/
def ofUtf8? (bytes : List UInt8) : Option Text :=
  bytes.toByteArray.utf8Decode?.map Array.toList

/-- Decimal digits, without leading zeros. -/
def decimal (n : Nat) : Text :=
  Nat.toDigits 10 n

/-- Lower-case hexadecimal digits, without leading zeros. -/
def hexadecimal (n : Nat) : Text :=
  Nat.toDigits 16 n

/-- Split at every occurrence of a character; there is always one piece more than
there are occurrences. -/
def splitOn (c : Char) : Text → List Text
  | [] => [[]]
  | d :: rest =>
    if d = c then [] :: splitOn c rest
    else match splitOn c rest with
      | [] => [[d]]
      | piece :: pieces => (d :: piece) :: pieces

theorem length_utf8 (t : Text) : t.utf8.length = t.byteLength := by
  induction t with
  | nil => rfl
  | cons c t ih =>
    have step : utf8 (c :: t) = String.utf8EncodeChar c ++ utf8 t := by simp [utf8]
    rw [step, List.length_append, ih]
    simp [byteLength]

theorem utf8_append (a b : Text) : utf8 (a ++ b) = utf8 a ++ utf8 b := by
  simp [utf8]

theorem byteLength_append (a b : Text) : byteLength (a ++ b) = byteLength a + byteLength b := by
  induction a with
  | nil => exact (Nat.zero_add _).symm
  | cons c a ih => rw [List.cons_append, byteLength, byteLength, ih, Nat.add_assoc]

theorem eq_nil_of_byteLength_eq_zero {t : Text} (h : t.byteLength = 0) : t = [] := by
  cases t with
  | nil => rfl
  | cons c t =>
    have positive := c.utf8Size_pos
    rw [byteLength] at h
    omega

theorem eq_nil_of_utf8_eq_nil {t : Text} (h : t.utf8 = []) : t = [] := by
  refine eq_nil_of_byteLength_eq_zero ?_
  rw [← length_utf8, h]
  rfl

theorem ofUtf8?_utf8 (t : Text) : ofUtf8? t.utf8 = some t := by
  have encoded : t.utf8.toByteArray = List.utf8Encode t := rfl
  simp [ofUtf8?, encoded]

/-- Strict reading gives the text of exactly these bytes. -/
theorem utf8_of_ofUtf8? {bytes : List UInt8} {t : Text} (h : ofUtf8? bytes = some t) :
    t.utf8 = bytes := by
  obtain ⟨chars, hd, rfl⟩ := Option.map_eq_some_iff.1 h
  obtain ⟨l, hl⟩ := ByteArray.isSome_utf8Decode?_iff.1 (Option.isSome_of_mem hd)
  rw [hl, List.utf8Decode?_utf8Encode] at hd
  obtain rfl := Option.some.inj hd
  have same : (utf8 l).toByteArray = bytes.toByteArray := hl.symm
  exact List.toByteArray_inj.1 same

/-- A run of characters that satisfy `p` is the longest beginning of such characters where none
stands behind it. -/
theorem takeWhile_run {p : Char → Bool} {front rest : Text} (inside : ∀ c ∈ front, p c)
    (ends : ∀ c ∈ rest.head?, p c = false) :
    (front ++ rest).takeWhile p = front ∧ (front ++ rest).dropWhile p = rest := by
  rw [List.takeWhile_append_of_pos inside, List.dropWhile_append_of_pos inside]
  cases rest with
  | nil => exact ⟨List.append_nil front, rfl⟩
  | cons c rest =>
    have stop : ¬ p c := Bool.eq_false_iff.1 (ends c rfl)
    rw [List.takeWhile_cons_of_neg stop, List.dropWhile_cons_of_neg stop]
    exact ⟨List.append_nil front, rfl⟩

/-- What stands behind the longest run does not go on with it. -/
theorem eq_false_of_mem_head?_dropWhile {p : Char → Bool} {t : Text} {c : Char}
    (h : c ∈ (t.dropWhile p).head?) : p c = false := by
  have stop := List.head?_dropWhile_not p t
  rwa [Option.mem_def.1 h] at stop

end Text
end LexerConsole
