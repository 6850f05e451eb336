import LexerConsole.Proofs.Locality
import LexerConsole.Proofs.Unlimited

/-!
# Bytes outside the alphabet

Whether a byte becomes an illegal token is decided by the byte alone: it is not absorbed by a
lexeme or by the blanks beside it, and no byte of the alphabet is ever illegal. So the illegal
tokens of a text can be read off its bytes without a scanner, and `Lexes.filter_isIllegal` says
that they are the ones that the scanner gives. A listing that denies illegal tokens therefore
stops at the first byte outside the alphabet and nowhere else.
-/

namespace LexerConsole

namespace Alphabet

/-- The characters of the operators and delimiters. -/
def signs : List Char :=
  ['+', '-', '*', '/', '<', '>', ';', ',', '(', ')', '{', '}', '=', '!']

def isSign (b : UInt8) : Bool :=
  signs.any fun c => b = c.toNat.toUInt8

/-- The lexical alphabet: letters, digits, the underscore, blanks and signs. -/
def isKnown (b : UInt8) : Bool :=
  isWordByte b || isBlank b || isSign b

end Alphabet

open Alphabet

section Alphabet

variable {b : UInt8}

theorem isSign_of_mem_bytes {s : Symbol} (h : b ∈ s.bytes) : isSign b := by
  have checked : ∀ s ∈ Symbol.all, s.bytes.all isSign := by decide
  exact List.all_eq_true.1 (checked s s.mem_all) b h

theorem exists_symbol_of_isSign (h : isSign b) : ∃ s : Symbol, s.bytes = [b] := by
  have checked : signs.all fun c => (Symbol.ofByte? c.toNat.toUInt8).isSome := by decide
  obtain ⟨c, hc, hb⟩ := List.any_eq_true.1 h
  obtain ⟨s, found⟩ := Option.isSome_iff_exists.1 (List.all_eq_true.1 checked c hc)
  rw [← of_decide_eq_true hb] at found
  exact ⟨s, Symbol.ofByte?_eq_some_iff.1 found⟩

theorem isStray_iff : IsStray b ↔ isWordByte b = false ∧ isSign b = false := by
  constructor
  · rintro ⟨other, none⟩
    refine ⟨other, Bool.eq_false_iff.2 ?_⟩
    intro sign
    obtain ⟨s, written⟩ := exists_symbol_of_isSign sign
    exact none s written
  · rintro ⟨other, noSign⟩
    refine ⟨other, ?_⟩
    intro s written
    have sign : isSign b := isSign_of_mem_bytes (written ▸ List.mem_cons_self)
    exact Bool.false_ne_true (noSign.symm.trans sign)

theorem isKnown_eq_false_iff : isKnown b = false ↔ IsStray b ∧ isBlank b = false := by
  rw [isStray_iff, isKnown, Bool.or_eq_false_iff, Bool.or_eq_false_iff]
  exact and_right_comm

theorem isKnown_of_isBlank (h : isBlank b) : isKnown b := by
  simp [isKnown, h]

theorem ascii_of_isKnown (h : isKnown b) : b < 0x80 := by
  simp only [isKnown, Bool.or_eq_true] at h
  rcases h with (word | blank) | sign
  · exact ascii_of_isWordByte word
  · exact Text.ascii_of_isBlank blank
  · obtain ⟨s, written⟩ := exists_symbol_of_isSign sign
    exact Symbol.ascii_of_mem_bytes (written ▸ List.mem_cons_self)

theorem isKnown_eq_false_of_foreign (h : ¬ b < 0x80) : isKnown b = false :=
  Bool.eq_false_iff.2 fun known => h (ascii_of_isKnown known)

theorem Spells.isKnown {lexeme : List UInt8} {kind : Kind} (h : Spells lexeme kind) :
    ∀ b ∈ lexeme, isKnown b := by
  intro b hb
  simp only [Alphabet.isKnown, Bool.or_eq_true]
  rcases spells_iff.1 h with ⟨isWord, -⟩ | ⟨isNumber, -⟩ | ⟨s, rfl, -⟩
  · exact Or.inl (Or.inl (isWord.isWordByte_of_mem b hb))
  · exact Or.inl (Or.inl (isWordByte_of_isDigit (isNumber.2 b hb)))
  · exact Or.inr (isSign_of_mem_bytes hb)

theorem Spells.kind_ne_illegal {lexeme : List UInt8} {kind : Kind} (h : Spells lexeme kind) :
    kind ≠ .illegal := by
  rintro rfl
  cases h

/-- Only ASCII bytes make a lexeme longer. -/
theorem Kind.ascii_of_takes {k : Kind} (h : k.takes b) : b < 0x80 := by
  cases k with
  | illegal => cases h
  | eof => cases h
  | ident => exact ascii_of_isWordByte h
  | int => exact ascii_of_isWordByte (isWordByte_of_isDigit h)
  | symbol s =>
    simp only [takes_symbol, Bool.and_eq_true, decide_eq_true_eq] at h
    obtain ⟨-, rfl⟩ := h
    decide
  | keyword k => exact ascii_of_isWordByte h

end Alphabet

/-- The token of a byte that is in no lexeme. -/
def Token.stray (i : Nat) (b : UInt8) : Token :=
  ⟨.illegal, [shownByte b], ⟨i, i + 1⟩⟩

/-- A token for each byte outside the alphabet, read off the bytes one by one. -/
def strays : Nat → List UInt8 → List Token
  | _, [] => []
  | i, b :: bytes => if isKnown b then strays (i + 1) bytes else .stray i b :: strays (i + 1) bytes

/-- The first byte outside the alphabet is `b`, and it stands at `i`. -/
structure FirstUnknown (bytes : List UInt8) (i : Nat) (b : UInt8) : Prop where
  found : bytes[i]? = some b
  unknown : isKnown b = false
  least : ∀ j < i, ∀ c ∈ bytes[j]?, isKnown c

section Bytes

variable {b : UInt8} {bytes : List UInt8} {t : Token}

theorem strays_cons_of_isKnown (hb : isKnown b) (i : Nat) (bytes : List UInt8) :
    strays i (b :: bytes) = strays (i + 1) bytes :=
  if_pos hb

theorem strays_cons_of_unknown (hb : isKnown b = false) (i : Nat) (bytes : List UInt8) :
    strays i (b :: bytes) = .stray i b :: strays (i + 1) bytes :=
  if_neg (Bool.eq_false_iff.1 hb)

theorem strays_append (i : Nat) (bytes more : List UInt8) :
    strays i (bytes ++ more) = strays i bytes ++ strays (i + bytes.length) more := by
  induction bytes generalizing i with
  | nil => rfl
  | cons b bytes ih =>
    have place : i + (b :: bytes).length = i + 1 + bytes.length := by
      simp only [List.length_cons]
      omega
    cases hb : isKnown b with
    | true =>
      simp only [List.cons_append, strays_cons_of_isKnown hb, place]
      exact ih (i + 1)
    | false =>
      simp only [List.cons_append, strays_cons_of_unknown hb, place]
      exact congrArg (Token.stray i b :: ·) (ih (i + 1))

theorem strays_eq_nil (h : ∀ b ∈ bytes, isKnown b) (i : Nat) : strays i bytes = [] := by
  induction bytes generalizing i with
  | nil => rfl
  | cons b bytes ih =>
    obtain ⟨known, rest⟩ := List.forall_mem_cons.1 h
    exact (strays_cons_of_isKnown known i bytes).trans (ih rest (i + 1))

theorem mem_strays_iff {i : Nat} : t ∈ strays i bytes ↔
    ∃ j b, bytes[j]? = some b ∧ isKnown b = false ∧ t = .stray (i + j) b := by
  induction bytes generalizing i with
  | nil => simp [strays]
  | cons b bytes ih =>
    have later : ∀ j, i + 1 + j = i + (j + 1) := by omega
    constructor
    · intro ht
      cases hb : isKnown b with
      | true =>
        rw [strays_cons_of_isKnown hb] at ht
        obtain ⟨j, c, hj, hc, rfl⟩ := ih.1 ht
        exact ⟨j + 1, c, hj, hc, by rw [later]⟩
      | false =>
        rw [strays_cons_of_unknown hb] at ht
        rcases List.mem_cons.1 ht with rfl | ht
        · exact ⟨0, b, rfl, hb, rfl⟩
        · obtain ⟨j, c, hj, hc, rfl⟩ := ih.1 ht
          exact ⟨j + 1, c, hj, hc, by rw [later]⟩
    · rintro ⟨j, c, hj, hc, rfl⟩
      cases j with
      | zero =>
        obtain rfl := Option.some.inj hj
        rw [strays_cons_of_unknown hc]
        exact List.mem_cons_self
      | succ j =>
        have member : Token.stray (i + (j + 1)) c ∈ strays (i + 1) bytes :=
          ih.2 ⟨j, c, hj, hc, by rw [later]⟩
        cases hb : isKnown b with
        | true => exact strays_cons_of_isKnown hb i bytes ▸ member
        | false => exact strays_cons_of_unknown hb i bytes ▸ List.mem_cons_of_mem _ member

theorem firstUnknown_succ_iff {j : Nat} {c : UInt8} :
    FirstUnknown (b :: bytes) (j + 1) c ↔ isKnown b ∧ FirstUnknown bytes j c := by
  constructor
  · rintro ⟨found, unknown, least⟩
    refine ⟨least 0 (Nat.succ_pos j) b rfl, found, unknown, ?_⟩
    intro k hk
    exact least (k + 1) (Nat.succ_lt_succ hk)
  · rintro ⟨known, found, unknown, least⟩
    refine ⟨found, unknown, ?_⟩
    intro k hk d hd
    cases k with
    | zero => exact Option.some.inj hd ▸ known
    | succ k => exact least k (Nat.lt_of_succ_lt_succ hk) d hd

theorem head?_strays_iff {i : Nat} : (strays i bytes).head? = some t ↔
    ∃ j b, FirstUnknown bytes j b ∧ t = .stray (i + j) b := by
  induction bytes generalizing i with
  | nil =>
    constructor
    · nofun
    · rintro ⟨j, b, first, -⟩
      cases first.found
  | cons b bytes ih =>
    cases hb : isKnown b with
    | true =>
      have later : ∀ j, i + 1 + j = i + (j + 1) := by omega
      rw [strays_cons_of_isKnown hb, ih]
      constructor
      · rintro ⟨j, c, first, rfl⟩
        exact ⟨j + 1, c, firstUnknown_succ_iff.2 ⟨hb, first⟩, by rw [later]⟩
      · rintro ⟨j, c, first, rfl⟩
        cases j with
        | zero =>
          obtain rfl := Option.some.inj first.found
          exact absurd hb (Bool.eq_false_iff.1 first.unknown)
        | succ j => exact ⟨j, c, (firstUnknown_succ_iff.1 first).2, by rw [later]⟩
    | false =>
      rw [strays_cons_of_unknown hb]
      constructor
      · intro head
        obtain rfl := Option.some.inj head
        exact ⟨0, b, ⟨rfl, hb, nofun⟩, rfl⟩
      · rintro ⟨j, c, first, rfl⟩
        cases j with
        | zero =>
          obtain rfl := Option.some.inj first.found
          rfl
        | succ j => exact absurd (firstUnknown_succ_iff.1 first).1 (Bool.eq_false_iff.1 hb)

theorem exists_firstUnknown_iff :
    (∃ i b, FirstUnknown bytes i b) ↔ ∃ b ∈ bytes, isKnown b = false := by
  constructor
  · rintro ⟨i, b, first⟩
    exact ⟨b, List.mem_of_getElem? first.found, first.unknown⟩
  · rintro ⟨b, hb, unknown⟩
    obtain ⟨j, found⟩ := List.getElem?_of_mem hb
    have member : Token.stray (0 + j) b ∈ strays 0 bytes :=
      mem_strays_iff.2 ⟨j, b, found, unknown, rfl⟩
    obtain ⟨t, head⟩ := Option.isSome_iff_exists.1
      (List.isSome_head?.2 (List.ne_nil_of_mem member))
    obtain ⟨i, c, first, -⟩ := head?_strays_iff.1 head
    exact ⟨i, c, first⟩

/-- Bytes outside ASCII are all shown alike. -/
theorem strays_of_foreign (h : ∀ b ∈ bytes, ¬ b < 0x80) (i : Nat) :
    strays i bytes = (List.range' i bytes.length).map fun j =>
      ⟨.illegal, ['\uFFFD'], ⟨j, j + 1⟩⟩ := by
  induction bytes generalizing i with
  | nil => rfl
  | cons b bytes ih =>
    obtain ⟨foreign, rest⟩ := List.forall_mem_cons.1 h
    have shape : Token.stray i b = ⟨.illegal, ['\uFFFD'], ⟨i, i + 1⟩⟩ := by
      simp only [Token.stray, shownByte, if_neg foreign]
    rw [strays_cons_of_unknown (isKnown_eq_false_of_foreign foreign), shape, ih rest (i + 1)]
    rfl

end Bytes

section Derivation

variable {offset : Nat} {bytes : List UInt8} {ts : List Token}

/-- No byte outside the alphabet gets lost in a lexeme or among blanks, and no other is illegal. -/
theorem Lexes.filter_isIllegal (h : Lexes offset bytes ts) :
    ts.filter Token.isIllegal = strays offset bytes := by
  induction h with
  | @done offset blanks hb =>
    exact (strays_eq_nil (fun b hm => isKnown_of_isBlank (hb b hm)) offset).symm
  | @token offset blanks lexeme after kind ts hb hl longest tail ih =>
    have gap := strays_eq_nil (fun b hm => isKnown_of_isBlank (hb b hm)) offset
    rw [strays_append, strays_append, gap, List.nil_append]
    cases longest.complete.whole with
    | spelled spells =>
      have legal : ¬ kind = .illegal := spells.kind_ne_illegal
      rw [strays_eq_nil spells.isKnown, List.filter_cons_of_neg (by simpa [Token.isIllegal]), ih]
      rfl
    | @stray b hs =>
      have unknown : isKnown b = false := isKnown_eq_false_iff.2 ⟨hs, hl b rfl⟩
      rw [strays_cons_of_unknown unknown, List.filter_cons_of_pos rfl, ih]
      rfl

theorem Lexes.mem_illegal_iff (h : Lexes offset bytes ts) {t : Token} :
    t ∈ ts ∧ t.isIllegal ↔
      ∃ j b, bytes[j]? = some b ∧ isKnown b = false ∧ t = .stray (offset + j) b := by
  rw [← mem_strays_iff, ← h.filter_isIllegal, List.mem_filter]

theorem Lexes.find?_illegal_iff (h : Lexes offset bytes ts) {t : Token} :
    ts.find? Token.isIllegal = some t ↔
      ∃ j b, FirstUnknown bytes j b ∧ t = .stray (offset + j) b := by
  rw [← head?_strays_iff, ← h.filter_isIllegal, List.head?_filter]

/-- Bytes outside the alphabet at the front are the first tokens. -/
theorem Lexes.strays_isPrefix {unknown after : List UInt8}
    (h : Lexes offset (unknown ++ after) ts) (hu : ∀ b ∈ unknown, isKnown b = false) :
    strays offset unknown <+: ts := by
  induction unknown generalizing offset ts with
  | nil => exact List.nil_prefix
  | cons b unknown ih =>
    obtain ⟨first, rest⟩ := List.forall_mem_cons.1 hu
    obtain ⟨stray, solid⟩ := isKnown_eq_false_iff.1 first
    have complete : Complete [b] .illegal (unknown ++ after) := ⟨.stray stray, fun _ _ => rfl⟩
    have split : Lexes offset ([] ++ ([b] ++ (unknown ++ after))) ts := h
    obtain ⟨tail, rfl, behind⟩ := split.exists_tail (by simp) (by simpa using solid) complete.longest
    rw [strays_cons_of_unknown first]
    exact List.cons_prefix_cons.2 ⟨rfl, ih behind rest⟩

end Derivation

/-- A character outside ASCII is cut into its bytes, whatever is beside it. -/
theorem foreign_isInfix {c : Char} (hc : ¬ c.toNat < 0x80) (before after : Text) :
    strays before.byteLength (String.utf8EncodeChar c) <:+: tokenize (before ++ c :: after) := by
  have foreign : ∀ b ∈ String.utf8EncodeChar c, ¬ b < 0x80 :=
    fun b hb => Text.not_lt_of_mem_utf8EncodeChar hc hb
  -- What is in front ends there, since no byte of the character can make a lexeme longer.
  have free : ∀ t ∈ (tokenize before).dropLast.getLast?, t.span.stop = 0 + before.utf8.length →
      ∀ b ∈ (Text.utf8 (c :: after)).head?, t.kind.takes b = false := by
    intro t _ _ b head
    have long := Text.one_lt_length_utf8EncodeChar hc
    obtain ⟨d, more, split⟩ :=
      List.exists_cons_of_ne_nil (List.ne_nil_of_length_pos (Nat.lt_of_succ_lt long))
    rw [Text.utf8_cons, split] at head
    obtain rfl := Option.some.inj head
    refine Bool.eq_false_iff.2 ?_
    intro takes
    exact foreign d (split ▸ List.mem_cons_self) (Kind.ascii_of_takes takes)
  have behind := (lexes_tokenize (c :: after)).shift before.utf8.length
  have whole := ((lexes_tokenize before).append behind free).unique
    (Text.utf8_append before (c :: after) ▸ lexes_tokenize (before ++ c :: after))
  rw [Text.utf8_cons] at behind
  have front := behind.strays_isPrefix fun b hb => isKnown_eq_false_of_foreign (foreign b hb)
  rw [Nat.zero_add] at front
  rw [← whole, ← Text.length_utf8]
  exact front.isInfix.trans (List.suffix_append _ _).isInfix

section Source

variable {source : Text}

/-- The illegal tokens of a text are those of its bytes outside the alphabet. -/
theorem mem_tokenize_illegal_iff {t : Token} : t ∈ tokenize source ∧ t.isIllegal ↔
    ∃ i b, source.utf8[i]? = some b ∧ isKnown b = false ∧ t = .stray i b := by
  simpa only [Nat.zero_add] using (lexes_tokenize source).mem_illegal_iff

/-- A listing that denies illegal tokens fails at the first byte outside the alphabet. -/
theorem Listing.report_denied_iff {o : Options} (ho : o.denyIllegal) {cause : Cause}
    {fault : Fault} : (report o ⟨none, cause⟩ source).result = .error fault ↔
      ∃ i b, FirstUnknown source.utf8 i b ∧ fault = .illegalToken [shownByte b] i := by
  have first : ∀ {t}, (tokenize source).find? Token.isIllegal = some t ↔
      ∃ i b, FirstUnknown source.utf8 i b ∧ t = .stray i b := by
    intro t
    simpa only [Nat.zero_add] using (lexes_tokenize source).find?_illegal_iff
  rw [report_error_iff, and_iff_right ho]
  constructor
  · rintro ⟨t, found, rfl⟩
    obtain ⟨i, b, unknown, rfl⟩ := first.1 found
    exact ⟨i, b, unknown, rfl⟩
  · rintro ⟨i, b, unknown, rfl⟩
    exact ⟨_, first.2 ⟨i, b, unknown, rfl⟩, rfl⟩

/-- A listing fails where bytes outside the alphabet are denied and there are some. -/
theorem Listing.fails_iff (o : Options) (cause : Cause) (source : Text) :
    (∃ fault, (report o ⟨none, cause⟩ source).result = .error fault) ↔
      o.denyIllegal ∧ ∃ b ∈ source.utf8, isKnown b = false := by
  rw [← exists_firstUnknown_iff]
  constructor
  · rintro ⟨fault, failed⟩
    obtain ⟨denied, -⟩ := (report_error_iff source fault).1 failed
    obtain ⟨i, b, first, -⟩ := (report_denied_iff denied).1 failed
    exact ⟨denied, i, b, first⟩
  · rintro ⟨denied, i, b, first⟩
    exact ⟨_, (report_denied_iff denied).2 ⟨i, b, first, rfl⟩⟩

end Source

/-- What the bytes outside the alphabet are to the scanner and to a listing that denies them. -/
structure StrayBytes (source : Text) : Prop where
  covered : ∀ i, (∃ t ∈ tokenize source, t.isIllegal ∧ t.span.start ≤ i ∧ i < t.span.stop) ↔
    ∃ b, source.utf8[i]? = some b ∧ isKnown b = false
  single : ∀ t ∈ tokenize source, t.isIllegal → t.span.stop = t.span.start + 1
  /-- The bytes of a longer character are illegal one by one, side by side. -/
  foreign : ∀ (before after : Text) (c : Char), source = before ++ c :: after → ¬ c.toNat < 0x80 →
    ((List.range' before.byteLength c.utf8Size).map fun i =>
      (⟨.illegal, ['\uFFFD'], ⟨i, i + 1⟩⟩ : Token)) <:+: tokenize source
  denied : ∀ (o : Listing.Options) (cause : Cause),
    (∃ fault, (Listing.report { o with denyIllegal := true } ⟨none, cause⟩ source).result =
      .error fault) ↔ ∃ b ∈ source.utf8, isKnown b = false
  /-- The fault is about the first of them. -/
  first : ∀ (o : Listing.Options) (cause : Cause) (fault : Fault),
    (Listing.report { o with denyIllegal := true } ⟨none, cause⟩ source).result = .error fault ↔
      ∃ i b, FirstUnknown source.utf8 i b ∧ fault = .illegalToken [shownByte b] i

/-- Each byte is judged by itself, wherever it stands. -/
theorem strayBytes_tokenize (source : Text) : StrayBytes source := by
  constructor
  · intro i
    constructor
    · rintro ⟨t, ht, hi, lower, upper⟩
      obtain ⟨j, b, found, unknown, rfl⟩ := mem_tokenize_illegal_iff.1 ⟨ht, hi⟩
      simp only [Token.stray] at lower upper
      obtain rfl : i = j := by omega
      exact ⟨b, found, unknown⟩
    · rintro ⟨b, found, unknown⟩
      obtain ⟨ht, hi⟩ := mem_tokenize_illegal_iff.2 ⟨i, b, found, unknown, rfl⟩
      exact ⟨_, ht, hi, Nat.le_refl i, Nat.lt_succ_self i⟩
  · intro t ht hi
    obtain ⟨i, b, -, -, rfl⟩ := mem_tokenize_illegal_iff.1 ⟨ht, hi⟩
    rfl
  · rintro before after c rfl hc
    have bytes := foreign_isInfix hc before after
    rwa [strays_of_foreign fun b hb => Text.not_lt_of_mem_utf8EncodeChar hc hb,
      String.length_utf8EncodeChar] at bytes
  · intro o cause
    rw [← exists_firstUnknown_iff]
    constructor
    · rintro ⟨fault, failed⟩
      obtain ⟨i, b, first, -⟩ := (Listing.report_denied_iff rfl).1 failed
      exact ⟨i, b, first⟩
    · rintro ⟨i, b, first⟩
      exact ⟨_, (Listing.report_denied_iff rfl).2 ⟨i, b, first, rfl⟩⟩
  · intro o cause fault
    exact Listing.report_denied_iff rfl

end LexerConsole
