import LexerConsole.Scan.Cursor

/-!
# Steps of a scan

What a request for a token does, said without the cursor: it passes over blanks and then
over one complete lexeme, or it meets the end of the bytes. Every request of a cursor that
follows its source is such a step and leaves the cursor behind the token.
-/

namespace LexerConsole

open Alphabet

/-- `Step offset rest t rest'`: of the bytes `rest`, the first of them at `offset`, the next
token is `t`, and the bytes `rest'` are behind it. -/
inductive Step : Nat → List UInt8 → Token → List UInt8 → Prop where
  | eof {offset : Nat} {blanks : List UInt8} (hb : ∀ b ∈ blanks, isBlank b) :
      Step offset blanks (.eof (offset + blanks.length)) []
  | lexeme {offset : Nat} {blanks lexeme after : List UInt8} {kind : Kind}
      (hb : ∀ b ∈ blanks, isBlank b) (hl : ∀ b ∈ lexeme.head?, isBlank b = false)
      (hc : Complete lexeme kind after) :
      Step offset (blanks ++ (lexeme ++ after))
        ⟨kind, shown lexeme,
          ⟨offset + blanks.length, offset + blanks.length + lexeme.length⟩⟩ after

/-- Every byte list begins with a longest run of bytes that satisfy `p`. -/
theorem exists_run (p : UInt8 → Bool) (bytes : List UInt8) :
    ∃ run after, bytes = run ++ after ∧ (∀ b ∈ run, p b) ∧ ∀ b ∈ after.head?, p b = false := by
  induction bytes with
  | nil => exact ⟨[], [], rfl, by simp, by simp⟩
  | cons b bytes ih =>
    by_cases hb : p b
    · obtain ⟨run, after, rfl, hr, ha⟩ := ih
      refine ⟨b :: run, after, rfl, ?_, ha⟩
      intro c hc
      rcases List.mem_cons.1 hc with rfl | hc
      · exact hb
      · exact hr c hc
    · exact ⟨[], b :: bytes, rfl, by simp, by simpa using hb⟩

/-- There is only one way to split such a run off. -/
theorem run_unique {p : UInt8 → Bool} {run after run' after' : List UInt8}
    (h : run ++ after = run' ++ after') (hr : ∀ b ∈ run, p b) (ha : ∀ b ∈ after.head?, p b = false)
    (hr' : ∀ b ∈ run', p b) (ha' : ∀ b ∈ after'.head?, p b = false) :
    run = run' ∧ after = after' := by
  induction run generalizing run' with
  | nil =>
    cases run' with
    | nil => exact ⟨rfl, h⟩
    | cons b run' =>
      have stop := ha b (by rw [← List.nil_append after, h]; rfl)
      rw [hr' b List.mem_cons_self] at stop
      cases stop
  | cons b run ih =>
    cases run' with
    | nil =>
      have stop := ha' b (by rw [← List.nil_append after', ← h]; rfl)
      rw [hr b List.mem_cons_self] at stop
      cases stop
    | cons c run' =>
      obtain ⟨rfl, tails⟩ := List.cons.inj h
      obtain ⟨rfl, rfl⟩ := ih tails (fun d hd => hr d (List.mem_cons_of_mem b hd))
        (fun d hd => hr' d (List.mem_cons_of_mem b hd))
      exact ⟨rfl, rfl⟩

/-- Only a request that meets the end gives the closing token. -/
theorem Step.length_lt {offset : Nat} {rest rest' : List UInt8} {t : Token}
    (h : Step offset rest t rest') (ht : t.isEof = false) : rest'.length < rest.length := by
  cases h with
  | eof => cases ht
  | lexeme hb hl hc =>
    have positive := List.length_pos_iff.2 hc.whole.ne_nil
    rw [List.length_append, List.length_append]
    omega

namespace Cursor

variable (source : EncodedText) {n : Nat}

/-- Bytes in front of an offset can be put before those behind it. -/
theorem exists_before {rest : List UInt8} (h : source.bytes.drop n = rest) (hn : rest ≠ []) :
    ∃ before, source.bytes = before ++ rest ∧ before.length = n := by
  have inside : n < source.bytes.length := by
    by_cases hi : n < source.bytes.length
    · exact hi
    · exact absurd (h ▸ List.drop_eq_nil_of_le (Nat.le_of_not_lt hi)) hn
  refine ⟨source.bytes.take n, ?_, ?_⟩
  · rw [← h, List.take_append_drop]
  · rw [List.length_take]
    omega

theorem tokenFrom?_atOffset {lexeme after : List UInt8} (kind : Kind)
    (h : source.bytes.drop n = lexeme ++ after) (hn : lexeme ≠ []) :
    tokenFrom? source kind n (atOffset source (n + lexeme.length)) =
      some (⟨kind, Text.ofBytes lexeme, ⟨n, n + lexeme.length⟩⟩,
        atOffset source (n + lexeme.length)) := by
  obtain ⟨before, split, rfl⟩ := exists_before source h (by simp [hn])
  have piece := Span.slice?_append before lexeme after
  rw [List.append_assoc, ← split] at piece
  simp only [tokenFrom?, atOffset, piece, Option.bind_eq_bind, Option.bind_some, Option.pure_def]

theorem word?_atOffset {word after : List UInt8} (h : source.bytes.drop n = word ++ after)
    (hw : IsWord word) (ha : ∀ b ∈ after.head?, isWordByte b = false) :
    word? source (atOffset source n) =
      some (⟨.ofWord (shown word), shown word, ⟨n, n + word.length⟩⟩,
        atOffset source (n + word.length)) := by
  have walked := readWhile_atOffset source h hw.isWordByte_of_mem ha
  obtain ⟨before, split, rfl⟩ := exists_before source h (by simp [hw.ne_nil])
  rw [source.bytes_eq, ← List.append_assoc] at split
  have piece := Text.slice?_of_ascii split hw.ne_nil hw.ascii
  simp only [word?, walked]
  simp only [atOffset, piece, Option.bind_eq_bind, Option.bind_some, Option.pure_def]

theorem number?_atOffset {digits after : List UInt8} (h : source.bytes.drop n = digits ++ after)
    (hd : IsNumber digits) (ha : ∀ b ∈ after.head?, isDigit b = false) :
    number? source (atOffset source n) =
      some (⟨.int, shown digits, ⟨n, n + digits.length⟩⟩,
        atOffset source (n + digits.length)) := by
  have walked := readWhile_atOffset source h hd.2 ha
  have token := tokenFrom?_atOffset source .int h hd.1
  rw [Text.ofBytes_of_ascii hd.ascii] at token
  simp only [number?, walked]
  exact token

/-- The longer of two symbols is taken when the equals sign is there, and the cursor is then one
byte further. -/
theorem symbol?_atOffset {b : UInt8} {rest : List UInt8} {s : Symbol}
    (h : source.bytes.drop n = b :: rest) (hs : Symbol.ofByte? b = some s) :
    ∃ t last after, symbol? source b (atOffset source n) = some (t, last) ∧
      read source last = atOffset source (n + t.bytes.length) ∧ b :: rest = t.bytes ++ after ∧
      ∀ c ∈ after.head?, (Kind.symbol t).takes c = false := by
  have single : s.bytes = [b] := Symbol.ofByte?_eq_some_iff.1 hs
  have next : (atOffset source n).peek source = rest.head? := by
    rw [peek_atOffset, h, List.tail_cons]
  cases hw : s.withEquals? with
  | none =>
    refine ⟨s, atOffset source n, rest, by simp [symbol?, hs, hw], by rw [single]; rfl,
      by rw [single]; rfl, ?_⟩
    intro c _
    rw [Kind.takes_symbol, hw]
    rfl
  | some longer =>
    have double : longer.bytes = [b, 0x3D] := by
      rw [Symbol.bytes_of_withEquals? hw, single]
      rfl
    by_cases he : rest.head? = some 0x3D
    · cases rest with
      | nil => cases he
      | cons e after =>
        obtain rfl : e = 0x3D := Option.some.inj he
        refine ⟨longer, atOffset source (n + 1), after, ?_, by rw [double]; rfl,
          by rw [double]; rfl, ?_⟩
        · simp [symbol?, hs, hw, next, read_atOffset]
        · intro c _
          rw [Kind.takes_symbol, Symbol.withEquals?_of_withEquals? hw]
          rfl
    · refine ⟨s, atOffset source n, rest, by simp [symbol?, hs, hw, next, he],
        by rw [single]; rfl, by rw [single]; rfl, ?_⟩
      intro c hc
      have other : c ≠ 0x3D := by
        rintro rfl
        exact he hc
      simp [Kind.takes_symbol, other]

/-- At every byte the cursor cuts out a complete lexeme and stops behind it. -/
theorem lexeme?_atOffset {b : UInt8} {rest : List UInt8} (h : source.bytes.drop n = b :: rest) :
    ∃ lexeme kind after, b :: rest = lexeme ++ after ∧ Complete lexeme kind after ∧
      lexeme? source b (atOffset source n) =
        some (⟨kind, shown lexeme, ⟨n, n + lexeme.length⟩⟩,
          atOffset source (n + lexeme.length)) := by
  cases hs : Symbol.ofByte? b with
  | some s =>
    obtain ⟨t, last, after, found, moved, split, ends⟩ := symbol?_atOffset source h hs
    have token := tokenFrom?_atOffset source (.symbol t) (h.trans split) t.bytes_ne_nil
    rw [Text.ofBytes_of_ascii (fun _ => Symbol.ascii_of_mem_bytes)] at token
    refine ⟨t.bytes, .symbol t, after, split, ⟨.spelled (.symbol t), ends⟩, ?_⟩
    simp only [lexeme?, found, moved]
    exact token
  | none =>
    have absent : symbol? source b (atOffset source n) = none := by simp [symbol?, hs]
    by_cases hl : isLetter b
    · obtain ⟨run, after, rfl, hr, ha⟩ := exists_run isWordByte rest
      have word : IsWord (b :: run) := ⟨hl, hr⟩
      refine ⟨b :: run, _, after, rfl, ⟨.spelled word.spells, ?_⟩, ?_⟩
      · intro c hc
        rw [Kind.takes_ofWord]
        exact ha c hc
      · simp only [lexeme?, absent, if_pos hl]
        exact word?_atOffset source h word ha
    · by_cases hd : isDigit b
      · obtain ⟨run, after, rfl, hr, ha⟩ := exists_run isDigit rest
        have number : IsNumber (b :: run) := ⟨List.cons_ne_nil b run, List.forall_mem_cons.2 ⟨hd, hr⟩⟩
        refine ⟨b :: run, .int, after, rfl, ⟨.spelled (.int number), ha⟩, ?_⟩
        simp only [lexeme?, absent, if_neg hl, if_pos hd]
        exact number?_atOffset source h number ha
      · have stray : IsStray b :=
          ⟨by simp [isWordByte, hl, hd], Symbol.ofByte?_eq_none_iff.1 hs⟩
        have split : source.bytes.drop n = [b] ++ rest := h
        have token := tokenFrom?_atOffset source .illegal split (List.cons_ne_nil b [])
        rw [Text.ofBytes_singleton] at token
        refine ⟨[b], .illegal, rest, rfl, ⟨.stray stray, fun _ _ => rfl⟩, ?_⟩
        simp only [lexeme?, absent, if_neg hl, if_neg hd]
        exact token

/-- Every request has an answer. -/
theorem next?_atOffset (hn : n ≤ source.bytes.length) :
    ∃ t, next? source (atOffset source n) = some (t, atOffset source t.span.stop) ∧
      t.span.stop ≤ source.bytes.length ∧
      Step n (source.bytes.drop n) t (source.bytes.drop t.span.stop) := by
  obtain ⟨blanks, front, split, hb, hf⟩ := exists_run isBlank (source.bytes.drop n)
  have walked := readWhile_atOffset source split hb hf
  have behind : source.bytes.drop (n + blanks.length) = front := by
    rw [← List.drop_drop, split, List.drop_left]
  have met : (atOffset source (n + blanks.length)).current = front.head? := by
    rw [current_atOffset, behind]
  have size : source.bytes.length - n = blanks.length + front.length := by
    rw [← List.length_drop, split, List.length_append]
  cases front with
  | nil =>
    have stop : n + blanks.length = source.bytes.length := by
      simp only [List.length_nil] at size
      omega
    refine ⟨.eof source.bytes.length, ?_, Nat.le_refl _, ?_⟩
    · rw [stop] at walked met
      simp only [next?, walked, met, List.head?_nil]
      rfl
    · rw [split, List.append_nil, ← stop]
      simpa [Token.eof, behind] using Step.eof hb
  | cons b rest =>
    obtain ⟨lexeme, kind, after, cut, complete, found⟩ := lexeme?_atOffset source behind
    have length := congrArg List.length cut
    rw [List.length_append] at length
    refine ⟨⟨kind, shown lexeme, ⟨n + blanks.length, n + blanks.length + lexeme.length⟩⟩,
      ?_, ?_, ?_⟩
    · simp only [next?, walked, met, List.head?_cons, found]
    · simp only
      omega
    · have rest : source.bytes.drop (n + blanks.length + lexeme.length) = after := by
        rw [← List.drop_drop, behind, cut, List.drop_left]
      rw [split, cut, rest]
      refine .lexeme hb ?_ complete
      intro c hc
      refine hf c ?_
      rw [Option.mem_def] at hc ⊢
      rw [cut, List.head?_append, hc]
      rfl

variable {source} {c c' : Cursor} {t : Token}

theorem Follows.start : Follows source (start source) :=
  ⟨Nat.zero_le _, rfl⟩

theorem Follows.isSome_next? (h : Follows source c) : (c.next? source).isSome := by
  obtain ⟨t, found, _⟩ := next?_atOffset source h.inside
  rw [h.settled, found]
  rfl

theorem Follows.eq_of_next? (h : Follows source c) (hn : c.next? source = some (t, c')) :
    c' = atOffset source t.span.stop ∧ t.span.stop ≤ source.bytes.length ∧
      Step c.position (source.bytes.drop c.position) t (source.bytes.drop t.span.stop) := by
  obtain ⟨t, found, inside, step⟩ := next?_atOffset source h.inside
  rw [← h.settled, hn] at found
  cases found
  exact ⟨rfl, inside, step⟩

/-- A request leaves the cursor at the end of the token. -/
theorem Follows.of_next? (h : Follows source c) (hn : c.next? source = some (t, c')) :
    Follows source c' := by
  obtain ⟨rfl, inside, _⟩ := h.eq_of_next? hn
  exact ⟨inside, rfl⟩

theorem Follows.step_of_next? (h : Follows source c) (hn : c.next? source = some (t, c')) :
    c'.position = t.span.stop ∧
      Step c.position (source.bytes.drop c.position) t (source.bytes.drop c'.position) := by
  obtain ⟨rfl, _, step⟩ := h.eq_of_next? hn
  exact ⟨rfl, step⟩

end Cursor
end LexerConsole
