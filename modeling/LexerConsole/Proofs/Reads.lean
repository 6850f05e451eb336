import LexerConsole.Proofs.LexemeClasses
import LexerConsole.Scan.Pull
import Mathlib.Algebra.Group.Nat.Defs

/-!
# Reads of a request

A request moves its cursor by reads of one byte and in no other way. This module lists
the cursors at which a request reads, in the order of the reads, and shows that the
registers agree with the source at each of them: no read is made past the end, no offset
outgrows a machine word, and no token is cut out of the text inside a character. The
cursor itself may well rest inside a character between two requests.
-/

namespace LexerConsole

open Alphabet

section Pieces

variable {n : Nat} {rest rest' : List UInt8} {t : Token}

theorem Step.start_le_stop (h : Step n rest t rest') : t.span.start ≤ t.span.stop := by
  cases h with
  | eof => exact Nat.le_refl _
  | lexeme => exact Nat.le_add_right _ _

/-- Every token but a stray is a piece of the text, cut out between characters. -/
theorem Step.slice?_text {text : Text} {before : List UInt8} (h : Step n rest t rest')
    (hn : before.length = n) (hs : text.utf8 = before ++ rest) (ht : t.kind ≠ .illegal) :
    text.slice? t.span.start t.span.stop = some t.text := by
  have size := congrArg List.length hs
  rw [Text.length_utf8, List.length_append, hn] at size
  cases h with
  | eof =>
    have piece := Text.slice?_append text [] []
    rw [List.append_nil, List.append_nil, size] at piece
    exact piece
  | @lexeme blanks lexeme _ kind hb hl hc =>
    cases hc.whole with
    | stray => exact absurd rfl ht
    | spelled spells =>
      have place : (before ++ blanks).length = n + blanks.length := by
        rw [List.length_append, hn]
      rw [← List.append_assoc, ← List.append_assoc] at hs
      have piece := Text.slice?_of_ascii hs spells.ne_nil spells.ascii
      rw [place] at piece
      exact piece

end Pieces

namespace Cursor

section Listing

variable (source : EncodedText)

/-- `Walk c reads c'`: reads at the cursors `reads`, one after the other, lead from `c` to `c'`. -/
inductive Walk : Cursor → List Cursor → Cursor → Prop where
  | stay (c : Cursor) : Walk c [] c
  | read {c c' : Cursor} {reads : List Cursor} (tail : Walk (c.read source) reads c') :
      Walk c (c :: reads) c'

def loopReads (p : UInt8 → Bool) (c : Cursor) : List Cursor :=
  if _h : c.current.any p then c :: loopReads p (c.read source) else []
termination_by c.unread source
decreasing_by
  obtain ⟨b, hb, _⟩ := (Option.any_eq_true _ _).1 _h
  exact unread_read_lt source hb

/-- The cursors at which the reads up to the last byte of a symbol are made. -/
def symbolReads (b : UInt8) (c : Cursor) : List Cursor :=
  match (Symbol.ofByte? b).bind Symbol.withEquals? with
  | some _ => if c.peek source = some 0x3D then [c] else []
  | none => []

def lexemeReads (b : UInt8) (c : Cursor) : List Cursor :=
  match c.symbol? source b with
  | some (_, last) => c.symbolReads source b ++ [last]
  | none =>
    if isLetter b then c.loopReads source isWordByte
    else if isDigit b then c.loopReads source isDigit
    else [c]

def nextReads (c : Cursor) : List Cursor :=
  let front := c.readWhile source isBlank
  c.loopReads source isBlank ++ front.current.elim [] fun b => front.lexemeReads source b

end Listing

variable {source : EncodedText} {c c' c'' : Cursor} {ds es : List Cursor}

theorem Walk.append (h : Walk source c ds c') (h' : Walk source c' es c'') :
    Walk source c (ds ++ es) c'' := by
  induction h with
  | stay => exact h'
  | read _ ih => exact .read (ih h')

/-- Each read moves the cursor by one byte. -/
theorem Walk.readPosition_eq (h : Walk source c ds c') :
    c'.readPosition = c.readPosition + ds.length := by
  induction h with
  | stay => rfl
  | read _ ih =>
    rw [ih, List.length_cons]
    simp only [Cursor.read]
    omega

theorem walk_loopReads (p : UInt8 → Bool) (c : Cursor) :
    Walk source c (c.loopReads source p) (c.readWhile source p) := by
  fun_induction loopReads source p c with
  | case1 c goes ih =>
    rw [readWhile, dif_pos goes]
    exact .read ih
  | case2 c stops =>
    rw [readWhile, dif_neg stops]
    exact .stay c

/-- A symbol is taken where it begins, or one read further where an equals sign stands. -/
theorem symbol?_cases {b : UInt8} {s : Symbol} {last : Cursor}
    (h : c.symbol? source b = some (s, last)) :
    (c.symbolReads source b = [] ∧ last = c) ∨
      (c.symbolReads source b = [c] ∧ last = c.read source ∧ c.peek source = some 0x3D) := by
  obtain ⟨t, ht, found⟩ := Option.map_eq_some_iff.1 h
  simp only [symbolReads, ht, Option.bind_some]
  cases hw : t.withEquals? with
  | none =>
    rw [hw] at found
    obtain ⟨-, rfl⟩ := Prod.mk.inj found
    exact Or.inl ⟨rfl, rfl⟩
  | some longer =>
    simp only [hw] at found ⊢
    by_cases he : c.peek source = some 0x3D
    · rw [if_pos he] at found ⊢
      obtain ⟨-, rfl⟩ := Prod.mk.inj found
      exact Or.inr ⟨rfl, rfl, he⟩
    · rw [if_neg he] at found ⊢
      obtain ⟨-, rfl⟩ := Prod.mk.inj found
      exact Or.inl ⟨rfl, rfl⟩

theorem walk_symbolReads {b : UInt8} {s : Symbol} {last : Cursor}
    (h : c.symbol? source b = some (s, last)) : Walk source c (c.symbolReads source b) last := by
  rcases symbol?_cases h with ⟨reads, rfl⟩ | ⟨reads, rfl, -⟩
  · rw [reads]
    exact .stay last
  · rw [reads]
    exact .read (.stay _)

theorem eq_of_tokenFrom? {kind : Kind} {start : Nat} {t : Token}
    (h : tokenFrom? source kind start c = some (t, c')) : c' = c := by
  obtain ⟨bytes, -, token⟩ := Option.bind_eq_some_iff.1 h
  exact (Prod.mk.inj (Option.some.inj token)).2.symm

theorem eq_of_word? {t : Token} (h : c.word? source = some (t, c')) :
    c' = c.readWhile source isWordByte := by
  obtain ⟨text, -, token⟩ := Option.bind_eq_some_iff.1 h
  exact (Prod.mk.inj (Option.some.inj token)).2.symm

theorem walk_lexemeReads {b : UInt8} {t : Token} (h : c.lexeme? source b = some (t, c')) :
    Walk source c (c.lexemeReads source b) c' := by
  rw [lexeme?] at h
  rw [lexemeReads]
  cases hs : c.symbol? source b with
  | some found =>
    obtain ⟨s, last⟩ := found
    rw [hs] at h
    obtain rfl := eq_of_tokenFrom? h
    exact (walk_symbolReads hs).append (.read (.stay _))
  | none =>
    simp only [hs] at h ⊢
    by_cases hl : isLetter b
    · rw [if_pos hl] at h ⊢
      obtain rfl := eq_of_word? h
      exact walk_loopReads isWordByte c
    · rw [if_neg hl] at h ⊢
      by_cases hd : isDigit b
      · rw [if_pos hd] at h ⊢
        obtain rfl := eq_of_tokenFrom? h
        exact walk_loopReads isDigit c
      · rw [if_neg hd] at h ⊢
        obtain rfl := eq_of_tokenFrom? h
        exact .read (.stay _)

theorem walk_nextReads {t : Token} (h : c.next? source = some (t, c')) :
    Walk source c (c.nextReads source) c' := by
  have blanks : Walk source c _ _ := walk_loopReads isBlank c
  simp only [next?] at h
  rw [nextReads]
  cases hc : (c.readWhile source isBlank).current with
  | none =>
    rw [hc] at h
    obtain ⟨-, rfl⟩ := Prod.mk.inj (Option.some.inj h)
    simpa using blanks
  | some b =>
    rw [hc] at h
    exact blanks.append (walk_lexemeReads h)

section Bytes

/-- A loop reads only at bytes. -/
theorem isSome_of_mem_loopReads {p : UInt8 → Bool} :
    ∀ d ∈ c.loopReads source p, d.current.isSome := by
  fun_induction loopReads source p c with
  | case1 c goes ih =>
    intro d hd
    rcases List.mem_cons.1 hd with rfl | hd
    · obtain ⟨b, hb, -⟩ := (Option.any_eq_true _ _).1 goes
      rw [hb]
      rfl
    · exact ih d hd
  | case2 => simp

/-- The read behind an equals sign is made at that sign. -/
theorem isSome_of_mem_symbolReads {b : UInt8} {s : Symbol} {last : Cursor}
    (h : c.symbol? source b = some (s, last)) (hc : c.current.isSome) :
    ∀ d ∈ c.symbolReads source b ++ [last], d.current.isSome := by
  rcases symbol?_cases h with ⟨reads, rfl⟩ | ⟨reads, rfl, equals⟩
  · simpa [reads] using hc
  · have met : (c.read source).current = some 0x3D := equals
    simpa [reads, met] using hc

theorem isSome_of_mem_lexemeReads {b : UInt8} (hc : c.current.isSome) :
    ∀ d ∈ c.lexemeReads source b, d.current.isSome := by
  rw [lexemeReads]
  cases hs : c.symbol? source b with
  | some found =>
    exact isSome_of_mem_symbolReads hs hc
  | none =>
    simp only
    split
    · exact isSome_of_mem_loopReads
    · split
      · exact isSome_of_mem_loopReads
      · simpa using hc

/-- No request reads past the end. -/
theorem isSome_of_mem_nextReads : ∀ d ∈ c.nextReads source, d.current.isSome := by
  intro d hd
  rw [nextReads] at hd
  rcases List.mem_append.1 hd with hd | hd
  · exact isSome_of_mem_loopReads d hd
  · cases hc : (c.readWhile source isBlank).current with
    | none =>
      rw [hc] at hd
      cases hd
    | some b =>
      rw [hc] at hd
      exact isSome_of_mem_lexemeReads (by rw [hc]; rfl) d hd

end Bytes

section Registers

variable (source) in
/-- What the registers say at any time. -/
structure InStep (c : Cursor) : Prop where
  ahead : c.readPosition = c.position + 1
  inside : c.position ≤ source.bytes.length
  current : c.current = source.bytes[c.position]?
  /-- No byte of the source stands for its end. -/
  ended : c.current = none ↔ c.position = source.bytes.length

theorem Follows.inStep (h : Follows source c) : InStep source c := by
  obtain ⟨inside, settled⟩ := h
  have current : c.current = source.bytes[c.position]? := by
    rw [settled]
    rfl
  refine ⟨?_, inside, current, ?_⟩
  · rw [settled]
    rfl
  · rw [current, List.getElem?_eq_none_iff]
    omega

/-- A read at a byte keeps the registers in step. -/
theorem Follows.read (h : Follows source c) (hc : c.current.isSome) :
    Follows source (c.read source) := by
  have inStep := h.inStep
  have more : c.position ≠ source.bytes.length := by
    intro stop
    rw [inStep.ended.2 stop] at hc
    cases hc
  have inside := h.inside
  rw [h.settled, read_atOffset]
  exact ⟨by simp only [atOffset]; omega, rfl⟩

/-- Along a walk that reads only at bytes the registers stay in step. -/
theorem Follows.of_mem_walk (h : Follows source c) (w : Walk source c ds c')
    (hs : ∀ d ∈ ds, d.current.isSome) : ∀ d ∈ ds, Follows source d := by
  induction w with
  | stay => simp
  | @read c _ reads _ ih =>
    intro d hd
    rcases List.mem_cons.1 hd with rfl | hd
    · exact h
    · have first := h.read (hs c List.mem_cons_self)
      exact ih first (fun e he => hs e (List.mem_cons_of_mem c he)) d hd

theorem Follows.of_mem_nextReads (h : Follows source c) :
    ∀ d ∈ c.nextReads source, Follows source d := by
  obtain ⟨⟨t, c'⟩, found⟩ := Option.isSome_iff_exists.1 h.isSome_next?
  exact h.of_mem_walk (walk_nextReads found) isSome_of_mem_nextReads

end Registers

section Pieces

variable {t : Token}

theorem Follows.slice?_bytes (h : Follows source c) (hn : c.next? source = some (t, c')) :
    (t.span.slice? source.bytes).isSome := by
  obtain ⟨-, inside, step⟩ := h.eq_of_next? hn
  rw [Span.slice?, if_pos ⟨step.start_le_stop, inside⟩]
  rfl

/-- Every token but a stray is a piece of the text, cut out between characters. -/
theorem Follows.slice?_text (h : Follows source c) (hn : c.next? source = some (t, c'))
    (ht : t.kind ≠ .illegal) : source.text.slice? t.span.start t.span.stop = some t.text := by
  obtain ⟨-, -, step⟩ := h.eq_of_next? hn
  have place : (source.bytes.take c.position).length = c.position := by
    have inside := h.inside
    rw [List.length_take]
    omega
  refine step.slice?_text place ?_ ht
  rw [List.take_append_drop, source.bytes_eq]

end Pieces

section Requests

variable (source) in
/-- What a request at `c` does that is answered with `t` and leaves the cursor `c'`. -/
structure Safe (bits : Nat) (c : Cursor) (t : Token) (c' : Cursor) : Prop where
  walk : Walk source c (c.nextReads source) c'
  inStep : ∀ d ∈ c.nextReads source, InStep source d
  /-- The offset behind the next byte fits into a machine word. -/
  fits : ∀ d ∈ c.nextReads source, d.readPosition + 1 < 2 ^ bits
  bytes : (t.span.slice? source.bytes).isSome
  /-- Only a stray may begin or end inside a character. -/
  text : t.kind ≠ .illegal → source.text.slice? t.span.start t.span.stop = some t.text ∧
    source.text.IsBoundary t.span.start ∧ source.text.IsBoundary t.span.stop

/-- A source that is shorter than half of the words of a machine is read without overflow. -/
theorem Follows.safe {bits : Nat} (h : Follows source c) (hs : source.bytes.length < 2 ^ (bits - 1)) :
    ∃ t c', c.next? source = some (t, c') ∧ Safe source bits c t c' := by
  obtain ⟨⟨t, c'⟩, found⟩ := Option.isSome_iff_exists.1 h.isSome_next?
  refine ⟨t, c', found, walk_nextReads found, ?_, ?_, h.slice?_bytes found, ?_⟩
  · intro d hd
    exact (h.of_mem_nextReads d hd).inStep
  · intro d hd
    have inStep := (h.of_mem_nextReads d hd).inStep
    have more : d.position ≠ source.bytes.length := by
      intro stop
      have byte := isSome_of_mem_nextReads d hd
      rw [inStep.ended.2 stop] at byte
      cases byte
    have inside := inStep.inside
    rw [inStep.ahead]
    cases bits with
    | zero =>
      simp only [Nat.zero_sub, Nat.pow_zero] at hs
      omega
    | succ n =>
      rw [Nat.pow_succ]
      simp only [Nat.add_sub_cancel] at hs
      omega
  · intro ht
    have piece := h.slice?_text found ht
    exact ⟨piece, Text.isBoundary_of_slice? piece⟩

variable (source) in
def requests? : Nat → Cursor → Option Cursor
  | 0, c => some c
  | n + 1, c => (c.next? source).bind fun answer => requests? n answer.2

/-- However many requests are made, each of them is answered. -/
theorem Follows.requests? (h : Follows source c) (n : Nat) :
    ∃ c', c.requests? source n = some c' ∧ Follows source c' := by
  induction n generalizing c with
  | zero => exact ⟨c, rfl, h⟩
  | succ n ih =>
    obtain ⟨⟨t, c'⟩, found⟩ := Option.isSome_iff_exists.1 h.isSome_next?
    rw [Cursor.requests?, found]
    exact ih (h.of_next? found)

end Requests

end Cursor

/-- The two requests for a single token. -/
inductive Scanner.Call where
  | next
  | draw
  deriving DecidableEq, Repr

def Scanner.call (s : Scanner) : Call → Scanner
  | .next => s.next.2
  | .draw => s.draw.2

namespace Scanner

/-- Leaving the closing token out of the answers does not change what the cursor does. -/
theorem call_eq (s : Scanner) (call : Call) : s.call call = s.next.2 := by
  cases call with
  | next => rfl
  | draw =>
    simp only [Scanner.call, draw]
    split <;> rfl

theorem requests?_cursor (s : Scanner) (calls : List Call) :
    s.cursor.requests? s.source calls.length = some (calls.foldl Scanner.call s).cursor := by
  induction calls generalizing s with
  | nil => rfl
  | cons call calls ih =>
    rw [List.length_cons, Cursor.requests?, s.next?_cursor, Option.bind_some, List.foldl_cons,
      call_eq]
    exact ih s.next.2

end Scanner

/-- Whatever requests were made, the registers are in step with the source, and so they are at each
read of the next request, which is answered without an overflow and without a piece that is out of
range or cut through a character. A cursor between two requests may rest inside a character. -/
theorem safe_of_requests :
    (∀ (text : Text) (bits : Nat), text.byteLength < 2 ^ (bits - 1) → ∀ calls : List Scanner.Call,
      ∃ c, (Cursor.start (.ofText text)).requests? (.ofText text) calls.length = some c ∧
        (calls.foldl Scanner.call (.ofText text)).cursor = c ∧ c.InStep (.ofText text) ∧
        ∃ t c', c.next? (.ofText text) = some (t, c') ∧ c.Safe (.ofText text) bits t c') ∧
    ∃ (text : Text) (c : Cursor),
      (Cursor.start (.ofText text)).requests? (.ofText text) 1 = some c ∧
        ¬ text.IsBoundary c.position := by
  constructor
  · intro text bits hs calls
    have start : (Cursor.start (.ofText text)).Follows (.ofText text) := .start
    obtain ⟨c, reached, follows⟩ := start.requests? calls.length
    have same := (Scanner.ofText text).requests?_cursor calls
    have size : (EncodedText.ofText text).bytes.length < 2 ^ (bits - 1) := by
      rw [EncodedText.ofText, Text.length_utf8]
      exact hs
    refine ⟨c, reached, ?_, follows.inStep, follows.safe size⟩
    exact Option.some.inj (same.symm.trans reached)
  · refine ⟨['é'], ⟨1, 2, some 0xA9⟩, by decide +kernel, ?_⟩
    rw [Text.isBoundary_iff_cut?]
    decide

/-- A byte that is 0 and a character of two bytes, on a machine with words of 64 bits. -/
theorem safe_of_requests_nul : Text.byteLength ['\x00', 'é'] < 2 ^ 63 ∧
    ∃ c : Cursor, (Cursor.start (.ofText ['\x00', 'é'])).requests? (.ofText ['\x00', 'é']) 2 = some c ∧
      c.InStep (.ofText ['\x00', 'é']) ∧
      ∃ t c', c.next? (.ofText ['\x00', 'é']) = some (t, c') ∧
        c.Safe (.ofText ['\x00', 'é']) 64 t c' := by
  have short : Text.byteLength ['\x00', 'é'] < 2 ^ 63 := by decide
  obtain ⟨c, reached, -, inStep, answered⟩ := safe_of_requests.1 _ 64 short [.next, .draw]
  exact ⟨short, c, reached, inStep, answered⟩

end LexerConsole
