import LexerConsole.Proofs.Strays
import Mathlib.Data.List.Basic
import Mathlib.Data.List.TakeWhile

/-!
# Reading a listing back

A plain listing quotes nothing: the text of a token may be a brace, a colon or a control. It can
still be read back, since the name of a kind has no blank in it, the text is followed by exactly
one brace, and the scanner puts no line break into a token. So a listing tells the kinds and the
texts of all tokens, and of an ASCII source everything but its blanks.
-/

namespace LexerConsole

open Alphabet

namespace Text

theorem splitOn_append {c : Char} {piece : Text} (hc : c ∉ piece) (rest : Text) :
    splitOn c (piece ++ c :: rest) = piece :: splitOn c rest := by
  induction piece with
  | nil => simp [splitOn]
  | cons d piece ih =>
    have other : d ≠ c := fun same => hc (same ▸ List.mem_cons_self)
    have tail := ih fun hm => hc (List.mem_cons_of_mem d hm)
    rw [List.cons_append, splitOn, if_neg other, tail]

/-- Pieces that are closed one by one are split off one by one, and nothing is left behind them. -/
theorem splitOn_closed {α : Type} {c : Char} {f : α → Text} {l : List α} (h : ∀ a ∈ l, c ∉ f a) :
    splitOn c (l.flatMap fun a => f a ++ [c]) = l.map f ++ [[]] := by
  induction l with
  | nil => rfl
  | cons a l ih =>
    obtain ⟨ha, hl⟩ := List.forall_mem_cons.1 h
    rw [List.flatMap_cons, List.append_assoc, List.singleton_append, splitOn_append ha, ih hl]
    rfl

end Text

theorem isBlankChar_shownByte {b : UInt8} (h : isBlank b = false) :
    Text.isBlankChar (shownByte b) = false := by
  by_cases ascii : b < 0x80
  · have checked : ∀ n < 0x80, Text.isBlankChar (Char.ofNat n) = isBlank n.toUInt8 := by decide
    rw [shownByte, if_pos ascii, checked b.toNat (UInt8.lt_iff_toNat_lt.1 ascii)]
    simpa using h
  · rw [shownByte, if_neg ascii]
    decide

/-- What a listing shows of a token. -/
def Token.entry (t : Token) : Kind × Text :=
  (t.kind, t.text)

namespace Listing

/-- Read one line of a plain listing. -/
def readLine? (line : Text) : Option (Kind × Text) := do
  let named ← "\x7bType:".toList.isPrefixOf? line
  let kind ← Kind.ofName? (named.takeWhile (· ≠ ' '))
  let shown ← " Literal:".toList.isPrefixOf? (named.dropWhile (· ≠ ' '))
  if shown.getLast? = some '\x7d' then some (kind, shown.dropLast) else none

/-- Read a plain listing; a line break has to stand behind every line. -/
def read? (bytes : List UInt8) : Option (List (Kind × Text)) := do
  let text ← Text.ofUtf8? bytes
  let pieces := text.splitOn '\n'
  if pieces.getLast? = some [] then pieces.dropLast.mapM readLine? else none

section Line

theorem name_unbroken (k : Kind) : ' ' ∉ k.name ∧ '\n' ∉ k.name := by
  have checked : ∀ k ∈ Kind.all, ' ' ∉ k.name ∧ '\n' ∉ k.name := by decide
  exact checked k k.mem_all

/-- No text is too strange for the line of its token to be read. -/
theorem readLine?_plain (t : Token) : readLine? t.plain = some t.entry := by
  have inside : ∀ c ∈ t.kind.name, decide (c ≠ ' ') := by
    intro c hc
    rw [decide_eq_true_eq]
    rintro rfl
    exact (name_unbroken t.kind).1 hc
  have behindType : "\x7bType:".toList.isPrefixOf? t.plain =
      some (t.kind.name ++ (" Literal:".toList ++ (t.text ++ ['\x7d']))) :=
    List.isPrefixOf?_eq_some_iff_append_eq.2 (by simp [Token.plain, Token.plainPieces])
  have name : (t.kind.name ++ (" Literal:".toList ++ (t.text ++ ['\x7d']))).takeWhile (· ≠ ' ') =
      t.kind.name := by
    rw [List.takeWhile_append_of_pos inside]
    exact List.append_nil _
  have behindName : (t.kind.name ++ (" Literal:".toList ++ (t.text ++ ['\x7d']))).dropWhile
      (· ≠ ' ') = " Literal:".toList ++ (t.text ++ ['\x7d']) := by
    rw [List.dropWhile_append_of_pos inside]
    rfl
  have behindLiteral : " Literal:".toList.isPrefixOf? (" Literal:".toList ++ (t.text ++ ['\x7d'])) =
      some (t.text ++ ['\x7d']) :=
    List.isPrefixOf?_eq_some_iff_append_eq.2 rfl
  simp only [readLine?, behindType, Option.bind_eq_bind, Option.bind_some, name, behindName,
    Kind.ofName?_name, behindLiteral, List.getLast?_concat, List.dropLast_concat, if_pos,
    Token.entry]

example : readLine? "\x7bType:RBRACE Literal:\x7d\x7d".toList =
    some (.symbol .rightBrace, ['\x7d']) := by decide

theorem not_mem_plain {t : Token} (ht : '\n' ∉ t.text) : '\n' ∉ t.plain := by
  have name := (name_unbroken t.kind).2
  simp [Token.plain, Token.plainPieces, name, ht]

end Line

section Run

variable {o : Options} {ts : List Token}

theorem lines_eq_utf8 (o : Options) (ts : List Token) :
    lines o ts = Text.utf8 (ts.flatMap (line o)) := by
  rw [Text.utf8, List.flatMap_assoc]
  rfl

theorem splitOn_lines (ho : o.coloured = false) (h : ∀ t ∈ ts, '\n' ∉ t.text) :
    Text.splitOn '\n' (ts.flatMap (line o)) = ts.map Token.plain ++ [[]] := by
  have plain : line o = fun t => t.plain ++ ['\n'] := by
    funext t
    rw [line_eq, ho, if_neg Bool.false_ne_true]
  rw [plain]
  exact Text.splitOn_closed fun t ht => not_mem_plain (h t ht)

theorem mapM_readLine? (ts : List Token) :
    (ts.map Token.plain).mapM readLine? = some (ts.map Token.entry) := by
  induction ts with
  | nil => rfl
  | cons t ts ih => simp [readLine?_plain, ih]

theorem read?_lines (ho : o.coloured = false) (h : ∀ t ∈ ts, '\n' ∉ t.text) :
    read? (lines o ts) = some (ts.map Token.entry) := by
  rw [lines_eq_utf8, read?, Text.ofUtf8?_utf8]
  simp only [Option.bind_eq_bind, Option.bind_some, splitOn_lines ho h, List.getLast?_concat,
    List.dropLast_concat, if_pos, mapM_readLine?]

theorem count_lines (ho : o.coloured = false) (h : ∀ t ∈ ts, '\n' ∉ t.text) :
    (lines o ts).count 0x0A = ts.length := by
  induction ts with
  | nil => rfl
  | cons t ts ih =>
    obtain ⟨ht, hts⟩ := List.forall_mem_cons.1 h
    have absent : (0x0A : UInt8) ∉ t.plain.utf8 :=
      fun hm => not_mem_plain ht (Text.shownByte_mem hm (by decide))
    rw [lines_cons, utf8_line, ho, if_neg Bool.false_ne_true, List.count_append,
      List.count_append, List.count_eq_zero.2 absent, ih hts]
    simp [Nat.add_comm]

end Run

section Source

/-- The scanner puts no blank into a token, a line break included. -/
theorem isBlankChar_eq_false_of_mem_text {source : Text} {t : Token} (ht : t ∈ tokenize source) :
    ∀ c ∈ t.text, Text.isBlankChar c = false := by
  intro c hc
  have member : c ∈ (tokenize source).flatMap Token.text := List.mem_flatMap.2 ⟨t, ht, hc⟩
  rw [(lexes_tokenize source).texts] at member
  obtain ⟨b, hb, rfl⟩ := List.mem_map.1 member
  exact isBlankChar_shownByte (by simpa using (List.mem_filter.1 hb).2)

/-- The texts of the tokens of an ASCII source are all of it but its blanks. -/
theorem texts_of_ascii {source : Text} (h : ∀ c ∈ source, c.toNat < 0x80) :
    (tokenize source).flatMap Token.text = source.filter fun c => !Text.isBlankChar c := by
  rw [(lexes_tokenize source).texts]
  exact (shown_solid_iff source).2 h

theorem break_not_mem_text {source : Text} {t : Token} (ht : t ∈ tokenize source) :
    '\n' ∉ t.text ∧ '\r' ∉ t.text := by
  have solid := isBlankChar_eq_false_of_mem_text ht
  constructor
  · exact fun hc => Bool.false_ne_true ((solid _ hc).symm.trans rfl)
  · exact fun hc => Bool.false_ne_true ((solid _ hc).symm.trans rfl)

theorem break_not_mem_chosen {o : Options} {source : Text} :
    ∀ t ∈ chosen o (tokenize source), '\n' ∉ t.text :=
  fun _ ht => (break_not_mem_text (List.mem_filter.1 ht).1).1

/-- The closing token is known even where it is not listed. -/
theorem map_entry_tokenize (o : Options) (source : Text) :
    (tokenize source).map Token.entry =
      ((chosen o (tokenize source)).map Token.entry).filter (fun e => e.1 ≠ .eof) ++
        [(.eof, [])] := by
  obtain ⟨body, whole, hn⟩ := (lexes_tokenize source).exists_body
  have kept : (body.map Token.entry).filter (fun e => e.1 ≠ .eof) = body.map Token.entry := by
    refine List.filter_eq_self.2 ?_
    intro e he
    obtain ⟨t, ht, rfl⟩ := List.mem_map.1 he
    exact decide_eq_true (of_decide_eq_false (hn t ht))
  rw [whole, chosen_closed hn, List.map_append, List.map_append, List.filter_append, kept]
  cases o.showEof with
  | true => simp [Token.entry, Token.eof]
  | false => simp [Token.entry, Token.eof]

end Source

/-- A plain listing in which nothing is denied. -/
def Options.plain (showEof : Bool) : Options :=
  ⟨false, showEof, false⟩

/-- What a plain listing tells about its source. -/
structure Recoverable (showEof : Bool) (source : Text) (r : Report) : Prop where
  /-- The number of lines is the number that is reported. -/
  counted : r.result = .ok (r.bytes.count 0x0A)
  unbroken : ∀ t ∈ tokenize source, '\n' ∉ t.text ∧ '\r' ∉ t.text
  decoded : read? r.bytes = some ((chosen (.plain showEof) (tokenize source)).map Token.entry)
  determined : ∀ e other, (report (.plain e) .unlimited other).bytes = r.bytes →
    (tokenize other).map Token.entry = (tokenize source).map Token.entry
  /-- Of two ASCII sources with one listing, one is the other with blanks put in or taken out. -/
  ascii : ∀ e other, (report (.plain e) .unlimited other).bytes = r.bytes →
    (∀ c ∈ source, c.toNat < 0x80) → (∀ c ∈ other, c.toNat < 0x80) →
    other.filter (fun c => !Text.isBlankChar c) = source.filter fun c => !Text.isBlankChar c

theorem listed_plain (showEof : Bool) (ts : List Token) :
    listed (.plain showEof) ts = chosen (.plain showEof) ts :=
  List.takeWhile_eq_self_iff.2 fun _ _ => rfl

theorem read?_report (showEof : Bool) (source : Text) :
    read? (report (.plain showEof) .unlimited source).bytes =
      some ((chosen (.plain showEof) (tokenize source)).map Token.entry) := by
  rw [Sink.unlimited, report_bytes, listed_plain]
  exact read?_lines rfl break_not_mem_chosen

theorem recoverable_report (showEof : Bool) (source : Text) :
    Recoverable showEof source (report (.plain showEof) .unlimited source) := by
  have decoded := read?_report showEof source
  have determined : ∀ e other, (report (.plain e) .unlimited other).bytes =
      (report (.plain showEof) .unlimited source).bytes →
      (tokenize other).map Token.entry = (tokenize source).map Token.entry := by
    intro e other same
    have there := read?_report e other
    rw [same, decoded] at there
    rw [map_entry_tokenize (.plain e), map_entry_tokenize (.plain showEof),
      ← Option.some.inj there]
  constructor
  · rw [Sink.unlimited, report_result, report_bytes, listed_plain,
      count_lines rfl break_not_mem_chosen, find?_denies]
    rfl
  · exact fun _ => break_not_mem_text
  · exact decoded
  · exact determined
  · intro e other same hs ho
    have texts : ∀ ts : List Token,
        ts.flatMap Token.text = (ts.map Token.entry).flatMap Prod.snd :=
      fun ts => (List.flatMap_map Token.entry Prod.snd ts).symm
    rw [← texts_of_ascii ho, ← texts_of_ascii hs, texts, texts, determined e other same]

end Listing
end LexerConsole
