import LexerConsole.Proofs.LogLines
import LexerConsole.Proofs.Modes

/-!
# The log of a verbose run

A verbose run over code notes each token when it is scanned, before it is known whether the token
gets a line. So the log has the closing token even where it is not listed, and a token that is
denied is the last one in it. The note on the whole listing is made behind all lines and not at all
where a token is denied. Its two numbers are those of the lines on the other channel and of the
bytes of the source.
-/

namespace LexerConsole

open Alphabet

namespace Listing

section Drawn

variable {o : Options} {cause : Cause} {source : Text} {front rest : List Token} {t : Token}

/-- Behind tokens that get their lines a listing goes on as if it began there. -/
theorem drawn_append (h : ∀ t ∈ front, t.isEof = false ∧ denies o t = false) (rest : List Token) :
    (ofTokens o ⟨none, cause⟩ (front ++ rest)).drawn =
      front ++ (ofTokens o ⟨none, cause⟩ rest).drawn := by
  induction front with
  | nil => rfl
  | cons t front ih =>
    obtain ⟨⟨ht, hd⟩, hf⟩ := List.forall_mem_cons.1 h
    rw [List.cons_append, ofTokens_of_taken ht hd (Sink.putAll_unlimited cause _), Report.cons,
      ih hf]
    rfl

/-- The closing token is looked at, whether it is shown or not. -/
theorem drawn_eof (o : Options) (cause : Cause) (n : Nat) :
    (ofTokens o ⟨none, cause⟩ [.eof n]).drawn = [.eof n] := by
  rw [ofTokens_eof fun _ => Sink.putAll_unlimited cause _]
  cases o.showEof with
  | true => rfl
  | false => rfl

theorem drawn_of_ok {n : Nat} (ok : (report o ⟨none, cause⟩ source).result = .ok n) :
    (report o ⟨none, cause⟩ source).drawn = tokenize source := by
  have passed := ((report_ok_iff source n).1 ok).1
  obtain ⟨body, whole, hn⟩ := (lexes_tokenize source).exists_body
  rw [whole, chosen_closed hn] at passed
  have taken : ∀ t ∈ body, t.isEof = false ∧ denies o t = false :=
    fun t ht => ⟨hn t ht, passed t (List.mem_append_left _ ht)⟩
  rw [report, whole, drawn_append taken, drawn_eof]

/-- Nothing is closed in front of another token. -/
theorem isEof_eq_false_of_front (split : tokenize source = front ++ t :: rest) :
    ∀ t ∈ front, t.isEof = false := by
  obtain ⟨body, whole, hn⟩ := (lexes_tokenize source).exists_body
  have same := congrArg List.dropLast (whole.symm.trans split)
  rw [List.dropLast_concat, List.dropLast_append_of_ne_nil (List.cons_ne_nil t rest)] at same
  exact fun u hu => hn u (same ▸ List.mem_append_left _ hu)

/-- A listing that fails has looked at the tokens up to the first one that is illegal. -/
theorem drawn_of_error {fault : Fault}
    (failed : (report o ⟨none, cause⟩ source).result = .error fault) :
    ∃ i b front rest, FirstUnknown source.utf8 i b ∧
      tokenize source = front ++ .stray i b :: rest ∧ (∀ t ∈ front, t.isIllegal = false) ∧
      (report o ⟨none, cause⟩ source).drawn = front ++ [.stray i b] ∧
      fault = .illegalToken [shownByte b] i := by
  obtain ⟨denied, t, found, rfl⟩ := (report_error_iff source fault).1 failed
  obtain ⟨i, b, first, rfl⟩ := (lexes_tokenize source).find?_illegal_iff.1 found
  rw [Nat.zero_add] at found
  obtain ⟨illegal, front, rest, split, legal⟩ := List.find?_eq_some_iff_append.1 found
  have passed : ∀ t ∈ front, t.isIllegal = false := fun t ht => by simpa using legal t ht
  have taken : ∀ t ∈ front, t.isEof = false ∧ denies o t = false := by
    intro t ht
    exact ⟨isEof_eq_false_of_front split t ht, by rw [denies, passed t ht, Bool.and_false]⟩
  have stops : denies o (.stray i b) := by rw [denies, denied, illegal, Bool.and_self]
  refine ⟨i, b, front, rest, first, split, passed, ?_, by rw [Nat.zero_add]; rfl⟩
  rw [report, split, drawn_append taken, ofTokens_of_denied _ stops]

end Drawn
end Listing

/-- What the log tells of a token. -/
def Token.place (t : Token) : Kind × Nat × Nat :=
  (t.kind, t.span.start, t.span.stop)

namespace Run

/-- How a line about a scanned token begins. -/
def scannedFront : Text :=
  "TRACE monkey_lexer::lexer::scanner: scanned token ".toList

/-- How the line about a whole listing begins. -/
def listedFront : Text :=
  "DEBUG monkey::output: listed tokens ".toList

def scannedLine (t : Token) : Text :=
  scannedFront ++ ("kind=".toList ++ t.kind.name ++ ' ' :: ("start=".toList ++
    Text.decimal t.span.start ++ ' ' :: ("end=".toList ++ Text.decimal t.span.stop)))

def listedLine (tokens bytes : Nat) : Text :=
  listedFront ++ ("tokens=".toList ++ Text.decimal tokens ++ ' ' ::
    ("bytes=".toList ++ Text.decimal bytes))

/-- The lines of a log that begin in one way. -/
def linesFrom (front log : Text) : List Text :=
  (log.splitOn '\n').filter fun line => front.isPrefixOf line

section Lines

/-- The line of an event that has fields. -/
theorem line_of_fields {e : Event} {front shown : Text}
    (head : e.level.name ++ ' ' :: (e.target ++ ": ".toList ++ e.text) ++ [' '] = front)
    (fields : e.fields.flatMap (fun field => ' ' :: (field.1 ++ '=' :: field.2)) = ' ' :: shown) :
    e.line = front ++ shown := by
  simp only [Event.line, Event.message, fields, ← head, List.append_assoc, List.cons_append,
    List.nil_append]

theorem line_scanned (t : Token) : (Event.scanned t).line = scannedLine t := by
  have head : "TRACE".toList ++ ' ' :: ("monkey_lexer::lexer::scanner".toList ++ ": ".toList ++
      "scanned token".toList) ++ [' '] = scannedFront := by decide +kernel
  have fields : (Event.scanned t).fields.flatMap (fun field => ' ' :: (field.1 ++ '=' :: field.2)) =
      ' ' :: ("kind=".toList ++ t.kind.name ++ ' ' :: ("start=".toList ++
        Text.decimal t.span.start ++ ' ' ::
          ("end=".toList ++ Text.decimal t.span.stop ++ []))) := rfl
  rw [List.append_nil] at fields
  exact line_of_fields head fields

theorem line_listed (tokens bytes : Nat) :
    (Event.listed tokens bytes).line = listedLine tokens bytes := by
  have head : "DEBUG".toList ++ ' ' :: ("monkey::output".toList ++ ": ".toList ++
      "listed tokens".toList) ++ [' '] = listedFront := by decide +kernel
  have fields : (Event.listed tokens bytes).fields.flatMap
      (fun field => ' ' :: (field.1 ++ '=' :: field.2)) =
      ' ' :: ("tokens=".toList ++ Text.decimal tokens ++ ' ' ::
        ("bytes=".toList ++ Text.decimal bytes ++ [])) := rfl
  rw [List.append_nil] at fields
  exact line_of_fields head fields

theorem line_inlineCode (bytes : Nat) : (Event.inlineCode bytes).line =
    "DEBUG monkey: tokenizing inline code ".toList ++ ("bytes=".toList ++ Text.decimal bytes) := by
  have head : "DEBUG".toList ++ ' ' :: ("monkey".toList ++ ": ".toList ++
      "tokenizing inline code".toList) ++ [' '] =
      "DEBUG monkey: tokenizing inline code ".toList := by decide +kernel
  have fields : (Event.inlineCode bytes).fields.flatMap
      (fun field => ' ' :: (field.1 ++ '=' :: field.2)) =
      ' ' :: ("bytes=".toList ++ Text.decimal bytes ++ []) := rfl
  rw [List.append_nil] at fields
  exact line_of_fields head fields

theorem break_not_mem_scannedLine (t : Token) : '\n' ∉ scannedLine t := by
  simp only [scannedLine, List.mem_append, List.mem_cons, not_or]
  exact ⟨by decide, ⟨by decide, (Listing.name_unbroken t.kind).2⟩, by decide,
    ⟨by decide, Text.break_not_mem_decimal _⟩, by decide, by decide, Text.break_not_mem_decimal _⟩

theorem break_not_mem_listedLine (tokens bytes : Nat) : '\n' ∉ listedLine tokens bytes := by
  simp only [listedLine, List.mem_append, List.mem_cons, not_or]
  exact ⟨by decide, ⟨by decide, Text.break_not_mem_decimal _⟩, by decide, by decide,
    Text.break_not_mem_decimal _⟩

theorem break_not_mem_inlineCode (bytes : Nat) : '\n' ∉ (Event.inlineCode bytes).line := by
  rw [line_inlineCode]
  simp only [List.mem_append, not_or]
  exact ⟨by decide, by decide, Text.break_not_mem_decimal bytes⟩

theorem break_not_mem_complaint {message : Text} (h : '\n' ∉ message) :
    '\n' ∉ Notice.errorLabel ++ ": ".toList ++ message := by
  simp only [List.mem_append, not_or]
  exact ⟨⟨by decide, by decide⟩, h⟩

/-- The fields of a line are told apart by its blanks. -/
theorem splitOn_scannedLine (t : Token) : Text.splitOn ' ' (scannedLine t ++ [' ']) =
    ["TRACE".toList, "monkey_lexer::lexer::scanner:".toList, "scanned".toList, "token".toList,
      "kind=".toList ++ t.kind.name, "start=".toList ++ Text.decimal t.span.start,
      "end=".toList ++ Text.decimal t.span.stop, []] := by
  have number : ∀ n, ' ' ∉ Text.decimal n :=
    fun _ h => absurd (Text.isAlphanum_of_mem_decimal h) (by decide)
  have kind : ' ' ∉ "kind=".toList ++ t.kind.name :=
    fun h => (List.mem_append.1 h).elim (by decide) (Listing.name_unbroken t.kind).1
  have start : ' ' ∉ "start=".toList ++ Text.decimal t.span.start :=
    fun h => (List.mem_append.1 h).elim (by decide) (number _)
  have stop : ' ' ∉ "end=".toList ++ Text.decimal t.span.stop :=
    fun h => (List.mem_append.1 h).elim (by decide) (number _)
  have pieces : scannedLine t ++ [' '] = scannedFront ++ ("kind=".toList ++ t.kind.name ++ ' ' ::
      ("start=".toList ++ Text.decimal t.span.start ++ ' ' ::
        ("end=".toList ++ Text.decimal t.span.stop ++ ' ' :: []))) := by
    simp only [scannedLine, List.append_assoc, List.cons_append]
  have front : ∀ rest, Text.splitOn ' ' (scannedFront ++ rest) =
      "TRACE".toList :: "monkey_lexer::lexer::scanner:".toList :: "scanned".toList ::
        "token".toList :: Text.splitOn ' ' rest := fun _ => rfl
  rw [pieces, front, Text.splitOn_append kind, Text.splitOn_append start, Text.splitOn_append stop]
  rfl

theorem scannedLine_inj {t u : Token} : scannedLine t = scannedLine u ↔ t.place = u.place := by
  constructor
  · intro h
    have pieces := congrArg (fun line => Text.splitOn ' ' (line ++ [' '])) h
    simp only [splitOn_scannedLine, List.cons.injEq, List.append_cancel_left_eq] at pieces
    obtain ⟨-, -, -, -, kind, start, stop, -⟩ := pieces
    rw [Token.place, Token.place, Kind.name_injective kind, Text.decimal_injective start,
      Text.decimal_injective stop]
  · intro h
    simp only [Token.place, Prod.mk.injEq] at h
    obtain ⟨kind, start, stop⟩ := h
    rw [scannedLine, scannedLine, kind, start, stop]

theorem map_place_eq {ts us : List Token} (h : ts.map scannedLine = us.map scannedLine) :
    ts.map Token.place = us.map Token.place := by
  induction ts generalizing us with
  | nil => rw [List.map_eq_nil_iff.1 h.symm]
  | cons t ts ih =>
    obtain ⟨u, us, rfl, line, lines⟩ := List.map_eq_cons_iff.1 h.symm
    rw [List.map_cons, List.map_cons, scannedLine_inj.1 line, ih lines.symm]

end Lines

/-- What a run over code says: where the source is from, each of some tokens, and a last notice. -/
def said (source : Text) (ts : List Token) (last : Notice) : List Notice :=
  .log (.inlineCode source.byteLength) :: (ts.map (fun t => .log (.scanned t)) ++ [last])

section Said

variable {source line : Text} {ts : List Token} {last : Notice}

theorem filterMap_said (h : last.line? .verbose = some line) :
    (said source ts last).filterMap (Notice.line? .verbose) =
      (Event.inlineCode source.byteLength).line :: (ts.map scannedLine ++ [line]) := by
  have scanned : ∀ t, (Notice.log (.scanned t)).line? .verbose = some (scannedLine t) :=
    fun t => congrArg some (line_scanned t)
  have first : (Notice.log (.inlineCode source.byteLength)).line? .verbose =
      some (Event.inlineCode source.byteLength).line := rfl
  simp [said, first, scanned, h, List.filterMap_map]

theorem splitOn_said (h : last.line? .verbose = some line) (unbroken : '\n' ∉ line) :
    (diagnosticText .verbose (said source ts last)).splitOn '\n' =
      (Event.inlineCode source.byteLength).line :: (ts.map scannedLine ++ [line, []]) := by
  have all : ∀ l ∈ (Event.inlineCode source.byteLength).line :: (ts.map scannedLine ++ [line]),
      '\n' ∉ l := by
    simp only [List.mem_cons, List.mem_append, List.mem_map, List.not_mem_nil, or_false]
    rintro l (rfl | ⟨t, -, rfl⟩ | rfl)
    · exact break_not_mem_inlineCode _
    · exact break_not_mem_scannedLine t
    · exact unbroken
  rw [diagnosticText, filterMap_said h, Text.splitOn_closed all]
  simp

theorem linesFrom_said {front : Text} (h : last.line? .verbose = some line)
    (unbroken : '\n' ∉ line) (given : front.isPrefixOf [] = false)
    (note : front.isPrefixOf (Event.inlineCode source.byteLength).line = false) :
    linesFrom front (diagnosticText .verbose (said source ts last)) =
      (ts.map scannedLine).filter (fun line => front.isPrefixOf line) ++
        if front.isPrefixOf line then [line] else [] := by
  rw [linesFrom, splitOn_said h unbroken, List.filter_cons_of_neg (Bool.eq_false_iff.1 note),
    List.filter_append]
  cases begins : front.isPrefixOf line with
  | true =>
    rw [List.filter_cons_of_pos begins, List.filter_cons_of_neg (Bool.eq_false_iff.1 given)]
    rfl
  | false =>
    rw [List.filter_cons_of_neg (Bool.eq_false_iff.1 begins),
      List.filter_cons_of_neg (Bool.eq_false_iff.1 given)]
    rfl

/-- The lines about scanned tokens are those of all tokens, whatever the last line is. -/
theorem linesFrom_scannedFront (h : last.line? .verbose = some line) (unbroken : '\n' ∉ line)
    (other : scannedFront.isPrefixOf line = false) :
    linesFrom scannedFront (diagnosticText .verbose (said source ts last)) =
      ts.map scannedLine := by
  have all : (ts.map scannedLine).filter (fun line => scannedFront.isPrefixOf line) =
      ts.map scannedLine := by
    refine List.filter_eq_self.2 (List.forall_mem_map.2 ?_)
    exact fun _ _ => List.isPrefixOf_iff_prefix.2 (List.prefix_append _ _)
  rw [linesFrom_said h unbroken rfl rfl, all, other, if_neg Bool.false_ne_true, List.append_nil]

theorem linesFrom_listedFront (h : last.line? .verbose = some line) (unbroken : '\n' ∉ line) :
    linesFrom listedFront (diagnosticText .verbose (said source ts last)) =
      if listedFront.isPrefixOf line then [line] else [] := by
  have absent : (ts.map scannedLine).filter (fun line => listedFront.isPrefixOf line) = [] :=
    List.filter_eq_nil_iff.2 (List.forall_mem_map.2 fun _ _ => Bool.false_ne_true)
  rw [linesFrom_said h unbroken rfl rfl, absent, List.nil_append]

end Said

/-- The scan and the listing of a source as a verbose run over code notes them. -/
structure Recorded (switches : List Switch) (source : Text) (r : Outcome) : Prop where
  succeeds_iff : r.status = 0 ↔
    ¬ (.denyIllegal ∈ switches ∧ ∃ b ∈ source.utf8, isKnown b = false)
  /-- All tokens, the closing one included, and no other closes. -/
  whole : r.status = 0 → ∃ body, tokenize source = body ++ [.eof source.byteLength] ∧
    (∀ t ∈ body, t.isEof = false) ∧
    linesFrom scannedFront r.diagnostics = (body ++ [.eof source.byteLength]).map scannedLine
  /-- The tokens up to the first illegal one. -/
  part : r.status ≠ 0 → ∃ i b front rest, FirstUnknown source.utf8 i b ∧
    tokenize source = front ++ .stray i b :: rest ∧ (∀ t ∈ front, t.isIllegal = false) ∧
    linesFrom scannedFront r.diagnostics = (front ++ [.stray i b]).map scannedLine
  told : ∀ ts us : List Token, linesFrom scannedFront r.diagnostics = ts.map scannedLine →
    linesFrom scannedFront r.diagnostics = us.map scannedLine →
    ts.map Token.place = us.map Token.place
  listed : linesFrom listedFront r.diagnostics =
    if r.status = 0 then [listedLine (r.output.count 0x0A) source.byteLength] else []
  /-- The note on the whole listing is the last line. -/
  closing : r.status = 0 → ∃ log, r.diagnostics =
    log ++ listedLine (r.output.count 0x0A) source.byteLength ++ ['\n']

section Verbose

variable {s : Surroundings} {switches : List Switch} {source : Text}

theorem filter_of_verbose (s : Surroundings) (h : .verbose ∈ switches) :
    filter s switches = .verbose := by
  rw [filter, LogFilter.ofRun, List.contains_iff_mem.2 h, if_pos rfl]

theorem sink_of_accepts {d : Device} (h : d.accepts) : d.sink = .unlimited := by
  cases d with
  | pipe => rfl
  | terminal => rfl
  | full => cases h
  | abandoned => cases h

section Report

variable {r : Listing.Report}
  (full : Listing.report (listingOptions s.device switches) s.device.sink source = r)

include full

theorem noted_of_ok {n : Nat} (ok : r.result = .ok n) :
    noted s switches (.inlineCode source.byteLength) (listing s.device switches source) =
      ⟨0, r.bytes, diagnosticText (filter s switches)
        (said source r.drawn (.log (.listed n source.byteLength))), s.files⟩ := by
  have done : listing s.device switches source = (.ofReport source r, .finished) := by
    simp only [listing, full, ok]
  have notices : (Transcript.ofReport source r).notices =
      r.drawn.map (fun t => .log (.scanned t)) ++ [.log (.listed n source.byteLength)] := by
    simp [Transcript.ofReport, ok]
  rw [done, noted, notices, farewell, Transcript.empty, List.append_nil]
  rfl

theorem noted_of_error {fault : Fault} (failed : r.result = .error fault) :
    noted s switches (.inlineCode source.byteLength) (listing s.device switches source) =
      ⟨1, r.bytes, diagnosticText (filter s switches)
        (said source r.drawn (.complaint fault.message)), s.files⟩ := by
  have done : listing s.device switches source = (.ofReport source r, .failed fault) := by
    simp only [listing, full, failed]
  have notices : (Transcript.ofReport source r).notices =
      r.drawn.map fun t => .log (.scanned t) := by
    simp [Transcript.ofReport, failed]
  rw [done, noted, notices]
  rfl

end Report

theorem diagnosticText_said (last : Notice) (ts : List Token) {line : Text}
    (h : last.line? .verbose = some line) :
    ∃ log, diagnosticText .verbose (said source ts last) = log ++ line ++ ['\n'] := by
  refine ⟨diagnosticText .verbose (.log (.inlineCode source.byteLength) ::
    ts.map fun t => .log (.scanned t)), ?_⟩
  have single : diagnosticText .verbose [last] = line ++ ['\n'] := by
    simp [diagnosticText, h]
  rw [List.append_assoc, ← single, ← diagnosticText_append]
  rfl

/-- The scan of a listing that succeeds is logged to its end. -/
theorem recorded_of_ok {bytes : List UInt8} {files : Files} {n : Nat}
    (legal : ¬ (.denyIllegal ∈ switches ∧ ∃ b ∈ source.utf8, isKnown b = false))
    (counted : n = bytes.count 0x0A) :
    Recorded switches source ⟨0, bytes, diagnosticText .verbose
      (said source (tokenize source) (.log (.listed n source.byteLength))), files⟩ := by
  have last : (Notice.log (.listed n source.byteLength)).line? .verbose =
      some (listedLine n source.byteLength) := congrArg some (line_listed n _)
  have unbroken := break_not_mem_listedLine n source.byteLength
  have lines : linesFrom scannedFront (diagnosticText .verbose (said source (tokenize source)
      (.log (.listed n source.byteLength)))) = (tokenize source).map scannedLine :=
    linesFrom_scannedFront last unbroken rfl
  constructor
  · exact iff_of_true rfl legal
  · intro _
    obtain ⟨body, whole, hn⟩ := (lexes_tokenize source).exists_body
    rw [Nat.zero_add, Text.length_utf8] at whole
    exact ⟨body, whole, hn, whole ▸ lines⟩
  · intro failed
    exact absurd rfl failed
  · intro ts us hts hus
    exact map_place_eq (hts.symm.trans hus)
  · have begins : listedFront.isPrefixOf (listedLine n source.byteLength) :=
      List.isPrefixOf_iff_prefix.2 (List.prefix_append _ _)
    rw [linesFrom_listedFront last unbroken, if_pos begins, if_pos rfl, counted]
  · intro _
    rw [← counted]
    exact diagnosticText_said _ _ last

/-- The scan of a listing that fails is logged up to the token that is denied. -/
theorem recorded_of_error {bytes : List UInt8} {files : Files} {i : Nat} {b : UInt8}
    {front rest : List Token} (denied : .denyIllegal ∈ switches)
    (first : FirstUnknown source.utf8 i b) (split : tokenize source = front ++ .stray i b :: rest)
    (passed : ∀ t ∈ front, t.isIllegal = false) :
    Recorded switches source ⟨1, bytes, diagnosticText .verbose (said source (front ++ [.stray i b])
      (.complaint (Fault.illegalToken [shownByte b] i).message)), files⟩ := by
  have last : (Notice.complaint (Fault.illegalToken [shownByte b] i).message).line? .verbose =
      some (Notice.errorLabel ++ ": ".toList ++ (Fault.illegalToken [shownByte b] i).message) := rfl
  have unbroken := break_not_mem_complaint (Fault.break_not_mem_illegalToken [shownByte b] i)
  constructor
  · refine iff_of_false Nat.one_ne_zero (fun legal => legal ⟨denied, ?_⟩)
    exact exists_firstUnknown_iff.1 ⟨i, b, first⟩
  · intro ok
    cases ok
  · intro _
    exact ⟨i, b, front, rest, first, split, passed, linesFrom_scannedFront last unbroken rfl⟩
  · intro ts us hts hus
    exact map_place_eq (hts.symm.trans hus)
  · exact linesFrom_listedFront last unbroken
  · intro ok
    cases ok

/-- A verbose run over code logs its scan token by token. -/
theorem recorded_of_verbose {arguments : List Text}
    (asked : Arguments.parse arguments = .ok (.run (some (.code source)) switches))
    (accepts : s.device.accepts) (verbose : .verbose ∈ switches) :
    Recorded switches source (run s arguments) := by
  obtain ⟨r, full⟩ : ∃ r,
      Listing.report (listingOptions s.device switches) s.device.sink source = r := ⟨_, rfl⟩
  have unlimited := full
  rw [sink_of_accepts accepts, Sink.unlimited] at unlimited
  have fails := Listing.fails_iff (listingOptions s.device switches) .bufferFull source
  rw [unlimited, denyIllegal_iff] at fails
  cases ended : r.result with
  | ok n =>
    have legal : ¬ (.denyIllegal ∈ switches ∧ ∃ b ∈ source.utf8, isKnown b = false) := by
      intro h
      obtain ⟨fault, failed⟩ := fails.2 h
      cases ended.symm.trans failed
    have drawn := Listing.drawn_of_ok (unlimited ▸ ended)
    have counted := Listing.eq_count_of_ok (unlimited ▸ ended)
    rw [unlimited] at drawn counted
    rw [run_of_code asked, noted_of_ok full ended, filter_of_verbose s verbose, drawn]
    exact recorded_of_ok legal counted
  | error fault =>
    obtain ⟨i, b, front, rest, first, split, passed, drawn, rfl⟩ :=
      Listing.drawn_of_error (unlimited ▸ ended)
    rw [unlimited] at drawn
    rw [run_of_code asked, noted_of_error full ended, filter_of_verbose s verbose, drawn]
    exact recorded_of_error (fails.1 ⟨_, ended⟩).1 first split passed

/-- A run on a terminal over code that holds a byte outside the alphabet, which is denied. -/
theorem recorded_of_verbose_stray :
    let r := run { oneFile with device := .terminal }
      ["-e".toList, "a @ b".toList, Switch.denyIllegal.flag, Switch.verbose.flag]
    r.status ≠ 0 ∧ linesFrom listedFront r.diagnostics = [] ∧
      ∃ i b front rest, FirstUnknown (Text.utf8 "a @ b".toList) i b ∧
        tokenize "a @ b".toList = front ++ .stray i b :: rest ∧
        (∀ t ∈ front, t.isIllegal = false) ∧
        linesFrom scannedFront r.diagnostics = (front ++ [.stray i b]).map scannedLine := by
  have asked : Arguments.parse
      ["-e".toList, "a @ b".toList, Switch.denyIllegal.flag, Switch.verbose.flag] =
      .ok (.run (some (.code "a @ b".toList)) [.denyIllegal, .verbose]) := by decide +kernel
  have recorded := @recorded_of_verbose { oneFile with device := .terminal } _ _ _ asked rfl
    (by decide)
  have unknown : Switch.denyIllegal ∈ [Switch.denyIllegal, Switch.verbose] ∧
      ∃ b ∈ Text.utf8 "a @ b".toList, isKnown b = false := by decide
  have failed := fun ok => recorded.succeeds_iff.1 ok unknown
  exact ⟨failed, recorded.listed.trans (if_neg failed), recorded.part failed⟩

end Verbose
end Run
end LexerConsole
