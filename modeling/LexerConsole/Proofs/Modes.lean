import LexerConsole.Proofs.CommandLines
import LexerConsole.Proofs.Commands
import LexerConsole.Proofs.Folders
import LexerConsole.Proofs.Sessions

/-!
# Four ways to list a source

A source comes as code on the command line, in a file, in a file that a session loads, or as a line
of a session. It makes no difference which: the same tokens are listed, and the same complaint is
made behind what is already listed. Runs over code and over a file differ in the one log event that
says where the source comes from.

A session makes the folder of its history before it reads anything, so a name that leads nowhere in
a run over a file may lead somewhere in a session.
-/

namespace LexerConsole

open Alphabet

/-- The closing token is behind every illegal one. -/
theorem Listing.listed_of_illegal {o : Options} (ho : o.denyIllegal) {source : Text} {t : Token}
    (ht : t ∈ tokenize source) (hi : t.isIllegal) :
    listed o (tokenize source) = (tokenize source).takeWhile fun t => !t.isIllegal := by
  obtain ⟨body, whole, hn⟩ := (lexes_tokenize source).exists_body
  have inBody : t ∈ body := by
    rw [whole] at ht
    rcases List.mem_append.1 ht with ht | ht
    · exact ht
    · obtain rfl := List.mem_singleton.1 ht
      cases hi
  have ends : ∀ rest : List Token, (body ++ rest).takeWhile (fun t => !t.isIllegal) =
      body.takeWhile fun t => !t.isIllegal := by
    intro rest
    rw [List.takeWhile_append, if_neg]
    intro full
    have all := List.all_eq_true.1 List.all_takeWhile t
      (((List.takeWhile_prefix _).eq_of_length full).symm ▸ inBody)
    simp [hi] at all
  have denied : ∀ t, denies o t = t.isIllegal := fun t => by rw [denies, ho, Bool.true_and]
  rw [listed, whole, chosen_closed hn, ends]
  simp only [denied, ends]

namespace Run

/-- The lines of tokens without colours. -/
def plainLines (ts : List Token) : List UInt8 :=
  ts.flatMap fun t => Text.utf8 (t.plain ++ ['\n'])

def filter (s : Surroundings) (switches : List Switch) : LogFilter :=
  .ofRun (switches.contains .verbose) s.environment.logFilterText

/-- What a filter lets through of some events. -/
def logText (f : LogFilter) (events : List Event) : Text :=
  diagnosticText f (events.map .log)

/-- The line of a complaint, which no filter holds back. -/
def complaintText (fault : Fault) : Text :=
  Notice.errorLabel ++ ": ".toList ++ fault.message ++ ['\n']

/-- How the listing of a source ends, what it prints and what it complains about. -/
structure Listed (switches : List Switch) (source : Text) (status : Nat) (output : List UInt8)
    (complaint : Text) : Prop where
  failed_iff : status = 1 ↔ .denyIllegal ∈ switches ∧ ∃ b ∈ source.utf8, isKnown b = false
  whole : status ≠ 1 → status = 0 ∧ complaint = [] ∧
    output = plainLines ((tokenize source).filter fun t => .showEof ∈ switches ∨ !t.isEof)
  part : status = 1 → output = plainLines ((tokenize source).takeWhile fun t => !t.isIllegal) ∧
    ∃ i b, FirstUnknown source.utf8 i b ∧ complaint = complaintText (.illegalToken [shownByte b] i)

/-- The report of a listing on a pipe. -/
def report (switches : List Switch) (source : Text) : Listing.Report :=
  Listing.report (listingOptions .pipe switches) .unlimited source

section Report

variable {switches : List Switch} {source : Text}

theorem bytes_report : (report switches source).bytes =
    plainLines (Listing.listed (listingOptions .pipe switches) (tokenize source)) := by
  rw [report, Sink.unlimited, Listing.report_bytes, Listing.lines]
  simp only [Listing.line_eq]
  rfl

theorem denyIllegal_iff (d : Device) (switches : List Switch) :
    (listingOptions d switches).denyIllegal ↔ .denyIllegal ∈ switches := by
  simp [listingOptions]

theorem exists_error_iff : (∃ fault, (report switches source).result = .error fault) ↔
    .denyIllegal ∈ switches ∧ ∃ b ∈ source.utf8, isKnown b = false :=
  (Listing.fails_iff (listingOptions .pipe switches) .bufferFull source).trans
    (and_congr_left' (denyIllegal_iff .pipe switches))

theorem listed_of_ok {n : Nat} (ok : (report switches source).result = .ok n) :
    Listed switches source 0 (report switches source).bytes [] := by
  constructor
  · rw [← exists_error_iff, ok]
    refine iff_of_false Nat.zero_ne_one ?_
    rintro ⟨fault, failed⟩
    cases failed
  · intro _
    refine ⟨rfl, rfl, ?_⟩
    rw [bytes_report, Listing.listed_eq_chosen_of_ok ok, Listing.chosen]
    simp only [listingOptions, List.contains_eq_mem, Bool.decide_or, Bool.decide_eq_true]
  · intro h
    cases h

theorem listed_of_error {fault : Fault} (failed : (report switches source).result = .error fault) :
    Listed switches source 1 (report switches source).bytes (complaintText fault) := by
  constructor
  · exact iff_of_true rfl (exists_error_iff.1 ⟨fault, failed⟩)
  · intro h
    exact absurd rfl h
  · intro _
    obtain ⟨denied, t, found, -⟩ := (Listing.report_error_iff source fault).1 failed
    obtain ⟨i, b, first, rfl⟩ := (Listing.report_denied_iff denied).1 failed
    refine ⟨?_, i, b, first, rfl⟩
    rw [bytes_report, Listing.listed_of_illegal denied (List.mem_of_find?_eq_some found)
      (List.find?_some found)]

end Report

section Diagnostics

variable (f : LogFilter)

theorem diagnosticText_append (a b : List Notice) :
    diagnosticText f (a ++ b) = diagnosticText f a ++ diagnosticText f b := by
  rw [diagnosticText, List.filterMap_append, List.flatMap_append]
  rfl

theorem diagnosticText_complaint (fault : Fault) :
    diagnosticText f [.complaint fault.message] = complaintText fault :=
  List.append_nil _

end Diagnostics

/-- What a run leaves behind that notes an event and then does something. -/
def noted (s : Surroundings) (switches : List Switch) (note : Event) (done : Transcript × Ending) :
    Outcome :=
  ⟨status done.2, done.1.output, diagnosticText (filter s switches)
    (.log note :: (done.1.notices ++ (farewell done.2).notices)), s.files⟩

section Source

variable {s : Surroundings} {before after : List Switch} {path : Text}

theorem output_farewell (e : Ending) : (farewell e).output = [] := by
  cases e <;> rfl

theorem noted_eq (switches : List Switch) (note : Event) (done : Transcript × Ending) :
    let written := Transcript.logged [note] ++ done.1 ++ farewell done.2
    noted s switches note done =
      ⟨status done.2, written.output, diagnosticText (filter s switches) written.notices,
        s.files⟩ := by
  have output : (Transcript.logged [note] ++ done.1 ++ farewell done.2).output =
      done.1.output := by
    rw [Transcript.output_append, output_farewell, List.append_nil]
    rfl
  simp only [output]
  rfl

theorem run_of_code {arguments : List Text} {source : Text} {switches : List Switch}
    (asked : Arguments.parse arguments = .ok (.run (some (.code source)) switches)) :
    run s arguments =
      noted s switches (.inlineCode source.byteLength) (listing s.device switches source) := by
  rw [run, asked, noted_eq]
  rfl

theorem run_code (distinct : (before ++ after).Nodup) (source : Text) :
    run s (before.map Switch.flag ++ ("--eval=".toList ++ source) :: after.map Switch.flag) =
      noted s (before ++ after) (.inlineCode source.byteLength)
        (listing s.device (before ++ after) source) :=
  run_of_code (Arguments.parse_names (.code source) distinct)

/-- A file that cannot be read ends the run behind its note. -/
theorem run_file (distinct : (before ++ after).Nodup) (value : Arguments.isValue path)
    (given : path ≠ []) :
    run s (before.map Switch.flag ++ path :: after.map Switch.flag) =
      noted s (before ++ after) (.readingFile path)
        (match s.files.readText path with
        | .ok source => listing s.device (before ++ after) source
        | .error cause => (.empty, .failed (.unreadable path cause))) := by
  rw [run, Arguments.parse_names (.file given value) distinct]
  simp only [perform, file]
  cases s.files.readText path with
  | ok source =>
    rw [noted_eq]
    rfl
  | error cause => rfl

/-- On a pipe only the first event of a run tells where the source comes from. -/
theorem exists_listed (piped : s.device = .pipe) (switches : List Switch) (source : Text) :
    ∃ status output complaint, ∃ events : List Event,
      Listed switches source status output complaint ∧
        ∀ note, noted s switches note (listing s.device switches source) =
          ⟨status, output, logText (filter s switches) (note :: events) ++ complaint, s.files⟩ := by
  obtain ⟨events, logged⟩ : ∃ events : List Event,
      (Transcript.ofReport source (report switches source)).notices = events.map .log := ⟨_, rfl⟩
  cases ended : (report switches source).result with
  | ok n =>
    have done : listing s.device switches source =
        (.ofReport source (report switches source), .finished) := by
      rw [report] at ended
      simp only [listing, piped, Device.sink, ended, report]
    refine ⟨_, _, _, events, listed_of_ok ended, ?_⟩
    intro note
    simp only [noted, done, logged, farewell, Transcript.empty, List.append_nil]
    rfl
  | error fault =>
    have done : listing s.device switches source =
        (.ofReport source (report switches source), .failed fault) := by
      rw [report] at ended
      simp only [listing, piped, Device.sink, ended, report]
    refine ⟨_, _, _, events, listed_of_error ended, ?_⟩
    intro note
    rw [← diagnosticText_complaint (filter s switches), logText, ← diagnosticText_append]
    simp only [noted, done, logged, farewell]
    rfl

end Source

/-- A run does what a reply does, behind a note of its own. -/
structure Repeats (f : LogFilter) (note : Event) (r : Outcome) (reply : Reply) : Prop where
  printed : r.output = reply.transcript.output
  said : r.diagnostics = diagnosticText f (.log note :: reply.transcript.notices)
  proceeds : reply.flow = .proceed

/-- The surroundings once a session has begun, with the folder of its history. -/
def opened (s : Surroundings) : Surroundings :=
  { s with files := (openHistory s.environment s.files).2.2 }

/-- Wherever a session is given a line, this is printed for it. -/
def Answers (s : Surroundings) (line : Text) (printed : List UInt8) : Prop :=
  ∀ (input : Input) (first second : List Text) (prompt : List UInt8),
    prompt = (lead { s with input := input }).output →
    given { s with input := input } = (first ++ line :: second).map .line ++ [.ended] →
    (∀ l ∈ first, leaves l = false) →
    (run { s with input := input } []).output = (Screen.greeting s.environment.user).utf8 ++
      (first.flatMap (fun l => prompt ++ printedFor (reads s) l) ++
        (prompt ++ printed ++ spoken prompt (reads s) second))

section Session

variable {s : Surroundings} {path line : Text}

theorem repeats_listing (note : Event) (source : Text) : Repeats (filter s []) note
    (noted s [] note (listing s.device [] source)) (Reply.listing s.device source) := by
  have options : listingOptions s.device [] = { coloured := s.device.coloured } := rfl
  simp only [noted, listing, Reply.listing, options]
  cases (Listing.report { coloured := s.device.coloured } s.device.sink source).result with
  | ok n => exact ⟨(List.append_nil _).symm, rfl, rfl⟩
  | error fault => exact ⟨(List.append_nil _).symm, rfl, rfl⟩

theorem repeats_complaint (note : Event) (fault : Fault) : Repeats (filter s []) note
    (noted s [] note (.empty, .failed fault)) (Reply.complain fault.message) :=
  ⟨rfl, rfl, rfl⟩

theorem ofLine_load (given : path ≠ []) (trimmed : Text.trimSpace path = path) (d : Device)
    (read : Text → Except Cause Text) :
    Reply.ofLine d read (".load ".toList ++ path) = Reply.loading d path (read path) := by
  have ends : Text.Trimmed Text.isSpace path := trimmed ▸ Text.trimmed_trimWhere Text.isSpace path
  have parsed : Command.parse? ([] ++ '.' :: ("load".toList ++ ([' '] ++ path)) ++ []) =
      some (.load, some path) :=
    Command.parse?_argument (by decide) (List.forall_mem_singleton.2 rfl) (by decide) given ends
      (List.forall_mem_nil _) (List.forall_mem_nil _)
  rw [List.nil_append, List.append_nil] at parsed
  have command : Command.parse? (".load ".toList ++ path) = some (.load, some path) := parsed
  have solid : Text.isBlank (".load ".toList ++ path) = false := rfl
  rw [Reply.ofLine, Action.ofLine, solid, command]
  rfl

theorem ofLine_plain (solid : line.isBlank = false) (plain : Command.parse? line = none)
    (d : Device) (read : Text → Except Cause Text) :
    Reply.ofLine d read line = Reply.listing d line := by
  rw [Reply.ofLine, Action.ofLine, solid, plain]
  rfl

/-- A file is loaded as it is listed in a run of its own. -/
theorem repeats_load (given : path ≠ []) (value : Arguments.isValue path)
    (trimmed : Text.trimSpace path = path) {read : Text → Except Cause Text}
    (same : read path = s.files.readText path) : Repeats (filter s []) (.readingFile path)
      (run s [path]) (Reply.ofLine s.device read (".load ".toList ++ path)) := by
  have alone := @run_file s [] [] path List.nodup_nil value given
  rw [List.map_nil, List.nil_append, List.append_nil] at alone
  rw [alone, ofLine_load given trimmed, same]
  cases s.files.readText path with
  | ok source => exact repeats_listing _ source
  | error cause => exact repeats_complaint _ _

/-- A line is listed as code of its own. -/
theorem repeats_line (solid : line.isBlank = false) (plain : Command.parse? line = none)
    (read : Text → Except Cause Text) : Repeats (filter s []) (.inlineCode line.byteLength)
      (run s ["--eval=".toList ++ line]) (Reply.ofLine s.device read line) := by
  have alone := @run_code s [] [] List.nodup_nil line
  rw [List.map_nil, List.nil_append, List.append_nil] at alone
  rw [alone, ofLine_plain solid plain]
  exact repeats_listing _ line

/-- A session prints what a reply does, and goes on. -/
theorem answers_of_repeats (piped : s.device = .pipe) {f : LogFilter} {note : Event} {r : Outcome}
    (h : Repeats f note r (Reply.ofLine .pipe (reads s) line)) : Answers s line r.output := by
  rintro input first second prompt rfl given stay
  obtain ⟨notices, reply⟩ := exists_ofLine (reads s) line
  obtain ⟨printed, -, proceeds⟩ := h
  rw [reply] at printed proceeds
  have here : leaves line = false := by
    cases ending : leaves line with
    | true => simp [ending] at proceeds
    | false => rfl
  have output := (@session_lines { s with input := input } _ piped given).1
  have parsed : Arguments.parse [] = .ok (.run none []) := rfl
  have whole : (run { s with input := input } []).output =
      (session { s with input := input }).1.output := by
    rw [run, parsed]
    simp only [perform]
    rw [Transcript.output_append, output_farewell, List.append_nil]
  rw [whole, output, spoken_append stay, spoken_cons, here, if_neg Bool.false_ne_true, printed]
  rfl

theorem keeps_openHistory (s : Surroundings) : s.files.Keeps (opened s).files := by
  rw [opened, openHistory]
  cases made : s.files.makeFolders s.environment.historyFolder.lookup with
  | ok files => exact Files.keeps_makeFolders made
  | error cause => exact .refl s.files

end Session

/-- What is the same however a source is given. -/
structure ModesAgree (s : Surroundings) : Prop where
  /-- Code and a file of the same content, with the switches in any places. -/
  sources : ∀ (before after : List Switch) (path source : Text), (before ++ after).Nodup →
    Arguments.isValue path → s.files.readText path = .ok source →
    ∃ status output complaint, ∃ events : List Event,
      Listed (before ++ after) source status output complaint ∧
      run s (before.map Switch.flag ++ ("--eval=".toList ++ source) :: after.map Switch.flag) =
        ⟨status, output, logText (filter s (before ++ after))
          (.inlineCode source.byteLength :: events) ++ complaint, s.files⟩ ∧
      run s (before.map Switch.flag ++ path :: after.map Switch.flag) =
        ⟨status, output, logText (filter s (before ++ after))
          (.readingFile path :: events) ++ complaint, s.files⟩
  undecodable : ∀ (before after : List Switch) (path : Text) (content : List UInt8),
    (before ++ after).Nodup → Arguments.isValue path → s.files.read path = .ok content →
    Text.ofUtf8? content = none →
    run s (before.map Switch.flag ++ path :: after.map Switch.flag) =
      ⟨1, [], logText (filter s (before ++ after)) [.readingFile path] ++
        complaintText (.unreadable path .notUtf8), s.files⟩
  loaded : ∀ path, path ≠ [] → Arguments.isValue path → Text.trimSpace path = path →
    Repeats (filter s []) (.readingFile path) (run s [path])
      (Reply.ofLine .pipe s.files.readText (".load ".toList ++ path))
  typed : ∀ (line : Text) (read : Text → Except Cause Text), line.isBlank = false →
    Command.parse? line = none →
    Repeats (filter s []) (.inlineCode line.byteLength) (run s ["--eval=".toList ++ line])
      (Reply.ofLine .pipe read line)
  /-- The files are those that are there once the session has begun. -/
  answersLoad : ∀ path, path ≠ [] → Arguments.isValue path → Text.trimSpace path = path →
    Answers s (".load ".toList ++ path) (run (opened s) [path]).output
  answersReadable : ∀ (path : Text) (content : List UInt8), Arguments.isValue path →
    Text.trimSpace path = path → s.files.read path = .ok content →
    Answers s (".load ".toList ++ path) (run s [path]).output
  answersLine : ∀ line, line.isBlank = false → Command.parse? line = none →
    Answers s line (run s ["--eval=".toList ++ line]).output

theorem modesAgree_of_pipe (s : Surroundings) (piped : s.device = .pipe) : ModesAgree s := by
  constructor
  · intro before after path source distinct value content
    obtain ⟨bytes, found, -⟩ := exists_of_bind_ok content
    obtain ⟨status, output, complaint, events, listed, noted⟩ :=
      exists_listed piped (before ++ after) source
    refine ⟨status, output, complaint, events, listed, ?_, ?_⟩
    · rw [run_code distinct, noted]
    · rw [run_file distinct value (Files.ne_nil_of_read found), content]
      exact noted _
  · intro before after path content distinct value found undecoded
    have unread : s.files.readText path = .error .notUtf8 := by
      rw [Files.readText, found]
      simp only [bind, Except.bind, undecoded]
      rfl
    rw [run_file distinct value (Files.ne_nil_of_read found), unread,
      ← diagnosticText_complaint (filter s (before ++ after)), logText, ← diagnosticText_append]
    rfl
  · intro path given value trimmed
    exact piped ▸ repeats_load given value trimmed rfl
  · intro line read solid plain
    exact piped ▸ repeats_line solid plain read
  · intro path given value trimmed
    have repeated := @repeats_load (opened s) path given value trimmed (reads s) rfl
    exact answers_of_repeats piped (piped ▸ repeated)
  · intro path content value trimmed found
    have same : reads s path = s.files.readText path := (keeps_openHistory s).readText found
    have given := Files.ne_nil_of_read found
    exact answers_of_repeats piped (piped ▸ repeats_load given value trimmed same)
  · intro line solid plain
    exact answers_of_repeats piped (piped ▸ repeats_line solid plain (reads s))

/-- A file that holds a byte outside the alphabet, and a session that loads it and then is given
what it holds. -/
def oneFile : Surroundings where
  environment := ⟨[], .named ['.']⟩
  files := Files.bare.add ['a'] (Text.utf8 "x @".toList)
  input := .piped (Text.utf8 ".load a\nx @".toList)
  device := .pipe

theorem modesAgree_of_pipe_strays :
    (∃ status output complaint, ∃ events : List Event,
      status = 1 ∧ Listed [.denyIllegal] "x @".toList status output complaint ∧
      run oneFile ["--eval=x @".toList, Switch.denyIllegal.flag] =
        ⟨status, output, logText (filter oneFile [.denyIllegal]) (.inlineCode 3 :: events) ++
          complaint, oneFile.files⟩ ∧
      run oneFile [['a'], Switch.denyIllegal.flag] =
        ⟨status, output, logText (filter oneFile [.denyIllegal]) (.readingFile ['a'] :: events) ++
          complaint, oneFile.files⟩) ∧
    (run oneFile []).output = (Screen.greeting "there".toList).utf8 ++
      ((run oneFile [['a']]).output ++ spoken [] (reads oneFile) ["x @".toList]) := by
  have agree := modesAgree_of_pipe oneFile rfl
  have found : oneFile.files.read ['a'] = .ok (Text.utf8 "x @".toList) := by decide +kernel
  have content : oneFile.files.readText ['a'] = .ok "x @".toList := by decide +kernel
  have given : given oneFile = [".load a".toList, "x @".toList].map .line ++ [.ended] := by
    decide +kernel
  have unknown : Switch.denyIllegal ∈ [Switch.denyIllegal] ∧
      ∃ b ∈ Text.utf8 "x @".toList, isKnown b = false := by decide
  obtain ⟨status, output, complaint, events, listed, onCode, onFile⟩ :=
    agree.sources [] [.denyIllegal] ['a'] "x @".toList (by decide) rfl content
  exact ⟨⟨status, output, complaint, events, listed.failed_iff.2 unknown, listed, onCode, onFile⟩,
    agree.answersReadable ['a'] _ rfl rfl found oneFile.input [] ["x @".toList] [] rfl given
      (List.forall_mem_nil _)⟩

end Run
end LexerConsole
