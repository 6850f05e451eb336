import LexerConsole.Invocation.Run
import LexerConsole.Proofs.Decoding

/-!
# Sessions line by line

A session on a pipe prints its greeting and then something for each line, up to the first line that
asks to leave; if no line does, a mark for the end of the input comes last. What it prints for a
line does not depend on the lines before, and nothing in a line but the wish to leave ends it: not
an illegal token, not an unknown command, not a file that cannot be read. So a session goes on after
some lines just as a new one begins.

The lines are those that the reader hands out. Where the reader itself prints a prompt, that stands
before whatever is printed for a line.
-/

namespace LexerConsole

def leaves (line : Text) : Bool :=
  !line.isBlank && (Command.parse? line).any fun found => found.1 = .exit

/-- The listing of a source without colours in which everything is let pass. -/
def plainListing (source : Text) : List UInt8 :=
  (Listing.report (.plain false) .unlimited source).bytes

/-- What is printed for a line, where `read` gives the text of a file. -/
def printedFor (read : Text → Except Cause Text) (line : Text) : List UInt8 :=
  if line.isBlank then []
  else
    match Command.parse? line with
    | none => plainListing line
    | some (.help, _) => Screen.help.utf8
    | some (.version, _) => Screen.versionLine.utf8
    | some (.clear, _) => Screen.clear.utf8
    | some (.exit, _) | some (.load, none) => []
    | some (.load, some path) =>
      match read path with
      | .ok source => plainListing source
      | .error _ => []

/-- The lines up to the first that asks to leave, that line included. -/
def heard : List Text → List Text
  | [] => []
  | line :: lines => if leaves line then [line] else line :: heard lines

def spoken (prompt : List UInt8) (read : Text → Except Cause Text) (lines : List Text) :
    List UInt8 :=
  (heard lines).flatMap (fun line => prompt ++ printedFor read line) ++
    if lines.any leaves then [] else prompt ++ Screen.endMark.utf8

/-- The turns that the reader of a run hands out. -/
def Run.given (s : Surroundings) : List Turn :=
  (turns (openHistory s.environment s.files).1 s.input).map Prod.fst

/-- The text of a file as a session reads it, after the folder of its history was made. -/
def Run.reads (s : Surroundings) : Text → Except Cause Text :=
  (openHistory s.environment s.files).2.2.readText

theorem Transcript.output_append (a b : Transcript) : (a ++ b).output = a.output ++ b.output :=
  rfl

section Line

variable (read : Text → Except Cause Text) (line : Text)

theorem exists_listing (source : Text) : ∃ notices,
    Reply.listing .pipe source = ⟨⟨plainListing source, notices⟩, .proceed⟩ := by
  have output : (Reply.listing .pipe source).transcript.output = plainListing source :=
    List.append_nil _
  exact ⟨(Reply.listing .pipe source).transcript.notices, by rw [← output]; rfl⟩

/-- Whatever a line is, it gets its output, and only the wish to leave ends the session. -/
theorem exists_ofLine : ∃ notices, Reply.ofLine .pipe read line =
    ⟨⟨printedFor read line, notices⟩, if leaves line then .leave else .proceed⟩ := by
  rw [Reply.ofLine, Action.ofLine, printedFor, leaves]
  cases line.isBlank with
  | true => exact ⟨[], rfl⟩
  | false =>
    simp only [Bool.false_eq_true, if_false]
    rcases Command.parse? line with _ | ⟨command, argument⟩
    · exact exists_listing line
    cases command with
    | help | exit | clear | version => exact ⟨[], rfl⟩
    | load =>
      cases argument with
      | none => exact ⟨_, rfl⟩
      | some path =>
        simp only [Action.ofCommand, Reply.ofAction]
        cases read path with
        | ok source => exact exists_listing source
        | error cause => exact ⟨_, rfl⟩

theorem exists_answer : ∃ notices, Conversation.answer .pipe read (.line line) =
    (⟨printedFor read line, notices⟩, if leaves line then some .finished else none) := by
  obtain ⟨notices, reply⟩ := exists_ofLine read line
  refine ⟨notices, ?_⟩
  rw [Conversation.answer, reply]
  cases leaves line with
  | true => rfl
  | false => rfl

theorem printedFor_congr {read read' : Text → Except Cause Text} {line : Text}
    (same : ∀ path, Command.parse? line = some (.load, some path) → read path = read' path) :
    printedFor read line = printedFor read' line := by
  rcases parsed : Command.parse? line with _ | ⟨command, argument⟩
  · simp only [printedFor, parsed]
  cases command with
  | load =>
    cases argument with
    | none => simp only [printedFor, parsed]
    | some path => simp only [printedFor, parsed, same path parsed]
  | help | exit | clear | version => simp only [printedFor, parsed]

end Line

section Run

variable {prompt : List UInt8} {read : Text → Except Cause Text}

theorem spoken_cons (line : Text) (lines : List Text) :
    spoken prompt read (line :: lines) = prompt ++ printedFor read line ++
      if leaves line then [] else spoken prompt read lines := by
  by_cases ending : leaves line
  · simp [spoken, heard, ending]
  · simp [spoken, heard, ending]

/-- Lines that do not ask to leave are answered, and then the session goes on. -/
theorem spoken_append {first : List Text} (stay : ∀ line ∈ first, leaves line = false)
    (second : List Text) : spoken prompt read (first ++ second) =
      first.flatMap (fun line => prompt ++ printedFor read line) ++ spoken prompt read second := by
  induction first with
  | nil => rfl
  | cons line first ih =>
    obtain ⟨here, others⟩ := List.forall_mem_cons.1 stay
    rw [List.cons_append, spoken_cons, here, if_neg Bool.false_ne_true, ih others,
      List.flatMap_cons, List.append_assoc _ _ (spoken prompt read second)]

/-- A conversation over lines prints for each of them and ends well. -/
theorem hold_lines (read : Text → Except Cause Text) (lead : Transcript) (h : History)
    {turns : List (Turn × History)} {lines : List Text}
    (given : turns.map Prod.fst = lines.map .line ++ [.ended]) :
    (Conversation.hold .pipe read lead h turns).transcript.output =
        spoken lead.output read lines ∧
      (Conversation.hold .pipe read lead h turns).ending = .finished := by
  induction lines generalizing turns h with
  | nil =>
    obtain ⟨⟨turn, after⟩, rest, rfl, first, -⟩ := List.map_eq_cons_iff.1 given
    obtain rfl : turn = .ended := first
    exact ⟨rfl, rfl⟩
  | cons line lines ih =>
    obtain ⟨⟨turn, after⟩, rest, rfl, first, others⟩ := List.map_eq_cons_iff.1 given
    obtain rfl : turn = .line line := first
    obtain ⟨notices, answered⟩ := exists_answer read line
    rw [spoken_cons]
    cases ending : leaves line with
    | true =>
      rw [ending, if_pos rfl] at answered
      simp only [Conversation.hold, answered]
      exact ⟨(List.append_nil _).symm, trivial⟩
    | false =>
      rw [ending, if_neg Bool.false_ne_true] at answered
      obtain ⟨output, well⟩ := ih after others
      simp only [Conversation.hold, answered, Transcript.output_append, output]
      exact ⟨rfl, well⟩

end Run

section Session

variable {s : Surroundings} {lines : List Text}

theorem output_saveHistory (e : Environment) (h : History) (files : Files) :
    (Run.saveHistory e h files).1.output = [] := by
  rw [Run.saveHistory]
  split
  · cases files.write e.historyFile.lookup h.fileText.utf8 with
    | ok _ => rfl
    | error _ => rfl
  · rfl

/-- Only on a plain terminal does a reader print a prompt. -/
theorem output_lead (editor : s.environment.hasPlainTerminal = false) :
    (Run.lead s).output = [] := by
  rw [Run.lead]
  cases s.input with
  | typed _ => rfl
  | piped _ => simp only [editor, Bool.false_eq_true, if_false]; rfl

theorem session_lines (piped : s.device = .pipe)
    (given : Run.given s = lines.map .line ++ [.ended]) :
    (Run.session s).1.output = (Screen.greeting s.environment.user).utf8 ++
        spoken (Run.lead s).output (Run.reads s) lines ∧
      (Run.session s).2.1 = .finished := by
  obtain ⟨output, ending⟩ := hold_lines (Run.reads s) (Run.lead s)
    (Run.openHistory s.environment s.files).1 given
  have opening : (Transcript.logged [.startingSession] ++
      (Run.openHistory s.environment s.files).2.1).output = [] := rfl
  unfold Run.reads at output ending ⊢
  simp only [Run.session, piped, Device.acceptsGreeting, Bool.not_true, Bool.false_eq_true,
    if_false, ending, Transcript.output_append _ (Run.saveHistory _ _ _).1, output_saveHistory,
    Transcript.output_append _ (Conversation.hold _ _ _ _ _).transcript, output,
    Transcript.output_append _ (Transcript.printed _), opening]
  exact ⟨List.append_nil _, trivial⟩

end Session

/-- How a session goes that is given these lines. -/
structure Survives (s : Surroundings) (lines : List Text) : Prop where
  output : (Run.session s).1.output = (Screen.greeting s.environment.user).utf8 ++
    spoken (Run.lead s).output (Run.reads s) lines
  ending : (Run.session s).2.1 = .finished
  /-- Behind lines that do not ask to leave, what is printed for the others is what is printed in
  a session of their own. -/
  continued : ∀ (first second : List Text) (input : Input), lines = first ++ second →
    (∀ line ∈ first, leaves line = false) →
    Run.given { s with input := input } = second.map .line ++ [.ended] →
    Run.lead { s with input := input } = Run.lead s →
    ∃ rest, (Run.session { s with input := input }).1.output =
        (Screen.greeting s.environment.user).utf8 ++ rest ∧
      (Run.session s).1.output = (Screen.greeting s.environment.user).utf8 ++
        first.flatMap (fun line => (Run.lead s).output ++ printedFor (Run.reads s) line) ++ rest
  /-- Only the file that a line loads can change what is printed for it. -/
  alone : ∀ (line : Text) (read : Text → Except Cause Text),
    (∀ path, Command.parse? line = some (.load, some path) → read path = Run.reads s path) →
    printedFor read line = printedFor (Run.reads s) line
  /-- Without a plain terminal there are no prompts between the outputs. -/
  unprompted : s.environment.hasPlainTerminal = false → (Run.lead s).output = []

/-- Whatever the lines are, each gets its output, and the session lasts until one of them asks to
leave or the input ends. -/
theorem survives_lines (s : Surroundings) (lines : List Text) (piped : s.device = .pipe)
    (given : Run.given s = lines.map .line ++ [.ended]) : Survives s lines := by
  obtain ⟨output, ending⟩ := session_lines piped given
  constructor
  · exact output
  · exact ending
  · rintro first second input rfl stay given' lead
    have fresh := (session_lines (s := { s with input := input }) piped given').1
    refine ⟨_, fresh, ?_⟩
    rw [output, spoken_append stay, List.append_assoc, lead]
    rfl
  · exact fun line read same => printedFor_congr same
  · exact output_lead

/-- Five lines through a pipe: a listing, a blank line, a file that is not there, and the wish to
leave, behind which nothing is heard. -/
def fiveLines : Surroundings where
  environment := ⟨[], .named ['.']⟩
  files := .bare
  input := .piped (Text.utf8 "let x\n\n.load nowhere\r\n .EXIT\nafter".toList)
  device := .pipe

theorem survives_lines_five : Run.given fiveLines = [.line "let x".toList, .line [],
      .line ".load nowhere".toList, .line " .EXIT".toList, .line "after".toList, .ended] ∧
    (Run.session fiveLines).1.output =
      (Screen.greeting "there".toList).utf8 ++ plainListing "let x".toList := by
  have given : Run.given fiveLines = ["let x".toList, [], ".load nowhere".toList,
      " .EXIT".toList, "after".toList].map .line ++ [.ended] := by decide +kernel
  have printed : spoken (Run.lead fiveLines).output (Run.reads fiveLines) ["let x".toList, [],
      ".load nowhere".toList, " .EXIT".toList, "after".toList] = plainListing "let x".toList := by
    decide +kernel
  exact ⟨given, printed ▸ (survives_lines fiveLines _ rfl given).output⟩

end LexerConsole
