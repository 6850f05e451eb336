import LexerConsole.Files
import LexerConsole.Invocation.Arguments
import LexerConsole.Invocation.Environment
import LexerConsole.Session.Conversation

/-!
# Runs of the program

A run turns a command line, an environment, files, an input and an output device
into an exit status, what it left on its two channels, and the files afterwards.
A source on the command line is listed once; without one a session is held.
-/

namespace LexerConsole

/-- Where a session gets its turns from. -/
inductive Input where
  | piped (bytes : List UInt8)
  /-- A keyboard, as what is typed for each line. -/
  | typed (keys : List Text)
  deriving DecidableEq, Repr

structure Surroundings where
  environment : Environment
  files : Files
  input : Input
  device : Device
  deriving DecidableEq, Repr

structure Outcome where
  status : Nat
  output : List UInt8
  /-- The text on the other channel. -/
  diagnostics : Text
  files : Files
  deriving DecidableEq, Repr

namespace Run

def status : Ending → Nat
  | .finished => 0
  | .failed _ => 1
  | .crashed => 101

def farewell : Ending → Transcript
  | .failed fault => .noticed [.complaint fault.message]
  | .finished | .crashed => .empty

def diagnosticText (f : LogFilter) (notices : List Notice) : Text :=
  (notices.filterMap fun n => n.line? f).flatMap fun line => line ++ ['\n']

def listingOptions (d : Device) (switches : List Switch) : Listing.Options where
  denyIllegal := switches.contains .denyIllegal
  showEof := switches.contains .showEof
  coloured := d.coloured

def listing (d : Device) (switches : List Switch) (source : Text) : Transcript × Ending :=
  let r := Listing.report (listingOptions d switches) d.sink source
  (.ofReport source r,
    match r.result with
    | .ok _ => .finished
    | .error fault => .failed fault)

def code (d : Device) (switches : List Switch) (source : Text) : Transcript × Ending :=
  let (transcript, ending) := listing d switches source
  (.logged [.inlineCode source.byteLength] ++ transcript, ending)

/-- List the content of a file, given what reading it gave. -/
def file (d : Device) (switches : List Switch) (path : Text) (content : Except Cause Text) :
    Transcript × Ending :=
  let begun := Transcript.logged [.readingFile path]
  match content with
  | .ok source =>
    let (transcript, ending) := listing d switches source
    (begun ++ transcript, ending)
  | .error cause => (begun, .failed (.unreadable path cause))

/-- The history at the start of a session, given how making its folder and reading its
file went. -/
def openedHistory (e : Environment) (folder : Except Cause Unit)
    (content : Except Cause (List UInt8)) : History × Transcript :=
  let made :=
    match folder with
    | .ok _ => []
    | .error cause => [Event.historyFolderMissing e.historyFolder.shown cause]
  let loading :=
    match content with
    | .ok bytes => History.load bytes
    | .error _ => ⟨.empty, [], false⟩
  let missing := if loading.complete then [] else [Event.noHistory e.historyFile.shown]
  (loading.history, .logged (made ++ loading.warnings ++ missing))

def savedHistory (e : Environment) : Except Cause Unit → Transcript
  | .ok _ => .empty
  | .error cause => .logged [.historyNotSaved e.historyFile.shown cause]

def openHistory (e : Environment) (files : Files) : History × Transcript × Files :=
  let made := files.makeFolders e.historyFolder.lookup
  let files := made.toOption.getD files
  let (h, transcript) :=
    openedHistory e (made.map fun _ => ()) (files.read e.historyFile.lookup)
  (h, transcript, files)

/-- Write the file of the history if some entry is not in it yet. -/
def saveHistory (e : Environment) (h : History) (files : Files) : Transcript × Files :=
  if h.needsSaving then
    let written := files.write e.historyFile.lookup h.fileText.utf8
    (savedHistory e (written.map fun _ => ()), written.toOption.getD files)
  else (.empty, files)

def turns (h : History) : Input → List (Turn × History)
  | .piped bytes => (Turn.ofBytes bytes).map fun turn => (turn, h)
  | .typed keys => Turn.ofKeys h keys

/-- What a reader without an editor leaves behind before each line: a note on why it has
none, and on a plain terminal a prompt. -/
def lead (s : Surroundings) : Transcript :=
  match s.input with
  | .typed _ => .empty
  | .piped _ =>
    if s.environment.hasPlainTerminal then
      ⟨if s.device.accepts then Screen.prompt.utf8 else [], [.log .readingPlainTerminal]⟩
    else .logged [.readingPipe]

/-- Hold a session. A crash leaves the history unsaved. -/
def session (s : Surroundings) : Transcript × Ending × Files :=
  let (h, opening, files) := openHistory s.environment s.files
  let opening := Transcript.logged [.startingSession] ++ opening
  if !s.device.acceptsGreeting then (opening, .crashed, files)
  else
    let greeting := Transcript.printed (Screen.greeting s.environment.user)
    let talk := Conversation.hold s.device files.readText (lead s) h (turns h s.input)
    let begun := opening ++ greeting ++ talk.transcript
    match talk.ending with
    | .crashed => (begun, .crashed, files)
    | ending =>
      let (saving, files) := saveHistory s.environment talk.history files
      (begun ++ saving, ending, files)

def perform (s : Surroundings) (source : Option Source) (switches : List Switch) :
    Transcript × Ending × Files :=
  match source with
  | some (.code text) =>
    let (transcript, ending) := code s.device switches text
    (transcript, ending, s.files)
  | some (.file path) =>
    let (transcript, ending) := file s.device switches path (s.files.readText path)
    (transcript, ending, s.files)
  | none => session s

/-- A run that only prints a fixed text; it does not mind a device that takes nothing. -/
def print (s : Surroundings) (t : Text) : Outcome :=
  ⟨0, if s.device.accepts then t.utf8 else [], [], s.files⟩

def versionText : Text :=
  "monkey ".toList ++ Screen.version ++ ['\n']

end Run

def run (s : Surroundings) (arguments : List Text) : Outcome :=
  match Arguments.parse arguments with
  | .error fault => ⟨2, [], "error: ".toList ++ fault.message ++ ['\n'], s.files⟩
  | .ok .help => Run.print s Arguments.help
  | .ok .version => Run.print s Run.versionText
  | .ok (.run source switches) =>
    let (transcript, ending, files) := Run.perform s source switches
    let written := transcript ++ Run.farewell ending
    let filter := LogFilter.ofRun (switches.contains .verbose) s.environment.logFilterText
    ⟨Run.status ending, written.output, Run.diagnosticText filter written.notices, files⟩

end LexerConsole
