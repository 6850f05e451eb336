import LexerConsole.Invocation.Run

/-!
# The program

Reads arguments, settings, files and lines, and prints what the library answers.
Lines are read as they come, without an editor; those of a terminal are remembered.
-/

namespace LexerConsole.Program

/-- The settings that a run looks at. -/
def settingNames : List String :=
  ["HOME", "MONKEY_LOG", "TERM", "USER", "USERNAME", "XDG_DATA_HOME"]

def currentEnvironment : IO Environment := do
  let settings ← settingNames.filterMapM fun name => do
    return (← IO.getEnv name).map fun value => (name.toList, value.toList)
  return ⟨settings, .named ['.']⟩

/-- What an error of the system says. -/
def causeOf : IO.Error → Cause
  | .noFileOrDirectory .. => .noSuchFile
  | .alreadyExists .. => .fileExists
  | .resourceExhausted .. => .noSpace
  | .resourceVanished .. => .brokenPipe
  | .inappropriateType _ 21 _ => .isFolder
  | .inappropriateType .. => .notFolder
  | e => .described (toString e).toList

def attempt {α : Type} (act : IO α) : IO (Except Cause α) := do
  try return .ok (← act) catch e => return .error (causeOf e)

def readBytes (name : Text) : IO (Except Cause (List UInt8)) :=
  attempt do return (← IO.FS.readBinFile (String.ofList name)).toList

def readText (name : Text) : IO (Except Cause Text) := do
  return (← readBytes name).bind fun bytes =>
    match Text.ofUtf8? bytes with
    | some t => .ok t
    | none => .error .notUtf8

/-- Print a transcript on both channels. -/
def emit (f : LogFilter) (t : Transcript) : IO Unit := do
  let errors ← IO.getStderr
  errors.putStr (String.ofList (Run.diagnosticText f t.notices))
  errors.flush
  let output ← IO.getStdout
  output.write (ByteArray.mk t.output.toArray)
  output.flush

/-- The bytes up to the next line feed, that included; nothing at the end of the input. -/
partial def readLine (input : IO.FS.Stream) (line : List UInt8) : IO (List UInt8) := do
  let some b := (← input.read 1).toList.head? | return line.reverse
  if b = 0x0A then return (b :: line).reverse
  readLine input (b :: line)

/-- The file that a turn asks for. -/
def contentFor : Turn → IO (Except Cause Text)
  | .line text =>
    match Action.ofLine text with
    | .load path => readText path
    | _ => return .error .noSuchFile
  | _ => return .error .noSuchFile

partial def converse (d : Device) (f : LogFilter) (lead : Transcript) (remembers : Bool)
    (h : History) : IO (Ending × History) := do
  emit f lead
  let turn := (Turn.ofBytes (← readLine (← IO.getStdin) [])).headD .ended
  let content ← contentFor turn
  let (transcript, ending) := Conversation.answer d (fun _ => content) turn
  emit f transcript
  let h :=
    match turn with
    | .line text => if remembers then h.add text else h
    | _ => h
  match ending with
  | some ending => return (ending, h)
  | none => converse d f lead remembers h

def session (e : Environment) (d : Device) (f : LogFilter) : IO Ending := do
  emit f (.logged [.startingSession])
  let folder ← attempt (IO.FS.createDirAll (String.ofList e.historyFolder.lookup))
  let (h, opening) := Run.openedHistory e folder (← readBytes e.historyFile.lookup)
  emit f opening
  emit f (.printed (Screen.greeting e.user))
  let interactive ← (← IO.getStdin).isTty
  let lead :=
    if interactive then Transcript.printed Screen.prompt else Run.lead ⟨e, .bare, .piped [], d⟩
  let (ending, h) ← converse d f lead interactive h
  if h.needsSaving then
    let written ← attempt (IO.FS.writeBinFile (String.ofList e.historyFile.lookup)
      (ByteArray.mk h.fileText.utf8.toArray))
    emit f (Run.savedHistory e written)
  return ending

def perform (e : Environment) (d : Device) (f : LogFilter) (switches : List Switch) :
    Option Source → IO Ending
  | none => session e d f
  | some (.code text) => do
    let (transcript, ending) := Run.code d switches text
    emit f transcript
    return ending
  | some (.file path) => do
    let (transcript, ending) := Run.file d switches path (← readText path)
    emit f transcript
    return ending

/-- Run on a request; an output that fails ends the run with a fault. -/
def serve (source : Option Source) (switches : List Switch) : IO Nat := do
  let e ← currentEnvironment
  let d := if ← (← IO.getStdout).isTty then Device.terminal else Device.pipe
  let f := LogFilter.ofRun (switches.contains .verbose) e.logFilterText
  let ending ← match ← attempt (perform e d f switches source) with
    | .ok ending => pure ending
    | .error cause => pure (.failed (.unwritable cause))
  emit f { Run.farewell ending with output := [] }
  return Run.status ending

end LexerConsole.Program

open LexerConsole in
def main (arguments : List String) : IO UInt32 := do
  match Arguments.parse (arguments.map String.toList) with
  | .error fault =>
    (← IO.getStderr).putStrLn ("error: " ++ String.ofList fault.message)
    return 2
  | .ok .help =>
    (← IO.getStdout).putStr (String.ofList Arguments.help)
    return 0
  | .ok .version =>
    (← IO.getStdout).putStr (String.ofList Run.versionText)
    return 0
  | .ok (.run source switches) => return (← Program.serve source switches).toUInt32
