import LexerConsole.Text.Controls

/-!
# Command lines

A command line names a file, or gives code in an option, or does neither, and may
set three switches. Arguments are read from left to right. A file name, and code that
stands apart from its option, are held back until the next argument that is
understood, or the end; only then is it asked whether they are there at all. Help and
version requests take effect where they stand, so an error counts only if it stands
before them. That a file and code exclude each other is looked at last.
-/

namespace LexerConsole

inductive Switch where
  | denyIllegal
  | showEof
  | verbose
  deriving DecidableEq, Repr

namespace Switch

def all : List Switch :=
  [denyIllegal, showEof, verbose]

/-- The name without its two dashes. -/
def name : Switch → Text
  | denyIllegal => "deny-illegal".toList
  | showEof => "show-eof".toList
  | verbose => "verbose".toList

end Switch

inductive UsageFault where
  | unexpected (argument : Text)
  | unexpectedValue (value option : Text)
  | valueRequired (argument : Text)
  | repeated (argument : Text)
  | conflict (first second : Text)
  deriving DecidableEq, Repr

/-- The first line of the complaint. What was typed is shown without its controls. -/
def UsageFault.message : UsageFault → Text
  | unexpected argument => "unexpected argument '".toList ++ argument.withoutControls ++ "' found".toList
  | unexpectedValue value option =>
    "unexpected value '".toList ++ value.withoutControls ++ "' for '".toList ++ option ++
      "' found; no more were expected".toList
  | valueRequired argument =>
    "a value is required for '".toList ++ argument ++ "' but none was supplied".toList
  | repeated argument =>
    "the argument '".toList ++ argument ++ "' cannot be used multiple times".toList
  | conflict first second =>
    "the argument '".toList ++ first ++ "' cannot be used with '".toList ++ second ++ "'".toList

inductive Source where
  | code (text : Text)
  | file (path : Text)
  deriving DecidableEq, Repr

inductive Request where
  | help
  | version
  | run (source : Option Source) (switches : List Switch)
  deriving DecidableEq, Repr

namespace Arguments

def codeName : Text :=
  "--eval <CODE>".toList

def fileName : Text :=
  "[FILE]".toList

/-- A value that was begun and is held back: code that may still be missing, or a
file name. -/
inductive Pending where
  | code (text : Option Text)
  | file (path : Text)
  deriving DecidableEq, Repr

structure Draft where
  sources : List Source
  pending : Option Pending
  switches : List Switch
  /-- Whether a lone pair of dashes has ended the options. -/
  plain : Bool
  deriving DecidableEq, Repr

def Draft.start : Draft :=
  ⟨[], none, [], false⟩

/-- An argument either goes into the draft or stops the reading. -/
inductive Stop where
  | fault (f : UsageFault)
  | request (r : Request)
  deriving DecidableEq, Repr

def isCode : Source → Bool
  | .code _ => true
  | .file _ => false

/-- Take up code; it may be given only once. -/
def addCode (d : Draft) (text : Text) : Except UsageFault Draft :=
  if d.sources.any isCode then throw (.repeated codeName)
  else return { d with sources := d.sources ++ [.code text], pending := none }

/-- Take up a file name; an empty one counts as missing. -/
def addFile (d : Draft) (path : Text) : Except UsageFault Draft :=
  if path.isEmpty then throw (.valueRequired fileName)
  else return { d with sources := d.sources ++ [.file path], pending := none }

def resolve (d : Draft) : Except UsageFault Draft :=
  match d.pending with
  | none => return d
  | some (.code none) => throw (.valueRequired codeName)
  | some (.code (some text)) => addCode d text
  | some (.file path) => addFile d path

def resolved (d : Draft) : Except Stop Draft :=
  (resolve d).mapError .fault

/-- Begin a code option. Attached code is taken up at once, other code is held back. -/
def beginCode (d : Draft) (attached : Option Text) : Except Stop Draft := do
  let d ← resolved d
  match attached with
  | some text => (addCode d text).mapError .fault
  | none => return { d with pending := some (.code none) }

def hasFile (d : Draft) : Bool :=
  d.sources.any (fun s => !isCode s) ||
    match d.pending with
    | some (.file _) => true
    | _ => false

/-- An argument in the place of the file name. -/
def positional (d : Draft) (argument : Text) : Except Stop Draft := do
  if hasFile d then throw (.fault (.unexpected argument))
  return { ← resolved d with pending := some (.file argument) }

/-- A long option, given as its name and the value attached to it. -/
def longOption (d : Draft) (name : Text) (attached : Option Text) : Except Stop Draft := do
  let shown := "--".toList ++ name
  if name = "eval".toList then beginCode d attached
  else if name = "help".toList || name = "version".toList then
    match attached with
    | some value => throw (.fault (.unexpectedValue value shown))
    | none =>
      let _ ← resolved d
      throw (.request (if name = "help".toList then .help else .version))
  else
    match Switch.all.find? fun s => s.name = name with
    | none => throw (.fault (.unexpected shown))
    | some s =>
      match attached with
      | some value => throw (.fault (.unexpectedValue value shown))
      | none =>
        let d ← resolved d
        if d.switches.contains s then throw (.fault (.repeated shown))
        return { d with switches := d.switches ++ [s] }

/-- Short options in one argument; the code option takes all that follows it. -/
def shortOptions (d : Draft) (letters : Text) : Except Stop Draft := do
  match letters with
  | [] => return d
  | 'h' :: _ =>
    let _ ← resolved d
    throw (.request .help)
  | 'V' :: _ =>
    let _ ← resolved d
    throw (.request .version)
  | 'e' :: [] => beginCode d none
  | 'e' :: '=' :: code => beginCode d (some code)
  | 'e' :: code => beginCode d (some code)
  | c :: _ => throw (.fault (.unexpected ['-', c]))

/-- A word that does not look like an option, or a lone dash. -/
def isValue (argument : Text) : Bool :=
  argument.head? ≠ some '-' || argument = ['-']

def step (d : Draft) (argument : Text) : Except Stop Draft :=
  if d.plain then positional d argument
  else if isValue argument then
    match d.pending with
    | some (.code none) => return { d with pending := some (.code (some argument)) }
    | _ => positional d argument
  else
    match argument with
    | ['-', '-'] => return { d with plain := true }
    | '-' :: '-' :: rest =>
      let name := rest.takeWhile (· ≠ '=')
      match rest.dropWhile (· ≠ '=') with
      | [] => longOption d name none
      | _ :: value => longOption d name (some value)
    | _ :: letters => shortOptions d letters
    | [] => positional d argument

/-- What a complete draft asks for. -/
def finish (d : Draft) : Except UsageFault Request := do
  let d ← resolve d
  match d.sources with
  | .code _ :: .file _ :: _ => throw (.conflict codeName fileName)
  | .file _ :: .code _ :: _ => throw (.conflict fileName codeName)
  | sources => return .run sources.head? d.switches

/-- Read a command line, without the name of the program. -/
def parse (arguments : List Text) : Except UsageFault Request :=
  match arguments.foldlM step Draft.start with
  | .ok d => finish d
  | .error (.fault f) => throw f
  | .error (.request r) => return r

def help : Text :=
  ("Tokenize Monkey source code, interactively or from a file\n\n" ++
    "Usage: monkey [OPTIONS] [FILE]\n\n" ++
    "Arguments:\n" ++
    "  [FILE]  Monkey source file to tokenize\n\n" ++
    "Options:\n" ++
    "  -e, --eval <CODE>   Tokenize code from the command line\n" ++
    "      --deny-illegal  Fail on the first ILLEGAL token\n" ++
    "      --show-eof      Also print the closing EOF token\n" ++
    "      --verbose       Enable verbose logging\n" ++
    "  -h, --help          Print help\n" ++
    "  -V, --version       Print version\n").toList

end Arguments
end LexerConsole
