import LexerConsole.Output.Transcript
import LexerConsole.Session.Screen

/-!
# Replies to lines

What a session does with one line. A blank line asks for nothing, a command for what
it says, and every other line for the listing of its tokens. The reply depends on
the line, on the device and on the files, and on nothing that came before.
-/

namespace LexerConsole

/-- What a line asks for. -/
inductive Action where
  | nothing
  | leave
  | clear
  | present (screen : Text)
  | loadNothing
  | load (path : Text)
  | list (source : Text)
  deriving DecidableEq, Repr

namespace Action

def ofCommand (argument : Option Text) : Command → Action
  | .help => .present Screen.help
  | .exit => .leave
  | .clear => .clear
  | .version => .present Screen.versionLine
  | .load =>
    match argument with
    | some path => .load path
    | none => .loadNothing

def ofLine (line : Text) : Action :=
  if line.isBlank then .nothing
  else
    match Command.parse? line with
    | some (c, argument) => ofCommand argument c
    | none => .list line

end Action

/-- What follows a reply. -/
inductive Flow where
  | proceed
  | leave
  | crash
  deriving DecidableEq, Repr

structure Reply where
  transcript : Transcript
  flow : Flow
  deriving DecidableEq, Repr

namespace Reply

def silent (flow : Flow) : Reply :=
  ⟨.empty, flow⟩

def complain (message : Text) : Reply :=
  ⟨.noticed [.complaint message], .proceed⟩

/-- Print a fixed text, or crash on a device that does not take it. -/
def screen (d : Device) (t : Text) : Reply :=
  if d.accepts then ⟨.printed t, .proceed⟩ else silent .crash

/-- List a source; a fault is complained about and the session goes on. -/
def listing (d : Device) (source : Text) : Reply :=
  let r := Listing.report { coloured := d.coloured } d.sink source
  let complaints : List Notice :=
    match r.result with
    | .ok _ => []
    | .error fault => [.complaint fault.message]
  ⟨.ofReport source r ++ .noticed complaints, .proceed⟩

/-- Reply to a load command, given what reading the file gave. -/
def loading (d : Device) (path : Text) : Except Cause Text → Reply
  | .ok source => listing d source
  | .error cause => complain (Fault.unreadable path cause).message

/-- Carry out an action; `read` gives the text of a file. -/
def ofAction (d : Device) (read : Text → Except Cause Text) : Action → Reply
  | .nothing => silent .proceed
  | .leave => silent .leave
  | .clear => if d.accepts then ⟨.printed Screen.clear, .proceed⟩ else silent .proceed
  | .present t => screen d t
  | .loadNothing => complain Screen.pathRequired
  | .load path => loading d path (read path)
  | .list source => listing d source

def ofLine (d : Device) (read : Text → Except Cause Text) (line : Text) : Reply :=
  ofAction d read (.ofLine line)

end Reply
end LexerConsole
