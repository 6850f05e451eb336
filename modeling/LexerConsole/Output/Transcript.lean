import LexerConsole.Output.Device
import LexerConsole.Log.Filter

/-!
# Transcripts

What the program leaves behind: bytes on its output, and notices on its other
channel. A notice is a log event, which a filter may hold back, or a complaint,
which is always shown.
-/

namespace LexerConsole

inductive Notice where
  | log (e : Event)
  | complaint (message : Text)
  deriving DecidableEq, Repr

namespace Notice

def errorLabel : Text :=
  Effect.bold.apply (Effect.red.apply "Error".toList)

/-- The line that a notice makes under a filter, if any. -/
def line? (f : LogFilter) : Notice → Option Text
  | log e => if f.allows e then some e.line else none
  | complaint message => some (errorLabel ++ ": ".toList ++ message)

end Notice

structure Transcript where
  output : List UInt8
  notices : List Notice
  deriving DecidableEq, Repr

namespace Transcript

def empty : Transcript :=
  ⟨[], []⟩

def printed (t : Text) : Transcript :=
  ⟨t.utf8, []⟩

def noticed (notices : List Notice) : Transcript :=
  ⟨[], notices⟩

def logged (events : List Event) : Transcript :=
  noticed (events.map .log)

def append (a b : Transcript) : Transcript :=
  ⟨a.output ++ b.output, a.notices ++ b.notices⟩

instance : Append Transcript := ⟨append⟩

/-- What a listing leaves behind: its lines, an event per token looked at, and an
event at the end when it succeeded. -/
def ofReport (source : Text) (r : Listing.Report) : Transcript :=
  ⟨r.bytes,
    (r.drawn.map Event.scanned ++
      match r.result with
      | .ok tokens => [.listed tokens source.byteLength]
      | .error _ => []).map .log⟩

theorem append_assoc (a b c : Transcript) : a ++ b ++ c = a ++ (b ++ c) := by
  show append (append a b) c = append a (append b c)
  simp [append]

end Transcript
end LexerConsole
