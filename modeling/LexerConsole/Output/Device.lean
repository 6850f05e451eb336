import LexerConsole.Listing.Report

/-!
# Output devices

Where the output goes. A terminal is the only device on which listings are coloured.
A full device takes nothing, and a pipe may lose its reader right after the greeting
of a session. A listing meets a failing device as a fault of its own; a fixed text
that cannot be printed is the end of the program.
-/

namespace LexerConsole

inductive Device where
  | pipe
  | terminal
  | full
  | abandoned
  deriving DecidableEq, Repr

namespace Device

def coloured : Device → Bool
  | terminal => true
  | pipe | full | abandoned => false

/-- Where a listing goes. -/
def sink : Device → Sink
  | pipe | terminal => .unlimited
  | full => ⟨some 0, .noSpace⟩
  | abandoned => ⟨some 0, .brokenPipe⟩

/-- Whether a fixed text can be printed. -/
def accepts : Device → Bool
  | pipe | terminal => true
  | full | abandoned => false

/-- Whether the greeting of a session can still be printed. -/
def acceptsGreeting : Device → Bool
  | pipe | terminal | abandoned => true
  | full => false

end Device
end LexerConsole
