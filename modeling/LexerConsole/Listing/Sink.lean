import LexerConsole.Fault

/-!
# Sinks

A sink is where a listing goes. It takes all bytes, or a fixed number of them and
then fails; a piece that does not fit is taken in part. Writing stops at the first
piece that fails.
-/

namespace LexerConsole

structure Sink where
  /-- The number of bytes that still fit; none when there is no limit. -/
  room : Option Nat
  /-- What a failing write is put down to. -/
  cause : Cause
  deriving DecidableEq, Repr

namespace Sink

def unlimited : Sink :=
  ⟨none, .bufferFull⟩

def buffer (n : Nat) : Sink :=
  ⟨some n, .bufferFull⟩

/-- Write bytes: those taken, and the sink behind them unless it failed. -/
def put (s : Sink) (bytes : List UInt8) : List UInt8 × Except Cause Sink :=
  match s.room with
  | none => (bytes, .ok s)
  | some n =>
    if bytes.length ≤ n then (bytes, .ok { s with room := some (n - bytes.length) })
    else (bytes.take n, .error s.cause)

def putAll (s : Sink) : List Text → List UInt8 × Except Cause Sink
  | [] => ([], .ok s)
  | piece :: pieces =>
    match s.put piece.utf8 with
    | (taken, .error cause) => (taken, .error cause)
    | (taken, .ok s) =>
      let (more, result) := putAll s pieces
      (taken ++ more, result)

end Sink
end LexerConsole
