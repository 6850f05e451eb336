import LexerConsole.Listing.Sink
import LexerConsole.Scan.Tokens
import LexerConsole.Style.Paint

/-!
# Token listings

A listing has one line per token. Tokens are taken one at a time, and for each of
them the questions come in a fixed order: is it a closing token that is not to be
shown, is it an illegal token that is not to be let pass, does its line fit into the
sink, and was it the closing token. The report of a listing says what was written,
which tokens were looked at, and how many lines there are or why it stopped.
-/

namespace LexerConsole.Listing

structure Options where
  denyIllegal : Bool := false
  showEof : Bool := false
  coloured : Bool := false
  deriving DecidableEq, Repr

/-- The pieces in which a token's line is written, the line break included. -/
def linePieces (o : Options) (t : Token) : List Text :=
  (if o.coloured then [t.coloured] else t.plainPieces) ++ [['\n']]

def line (o : Options) (t : Token) : Text :=
  (linePieces o t).flatten

structure Report where
  bytes : List UInt8
  /-- The tokens looked at, in order. -/
  drawn : List Token
  result : Except Fault Nat

def ofTokens (o : Options) (sink : Sink) : List Token → Report
  | [] => ⟨[], [], .ok 0⟩
  | t :: rest =>
    if t.isEof && !o.showEof then ⟨[], [t], .ok 0⟩
    else if t.isIllegal && o.denyIllegal then
      ⟨[], [t], .error (.illegalToken t.text t.span.start)⟩
    else
      match sink.putAll (linePieces o t) with
      | (taken, .error cause) => ⟨taken, [t], .error (.unwritable cause)⟩
      | (taken, .ok sink) =>
        if t.isEof then ⟨taken, [t], .ok 1⟩
        else
          let report := ofTokens o sink rest
          ⟨taken ++ report.bytes, t :: report.drawn, report.result.map (· + 1)⟩

def report (o : Options) (sink : Sink) (source : Text) : Report :=
  ofTokens o sink (tokenize source)

end LexerConsole.Listing
