import LexerConsole.Text.Quoted

/-!
# Faults

What can go wrong around the scanner, which itself never fails. A fault names the
thing that failed; its cause is what the system, the line reader or the output
said. The wording is here and nowhere else.
-/

namespace LexerConsole

/-- What the system says. -/
inductive Cause where
  | noSuchFile
  | fileExists
  | notFolder
  | isFolder
  | noSpace
  | brokenPipe
  | nameTooLong
  | nulInName
  | notUtf8
  | bufferFull
  | described (text : Text)
  deriving DecidableEq, Repr

def Cause.message : Cause → Text
  | noSuchFile => "No such file or directory (os error 2)".toList
  | fileExists => "File exists (os error 17)".toList
  | notFolder => "Not a directory (os error 20)".toList
  | isFolder => "Is a directory (os error 21)".toList
  | noSpace => "No space left on device (os error 28)".toList
  | brokenPipe => "Broken pipe (os error 32)".toList
  | nameTooLong => "File name too long (os error 36)".toList
  | nulInName => "file name contained an unexpected NUL byte".toList
  | notUtf8 => "stream did not contain valid UTF-8".toList
  | bufferFull => "failed to write whole buffer".toList
  | described text => text

/-- Why no further line can be read. -/
inductive ReadingFault where
  | endOfInput
  | interrupted
  | failed (cause : Cause)
  deriving DecidableEq, Repr

def ReadingFault.message : ReadingFault → Text
  | endOfInput => "EOF".toList
  | interrupted => "Interrupted".toList
  | failed cause => cause.message

inductive Fault where
  | unreadable (path : Text) (cause : Cause)
  | unwritable (cause : Cause)
  | illegalToken (text : Text) (offset : Nat)
  | session (cause : ReadingFault)
  deriving DecidableEq, Repr

namespace Fault

def message : Fault → Text
  | unreadable path cause => "could not read '".toList ++ path ++ "': ".toList ++ cause.message
  | unwritable cause => "could not write output: ".toList ++ cause.message
  | illegalToken text offset =>
    "illegal token ".toList ++ text.quoted ++ " at byte ".toList ++ Text.decimal offset
  | session cause => "REPL error: ".toList ++ cause.message

/-- The message of the underlying cause; an illegal token is its own cause. -/
def source? : Fault → Option Text
  | unreadable _ cause => some cause.message
  | unwritable cause => some cause.message
  | illegalToken _ _ => none
  | session cause => some cause.message

end Fault
end LexerConsole
