/-!
# Lines of a byte stream

A line ends at a line feed, which does not belong to it; neither does a carriage
return right before that line feed. Bytes after the last line feed are a line too,
and all of them belong to it.
-/

namespace LexerConsole

def linesOf : List UInt8 → List (List UInt8)
  | [] => []
  | b :: rest =>
    if b = 0x0A then [] :: linesOf rest
    else if b = 0x0D && rest.head? = some 0x0A then linesOf rest
    else match linesOf rest with
      | [] => [[b]]
      | line :: lines => (b :: line) :: lines

end LexerConsole
