import LexerConsole.Session.Reply
import LexerConsole.Session.Turn

/-!
# Conversations

A session answers its turns one after the other, up to the first that ends it: a
line that asks to leave, the end of the input, an input that cannot be read, or a
text that cannot be printed. Later turns are not looked at.
-/

namespace LexerConsole

inductive Ending where
  | finished
  | failed (fault : Fault)
  | crashed
  deriving DecidableEq, Repr

structure Conversation where
  transcript : Transcript
  ending : Ending
  /-- The history after the last turn that was answered. -/
  history : History
  deriving DecidableEq, Repr

namespace Conversation

/-- What a turn gets, and how the conversation ends with it if it does. -/
def answer (d : Device) (read : Text → Except Cause Text) : Turn → Transcript × Option Ending
  | .line text =>
    let reply := Reply.ofLine d read text
    match reply.flow with
    | .proceed => (reply.transcript, none)
    | .leave => (reply.transcript, some .finished)
    | .crash => (reply.transcript, some .crashed)
  | .dropped =>
    if d.accepts then (.printed Screen.droppedMark, none) else (.empty, some .crashed)
  | .ended =>
    if d.accepts then (.printed Screen.endMark, some .finished) else (.empty, some .crashed)
  | .unreadable cause => (.empty, some (.failed (.session (.failed cause))))

/-- Answer turns in order. `lead` is left behind before each of them; `h` is the history
before the first. Turns that run out leave the conversation as it is. -/
def hold (d : Device) (read : Text → Except Cause Text) (lead : Transcript) (h : History) :
    List (Turn × History) → Conversation
  | [] => ⟨.empty, .finished, h⟩
  | (turn, after) :: rest =>
    let (transcript, ending) := answer d read turn
    let begun := lead ++ transcript
    match ending with
    | some ending => ⟨begun, ending, after⟩
    | none =>
      let more := hold d read lead after rest
      { more with transcript := begun ++ more.transcript }

end Conversation
end LexerConsole
