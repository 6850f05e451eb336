import LexerConsole.Log.Event
import LexerConsole.Text.Blank
import LexerConsole.Text.Lines

/-!
# Histories

A history holds the lines accepted so far, oldest first, and at most a thousand of
them. A line is not kept when it is empty, begins with white space or repeats the
newest entry.

The file of a history begins with a mark, and then has one entry per line; line
feeds and backslashes in an entry are written behind a backslash. A file without
the mark is read line by line as it stands. Reading stops at the first line that is
not a text; what was read before it stays, and counts as new.
-/

namespace LexerConsole

structure History where
  entries : List Text
  /-- Whether some entry is not in the file yet. -/
  changed : Bool
  deriving DecidableEq, Repr

namespace History

def empty : History :=
  ⟨[], false⟩

def limit : Nat :=
  1000

def ignores (h : History) (line : Text) : Bool :=
  line.isEmpty || (line.head?.any Text.isSpace) || h.entries.getLast? = some line

/-- Add an entry; the oldest ones give way when there are too many. -/
def add (line : Text) (h : History) : History :=
  if h.ignores line then h
  else
    let entries := h.entries ++ [line]
    ⟨entries.drop (entries.length - limit), true⟩

/-- The first line of a file with escapes. -/
def mark : Text :=
  "#V2".toList

def escaped (entry : Text) : Text :=
  entry.flatMap fun c =>
    if c = '\\' then ['\\', '\\'] else if c = '\n' then ['\\', 'n'] else [c]

/-- Undo the escapes; nothing but a line feed and a backslash has one. -/
def unescaped? : Text → Option Text
  | [] => some []
  | '\\' :: 'n' :: rest => (unescaped? rest).map ('\n' :: ·)
  | '\\' :: '\\' :: rest => (unescaped? rest).map ('\\' :: ·)
  | c :: rest => if c = '\\' then none else (unescaped? rest).map (c :: ·)

def fileText (h : History) : Text :=
  mark ++ '\n' :: h.entries.flatMap fun entry => escaped entry ++ ['\n']

/-- A history without entries is never written. -/
def needsSaving (h : History) : Bool :=
  h.changed && !h.entries.isEmpty

structure Loading where
  history : History
  /-- Warnings on lines that could not be unescaped. -/
  warnings : List Event
  /-- Whether every line was a text. -/
  complete : Bool

def loadLines (hasEscapes : Bool) (h : History) : List (List UInt8) → Loading
  | [] => ⟨{ h with changed := false }, [], true⟩
  | bytes :: rest =>
    match Text.ofUtf8? bytes with
    | none => ⟨h, [], false⟩
    | some [] => loadLines hasEscapes h rest
    | some line =>
      if hasEscapes then
        match unescaped? line with
        | some entry => loadLines hasEscapes (h.add entry) rest
        | none =>
          let loading := loadLines hasEscapes (h.add line) rest
          { loading with warnings := .badHistoryLine line :: loading.warnings }
      else loadLines hasEscapes (h.add line) rest

def load (content : List UInt8) : Loading :=
  match linesOf content with
  | [] => ⟨empty, [], true⟩
  | first :: rest =>
    if first = mark.utf8 then loadLines true empty rest
    else
      match Text.ofUtf8? first with
      | none => ⟨empty, [], false⟩
      | some line => loadLines false (empty.add line) rest

/-- The entry `n` steps back, the newest being one step back. -/
def entryBack? (h : History) (n : Nat) : Option Text :=
  if n = 0 then none
  else if n ≤ h.entries.length then h.entries[h.entries.length - n]? else none

theorem unescaped?_escaped (entry : Text) : unescaped? (escaped entry) = some entry := by
  induction entry with
  | nil => rfl
  | cons c entry ih =>
    have step : escaped (c :: entry) = escaped [c] ++ escaped entry := by simp [escaped]
    rw [step]
    by_cases slash : c = '\\'
    · subst slash
      simp [escaped, unescaped?] at ih ⊢
      exact ih
    · by_cases feed : c = '\n'
      · subst feed
        simp [escaped, unescaped?] at ih ⊢
        exact ih
      · have plain : escaped [c] = [c] := by simp [escaped, slash, feed]
        rw [plain, List.singleton_append, unescaped?.eq_def]
        simp [slash, ih]

end History
end LexerConsole
