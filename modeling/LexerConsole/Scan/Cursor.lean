import LexerConsole.Scan.Lexeme
import LexerConsole.Text.Lenient

/-!
# The cursor

A cursor walks over the bytes of a source. It keeps three registers: the offset of
the byte under inspection, the offset of the next byte to read, and the byte under
inspection itself. All of its moves are reads of one byte. A token is cut out of the
source between two positions of the cursor, a word as a piece of the text and
anything else as a piece of the bytes; where no such piece exists there is no token.
-/

namespace LexerConsole

open Alphabet

/-- A text with its UTF-8 form. -/
structure EncodedText where
  text : Text
  bytes : List UInt8
  bytes_eq : bytes = text.utf8
  deriving DecidableEq, Repr

def EncodedText.ofText (text : Text) : EncodedText :=
  ⟨text, text.utf8, rfl⟩

structure Cursor where
  position : Nat
  readPosition : Nat
  current : Option UInt8
  deriving DecidableEq, Repr

namespace Cursor

variable (source : EncodedText)

/-- Move to the next byte; there is none at the end of the source. -/
def read (c : Cursor) : Cursor :=
  ⟨c.readPosition, c.readPosition + 1, source.bytes[c.readPosition]?⟩

/-- A cursor at the first byte. -/
def start : Cursor :=
  read source ⟨0, 0, none⟩

/-- The byte that the next read will find. -/
def peek (c : Cursor) : Option UInt8 :=
  source.bytes[c.readPosition]?

/-- The number of bytes that reads can still find, the one under inspection included. -/
def unread (c : Cursor) : Nat :=
  source.bytes.length - c.readPosition + c.current.toList.length

theorem unread_read_lt {c : Cursor} {b : UInt8} (h : c.current = some b) :
    (c.read source).unread source < c.unread source := by
  simp only [unread, read, h, Option.toList_some, List.length_singleton]
  by_cases hr : c.readPosition < source.bytes.length
  · rw [List.getElem?_eq_getElem hr, Option.toList_some, List.length_singleton]
    omega
  · rw [List.getElem?_eq_none (Nat.le_of_not_lt hr), Option.toList_none, List.length_nil]
    omega

/-- Read on as long as the byte under inspection satisfies `p`. -/
def readWhile (p : UInt8 → Bool) (c : Cursor) : Cursor :=
  if _h : c.current.any p then readWhile p (c.read source) else c
termination_by c.unread source
decreasing_by
  obtain ⟨b, hb, _⟩ := (Option.any_eq_true _ _).1 _h
  exact unread_read_lt source hb

/-- The symbol that begins with this byte, and the cursor at its last byte. -/
def symbol? (b : UInt8) (c : Cursor) : Option (Symbol × Cursor) :=
  (Symbol.ofByte? b).map fun s =>
    match s.withEquals? with
    | some longer => if c.peek source = some 0x3D then (longer, c.read source) else (s, c)
    | none => (s, c)

/-- The token of the bytes between an offset and the cursor. -/
def tokenFrom? (kind : Kind) (start : Nat) (c : Cursor) : Option (Token × Cursor) := do
  let bytes ← Span.slice? ⟨start, c.position⟩ source.bytes
  return (⟨kind, Text.ofBytes bytes, ⟨start, c.position⟩⟩, c)

/-- The word under the cursor, cut out of the text. -/
def word? (c : Cursor) : Option (Token × Cursor) := do
  let after := c.readWhile source isWordByte
  let text ← source.text.slice? c.position after.position
  return (⟨.ofWord text, text, ⟨c.position, after.position⟩⟩, after)

def number? (c : Cursor) : Option (Token × Cursor) :=
  tokenFrom? source .int c.position (c.readWhile source isDigit)

/-- The lexeme that begins with the byte under inspection. -/
def lexeme? (b : UInt8) (c : Cursor) : Option (Token × Cursor) :=
  match c.symbol? source b with
  | some (s, last) => tokenFrom? source (.symbol s) c.position (last.read source)
  | none =>
    if isLetter b then c.word? source
    else if isDigit b then c.number? source
    else tokenFrom? source .illegal c.position (c.read source)

/-- The next token and the cursor behind it. -/
def next? (c : Cursor) : Option (Token × Cursor) :=
  let c := c.readWhile source isBlank
  match c.current with
  | none => some (.eof source.bytes.length, c)
  | some b => c.lexeme? source b

/-- The cursor at an offset, its registers as reads leave them. -/
def atOffset (n : Nat) : Cursor :=
  ⟨n, n + 1, source.bytes[n]?⟩

/-- The cursors that walks over the source can reach. -/
structure Follows (c : Cursor) : Prop where
  inside : c.position ≤ source.bytes.length
  settled : c = atOffset source c.position

theorem read_atOffset (n : Nat) : (atOffset source n).read source = atOffset source (n + 1) :=
  rfl

theorem current_atOffset (n : Nat) :
    (atOffset source n).current = (source.bytes.drop n).head? := by
  simp [atOffset]

theorem peek_atOffset (n : Nat) :
    (atOffset source n).peek source = (source.bytes.drop n).tail.head? := by
  simp [atOffset, peek]

/-- A loop stops behind the run of bytes that it asks for. -/
theorem readWhile_atOffset {p : UInt8 → Bool} {n : Nat} {run after : List UInt8}
    (h : source.bytes.drop n = run ++ after) (hr : ∀ b ∈ run, p b)
    (ha : ∀ b ∈ after.head?, p b = false) :
    (atOffset source n).readWhile source p = atOffset source (n + run.length) := by
  induction run generalizing n with
  | nil =>
    have stops : ¬ (atOffset source n).current.any p := by
      rw [current_atOffset, h, Option.any_eq_true]
      rintro ⟨b, hb, hp⟩
      rw [ha b hb] at hp
      cases hp
    rw [readWhile, dif_neg stops]
    rfl
  | cons b run ih =>
    have goes : (atOffset source n).current.any p := by
      rw [current_atOffset, h]
      exact hr b List.mem_cons_self
    have behind : source.bytes.drop (n + 1) = run ++ after := by
      rw [← List.drop_drop, h]
      rfl
    rw [readWhile, dif_pos goes, read_atOffset,
      ih behind (fun c hc => hr c (List.mem_cons_of_mem b hc)), List.length_cons]
    congr 1
    omega

end Cursor
end LexerConsole
