import LexerConsole.Log.Event
import LexerConsole.Log.FieldValue
import LexerConsole.Text.Boundary

/-!
# Log filters

A filter is a list of rules. A rule says up to which level some events are wanted; it
holds for the events whose target begins with its own and which have all fields that
it names. Of several rules that hold the one with the longest target decides, then
the one with most fields, then the last; an event for which no rule holds is not
wanted.

A filter is written as rules between commas. A rule is a level, which holds for every
target, or a target, then a scope in brackets, then an equals sign and a level; each
part may be missing, and without a level everything is asked for. A scope names a span
of work, or a field in braces, or both, and behind the field's name an equals sign and
the value it must have. The events of this program happen outside spans, so a rule that
names a span, or asks for the value that a field has in one, never holds. A filter that
cannot be read this way asks for warnings.

The signs that divide a rule are looked for between the white space at its ends, and their
places are counted in bytes from where this search begins. The parts are then cut by these
places from the rule as it is written; so white space in front pushes every part out of
place, and white space at the end belongs to a part that reaches there.
-/

namespace LexerConsole

structure LogRule where
  target : Text
  fields : List Text
  level : Level
  deriving DecidableEq, Repr

structure LogFilter where
  rules : List LogRule
  deriving DecidableEq, Repr

namespace LogFilter

def upTo (level : Level) : LogFilter :=
  ⟨[⟨[], [], level⟩]⟩

def holds (r : LogRule) (e : Event) : Bool :=
  r.target.isPrefixOf e.target &&
    r.fields.all fun name => name = "message".toList || e.fields.any fun field => field.1 = name

/-- Whether `b` decides where `a` holds too. -/
def yields (a b : LogRule) : Bool :=
  a.target.length < b.target.length ||
    (a.target.length = b.target.length && a.fields.length ≤ b.fields.length)

/-- The rule that decides on an event. -/
def ruleFor? (f : LogFilter) (e : Event) : Option LogRule :=
  (f.rules.filter fun r => holds r e).foldl
    (fun best r =>
      match best with
      | none => some r
      | some b => if yields b r then some r else some b)
    none

def allows (f : LogFilter) (e : Event) : Bool :=
  match f.ruleFor? e with
  | none => false
  | some r => e.level.rank ≤ r.level.rank

/-- The number that a text writes in decimal digits, possibly behind a plus sign. -/
def number? (word : Text) : Option Nat :=
  let digits := if word.head? = some '+' then word.tail else word
  if digits.isEmpty || !digits.all Char.isDigit then none
  else some (digits.foldl (fun n c => 10 * n + (c.toNat - '0'.toNat)) 0)

/-- The level by its name in any case or by its rank. -/
def level? (word : Text) : Option Level :=
  Level.all.find? fun l => word.map Char.toUpper = l.name || number? word = some l.rank

/-- A character with which a target can begin: a letter, a numeral or one of three signs. -/
def beginsTarget (c : Char) : Bool :=
  Text.isAlphabetic c || Text.isNumeric c || c = '_' || c = ':' || c = '-'

/-- A rule that can be read: the rule itself, or none when it never holds. -/
abbrev Reading := Option (Option LogRule)

/-- Read the level that a rule ends with, from a place on. -/
def readLevel (written target : Text) (fields : Option (List Text)) (place : Nat) : Reading := do
  let (_, word) ← written.cut? place
  let level ← if word.isEmpty then some .trace else level? word
  return fields.map fun fields => ⟨target, fields, level⟩

/-- Read what stands behind a scope: `rest` from a place on. -/
def readEnd (written target : Text) (fields : Option (List Text)) (place : Nat) :
    Text → Reading
  | [] => some (fields.map fun fields => ⟨target, fields, .trace⟩)
  | '=' :: _ => readLevel written target fields (place + 1)
  | _ => none

/-- The fields that an event outside all spans must have for the sake of one field of a
scope, where none means that no such event will do; the value must be one that can be
asked for. -/
def readField (field : Text) : Option (Option (List Text)) :=
  match field.splitOn '=' with
  | _ :: value :: _ => if FieldValue.isReadable value then some none else none
  | _ => some (some [field])

/-- Read a scope from behind its opening bracket: `rest` from a place on. -/
def readScope (written target : Text) (place : Nat) (rest : Text) : Reading :=
  let span : Text := rest.takeWhile fun c => c ≠ ']' && c ≠ '\x7b'
  let place := place + span.byteLength + 1
  match rest.drop span.length with
  | ']' :: rest => readEnd written target none place rest
  | '\x7b' :: rest =>
    let field : Text := rest.takeWhile fun c => c ≠ '\x7d'
    match rest.drop field.length with
    | '\x7d' :: ']' :: rest =>
      let stop := place + field.byteLength
      if field.isEmpty then none
      else do
        let fields ← (written.slice? place stop).bind readField
        readEnd written target (if span.isEmpty then fields else none) (stop + 2) rest
    | _ => none
  | _ => none

def readRule (written : Text) : Reading :=
  match written.trimSpace with
  | [] => none
  | '[' :: rest => readScope written [] 1 rest
  | c :: more =>
    if !beginsTarget c then none
    else
      let name : Text := (c :: more).takeWhile fun c => c ≠ '=' && c ≠ '['
      match (c :: more).drop name.length with
      | [] =>
        match level? written with
        | some level => some (some ⟨[], [], level⟩)
        | none => some (some ⟨written, [], .trace⟩)
      | sign :: rest => do
        let (target, _) ← written.cut? name.byteLength
        let place := name.byteLength + 1
        if sign = '=' then readLevel written target (some []) place
        else readScope written target place rest

/-- Read a filter; one without any rule asks for errors. -/
def parse? (written : Text) : Option LogFilter :=
  let pieces := (written.splitOn ',').filter fun piece => !piece.isEmpty
  if pieces.isEmpty then some (.upTo .error)
  else (pieces.mapM readRule).map fun rules => ⟨rules.filterMap id⟩

def verbose : LogFilter :=
  ⟨[⟨"monkey".toList, [], .debug⟩, ⟨"monkey_lexer".toList, [], .trace⟩]⟩

/-- The text by which a verbose run asks for its filter is read as these rules. -/
theorem parse?_verbose : parse? "monkey=debug,monkey_lexer=trace".toList = some verbose := by
  decide +kernel

/-- The filter of a run: a verbose run decides by itself, else the written filter
does if it can be read, and without either only warnings are wanted. -/
def ofRun (isVerbose : Bool) (written : Option Text) : LogFilter :=
  if isVerbose then verbose
  else (written.bind parse?).getD (.upTo .warn)

end LogFilter
end LexerConsole
