import LexerConsole.Pattern.CharacterClass
import LexerConsole.Text.Alphabetic
import LexerConsole.Text.Numeric

/-!
# Reading patterns

A pattern is a choice between branches; a branch is a sequence of items; an item is an
atom, a class, a group in parentheses, a repetition of an item, or a word that switches the
mode up to the end of the group. This module says which texts are patterns that can be
carried out: they follow this form, ask for nothing that the mode rules out, and nest at
most 250 levels deep.
-/

namespace LexerConsole.Pattern

structure Item where
  /-- The item can be repeated; a word that switches the mode cannot. -/
  isRepeatable : Bool
  depth : Nat
  deriving DecidableEq, Repr

/-- A group that is being read, the whole pattern being the outermost. -/
structure OpenGroup where
  mode : Mode
  /-- The items of the last branch, the latest first. -/
  items : List Item
  branches : List Nat
  deriving DecidableEq, Repr

namespace OpenGroup

def new (m : Mode) : OpenGroup :=
  ⟨m, [], []⟩

def branchDepth (g : OpenGroup) : Nat :=
  depthOf (g.items.map Item.depth)

def depth (g : OpenGroup) : Nat :=
  depthOf (g.branchDepth :: g.branches)

def add (g : OpenGroup) (item : Item) : OpenGroup :=
  ⟨g.mode, item :: g.items, g.branches⟩

def nextBranch (g : OpenGroup) : OpenGroup :=
  ⟨g.mode, [], g.branchDepth :: g.branches⟩

def repeated? (g : OpenGroup) : Option OpenGroup :=
  match g.items with
  | [] => none
  | item :: items =>
    if !item.isRepeatable then none
    else some ⟨g.mode, ⟨true, item.depth + 1⟩ :: items, g.branches⟩

def switched (g : OpenGroup) (word : Text) : OpenGroup :=
  ⟨g.mode.switched word, ⟨false, 0⟩ :: g.items, g.branches⟩

end OpenGroup

structure Reader where
  group : OpenGroup
  /-- The groups around it, the innermost first. -/
  outer : List OpenGroup
  /-- The names of groups so far, which are all different. -/
  names : List Text
  deriving DecidableEq, Repr

namespace Reader

def initial : Reader :=
  ⟨.new .initial, [], []⟩

def add (r : Reader) (item : Item) : Reader :=
  ⟨r.group.add item, r.outer, r.names⟩

def entered (r : Reader) (m : Mode) : Reader :=
  ⟨.new m, r.group :: r.outer, r.names⟩

/-- Leave the innermost group; the whole pattern cannot be left. -/
def left? (r : Reader) : Option Reader :=
  match r.outer with
  | [] => none
  | around :: outer => some ⟨around.add ⟨true, r.group.depth + 1⟩, outer, r.names⟩

def beginsName (c : Char) : Bool :=
  c = '_' || Text.isAlphabetic c

def continuesName (c : Char) : Bool :=
  beginsName c || Text.isNumeric c || c = '.' || c = '[' || c = ']'

/-- Read the name of a group, from behind its opening angle on. -/
def readName (r : Reader) (t : Text) : Option (Reader × Text) :=
  let name := t.takeWhile (· ≠ '>')
  match name, t.drop name.length with
  | c :: more, _ :: rest =>
    if beginsName c && more.all continuesName && !r.names.contains name then
      let r := r.entered r.group.mode
      some (⟨r.group, r.outer, name :: r.names⟩, rest)
    else none
  | _, _ => none

/-- Read a word that switches modes, for a group behind a colon or else for the rest of
the group around it. -/
def readSwitch (r : Reader) (t : Text) : Option (Reader × Text) :=
  let word := t.takeWhile fun c => c ≠ ':' && c ≠ ')'
  if !Mode.isWord word then none
  else
    match t.drop word.length with
    | ':' :: rest => some (r.entered (r.group.mode.switched word), rest)
    | _ :: rest =>
      if word.isEmpty then none else some (⟨r.group.switched word, r.outer, r.names⟩, rest)
    | [] => none

/-- Read the beginning of a group, from behind its parenthesis on. -/
def readGroup (r : Reader) (t : Text) : Option (Reader × Text) :=
  match r.group.mode.skip t with
  | '?' :: 'P' :: '<' :: rest => r.readName rest
  | '?' :: '<' :: rest => r.readName rest
  | '?' :: rest => r.readSwitch rest
  | rest => some (r.entered r.group.mode, rest)

/-- Read one character that stands by itself, or an escape. A dot asks for any character,
and so for bytes beyond ASCII in a narrow mode. -/
def readAtom (r : Reader) (c : Char) (rest : Text) : Option (Reader × Text) := do
  let m := r.group.mode
  let (atom, rest) ←
    if c = '\\' then readEscape m rest
    else if c = '.' then if m.isWide then some (.set, rest) else none
    else if c = '^' || c = '$' then some (.place, rest)
    else some (.char c, rest)
  match atom with
  | .char _ => if m.allowsChar then return (r.add ⟨true, 0⟩, rest) else none
  | _ => return (r.add ⟨true, 0⟩, rest)

/-- Read what begins with a character. A brace would begin a count of repetitions, which
the place where patterns are written has no way to end. -/
def step (r : Reader) (c : Char) (rest : Text) : Option (Reader × Text) :=
  if c = '(' then r.readGroup rest
  else if c = ')' then r.left?.map fun r => (r, rest)
  else if c = '|' then some (⟨r.group.nextBranch, r.outer, r.names⟩, rest)
  else if c = '[' then
    (readClass r.group.mode rest).map fun read => (r.add ⟨true, read.1⟩, read.2)
  else if c = '?' || c = '*' || c = '+' then
    let rest := if rest.head? = some '?' then rest.tail else rest
    r.group.repeated?.map fun g => (⟨g, r.outer, r.names⟩, rest)
  else if c = '\x7b' then none
  else r.readAtom c rest

/-- Read on with so many characters at most. -/
def readFrom : Nat → Reader → Text → Option Reader
  | 0, _, _ => none
  | fuel + 1, r, t =>
    match r.group.mode.skip t with
    | [] => some r
    | c :: rest => (r.step c rest).bind fun read => readFrom fuel read.1 read.2

end Reader

def maxDepth : Nat :=
  250

/-- Whether a text without closing braces is a pattern that can be carried out. -/
def isUsable (t : Text) : Bool :=
  match Reader.readFrom (t.length + 1) .initial t with
  | none => false
  | some r => r.outer.isEmpty && r.group.depth ≤ maxDepth

end LexerConsole.Pattern
