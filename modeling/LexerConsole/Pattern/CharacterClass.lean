import LexerConsole.Pattern.Escape

/-!
# Character classes in a pattern

A class stands between brackets and lists characters, ranges of characters, named sets and
further classes. Two signs of the same kind between lists make an operation on sets. This
module reads classes only far enough to say whether they can be carried out, how deep they
nest, and what follows them.
-/

namespace LexerConsole.Pattern

/-- The depth of parts put together: a single one adds no level. -/
def depthOf : List Nat → Nat
  | [] => 0
  | [depth] => depth
  | depths => depths.foldl Nat.max 0 + 1

structure OpenClass where
  /-- The depths of the members since the last operation. -/
  members : List Nat
  /-- The depth of what stands before the last operation. -/
  operand : Option Nat
  /-- Only dashes have been read, which stand for themselves here. -/
  isFresh : Bool
  deriving DecidableEq, Repr

namespace OpenClass

def new : OpenClass :=
  ⟨[], none, true⟩

def add (k : OpenClass) (depth : Nat) : OpenClass :=
  ⟨depth :: k.members, k.operand, false⟩

def depth (k : OpenClass) : Nat :=
  match k.operand with
  | none => depthOf k.members
  | some left => Nat.max left (depthOf k.members) + 1

def afterOperation (k : OpenClass) : OpenClass :=
  ⟨[], some k.depth, false⟩

end OpenClass

def setNames : List Text :=
  ["alnum", "alpha", "ascii", "blank", "cntrl", "digit", "graph", "lower", "print", "punct",
    "space", "upper", "word", "xdigit"].map String.toList

/-- Read a named set from behind its bracket on: whether it is negated, and what follows. -/
def readNamedSet? : Text → Option (Bool × Text)
  | ':' :: rest =>
    let isNegated := rest.head? = some '^'
    let rest := if isNegated then rest.tail else rest
    let name := rest.takeWhile (· ≠ ':')
    match rest.drop name.length with
    | ':' :: ']' :: rest => if setNames.contains name then some (isNegated, rest) else none
    | _ => none
  | _ => none

/-- Read one end of a range, or a member by itself; a set is given as no character. -/
def readMember (m : Mode) (t : Text) : Option (Option Char × Text) := do
  let (atom, rest) ←
    match t with
    | [] => none
    | '\\' :: rest => readEscape m rest
    | c :: rest => some (.char c, rest)
  match atom with
  | .place => none
  | .set => return (none, rest)
  | .char c =>
    if m.allowsChar && (m.isWide || c.toNat < 0x80) then return (some c, rest) else none

/-- Read a member or a range, and give what follows. A dash before another dash or before
the end of the class makes no range. -/
def readRange (m : Mode) (t : Text) : Option Text := do
  let (first, rest) ← readMember m t
  match m.skip rest with
  | '-' :: more =>
    let next := m.following? more
    if next = some ']' || next = some '-' then return '-' :: more
    else
      match first, ← readMember m (m.skip more) with
      | some low, (some high, rest) => if low ≤ high then return rest else none
      | _, _ => none
  | rest => return rest

/-- Read the beginning of a class, from behind its bracket on: a negation, which in a narrow
mode could be satisfied by bytes beyond ASCII. -/
def readOpening (m : Mode) (t : Text) : Option Text :=
  match m.skip t with
  | '^' :: rest => if m.isWide then some rest else none
  | rest => some rest

/-- Read on in a class inside others, with so many characters at most, and give the depth
of the outermost class and what follows it. A closing bracket that comes first stands for
itself. -/
def readClassFrom (m : Mode) : Nat → List OpenClass → OpenClass → Text → Option (Nat × Text)
  | 0, _, _, _ => none
  | fuel + 1, outer, k, t =>
    match m.skip t with
    | [] => none
    | '[' :: rest =>
      match readNamedSet? rest with
      | some (isNegated, rest) =>
        if m.allowsNamedSet isNegated then readClassFrom m fuel outer (k.add 0) rest else none
      | none =>
        (readOpening m rest).bind fun rest => readClassFrom m fuel (k :: outer) .new rest
    | c :: rest =>
      if k.isFresh && c = '-' then
        if !m.allowsChar then none
        else readClassFrom m fuel outer ⟨0 :: k.members, none, true⟩ rest
      else if c = ']' && !(k.isFresh && k.members.isEmpty) then
        match outer with
        | [] => some (k.depth + 1, rest)
        | around :: outer => readClassFrom m fuel outer (around.add (k.depth + 1)) rest
      else if k.isFresh && c = ']' then
        if m.allowsChar then readClassFrom m fuel outer (k.add 0) rest else none
      else if (c = '&' || c = '-' || c = '~') && rest.head? = some c then
        readClassFrom m fuel outer k.afterOperation rest.tail
      else
        (readRange m (c :: rest)).bind fun rest => readClassFrom m fuel outer (k.add 0) rest

def readClass (m : Mode) (t : Text) : Option (Nat × Text) :=
  (readOpening m t).bind fun rest => readClassFrom m (rest.length + 1) [] .new rest

end LexerConsole.Pattern
