import LexerConsole.Fault

/-!
# Files

A tree of folders and files, kept as a list of paths with what stands there. The
root is a folder and is not listed. Names are looked up part by part from the root
or from the working folder; a lookup fails at the first part that cannot be
entered, and the failure says why.
-/

namespace LexerConsole

/-- The parts of a path, from the root on. -/
abbrev Path := List Text

inductive Entry where
  | file (content : List UInt8)
  | folder
  deriving DecidableEq, Repr

structure Files where
  entries : List (Path × Entry)
  working : Path
  deriving DecidableEq, Repr

namespace Files

def at? (f : Files) (p : Path) : Option Entry :=
  if p.isEmpty then some .folder
  else (f.entries.find? fun e => e.1 = p).map Prod.snd

/-- Put an entry at a path, in the place of what was there. -/
def put (p : Path) (e : Entry) (f : Files) : Files :=
  if (f.at? p).isSome then
    { f with entries := f.entries.map fun old => if old.1 = p then (p, e) else old }
  else { f with entries := f.entries ++ [(p, e)] }

/-- Put folders wherever a path passes over nothing. -/
def putFolders (p : Path) (f : Files) : Files :=
  (List.range p.length).foldl
    (fun f n =>
      let above := p.take (n + 1)
      if (f.at? above).isSome then f else f.put above .folder)
    f

/-- Only the working folder and the empty device. -/
def bare : Files :=
  let working : Path := ["work".toList, "here".toList]
  let start : Files := ⟨[], working⟩
  ((start.putFolders working).putFolders ["dev".toList]).put ["dev".toList, "null".toList] (.file [])

/-- The parts of a name. A name that ends in a slash means the folder itself. -/
def parts (name : Text) : List Text :=
  (name.splitOn '/').filter (fun part => !part.isEmpty) ++
    if name.getLast? = some '/' then [['.']] else []

def origin (f : Files) (name : Text) : Path :=
  if name.head? = some '/' then [] else f.working

/-- A file given by its name in the working folder, together with the folders above it. -/
def add (name : Text) (content : List UInt8) (f : Files) : Files :=
  let p := f.working ++ parts name
  (f.putFolders p.dropLast).put p (.file content)

def checkName (name : Text) : Except Cause Unit :=
  if name.contains '\x00' then .error .nulInName
  else if name.isEmpty then .error .noSuchFile
  else if 4096 ≤ name.byteLength then .error .nameTooLong
  else .ok ()

/-- The path of a part of a folder, whether or not something is there. -/
def childPath (f : Files) (here : Path) (part : Text) : Except Cause Path :=
  match f.at? here with
  | none => .error .noSuchFile
  | some (.file _) => .error .notFolder
  | some .folder =>
    if part = ['.'] then .ok here
    else if part = ['.', '.'] then .ok here.dropLast
    else if 255 < part.byteLength then .error .nameTooLong
    else .ok (here ++ [part])

def enter (f : Files) (here : Path) (part : Text) : Except Cause Path := do
  let there ← f.childPath here part
  if (f.at? there).isSome then return there else throw .noSuchFile

def read (f : Files) (name : Text) : Except Cause (List UInt8) := do
  checkName name
  let there ← (parts name).foldlM f.enter (f.origin name)
  match f.at? there with
  | some (.file content) => return content
  | some .folder => throw .isFolder
  | none => throw .noSuchFile

def readText (f : Files) (name : Text) : Except Cause Text := do
  match Text.ofUtf8? (← f.read name) with
  | some t => return t
  | none => throw .notUtf8

/-- Enter one part, making it a folder when nothing is there. -/
def grow (state : Files × Path) (part : Text) : Except Cause (Files × Path) := do
  let there ← state.1.childPath state.2 part
  if (state.1.at? there).isSome then return (state.1, there)
  else return (state.1.put there .folder, there)

/-- Make a folder and the folders above it, as far as they are missing. -/
def makeFolders (f : Files) (name : Text) : Except Cause Files := do
  checkName name
  let (f, there) ← (parts name).foldlM grow (f, f.origin name)
  match f.at? there with
  | some .folder => return f
  | _ => throw .fileExists

/-- Write a file in a folder that is there, in the place of any file of its name. -/
def write (f : Files) (name : Text) (content : List UInt8) : Except Cause Files := do
  checkName name
  let folder ← (parts name).dropLast.foldlM f.enter (f.origin name)
  let there ← f.childPath folder ((parts name).getLast?.getD ['.'])
  match f.at? there with
  | some .folder => throw .isFolder
  | _ => return f.put there (.file content)

end Files
end LexerConsole
