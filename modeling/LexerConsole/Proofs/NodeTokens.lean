import LexerConsole.Proofs.Bookmark
import LexerConsole.Syntax
import Mathlib.Data.List.InsertIdx

/-!
# Nodes and their tokens

A statement is made of the tokens at fixed places of its source's token list, whatever they are:
the first, the second as the name, and the fourth as the value if the end does not come before it.
Each node keeps its token for good. Statements may be put in, taken out and renamed in any order;
a program is then determined by where its statements are from and by the last spelling that each
name was given, and no edit reaches a literal.
-/

namespace LexerConsole

/-- The token at a place of a source's list; past the end it is the closing one. -/
def tokenAt (source : Text) (i : Nat) : Token :=
  (openTokens source).getD i (.eof source.byteLength)

theorem next_after_ofText (source : Text) (k : Nat) :
    ((Scanner.ofText source).after k).next.1 = tokenAt source k := by
  have size : (Scanner.ofText source).source.bytes.length = source.byteLength :=
    source.length_utf8
  rw [Scanner.next_after_getD, size]
  rfl

theorem LetStatement.draft_ofText (source : Text) :
    draft (.ofText source) = ⟨tokenAt source 0, .ofToken (tokenAt source 1),
      (openTokens source)[3]?.map fun t => .identifier (.ofToken t)⟩ := by
  have value : ((Scanner.ofText source).after 3).draw.1 = (openTokens source)[3]? := by
    rw [Scanner.draw_eq, Scanner.ahead_after, List.head?_drop]
    rfl
  rw [← next_after_ofText, ← next_after_ofText, ← value]
  rfl

/-- Where a statement is from, and how its name was spelled last if it was renamed at all. -/
structure Origin where
  source : Text
  spelling : Option Text
  deriving DecidableEq, Repr

namespace Origin

def binding (o : Origin) : LetStatement :=
  ⟨tokenAt o.source 0, ⟨tokenAt o.source 1, o.spelling.getD (tokenAt o.source 1).text⟩,
    (openTokens o.source)[3]?.map fun t => .identifier (.ofToken t)⟩

def statement (o : Origin) : Statement :=
  .letBinding o.binding

def rename (spelling : Text) (o : Origin) : Origin :=
  { o with spelling := some spelling }

theorem statement_new (source : Text) : (Origin.mk source none).statement = .ofText source := by
  rw [Statement.ofText, LetStatement.draft_ofText]
  rfl

theorem map_modify_rename (i : Nat) (spelling : Text) (origins : List Origin) :
    (origins.modify i (rename spelling)).map statement =
      (origins.map statement).modify i (.rename spelling) := by
  apply List.ext_getElem?
  intro j
  simp only [List.getElem?_map, List.getElem?_modify, Option.map_eq_map, Option.map_map]
  refine congrArg (Option.map · origins[j]?) (funext fun o => ?_)
  by_cases here : i = j
  · simp only [Function.comp_apply, if_pos here]
    rfl
  · simp only [Function.comp_apply, if_neg here]

/-- The literals of all nodes of a statement; no spelling is among them. -/
theorem literals_binding (o : Origin) :
    o.binding.literal = (tokenAt o.source 0).text ∧
      o.binding.name.literal = (tokenAt o.source 1).text ∧
      o.binding.value.map Expression.literal = (openTokens o.source)[3]?.map Token.text := by
  refine ⟨rfl, rfl, ?_⟩
  rw [binding, Option.map_map]
  rfl

end Origin

/-- What can be done to a program through its list of statements. -/
inductive Edit where
  | push (source : Text)
  | insert (i : Nat) (source : Text)
  | remove (i : Nat)
  | rename (i : Nat) (spelling : Text)
  | clear
  deriving DecidableEq, Repr

namespace Edit

def act (p : Program) : Edit → Program
  | push source => p.push (.ofText source)
  | insert i source => p.insert i (.ofText source)
  | remove i => p.remove i
  | rename i spelling => p.rename i spelling
  | clear => .empty

/-- What an edit does to the origins of a program's statements. -/
def trace (origins : List Origin) : Edit → List Origin
  | push source => origins ++ [⟨source, none⟩]
  | insert i source => origins.take i ++ ⟨source, none⟩ :: origins.drop i
  | remove i => origins.eraseIdx i
  | rename i spelling => origins.modify i (.rename spelling)
  | clear => []

end Edit

namespace Program

def ofOrigins (origins : List Origin) : Program :=
  ⟨origins.map Origin.statement⟩

theorem ofTexts_eq (sources : List Text) :
    ofTexts sources = ofOrigins (sources.map fun source => ⟨source, none⟩) := by
  rw [ofTexts, ofOrigins, List.map_map]
  exact congrArg Program.mk (List.map_congr_left fun source _ => (Origin.statement_new source).symm)

theorem act_ofOrigins (origins : List Origin) (e : Edit) :
    e.act (ofOrigins origins) = ofOrigins (e.trace origins) := by
  cases e with
  | push source =>
    rw [Edit.act, Edit.trace, ofOrigins, ofOrigins, List.map_append, ← Origin.statement_new]
    rfl
  | insert i source =>
    rw [Edit.act, Edit.trace, ofOrigins, ofOrigins, List.map_append, List.map_cons, List.map_take,
      List.map_drop, ← Origin.statement_new]
    rfl
  | remove i => exact congrArg Program.mk (List.eraseIdx_map Origin.statement origins i)
  | rename i spelling => exact congrArg Program.mk (Origin.map_modify_rename i spelling origins).symm
  | clear => rfl

/-- An edited program is known from where its statements are from. -/
theorem foldl_act (edits : List Edit) (origins : List Origin) :
    edits.foldl Edit.act (ofOrigins origins) = ofOrigins (edits.foldl Edit.trace origins) := by
  induction edits generalizing origins with
  | nil => rfl
  | cons e edits ih => rw [List.foldl_cons, List.foldl_cons, act_ofOrigins, ih]

theorem literal_ofOrigins (origins : List Origin) :
    (ofOrigins origins).literal =
      (origins.head?.map fun o => (tokenAt o.source 0).text).getD [] := by
  cases origins with
  | nil => rfl
  | cons o origins => rfl

/-- The literal of a program is the text of the first token of the source that its first statement
is from; without any statement it is empty. -/
theorem literal_foldl_act (edits : List Edit) :
    (edits.foldl Edit.act .empty).literal =
      ((edits.foldl Edit.trace []).head?.map fun o => (tokenAt o.source 0).text).getD [] :=
  (congrArg literal (foldl_act edits [])).trans (literal_ofOrigins _)

example : [.push "let myVar = anotherVar;".toList, .rename 0 "x".toList].foldl Edit.act .empty =
    ⟨[.letBinding ⟨⟨.keyword .letWord, "let".toList, ⟨0, 3⟩⟩,
      ⟨⟨.ident, "myVar".toList, ⟨4, 9⟩⟩, "x".toList⟩,
      some (.identifier (.ofToken ⟨.ident, "anotherVar".toList, ⟨12, 22⟩⟩))⟩]⟩ := by
  decide +kernel

end Program
end LexerConsole
