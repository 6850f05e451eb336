import LexerConsole.Proofs.Locality
import LexerConsole.Proofs.Progress
import Mathlib.Data.List.TakeWhile

/-!
# A scanner is a bookmark in a token list

All that a scanner can be asked is answered by the token list of its source and one number:
how many tokens were asked for so far. The number grows by one for each token that an answer
looks at, past the end too, where the closing token is looked at again and again.

The scanner and the bookmark are asked the same questions in the same order. What one question
does is proved for each kind of question, and `answer_after` says that it moves scanner and
bookmark alike; any sequence of questions follows from it.
-/

namespace LexerConsole

namespace Scanner

inductive Query where
  | next
  | draw
  | drawNth (n : Nat)
  | take (n : Nat)
  | find (k : Kind)
  | takeWhileNot (k : Kind)
  | count
  | last
  | drawRest
  | position
  | atEnd
  deriving DecidableEq, Repr

inductive Answer where
  | token (found : Option Token)
  | tokens (found : List Token)
  | number (n : Nat)
  | verdict (b : Bool)
  deriving DecidableEq, Repr

def answer (s : Scanner) : Query → Answer × Scanner
  | .next => (.token (some s.next.1), s.next.2)
  | .draw => (.token s.draw.1, s.draw.2)
  | .drawNth n => (.token (s.drawNth n).1, (s.drawNth n).2)
  | .take n => (.tokens (s.take n).1, (s.take n).2)
  | .find k => (.token (s.find k).1, (s.find k).2)
  | .takeWhileNot k => (.tokens (s.takeWhileNot k).1, (s.takeWhileNot k).2)
  | .count => (.number s.count.1, s.count.2)
  | .last => (.token s.last.1, s.last.2)
  | .drawRest => (.tokens s.drawRest.1, s.drawRest.2)
  | .position => (.number s.position, s)
  | .atEnd => (.verdict s.atEnd, s)

/-- The answers to questions that are asked one after the other, and the state behind them. -/
def inTurn {σ : Type} (answer : σ → Query → Answer × σ) : σ → List Query → List Answer × σ
  | state, [] => ([], state)
  | state, q :: queries =>
    let (first, state) := answer state q
    let (others, state) := inTurn answer state queries
    (first :: others, state)

end Scanner

namespace Bookmark

variable (source : Text)

/-- The tokens before the end that were not asked for yet. -/
def ahead (pulled : Nat) : List Token :=
  (openTokens source).drop pulled

/-- The end of the token that was asked for last. -/
def position (pulled : Nat) : Nat :=
  if pulled = 0 then 0
  else ((tokenize source)[min pulled (tokenize source).length - 1]?).elim 0 (·.span.stop)

/-- What a token list says to a question, and how many tokens were asked for then. -/
def answer (pulled : Nat) : Scanner.Query → Scanner.Answer × Nat
  | .next => (.token (tokenize source)[min pulled ((tokenize source).length - 1)]?, pulled + 1)
  | .draw => (.token (ahead source pulled).head?, pulled + 1)
  | .drawNth n =>
    (.token (ahead source pulled)[n]?, pulled + (min n (ahead source pulled).length + 1))
  | .take n =>
    (.tokens ((ahead source pulled).take n), pulled + min n ((ahead source pulled).length + 1))
  | .find k =>
    (.token ((ahead source pulled).find? (·.kind = k)),
      pulled + ((ahead source pulled).findIdx (·.kind = k) + 1))
  | .takeWhileNot k =>
    (.tokens ((ahead source pulled).takeWhile (·.kind ≠ k)),
      pulled + ((ahead source pulled).findIdx (·.kind = k) + 1))
  | .count => (.number (ahead source pulled).length, pulled + ((ahead source pulled).length + 1))
  | .last => (.token (ahead source pulled).getLast?, pulled + ((ahead source pulled).length + 1))
  | .drawRest => (.tokens (ahead source pulled), pulled + ((ahead source pulled).length + 1))
  | .position => (.number (position source pulled), pulled)
  | .atEnd => (.verdict (position source pulled = source.byteLength), pulled)

end Bookmark

namespace Scanner

variable {s : Scanner}

/-- The tokens before the end that are still to come. -/
def ahead (s : Scanner) : List Token :=
  s.tokens.dropLast

theorem tokens_ne_nil (s : Scanner) : s.tokens ≠ [] := by
  rw [tokens]
  split
  · exact List.cons_ne_nil _ _
  · exact List.cons_ne_nil _ _

theorem ahead_of_isEof (h : s.next.1.isEof) : s.ahead = [] := by
  rw [ahead, tokens_of_isEof h]
  rfl

theorem ahead_of_not_isEof (h : s.next.1.isEof = false) : s.ahead = s.next.1 :: s.next.2.ahead := by
  rw [ahead, tokens_of_not_isEof h, List.dropLast_cons_of_ne_nil s.next.2.tokens_ne_nil]
  rfl

/-- Behind the closing token there is only the closing token. -/
theorem isEof_next_of_isEof (h : s.next.1.isEof) : s.next.2.next.1.isEof := by
  rw [s.next.2.step_next.isEof_iff, (next_of_isEof h).2]
  exact List.forall_mem_nil _

theorem ahead_next (s : Scanner) : s.next.2.ahead = s.ahead.tail := by
  cases h : s.next.1.isEof with
  | true =>
    rw [ahead_of_isEof h, ahead_of_isEof (isEof_next_of_isEof h)]
    rfl
  | false =>
    rw [ahead_of_not_isEof h]
    rfl

theorem after_add (m n : Nat) (s : Scanner) : s.after (m + n) = (s.after m).after n := by
  induction m generalizing s with
  | zero => rw [Nat.zero_add, after]
  | succ m ih =>
    rw [Nat.succ_add, after, after]
    exact ih s.next.2

theorem ahead_after (k : Nat) (s : Scanner) : (s.after k).ahead = s.ahead.drop k := by
  induction k generalizing s with
  | zero => rfl
  | succ k ih => rw [after, ih, ahead_next, List.drop_tail]

theorem source_after (k : Nat) (s : Scanner) : (s.after k).source = s.source := by
  induction k generalizing s with
  | zero => rfl
  | succ k ih => rw [after, ih, source_next]

section Questions

theorem draw_eq (s : Scanner) : s.draw = (s.ahead.head?, s.after 1) := by
  cases h : s.next.1.isEof with
  | true =>
    rw [ahead_of_isEof h, draw, if_pos h]
    rfl
  | false =>
    rw [ahead_of_not_isEof h, draw, if_neg (by simp [h])]
    rfl

theorem drawNth_eq (n : Nat) (s : Scanner) :
    s.drawNth n = (s.ahead[n]?, s.after (min n s.ahead.length + 1)) := by
  induction n generalizing s with
  | zero => rw [drawNth, draw_eq, List.head?_eq_getElem?, Nat.zero_min]
  | succ n ih =>
    rw [drawNth, draw_eq]
    cases h : s.next.1.isEof with
    | true =>
      rw [ahead_of_isEof h]
      rfl
    | false =>
      rw [ahead_of_not_isEof h, List.length_cons, Nat.succ_min_succ]
      exact ih s.next.2

theorem take_eq (n : Nat) (s : Scanner) :
    s.take n = (s.ahead.take n, s.after (min n (s.ahead.length + 1))) := by
  induction n generalizing s with
  | zero =>
    rw [take, Nat.zero_min]
    rfl
  | succ n ih =>
    rw [take, draw_eq, Nat.succ_min_succ]
    cases h : s.next.1.isEof with
    | true =>
      rw [ahead_of_isEof h, List.length_nil, Nat.min_zero]
      rfl
    | false =>
      have others : s.next.2.take n = _ := ih s.next.2
      rw [ahead_of_not_isEof h]
      simp only [List.head?_cons, after, others, List.take_succ_cons, List.length_cons]

theorem drawUntil_eq (p : Token → Bool) (s : Scanner) :
    s.drawUntil p = (s.ahead.takeWhile fun t => !p t, s.ahead.find? p,
      s.after (s.ahead.findIdx p + 1)) := by
  fun_induction drawUntil p s with
  | case1 s closed =>
    rw [ahead_of_isEof closed]
    rfl
  | case2 s more found =>
    rw [ahead_of_not_isEof ((Bool.not_eq_true _).mp more)]
    simp [List.findIdx_cons, found, after]
  | case3 s more other before found behind rest ih =>
    rw [ahead_of_not_isEof ((Bool.not_eq_true _).mp more)]
    rw [rest, Prod.mk.injEq, Prod.mk.injEq] at ih
    obtain ⟨rfl, rfl, rfl⟩ := ih
    simp [List.findIdx_cons, other, after]

theorem find_eq (k : Kind) (s : Scanner) :
    s.find k = (s.ahead.find? (·.kind = k), s.after (s.ahead.findIdx (·.kind = k) + 1)) := by
  simp only [find, drawUntil_eq]

theorem takeWhileNot_eq (k : Kind) (s : Scanner) :
    s.takeWhileNot k =
      (s.ahead.takeWhile (·.kind ≠ k), s.after (s.ahead.findIdx (·.kind = k) + 1)) := by
  simp only [takeWhileNot, drawUntil_eq, decide_not]

theorem drawRest_eq (s : Scanner) : s.drawRest = (s.ahead, s.after (s.ahead.length + 1)) := by
  have all : s.ahead.takeWhile (fun _ => !false) = s.ahead :=
    List.takeWhile_eq_self_iff.2 (fun _ _ => rfl)
  have none : s.ahead.findIdx (fun _ => false) = s.ahead.length :=
    List.findIdx_eq_length_of_false (fun _ _ => rfl)
  simp only [drawRest, drawUntil_eq, all, none]

end Questions

section Places

theorem head?_tokens (s : Scanner) : s.tokens.head? = some s.next.1 := by
  rw [tokens]
  split
  · rfl
  · rfl

theorem tokens_eq (s : Scanner) : s.tokens = s.ahead ++ [.eof s.source.bytes.length] := by
  fun_induction tokens s with
  | case1 s closed =>
    rw [ahead_of_isEof closed, (next_of_isEof closed).1]
    rfl
  | case2 s more ih =>
    rw [ahead_of_not_isEof ((Bool.not_eq_true _).mp more), List.cons_append]
    exact congrArg (s.next.1 :: ·) ih

theorem next_after_getD (k : Nat) (s : Scanner) :
    (s.after k).next.1 = s.ahead.getD k (.eof s.source.bytes.length) := by
  have first := head?_tokens (s.after k)
  rw [tokens_eq, ahead_after, source_after, List.head?_append, List.head?_drop, List.head?_cons,
    Option.or_some] at first
  exact (Option.some.inj first).symm

/-- A request is answered by the token at its place in the list, or by the closing token. -/
theorem next_after (k : Nat) (s : Scanner) :
    some (s.after k).next.1 = s.tokens[min k (s.tokens.length - 1)]? := by
  rw [next_after_getD, s.tokens_eq, List.getD_eq_getElem?_getD]
  simp only [List.length_append, List.length_singleton, Nat.add_sub_cancel]
  by_cases hk : k < s.ahead.length
  · rw [Nat.min_eq_left (Nat.le_of_lt hk), List.getElem?_append_left hk,
      List.getElem?_eq_getElem hk, Option.getD_some]
  · rw [Nat.min_eq_right (Nat.le_of_not_lt hk), List.getElem?_append_right (Nat.le_refl _),
      Nat.sub_self, List.getElem?_eq_none (Nat.le_of_not_lt hk)]
    rfl

theorem position_after (k : Nat) (source : Text) :
    ((ofText source).after k).position = Bookmark.position source k := by
  cases k with
  | zero => rfl
  | succ k =>
    have found := next_after k (ofText source)
    have size := List.length_pos_iff.2 (ofText source).tokens_ne_nil
    have place : min (k + 1) (tokenize source).length - 1 =
        min k ((tokenize source).length - 1) := by
      simp only [tokenize]
      omega
    rw [Bookmark.position, if_neg (Nat.succ_ne_zero k), place, tokenize, ← found,
      after_add, after, after, position_next]
    rfl

theorem atEnd_iff (s : Scanner) : s.atEnd ↔ s.position = s.source.bytes.length := by
  rw [atEnd, Option.isNone_iff_eq_none]
  exact s.follows.inStep.ended

theorem atEnd_after (k : Nat) (source : Text) :
    ((ofText source).after k).atEnd = decide (Bookmark.position source k = source.byteLength) := by
  have size : ((ofText source).after k).source.bytes.length = source.byteLength := by
    rw [source_after]
    exact source.length_utf8
  rw [Bool.eq_iff_iff, atEnd_iff, position_after, size, decide_eq_true_iff]

end Places

/-- One question moves the scanner and the bookmark alike. -/
theorem answer_after (source : Text) (k : Nat) (q : Query) :
    ((ofText source).after k).answer q =
      ((Bookmark.answer source k q).1, (ofText source).after (Bookmark.answer source k q).2) := by
  have rest : ((ofText source).after k).ahead = Bookmark.ahead source k :=
    ahead_after k (ofText source)
  cases q with
  | next =>
    have found := next_after k (ofText source)
    simp only [answer, found, Bookmark.answer, after_add]
    rfl
  | draw => simp only [answer, draw_eq, rest, Bookmark.answer, after_add]
  | drawNth n => simp only [answer, drawNth_eq, rest, Bookmark.answer, after_add]
  | take n => simp only [answer, take_eq, rest, Bookmark.answer, after_add]
  | find k => simp only [answer, find_eq, rest, Bookmark.answer, after_add]
  | takeWhileNot k => simp only [answer, takeWhileNot_eq, rest, Bookmark.answer, after_add]
  | count => simp only [answer, count, drawRest_eq, rest, Bookmark.answer, after_add]
  | last => simp only [answer, last, drawRest_eq, rest, Bookmark.answer, after_add]
  | drawRest => simp only [answer, drawRest_eq, rest, Bookmark.answer, after_add]
  | position => simp only [answer, position_after, Bookmark.answer]
  | atEnd => simp only [answer, atEnd_after, Bookmark.answer]

theorem inTurn_after (source : Text) (k : Nat) (queries : List Query) :
    inTurn answer ((ofText source).after k) queries =
      ((inTurn (Bookmark.answer source) k queries).1,
        (ofText source).after (inTurn (Bookmark.answer source) k queries).2) := by
  induction queries generalizing k with
  | nil => rfl
  | cons q queries ih => simp only [inTurn, answer_after, ih]

end Scanner

/-- Whatever a scanner is asked, one question after the other, it answers as the token list does
that is read from the place of a bookmark, and it is left behind as many requests as the bookmark
counts. Behind a number of requests the scanner stands at the end of the token that was given last,
and there the source ends just when the scanner says so. -/
theorem inTurn_eq_bookmark (source : Text) :
    (∀ queries : List Scanner.Query,
      Scanner.inTurn Scanner.answer (.ofText source) queries =
        ((Scanner.inTurn (Bookmark.answer source) 0 queries).1,
          (Scanner.ofText source).after (Scanner.inTurn (Bookmark.answer source) 0 queries).2)) ∧
      ∀ k, ((Scanner.ofText source).after k).position = Bookmark.position source k ∧
        (((Scanner.ofText source).after k).atEnd ↔
          ((Scanner.ofText source).after k).position = source.byteLength) := by
  constructor
  · exact Scanner.inTurn_after source 0
  · intro k
    have place := Scanner.position_after k source
    refine ⟨place, ?_⟩
    rw [Scanner.atEnd_after, place, decide_eq_true_iff]

end LexerConsole
