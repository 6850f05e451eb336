import LexerConsole.Listing.Report
import LexerConsole.Proofs.MaximalMunch
import Mathlib.Data.List.TakeWhile

/-!
# Listings without a limit

A sink without a limit takes every line, so nothing but an illegal token that is denied can end
a listing early. What the listing does with one token is said once for each way it can go on;
what it writes and how it ends follow by induction over the tokens. `lists_report` says both of
the tokens of a text, without going through them one at a time.
-/

namespace LexerConsole

theorem Sink.putAll_unlimited (cause : Cause) (pieces : List Text) :
    putAll ⟨none, cause⟩ pieces = (Text.utf8 pieces.flatten, .ok ⟨none, cause⟩) := by
  induction pieces with
  | nil => rfl
  | cons piece pieces ih => simp only [putAll, put, ih, List.flatten_cons, Text.utf8_append]

theorem Token.isEof_eq_false_of_isIllegal {t : Token} (h : t.isIllegal) : t.isEof = false := by
  simp only [isIllegal, decide_eq_true_eq] at h
  simp [isEof, h]

/-- A longer beginning than `takeWhile` has an element that fails the test. -/
theorem isPrefix_takeWhile {α : Type} {p : α → Bool} {front l : List α} (h : front <+: l)
    (hp : ∀ a ∈ front, p a) : front <+: l.takeWhile p := by
  obtain ⟨rest, rfl⟩ := h
  rw [List.takeWhile_append_of_pos hp]
  exact List.prefix_append _ _

theorem isPrefix_dropLast {α : Type} {front l : List α} (h : front <+: l) :
    front.dropLast <+: l.dropLast := by
  obtain ⟨rest, rfl⟩ := h
  cases rest with
  | nil => simp
  | cons a rest =>
    rw [List.dropLast_append_of_ne_nil (List.cons_ne_nil a rest)]
    exact (List.dropLast_prefix front).trans (List.prefix_append _ _)

theorem eq_false_of_takeWhile_append_cons {α : Type} {p : α → Bool} {a : α} {l rest : List α}
    (h : l = l.takeWhile p ++ a :: rest) : p a = false := by
  rw [Bool.eq_false_iff]
  intro ha
  have all : ∀ b ∈ l.takeWhile p ++ [a], p b := by
    intro b hb
    rcases List.mem_append.1 hb with hb | hb
    · exact List.all_eq_true.1 List.all_takeWhile b hb
    · exact List.mem_singleton.1 hb ▸ ha
  have front : l.takeWhile p ++ [a] <+: l := ⟨rest, by rw [List.append_assoc]; exact h.symm⟩
  have short := (isPrefix_takeWhile front all).length_le
  rw [List.length_append, List.length_singleton] at short
  omega

namespace Listing

/-- The tokens that a listing is about. -/
def chosen (o : Options) (ts : List Token) : List Token :=
  ts.filter fun t => o.showEof || !t.isEof

def denies (o : Options) (t : Token) : Bool :=
  o.denyIllegal && t.isIllegal

/-- The tokens that get a line. -/
def listed (o : Options) (ts : List Token) : List Token :=
  (chosen o ts).takeWhile fun t => !denies o t

/-- The lines of tokens, one behind the other. -/
def lines (o : Options) (ts : List Token) : List UInt8 :=
  ts.flatMap fun t => (line o t).utf8

/-- A report with the line of one more token in front. -/
def Report.cons (o : Options) (t : Token) (r : Report) : Report :=
  ⟨(line o t).utf8 ++ r.bytes, t :: r.drawn, r.result.map (· + 1)⟩

variable {o : Options} {cause : Cause} {t : Token}

theorem line_eq (o : Options) (t : Token) :
    line o t = (if o.coloured then t.coloured else t.plain) ++ ['\n'] := by
  cases hc : o.coloured with
  | true => simp [line, linePieces, hc]
  | false => simp [line, linePieces, hc, Token.plain]

theorem utf8_line (o : Options) (t : Token) :
    (line o t).utf8 = (if o.coloured then t.coloured else t.plain).utf8 ++ [0x0A] := by
  rw [line_eq, Text.utf8_append]
  rfl

theorem lines_cons (o : Options) (t : Token) (ts : List Token) :
    lines o (t :: ts) = (line o t).utf8 ++ lines o ts :=
  List.flatMap_cons

theorem lines_singleton (o : Options) (t : Token) : lines o [t] = (line o t).utf8 :=
  List.append_nil _

section Step

variable {sink next : Sink}

/-- Nothing is written for a token that is denied, and nothing behind it is looked at. -/
theorem ofTokens_of_denied (sink : Sink) (hd : denies o t) (rest : List Token) :
    ofTokens o sink (t :: rest) = ⟨[], [t], .error (.illegalToken t.text t.span.start)⟩ := by
  obtain ⟨ho, ht⟩ := Bool.and_eq_true_iff.1 hd
  simp [ofTokens, Token.isEof_eq_false_of_isIllegal ht, ht, ho]

theorem ofTokens_of_taken (ht : t.isEof = false) (hd : denies o t = false)
    (taken : sink.putAll (linePieces o t) = ((line o t).utf8, .ok next)) (rest : List Token) :
    ofTokens o sink (t :: rest) = (ofTokens o next rest).cons o t := by
  have passed : (t.isIllegal && o.denyIllegal) = false := Bool.and_comm _ _ ▸ hd
  simp [ofTokens, ht, passed, taken, Report.cons]

/-- A line that is not taken ends the listing, of the closing token too. -/
theorem ofTokens_of_refused (hs : (t.isEof && !o.showEof) = false) (hd : denies o t = false)
    {bytes : List UInt8} (refused : sink.putAll (linePieces o t) = (bytes, .error cause))
    (rest : List Token) :
    ofTokens o sink (t :: rest) = ⟨bytes, [t], .error (.unwritable cause)⟩ := by
  have passed : (t.isIllegal && o.denyIllegal) = false := Bool.and_comm _ _ ▸ hd
  simp [ofTokens, hs, passed, refused]

/-- The closing token is never denied. -/
theorem ofTokens_eof {n : Nat} (taken : o.showEof →
    sink.putAll (linePieces o (.eof n)) = ((line o (.eof n)).utf8, .ok next)) :
    ofTokens o sink [.eof n] =
      if o.showEof then ⟨(line o (.eof n)).utf8, [.eof n], .ok 1⟩ else ⟨[], [.eof n], .ok 0⟩ := by
  have closed := Token.isEof_eof n
  have passed : (Token.eof n).isIllegal = false := rfl
  cases ho : o.showEof with
  | true => simp [ofTokens, closed, passed, ho, taken ho]
  | false => simp [ofTokens, closed, ho]

end Step

section Run

variable {body : List Token}

theorem chosen_cons (ht : t.isEof = false) (ts : List Token) :
    chosen o (t :: ts) = t :: chosen o ts :=
  List.filter_cons_of_pos (by simp [ht])

theorem chosen_eof (n : Nat) : chosen o [.eof n] = if o.showEof then [.eof n] else [] := by
  cases ho : o.showEof with
  | true => simp [chosen, ho]
  | false => simp [chosen, ho, Token.isEof_eof]

theorem chosen_closed (hb : ∀ t ∈ body, t.isEof = false) (n : Nat) :
    chosen o (body ++ [.eof n]) = body ++ if o.showEof then [.eof n] else [] := by
  have all : chosen o body = body := List.filter_eq_self.2 (fun t ht => by simp [hb t ht])
  have split : chosen o (body ++ [.eof n]) = chosen o body ++ chosen o [.eof n] :=
    List.filter_append _ _
  rw [split, all, chosen_eof]

theorem isEof_eq_false_of_mem_dropLast (hb : ∀ t ∈ body, t.isEof = false) {n : Nat}
    (ht : t ∈ (chosen o (body ++ [.eof n])).dropLast) : t.isEof = false := by
  rw [chosen_closed hb] at ht
  cases ho : o.showEof with
  | true =>
    rw [if_pos ho, List.dropLast_concat] at ht
    exact hb t ht
  | false =>
    rw [if_neg (Bool.eq_false_iff.1 ho), List.append_nil] at ht
    exact hb t (List.dropLast_subset body ht)

theorem denies_eof (o : Options) (n : Nat) : denies o (.eof n) = false :=
  Bool.and_false _

theorem listed_cons_of_denied (ht : t.isEof = false) (hd : denies o t) (ts : List Token) :
    listed o (t :: ts) = [] := by
  rw [listed, chosen_cons ht, List.takeWhile_cons_of_neg (by simp [hd])]

theorem listed_cons (ht : t.isEof = false) (hd : denies o t = false) (ts : List Token) :
    listed o (t :: ts) = t :: listed o ts := by
  rw [listed, chosen_cons ht, List.takeWhile_cons_of_pos (by simp [hd])]
  rfl

theorem listed_eof (n : Nat) : listed o [.eof n] = if o.showEof then [.eof n] else [] := by
  rw [listed, chosen_eof]
  cases o.showEof with
  | true => simp [denies_eof]
  | false => rfl

/-- The lines of the listed tokens are written, one behind the other. -/
theorem ofTokens_bytes (hb : ∀ t ∈ body, t.isEof = false) (n : Nat) :
    (ofTokens o ⟨none, cause⟩ (body ++ [.eof n])).bytes =
      lines o (listed o (body ++ [.eof n])) := by
  induction body with
  | nil =>
    rw [List.nil_append, ofTokens_eof fun _ => Sink.putAll_unlimited cause _, listed_eof]
    cases o.showEof with
    | true => exact (lines_singleton o _).symm
    | false => rfl
  | cons t body ih =>
    obtain ⟨ht, hb⟩ := List.forall_mem_cons.1 hb
    rw [List.cons_append]
    cases hd : denies o t with
    | true =>
      rw [ofTokens_of_denied _ hd, listed_cons_of_denied ht hd]
      rfl
    | false =>
      rw [ofTokens_of_taken ht hd (Sink.putAll_unlimited cause _), listed_cons ht hd, lines_cons,
        ← ih hb, Report.cons]

/-- The first token that is denied decides how a listing ends. -/
theorem ofTokens_result (hb : ∀ t ∈ body, t.isEof = false) (n : Nat) :
    (ofTokens o ⟨none, cause⟩ (body ++ [.eof n])).result =
      match (chosen o (body ++ [.eof n])).find? (denies o) with
      | some t => .error (.illegalToken t.text t.span.start)
      | none => .ok (chosen o (body ++ [.eof n])).length := by
  induction body with
  | nil =>
    rw [List.nil_append, ofTokens_eof fun _ => Sink.putAll_unlimited cause _, chosen_eof]
    cases o.showEof with
    | true => simp [denies_eof]
    | false => rfl
  | cons t body ih =>
    obtain ⟨ht, hb⟩ := List.forall_mem_cons.1 hb
    rw [List.cons_append, chosen_cons ht]
    cases hd : denies o t with
    | true => rw [ofTokens_of_denied _ hd, List.find?_cons_of_pos hd]
    | false =>
      rw [ofTokens_of_taken ht hd (Sink.putAll_unlimited cause _),
        List.find?_cons_of_neg (by simp [hd]), Report.cons, ih hb]
      cases (chosen o (body ++ [.eof n])).find? (denies o) with
      | some t => rfl
      | none => rfl

end Run

section Source

variable (source : Text)

theorem report_bytes (o : Options) (cause : Cause) : (report o ⟨none, cause⟩ source).bytes =
    lines o (listed o (tokenize source)) := by
  obtain ⟨body, whole, hn⟩ := (lexes_tokenize source).exists_body
  rw [report, whole]
  exact ofTokens_bytes hn _

theorem report_result (o : Options) (cause : Cause) : (report o ⟨none, cause⟩ source).result =
    match (chosen o (tokenize source)).find? (denies o) with
    | some t => .error (.illegalToken t.text t.span.start)
    | none => .ok (chosen o (tokenize source)).length := by
  obtain ⟨body, whole, hn⟩ := (lexes_tokenize source).exists_body
  rw [report, whole]
  exact ofTokens_result hn _

/-- The closing token plays no part in what is denied. -/
theorem find?_denies (o : Options) (ts : List Token) :
    (chosen o ts).find? (denies o) = if o.denyIllegal then ts.find? Token.isIllegal else none := by
  rw [chosen, List.find?_filter]
  cases ho : o.denyIllegal with
  | true =>
    refine congrArg (ts.find? ·) (funext ?_)
    intro t
    cases ht : t.isIllegal with
    | true => simp [denies, ho, ht, Token.isEof_eq_false_of_isIllegal ht]
    | false => simp [denies, ht]
  | false => simp [denies, ho]

/-- A listing fails just when a token is denied, and its fault names the first one. -/
theorem report_error_iff (fault : Fault) :
    (report o ⟨none, cause⟩ source).result = .error fault ↔
      o.denyIllegal ∧ ∃ t, (tokenize source).find? Token.isIllegal = some t ∧
        fault = .illegalToken t.text t.span.start := by
  rw [report_result, find?_denies]
  cases o.denyIllegal with
  | true => cases (tokenize source).find? Token.isIllegal <;> simp [eq_comm]
  | false => simp

/-- A listing succeeds just when no token is denied, and reports how many it is about. -/
theorem report_ok_iff (n : Nat) : (report o ⟨none, cause⟩ source).result = .ok n ↔
    (∀ t ∈ chosen o (tokenize source), denies o t = false) ∧
      n = (chosen o (tokenize source)).length := by
  rw [report_result]
  cases found : (chosen o (tokenize source)).find? (denies o) with
  | some t =>
    have denied : denies o t := List.find?_some found
    constructor
    · intro h
      cases h
    · rintro ⟨passed, -⟩
      rw [passed t (List.mem_of_find?_eq_some found)] at denied
      cases denied
  | none =>
    have passed := List.find?_eq_none.1 found
    simp only [Bool.not_eq_true] at passed
    rw [and_iff_right passed, Except.ok.injEq, eq_comm]

variable {source} in
/-- A listing that succeeds leaves nothing out. -/
theorem listed_eq_chosen_of_ok {n : Nat} (ok : (report o ⟨none, cause⟩ source).result = .ok n) :
    listed o (tokenize source) = chosen o (tokenize source) := by
  have passed := ((report_ok_iff source n).1 ok).1
  exact List.takeWhile_eq_self_iff.2 fun t ht => by rw [passed t ht]; rfl

end Source

/-- What the listing of a text leaves behind when nothing hinders the writing. -/
structure Lists (o : Options) (source : Text) (r : Report) : Prop where
  /-- The listed tokens are the longest beginning of the chosen ones in which none is denied. -/
  front : listed o (tokenize source) <+: chosen o (tokenize source)
  passed : ∀ t ∈ listed o (tokenize source), denies o t = false
  longest : ∀ ts, ts <+: chosen o (tokenize source) → (∀ t ∈ ts, denies o t = false) →
    ts <+: listed o (tokenize source)
  written : r.bytes = (listed o (tokenize source)).flatMap fun t =>
    Text.utf8 ((if o.coloured then t.coloured else t.plain) ++ ['\n'])
  complete : listed o (tokenize source) = chosen o (tokenize source) →
    r.result = .ok (listed o (tokenize source)).length
  /-- The token behind the listed ones is the one that is denied. -/
  broken : ∀ t rest, chosen o (tokenize source) = listed o (tokenize source) ++ t :: rest →
    o.denyIllegal ∧ t.isIllegal ∧ r.result = .error (.illegalToken t.text t.span.start)
  /-- The closing token is listed last or not at all. -/
  closing : ∀ t ∈ (listed o (tokenize source)).dropLast, t.isEof = false

theorem lists_report (o : Options) (cause : Cause) (source : Text) :
    Lists o source (report o ⟨none, cause⟩ source) := by
  have front : listed o (tokenize source) <+: chosen o (tokenize source) :=
    List.takeWhile_prefix _
  have passed : ∀ t ∈ listed o (tokenize source), denies o t = false := by
    intro t ht
    simpa using List.all_eq_true.1 List.all_takeWhile t ht
  have result := report_result source o cause
  constructor
  · exact front
  · exact passed
  · intro ts hts hd
    exact isPrefix_takeWhile hts (fun t ht => by simp [hd t ht])
  · simp only [report_bytes, lines, line_eq]
  · intro all
    rw [all] at passed ⊢
    have none : (chosen o (tokenize source)).find? (denies o) = none :=
      List.find?_eq_none.2 (fun t ht => by simp [passed t ht])
    rw [result, none]
  · intro t rest split
    have denied : denies o t := by simpa using eq_false_of_takeWhile_append_cons split
    have found : (chosen o (tokenize source)).find? (denies o) = some t :=
      List.find?_eq_some_iff_append.2
        ⟨denied, _, rest, split, fun u hu => by simp [passed u hu]⟩
    obtain ⟨ho, ht⟩ := Bool.and_eq_true_iff.1 denied
    rw [result, found]
    exact ⟨ho, ht, rfl⟩
  · obtain ⟨body, whole, hn⟩ := (lexes_tokenize source).exists_body
    rw [whole] at front ⊢
    intro t ht
    exact isEof_eq_false_of_mem_dropLast hn ((isPrefix_dropLast front).mem ht)

end Listing
end LexerConsole
