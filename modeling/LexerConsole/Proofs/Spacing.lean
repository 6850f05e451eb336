import LexerConsole.Proofs.Decoding
import LexerConsole.Proofs.Layout
import Mathlib.Data.List.Forall2

/-!
# Spacing

How many blanks stand between two runs of other bytes makes no difference to the kinds and the
texts of the tokens, nor does it matter which blanks they are. Two sources with the same runs may
have their tokens at different offsets, so their listings are the same up to the offset in a fault.
Where blanks are only exchanged for other blanks the offsets stay too.

Both facts are proved along a derivation of the grammar. A lexeme has no blank in it, so it lies in
one run, and the byte behind it is the same in the other source or a blank there.
-/

namespace LexerConsole

open Alphabet

/-- The longest runs of bytes that are no blanks, in order. -/
def runs (bytes : List UInt8) : List (List UInt8) :=
  (bytes.splitOnP isBlank).filter fun run => !run.isEmpty

/-- The same bytes, except that a blank may stand in the place of another. -/
def Respaced (a b : List UInt8) : Prop :=
  List.Forall₂ (fun x y => x = y ∨ isBlank x ∧ isBlank y) a b

instance (a b : List UInt8) : Decidable (Respaced a b) :=
  inferInstanceAs (Decidable (List.Forall₂ _ a b))

section Runs

variable {run after bytes : List UInt8} {b : UInt8}

theorem runs_append_cons (hb : isBlank b) (before after : List UInt8) :
    runs (before ++ b :: after) = runs before ++ runs after := by
  simp only [runs, List.splitOnP_append_cons before after hb, List.filter_append]

theorem runs_blanks_append {blanks : List UInt8} (hb : ∀ b ∈ blanks, isBlank b)
    (bytes : List UInt8) : runs (blanks ++ bytes) = runs bytes := by
  induction blanks with
  | nil => rfl
  | cons b blanks ih =>
    obtain ⟨first, others⟩ := List.forall_mem_cons.1 hb
    have front : runs ([] ++ b :: (blanks ++ bytes)) = runs [] ++ runs (blanks ++ bytes) :=
      runs_append_cons first [] _
    exact front.trans (ih others)

theorem runs_of_solid (hn : run ≠ []) (hr : ∀ b ∈ run, isBlank b = false) : runs run = [run] := by
  rw [runs, List.splitOnP_eq_singleton hr]
  simp [hn]

theorem runs_append (hn : run ≠ []) (hr : ∀ b ∈ run, isBlank b = false)
    (ha : ∀ b ∈ after.head?, isBlank b) : runs (run ++ after) = run :: runs after := by
  cases after with
  | nil => rw [List.append_nil, runs_of_solid hn hr]; rfl
  | cons b after =>
    have blank := ha b rfl
    have behind : runs ([] ++ b :: after) = runs [] ++ runs after := runs_append_cons blank [] after
    rw [runs_append_cons blank, runs_of_solid hn hr]
    exact congrArg (run :: ·) behind.symm

/-- Bytes are blanks, then a run, then what is behind the run; without a run nothing is behind
the blanks. -/
theorem exists_first_run (bytes : List UInt8) :
    ((∀ b ∈ bytes, isBlank b) ∧ runs bytes = []) ∨
      ∃ blanks run after, bytes = blanks ++ (run ++ after) ∧ (∀ b ∈ blanks, isBlank b) ∧
        (∀ b ∈ after.head?, isBlank b) ∧ runs bytes = run :: runs after := by
  obtain ⟨blanks, front, rfl, hb, hf⟩ := exists_run isBlank bytes
  have passed := runs_blanks_append hb front
  obtain ⟨run, after, rfl, hr, ha⟩ := exists_run (fun b => !isBlank b) front
  simp only [Bool.not_eq_true', Bool.not_eq_false'] at hr ha
  cases run with
  | nil =>
    have none : after = [] := by
      cases after with
      | nil => rfl
      | cons b after => exact absurd (hf b rfl) (by simp [ha b rfl])
    subst none
    exact Or.inl ⟨by simpa using hb, passed⟩
  | cons b run =>
    have first := runs_append (List.cons_ne_nil b run) hr ha
    exact Or.inr ⟨blanks, b :: run, after, rfl, hb, ha, passed.trans first⟩

/-- The bytes behind a lexeme look alike to it: they begin with the same byte or with a blank. -/
def LooksAlike (after after' : List UInt8) : Prop :=
  ∀ b ∈ after'.head?, isBlank b ∨ after.head? = some b

/-- What begins a run in one place begins a run wherever the runs are the same. -/
theorem exists_of_runs_eq {lexeme : List UInt8} (hn : lexeme ≠ [])
    (hl : ∀ b ∈ lexeme, isBlank b = false) (same : runs (lexeme ++ after) = runs bytes) :
    ∃ blanks after', bytes = blanks ++ (lexeme ++ after') ∧ (∀ b ∈ blanks, isBlank b) ∧
      runs after = runs after' ∧ LooksAlike after after' := by
  obtain ⟨more, rest, rfl, hm, hr⟩ := exists_run (fun b => !isBlank b) after
  simp only [Bool.not_eq_true', Bool.not_eq_false'] at hm hr
  have solid : ∀ b ∈ lexeme ++ more, isBlank b = false :=
    fun b hb => (List.mem_append.1 hb).elim (hl b) (hm b)
  have whole := runs_append (by simp [hn]) solid hr
  rw [← List.append_assoc, whole] at same
  rcases exists_first_run bytes with ⟨-, none⟩ | ⟨blanks, run, rest', rfl, hb, hr', first⟩
  · rw [none] at same
    cases same
  rw [first] at same
  obtain ⟨rfl, behind⟩ := List.cons.inj same
  refine ⟨blanks, more ++ rest', by simp only [List.append_assoc], hb, ?_⟩
  cases more with
  | nil => exact ⟨behind, fun b head => Or.inl (hr' b head)⟩
  | cons c more =>
    constructor
    · rw [runs_append (List.cons_ne_nil c more) hm hr, behind,
        runs_append (List.cons_ne_nil c more) hm hr']
    · exact fun b head => Or.inr head

end Runs

/-- A lexeme ends where nothing but blanks has changed behind it. -/
theorem Complete.of_looksAlike {lexeme after after' : List UInt8} {kind : Kind}
    (h : Complete lexeme kind after) (alike : LooksAlike after after') :
    Complete lexeme kind after' := by
  refine ⟨h.whole, ?_⟩
  intro b hb
  rcases alike b hb with blank | same
  · exact Kind.takes_eq_false_of_isBlank blank kind
  · exact h.ends b same

/-- The runs decide the kinds and the texts. -/
theorem Lexes.map_entry_eq {offset offset' : Nat} {bytes bytes' : List UInt8} {ts us : List Token}
    (h : Lexes offset bytes ts) (h' : Lexes offset' bytes' us) (same : runs bytes = runs bytes') :
    ts.map Token.entry = us.map Token.entry := by
  induction h generalizing offset' bytes' us with
  | @done offset blanks hb =>
    have none : runs blanks = [] := by simpa [runs] using runs_blanks_append hb []
    rcases exists_first_run bytes' with ⟨blank, -⟩ | ⟨_, run, after, -, -, -, first⟩
    · rw [h'.eq_eof blank]
      rfl
    · rw [← same, none] at first
      cases first
  | @token offset blanks lexeme after kind ts hb hl longest tail ih =>
    have complete := longest.complete
    have solid := complete.whole.isBlank_eq_false hl
    rw [runs_blanks_append hb] at same
    obtain ⟨blanks', after', rfl, hb', rest, alike⟩ :=
      exists_of_runs_eq complete.whole.ne_nil solid same
    obtain ⟨us, rfl, behind⟩ :=
      h'.exists_tail hb' hl (complete.of_looksAlike alike).longest
    rw [List.map_cons, List.map_cons, ih behind rest]
    rfl

section Exchange

variable {a b : List UInt8}

theorem Respaced.exists_append {front rest : List UInt8} (h : Respaced a (front ++ rest)) :
    ∃ front' rest', a = front' ++ rest' ∧ Respaced front' front ∧ Respaced rest' rest :=
  ⟨_, _, (List.take_append_drop front.length a).symm, List.forall₂_take_append a front rest h,
    List.forall₂_drop_append a front rest h⟩

theorem Respaced.isBlank (h : Respaced a b) (hb : ∀ x ∈ b, isBlank x) : ∀ x ∈ a, isBlank x := by
  induction h with
  | nil => simp
  | cons step _ ih =>
    obtain ⟨first, others⟩ := List.forall_mem_cons.1 hb
    refine List.forall_mem_cons.2 ⟨?_, ih others⟩
    rcases step with rfl | ⟨blank, -⟩
    · exact first
    · exact blank

theorem Respaced.eq_of_solid (h : Respaced a b) (hb : ∀ x ∈ b, Alphabet.isBlank x = false) :
    a = b := by
  induction h with
  | nil => rfl
  | cons step _ ih =>
    obtain ⟨first, others⟩ := List.forall_mem_cons.1 hb
    rcases step with rfl | ⟨-, blank⟩
    · rw [ih others]
    · rw [first] at blank
      cases blank

theorem Respaced.looksAlike (h : Respaced a b) : LooksAlike b a := by
  cases h with
  | nil => nofun
  | cons step _ =>
    intro x head
    obtain rfl := Option.some.inj head
    rcases step with rfl | ⟨blank, -⟩
    · exact Or.inr rfl
    · exact Or.inl blank

/-- A derivation goes through with other blanks in the places of the blanks. -/
theorem Lexes.respaced {offset : Nat} {ts : List Token} (h : Lexes offset b ts)
    (same : Respaced a b) : Lexes offset a ts := by
  induction h generalizing a with
  | @done offset blanks hb =>
    rw [← List.Forall₂.length_eq same]
    exact .done (same.isBlank hb)
  | @token offset blanks lexeme after kind ts hb hl longest tail ih =>
    have complete := longest.complete
    obtain ⟨blanks', rest, rfl, gap, rest_same⟩ := same.exists_append
    obtain ⟨lexeme', after', rfl, front, behind⟩ := rest_same.exists_append
    obtain rfl := front.eq_of_solid (complete.whole.isBlank_eq_false hl)
    have other := (complete.of_looksAlike behind.looksAlike).longest
    rw [← List.Forall₂.length_eq gap]
    refine .token (gap.isBlank hb) hl other ?_
    rw [List.Forall₂.length_eq gap]
    exact ih behind

end Exchange

namespace Listing

/-- Two listings end alike. A denied token may stand at another offset. -/
inductive EndsAlike : Except Fault Nat → Except Fault Nat → Prop where
  | listed (n : Nat) : EndsAlike (.ok n) (.ok n)
  | denied (text : Text) (i j : Nat) :
      EndsAlike (.error (.illegalToken text i)) (.error (.illegalToken text j))
  | refused (cause : Cause) : EndsAlike (.error (.unwritable cause)) (.error (.unwritable cause))

theorem EndsAlike.map {r r' : Except Fault Nat} (h : EndsAlike r r') (f : Nat → Nat) :
    EndsAlike (r.map f) (r'.map f) := by
  cases h with
  | listed n => exact .listed (f n)
  | denied text i j => exact .denied text i j
  | refused cause => exact .refused cause

/-- The offsets of the tokens leave no trace in what is written. -/
theorem ofTokens_entry (o : Options) (sink : Sink) {ts us : List Token}
    (same : ts.map Token.entry = us.map Token.entry) :
    (ofTokens o sink ts).bytes = (ofTokens o sink us).bytes ∧
      EndsAlike (ofTokens o sink ts).result (ofTokens o sink us).result := by
  induction ts generalizing us sink with
  | nil =>
    cases us with
    | nil => exact ⟨rfl, .listed 0⟩
    | cons u us => cases same
  | cons t ts ih =>
    cases us with
    | nil => cases same
    | cons u us =>
      obtain ⟨head, tail⟩ := List.cons.inj same
      have kinds : t.kind = u.kind := congrArg Prod.fst head
      have texts : t.text = u.text := congrArg Prod.snd head
      have closing : t.isEof = u.isEof := by simp only [Token.isEof, kinds]
      have illegal : t.isIllegal = u.isIllegal := by simp only [Token.isIllegal, kinds]
      -- Both write the same pieces, so they leave the sink alike.
      have pieces : linePieces o t = linePieces o u := by
        simp only [linePieces, Token.coloured, Token.plainPieces, kinds, texts]
      simp only [ofTokens, closing, illegal, pieces, texts]
      split
      · exact ⟨rfl, .listed 0⟩
      split
      · exact ⟨rfl, .denied _ _ _⟩
      split
      · exact ⟨rfl, .refused _⟩
      split
      · exact ⟨rfl, .listed 1⟩
      · rename_i taken next _ _
        obtain ⟨bytes, result⟩ := ih next tail
        exact ⟨congrArg (taken ++ ·) bytes, result.map _⟩

end Listing

/-- Sources with the same runs have the same kinds and texts and the same listings into any sink;
where only blanks are exchanged the spans are the same too. -/
theorem tokenize_respaced (a b : Text) :
    (runs a.utf8 = runs b.utf8 →
      (tokenize a).map Token.entry = (tokenize b).map Token.entry ∧
        ∀ (o : Listing.Options) (sink : Sink),
          (Listing.report o sink a).bytes = (Listing.report o sink b).bytes ∧
            Listing.EndsAlike (Listing.report o sink a).result (Listing.report o sink b).result) ∧
      (Respaced a.utf8 b.utf8 → tokenize a = tokenize b) := by
  constructor
  · intro same
    have entries := (lexes_tokenize a).map_entry_eq (lexes_tokenize b) same
    exact ⟨entries, fun o sink => Listing.ofTokens_entry o sink entries⟩
  · intro same
    exact (lexes_tokenize a).unique ((lexes_tokenize b).respaced same)

/-- Other line ends and blanks at both ends, and then other blanks in the same places. -/
theorem tokenize_respaced_crlf :
    runs (Text.utf8 "x é\n==".toList) = runs (Text.utf8 "\tx é\r\n== ".toList) ∧
      (tokenize "x é\n==".toList).map Token.entry =
        (tokenize "\tx é\r\n== ".toList).map Token.entry ∧
      Respaced (Text.utf8 "x é\n==".toList) (Text.utf8 "x\té\r==".toList) ∧
      tokenize "x é\n==".toList = tokenize "x\té\r==".toList := by
  have same : runs (Text.utf8 "x é\n==".toList) = runs (Text.utf8 "\tx é\r\n== ".toList) := by
    decide
  have exchanged : Respaced (Text.utf8 "x é\n==".toList) (Text.utf8 "x\té\r==".toList) := by
    decide
  exact ⟨same, ((tokenize_respaced _ _).1 same).1, exchanged, (tokenize_respaced _ _).2 exchanged⟩

end LexerConsole
