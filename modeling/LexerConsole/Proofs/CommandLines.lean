import LexerConsole.Invocation.Arguments
import Mathlib.Data.List.Nodup

/-!
# Command lines that name a source

Switches stand before and behind the code or the file name, in any order, each at most once. Such
a command line is always understood, and it asks for a run over that source with those switches.

A file name is held back until the next argument, so what a draft amounts to is said of the draft
behind `resolve`; one argument changes that by a switch or by a source.
-/

namespace LexerConsole

/-- A switch as it is typed. -/
def Switch.flag (w : Switch) : Text :=
  "--".toList ++ w.name

namespace Arguments

/-- How an argument names a source: as code behind its option, whatever the code is, or as a
file. -/
inductive Names : Text → Source → Prop where
  | code (text : Text) : Names ("--eval=".toList ++ text) (.code text)
  | file {path : Text} (given : path ≠ []) (value : isValue path) : Names path (.file path)

/-- A draft that still reads options, once what it holds back is taken up. -/
structure Amounts (d : Draft) (sources : List Source) (switches : List Switch) : Prop where
  plain : d.plain = false
  resolved : resolve d = .ok ⟨sources, none, switches, false⟩

section Step

variable {d : Draft} {sources : List Source} {switches : List Switch}

theorem amounts_of_resolved (sources : List Source) (switches : List Switch) :
    Amounts ⟨sources, none, switches, false⟩ sources switches :=
  ⟨rfl, rfl⟩

theorem Amounts.stop (h : Amounts d sources switches) :
    Arguments.resolved d = .ok ⟨sources, none, switches, false⟩ := by
  rw [Arguments.resolved, h.resolved]
  rfl

/-- Without a source nothing is held back. -/
theorem Amounts.eq_of_nil (h : Amounts d [] switches) : d = ⟨[], none, switches, false⟩ := by
  obtain ⟨taken, pending, set, plain⟩ := d
  obtain rfl : plain = false := h.plain
  have resolved := h.resolved
  cases pending with
  | none => exact Except.ok.inj resolved
  | some pending =>
    exfalso
    cases pending with
    | code text =>
      cases text with
      | none => cases resolved
      | some text =>
        simp only [resolve, addCode] at resolved
        split at resolved
        · cases resolved
        · have made := congrArg Draft.sources (Except.ok.inj resolved)
          simp at made
    | file path =>
      simp only [resolve, addFile] at resolved
      split at resolved
      · cases resolved
      · have made := congrArg Draft.sources (Except.ok.inj resolved)
        simp at made

/-- An argument behind two dashes is a long option, with a value where an equals sign stands. -/
theorem step_long (plain : d.plain = false) {name : Text} (named : name ≠ []) (h : '=' ∉ name) :
    step d ("--".toList ++ name) = longOption d name none ∧
      ∀ value, step d ("--".toList ++ (name ++ '=' :: value)) = longOption d name (some value) := by
  have inside : ∀ c ∈ name, decide (c ≠ '=') := by
    intro c hc
    rw [decide_eq_true_eq]
    rintro rfl
    exact h hc
  obtain ⟨c, rest, rfl⟩ := List.exists_cons_of_ne_nil named
  constructor
  · obtain ⟨front, behind⟩ : (c :: rest ++ []).takeWhile (· ≠ '=') = c :: rest ∧
        (c :: rest ++ []).dropWhile (· ≠ '=') = [] := Text.takeWhile_run inside (by simp)
    rw [List.append_nil] at front behind
    show step d ('-' :: '-' :: c :: rest) = _
    have option : isValue ('-' :: '-' :: c :: rest) = false := rfl
    simp only [step, plain, option, front, behind, Bool.false_eq_true, if_false]
  · intro value
    obtain ⟨front, behind⟩ : (c :: (rest ++ '=' :: value)).takeWhile (· ≠ '=') = c :: rest ∧
        (c :: (rest ++ '=' :: value)).dropWhile (· ≠ '=') = '=' :: value :=
      Text.takeWhile_run inside (by simp)
    show step d ('-' :: '-' :: c :: (rest ++ '=' :: value)) = _
    have option : isValue ('-' :: '-' :: c :: (rest ++ '=' :: value)) = false := rfl
    simp only [step, plain, option, front, behind, Bool.false_eq_true, if_false]

theorem step_flag (h : Amounts d sources switches) {w : Switch} (new : w ∉ switches) :
    step d w.flag = .ok ⟨sources, none, switches ++ [w], false⟩ := by
  have absent : switches.contains w = false := by simpa using new
  have named : w.name ≠ [] ∧ '=' ∉ w.name := by cases w <;> decide
  have option : longOption d w.name none = (do
      let d ← Arguments.resolved d
      if d.switches.contains w then throw (.fault (.repeated w.flag))
      return { d with switches := d.switches ++ [w] }) := by
    cases w <;> rfl
  rw [Switch.flag, (step_long h.plain named.1 named.2).1, option, h.stop]
  simp [bind, Except.bind, new, pure, Except.pure]

theorem step_names {argument : Text} {source : Source} (names : Names argument source)
    (h : Amounts d [] switches) : ∃ e, step d argument = .ok e ∧ Amounts e [source] switches := by
  obtain rfl := h.eq_of_nil
  cases names with
  | code text =>
    have option : step ⟨[], none, switches, false⟩ ("--".toList ++ ("eval".toList ++ '=' :: text)) =
        longOption ⟨[], none, switches, false⟩ "eval".toList (some text) :=
      (step_long rfl (by decide) (by decide)).2 text
    exact ⟨_, option, amounts_of_resolved _ switches⟩
  | file given value =>
    refine ⟨⟨[], some (.file argument), switches, false⟩, ?_, rfl, ?_⟩
    · rw [step.eq_def, value]
      rfl
    · show addFile _ argument = _
      rw [addFile, if_neg (by simpa using given)]
      rfl

theorem finish_amounts {source : Source} (h : Amounts d [source] switches) :
    finish d = .ok (.run (some source) switches) := by
  rw [finish, h.resolved]
  cases source with
  | code _ => rfl
  | file _ => rfl

end Step

section Run

variable {d : Draft} {sources : List Source} {switches : List Switch}

theorem foldlM_flags {flags : List Switch} (h : Amounts d sources switches)
    (distinct : (switches ++ flags).Nodup) :
    ∃ e, (flags.map Switch.flag).foldlM step d = .ok e ∧ Amounts e sources (switches ++ flags) := by
  induction flags generalizing d switches with
  | nil => exact ⟨d, rfl, (List.append_nil switches).symm ▸ h⟩
  | cons w flags ih =>
    have new : w ∉ switches :=
      fun hw => (List.nodup_append.1 distinct).2.2 w hw w List.mem_cons_self rfl
    rw [List.append_cons] at distinct ⊢
    obtain ⟨e, rest, amounts⟩ := ih (amounts_of_resolved sources _) distinct
    refine ⟨e, ?_, amounts⟩
    rw [List.map_cons, List.foldlM_cons, step_flag h new]
    exact rest

/-- The place of a source among the switches does not matter. -/
theorem parse_names {argument : Text} {source : Source} (names : Names argument source)
    {before after : List Switch} (distinct : (before ++ after).Nodup) :
    parse (before.map Switch.flag ++ argument :: after.map Switch.flag) =
      .ok (.run (some source) (before ++ after)) := by
  obtain ⟨d, front, amounts⟩ := foldlM_flags (amounts_of_resolved [] [])
    (List.nodup_append.1 distinct).1
  obtain ⟨e, middle, amounts⟩ := step_names names amounts
  obtain ⟨f, behind, amounts⟩ := foldlM_flags amounts distinct
  have read : (before.map Switch.flag ++ argument :: after.map Switch.flag).foldlM step
      Draft.start = .ok f := by
    rw [List.foldlM_append, Draft.start, front]
    simp only [bind, Except.bind, List.foldlM_cons, middle, behind]
  rw [parse, read]
  exact finish_amounts amounts

end Run
end Arguments
end LexerConsole
