import Mathlib.Data.List.Basic
import Mathlib.Data.List.Infix
import DeskCalc.Proofs.Calculator.Result
import DeskCalc.Proofs.Calculator.Run

/-!
# The log of results

The history is a log that only grows: an evaluation with a finite value puts one entry in front, and
nothing else touches it. Whoever reads an entry gets the expression and the result back, since
neither contains an equals sign. What result mode shows comes from the newest entry, whatever was
deleted since. This file fixes

* `Logged`: the entry of an expression and its value, and `Logged.split`: it reads in one way only;
* `Newest`: the result of the newest entry;
* `State.Settled`: what every command keeps about the error, the buffer and the newest entry;
* **`error_alone_and_result_logged`**: errors stand alone, and result mode shows a logged result;
* `State.results`: the expressions with a finite value that some commands evaluate;
* **`history_honest_and_growing`**: what the entries say, and what a run adds to them.
-/

namespace DeskCalc

/-! ## 1. Equals signs -/

theorem equals_not_mem_of_evaluate {text : String} {v : Binary64}
    (h : Expression.evaluate text = .ok v) : '=' ∉ text.toList := by
  obtain ⟨tree, hparse, -⟩ := bind_eq_ok.1 h
  obtain ⟨scan, hscan, -⟩ := bind_eq_ok.1 hparse
  obtain ⟨lexemes, hlexemes, -⟩ := map_eq_ok.1 hscan
  intro hmem
  rcases Lexeme.readable_of_scanFrom hlexemes _ hmem with hblank | hnumeral | ⟨token, htoken⟩
  · exact absurd hblank (by decide)
  · exact absurd hnumeral (by decide)
  · cases htoken

theorem equals_not_mem_plain {v : Binary64} (h : v.isFinite = true) : '=' ∉ v.plain.toList := by
  obtain ⟨body, hbody, hplain⟩ := Binary64.signed_plain h
  have hnot : '=' ∉ body := by
    intro hmem
    rcases hbody.isDigit_or_point hmem with hdigit | hpoint
    · exact absurd hdigit (by decide)
    · exact absurd hpoint (by decide)
  rcases hplain with hplain | hplain
  · rwa [hplain]
  · rw [hplain, List.mem_cons, not_or]
    exact ⟨by decide, hnot⟩

/-! ## 2. Entries -/

/-- `text` is the entry for an expression with a finite value. -/
structure Logged (text expression : String) (v : Binary64) : Prop where
  finite : v.isFinite = true
  value : Expression.evaluate expression = .ok v
  written : text = expression ++ " = " ++ v.plain

/-- **An entry reads in one way only.** -/
theorem Logged.split {text expression left right : String} {v : Binary64}
    (h : Logged text expression v) (hsplit : text = left ++ " = " ++ right) :
    left = expression ∧ right = v.plain := by
  have hcut (a b : String) :
      (a ++ " = " ++ b).toList = (a.toList ++ [' ']) ++ '=' :: (' ' :: b.toList) := by
    simp
  have hbefore : '=' ∉ expression.toList ++ [' '] := by
    simpa using equals_not_mem_of_evaluate h.value
  have hbehind : '=' ∉ ' ' :: v.plain.toList := by
    simpa using equals_not_mem_plain h.finite
  have hlists : (left.toList ++ [' ']) ++ '=' :: (' ' :: right.toList) =
      (expression.toList ++ [' ']) ++ '=' :: (' ' :: v.plain.toList) := by
    rw [← hcut, ← hcut, ← hsplit, h.written]
  -- the equals sign of the entry is the only one, so both cuts are at its place
  obtain ⟨hleft, -, hright⟩ := (List.append_cons_inj_of_notMem hbefore hbehind).1 hlists.symm
  exact ⟨String.toList_inj.1 (List.append_cancel_right hleft).symm,
    String.toList_inj.1 (List.cons.inj hright).2.symm⟩

/-- The result of the newest entry. Before the first one it is zero. -/
inductive Newest : List String → String → Prop where
  | zero : Newest [] "0"
  | logged {text expression : String} {v : Binary64} {earlier : List String}
      (h : Logged text expression v) : Newest (text :: earlier) v.plain

/-! ## 3. What every command keeps -/

theorem dropLastCluster_prefix (text : List Char) : Text.dropLastCluster text <+: text := by
  have h := (List.dropLast_prefix (Text.clusters text)).flatten
  rwa [Text.flatten_clusters] at h

namespace State

/-- An error stands alone, and what result mode shows begins the result of the newest entry. -/
structure Settled (s : State) : Prop where
  alone : s.error ≠ "" → s.buffer = "" ∧ s.mode = .result
  newest : ∃ result, Newest s.history result ∧
    (s.mode = .result → s.buffer.toList <+: result.toList)

/-- A shorter buffer keeps a state settled, if nothing else changes. -/
theorem Settled.shorten {s : State} (h : s.Settled) {buffer : String}
    (hbegins : buffer.toList <+: s.buffer.toList) : { s with buffer := buffer }.Settled where
  alone herror := by
    obtain ⟨hempty, hmode⟩ := h.alone herror
    rw [hempty] at hbegins
    exact ⟨String.toList_inj.1 (List.prefix_nil.1 hbegins), hmode⟩
  newest := by
    obtain ⟨result, hnewest, hshown⟩ := h.newest
    exact ⟨result, hnewest, fun hmode => hbegins.trans (hshown hmode)⟩

theorem Settled.append {s : State} (h : s.Settled) (token : String) (continuesResult : Bool) :
    (s.append token continuesResult).Settled := by
  obtain ⟨result, hnewest, -⟩ := h.newest
  unfold State.append
  split
  · exact ⟨fun herror => absurd rfl herror, result, hnewest, fun hmode => nomatch hmode⟩
  · rename_i hinput
    refine ⟨fun herror => absurd rfl herror, result, hnewest, fun hmode => ?_⟩
    rw [hinput] at hmode
    cases hmode

theorem Settled.evaluate {s : State} (h : s.Settled) : s.evaluate.Settled := by
  rcases s.evaluate_cases with ⟨v, hv, hvalue, hs⟩ | ⟨message, -, hs⟩
  · rw [hs]
    exact ⟨fun herror => absurd rfl herror, v.plain, .logged ⟨hv, hvalue, rfl⟩,
      fun _ => List.prefix_rfl⟩
  · obtain ⟨result, hnewest, -⟩ := h.newest
    rw [hs]
    exact ⟨fun _ => ⟨rfl, rfl⟩, result, hnewest, fun _ => List.nil_prefix⟩

theorem Settled.apply {s : State} (h : s.Settled) (command : Command) :
    (s.apply command).Settled := by
  cases command with
  | append token continuesResult => exact h.append token continuesResult
  | backspace =>
    refine h.shorten ?_
    rw [String.toList_ofList]
    exact dropLastCluster_prefix _
  | clear => exact h.shorten List.nil_prefix
  | evaluate => exact h.evaluate

theorem settled_initial : ({} : State).Settled where
  alone herror := absurd rfl herror
  newest := ⟨"0", .zero, fun _ => List.prefix_rfl⟩

end State

/-- **An error stands alone, and result mode shows a logged result** or a beginning of it, never what
    was typed, in every state that commands lead to. -/
theorem error_alone_and_result_logged {s : State} {commands : List Command}
    (reached : s = ({} : State).run commands) :
    (s.error ≠ "" → s.buffer = "" ∧ s.mode = .result) ∧
    (s.mode = .result → ∃ result, Newest s.history result ∧
      s.buffer.toList <+: result.toList) := by
  have h : s.Settled := by
    rw [reached]
    exact State.run_invariant (fun _ command hs => hs.apply command) State.settled_initial commands
  obtain ⟨result, hnewest, hshown⟩ := h.newest
  exact ⟨h.alone, fun hmode => ⟨result, hnewest, hshown hmode⟩⟩

/-- A result is shortened, and then an evaluation fails. -/
theorem quarter_shortened_then_failed :
    (∃ result, Newest ["1/4 = 0.25"] result ∧ "0.2".toList <+: result.toList) ∧
    (({} : State).run [.append "(" false, .evaluate]).buffer = "" := by
  have hshortened : (⟨"0.2", ["1/4 = 0.25"], .result, ""⟩ : State) =
      ({} : State).run [.append "1" false, .append "/" true, .append "4" false, .evaluate,
        .backspace] := by decide +kernel
  have hfailed : (({} : State).run [.append "(" false, .evaluate]).error ≠ "" := by
    decide +kernel
  exact ⟨(error_alone_and_result_logged hshortened).2 rfl,
    ((error_alone_and_result_logged rfl).1 hfailed).1⟩

/-! ## 4. What a run adds -/

namespace State

/-- What a command logs: the expression that it evaluates, if its value is finite. -/
def result? (s : State) : Command → Option (String × Binary64)
  | .evaluate => ((Expression.evaluate s.buffer).toOption.filter (·.isFinite)).map (s.buffer, ·)
  | _ => none

/-- The expressions with a finite value that commands evaluate, the first one first. -/
def results (s : State) : List Command → List (String × Binary64)
  | [] => []
  | command :: rest => (s.result? command).toList ++ (s.apply command).results rest

/-- The entry of an expression and its value. -/
def entry (result : String × Binary64) : String := result.1 ++ " = " ++ result.2.plain

theorem history_append (s : State) (token : String) (continuesResult : Bool) :
    (s.append token continuesResult).history = s.history := by
  unfold append
  split
  · rfl
  · rfl

theorem history_evaluate (s : State) :
    s.evaluate.history = (s.result? .evaluate).toList.map entry ++ s.history := by
  unfold evaluate result?
  cases Expression.evaluate s.buffer with
  | error fault => rfl
  | ok v => cases v <;> rfl

/-- **A command puts its entry in front of the log**, if it has one, and else leaves it alone. -/
theorem history_apply (s : State) (command : Command) :
    (s.apply command).history = (s.result? command).toList.map entry ++ s.history := by
  cases command with
  | append token continuesResult => exact s.history_append token continuesResult
  | backspace => rfl
  | clear => rfl
  | evaluate => exact s.history_evaluate

theorem history_run (s : State) (commands : List Command) :
    (s.run commands).history = ((s.results commands).map entry).reverse ++ s.history := by
  induction commands generalizing s with
  | nil => rfl
  | cons command rest ih =>
    have hone : ((s.result? command).toList.map entry).reverse =
        (s.result? command).toList.map entry := by
      cases s.result? command <;> rfl
    show ((s.apply command).run rest).history = _
    rw [ih, history_apply]
    simp only [results, List.map_append, List.reverse_append, hone, List.append_assoc]

theorem logged_result? {s : State} {command : Command} {result : String × Binary64}
    (h : s.result? command = some result) : Logged (entry result) result.1 result.2 := by
  cases command with
  | append token continuesResult => cases h
  | backspace => cases h
  | clear => cases h
  | evaluate =>
    obtain ⟨v, hv, rfl⟩ := Option.map_eq_some_iff.1 h
    obtain ⟨hvalue, hfinite⟩ := Option.filter_eq_some_iff.1 hv
    exact ⟨hfinite, eq_ok_of_toOption hvalue, rfl⟩

theorem logged_results {s : State} {commands : List Command} {result : String × Binary64}
    (h : result ∈ s.results commands) : Logged (entry result) result.1 result.2 := by
  induction commands generalizing s with
  | nil => cases h
  | cons command rest ih =>
    rcases List.mem_append.1 h with hfirst | hrest
    · exact logged_result? (Option.mem_toList.1 hfirst)
    · exact ih hrest

end State

/-- **The log is honest and only grows.** Every entry in a state that commands lead to is that of an
    expression with a finite value, and reads in one way only; and a run puts in front, the newest
    first, one entry for each expression with a finite value that it evaluates. -/
theorem history_honest_and_growing (before between : List Command) {s s' : State}
    (reached : s = ({} : State).run before) (later : s' = s.run between) :
    (∀ text ∈ s.history, ∃ expression v, v.isFinite = true ∧
      Expression.evaluate expression = .ok v ∧ text = expression ++ " = " ++ v.plain ∧
      '=' ∉ expression.toList ∧
      ∀ left right, text = left ++ " = " ++ right → left = expression ∧ right = v.plain) ∧
    s'.history = ((s.results between).map State.entry).reverse ++ s.history ∧
    s.history <:+ s'.history ∧
    s'.history.length = s.history.length + (s.results between).length := by
  have hgrown : s'.history = ((s.results between).map State.entry).reverse ++ s.history := by
    rw [later, State.history_run]
  refine ⟨fun text htext => ?_, hgrown, ?_, ?_⟩
  · rw [reached, State.history_run, List.append_nil, List.mem_reverse] at htext
    obtain ⟨⟨expression, v⟩, hresult, rfl⟩ := List.mem_map.1 htext
    have hlogged : Logged _ expression v := State.logged_results hresult
    exact ⟨expression, v, hlogged.finite, hlogged.value, hlogged.written,
      equals_not_mem_of_evaluate hlogged.value, fun left right => hlogged.split⟩
  · rw [hgrown]
    exact List.suffix_append _ _
  · rw [hgrown, List.length_append, List.length_reverse, List.length_map, Nat.add_comm]

/-- Going on with a result adds an entry, and a division by zero behind it adds none. -/
theorem product_logged_and_infinity_not :
    let s := ({} : State).run [.append "2+3" false, .evaluate]
    let s' := s.run [.append "*" true, .append "2" false, .evaluate, .append "1/0" false, .evaluate]
    (∃ expression : String, '=' ∉ expression.toList ∧
      ∀ left right, "2+3 = 5" = left ++ " = " ++ right → left = expression) ∧
    s.history <:+ s'.history ∧ s'.history.length = s.history.length + 1 := by
  intro s s'
  obtain ⟨hentries, -, hsuffix, hlength⟩ := history_honest_and_growing
    [.append "2+3" false, .evaluate]
    [.append "*" true, .append "2" false, .evaluate, .append "1/0" false, .evaluate]
    (rfl : s = _) (rfl : s' = _)
  have hmem : "2+3 = 5" ∈ s.history := by decide +kernel
  obtain ⟨expression, v, -, -, -, hequals, hsplit⟩ := hentries _ hmem
  have hone : (s.results [.append "*" true, .append "2" false, .evaluate, .append "1/0" false,
      .evaluate]).length = 1 := by decide +kernel
  rw [hone] at hlength
  exact ⟨⟨expression, hequals, fun left right h => (hsplit left right h).1⟩, hsuffix, hlength⟩

end DeskCalc
