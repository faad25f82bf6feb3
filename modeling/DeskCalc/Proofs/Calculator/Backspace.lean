import DeskCalc.Proofs.Calculator.Run
import DeskCalc.Proofs.Text.Clusters

/-!
# Taking back

The backspace removes what a reader takes for one character. It cuts the buffer anew each time, and
still takes off one piece of the first cut after another. This file fixes

* `keypadCharacters`, `segmented_keypad`: the characters of the keypad never join;
* `backspace_eq`: one backspace, for any pieces that the buffer falls into;
* **`run_backspaces`**: any number of them; and a character that was typed is taken back whole.
-/

namespace DeskCalc

open Text

/-- The characters that the buttons of the keypad append. -/
def keypadCharacters : List Char := "0123456789.+-*/()".toList

theorem kind_eq_other {c : Char} (h : c ∈ keypadCharacters) : Kind.of c = .other := by
  have hall : keypadCharacters.all (Kind.of · == .other) = true := by decide +kernel
  exact beq_iff_eq.1 (List.all_eq_true.1 hall c h)

/-- A text from the keypad falls into its characters. -/
theorem segmented_keypad {text : List Char} (h : ∀ c ∈ text, c ∈ keypadCharacters) :
    Segmented text (text.map fun c => [c]) :=
  segmented_singletons fun c hc => kind_eq_other (h c hc)

namespace State

theorem backspace_eq (s : State) {pieces : List (List Char)}
    (h : Segmented s.buffer.toList pieces) :
    s.backspace = { s with buffer := String.ofList pieces.dropLast.flatten } := by
  rw [backspace, h.dropLastCluster_eq]

/-- Backspaces take off the pieces of the buffer from the end, and nothing else changes. -/
theorem run_replicate_backspace {s : State} {pieces : List (List Char)}
    (h : Segmented s.buffer.toList pieces) (k : Nat) :
    s.run (List.replicate k .backspace) =
      { s with buffer := String.ofList (pieces.take (pieces.length - k)).flatten } := by
  induction k with
  | zero =>
    have hbuffer : String.ofList pieces.flatten = s.buffer := by
      rw [h.flatten_eq, String.ofList_toList]
    simp [run, hbuffer]
  | succ k ih =>
    rw [List.replicate_succ', run_append, ih]
    let shorter : State :=
      { s with buffer := String.ofList (pieces.take (pieces.length - k)).flatten }
    have hleft : Segmented shorter.buffer.toList (pieces.take (pieces.length - k)) := by
      rw [String.toList_ofList]
      exact h.take _
    have hlast : (pieces.take (pieces.length - k)).dropLast =
        pieces.take (pieces.length - (k + 1)) := by
      rw [List.dropLast_eq_take, List.take_take, List.length_take]
      congr 1
      omega
    show shorter.backspace = _
    rw [backspace_eq shorter hleft, hlast]

/-- A character of the keypad that is typed behind others is taken back by one backspace. -/
theorem backspace_append {s : State} {c : Char} (hmode : s.mode = .input)
    (hbuffer : ∀ d ∈ s.buffer.toList, d ∈ keypadCharacters) (hc : c ∈ keypadCharacters)
    (continuesResult : Bool) :
    ((s.append (String.singleton c) continuesResult).backspace).buffer = s.buffer := by
  have hlist : (s.append (String.singleton c) continuesResult).buffer.toList =
      s.buffer.toList ++ [c] := by
    simp [append, hmode]
  have hkeys : ∀ d ∈ s.buffer.toList ++ [c], d ∈ keypadCharacters := by
    intro d hd
    rcases List.mem_append.1 hd with hd | hd
    · exact hbuffer d hd
    · exact List.mem_singleton.1 hd ▸ hc
  have hcut : Segmented (s.append (String.singleton c) continuesResult).buffer.toList
      (s.buffer.toList.map (fun d => [d]) ++ [[c]]) := by
    rw [hlist]
    simpa using segmented_keypad hkeys
  rw [backspace_eq _ hcut, List.dropLast_concat, ← List.flatMap_def, List.flatMap_singleton']
  exact String.ofList_toList

/-- **Backspaces peel off the clusters of the buffer one by one.** The buffer falls into pieces by
    the joining rules; `k` backspaces leave all but the last `k` of them, at which the shorter buffer
    falls apart as before, and change nothing else. What one press of a character key adds to a text
    from the keypad, one backspace takes away. -/
theorem run_backspaces (s : State) :
    (∃ pieces, Segmented s.buffer.toList pieces) ∧
    (∀ pieces, Segmented s.buffer.toList pieces → ∀ k,
      s.run (List.replicate k .backspace) =
          { s with buffer := String.ofList (pieces.take (pieces.length - k)).flatten } ∧
        Segmented (s.run (List.replicate k .backspace)).buffer.toList
          (pieces.take (pieces.length - k))) ∧
    (s.mode = .input → (∀ d ∈ s.buffer.toList, d ∈ keypadCharacters) →
      ∀ c ∈ keypadCharacters, ∀ continuesResult,
        (s.run [.append (String.singleton c) continuesResult, .backspace]).buffer = s.buffer) := by
  refine ⟨⟨_, segmented_clusters _⟩, fun pieces h k => ?_, fun hmode hbuffer c hc continues => ?_⟩
  · have hrun := run_replicate_backspace h k
    refine ⟨hrun, ?_⟩
    rw [hrun, String.toList_ofList]
    exact h.take _
  · exact backspace_append hmode hbuffer hc continues

/-- Two flags behind a seven, with a backspace for each; and a plus behind a seven, taken back. -/
theorem run_backspaces_flags :
    (⟨"7🇩🇪🇫🇷", [], .input, ""⟩ : State).run [.backspace, .backspace] = ⟨"7", [], .input, ""⟩ ∧
    Segmented "7🇩🇪🇫🇷".toList [['7'], ['🇩', '🇪'], ['🇫', '🇷']] ∧
    ((⟨"7", [], .input, ""⟩ : State).run [.append "+" true, .backspace]).buffer = "7" := by
  have hcut : Segmented "7🇩🇪🇫🇷".toList [['7'], ['🇩', '🇪'], ['🇫', '🇷']] :=
    segmented_iff.2 (by decide +kernel)
  refine ⟨?_, hcut, ?_⟩
  · exact ((run_backspaces ⟨"7🇩🇪🇫🇷", [], .input, ""⟩).2.1 _ hcut 2).1
  · have hseven : ∀ d ∈ "7".toList, d ∈ keypadCharacters :=
      List.forall_mem_singleton.2 (by decide)
    exact (run_backspaces ⟨"7", [], .input, ""⟩).2.2 rfl hseven '+' (by decide) true

end State

end DeskCalc
