import DeskCalc.Proofs.Expression.Readers
import DeskCalc.Proofs.Expression.Spelling

/-!
# Blanks say nothing

Readers look at the tokens and pass the places of lexemes on to their faults, so a reading of moved
lexemes is the reading with its places moved. Blanks inside a text move what stands behind them, and
nothing else, if they part no run of digits and points. This file fixes

* `movedReading` and `Follows`: a reading with its places moved, and a reader that gives it;
* `ofScan_moved`: the tree of a scan, and its fault, when its lexemes move;
* `scanFrom_insert_blanks`: the scan of a text with blanks put in.

Main statement: **`parse_insert_blanks`**.
-/

namespace DeskCalc

namespace Expression

/-! ## 1. Readings of moved lexemes -/

variable {move : Nat → Nat}

/-- A reading with its places moved. -/
def movedReading (move : Nat → Nat) (reading : Reading) : Reading :=
  (reading.map fun part => (part.1, part.2.map (Lexeme.moved move))).mapError
    (ExpressionError.moved move)

/-- The second reader reads moved lexemes as the first one reads them in their places. -/
def Follows (move : Nat → Nat) (reader reader' : Reader) : Prop :=
  ∀ input, reader'.run (input.map (Lexeme.moved move)) = movedReading move (reader.run input)

theorem operatorNext_moved (level : Operator → Bool) (input : List Lexeme) :
    operatorNext level (input.map (Lexeme.moved move)) = operatorNext level input := by
  match input with
  | [] => rfl
  | ⟨.operator _, _⟩ :: _ => rfl
  | ⟨.number _, _⟩ :: _ => rfl
  | ⟨.openParen, _⟩ :: _ => rfl
  | ⟨.closeParen, _⟩ :: _ => rfl

theorem chain_follows {reader reader' : Reader} (h : Follows move reader reader')
    (level : Operator → Bool) : Follows move (chain level reader) (chain level reader') := by
  intro input
  rw [run_chain, run_chain, h input]
  cases reader.run input with
  | error fault => rfl
  | ok part =>
    obtain ⟨left, behind⟩ := part
    -- both loops make the same turns
    refine joinFrom_invariant
      (fun tree ahead => joinFrom level reader' left (behind.map (Lexeme.moved move)) =
        joinFrom level reader' tree (ahead.map (Lexeme.moved move)))
      (fun reading => joinFrom level reader' left (behind.map (Lexeme.moved move)) =
        movedReading move reading) ?_ ?_ ?_ rfl
    · intro tree ahead hinv hstop
      rw [hinv, joinFrom_stop (by rwa [operatorNext_moved])]
      rfl
    · intro tree op position rest fault hop hinv hfault
      rw [hinv]
      show joinFrom level reader' tree (⟨.operator op, move position⟩ :: _) = _
      rw [joinFrom_operator hop, h rest, hfault]
      rfl
    · intro tree op position rest right ahead hop hinv hright
      rw [hinv]
      show joinFrom level reader' tree (⟨.operator op, move position⟩ :: _) = _
      rw [joinFrom_operator hop, h rest, hright]
      rfl

theorem operand_follows (move : Nat → Nat) (ending allowance : Nat) :
    Follows move (operand ending allowance) (operand (move ending) allowance) := by
  induction allowance using Nat.strongRecOn with
  | ind allowance ih =>
    intro input
    match input with
    | [] =>
      rw [List.map_nil, run_operand_nil, run_operand_nil]
      rfl
    | ⟨.number numeral, position⟩ :: rest =>
      rw [List.map_cons, run_operand_number, Lexeme.moved, run_operand_number]
      rfl
    | ⟨.closeParen, position⟩ :: rest =>
      rw [List.map_cons, run_operand_close, Lexeme.moved, run_operand_close]
      rfl
    | ⟨.openParen, position⟩ :: rest =>
      rw [List.map_cons, Lexeme.moved]
      rcases Nat.lt_or_ge allowance 4 with hlt | hge
      · rw [run_operand_open_short _ _ hlt, run_operand_open_short _ _ hlt]
        rfl
      · obtain ⟨allowance, rfl⟩ := Nat.exists_eq_add_of_le' hge
        have hsum : Follows move (sum (operand ending allowance))
            (sum (operand (move ending) allowance)) :=
          chain_follows (chain_follows (ih allowance (by omega)) _) _
        rw [run_operand_open, run_operand_open, hsum rest]
        cases (sum (operand ending allowance)).run rest with
        | error fault => rfl
        | ok part =>
          obtain ⟨tree, behind⟩ := part
          match behind with
          | [] => rfl
          | ⟨.closeParen, _⟩ :: _ => rfl
          | ⟨.openParen, _⟩ :: _ => rfl
          | ⟨.number _, _⟩ :: _ => rfl
          | ⟨.operator _, _⟩ :: _ => rfl
    | ⟨.operator op, position⟩ :: rest =>
      rw [List.map_cons, Lexeme.moved]
      by_cases hop : op = .subtract
      · subst hop
        cases allowance with
        | zero => rfl
        | succ allowance =>
          rw [run_operand_sign, run_operand_sign, ih allowance (Nat.lt_succ_self _) rest]
          cases (operand ending allowance).run rest <;> rfl
      · rw [run_operand_operator _ _ hop, run_operand_operator _ _ hop]
        rfl

/-- **A scan whose lexemes move has the same tree, or the same fault at its moved place.** -/
theorem ofScan_moved (move : Nat → Nat) (scan : Scan) :
    ofScan ⟨scan.lexemes.map (Lexeme.moved move), move scan.ending⟩ =
      (ofScan scan).mapError (ExpressionError.moved move) := by
  by_cases hne : scan.lexemes = []
  · rw [ofScan_empty hne, ofScan_empty (by simp [hne])]
    rfl
  · have hsum : Follows move (sum (operand scan.ending nestingAllowance))
        (sum (operand (move scan.ending) nestingAllowance)) :=
      chain_follows (chain_follows (operand_follows move _ _) _) _
    rw [ofScan_eq hne, ofScan_eq (by simpa using hne), hsum scan.lexemes]
    cases (sum (operand scan.ending nestingAllowance)).run scan.lexemes with
    | error fault => rfl
    | ok part =>
      obtain ⟨tree, behind⟩ := part
      match behind with
      | [] => rfl
      | ⟨.closeParen, _⟩ :: _ => rfl
      | ⟨.openParen, _⟩ :: _ => rfl
      | ⟨.number _, _⟩ :: _ => rfl
      | ⟨.operator _, _⟩ :: _ => rfl

end Expression

/-! ## 2. Blanks in a text -/

namespace Lexeme

/-- Where a place goes when `length` characters are put in at `start`. -/
def pushed (start length place : Nat) : Nat := if place < start then place else place + length

theorem scanFrom_blanks {blanks : List Char} (h : ∀ c ∈ blanks, Text.isBlank c = true)
    (position : Nat) (behind : List Char) :
    scanFrom position (blanks ++ behind) = scanFrom (position + blanks.length) behind := by
  induction blanks generalizing position with
  | nil => rfl
  | cons c blanks ih =>
    obtain ⟨hc, hblanks⟩ := List.forall_mem_cons.1 h
    rw [List.cons_append, scanFrom_blank hc, ih hblanks, List.length_cons, Nat.add_assoc,
      Nat.add_comm 1]

theorem Apart.blanks {before behind blanks : List Char} (happart : Apart before behind)
    (h : ∀ c ∈ blanks, Text.isBlank c = true) : Apart before (blanks ++ behind) := by
  cases blanks with
  | nil => exact happart
  | cons c blanks =>
    exact apart_cons (isNumeral_of_isBlank (h c (List.mem_cons_self ..))) before (blanks ++ behind)

theorem relocate_bind (move : Nat → Nat) (scanned rest : Except ExpressionError (List Lexeme)) :
    relocate move (scanned.bind fun lexemes => rest.map (lexemes ++ ·)) =
      (relocate move scanned).bind fun lexemes => (relocate move rest).map (lexemes ++ ·) := by
  cases scanned with
  | error fault => rfl
  | ok lexemes =>
    cases rest with
    | error fault => rfl
    | ok more => exact congrArg Except.ok List.map_append

/-- **Blanks push the lexemes behind them**, or the fault that is found there. -/
theorem scanFrom_insert_blanks {before behind blanks : List Char} (happart : Apart before behind)
    (hblanks : ∀ c ∈ blanks, Text.isBlank c = true) :
    scanFrom 0 (before ++ (blanks ++ behind)) =
      relocate (pushed before.length blanks.length) (scanFrom 0 (before ++ behind)) := by
  have hfront : relocate (pushed before.length blanks.length) (scanFrom 0 before) =
      scanFrom 0 before := by
    refine relocate_scanFrom fun i hi => ?_
    rw [Nat.zero_add]
    exact if_pos hi
  have hrest : relocate (pushed before.length blanks.length) (scanFrom (0 + before.length) behind) =
      scanFrom (0 + before.length + blanks.length) behind := by
    refine relocate_scanFrom fun i _ => ?_
    rw [pushed, if_neg (by omega)]
    omega
  rw [scanFrom_append (happart.blanks hblanks), scanFrom_append happart, relocate_bind, hfront, hrest,
    scanFrom_blanks hblanks]

end Lexeme

theorem ExpressionError.position?_moved (move : Nat → Nat) (fault : ExpressionError) :
    (fault.moved move).position? =
      if fault = .empty then some 0 else fault.position?.map move := by
  cases fault <;> rfl

namespace Expression

open Lexeme

variable {a w b : String}

theorem parse_insert_eq (blanks : ∀ c ∈ w.toList, Text.isBlank c = true)
    (apart : Apart a.toList b.toList) :
    parse (a ++ w ++ b) =
      (parse (a ++ b)).mapError (ExpressionError.moved (pushed a.length w.length)) := by
  have hscan := scanFrom_insert_blanks apart blanks
  unfold parse Scan.ofText
  rw [String.toList_append, String.toList_append, String.toList_append, List.append_assoc, hscan,
    String.length_toList, String.length_toList]
  cases scanFrom 0 (a.toList ++ b.toList) with
  | error fault => rfl
  | ok lexemes =>
    have hmoved := ofScan_moved (pushed a.length w.length) ⟨lexemes, (a.toList ++ b.toList).length⟩
    have hending : pushed a.length w.length (a.toList ++ b.toList).length =
        (a.toList ++ (w.toList ++ b.toList)).length := by
      simp only [pushed, List.length_append, String.length_toList]
      split <;> omega
    rw [hending] at hmoved
    exact hmoved

/-- **Blanks inside a text say nothing**, where they part no run of digits and points: the text has
    the same tree, or a fault with the same message, whose place moves by the blanks if they stand in
    front of it. An empty expression is at fault at its beginning. -/
theorem parse_insert_blanks (blanks : ∀ c ∈ w.toList, Text.isBlank c = true)
    (apart : Apart a.toList b.toList) :
    (∀ tree, parse (a ++ w ++ b) = .ok tree ↔ parse (a ++ b) = .ok tree) ∧
    ∀ fault, parse (a ++ b) = .error fault →
      ∃ fault', parse (a ++ w ++ b) = .error fault' ∧ fault'.message = fault.message ∧
        fault'.position? = if fault = .empty then some 0 else
          fault.position?.map fun place => if place < a.length then place else place + w.length := by
  rw [parse_insert_eq blanks apart]
  refine ⟨fun tree => ?_, fun fault hfault => ?_⟩
  · cases parse (a ++ b) with
    | error fault => exact ⟨fun h => (nomatch h), fun h => (nomatch h)⟩
    | ok tree' => exact Iff.rfl
  · rw [hfault]
    exact ⟨_, rfl, fault.message_moved _, fault.position?_moved _⟩

/-- A fault behind the blanks moves by them. -/
theorem parse_blanks_before_close :
    ∃ fault, parse ("1" ++ " \t" ++ "*)") = .error fault ∧ fault.message = "Unexpected ')'" ∧
      fault.position? = some 4 := by
  have rejected : parse ("1" ++ "*)") = .error (.unexpected [')'] 2) := by decide +kernel
  have blanks : ∀ c ∈ " \t".toList, Text.isBlank c = true := List.all_eq_true.1 (by decide)
  have apart : Apart "1".toList "*)".toList := apart_cons (d := '*') rfl ['1'] [')']
  obtain ⟨fault, hfault, hmessage, hposition⟩ := (parse_insert_blanks blanks apart).2 _ rejected
  exact ⟨fault, hfault, hmessage, hposition⟩

end Expression

end DeskCalc
