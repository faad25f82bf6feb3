import Mathlib.Data.List.Nodup
import DeskCalc.Proofs.Expression.Spelling

/-!
# Which parentheses have a partner

A closing parenthesis belongs to the innermost one that is open. The watch keeps the same list of
open parentheses, so a closing one that it complains about has no partner. An opening one is
complained about as soon as something cannot go on inside of it; whether it has a partner depends on
the lexemes behind that place, at which nobody has looked. This file fixes

* `pairs` and `openedBehind`: the parentheses that belong together, and those that stay open;
* `closer`: the parenthesis that ends what is open around a text;
* `mem_pairs_iff_closer`: the partner of an open parenthesis lies in what comes behind;
* `Watch.run_error`: a complaint is about the lexeme behind the readable ones, or about the end.

Main statement: **`unmatched_of_parse`**. A complaint about a parenthesis that has a partner is
`matched_open_reported`.
-/

namespace DeskCalc

namespace Lexeme

/-! ## 1. Parentheses that belong together -/

/-- The places of the open parentheses behind one lexeme, the innermost first. -/
def opening (opened : List Nat) : Lexeme → List Nat
  | ⟨.openParen, position⟩ => position :: opened
  | ⟨.closeParen, _⟩ => opened.tail
  | _ => opened

/-- The places of the open parentheses behind all lexemes. -/
def openedBehind (opened : List Nat) (lexemes : List Lexeme) : List Nat :=
  lexemes.foldl opening opened

/-- The parenthesis that a lexeme closes, with its own place. -/
def pair? (opened : List Nat) : Lexeme → Option (Nat × Nat)
  | ⟨.closeParen, position⟩ => opened.head?.map (·, position)
  | _ => none

/-- The places of the parentheses that belong together. -/
def pairs : (opened : List Nat) → List Lexeme → List (Nat × Nat)
  | _, [] => []
  | opened, lexeme :: rest => (pair? opened lexeme).toList ++ pairs (opening opened lexeme) rest

/-- The place of the parenthesis that closes the one around the lexemes, when `depth` others are
    open inside of it. -/
def closer : (depth : Nat) → List Lexeme → Option Nat
  | _, [] => none
  | depth, ⟨token, position⟩ :: rest =>
    match token, depth with
    | .openParen, depth => closer (depth + 1) rest
    | .closeParen, 0 => some position
    | .closeParen, depth + 1 => closer depth rest
    | _, depth => closer depth rest

theorem mem_opening {opened : List Nat} {lexeme : Lexeme} {o : Nat}
    (h : o ∈ opening opened lexeme) : o ∈ opened ∨ lexeme = ⟨.openParen, o⟩ := by
  unfold opening at h
  split at h
  · rcases List.mem_cons.1 h with rfl | h
    · exact .inr rfl
    · exact .inl h
  · exact .inl (List.mem_of_mem_tail h)
  · exact .inl h

theorem pair?_eq_some {opened : List Nat} {lexeme : Lexeme} {o c : Nat} :
    pair? opened lexeme = some (o, c) ↔ opened.head? = some o ∧ lexeme = ⟨.closeParen, c⟩ := by
  unfold pair?
  split
  · simp
  · rename_i hother
    constructor
    · intro h
      cases h
    · rintro ⟨-, rfl⟩
      exact absurd rfl (hother c)

theorem pairs_append (opened : List Nat) (before rest : List Lexeme) :
    pairs opened (before ++ rest) =
      pairs opened before ++ pairs (openedBehind opened before) rest := by
  induction before generalizing opened with
  | nil => rfl
  | cons lexeme before ih =>
    rw [List.cons_append, pairs, ih, pairs, List.append_assoc]
    rfl

theorem mem_openedBehind {opened : List Nat} {lexemes : List Lexeme} {o : Nat}
    (h : o ∈ openedBehind opened lexemes) : o ∈ opened ∨ ⟨.openParen, o⟩ ∈ lexemes := by
  induction lexemes generalizing opened with
  | nil => exact .inl h
  | cons lexeme rest ih =>
    rcases ih h with hopening | hrest
    · rcases mem_opening hopening with hopened | rfl
      · exact .inl hopened
      · exact .inr (List.mem_cons_self ..)
    · exact .inr (List.mem_cons_of_mem _ hrest)

/-- A pair is made of two parentheses of the lexemes, or the first one was open in front. -/
theorem mem_pairs {opened : List Nat} {lexemes : List Lexeme} {o c : Nat}
    (h : (o, c) ∈ pairs opened lexemes) :
    (o ∈ opened ∨ ⟨.openParen, o⟩ ∈ lexemes) ∧ ⟨.closeParen, c⟩ ∈ lexemes := by
  induction lexemes generalizing opened with
  | nil => cases h
  | cons lexeme rest ih =>
    rcases List.mem_append.1 h with hfirst | hrest
    · obtain ⟨hhead, rfl⟩ := pair?_eq_some.1 (Option.mem_toList.1 hfirst)
      exact ⟨.inl (List.mem_of_mem_head? hhead), List.mem_cons_self ..⟩
    · obtain ⟨hopen, hclose⟩ := ih hrest
      refine ⟨?_, List.mem_cons_of_mem _ hclose⟩
      rcases hopen with hopening | hopen
      · rcases mem_opening hopening with hopened | rfl
        · exact .inl hopened
        · exact .inr (List.mem_cons_self ..)
      · exact .inr (List.mem_cons_of_mem _ hopen)

/-! ## 2. Places that differ -/

/-- No place occurs twice. -/
def Distinct (opened : List Nat) (lexemes : List Lexeme) : Prop :=
  (opened ++ lexemes.map position).Nodup

theorem Distinct.opening {opened : List Nat} {lexeme : Lexeme} {rest : List Lexeme}
    (h : Distinct opened (lexeme :: rest)) : Distinct (opening opened lexeme) rest := by
  unfold Distinct at *
  rw [List.map_cons] at h
  unfold Lexeme.opening
  split
  · exact List.nodup_middle.1 h
  · exact h.sublist ((List.tail_sublist _).append (List.sublist_cons_self _ _))
  · exact h.sublist ((List.Sublist.refl _).append (List.sublist_cons_self _ _))

/-- An open parenthesis opens but once. -/
theorem Distinct.fresh {o : Nat} {below : List Nat} {lexeme : Lexeme} {rest : List Lexeme}
    (h : Distinct (o :: below) (lexeme :: rest)) : ¬(o ∈ below ∨ ⟨.openParen, o⟩ ∈ rest) := by
  obtain ⟨hfresh, -⟩ := List.nodup_cons.1 h
  rintro (hbelow | hopen)
  · exact hfresh (List.mem_append_left _ hbelow)
  · exact hfresh (List.mem_append_right _
      (List.mem_map.2 ⟨_, List.mem_cons_of_mem _ hopen, rfl⟩))

/-- What has a partner is no longer open. -/
theorem not_mem_openedBehind {opened : List Nat} {lexemes : List Lexeme}
    (distinct : Distinct opened lexemes) {o c : Nat} (h : (o, c) ∈ pairs opened lexemes) :
    o ∉ openedBehind opened lexemes := by
  induction lexemes generalizing opened with
  | nil => cases h
  | cons lexeme rest ih =>
    rcases List.mem_append.1 h with hfirst | hrest
    · obtain ⟨hhead, rfl⟩ := pair?_eq_some.1 (Option.mem_toList.1 hfirst)
      obtain ⟨below, rfl⟩ := List.head?_eq_some_iff.1 hhead
      intro hbehind
      have hbelow : o ∈ openedBehind below rest := hbehind
      exact distinct.fresh (mem_openedBehind hbelow)
    · exact ih distinct.opening hrest

/-- **The partner of an open parenthesis is what closes it in the lexemes behind.** `above` has the
    places of those that are open inside of it. -/
theorem mem_pairs_iff_closer {above below : List Nat} {o c : Nat} {lexemes : List Lexeme}
    (distinct : Distinct (above ++ o :: below) lexemes) :
    (o, c) ∈ pairs (above ++ o :: below) lexemes ↔ closer above.length lexemes = some c := by
  induction lexemes generalizing above with
  | nil => exact iff_of_false List.not_mem_nil (fun h => nomatch h)
  | cons lexeme rest ih =>
    obtain ⟨token, place⟩ := lexeme
    have hrest := distinct.opening
    cases token with
    | number numeral => exact ih hrest
    | operator op => exact ih hrest
    | openParen =>
      have hinside : Distinct ((place :: above) ++ o :: below) rest := hrest
      exact ih hinside
    | closeParen =>
      cases above with
      | nil =>
        -- it is closed here, and is not there any more
        have hlater : (o, c) ∉ pairs below rest := fun h => distinct.fresh (mem_pairs h).1
        show (o, c) ∈ (o, place) :: pairs below rest ↔ some place = some c
        simp [hlater, eq_comm]
      | cons innermost above =>
        have hne : o ≠ innermost := by
          rintro rfl
          exact (List.nodup_cons.1 distinct).1 (by simp)
        show (o, c) ∈ (innermost, place) :: pairs (above ++ o :: below) rest ↔
          closer above.length rest = some c
        rw [List.mem_cons, ← ih hrest]
        simp [hne]

theorem Distinct.behind {opened : List Nat} {before rest : List Lexeme}
    (h : Distinct opened (before ++ rest)) : Distinct (openedBehind opened before) rest := by
  induction before generalizing opened with
  | nil => exact h
  | cons lexeme before ih => exact ih h.opening

section Unclosed

variable {before rest : List Lexeme} {p c : Nat}

/-- A closing parenthesis has no partner where none is open. -/
theorem not_mem_pairs_of_close (distinct : Distinct [] (before ++ ⟨.closeParen, p⟩ :: rest))
    (h : openedBehind [] before = []) (o : Nat) :
    (o, p) ∉ pairs [] (before ++ ⟨.closeParen, p⟩ :: rest) := by
  unfold Distinct at distinct
  rw [List.nil_append, List.map_append, List.map_cons, List.nodup_middle, ← List.map_append]
    at distinct
  have hfresh : ⟨.closeParen, p⟩ ∉ before ++ rest := fun hmem =>
    (List.nodup_cons.1 distinct).1 (List.mem_map_of_mem hmem)
  rw [pairs_append, h, List.mem_append]
  rintro (hmem | hmem)
  · exact hfresh (List.mem_append_left _ (mem_pairs hmem).2)
  · have hrest : (o, p) ∈ pairs [] rest := hmem
    exact hfresh (List.mem_append_right _ (mem_pairs hrest).2)

/-- The innermost open parenthesis has what closes it behind as its partner. -/
theorem mem_pairs_of_open (distinct : Distinct [] (before ++ rest))
    (h : (openedBehind [] before).head? = some p) :
    (p, c) ∈ pairs [] (before ++ rest) ↔ closer 0 rest = some c := by
  obtain ⟨below, hopened⟩ := List.head?_eq_some_iff.1 h
  have hbefore : (p, c) ∉ pairs [] before := by
    intro hmem
    refine not_mem_openedBehind (distinct.sublist ?_) hmem (by rw [hopened]; exact List.mem_cons_self ..)
    exact (List.sublist_append_left before rest).map position
  have hbehind : Distinct ([] ++ p :: below) rest := by
    have := distinct.behind
    rwa [hopened] at this
  rw [pairs_append, hopened, List.mem_append, or_iff_right hbefore]
  have hcloser : (p, c) ∈ pairs ([] ++ p :: below) rest ↔ closer 0 rest = some c :=
    mem_pairs_iff_closer hbehind
  exact hcloser

end Unclosed

end Lexeme

namespace Scan

/-- The parentheses that belong together, by their places. -/
def pairs (scan : Scan) : List (Nat × Nat) := Lexeme.pairs [] scan.lexemes

end Scan

namespace Expression

open Lexeme

/-! ## 3. The watch and the parentheses -/

/-- The watch knows which parentheses are open. -/
theorem Watch.opened_step {watch next : Watch} {lexeme : Lexeme}
    (h : watch.step lexeme = .ok next) : next.opened = opening watch.opened lexeme := by
  unfold step at h
  split at h <;> cases h <;> rfl

namespace Watch

/-- The watch complains about the first of the lexemes, or about the end if there is none. -/
def Complains (ending : Nat) (watch : Watch) : List Lexeme → Report → Prop
  | [], report => watch.finish ending = .error report
  | lexeme :: _, report => watch.step lexeme = .error report

/-- **A complaint is about the lexeme behind the readable ones**, or about the end; the parentheses
    that are open there are those that the readable lexemes leave open. -/
theorem run_error {ending : Nat} {watch : Watch} {lexemes : List Lexeme} {report : Report}
    (h : watch.run ending lexemes = .error report) :
    ∃ (last : Watch) (rest : List Lexeme), lexemes = watch.readable lexemes ++ rest ∧
      last.opened = openedBehind watch.opened (watch.readable lexemes) ∧
      last.Complains ending rest report := by
  induction lexemes generalizing watch with
  | nil => exact ⟨watch, [], rfl, rfl, h⟩
  | cons lexeme lexemes ih =>
    have hrun : (watch.step lexeme).bind (fun next => next.run ending lexemes) = .error report := h
    unfold readable
    cases hstep : watch.step lexeme with
    | error report' =>
      rw [hstep] at hrun
      cases hrun
      exact ⟨watch, lexeme :: lexemes, rfl, rfl, hstep⟩
    | ok next =>
      rw [hstep] at hrun
      obtain ⟨last, rest, hlexemes, hopened, hlast⟩ := ih hrun
      refine ⟨last, rest, congrArg (lexeme :: ·) hlexemes, ?_, hlast⟩
      rw [hopened, opened_step hstep]
      rfl

end Watch

/-- A text with another beginning is another text. -/
theorem append_ne {first other : String} (h : ¬first.toList <+: other.toList) (rest : String) :
    first ++ rest ≠ other := by
  rintro rfl
  exact h (by simp)

/-- **All complaints.** An opening parenthesis is complained about where the sum inside of it has
    ended and something else comes than its partner, a closing one where none is open. -/
theorem Watch.Complains.cases {ending : Nat} {watch : Watch} {rest : List Lexeme} {report : Report}
    (h : watch.Complains ending rest report) :
    (∃ token position, report = unexpected token position) ∨
    report.message = "Expression ends unexpectedly" ∨
    (report.message = "Unmatched '('" ∧ watch.opened.head? = some report.position ∧
      ∀ lexeme ∈ rest.head?, lexeme.token = .openParen ∨ ∃ run, lexeme.token = .number run) ∨
    report.message = "Unmatched ')'" ∧ watch.opened = [] ∧
      rest.head? = some ⟨.closeParen, report.position⟩ := by
  cases rest with
  | nil =>
    have hfinish : watch.finish ending = .error report := h
    unfold finish at hfinish
    split at hfinish
    · cases hfinish
      exact .inr (.inl rfl)
    · cases hfinish
      exact .inr (.inr (.inl ⟨rfl, rfl, fun lexeme hlexeme => nomatch hlexeme⟩))
    · cases hfinish
  | cons lexeme rest =>
    have hstep : watch.step lexeme = .error report := h
    obtain ⟨expects, opened⟩ := watch
    obtain ⟨token, position⟩ := lexeme
    cases expects with
    | operand =>
      cases token with
      | number run => cases hstep
      | openParen => cases hstep
      | closeParen => exact .inl ⟨_, _, (Except.error.inj hstep).symm⟩
      | operator op =>
        cases op with
        | subtract => cases hstep
        | add => exact .inl ⟨_, _, (Except.error.inj hstep).symm⟩
        | multiply => exact .inl ⟨_, _, (Except.error.inj hstep).symm⟩
        | divide => exact .inl ⟨_, _, (Except.error.inj hstep).symm⟩
    | operator =>
      cases opened with
      | nil =>
        cases token with
        | operator op => cases hstep
        | closeParen =>
          cases hstep
          exact .inr (.inr (.inr ⟨rfl, rfl, rfl⟩))
        | number run => exact .inl ⟨_, _, (Except.error.inj hstep).symm⟩
        | openParen => exact .inl ⟨_, _, (Except.error.inj hstep).symm⟩
      | cons innermost opened =>
        cases token with
        | operator op => cases hstep
        | closeParen => cases hstep
        | number run =>
          cases hstep
          refine .inr (.inr (.inl ⟨rfl, rfl, fun lexeme hlexeme => ?_⟩))
          cases hlexeme
          exact .inr ⟨run, rfl⟩
        | openParen =>
          cases hstep
          refine .inr (.inr (.inl ⟨rfl, rfl, fun lexeme hlexeme => ?_⟩))
          cases hlexeme
          exact .inl rfl

/-! ## 4. Complaints about parentheses -/

/-- The message is about a parenthesis without a partner. -/
def Unmatched (message : String) : Prop := message = "Unmatched '('" ∨ message = "Unmatched ')'"

instance (message : String) : Decidable (Unmatched message) :=
  inferInstanceAs (Decidable (_ ∨ _))

theorem not_unmatched_append {first : String} (hopen : ¬first.toList <+: "Unmatched '('".toList)
    (hclose : ¬first.toList <+: "Unmatched ')'".toList) (rest : String) :
    ¬Unmatched (first ++ rest) := by
  rintro (h | h)
  · exact append_ne hopen rest h
  · exact append_ne hclose rest h

theorem not_unmatched_unexpected (token : Token) (position : Nat) :
    ¬Unmatched (Watch.unexpected token position).message := by
  unfold Watch.unexpected
  rw [String.append_assoc]
  exact not_unmatched_append (by decide) (by decide) _

/-- No scan complains about a parenthesis. -/
theorem not_unmatched_of_violation {text : List Char} {report : Report}
    (h : Violation text report) : ¬Unmatched report.message := by
  cases h with
  | character split illegible =>
    rw [String.append_assoc]
    exact not_unmatched_append (by decide) (by decide) _
  | points longest many =>
    rw [String.append_assoc]
    exact not_unmatched_append (by decide) (by decide) _
  | lonePoint longest =>
    show ¬Unmatched "Decimal point without digits"
    decide

theorem scanned_of_unmatched {text : String} {fault : ExpressionError}
    (rejected : parse text = .error fault) (unmatched : Unmatched fault.message) :
    ∃ lexemes, Scan.ofText text.toList = .ok ⟨lexemes, text.toList.length⟩ ∧
      Spelled 0 text.toList lexemes ∧ ofScan ⟨lexemes, text.toList.length⟩ = .error fault := by
  have hcases := scanFrom_cases 0 text.toList
  unfold parse Scan.ofText at *
  cases hscan : scanFrom 0 text.toList with
  | error fault' =>
    rw [hscan] at hcases rejected
    cases rejected
    obtain ⟨report, ⟨hviolation, -⟩, hmessage, -⟩ := hcases
    rw [hmessage] at unmatched
    exact absurd unmatched (not_unmatched_of_violation hviolation)
  | ok lexemes =>
    rw [hscan] at hcases rejected
    exact ⟨lexemes, rfl, hcases, rejected⟩

/-- A complaint about a parenthesis, compared with the parentheses that belong together. -/
theorem verdict_unmatched {scan : Scan} {report : Report} (distinct : Distinct [] scan.lexemes)
    (h : verdict scan = .error report) (unmatched : Unmatched report.message) :
    ∃ rest, scan.lexemes = Watch.start.readable scan.lexemes ++ rest ∧
      (report.message = "Unmatched ')'" →
        rest.head? = some ⟨.closeParen, report.position⟩ ∧ ∀ o, (o, report.position) ∉ scan.pairs) ∧
      (report.message = "Unmatched '('" →
        ⟨.openParen, report.position⟩ ∈ Watch.start.readable scan.lexemes ∧
        (∀ lexeme ∈ rest.head?, lexeme.token = .openParen ∨ ∃ run, lexeme.token = .number run) ∧
        ∀ c, (report.position, c) ∈ scan.pairs ↔ closer 0 rest = some c) := by
  unfold verdict at h
  split at h
  · cases h
    exact absurd unmatched (by decide)
  obtain ⟨last, rest, hlexemes, hopened, hcomplains⟩ := Watch.run_error h
  refine ⟨rest, hlexemes, ?_⟩
  unfold Scan.pairs
  generalize Watch.start.readable scan.lexemes = before at hlexemes hopened ⊢
  rw [hlexemes] at distinct ⊢
  rcases hcomplains.cases with ⟨token, position, rfl⟩ | hends | ⟨hopen, hhead, hnext⟩ |
    ⟨hclose, hnone, hhead⟩
  · exact absurd unmatched (not_unmatched_unexpected token position)
  · rw [hends] at unmatched
    exact absurd unmatched (by decide)
  · rw [hopened] at hhead
    rw [hopen]
    refine ⟨fun h => absurd h (by decide), fun _ => ⟨?_, hnext, fun c => ?_⟩⟩
    · exact (mem_openedBehind (List.mem_of_mem_head? hhead)).resolve_left List.not_mem_nil
    · exact mem_pairs_of_open distinct hhead
  · obtain ⟨behind, rfl⟩ := List.head?_eq_some_iff.1 hhead
    rw [hclose]
    refine ⟨fun _ => ⟨rfl, ?_⟩, fun h => absurd h (by decide)⟩
    exact not_mem_pairs_of_close distinct (hopened.symm.trans hnone)

/-- **A closing parenthesis that is reported has no partner.** An opening one is reported at the
    first lexeme that cannot go on inside of it, which is no closing one, or at the end of the text;
    its partner, if it has one, is the parenthesis that closes it from there on. -/
theorem unmatched_of_parse {text : String} {fault : ExpressionError} {p : Nat}
    (rejected : parse text = .error fault) (place : fault.position? = some p)
    (unmatched : Unmatched fault.message) :
    ∃ scan rest, Scan.ofText text.toList = .ok scan ∧
      scan.lexemes = Watch.start.readable scan.lexemes ++ rest ∧
      (fault.message = "Unmatched ')'" →
        rest.head? = some ⟨.closeParen, p⟩ ∧ ∀ o, (o, p) ∉ scan.pairs) ∧
      (fault.message = "Unmatched '('" →
        ⟨.openParen, p⟩ ∈ Watch.start.readable scan.lexemes ∧
        (∀ lexeme ∈ rest.head?, lexeme.token = .openParen ∨ ∃ run, lexeme.token = .number run) ∧
        ∀ c, (p, c) ∈ scan.pairs ↔ closer 0 rest = some c) := by
  obtain ⟨lexemes, hscan, hspelled, hread⟩ := scanned_of_unmatched rejected unmatched
  have hdistinct : Distinct [] lexemes :=
    (List.pairwise_append.1 hspelled.ascending).1.imp Nat.ne_of_lt
  have hagrees := ofScan_agrees ⟨lexemes, text.toList.length⟩
  rw [hread] at hagrees
  obtain ⟨report, hreport, hverdict⟩ := hagrees (by rintro rfl; cases place)
  rw [report?, place, Option.map_some, Option.some.injEq] at hreport
  subst hreport
  obtain ⟨rest, hrest⟩ := verdict_unmatched hdistinct hverdict unmatched
  exact ⟨_, rest, hscan, hrest⟩

/-- One parenthesis stays open, and one closes nothing. -/
theorem open_at_end_and_close_alone :
    (∃ scan, Scan.ofText "((1)".toList = .ok scan ∧ parse "((1)" = .error (.unmatchedOpen 0) ∧
      ∀ c, (0, c) ∉ scan.pairs) ∧
    ∃ scan, Scan.ofText "1)".toList = .ok scan ∧ parse "1)" = .error (.unmatchedClose 1) ∧
      ∀ o, (o, 1) ∉ scan.pairs := by
  have hopen : parse "((1)" = .error (.unmatchedOpen 0) := by decide +kernel
  have hclose : parse "1)" = .error (.unmatchedClose 1) := by decide +kernel
  constructor
  · have scanned : Scan.ofText "((1)".toList = .ok
        ⟨[⟨.openParen, 0⟩, ⟨.openParen, 1⟩, ⟨.number ['1'], 2⟩, ⟨.closeParen, 3⟩], 4⟩ :=
      eq_ok_of_toOption (by decide +kernel)
    obtain ⟨scan, rest, hscan, hlexemes, -, hpartner⟩ := unmatched_of_parse hopen rfl (.inl rfl)
    rw [scanned] at hscan
    cases hscan
    -- all of the text is readable
    have hrest : rest = [] := List.self_eq_append_right.1 hlexemes
    subst hrest
    refine ⟨_, scanned, hopen, fun c hc => ?_⟩
    cases ((hpartner rfl).2.2 c).1 hc
  · obtain ⟨scan, rest, hscan, -, hnone, -⟩ := unmatched_of_parse hclose rfl (.inr rfl)
    exact ⟨scan, hscan, hclose, (hnone rfl).2⟩

/-- **A parenthesis with a partner can be reported**, where two numbers stand side by side in it. -/
theorem matched_open_reported :
    ∃ fault scan, parse "(1 2)" = .error fault ∧ fault.message = "Unmatched '('" ∧
      fault.position? = some 0 ∧ Scan.ofText "(1 2)".toList = .ok scan ∧ (0, 4) ∈ scan.pairs := by
  have rejected : parse "(1 2)" = .error (.unmatchedOpen 0) := by decide +kernel
  have scanned : Scan.ofText "(1 2)".toList = .ok
      ⟨[⟨.openParen, 0⟩, ⟨.number ['1'], 1⟩, ⟨.number ['2'], 3⟩, ⟨.closeParen, 4⟩], 5⟩ :=
    eq_ok_of_toOption (by decide +kernel)
  exact ⟨_, _, rejected, rfl, rfl, scanned, by decide⟩

end Expression

end DeskCalc
