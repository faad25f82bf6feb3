import DeskCalc.Proofs.Expression.Readers
import DeskCalc.Proofs.Outcome

/-!
# Reading accepts the derivable texts

Both directions go level by level, from the operand outwards. What a reader returns is derived
(`Sound`); what is derived, the reader returns, if the allowance is at least the nesting. A chain is
settled once for both levels:

* `chain_sound`: what a loop has read so far stays derived;
* `readable`: behind a derived chain the loop stands as if it had just begun with its tree, and a
  derived operand is read, whatever comes behind it.

Main statement: `parse_eq_ok_iff_derived`, with the tree of a derivation determined by the tokens.
-/

namespace DeskCalc

namespace Expression

/-- A token sequence and a tree that a derivation with bounded nesting shows. -/
def Derived (level : Level) (allowance : Nat) (tokens : List Token) (tree : Tree) : Prop :=
  ∃ d : Derivation level, d.tokens = tokens ∧ d.tree = tree ∧ d.nesting ≤ allowance

/-- The reader reads only what is in `accepts`. -/
def Sound (reader : Reader) (accepts : List Token → Tree → Prop) : Prop :=
  ∀ {input rest : List Lexeme} {tree : Tree}, reader.run input = .ok (tree, rest) →
    ∃ read, input = read ++ rest ∧ accepts (read.map Lexeme.token) tree

/-! ## 1. What is read is derived -/

theorem chain_sound {level : Operator → Bool} {reader : Reader}
    {inner outer : List Token → Tree → Prop} (hreader : Sound reader inner)
    (hsingle : ∀ {ts tree}, inner ts tree → outer ts tree)
    (hjoin : ∀ {ts us left right op}, level op = true → outer ts left → inner us right →
      outer (ts ++ .operator op :: us) (.binary op left right)) :
    Sound (chain level reader) outer := by
  intro input rest tree h
  rw [run_chain, bind_eq_ok] at h
  obtain ⟨⟨left, behind⟩, hfirst, h⟩ := h
  obtain ⟨read, rfl, hread⟩ := hreader hfirst
  -- at every turn of the loop, what has been read is accepted with the tree so far
  refine joinFrom_invariant
    (fun left ahead => ∃ before, read ++ behind = before ++ ahead ∧
      outer (before.map Lexeme.token) left)
    (fun reading => reading = .ok (tree, rest) →
      ∃ before, read ++ behind = before ++ rest ∧ outer (before.map Lexeme.token) tree)
    ?_ ?_ ?_ ⟨read, rfl, hsingle hread⟩ h
  · rintro left ahead hinv - h
    cases h
    exact hinv
  · rintro left op position ahead fault - - - h
    cases h
  · rintro left op position ahead right behind' hop ⟨before, heq, hbefore⟩ hright
    obtain ⟨more, rfl, hmore⟩ := hreader hright
    refine ⟨before ++ ⟨.operator op, position⟩ :: more, by simp [heq], ?_⟩
    rw [List.map_append]
    exact hjoin hop hbefore hmore

theorem product_sound {reader : Reader} {allowance : Nat}
    (h : Sound reader (Derived .operand allowance)) :
    Sound (chain Operator.isMultiplicative reader) (Derived .product allowance) := by
  refine chain_sound h ?_ ?_
  · rintro ts tree ⟨d, rfl, rfl, hd⟩
    exact ⟨.factor d, rfl, rfl, hd⟩
  · rintro ts us left right op hop ⟨d, rfl, rfl, hd⟩ ⟨e, rfl, rfl, he⟩
    exact ⟨.times d op hop e, rfl, rfl, Nat.max_le.2 ⟨hd, he⟩⟩

theorem sum_sound {reader : Reader} {allowance : Nat}
    (h : Sound reader (Derived .operand allowance)) :
    Sound (sum reader) (Derived .sum allowance) := by
  refine chain_sound (product_sound h) ?_ ?_
  · rintro ts tree ⟨d, rfl, rfl, hd⟩
    exact ⟨.summand d, rfl, rfl, hd⟩
  · rintro ts us left right op hop ⟨d, rfl, rfl, hd⟩ ⟨e, rfl, rfl, he⟩
    exact ⟨.plus d op hop e, rfl, rfl, Nat.max_le.2 ⟨hd, he⟩⟩

theorem closeGroup_eq_ok {position : Nat} {part : Tree × List Lexeme} {tree : Tree}
    {rest : List Lexeme} (h : closeGroup position part = .ok (tree, rest)) :
    ∃ place, part = (tree, ⟨.closeParen, place⟩ :: rest) := by
  unfold closeGroup at h
  split at h
  · cases h
    exact ⟨_, rfl⟩
  · cases h

theorem operand_sound (ending allowance : Nat) :
    Sound (operand ending allowance) (Derived .operand allowance) := by
  induction allowance using Nat.strongRecOn with
  | ind allowance ih =>
    intro input rest tree h
    match input with
    | [] =>
      rw [run_operand_nil] at h
      cases h
    | ⟨.number numeral, position⟩ :: behind =>
      rw [run_operand_number] at h
      cases h
      exact ⟨[⟨.number numeral, position⟩], rfl, .number numeral, rfl, rfl, Nat.zero_le _⟩
    | ⟨.closeParen, position⟩ :: behind =>
      rw [run_operand_close] at h
      cases h
    | ⟨.openParen, position⟩ :: behind =>
      rcases Nat.lt_or_ge allowance 4 with hlt | hge
      · rw [run_operand_open_short _ _ hlt] at h
        cases h
      · obtain ⟨allowance, rfl⟩ := Nat.exists_eq_add_of_le' hge
        rw [run_operand_open, bind_eq_ok] at h
        obtain ⟨part, hsum, hclose⟩ := h
        obtain ⟨place, rfl⟩ := closeGroup_eq_ok hclose
        obtain ⟨read, rfl, d, htokens, rfl, hd⟩ := sum_sound (ih allowance (by omega)) hsum
        refine ⟨⟨.openParen, position⟩ :: (read ++ [⟨.closeParen, place⟩]), by simp,
          .group d, ?_, rfl, Nat.add_le_add_right hd 4⟩
        simp [Derivation.tokens, htokens]
    | ⟨.operator op, position⟩ :: behind =>
      by_cases hop : op = .subtract
      · subst hop
        cases allowance with
        | zero =>
          rw [run_operand_sign_zero] at h
          cases h
        | succ allowance =>
          rw [run_operand_sign, map_eq_ok] at h
          obtain ⟨⟨inner, behind'⟩, hinner, he⟩ := h
          cases he
          obtain ⟨read, rfl, d, htokens, rfl, hd⟩ := ih allowance (Nat.lt_succ_self _) hinner
          refine ⟨⟨.operator .subtract, position⟩ :: read, rfl, .negate d, ?_, rfl,
            Nat.succ_le_succ hd⟩
          simp [Derivation.tokens, htokens]
      · rw [run_operand_operator _ _ hop] at h
        cases h

/-! ## 2. What is derived is read -/

theorem operatorNext_multiplicative {op : Operator} (h : op.isAdditive = true) (position : Nat)
    (rest : List Lexeme) :
    operatorNext Operator.isMultiplicative (⟨.operator op, position⟩ :: rest) = false := by
  show op.isMultiplicative = false
  unfold Operator.isMultiplicative
  rw [h]
  rfl

/-- The readers read the derivation, with at most `allowance`. A product goes on as its loop does
    behind the tree, and so does a sum where no product could go on. -/
def Readable (ending allowance : Nat) : (level : Level) → Derivation level → Prop
  | .operand, d => ∀ read rest, read.map Lexeme.token = d.tokens →
      (operand ending allowance).run (read ++ rest) = .ok (d.tree, rest)
  | .product, d => ∀ read rest, read.map Lexeme.token = d.tokens →
      (chain Operator.isMultiplicative (operand ending allowance)).run (read ++ rest) =
        joinFrom Operator.isMultiplicative (operand ending allowance) d.tree rest
  | .sum, d => ∀ read rest, read.map Lexeme.token = d.tokens →
      operatorNext Operator.isMultiplicative rest = false →
      (sum (operand ending allowance)).run (read ++ rest) =
        joinFrom Operator.isAdditive
          (chain Operator.isMultiplicative (operand ending allowance)) d.tree rest

/-- A readable product is read to its end where no product could go on. -/
theorem Readable.run_product {ending allowance : Nat} {d : Derivation .product}
    (h : Readable ending allowance .product d) {read rest : List Lexeme}
    (hread : read.map Lexeme.token = d.tokens)
    (hstop : operatorNext Operator.isMultiplicative rest = false) :
    (chain Operator.isMultiplicative (operand ending allowance)).run (read ++ rest) =
      .ok (d.tree, rest) := by
  rw [h read rest hread, joinFrom_stop hstop]

/-- A readable sum is read to its end where no operator comes next. -/
theorem Readable.run_sum {ending allowance : Nat} {d : Derivation .sum}
    (h : Readable ending allowance .sum d) {read rest : List Lexeme}
    (hread : read.map Lexeme.token = d.tokens)
    (hproduct : operatorNext Operator.isMultiplicative rest = false)
    (hsum : operatorNext Operator.isAdditive rest = false) :
    (sum (operand ending allowance)).run (read ++ rest) = .ok (d.tree, rest) := by
  rw [h read rest hread hproduct, joinFrom_stop hsum]

/-- Lexemes that write two sequences with an operator between them. -/
theorem exists_of_map_eq_append_operator {read : List Lexeme} {ts us : List Token} {op : Operator}
    (h : read.map Lexeme.token = ts ++ .operator op :: us) :
    ∃ before position behind, read = before ++ ⟨.operator op, position⟩ :: behind ∧
      before.map Lexeme.token = ts ∧ behind.map Lexeme.token = us := by
  obtain ⟨before, others, rfl, hbefore, hothers⟩ := List.map_eq_append_iff.1 h
  obtain ⟨⟨token, position⟩, behind, rfl, htoken, hbehind⟩ := List.map_eq_cons_iff.1 hothers
  cases htoken
  exact ⟨before, position, behind, rfl, hbefore, hbehind⟩

/-- **A derivation is read with any allowance from its nesting on.** -/
theorem readable (ending : Nat) {level : Level} (d : Derivation level) {allowance : Nat}
    (h : d.nesting ≤ allowance) : Readable ending allowance level d := by
  induction d generalizing allowance with
  | number numeral =>
    intro read rest hread
    obtain ⟨⟨token, position⟩, behind, rfl, htoken, hbehind⟩ := List.map_eq_cons_iff.1 hread
    cases htoken
    cases List.map_eq_nil_iff.1 hbehind
    exact run_operand_number ending allowance numeral position rest
  | negate inner ih =>
    intro read rest hread
    obtain ⟨⟨token, position⟩, behind, rfl, htoken, hbehind⟩ := List.map_eq_cons_iff.1 hread
    cases htoken
    obtain ⟨allowance, rfl⟩ := Nat.exists_eq_add_of_le' (Nat.le_of_add_left_le h)
    rw [List.cons_append, run_operand_sign,
      ih (Nat.le_of_succ_le_succ h) behind rest hbehind]
    rfl
  | group inner ih =>
    intro read rest hread
    obtain ⟨⟨token, position⟩, behind, rfl, htoken, hbehind⟩ := List.map_eq_cons_iff.1 hread
    cases htoken
    obtain ⟨content, closing, rfl, hcontent, hclosing⟩ := List.map_eq_append_iff.1 hbehind
    obtain ⟨⟨token, place⟩, nothing, rfl, htoken, hnothing⟩ := List.map_eq_cons_iff.1 hclosing
    cases htoken
    cases List.map_eq_nil_iff.1 hnothing
    obtain ⟨allowance, rfl⟩ := Nat.exists_eq_add_of_le' (Nat.le_of_add_left_le h)
    rw [List.cons_append, run_operand_open, List.append_assoc,
      (ih (Nat.le_of_add_le_add_right h)).run_sum hcontent rfl rfl]
    rfl
  | factor only ih =>
    intro read rest hread
    rw [run_chain, ih h read rest hread]
    rfl
  | times left op fits right ihLeft ihRight =>
    intro read rest hread
    obtain ⟨before, position, behind, rfl, hbefore, hbehind⟩ :=
      exists_of_map_eq_append_operator hread
    rw [List.append_assoc, ihLeft (Nat.le_trans (Nat.le_max_left _ _) h) before _ hbefore,
      List.cons_append, joinFrom_operator fits,
      ihRight (Nat.le_trans (Nat.le_max_right _ _) h) behind rest hbehind]
    rfl
  | summand only ih =>
    intro read rest hread hstop
    show (chain _ _).run _ = _
    rw [run_chain, (ih h).run_product hread hstop]
    rfl
  | plus left op fits right ihLeft ihRight =>
    intro read rest hread hstop
    obtain ⟨before, position, behind, rfl, hbefore, hbehind⟩ :=
      exists_of_map_eq_append_operator hread
    rw [List.append_assoc, List.cons_append,
      ihLeft (Nat.le_trans (Nat.le_max_left _ _) h) before _ hbefore
        (operatorNext_multiplicative fits _ _),
      joinFrom_operator fits,
      (ihRight (Nat.le_trans (Nat.le_max_right _ _) h)).run_product hbehind hstop]
    rfl

/-! ## 3. Texts -/

/-- A derived sum is read to its end. -/
theorem run_sum_of_derivation (ending : Nat) (d : Derivation .sum) {allowance : Nat}
    (h : d.nesting ≤ allowance) {lexemes : List Lexeme}
    (hread : lexemes.map Lexeme.token = d.tokens) :
    (sum (operand ending allowance)).run lexemes = .ok (d.tree, []) := by
  have hrun : (sum (operand ending allowance)).run (lexemes ++ []) = .ok (d.tree, []) :=
    (readable ending d h).run_sum hread rfl rfl
  rwa [List.append_nil] at hrun

/-- Tokens that all stand at one place. -/
theorem map_token_mk (tokens : List Token) :
    (tokens.map (Lexeme.mk · 0)).map Lexeme.token = tokens := by
  simp [Function.comp_def]

/-- The tokens determine the tree. -/
theorem tree_eq_of_tokens_eq {d e : Derivation .sum} (h : d.tokens = e.tokens) :
    d.tree = e.tree := by
  have hread := map_token_mk d.tokens
  have hd := run_sum_of_derivation 0 d (Nat.le_max_left d.nesting e.nesting) hread
  have he := run_sum_of_derivation 0 e (Nat.le_max_right d.nesting e.nesting) (hread.trans h)
  rw [hd] at he
  exact (Prod.mk.inj (Except.ok.inj he)).1

theorem endText_eq_ok {part : Tree × List Lexeme} {tree : Tree} (h : endText part = .ok tree) :
    part = (tree, []) := by
  unfold endText at h
  split at h
  · cases h
    rfl
  · cases h
  · cases h

/-- The tree of a scan is that of a derivation of all its tokens. -/
theorem ofScan_eq_ok_iff {scan : Scan} {tree : Tree} :
    ofScan scan = .ok tree ↔
      Derived .sum nestingAllowance (scan.lexemes.map Lexeme.token) tree := by
  constructor
  · intro h
    have hne : scan.lexemes ≠ [] := by
      intro hnil
      rw [ofScan_empty hnil] at h
      cases h
    rw [ofScan_eq hne, bind_eq_ok] at h
    obtain ⟨part, hsum, hend⟩ := h
    cases endText_eq_ok hend
    obtain ⟨read, hread, hd⟩ := sum_sound (operand_sound _ _) hsum
    rw [List.append_nil] at hread
    rwa [hread]
  · rintro ⟨d, htokens, rfl, hd⟩
    have hne : scan.lexemes ≠ [] := by
      intro hnil
      rw [hnil] at htokens
      exact d.tokens_ne_nil htokens
    rw [ofScan_eq hne, run_sum_of_derivation _ d hd htokens.symm]
    rfl

/-- **A text is an expression exactly if its tokens are derivable**, with no deeper nesting than
    reading allows for; its tree is that of the derivation. All derivations of one token sequence
    have the same tree. -/
theorem parse_eq_ok_iff_derived {text : String} {scan : Scan}
    (scanned : Scan.ofText text.toList = .ok scan) :
    (∀ tree, parse text = .ok tree ↔
      ∃ d : Derivation .sum, d.tokens = scan.lexemes.map Lexeme.token ∧
        d.nesting ≤ nestingAllowance ∧ d.tree = tree) ∧
    ∀ d e : Derivation .sum, d.tokens = e.tokens → d.tree = e.tree := by
  refine ⟨fun tree => ?_, fun d e => tree_eq_of_tokens_eq⟩
  rw [parse_eq_ofScan scanned, ofScan_eq_ok_iff]
  constructor
  · rintro ⟨d, htokens, htree, hd⟩
    exact ⟨d, htokens, hd, htree⟩
  · rintro ⟨d, htokens, hd, htree⟩
    exact ⟨d, htokens, htree, hd⟩

theorem parse_product_with_signed_group :
    ∃ scan, Scan.ofText "2*-(3-1)".toList = .ok scan ∧
      parse "2*-(3-1)" = .ok (.binary .multiply (.leaf ['2'])
        (.negate (.binary .subtract (.leaf ['3']) (.leaf ['1'])))) := by
  have scanned : Scan.ofText "2*-(3-1)".toList = .ok
      ⟨[⟨.number ['2'], 0⟩, ⟨.operator .multiply, 1⟩, ⟨.operator .subtract, 2⟩, ⟨.openParen, 3⟩,
        ⟨.number ['3'], 4⟩, ⟨.operator .subtract, 5⟩, ⟨.number ['1'], 6⟩, ⟨.closeParen, 7⟩], 8⟩ :=
    eq_ok_of_toOption (by decide +kernel)
  refine ⟨_, scanned, ((parse_eq_ok_iff_derived scanned).1 _).2 ?_⟩
  exact ⟨.summand (.times (.factor (.number ['2'])) .multiply rfl
    (.negate (.group (.plus (.summand (.factor (.number ['3']))) .subtract rfl
      (.factor (.number ['1'])))))), rfl, by decide, rfl⟩

end Expression

end DeskCalc
