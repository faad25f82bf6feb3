import DeskCalc.Proofs.Grid.Edges

/-!
# The edges of a longer length

A longer length takes no edge back: all that is done to share it out, rounding included, keeps the
order. So the edges of one length bound those of all longer ones. This file fixes

* `trackUnit_mono`, `edgesFrom_mono`: the order of units, and of edges before they are rounded;
* **`getD_tracks_mono`**: the order of edges in pixels.
-/

namespace DeskCalc

namespace Grid

open Binary64

variable {fractions : List Quantity} {total total' start : Int} {unit unit' : Binary64}

/-- **A longer length has a longer unit.** -/
theorem trackUnit_mono (hfractions : ∀ f ∈ fractions, f.NonNegative)
    (h : trackUnit fractions total = .ok unit) (h' : trackUnit fractions total' = .ok unit')
    (htotal : 0 ≤ total) (hle : total ≤ total') : unit.line ≤ unit'.line := by
  obtain ⟨divisor, hdivisor, hpositive, hlength, rfl⟩ := trackUnit_eq_ok hfractions h
  obtain ⟨same, hsame, -, hlength', rfl⟩ := trackUnit_eq_ok hfractions h'
  obtain rfl := Except.ok.inj (hdivisor.symm.trans hsame)
  exact line_div_mono hlength hlength' (nonneg_line_ofInt htotal) (line_ofInt_mono hle) hpositive

theorem edgesFrom_mono (hfractions : ∀ f ∈ fractions, f.NonNegative) {edge edge' : Binary64}
    {edges edges' : List Binary64} (h : edgesFrom unit edge fractions = .ok edges)
    (h' : edgesFrom unit' edge' fractions = .ok edges') (hfinite : ∀ x ∈ edges, x.isFinite = true)
    (hfinite' : ∀ x ∈ edges', x.isFinite = true) (hunit : 0 ≤ unit.line)
    (hunits : unit.line ≤ unit'.line) (hedges : edge.line ≤ edge'.line) :
    List.Forall₂ (fun x y => x.line ≤ y.line) edges edges' := by
  induction fractions generalizing edge edge' edges edges' with
  | nil =>
    cases h
    cases h'
    exact .nil
  | cons f rest ih =>
    simp only [edgesFrom, do_eq_ok] at h h'
    obtain ⟨size, hsize, others, hothers, heq⟩ := h
    obtain ⟨same, hsame, others', hothers', heq'⟩ := h'
    cases heq
    cases heq'
    obtain rfl := Except.ok.inj (hsize.symm.trans hsame)
    obtain ⟨hf, hrest⟩ := List.forall_mem_cons.1 hfractions
    obtain ⟨hnext, hlater⟩ := List.forall_mem_cons.1 hfinite
    obtain ⟨hnext', hlater'⟩ := List.forall_mem_cons.1 hfinite'
    obtain ⟨hsizeFinite, hunitFinite⟩ := isFinite_of_mul (isFinite_of_add hnext).2
    obtain ⟨-, hunitFinite'⟩ := isFinite_of_mul (isFinite_of_add hnext').2
    have hshare : (size * unit).line ≤ (size * unit').line :=
      line_mul_mono hsizeFinite hsizeFinite hunitFinite hunitFinite' (hf.nonneg_line hsize)
        (Int.le_refl _) hunit hunits
    have hline := line_add_mono hnext hnext' hedges hshare
    exact .cons hline (ih hrest hothers hothers' hlater hlater' hline)

theorem getD_round_mono {edges edges' : List Binary64}
    (h : List.Forall₂ (fun x y => x.line ≤ y.line) edges edges') (i : Nat) :
    (edges.map Binary64.round).getD i 0 ≤ (edges'.map Binary64.round).getD i 0 := by
  induction h generalizing i with
  | nil => exact Int.le_refl 0
  | cons hline hlater ih =>
    cases i with
    | zero => exact round_mono hline
    | succ i => exact ih i

/-- **The edges of a longer length lie no further back.** -/
theorem getD_tracks_mono (hfractions : ∀ f ∈ fractions, f.NonNegative) {pixels pixels' : List Int}
    (h : tracks fractions start total = .ok pixels)
    (h' : tracks fractions start total' = .ok pixels') (htotal : 0 ≤ total)
    (hle : total ≤ total') (i : Nat) : pixels.getD i 0 ≤ pixels'.getD i 0 := by
  obtain ⟨unit, edges, hunit, hedges, hfinite, rfl⟩ := tracks_eq_ok h
  obtain ⟨unit', edges', hunit', hedges', hfinite', rfl⟩ := tracks_eq_ok h'
  have hforward := (nonneg_trackUnit hfractions hunit).1 htotal
  have hunits := trackUnit_mono hfractions hunit hunit' htotal hle
  have hmono := edgesFrom_mono hfractions hedges hedges' hfinite hfinite' hforward hunits
    (Int.le_refl _)
  cases i with
  | zero => exact Int.le_refl start
  | succ i => exact getD_round_mono hmono i

end Grid

end DeskCalc
