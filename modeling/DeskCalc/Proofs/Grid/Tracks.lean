import DeskCalc.Grid.Tracks
import DeskCalc.Proofs.Magnitude
import DeskCalc.Proofs.Outcome

/-!
# Tracks that can be fitted

A length is shared out in doubles, and an edge that is no finite double has no pixel. With fractions
that are small whole numbers this takes lengths of some three hundred digits. This file fixes

* `wholes`: fractions that are whole numbers, and `trackUnit_wholes`: the length of one of them;
* `exists_edgesFrom`: edges that are finite doubles;
* **`exists_tracks`**: tracks can be fitted to every length far below the largest double.
-/

namespace DeskCalc.Grid

open Binary64

/-- Whole numbers as fractions. -/
def wholes (ns : List Nat) : List Quantity := ns.map fun n : Nat => .whole n

/-- The sum of whole numbers, added up from left to right as fractions are. -/
def wholeSum (ns : List Nat) : Nat := ns.foldl (· + ·) 0

theorem sum_wholes (ns : List Nat) : Quantity.sum (wholes ns) = .ok (.whole (wholeSum ns)) := by
  have hfold (m : Nat) : (wholes ns).foldlM Quantity.add (.whole m) =
      .ok (.whole (ns.foldl (· + ·) m : Nat)) := by
    induction ns generalizing m with
    | nil => rfl
    | cons n rest ih => exact ih (m + n)
  exact hfold 0

theorem ofWhole_natCast {n : Nat} (h : n ≤ twoPow 53) : ofWhole n = .ok (ofInt n) := by
  unfold ofWhole
  rw [ofInt_natCast h]
  rfl

theorem sameValue_zero {n : Nat} (hpos : 0 < n) (h : n ≤ twoPow 53) :
    (ofInt n).sameValue 0 = false := by
  have hzero : (0 : Binary64) =
      finite false (0 * unitsPerOne) (representable_whole (Nat.zero_le _)) :=
    ofInt_natCast (Nat.zero_le _)
  have hunits : n ≠ 0 ∧ unitsPerOne ≠ 0 :=
    ⟨Nat.pos_iff_ne_zero.1 hpos, Nat.pos_iff_ne_zero.1 unitsPerOne_pos⟩
  rw [ofInt_natCast h, hzero]
  simp [sameValue, isNaN, line, isNegative, magnitude, hunits]

/-- The length of a fraction of one is the length divided by the sum of the fractions. -/
theorem trackUnit_wholes {ns : List Nat} (hpos : 0 < wholeSum ns) (hsum : wholeSum ns ≤ twoPow 53)
    {total : Int} {k : Nat} (htotal : Below k (ofInt total)) :
    trackUnit (wholes ns) total = .ok (ofInt total / ofInt (wholeSum ns)) := by
  unfold trackUnit
  refine do_eq_ok.2 ⟨_, sum_wholes ns, do_eq_ok.2 ⟨_, ofWhole_natCast hsum, ?_⟩⟩
  refine do_eq_ok.2 ⟨_, ofWhole_of_below htotal, ?_⟩
  rw [sameValue_zero hpos hsum]
  rfl

/-- Every edge is a finite double, two binary digits longer at most than the one before. -/
theorem exists_edgesFrom {ns : List Nat} (hsmall : ∀ n ∈ ns, n < 4) {unit edge : Binary64}
    {j k : Nat} (hunit : Below j unit) (hedge : Below k edge) (hjk : j + 4 ≤ k)
    (hroom : k + 2 * ns.length ≤ 1024) :
    ∃ edges, edgesFrom unit edge (wholes ns) = .ok edges ∧ ∀ x ∈ edges, x.isFinite = true := by
  induction ns generalizing edge k with
  | nil => exact ⟨[], rfl, fun x hx => nomatch hx⟩
  | cons n rest ih =>
    obtain ⟨hn, hrest⟩ := List.forall_mem_cons.1 hsmall
    rw [List.length_cons] at hroom
    have hfraction : Below 3 (ofInt n) := below_ofInt (k := 2) hn (by omega)
    have htrack : Below (3 + j + 1) (ofInt n * unit) := hfraction.mul hunit (by omega)
    have hnext : Below (k + 2) (edge + ofInt n * unit) :=
      hedge.add (htrack.mono (by omega)) (by omega)
    obtain ⟨edges, hedges, hfinite⟩ := ih hrest hnext (by omega) (by omega)
    refine ⟨(edge + ofInt n * unit) :: edges, ?_,
      List.forall_mem_cons.2 ⟨hnext.isFinite, hfinite⟩⟩
    show edgesFrom unit edge (.whole n :: wholes rest) = _
    rw [edgesFrom]
    exact do_eq_ok.2 ⟨_, ofWhole_of_below hfraction, do_eq_ok.2 ⟨edges, hedges, rfl⟩⟩

theorem exists_mapM_roundWhole {edges : List Binary64} (h : ∀ x ∈ edges, x.isFinite = true) :
    ∃ pixels, edges.mapM roundWhole = .ok pixels := by
  induction edges with
  | nil => exact ⟨[], rfl⟩
  | cons edge rest ih =>
    obtain ⟨hedge, hrest⟩ := List.forall_mem_cons.1 h
    obtain ⟨pixels, hpixels⟩ := ih hrest
    cases edge with
    | nan | infinite => cases hedge
    | finite negative units representable =>
      refine ⟨(finite negative units representable).round :: pixels, ?_⟩
      rw [List.mapM_cons, hpixels]
      rfl

/-- **Tracks can be fitted to every length far below the largest double.** -/
theorem exists_tracks (ns : List Nat) (hsmall : ∀ n ∈ ns, n < 4) (hpos : 0 < wholeSum ns)
    (hsum : wholeSum ns ≤ twoPow 53) {start total : Int} {k : Nat}
    (hstart : start.natAbs < twoPow k) (htotal : total.natAbs < twoPow k)
    (hroom : k + 6 + 2 * ns.length ≤ 1024) :
    ∃ pixels, tracks (wholes ns) start total = .ok pixels := by
  have hlength : Below (k + 1) (ofInt total) := below_ofInt htotal (by omega)
  have hfirst : Below (k + 1) (ofInt start) := below_ofInt hstart (by omega)
  have hunit : Below (k + 2) (ofInt total / ofInt (wholeSum ns)) := by
    rw [ofInt_natCast hsum]
    exact hlength.div _ (Nat.le_mul_of_pos_left _ hpos) (by omega)
  obtain ⟨edges, hedges, hfinite⟩ :=
    exists_edgesFrom hsmall hunit (hfirst.mono (by omega : k + 1 ≤ k + 6)) (by omega) hroom
  obtain ⟨pixels, hpixels⟩ := exists_mapM_roundWhole hfinite
  unfold tracks
  rw [trackUnit_wholes hpos hsum hlength]
  cases ns with
  | nil => exact absurd hpos (Nat.lt_irrefl 0)
  | cons n rest =>
    refine ⟨start :: pixels, do_eq_ok.2 ⟨_, rfl, do_eq_ok.2 ⟨_, ofWhole_of_below hfirst, ?_⟩⟩⟩
    exact do_eq_ok.2 ⟨edges, hedges, do_eq_ok.2 ⟨pixels, hpixels, rfl⟩⟩

end DeskCalc.Grid
