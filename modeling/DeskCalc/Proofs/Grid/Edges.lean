import Mathlib.Data.List.Pairwise
import DeskCalc.Grid.Tracks
import DeskCalc.Proofs.Monotone
import DeskCalc.Proofs.Outcome

/-!
# Pixels between the edges of tracks

The edges of tracks are accumulated and rounded one by one, and for all that they never turn back:
a length that is not negative is laid out forward, any other one backward. Only the first edge may
stand out, for it is the start itself while all others are computed from the double nearest to it.
This file fixes

* `Quantity.NonNegative`: what fractions are assumed to be, and `nonNegative_sum`;
* `tracks_eq_ok`: the doubles behind the edges;
* **`ascending_tracks`**, `descending_tracks`: the edges behind the first one are in order;
* `InTrack`: a pixel lies between the two edges of a track;
* **`oneTrack_tracks`**: no pixel lies in two tracks;
* `exists_inTrack`: every pixel between two edges lies in a track.
-/

namespace DeskCalc

open Binary64

/-! ## 1. Fractions -/

namespace Quantity

/-- The quantity does not lie below zero. -/
def NonNegative : Quantity → Prop
  | whole n => 0 ≤ n
  | real x => 0 ≤ x.line

theorem nonNegative_of_atMost {q : Quantity} (h : (whole 0).atMost q = true) :
    q.NonNegative := by
  cases q with
  | whole n =>
    have hunits : 0 * (unitsPerOne : Int) ≤ n * unitsPerOne := by simpa [atMost, place?] using h
    exact Int.le_of_mul_le_mul_right hunits (by exact_mod_cast unitsPerOne_pos)
  | real x =>
    cases x with
    | nan => exact Int.le_refl 0
    | infinite s =>
      cases s with
      | false => exact Int.natCast_nonneg _
      | true => simp [atMost, place?] at h
    | finite s m hm =>
      show 0 ≤ (finite s m hm).line
      simpa [atMost, place?] using h

theorem forall_nonNegative {fractions : List Quantity}
    (h : ∀ f ∈ fractions, (whole 0).atMost f = true) : ∀ f ∈ fractions, f.NonNegative :=
  fun f hf => nonNegative_of_atMost (h f hf)

theorem NonNegative.nonneg_line {q : Quantity} (h : q.NonNegative) {x : Binary64}
    (hx : q.toBinary64 = .ok x) : 0 ≤ x.line := by
  cases q with
  | whole n =>
    have hnearest : ofWhole n = .ok x := hx
    unfold ofWhole at hnearest
    split at hnearest
    · cases hnearest
      exact nonneg_line_ofInt h
    · cases hnearest
  | real y =>
    cases hx
    exact h

theorem NonNegative.add {p q sum : Quantity} (hp : p.NonNegative) (hq : q.NonNegative)
    (h : p.add q = .ok sum) : sum.NonNegative := by
  have hreal (hsum : (do return real ((← p.toBinary64) + (← q.toBinary64))) =
      Except.ok (ε := ArithmeticFault) sum) : sum.NonNegative := by
    simp only [do_eq_ok] at hsum
    obtain ⟨x, hx, y, hy, hsum⟩ := hsum
    cases hsum
    exact nonneg_line_add (hp.nonneg_line hx) (hq.nonneg_line hy)
  cases p with
  | real x => exact hreal h
  | whole m =>
    cases q with
    | real y => exact hreal h
    | whole n =>
      cases h
      exact Int.add_nonneg hp hq

theorem nonNegative_sum {fractions : List Quantity} (hfractions : ∀ f ∈ fractions, f.NonNegative)
    {sum : Quantity} (h : Quantity.sum fractions = .ok sum) : sum.NonNegative := by
  have hzero : (whole 0).NonNegative := Int.le_refl 0
  unfold Quantity.sum at h
  generalize whole 0 = first at hzero h
  induction fractions generalizing first with
  | nil =>
    cases h
    exact hzero
  | cons f rest ih =>
    rw [List.foldlM_cons, do_eq_ok] at h
    obtain ⟨next, hnext, hrest⟩ := h
    obtain ⟨hf, hothers⟩ := List.forall_mem_cons.1 hfractions
    exact ih hothers next (hzero.add hf hnext) hrest

end Quantity

namespace Grid

/-! ## 2. Edges in order -/

theorem mapM_roundWhole_eq_ok {edges : List Binary64} {pixels : List Int} :
    edges.mapM roundWhole = .ok pixels ↔
      (∀ x ∈ edges, x.isFinite = true) ∧ pixels = edges.map Binary64.round := by
  induction edges generalizing pixels with
  | nil =>
    constructor
    · intro h
      cases h
      exact ⟨List.forall_mem_nil _, rfl⟩
    · rintro ⟨-, rfl⟩
      rfl
  | cons edge rest ih =>
    rw [List.mapM_cons, do_eq_ok, List.forall_mem_cons, List.map_cons]
    cases edge with
    | nan | infinite => simp [roundWhole, isFinite]
    | finite s m hm =>
      constructor
      · rintro ⟨_, hedge, h⟩
        obtain ⟨_, hrest, hpixels⟩ := do_eq_ok.1 h
        obtain ⟨hfinite, rfl⟩ := ih.1 hrest
        cases hedge
        cases hpixels
        exact ⟨⟨rfl, hfinite⟩, rfl⟩
      · rintro ⟨⟨-, hfinite⟩, rfl⟩
        exact ⟨_, rfl, do_eq_ok.2 ⟨_, ih.2 ⟨hfinite, rfl⟩, rfl⟩⟩

theorem ofWhole_eq_ok {n : Int} {x : Binary64} (h : ofWhole n = .ok x) : x = ofInt n := by
  unfold ofWhole at h
  split at h
  · cases h
    rfl
  · cases h

theorem isFinite_of_ofWhole {n : Int} {x : Binary64} (h : ofWhole n = .ok x) :
    (ofInt n).isFinite = true := by
  unfold ofWhole at h
  split at h
  · assumption
  · cases h

theorem length_edgesFrom {unit edge : Binary64} {fractions : List Quantity}
    {edges : List Binary64} (h : edgesFrom unit edge fractions = .ok edges) :
    edges.length = fractions.length := by
  induction fractions generalizing edge edges with
  | nil =>
    cases h
    rfl
  | cons f rest ih =>
    simp only [edgesFrom, do_eq_ok] at h
    obtain ⟨size, -, others, hothers, hedges⟩ := h
    cases hedges
    rw [List.length_cons, List.length_cons, ih hothers]

/-- The doubles behind the edges. -/
theorem tracks_eq_ok {fractions : List Quantity} {start total : Int} {pixels : List Int}
    (h : tracks fractions start total = .ok pixels) :
    ∃ unit edges, trackUnit fractions total = .ok unit ∧
      edgesFrom unit (ofInt start) fractions = .ok edges ∧
      (∀ x ∈ edges, x.isFinite = true) ∧ pixels = start :: edges.map Binary64.round := by
  unfold tracks at h
  obtain ⟨unit, hunit, h⟩ := do_eq_ok.1 h
  cases fractions with
  | nil =>
    cases h
    exact ⟨unit, [], hunit, rfl, List.forall_mem_nil _, rfl⟩
  | cons f rest =>
    simp only [do_eq_ok, mapM_roundWhole_eq_ok] at h
    obtain ⟨first, hfirst, edges, hedges, _, ⟨hfinite, rfl⟩, hpixels⟩ := h
    cases hpixels
    rw [ofWhole_eq_ok hfirst] at hedges
    exact ⟨unit, edges, hunit, hedges, hfinite, rfl⟩

theorem length_tracks {fractions : List Quantity} {start total : Int} {pixels : List Int}
    (h : tracks fractions start total = .ok pixels) : pixels.length = fractions.length + 1 := by
  obtain ⟨unit, edges, -, hedges, -, rfl⟩ := tracks_eq_ok h
  rw [List.length_cons, List.length_map, length_edgesFrom hedges]

/-- What each track does to the edge before it, all of them do. -/
theorem chain_edgesFrom {r : Int → Int → Prop} {unit edge : Binary64} {fractions : List Quantity}
    {edges : List Binary64}
    (hstep : ∀ x, ∀ f ∈ fractions, ∀ size, f.toBinary64 = .ok size →
      (x + size * unit).isFinite = true → r x.round (x + size * unit).round)
    (h : edgesFrom unit edge fractions = .ok edges) (hfinite : ∀ x ∈ edges, x.isFinite = true) :
    (edge.round :: edges.map Binary64.round).IsChain r := by
  induction fractions generalizing edge edges with
  | nil =>
    cases h
    exact .singleton _
  | cons f rest ih =>
    simp only [edgesFrom, do_eq_ok] at h
    obtain ⟨size, hsize, others, hothers, hedges⟩ := h
    cases hedges
    obtain ⟨hnext, hfinite⟩ := List.forall_mem_cons.1 hfinite
    rw [List.map_cons, List.isChain_cons_cons]
    exact ⟨hstep edge f List.mem_cons_self size hsize hnext,
      ih (fun x g hg => hstep x g (List.mem_cons_of_mem _ hg)) hothers hfinite⟩

section Order

variable {fractions : List Quantity} {start total : Int} {pixels : List Int}

/-- A unit is the length by the sum of the fractions, which is positive if it is a number. -/
theorem trackUnit_eq_ok (hfractions : ∀ f ∈ fractions, f.NonNegative) {unit : Binary64}
    (h : trackUnit fractions total = .ok unit) :
    ∃ divisor, (Quantity.sum fractions).bind Quantity.toBinary64 = .ok divisor ∧
      (divisor.isNaN = true ∨ 0 < divisor.line) ∧ (ofInt total).isFinite = true ∧
      unit = ofInt total / divisor := by
  unfold trackUnit at h
  simp only [do_eq_ok] at h
  obtain ⟨sum, hsum, divisor, hdivisor, length, hlength, h⟩ := h
  have hfinite := isFinite_of_ofWhole hlength
  obtain rfl := ofWhole_eq_ok hlength
  have hnonneg : 0 ≤ divisor.line := (Quantity.nonNegative_sum hfractions hsum).nonneg_line hdivisor
  split at h
  · cases h
  · rename_i hne
    cases h
    refine ⟨divisor, do_eq_ok.2 ⟨sum, hsum, hdivisor⟩, ?_, hfinite, rfl⟩
    cases hnan : divisor.isNaN with
    | true => exact .inl rfl
    | false =>
      refine .inr (Int.lt_iff_le_and_ne.2 ⟨hnonneg, fun hzero => hne ?_⟩)
      have hline : (0 : Binary64).line = 0 :=
        Int.le_antisymm (nonpos_line_ofInt (Int.le_refl 0)) (nonneg_line_ofInt (Int.le_refl 0))
      have hnumber : (0 : Binary64).isNaN = false := by
        rw [show (0 : Binary64) = _ from ofInt_natCast (Nat.zero_le _)]
        rfl
      simp [sameValue, hnan, hnumber, ← hzero, hline]

theorem nonneg_trackUnit (hfractions : ∀ f ∈ fractions, f.NonNegative) {unit : Binary64}
    (h : trackUnit fractions total = .ok unit) :
    (0 ≤ total → 0 ≤ unit.line) ∧ (total ≤ 0 → unit.line ≤ 0) := by
  obtain ⟨divisor, -, hnan | hpositive, -, rfl⟩ := trackUnit_eq_ok hfractions h
  · cases divisor with
    | nan =>
      have hunit : (ofInt total / nan).line = 0 := by cases ofInt total <;> rfl
      rw [hunit]
      exact ⟨fun _ => Int.le_refl 0, fun _ => Int.le_refl 0⟩
    | infinite | finite => cases hnan
  · exact ⟨fun htotal => nonneg_line_div (nonneg_line_ofInt htotal) hpositive,
      fun htotal => nonpos_line_div (nonpos_line_ofInt htotal) hpositive⟩

/-- **A length that is not negative is laid out forward** from the double nearest to the start. -/
theorem ascending_tracks (hfractions : ∀ f ∈ fractions, f.NonNegative) (htotal : 0 ≤ total)
    (h : tracks fractions start total = .ok pixels) :
    ((ofInt start).round :: pixels.tail).Pairwise (· ≤ ·) := by
  obtain ⟨unit, edges, hunit, hedges, hfinite, rfl⟩ := tracks_eq_ok h
  have hforward := (nonneg_trackUnit hfractions hunit).1 htotal
  refine (chain_edgesFrom (fun x f hf size hsize hnext => ?_) hedges hfinite).pairwise
  exact round_mono
    (line_le_line_add hnext (nonneg_line_mul ((hfractions f hf).nonneg_line hsize) hforward))

/-- A length that is not positive is laid out backward. -/
theorem descending_tracks (hfractions : ∀ f ∈ fractions, f.NonNegative) (htotal : total ≤ 0)
    (h : tracks fractions start total = .ok pixels) :
    ((ofInt start).round :: pixels.tail).Pairwise (· ≥ ·) := by
  obtain ⟨unit, edges, hunit, hedges, hfinite, rfl⟩ := tracks_eq_ok h
  have hbackward := (nonneg_trackUnit hfractions hunit).2 htotal
  refine (chain_edgesFrom (fun x f hf size hsize hnext => ?_) hedges hfinite).pairwise
  exact round_mono
    (line_add_le_line hnext (nonpos_line_mul ((hfractions f hf).nonneg_line hsize) hbackward))

theorem head_tracks (h : tracks fractions start total = .ok pixels) :
    pixels = start :: pixels.tail := by
  obtain ⟨unit, edges, -, -, -, rfl⟩ := tracks_eq_ok h
  rfl

end Order

/-! ## 3. Pixels in tracks -/

/-- A pixel lies in a track: not before its first edge, and before its second one. -/
def InTrack (edges : List Int) (track : Nat) (pixel : Int) : Prop :=
  ∃ start stop, edges[track]? = some start ∧ edges[track + 1]? = some stop ∧
    start ≤ pixel ∧ pixel < stop

/-- No pixel lies in two tracks. -/
def OneTrack (edges : List Int) : Prop :=
  ∀ {pixel : Int} {i j : Nat}, InTrack edges i pixel → InTrack edges j pixel → i = j

theorem le_of_ascending {edges : List Int} (h : edges.Pairwise (· ≤ ·)) {i j : Nat} {a b : Int}
    (ha : edges[i]? = some a) (hb : edges[j]? = some b) (hij : i ≤ j) : a ≤ b := by
  obtain ⟨hi, rfl⟩ := List.getElem?_eq_some_iff.1 ha
  obtain ⟨hj, rfl⟩ := List.getElem?_eq_some_iff.1 hb
  rcases Nat.lt_or_eq_of_le hij with hlt | rfl
  · exact List.pairwise_iff_getElem.1 h i j hi hj hlt
  · exact Int.le_refl _

/-- Edges that are in order behind the first one, either way, make tracks that share no pixel. -/
theorem oneTrack_of_pairwise {start : Int} {edges : List Int}
    (h : edges.Pairwise (· ≤ ·) ∨ edges.Pairwise (· ≥ ·)) : OneTrack (start :: edges) := by
  have hlt {pixel : Int} {i j : Nat} (hi : InTrack (start :: edges) i pixel)
      (hj : InTrack (start :: edges) j pixel) : ¬i < j := by
    intro hij
    obtain ⟨first, second, -, hsecond, -, hbefore⟩ := hi
    obtain ⟨third, fourth, hthird, hfourth, hfrom, hto⟩ := hj
    obtain ⟨k, rfl⟩ : ∃ k, j = k + 1 := ⟨j - 1, by omega⟩
    rw [List.getElem?_cons_succ] at hsecond hthird hfourth
    rcases h with hup | hdown
    · have hle := le_of_ascending hup hsecond hthird (Nat.le_of_lt_succ hij)
      omega
    · obtain ⟨hk, rfl⟩ := List.getElem?_eq_some_iff.1 hthird
      obtain ⟨hnext, rfl⟩ := List.getElem?_eq_some_iff.1 hfourth
      have hge : edges[k] ≥ edges[k + 1] :=
        List.pairwise_iff_getElem.1 hdown k (k + 1) hk hnext (Nat.lt_succ_self k)
      omega
  intro pixel i j hi hj
  exact Nat.le_antisymm (Nat.le_of_not_lt (hlt hj hi)) (Nat.le_of_not_lt (hlt hi hj))

/-- **No pixel lies in two tracks**, whichever way they are laid out. -/
theorem oneTrack_tracks {fractions : List Quantity} {start total : Int} {pixels : List Int}
    (hfractions : ∀ f ∈ fractions, f.NonNegative)
    (h : tracks fractions start total = .ok pixels) : OneTrack pixels := by
  rw [head_tracks h]
  rcases Int.le_total 0 total with htotal | htotal
  · exact oneTrack_of_pairwise (.inl (ascending_tracks hfractions htotal h).of_cons)
  · exact oneTrack_of_pairwise (.inr (descending_tracks hfractions htotal h).of_cons)

/-- **Every pixel between two edges lies in a track between them.** -/
theorem exists_inTrack {edges : List Int} {i j : Nat} {start stop pixel : Int}
    (hstart : edges[i]? = some start) (hstop : edges[j]? = some stop) (hfrom : start ≤ pixel)
    (hto : pixel < stop) (hij : i ≤ j) : ∃ k, i ≤ k ∧ k < j ∧ InTrack edges k pixel := by
  induction hij generalizing stop with
  | refl =>
    rw [hstart] at hstop
    cases hstop
    omega
  | @step j hij ih =>
    obtain ⟨hlength, -⟩ := List.getElem?_eq_some_iff.1 hstop
    have hedge : edges[j]? = some edges[j] := List.getElem?_eq_getElem (by omega)
    by_cases hbefore : pixel < edges[j]
    · obtain ⟨k, hik, hkj, htrack⟩ := ih hedge hbefore
      exact ⟨k, hik, Nat.lt_succ_of_lt hkj, htrack⟩
    · exact ⟨j, hij, Nat.lt_succ_self j, edges[j], stop, hedge, hstop, by omega, hto⟩

/-- A pixel of a track lies before every later edge, and behind every earlier one that is not the
    first. -/
theorem InTrack.within {start : Int} {edges : List Int} (hup : edges.Pairwise (· ≤ ·))
    {track : Nat} {pixel : Int} (h : InTrack (start :: edges) track pixel) {first last : Nat}
    (hfirst : first ≤ track) (hlast : track ≤ last) {a b : Int}
    (ha : (start :: edges)[first]? = some a) (hb : (start :: edges)[last + 1]? = some b) :
    (a ≤ pixel ↔ (first = 0 → start ≤ pixel)) ∧ pixel < b := by
  obtain ⟨lower, upper, hlower, hupper, hle, hlt⟩ := h
  constructor
  · cases first with
    | zero =>
      cases ha
      simp
    | succ k =>
      obtain ⟨j, rfl⟩ : ∃ j, track = j + 1 := ⟨track - 1, by omega⟩
      rw [List.getElem?_cons_succ] at ha hlower
      have hedges := le_of_ascending hup ha hlower (Nat.le_of_succ_le_succ hfirst)
      simp only [Nat.add_eq_zero_iff, Nat.one_ne_zero, and_false, false_implies, iff_true]
      omega
  · rw [List.getElem?_cons_succ] at hupper hb
    have hedges := le_of_ascending hup hupper hb hlast
    omega

theorem getElem?_length_cons (start : Int) (edges : List Int) :
    (start :: edges)[edges.length]? = some ((start :: edges).getLastD start) := by
  rw [List.getLastD_cons, List.getLastD_eq_getLast?, List.getLast?_eq_getElem?]
  cases edges with
  | nil => rfl
  | cons edge rest => simp

/-- Between the first edge and the last one every pixel lies in a track. -/
theorem exists_inTrack_of_lt_last {start : Int} {edges : List Int} {pixel : Int}
    (hfrom : start ≤ pixel) (hto : pixel < (start :: edges).getLastD start) :
    ∃ track, InTrack (start :: edges) track pixel := by
  have hfirst : (start :: edges)[0]? = some start := rfl
  obtain ⟨track, -, -, htrack⟩ :=
    exists_inTrack hfirst (getElem?_length_cons start edges) hfrom hto (Nat.zero_le _)
  exact ⟨track, htrack⟩

/-- The pixels of the tracks lie before the last edge. -/
theorem InTrack.lt_last {start : Int} {edges : List Int} (hup : edges.Pairwise (· ≤ ·))
    {track : Nat} {pixel : Int} (h : InTrack (start :: edges) track pixel) :
    pixel < (start :: edges).getLastD start := by
  obtain ⟨lower, upper, -, hupper, -, hlt⟩ := h
  cases edges with
  | nil => cases hupper
  | cons edge rest =>
    rw [List.getElem?_cons_succ] at hupper
    obtain ⟨hlength, -⟩ := List.getElem?_eq_some_iff.1 hupper
    have hlast := getElem?_length_cons edge rest
    have hle := le_of_ascending hup hupper hlast (Nat.le_of_lt_succ hlength)
    rw [List.getLastD_cons] at hle ⊢
    rw [List.getLastD_cons]
    omega

/-- If the double nearest to the start does not lie before it, no track does. -/
theorem InTrack.start_le {fractions : List Quantity} {start total : Int} {pixels : List Int}
    (hfractions : ∀ f ∈ fractions, f.NonNegative) (htotal : 0 ≤ total)
    (hstart : start ≤ (ofInt start).round) (h : tracks fractions start total = .ok pixels)
    {track : Nat} {pixel : Int} (hpixel : InTrack pixels track pixel) : start ≤ pixel := by
  obtain ⟨edge, stop, hedge, -, hfrom, -⟩ := hpixel
  rw [head_tracks h] at hedge
  rcases List.mem_cons.1 (List.mem_of_getElem? hedge) with rfl | hmem
  · exact hfrom
  · have hle := List.rel_of_pairwise_cons (ascending_tracks hfractions htotal h) hmem
    omega

end Grid

end DeskCalc
