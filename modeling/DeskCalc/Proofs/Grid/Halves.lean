import Mathlib.Algebra.BigOperators.Group.List.Basic
import Mathlib.Algebra.Order.BigOperators.Group.List
import Mathlib.Algebra.Order.Ring.Int
import Mathlib.Algebra.Order.Ring.Nat
import Mathlib.Tactic.Linarith
import DeskCalc.Proofs.Grid.Edges
import DeskCalc.Proofs.Grid.Tracks
import DeskCalc.Proofs.Precision

/-!
# Edges within half a pixel

The edges of tracks are sums of rounded multiples of a rounded quotient. If the fractions are small
whole numbers and the length is below `2^32`, all that rounding does to them is so much less than a
pixel that every edge lies within half a pixel of its exact place, as if it were rounded only once.
So the last edge is exactly the end. This file fixes

* `edgesFrom_close`: the edges before they are rounded;
* `HalfPixel`, and **`tracks_halfPixel`**: every edge lies within half a pixel of its exact place;
* `tracks_end`: the last edge is the end of the length;
* `tracks_apart`: how far apart two edges are at least;
* `Spread`, and `spread_tracks`: edges over a whole length that are far enough apart.
-/

namespace DeskCalc.Grid

open Binary64

theorem nonNegative_wholes (ns : List Nat) : ∀ f ∈ wholes ns, f.NonNegative := by
  intro f hf
  obtain ⟨n, -, rfl⟩ := List.mem_map.1 hf
  exact Int.natCast_nonneg n

theorem wholeSum_eq_sum (ns : List Nat) : wholeSum ns = ns.sum := by
  rw [wholeSum, List.sum_eq_foldl]

/-! ## 1. Edges before they are rounded -/

/-- Every edge is off by two grains more than the one before: those of a multiple and of a sum. -/
theorem edgesFrom_close {ns : List Nat} {unit edge : Binary64} {edges : List Binary64}
    {most before grains : Nat} {place : Int} (hunit : unit.UpTo most) (hedge : edge.UpTo before)
    (hclose : edge.Close grains place) (hfractions : ns.sum ≤ twoPow 53)
    (hroom : before + ns.sum * most ≤ twoPow 32) (h : edgesFrom unit edge (wholes ns) = .ok edges)
    {i : Nat} {x : Binary64} (hx : edges[i]? = some x) :
    0 ≤ x.line ∧ x.Close (grains + 2 * (i + 1)) (place + (ns.take (i + 1)).sum * unit.line) := by
  induction ns generalizing edge edges before grains place i with
  | nil =>
    cases h
    cases hx
  | cons n rest ih =>
    change edgesFrom unit edge (.whole n :: wholes rest) = .ok edges at h
    simp only [edgesFrom, do_eq_ok] at h
    obtain ⟨size, hsize, others, hothers, hedges⟩ := h
    cases hedges
    obtain rfl : size = ofInt n := ofWhole_eq_ok hsize
    have hlarge : twoPow 32 ≤ twoPow 53 := twoPow_le (by decide)
    rw [List.sum_cons] at hfractions
    rw [List.sum_cons, Nat.add_mul] at hroom
    have hshare := hunit.natCast_mul (k := n) (by omega) (by omega)
    have hnext := hedge.add hshare (by omega)
    have hnextClose := hclose.add (hunit.close_natCast_mul (k := n) (by omega) (by omega)) hedge
      hshare (by omega)
    cases i with
    | zero =>
      cases hx
      rw [List.take_succ_cons, List.take_zero, List.sum_singleton]
      exact ⟨hnext.nonneg, hnextClose⟩
    | succ i =>
      have hplace : place + ((n :: rest).take (i + 1 + 1)).sum * unit.line =
          place + n * unit.line + (rest.take (i + 1)).sum * unit.line := by
        rw [List.take_succ_cons, List.sum_cons, Int.natCast_add, Int.add_mul, Int.add_assoc]
      have hgrains : grains + 2 * (i + 1 + 1) = grains + 1 + 1 + 2 * (i + 1) := by omega
      rw [hplace, hgrains]
      exact ih hnext hnextClose (by omega) (by omega) hothers hx

/-! ## 2. Edges in pixels -/

/-- A pixel lies within half a pixel of where `part` of `whole` shares of a length end, measured
    from the start of the length. -/
def HalfPixel (part whole total : Nat) (offset : Int) : Prop :=
  2 * (part * total : Int) ≤ 2 * (whole * offset) + whole ∧
    2 * (whole * offset) ≤ 2 * (part * total : Int) + whole

theorem halfPixel_start (whole total : Nat) : HalfPixel 0 whole total 0 := by
  unfold HalfPixel
  omega

/-- Grains that are less than a unit do not show in whole numbers. -/
theorem halfPixel_of_close {part whole total start grains : Nat} {x unit : Binary64}
    (hnonneg : 0 ≤ x.line) (hx : x.Close grains (start * unitsPerOne + part * unit.line))
    (hleast : (total * unitsPerOne : Int) ≤ (unit.line + grain) * whole)
    (hmost : unit.line * whole ≤ total * unitsPerOne + grain * whole)
    (hprecise : 2 * (whole * (grains + part)) < twoPow 21) :
    HalfPixel part whole total (x.round - start) := by
  obtain ⟨hbelow, habove⟩ := hx.round_mem hnonneg
  have hunits : (0 : Int) < unitsPerOne := Int.natCast_pos.2 unitsPerOne_pos
  -- in units all is multiplied by the number of shares
  have hbelow' := Int.mul_le_mul_of_nonneg_left hbelow (Int.natCast_nonneg whole)
  have habove' := Int.mul_le_mul_of_nonneg_left habove (Int.natCast_nonneg whole)
  have hleast' := Int.mul_le_mul_of_nonneg_left hleast (Int.natCast_nonneg part)
  have hmost' := Int.mul_le_mul_of_nonneg_left hmost (Int.natCast_nonneg part)
  have hgrains : (2 * (whole * (grains + part)) * grain : Int) < unitsPerOne := by
    have hgrain : 0 < grain := Nat.pos_of_mul_pos_left (a := twoPow 21) (by
      rw [grain_mul]; exact unitsPerOne_pos)
    have hless := Nat.mul_lt_mul_of_pos_right hprecise hgrain
    rw [grain_mul] at hless
    exact_mod_cast hless
  constructor
  · refine Int.le_of_lt_add_one (Int.lt_of_mul_lt_mul_right (a := unitsPerOne) ?_ hunits.le)
    linarith
  · refine Int.le_of_lt_add_one (Int.lt_of_mul_lt_mul_right (a := unitsPerOne) ?_ hunits.le)
    linarith

section Tracks

variable {ns : List Nat} {start total : Nat} {pixels : List Int}

/-- The fractions are small whole numbers, and the length ends before `2^32`. -/
structure Fine (ns : List Nat) (start total : Nat) : Prop where
  pos : 0 < ns.sum
  precise : 2 * (ns.sum * (2 * ns.length + ns.sum)) < twoPow 21
  room : start + total + ns.sum ≤ twoPow 32

theorem Fine.sum_le (h : Fine ns start total) : ns.sum ≤ twoPow 20 := by
  have hprecise := h.precise
  have hself : ns.sum ≤ ns.sum * (2 * ns.length + ns.sum) :=
    Nat.le_mul_of_pos_right _ (Nat.lt_of_lt_of_le h.pos (Nat.le_add_left _ _))
  have htwice : 2 * twoPow 20 = twoPow 21 := two_mul_twoPow 20
  omega

/-- One share is the rounded quotient of the length and the number of shares. -/
theorem Fine.unit_eq (h : Fine ns start total) {unit : Binary64}
    (hunit : trackUnit (wholes ns) total = .ok unit) : unit = ofInt total / ofInt ns.sum := by
  have hlarge : twoPow 20 ≤ twoPow 53 ∧ twoPow 32 < twoPow 33 :=
    ⟨twoPow_le (by decide), twoPow_lt (by decide)⟩
  have hsum := h.sum_le
  have hroom := h.room
  have hsmall : wholeSum ns ≤ twoPow 53 := by
    rw [wholeSum_eq_sum]
    omega
  have hdivided := trackUnit_wholes (wholeSum_eq_sum ns ▸ h.pos) hsmall
    (below_ofInt (n := total) (k := 33) (by omega) (by decide))
  rw [hunit, wholeSum_eq_sum] at hdivided
  exact Except.ok.inj hdivided

/-- **Every edge lies within half a pixel of its exact place.** -/
theorem tracks_halfPixel (hfine : Fine ns start total)
    (h : tracks (wholes ns) start total = .ok pixels) {i : Nat} {pixel : Int}
    (hpixel : pixels[i]? = some pixel) :
    HalfPixel (ns.take i).sum ns.sum total (pixel - start) := by
  obtain ⟨unit, edges, hunit, hedges, hfinite, rfl⟩ := tracks_eq_ok h
  have hlarge : twoPow 20 ≤ twoPow 32 ∧ twoPow 32 ≤ twoPow 53 :=
    ⟨twoPow_le (by decide), twoPow_le (by decide)⟩
  have hsum := hfine.sum_le
  have hroom := hfine.room
  cases i with
  | zero =>
    cases hpixel
    rw [List.take_zero, List.sum_nil, Int.sub_self]
    exact halfPixel_start _ _
  | succ i =>
    rw [List.getElem?_cons_succ, List.getElem?_map, Option.map_eq_some_iff] at hpixel
    obtain ⟨x, hx, rfl⟩ := hpixel
    have hlength : i < ns.length := by
      obtain ⟨hi, -⟩ := List.getElem?_eq_some_iff.1 hx
      rw [length_edgesFrom hedges, wholes, List.length_map] at hi
      exact hi
    have htotal : total ≤ twoPow 32 := by omega
    obtain ⟨hupTo, hleast, hmost⟩ := close_div hfine.pos hsum htotal
    rw [← hfine.unit_eq hunit] at hupTo hleast hmost
    have hshares : ns.sum * (total / ns.sum + 1) ≤ total + ns.sum := by
      rw [Nat.mul_succ]
      exact Nat.add_le_add_right (Nat.mul_div_le _ _) _
    have hstart := close_line (isFinite_ofInt_natCast (n := start) (by omega))
    rw [line_ofInt_natCast (by omega)] at hstart
    obtain ⟨hnonneg, hclose⟩ := edgesFrom_close hupTo (upTo_ofInt (by omega)) hstart (by omega)
      (by omega) hedges hx
    have hpart : (ns.take (i + 1)).sum ≤ ns.sum := (List.take_sublist _ _).sum_le_sum fun _ _ =>
      Nat.zero_le _
    refine halfPixel_of_close hnonneg hclose hleast hmost (Nat.lt_of_le_of_lt ?_ hfine.precise)
    exact Nat.mul_le_mul_left 2 (Nat.mul_le_mul_left _ (by omega))

/-- **The last edge is the end**, no pixel less. -/
theorem tracks_end (hfine : Fine ns start total)
    (h : tracks (wholes ns) start total = .ok pixels) {pixel : Int}
    (hpixel : pixels[ns.length]? = some pixel) : pixel = start + total := by
  obtain ⟨hbelow, habove⟩ := tracks_halfPixel hfine h hpixel
  have hpos := hfine.pos
  rw [List.take_length] at hbelow habove
  have hle : pixel - start ≤ total := by
    refine Int.le_of_lt_add_one (Int.lt_of_mul_lt_mul_left (a := ns.sum) ?_ (Int.natCast_nonneg _))
    rw [Int.mul_add, Int.mul_one]
    omega
  have hge : (total : Int) ≤ pixel - start := by
    refine Int.le_of_lt_add_one (Int.lt_of_mul_lt_mul_left (a := ns.sum) ?_ (Int.natCast_nonneg _))
    rw [Int.mul_add, Int.mul_one]
    omega
  omega

/-- All edges lie between the start and the end. -/
theorem tracks_between (hfine : Fine ns start total)
    (h : tracks (wholes ns) start total = .ok pixels) {i : Nat} {pixel : Int}
    (hpixel : pixels[i]? = some pixel) : (start : Int) ≤ pixel ∧ pixel ≤ start + total := by
  have hroom := hfine.room
  have hlarge : twoPow 32 ≤ twoPow 53 := twoPow_le (by decide)
  have hup := ascending_tracks (nonNegative_wholes ns) (Int.natCast_nonneg total) h
  rw [round_ofInt_natCast (by omega), ← head_tracks h] at hup
  have hlength : pixels.length = ns.length + 1 := by
    rw [length_tracks h, wholes, List.length_map]
  obtain ⟨hi, -⟩ := List.getElem?_eq_some_iff.1 hpixel
  have hfirst : pixels[0]? = some (start : Int) := by
    rw [head_tracks h]
    rfl
  have hlast := List.getElem?_eq_getElem (l := pixels) (i := ns.length) (by omega)
  have hend := tracks_end hfine h hlast
  have hle := le_of_ascending hup hpixel hlast (by omega)
  exact ⟨le_of_ascending hup hfirst hpixel (Nat.zero_le i), by omega⟩

theorem getLastD_tracks (hfine : Fine ns start total)
    (h : tracks (wholes ns) start total = .ok pixels) : pixels.getLastD start = start + total := by
  have hlength := length_tracks h
  rw [wholes, List.length_map, head_tracks h, List.length_cons] at hlength
  have hlast := getElem?_length_cons (start : Int) pixels.tail
  rw [← head_tracks h, Nat.succ.inj hlength] at hlast
  exact tracks_end hfine h hlast

/-- **Two edges are as far apart as the shares of the length between them**, up to a pixel. -/
theorem tracks_apart (hfine : Fine ns start total) {least : Nat} (hleast : ∀ n ∈ ns, least ≤ n)
    (h : tracks (wholes ns) start total = .ok pixels) {i j : Nat} (hij : i < j) {a b : Int}
    (ha : pixels[i]? = some a) (hb : pixels[j]? = some b) :
    (least * total : Int) ≤ ns.sum * (b - a + 1) := by
  obtain ⟨-, habove⟩ := tracks_halfPixel hfine h ha
  obtain ⟨hbelow, -⟩ := tracks_halfPixel hfine h hb
  have hlength : j < ns.length + 1 := by
    obtain ⟨hj, -⟩ := List.getElem?_eq_some_iff.1 hb
    rw [length_tracks h, wholes, List.length_map] at hj
    exact hj
  have hshares : (ns.take i).sum + least ≤ (ns.take j).sum := by
    have hnext : (ns.take (i + 1)).sum = (ns.take i).sum + ns[i] := by
      rw [List.sum_take_succ]
    have hmore : (ns.take (i + 1)).sum ≤ (ns.take j).sum :=
      ((List.take_prefix_take_left hij).sublist).sum_le_sum fun _ _ => Nat.zero_le _
    have hown := hleast _ (List.getElem_mem (show i < ns.length by omega))
    omega
  have hlengths := Int.mul_le_mul_of_nonneg_right (Int.ofNat_le.2 hshares)
    (Int.natCast_nonneg total)
  rw [Int.natCast_add, Int.add_mul] at hlengths
  simp only [Int.mul_sub, Int.mul_add, Int.mul_one] at habove hbelow ⊢
  omega

/-- Edges between two ends, each so far behind the one before at least. -/
structure Spread (edges : List Int) (first last least : Int) : Prop where
  between : ∀ {i : Nat} {pixel : Int}, edges[i]? = some pixel → first ≤ pixel ∧ pixel ≤ last
  apart : ∀ {i j : Nat} {a b : Int}, i < j → edges[i]? = some a → edges[j]? = some b →
    a + least ≤ b
  getLastD_eq : edges.getLastD first = last

/-- **The edges are spread over the whole length.** -/
theorem spread_tracks (hfine : Fine ns start total) {share least : Nat}
    (hshare : ∀ n ∈ ns, share ≤ n) (hlong : ns.sum * (least + 1) ≤ share * total)
    (h : tracks (wholes ns) start total = .ok pixels) :
    Spread pixels start (start + total) least where
  between hpixel := tracks_between hfine h hpixel
  apart {i j a b} hij ha hb := by
    have hapart := tracks_apart hfine hshare h hij ha hb
    have hpos : (0 : Int) < ns.sum := Int.natCast_pos.2 hfine.pos
    have hroom : (ns.sum * (least + 1) : Int) ≤ ns.sum * (b - a + 1) := by
      refine Int.le_trans ?_ hapart
      exact_mod_cast hlong
    have hle := Int.le_of_mul_le_mul_left hroom hpos
    omega
  getLastD_eq := getLastD_tracks hfine h

end Tracks

end DeskCalc.Grid
