import Mathlib.Data.List.Forall2
import DeskCalc.Proofs.Picture.Widths

/-!
# The rows of the history

Every entry of the history is fitted into one line by itself, and the next baseline is a line height
below, which depends on the scale of the entry. No scale makes a line higher than the least height
of a row, though, so that the rows are 36 pixels apart whatever the entries are. This file fixes

* `EntryScale`: the scales that entries have, and how high a line and how wide a byte is there;
* `Row` and `Row.Shows`: a line of the history, and when it shows an entry;
* **`exists_row`**: every entry has a row, and the next row is 36 pixels below;
* **`exists_drawEntries_eq`**: the rows from any baseline on;
* **`history_shows_newest`**: what the history panel shows, and `wide_row_leaves_panel`: a row that
  ends behind the margin.
-/

namespace DeskCalc

/-! ## 1. The scales of the entries -/

/-- A scale between the smallest and the largest one of an entry. -/
structure EntryScale (x : Binary64) : Prop where
  isFinite : x.isFinite = true
  least_le : (0.35 : Binary64).line ≤ x.line
  le_most : x.line ≤ (0.6 : Binary64).line

namespace EntryScale

variable {x : Binary64}

theorem pos (h : EntryScale x) : 0 < x.line := by
  have hleast : 0 < (0.35 : Binary64).line := by decide +kernel
  exact Int.lt_of_lt_of_le hleast h.least_le

theorem nonneg (h : EntryScale x) : 0 ≤ x.line := Int.le_of_lt h.pos

/-- A multiple is at most what it is at the largest scale. -/
theorem mul_upTo (h : EntryScale x) {k n : Nat} (hk : k ≤ twoPow 53) (hn : n ≤ twoPow 53)
    (hmost : (k : Int) * (0.6 : Binary64).line ≤ n * unitsPerOne) :
    (Binary64.ofInt k * x).UpTo n :=
  Binary64.upTo_natCast_mul hk hn h.isFinite h.nonneg
    (Int.le_trans (Int.mul_le_mul_of_nonneg_left h.le_most (Int.natCast_nonneg k)) hmost)

theorem upTo (h : EntryScale x) : x.UpTo 1 := by
  have hmost : (0.6 : Binary64).line ≤ (1 : Nat) * unitsPerOne := by decide +kernel
  exact ⟨h.isFinite, h.nonneg, Int.le_trans h.le_most hmost⟩

/-- A byte takes three fifths of its width at most. -/
theorem byte_upTo (h : EntryScale x) {width : Nat} (hwidth : width ≤ 72) :
    (Binary64.ofInt width * x).UpTo ((3 * width + 4) / 5) := by
  have hlarge : 72 ≤ twoPow 53 := by decide
  refine h.mul_upTo (by omega) (by omega) ?_
  have hmost : 5 * (0.6 : Binary64).line ≤ 3 * unitsPerOne := by decide +kernel
  have hshare : 3 * width ≤ 5 * ((3 * width + 4) / 5) := by omega
  generalize (3 * width + 4) / 5 = share at hshare ⊢
  have hfive : 5 * (width * (0.6 : Binary64).line) ≤ 5 * (share * unitsPerOne) :=
    calc 5 * ((width : Int) * (0.6 : Binary64).line)
        = width * (5 * (0.6 : Binary64).line) := Int.mul_left_comm _ _ _
      _ ≤ width * (3 * unitsPerOne) := Int.mul_le_mul_of_nonneg_left hmost (Int.natCast_nonneg _)
      _ = (3 * width : Nat) * unitsPerOne := by
          rw [Int.natCast_mul, Int.mul_left_comm, Int.mul_assoc]
          rfl
      _ ≤ (5 * share : Nat) * unitsPerOne :=
          Int.mul_le_mul_of_nonneg_right (Int.ofNat_le.2 hshare) (Int.natCast_nonneg _)
      _ = 5 * (share * unitsPerOne) := by
          rw [Int.natCast_mul, Int.mul_assoc]
          rfl
  omega

end EntryScale

/-- The bytes of a character take 44 pixels at most. -/
theorem sum_shares_byteWidths_le (c : Char) :
    ((Typeface.simplex.byteWidths c).map fun width => (3 * width + 4) / 5).sum ≤ 44 := by
  have hbyte := Typeface.sum_byteWidths_le c
  revert hbyte
  unfold Typeface.byteWidths
  split
  · intro hbyte
    rw [List.sum_singleton] at hbyte
    rw [List.map_singleton, List.sum_singleton]
    omega
  · intro _
    have hsize := c.utf8Size_le_four
    rw [List.map_replicate, List.sum_replicate_nat, Typeface.unknownWidth]
    omega

theorem EntryScale.advance_singleton_upTo {x : Binary64} (h : EntryScale x) {style : TextStyle}
    (hface : style.face = .simplex) (hfactor : style.factor = x) (c : Char) :
    (style.advance [c]).UpTo 44 := by
  show ((({} : Pen).put style c).advance).UpTo 44
  unfold Pen.put
  split
  · exact Pen.upTo_advance_nil.mono (Nat.zero_le _)
  · have hsum := sum_shares_byteWidths_le c
    have hlarge : 44 ≤ twoPow 53 := by decide
    have hshare : ∀ width ∈ Typeface.simplex.byteWidths c,
        (Binary64.ofInt width * x).UpTo ((3 * width + 4) / 5) := fun width hwidth =>
      h.byte_upTo (Nat.le_trans (List.le_sum_of_mem hwidth) (Typeface.sum_byteWidths_le c))
    rw [hface, hfactor]
    exact (Pen.foldl_upTo hshare Pen.upTo_advance_nil (by omega)).mono (by omega)

/-- Single characters and the dots have room in a panel that is not too narrow. -/
theorem EntryScale.roomy {x : Binary64} (h : EntryScale x) {style : TextStyle}
    (hface : style.face = .simplex) (hfactor : style.factor = x) {width : Nat}
    (hwide : 64 ≤ width) : Roomy style width := by
  intro line hline
  have hadvance : (style.advance line).UpTo 44 := by
    rcases hline with hshort | rfl
    · match line, hshort with
      | [], _ => exact Pen.upTo_advance_nil.mono (Nat.zero_le _)
      | [c], _ => exact h.advance_singleton_upTo hface hfactor c
    · have hdots : (style.advance ellipsis).UpTo _ :=
        TextStyle.advance_upTo hface (hfactor ▸ h.upTo) (by decide)
      exact hdots.mono (by decide)
  have hsum := (hadvance.add (Binary64.upTo_ofInt (n := 2) (by decide)) (by decide)).round_mem
    (by decide)
  omega

namespace Panel

variable {settings : Settings} {r : Rect}

theorem shrinking_entryBox (r : Rect) : (entryBox r).Shrinking :=
  .of_normal (.real (.of_magnitude (by decide +kernel) (by decide +kernel))) rfl
    (by decide +kernel) (by decide +kernel) rfl (Int.le_refl 1)

/-- **No line is higher than the least height of a row**, less its gap. -/
theorem lineHeight_entryBox_le {x : Binary64} (h : EntryScale x) {height : Int}
    (hheight : (entryBox r).lineHeight (.real x) = .ok height) : height ≤ 28 := by
  obtain ⟨gap, hgap, hsum⟩ := do_eq_ok.1 hheight
  let style := (entryBox r).style (.real x)
  have hone : (Binary64.ofInt 2 * 0.5).UpTo 1 :=
    ⟨by decide +kernel, by decide +kernel, by decide +kernel⟩
  have habove : style.textHeight ≤ (13 + 1 : Nat) := by
    have hshape := h.mul_upTo (k := 21) (n := 13) (by decide) (by decide) (by decide +kernel)
    exact (hshape.add (Binary64.upTo_ofInt (n := 1) (by decide)) (by decide)).round32_le (by decide)
  have hbelow : style.textDepth ≤ (6 + 1 : Nat) := by
    have hshape := h.mul_upTo (k := 9) (n := 6) (by decide) (by decide) (by decide +kernel)
    exact (hshape.add hone (by decide)).round32_le (by decide)
  have hbetween : gap ≤ (5 : Nat) := by
    have hshape := h.mul_upTo (k := 8) (n := 5) (by decide) (by decide) (by decide +kernel)
    have htruncate := hshape.truncate_le
    change (Binary64.ofInt (8 : Nat) * x).truncateWhole = .ok gap at hgap
    generalize Binary64.ofInt (8 : Nat) * x = product at htruncate hgap
    cases product with
    | nan | infinite => cases hgap
    | finite =>
      cases hgap
      exact htruncate
  have hheight : height = style.textHeight + style.textDepth + gap := (Except.ok.inj hsum).symm
  omega

/-! ## 2. One row -/

/-- A line of the history. -/
structure Row where
  text : List Char
  scale : Quantity

namespace Row

/-- The style that a row is drawn in. -/
def style (row : Row) : TextStyle := { scale := row.scale, thickness := 1 }

/-- A row as it is drawn on a baseline. -/
def stroke (settings : Settings) (r : Rect) (baseline : Int) (row : Row) : Stroke :=
  .text (String.ofList row.text) (r.x + 16) baseline row.style settings.textColor

/-- The row shows the entry: the whole of it, or a part with dots behind it, up to the margin at the
    right. All of the row is seen unless the entry has a NUL. -/
structure Shows (r : Rect) (entry : String) (row : Row) : Prop where
  spells : row.text = entry.toList ∨
    ∃ kept, row.text = kept ++ ellipsis ∧ kept <+: entry.toList ∧ kept ≠ entry.toList
  seen : '\x00' ∉ entry.toList → TextStyle.seen row.text = row.text
  inside : r.x + 16 + row.style.textWidth row.text ≤ r.x + r.width - 16

end Row

/-- A line that spells an entry at one of its scales ends before the margin. -/
theorem textWidth_entry_le (hwide : 96 ≤ r.width) {x : Binary64} (h : EntryScale x)
    {text : List Char} {lines : List (List Char)}
    (hspells : Spells ((entryBox r).style (.real x)) (r.width - 32) text lines)
    (hmeasurable : Measurable r.width text ∨ twoPow 31 + 31 ≤ r.width) {line : List Char}
    (hline : line ∈ lines) :
    (Row.style ⟨line, .real x⟩).textWidth line ≤ r.width - 32 := by
  rcases hmeasurable with hmeasurable | hhuge
  · obtain ⟨width, hwidth⟩ := Int.eq_ofNat_of_zero_le (show 0 ≤ r.width - 32 by omega)
    rw [hwidth] at hspells ⊢
    have hroomy : Roomy ((entryBox r).style (.real x)) width := h.roomy rfl rfl (by omega)
    let measured := (entryBox r).style (.real x)
    have hdrawn : Row.style ⟨line, .real x⟩ = { measured with thickness := ((1 : Nat) : Int) } :=
      rfl
    have hbits := hspells.not_overlong rfl h.upTo (by decide) rfl (hmeasurable.mono (by omega))
      hdrawn (by decide) hline
    exact (hspells.textWidth_other_le rfl h.pos rfl hroomy hdrawn (by decide) hline hbits).2.2
      (by decide)
  · have hbits : (Row.style ⟨line, .real x⟩).textWidth line < twoPow 31 := Binary64.round32_lt _
    omega

/-- **Every entry has a row**, and the next row is 36 pixels below. -/
theorem exists_row (hwide : 96 ≤ r.width) {entry : String}
    (hmeasurable : Measurable r.width entry.toList ∨ twoPow 31 + 31 ≤ r.width) :
    ∃ fitted, (entryBox r).fit entry.toList = .ok fitted ∧ max fitted.lineHeight 28 + 8 = 36 ∧
      Row.Shows r entry ⟨fitted.lines.headD [], fitted.scale⟩ := by
  obtain ⟨k, fitted, hfit, hscale, hheight, -, hbefore, hspells, hsome, hfew⟩ :=
    Box.exists_fit_spells (shrinking_entryBox r) entry.toList
  have hbetween : (0.35 : Binary64).line ≤ (0.6 : Binary64).line := by decide +kernel
  obtain ⟨x, hx, hfinite, hleast, hmost⟩ :=
    (shrinking_entryBox r).exists_scaleAt_between rfl rfl hbetween hbefore
  have husual : EntryScale x := ⟨hfinite, hleast, hmost⟩
  rw [hx] at hscale hheight hspells
  have hlow := lineHeight_entryBox_le husual hheight
  -- there is one line
  change (fitted.lines.length : Int) ≤ 1 at hfew
  obtain ⟨line, hline⟩ : ∃ line, fitted.lines = [line] :=
    List.length_eq_one_iff.1 (by omega)
  have hmem : line ∈ fitted.lines := hline ▸ List.mem_singleton_self line
  refine ⟨fitted, hfit, by omega, ?_, fun hnul => ?_, ?_⟩
  · rw [hline] at hspells
    simp only [hline, List.headD_cons]
    rcases hspells.flatten_eq with hwhole | ⟨earlier, last, kept, hlines, hbegins, hless, -⟩
    · rw [List.flatten_singleton] at hwhole
      exact .inl hwhole
    · obtain ⟨rfl, hkept⟩ : [] = earlier ∧ [line] = [kept ++ ellipsis] :=
        List.append_inj' hlines rfl
      obtain rfl := List.singleton_inj.1 hkept
      exact .inr ⟨kept, rfl, hbegins, hless⟩
  · simp only [hline, List.headD_cons]
    exact TextStyle.seen_eq_self (hspells.nul_not_mem hnul hmem)
  · have hwidth := textWidth_entry_le hwide husual hspells hmeasurable hmem
    simp only [hline, hscale, List.headD_cons]
    omega

/-! ## 3. The rows -/

/-- The number of rows from a baseline on, as far as the panel reaches. -/
def rowsBelow (r : Rect) (baseline : Int) : Nat := ((r.y + r.height - baseline) / 36 + 1).toNat

/-- Below the first row come the others, one row down. -/
theorem Row.mapIdx_stroke_cons (baseline : Int) (row : Row) (rows : List Row) :
    (row :: rows).mapIdx (fun i row => row.stroke settings r (baseline + 36 * i)) =
      row.stroke settings r baseline ::
        rows.mapIdx fun i row => row.stroke settings r (baseline + 36 + 36 * i) := by
  have hdown (i : Nat) : baseline + 36 * ((i + 1 : Nat) : Int) = baseline + 36 + 36 * i := by omega
  have hfirst : baseline + 36 * ((0 : Nat) : Int) = baseline := by omega
  rw [List.mapIdx_cons, hfirst]
  simp only [hdown]

/-- **The rows from a baseline on** are 36 pixels apart and show the first entries, as many as there
    is room for. -/
theorem exists_drawEntries_eq (settings : Settings) (hwide : 96 ≤ r.width) (baseline : Int)
    {entries : List String} (hmeasurable : ∀ entry ∈ entries,
      Measurable r.width entry.toList ∨ twoPow 31 + 31 ≤ r.width) :
    ∃ rows : List Row,
      drawEntries settings r baseline entries =
        .ok (rows.mapIdx fun i row => row.stroke settings r (baseline + 36 * i)) ∧
      List.Forall₂ (Row.Shows r) (entries.take (rowsBelow r baseline)) rows := by
  induction entries generalizing baseline with
  | nil => exact ⟨[], rfl, by simp⟩
  | cons entry rest ih =>
    unfold drawEntries
    by_cases hbelow : r.y + r.height < baseline
    · have hnone : rowsBelow r baseline = 0 := by
        unfold rowsBelow
        omega
      rw [if_pos hbelow, hnone]
      exact ⟨[], rfl, .nil⟩
    · obtain ⟨hfirst, hothers⟩ := List.forall_mem_cons.1 hmeasurable
      obtain ⟨fitted, hfit, hstep, hshows⟩ := exists_row hwide hfirst
      obtain ⟨rows, hrows, hrest⟩ := ih (baseline + 36) hothers
      have hmore : rowsBelow r baseline = rowsBelow r (baseline + 36) + 1 := by
        unfold rowsBelow
        omega
      rw [if_neg hbelow, hmore, List.take_succ_cons]
      refine ⟨⟨fitted.lines.headD [], fitted.scale⟩ :: rows, ?_, .cons hshows hrest⟩
      rw [Row.mapIdx_stroke_cons]
      exact do_eq_ok.2 ⟨fitted, hfit, do_eq_ok.2 ⟨_, by rw [hstep, hrows], rfl⟩⟩

/-! ## 4. The panel -/

/-- **The history shows its newest entries**, if 32 bits hold their widths or the panel is wider than
    that. Under the heading there are as many rows as there are entries, or as many as reach no
    further down than the panel, 36 pixels apart. Each shows the entry in its place, the newest one
    first: the whole of it, or a part with dots behind it, and it ends 16 pixels before the right
    edge. -/
theorem history_shows_newest (settings : Settings) (p : Panel) (s : State)
    (hwide : 96 ≤ (p.layout.rect "history").width)
    (hmeasurable : ∀ entry ∈ s.history,
      Measurable (p.layout.rect "history").width entry.toList ∨
        twoPow 31 + 31 ≤ (p.layout.rect "history").width) :
    let r := p.layout.rect "history"
    let count := min s.history.length ((r.height - 85) / 36 + 1).toNat
    ∃ rows : List Row,
      rows.length = count ∧
      p.drawHistory settings s = .ok (
        [.text "History" (r.x + 16) (r.y + 36) headingStyle settings.textColor,
         .line (r.x + 8) (r.y + 50) (r.x + 8 + (r.width - 16)) (r.y + 50) (.bgr 220 220 220) 1] ++
        rows.mapIdx fun i row => row.stroke settings r (r.y + 85 + 36 * i)) ∧
      (∀ i < count, r.y + 85 + 36 * (i : Int) ≤ r.y + r.height) ∧
      List.Forall₂ (Row.Shows r) (s.history.take count) rows := by
  intro r count
  obtain ⟨rows, hrows, hshows⟩ := exists_drawEntries_eq settings hwide (r.y + 85) hmeasurable
  have hreach : rowsBelow r (r.y + 85) = ((r.height - 85) / 36 + 1).toNat := by
    unfold rowsBelow
    congr 3
    omega
  have hcount : s.history.take (rowsBelow r (r.y + 85)) = s.history.take count := by
    rw [hreach, List.take_eq_take_iff]
    omega
  rw [hcount] at hshows
  refine ⟨rows, ?_, do_eq_ok.2 ⟨_, hrows, rfl⟩, fun i hi => ?_, hshows⟩
  · rw [← hshows.length_eq, List.length_take]
    omega
  · have hroom : i < ((r.height - 85) / 36 + 1).toNat :=
      Nat.lt_of_lt_of_le hi (Nat.min_le_right _ _)
    omega

/-- A panel of which only the history is there, as in a smallest window. -/
def historyPanel : Panel where
  width := 600
  height := 500
  layout := { Layout.calculator with rects := [("history", ⟨395, 15, 190, 470⟩)] }

/-- Of twelve entries eleven are shown under the heading. -/
theorem drawHistory_of_twelve :
    let s : State := { history := List.replicate 12 "1 + 1 = 2" }
    96 ≤ (historyPanel.layout.rect "history").width ∧
    (∀ entry ∈ s.history, Measurable (historyPanel.layout.rect "history").width entry.toList ∨
      twoPow 31 + 31 ≤ (historyPanel.layout.rect "history").width) ∧
    ∃ strokes, historyPanel.drawHistory {} s = .ok strokes ∧ strokes.length = 2 + 11 := by
  intro s
  have hrect : historyPanel.layout.rect "history" = ⟨395, 15, 190, 470⟩ := rfl
  have hwide : 96 ≤ (historyPanel.layout.rect "history").width := by rw [hrect]; decide
  have hmeasurable : ∀ entry ∈ s.history,
      Measurable (historyPanel.layout.rect "history").width entry.toList ∨
        twoPow 31 + 31 ≤ (historyPanel.layout.rect "history").width := by
    intro entry _
    rw [hrect]
    exact .inl (.inl (by decide))
  obtain ⟨rows, hcount, hdrawn, -⟩ := history_shows_newest {} historyPanel s hwide hmeasurable
  refine ⟨hwide, hmeasurable, _, hdrawn, ?_⟩
  rw [hrect] at hcount
  rw [List.length_append, List.length_mapIdx, hcount]
  rfl

/-- A panel of which only the history is there, a little wider than `2^31` pixels. -/
def wideHistoryPanel : Panel where
  width := 2147483678
  height := 500
  layout := { Layout.calculator with rects := [("history", ⟨0, 15, 2147483678, 470⟩)] }

/-- An entry that keeps the width of the wide panel is one row under the heading. -/
theorem exists_drawHistory_wideHistoryPanel {entry : String}
    (hkeeps : Keeps { scale := .real 0.6 } (2147483678 - 32) entry.toList) :
    ∃ heading rule, wideHistoryPanel.drawHistory {} { history := [entry] } =
      .ok [heading, rule, Row.stroke {} (wideHistoryPanel.layout.rect "history") (15 + 85)
        ⟨entry.toList, .real 0.6⟩] := by
  let r := wideHistoryPanel.layout.rect "history"
  let box := entryBox r
  have hmeasurable : (box.style box.maxScale).fault? = none := by decide +kernel
  have hheight : box.lineHeight box.maxScale = .ok 24 := by decide +kernel
  have hfit := Box.fit_eq_of_wrap hmeasurable (wrap_eq_of_keeps hkeeps) hheight (by decide)
    (by decide)
  have hentries : drawEntries {} r (15 + 85) [entry] =
      .ok [Row.stroke {} r (15 + 85) ⟨entry.toList, .real 0.6⟩] :=
    do_eq_ok.2 ⟨_, hfit, rfl⟩
  exact ⟨_, _, do_eq_ok.2 ⟨_, hentries, rfl⟩⟩

/-- At the largest scale of an entry a letter takes 18 pixels. -/
theorem fullWidth_letters {style : TextStyle} {n thickness : Nat} (hface : style.face = .simplex)
    (hfactor : style.factor = 0.6) (hthickness : style.thickness = thickness)
    (hroom : n * 18 + thickness ≤ twoPow 31) :
    style.fullWidth (List.replicate n 'm') = (n * 18 + thickness : Nat) := by
  have hlarge : twoPow 31 ≤ twoPow 53 := twoPow_le (by decide)
  have hbyte : Typeface.simplex.byteWidths 'm' = [30] := by decide
  have hshare : Binary64.ofInt (30 : Nat) * 0.6 = Binary64.ofInt (18 : Nat) := by decide +kernel
  have hadvance : style.advance (List.replicate n 'm') = Binary64.ofInt (n * 18 : Nat) :=
    TextStyle.advance_replicate (by decide) (hface ▸ hbyte) (hfactor ▸ hshare) (by omega)
  exact TextStyle.fullWidth_of_advance hthickness hadvance (by omega)

/-- Letters that are one pixel too wide for 32 bits are taken to have room. -/
theorem keeps_letters {n : Nat} (hn : n * 18 + 2 = twoPow 31) :
    Keeps { scale := .real 0.6 } (2147483678 - 32) (List.replicate n 'm') := by
  let measured : TextStyle := { scale := .real 0.6 }
  have hscale : 0 < measured.factor.line := by decide +kernel
  have hmeasurable : measured.fault? = none := by decide +kernel
  have hfull {k : Nat} (hk : k ≤ n) :
      measured.fullWidth (List.replicate k 'm') = (k * 18 + 2 : Nat) :=
    fullWidth_letters rfl rfl rfl (by omega)
  have hbits : twoPow 31 = 2147483648 := by decide
  cases n with
  | zero => omega
  | succ k =>
    have hnul : '\x00' ∉ List.replicate k 'm' := TextStyle.nul_not_mem_replicate (by decide) k
    have hall : twoPow 31 ≤ measured.fullWidth (List.replicate (k + 1) 'm') := by
      rw [hfull (Nat.le_refl _)]
      omega
    have hwidth := TextStyle.textWidth_of_le hscale hmeasurable hall
    rw [List.replicate_succ'] at hwidth ⊢
    refine (TextStyle.keeps_of_fullWidth_le hscale hmeasurable hnul ?_).concat ?_
    · rw [hfull (Nat.le_succ k)]
      omega
    · rw [hwidth]
      omega

/-- Drawn with strokes of one pixel the same letters are as wide as 32 bits hold. -/
theorem exists_drawHistory_letters {n : Nat} (hn : n * 18 + 2 = twoPow 31) :
    ∃ heading rule row,
      wideHistoryPanel.drawHistory {} { history := [String.ofList (List.replicate n 'm')] } =
        .ok [heading, rule,
          Row.stroke {} (wideHistoryPanel.layout.rect "history") (15 + 85) row] ∧
      row.text = (String.ofList (List.replicate n 'm')).toList ∧
      row.style.textWidth row.text = twoPow 31 - 1 := by
  have hkeeps := keeps_letters hn
  rw [← String.toList_ofList (l := List.replicate n 'm')] at hkeeps
  obtain ⟨heading, rule, hshown⟩ := exists_drawHistory_wideHistoryPanel hkeeps
  refine ⟨heading, rule, _, hshown, rfl, ?_⟩
  let drawn : TextStyle := { scale := .real 0.6, thickness := 1 }
  have hscale : 0 < drawn.factor.line := by decide +kernel
  have hmeasurable : drawn.fault? = none := by decide +kernel
  have hfull : drawn.fullWidth (List.replicate n 'm') = (n * 18 + 1 : Nat) :=
    fullWidth_letters rfl rfl rfl (by omega)
  show drawn.textWidth (String.ofList (List.replicate n 'm')).toList = _
  rw [String.toList_ofList, TextStyle.textWidth_eq_ite hscale hmeasurable, if_pos (by omega), hfull]
  omega

/-- Where less holds. A text of millions of letters that is one pixel too wide for 32 bits, as it is
    fitted, is taken to have room, and as it is drawn it ends behind the margin. And an entry with a
    NUL is taken whole, while only what stands before the NUL is seen. -/
theorem wide_row_leaves_panel :
    let r := wideHistoryPanel.layout.rect "history"
    96 ≤ r.width ∧ 85 ≤ r.height ∧
    (let entry := String.ofList (List.replicate 119304647 'm')
     ∃ heading rule row, wideHistoryPanel.drawHistory {} { history := [entry] } =
         .ok [heading, rule, Row.stroke {} r (r.y + 85) row] ∧ row.text = entry.toList ∧
       r.x + r.width - 16 < r.x + 16 + row.style.textWidth row.text) ∧
    (let entry := "12\x0034 = 5"
     ∃ heading rule row, wideHistoryPanel.drawHistory {} { history := [entry] } =
         .ok [heading, rule, Row.stroke {} r (r.y + 85) row] ∧ row.text = entry.toList ∧
       TextStyle.seen row.text = ['1', '2']) := by
  have hrect : wideHistoryPanel.layout.rect "history" = ⟨0, 15, 2147483678, 470⟩ := rfl
  refine ⟨by decide, by decide, ?_, ?_⟩
  · obtain ⟨heading, rule, row, hdrawn, htext, hwidth⟩ :=
      exists_drawHistory_letters (n := 119304647) (by decide)
    refine ⟨heading, rule, row, hdrawn, htext, ?_⟩
    have hbits : twoPow 31 = 2147483648 := by decide
    rw [hrect, hwidth]
    show (0 : Int) + 2147483678 - 16 < 0 + 16 + (twoPow 31 - 1)
    omega
  · have hkeeps : Keeps { scale := .real 0.6 } (2147483678 - 32) "12\x0034 = 5".toList := by
      decide +kernel
    obtain ⟨heading, rule, hdrawn⟩ := exists_drawHistory_wideHistoryPanel hkeeps
    exact ⟨heading, rule, _, hdrawn, rfl, by decide⟩

end Panel

end DeskCalc
