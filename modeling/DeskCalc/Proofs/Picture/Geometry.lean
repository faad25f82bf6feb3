import DeskCalc.Proofs.Grid.Halves
import DeskCalc.Proofs.Picture.Placed

/-!
# The usual geometry

In a window of up to `2^31` pixels each way the areas of the usual grid fill the window but for its
margin, exactly, and every button is drawn inside its area and found at all pixels of its body. This
file fixes

* `TilesBox`: rectangles that fill a box and share no pixel;
* `Layout.Spread`: the calculator's layout between edges that are far enough apart, and
  `Spread.tilesBox`: its rectangles tile the box between the outermost edges;
* `Panel.Seated`: a button whose body lies in its area, and **`Spread.seated`**: every button does;
* **`usual_geometry`**: so it is after fitting to any size.
-/

namespace DeskCalc

/-! ## 1. Boxes -/

/-- Rectangles tile the box from one corner to another, which it does not hold: none is empty or
    reaches over an edge, no two share a pixel, and every pixel of the box lies in one. -/
structure TilesBox (rects : List (String × Rect)) (left top right bottom : Int) : Prop where
  inside : ∀ name r, (name, r) ∈ rects →
    left ≤ r.x ∧ 0 < r.width ∧ r.x + r.width ≤ right ∧
      top ≤ r.y ∧ 0 < r.height ∧ r.y + r.height ≤ bottom
  apart : rects.Pairwise fun a b =>
    ∀ px py, a.2.holds px py = true → b.2.holds px py = true → False
  covers : ∀ px py, left ≤ px → px < right → top ≤ py → py < bottom →
    ∃ name r, (name, r) ∈ rects ∧ r.holds px py = true

/-! ## 2. The areas -/

namespace Layout

/-- Between edges that are spread over a box, rectangles are inside it and large enough. -/
theorem Laid.rect_mem {l : Layout} {xs ys : List Int} (h : l.Laid xs ys)
    {left right top bottom wide high : Int} (hxs : Grid.Spread xs left right wide)
    (hys : Grid.Spread ys top bottom high) {name : String} {r : Rect} (hmem : (name, r) ∈ l.rects) :
    (left ≤ r.x ∧ wide ≤ r.width ∧ r.x + r.width ≤ right) ∧
      top ≤ r.y ∧ high ≤ r.height ∧ r.y + r.height ≤ bottom := by
  obtain ⟨block, hblock, rfl⟩ := h.exists_block hmem
  obtain ⟨⟨hleft, hright⟩, htop, hbottom⟩ := h.edges hblock
  obtain ⟨hspan, -⟩ := h.tiled.spans name block hblock
  have hacross := hxs.apart (Nat.lt_succ_of_le hspan.right) hleft hright
  have hdown := hys.apart (Nat.lt_succ_of_le hspan.bottom) htop hbottom
  have hfromX := hxs.between hleft
  have htoX := hxs.between hright
  have hfromY := hys.between htop
  have htoY := hys.between hbottom
  simp only [blockRect]
  omega

variable {layout : Layout} {width height : Int} {edges : List Int}

/-- Tracks behind a margin of 15 pixels, in a window of up to `2^31` pixels. -/
theorem spread_tracks_margin {ns : List Nat} {share least low : Nat} (hpos : 0 < ns.sum)
    (hsmall : ns.sum ≤ 12) (hprecise : 2 * (ns.sum * (2 * ns.length + ns.sum)) < twoPow 21)
    (hshare : ∀ n ∈ ns, share ≤ n) (hleast : ns.sum * (least + 1) ≤ share * low) {length : Int}
    (hlow : low + 2 * 15 ≤ length) (hhigh : length ≤ 2 ^ 31)
    (h : Grid.tracks (Grid.wholes ns) 15 (length - 2 * 15) = .ok edges) :
    Grid.Spread edges 15 (length - 15) least := by
  obtain ⟨total, htotal⟩ := Int.eq_ofNat_of_zero_le (show 0 ≤ length - 2 * 15 by omega)
  have hend : length - 15 = ((15 : Nat) : Int) + total := by omega
  have hroom : 15 + total + ns.sum ≤ twoPow 32 := by
    have hbits : twoPow 32 = 4294967296 := by decide
    omega
  have hlong : share * low ≤ share * total := Nat.mul_le_mul_left _ (by omega)
  rw [htotal] at h
  rw [hend]
  exact Grid.spread_tracks ⟨hpos, hprecise, hroom⟩ hshare (Nat.le_trans hleast hlong) h

/-- **The areas of the calculator's layout** fill the window but for a margin of 15 pixels, and each
    is at least 94 pixels wide and 77 high. -/
theorem tilesBox_calculator (hwide : 600 ≤ width ∧ width ≤ 2 ^ 31)
    (hhigh : 500 ≤ height ∧ height ≤ 2 ^ 31)
    (hfit : calculator.fit ⟨width, height, 15⟩ = .ok layout) :
    TilesBox layout.rects 15 15 (width - 15) (height - 15) ∧
      ∀ name r, (name, r) ∈ layout.rects → 94 ≤ r.width ∧ 77 ≤ r.height := by
  obtain ⟨xs, ys, hxs, hys, hlaid⟩ := (tiled_ofTemplate ofTemplate_calculator).laid_of_fit
    nonNegative_calculatorColumns nonNegative_calculatorRows hfit
  have hcells := hlaid.goesByCells_of_tracks nonNegative_calculatorColumns
    nonNegative_calculatorRows (by show 2 * 15 ≤ width; omega) (by show 2 * 15 ≤ height; omega)
    hxs hys
  change Grid.tracks (Grid.wholes [1, 1, 1, 1, 2]) 15 (width - 2 * 15) = .ok xs at hxs
  change Grid.tracks (Grid.wholes [2, 2, 2, 2, 2, 2]) 15 (height - 2 * 15) = .ok ys at hys
  have hshareX : ∀ n ∈ [1, 1, 1, 1, 2], 1 ≤ n := by decide
  have hleastX : [1, 1, 1, 1, 2].sum * (94 + 1) ≤ 1 * 570 := by decide
  have hshareY : ∀ n ∈ [2, 2, 2, 2, 2, 2], 2 ≤ n := by decide
  have hleastY : [2, 2, 2, 2, 2, 2].sum * (77 + 1) ≤ 2 * 470 := by decide
  have hspreadX := spread_tracks_margin (by decide) (by decide) (by decide) hshareX hleastX
    hwide.1 hwide.2 hxs
  have hspreadY := spread_tracks_margin (by decide) (by decide) (by decide) hshareY hleastY
    hhigh.1 hhigh.2 hys
  refine ⟨⟨fun name r hmem => ?_, hcells.apart, fun px py hleft hright htop hbottom => ?_⟩,
    fun name r hmem => ?_⟩
  · have hin := hlaid.rect_mem hspreadX hspreadY hmem
    omega
  · obtain ⟨name, harea⟩ := hcells.full hleft (hspreadX.getLastD_eq ▸ hright) htop
      (hspreadY.getLastD_eq ▸ hbottom)
    obtain ⟨r, hmem, hholds⟩ := exists_rect_of_areaAt harea
    exact ⟨name, r, hmem, hholds⟩
  · have hin := hlaid.rect_mem hspreadX hspreadY hmem
    omega

/-- The rectangle of an area is one of the layout. -/
theorem mem_rects_of_mem_areas {l : Layout} {area : String} (h : area ∈ l.rects.map (·.1)) :
    (area, l.rect area) ∈ l.rects := by
  unfold rect
  cases hlookup : l.rects.lookup area with
  | none =>
    obtain ⟨entry, hentry, rfl⟩ := List.mem_map.1 h
    have hother := List.lookup_eq_none_iff.1 hlookup entry hentry
    simp at hother
  | some r =>
    obtain ⟨before, after, hsplit, -⟩ := List.lookup_eq_some_iff.1 hlookup
    rw [Option.getD_some, hsplit]
    exact List.mem_append_right _ List.mem_cons_self

/-- Every button has an area. -/
theorem mem_areas_of_mem_buttons {size : Size} (hfit : calculator.fit size = .ok layout) :
    ∀ b ∈ Keypad.buttons, b.area ∈ layout.rects.map (·.1) := by
  have hareas : layout.rects.map (·.1) = calculator.blocks.map (·.1) := by
    obtain ⟨xs, ys, -, -, rfl⟩ := fit_eq_ok.1 hfit
    simp only [List.map_map]
    exact List.map_congr_left fun entry _ => rfl
  rw [hareas, calculator_eq]
  decide +kernel

end Layout

/-! ## 3. The buttons -/

namespace Panel

/-- A button is drawn inside its area: its body, which is not empty, and the shadow. At every pixel
    of the body, edges included, the button is found. -/
structure Seated (settings : Settings) (p : Panel) (b : Button) : Prop where
  area : (b.area, p.layout.rect b.area) ∈ p.layout.rects
  body : let r := p.layout.rect b.area
    ∃ color thickness, .box (r.x + 3) (r.y + 10) (r.x + r.width - 3) (r.y + r.height - 10)
      color thickness ∈ p.drawButton settings b
  inside : let r := p.layout.rect b.area
    ∀ x0 y0 x1 y1 color thickness, .box x0 y0 x1 y1 color thickness ∈ p.drawButton settings b →
      r.x + 3 ≤ x0 ∧ x0 < x1 ∧ x1 < r.x + r.width ∧
        r.y + 10 ≤ y0 ∧ y0 < y1 ∧ y1 < r.y + r.height
  found : let r := p.layout.rect b.area
    ∀ px py, r.x + 3 ≤ px → px ≤ r.x + r.width - 3 → r.y + 10 ≤ py → py ≤ r.y + r.height - 10 →
      p.button? px py = some b

variable {settings : Settings} {p : Panel} {b : Button}

/-- The boxes of a button are its body and its shadow. -/
theorem box_of_mem_drawButton {x0 y0 x1 y1 : Int} {color : Color} {thickness : Int}
    (h : .box x0 y0 x1 y1 color thickness ∈ p.drawButton settings b) :
    let r := p.layout.rect b.area
    ∃ across down, (across = 0 ∧ down = 0 ∨ across = 2 ∧ down = 3) ∧
      x0 = r.x + 3 + across ∧ y0 = r.y + 10 + down ∧
      x1 = r.x + r.width - 3 + across ∧ y1 = r.y + r.height - 10 + down := by
  intro r
  have hnone (n : Int) : n = n + 0 := (Int.add_zero n).symm
  unfold drawButton at h
  dsimp only at h
  split at h
  · simp only [List.mem_append, List.mem_cons, List.not_mem_nil, or_false, Stroke.box.injEq,
      reduceCtorEq] at h
    rcases h with ⟨rfl, rfl, rfl, rfl, -, -⟩ | ⟨rfl, rfl, rfl, rfl, -, -⟩
    · exact ⟨2, 3, .inr ⟨rfl, rfl⟩, rfl, rfl, rfl, rfl⟩
    · exact ⟨0, 0, .inl ⟨rfl, rfl⟩, hnone _, hnone _, hnone _, hnone _⟩
  · simp only [List.mem_append, List.mem_cons, List.not_mem_nil, or_false, Stroke.box.injEq,
      reduceCtorEq, false_or] at h
    rcases h with ⟨rfl, rfl, rfl, rfl, -, -⟩ | ⟨rfl, rfl, rfl, rfl, -, -⟩ <;>
      exact ⟨0, 0, .inl ⟨rfl, rfl⟩, hnone _, hnone _, hnone _, hnone _⟩

/-- Every button is drawn with a body. -/
theorem exists_body_mem_drawButton (settings : Settings) (p : Panel) (b : Button) :
    let r := p.layout.rect b.area
    ∃ color thickness, .box (r.x + 3) (r.y + 10) (r.x + r.width - 3) (r.y + r.height - 10)
      color thickness ∈ p.drawButton settings b := by
  unfold drawButton
  dsimp only
  split
  · exact ⟨_, _, List.mem_append_left _ (List.mem_cons_of_mem _ List.mem_cons_self)⟩
  · exact ⟨_, _, List.mem_append_left _ List.mem_cons_self⟩

/-- **In an area that is large enough every button is seated.** -/
theorem Placed.seated (h : p.Placed) (hb : b ∈ Keypad.buttons)
    (harea : (b.area, p.layout.rect b.area) ∈ p.layout.rects)
    (hwide : 6 < (p.layout.rect b.area).width) (hhigh : 20 < (p.layout.rect b.area).height) :
    Seated settings p b where
  area := harea
  body := exists_body_mem_drawButton settings p b
  inside := by
    intro r x0 y0 x1 y1 color thickness hbox
    obtain ⟨across, down, hshift, rfl, rfl, rfl, rfl⟩ := box_of_mem_drawButton hbox
    change 6 < r.width at hwide
    change 20 < r.height at hhigh
    dsimp only [r] at hwide hhigh ⊢
    omega
  found := by
    intro r px py hleft hright htop hbottom
    refine h.button?_of_holds hb ?_
    dsimp only [r] at hleft hright htop hbottom
    simp only [Rect.holds, Bool.and_eq_true, decide_eq_true_eq]
    omega

/-! ## 4. Every size -/

/-- Fitting never fails up to `2^31` pixels. -/
theorem exists_resize_usual (hgrid : p.Gridded) {width height : Int} (hwidth : width ≤ 2 ^ 31)
    (hheight : height ≤ 2 ^ 31) :
    ∃ layout, Layout.calculator.fit ⟨max width 600, max height 500, 15⟩ = .ok layout ∧
      p.resize {} width height =
        ({ p with width := max width 600, height := max height 500, layout }, none) := by
  have hmoderate (length : Int) (hlow : 0 ≤ length) (hhigh : length ≤ 2 ^ 31) :
      Moderate length := by
    have hbound : 2 ^ 31 < twoPow 998 := twoPow_lt (m := 31) (by decide)
    unfold Moderate
    omega
  obtain ⟨layout, hlayout⟩ := Layout.exists_resize_calculator
    (hmoderate (max width 600) (by omega) (by omega))
    (hmoderate (max height 500) (by omega) (by omega)) (hmoderate 15 (by decide) (by decide))
  have hfits : p.layout.resize (max width 600) (max height 500) 15 = .ok layout :=
    (hgrid _ _ _).trans hlayout
  refine ⟨layout, hlayout, ?_⟩
  simp only [resize, Settings.windowSize, Option.getD_some, hfits]

/-- **The usual geometry at every size.** Asked for any width and height up to `2^31` pixels, the
    calculator's grid is fitted to a window that is not too small. Its areas tile the window but for
    a margin of 15 pixels on each side, and every button is seated in its area. -/
theorem usual_geometry (hgrid : p.Gridded) {width height : Int} (hwidth : width ≤ 2 ^ 31)
    (hheight : height ≤ 2 ^ 31) :
    ∃ p' : Panel, p.resize {} width height = (p', none) ∧
      p'.width = max width 600 ∧ p'.height = max height 500 ∧
      TilesBox p'.layout.rects 15 15 (p'.width - 15) (p'.height - 15) ∧
      ∀ b ∈ Keypad.buttons, Seated {} p' b := by
  obtain ⟨layout, hfit, hresize⟩ := exists_resize_usual hgrid hwidth hheight
  obtain ⟨htiles, hlarge⟩ := Layout.tilesBox_calculator (by omega) (by omega) hfit
  refine ⟨_, hresize, rfl, rfl, htiles, fun b hb => ?_⟩
  have harea := Layout.mem_rects_of_mem_areas (Layout.mem_areas_of_mem_buttons hfit b hb)
  obtain ⟨hwide, hhigh⟩ := hlarge _ _ harea
  exact Placed.seated ⟨_, hfit⟩ hb harea (Int.lt_of_lt_of_le (by decide) hwide)
    (Int.lt_of_lt_of_le (by decide) hhigh)

/-- So it is in a window of odd sizes, whose length no track divides. -/
theorem usual_geometry_odd :
    let p : Panel := { width := 900, height := 600, layout := Layout.calculator }
    p.Gridded ∧ (1003 : Int) ≤ 2 ^ 31 ∧ (777 : Int) ≤ 2 ^ 31 ∧
    ∃ p' : Panel, p.resize {} 1003 777 = (p', none) ∧
      TilesBox p'.layout.rects 15 15 988 762 ∧ ∀ b ∈ Keypad.buttons, Seated {} p' b := by
  intro p
  have hgrid : p.Gridded := gridded_new 900 600
  have hwidth : (1003 : Int) ≤ 2 ^ 31 := by decide
  have hheight : (777 : Int) ≤ 2 ^ 31 := by decide
  obtain ⟨p', hresize, hwide, hhigh, htiles, hseated⟩ := usual_geometry hgrid hwidth hheight
  rw [hwide, hhigh] at htiles
  exact ⟨hgrid, hwidth, hheight, p', hresize, htiles, hseated⟩

end Panel

end DeskCalc
