import Mathlib.Algebra.Group.Int.Defs
import Mathlib.Algebra.Group.Nat.Defs
import Mathlib.Data.List.Nodup
import DeskCalc.Picture.Panel
import DeskCalc.Proofs.Grid.Cells
import DeskCalc.Proofs.Grid.Edges

/-!
# Finding the area under a pixel

An area is found by the first rectangle that holds the pixel. As the rectangles share the edges of
the tracks, they hold the pixels of the cells of their areas and no others, so that the order in
which they are searched does not matter. This file fixes

* `Size`, `Layout.ask`: a layout that is asked to be fitted to a size, and stays as it is if it cannot
  be; `Panel.layout_resize`: this is what a panel does;
* `InCell`: a pixel lies in a cell between the edges;
* `Layout.Laid`: the layout lies between the edges, and **`Laid.areaAt_of_holds`**: the area of a
  rectangle is found at all its pixels;
* `Layout.GoesByCells`: the areas found are those of the cells, and
  **`areaAt_goes_by_cells`**: so it is for every grid and every size that it can be fitted to;
* `pixel_beside_start`: a start that is no double may leave a pixel of a cell without its area.
-/

namespace DeskCalc

/-! ## 1. Asking for sizes -/

/-- What a layout is asked to be fitted to. -/
structure Size where
  width : Int
  height : Int
  padding : Int

namespace Layout

/-- The layout fitted to a size. -/
def fit (l : Layout) (size : Size) : Except ArithmeticFault Layout :=
  l.resize size.width size.height size.padding

/-- The layout after it was asked to be fitted to a size, whether it could be or not. -/
def ask (l : Layout) (size : Size) : Layout :=
  match l.fit size with
  | .ok fitted => fitted
  | .error _ => l

def askAll (l : Layout) (sizes : List Size) : Layout := sizes.foldl ask l

theorem askAll_append (l : Layout) (sizes : List Size) (size : Size) :
    l.askAll (sizes ++ [size]) = (l.askAll sizes).ask size :=
  List.foldl_append

/-- Fitting takes the edges of the tracks and leaves all but the rectangles as it is. -/
theorem fit_eq_ok {l fitted : Layout} {size : Size} :
    l.fit size = .ok fitted ↔
      ∃ xs ys, Grid.tracks l.columns size.padding (size.width - 2 * size.padding) = .ok xs ∧
        Grid.tracks l.rows size.padding (size.height - 2 * size.padding) = .ok ys ∧
        fitted =
          { l with rects := l.blocks.map fun (name, block) => (name, blockRect xs ys block) } := by
  unfold fit resize
  simp only [do_eq_ok]
  constructor
  · rintro ⟨xs, hxs, ys, hys, hfitted⟩
    cases hfitted
    exact ⟨xs, ys, hxs, hys, rfl⟩
  · rintro ⟨xs, ys, hxs, hys, rfl⟩
    exact ⟨xs, hxs, ys, hys, rfl⟩

theorem fit_of_columns_error {l : Layout} {size : Size} {fault : ArithmeticFault}
    (h : Grid.tracks l.columns size.padding (size.width - 2 * size.padding) = .error fault) :
    l.fit size = .error fault :=
  bind_eq_error.2 (.inl h)

theorem Tiled.with_rects {l : Layout} (h : l.Tiled) (rects : List (String × Rect)) :
    { l with rects := rects }.Tiled :=
  ⟨h.rows, h.columns, h.names, h.spans, h.covers, h.filled⟩

theorem ask_of_ok {l fitted : Layout} {size : Size} (h : l.fit size = .ok fitted) :
    l.ask size = fitted := by
  unfold ask
  rw [h]

theorem ask_of_error {l : Layout} {size : Size} {fault : ArithmeticFault}
    (h : l.fit size = .error fault) : l.ask size = l := by
  unfold ask
  rw [h]

/-- Asking for a size changes the rectangles at most. -/
theorem ask_eq (l : Layout) (size : Size) : ∃ rects, l.ask size = { l with rects := rects } := by
  unfold ask
  split
  · rename_i fitted hfitted
    obtain ⟨xs, ys, -, -, rfl⟩ := fit_eq_ok.1 hfitted
    exact ⟨_, rfl⟩
  · exact ⟨l.rects, rfl⟩

theorem askAll_eq (l : Layout) (sizes : List Size) :
    ∃ rects, l.askAll sizes = { l with rects := rects } := by
  induction sizes using List.reverseRecOn with
  | nil => exact ⟨l.rects, rfl⟩
  | append_singleton sizes size ih =>
    obtain ⟨rects, hrects⟩ := ih
    obtain ⟨newRects, hnew⟩ := ask_eq { l with rects := rects } size
    refine ⟨newRects, ?_⟩
    rw [askAll_append, hrects]
    exact hnew

/-- Sizes that the layout cannot be fitted to leave it as it is. -/
theorem askAll_of_error {l : Layout} {sizes : List Size}
    (h : ∀ size ∈ sizes, ∃ fault, l.fit size = .error fault) : l.askAll sizes = l := by
  induction sizes using List.reverseRecOn with
  | nil => rfl
  | append_singleton sizes size ih =>
    obtain ⟨fault, hfault⟩ := h size (List.mem_append_right _ List.mem_cons_self)
    rw [askAll_append,
      ih fun earlier hearlier => h earlier (List.mem_append_left _ hearlier)]
    exact ask_of_error hfault

end Layout

/-- A panel asks its layout for the size of its window. -/
theorem Panel.layout_resize (settings : Settings) (p : Panel) (width height : Int) :
    (p.resize settings width height).1.layout =
      p.layout.ask ⟨(settings.windowSize (some width) (some height)).1,
        (settings.windowSize (some width) (some height)).2, settings.padding⟩ := by
  unfold Panel.resize Layout.ask Layout.fit
  dsimp only
  split <;> simp only [*]

/-! ## 2. Pixels in cells and in rectangles -/

/-- A pixel lies in a cell between the edges of columns and rows. -/
structure InCell (xs ys : List Int) (row column : Nat) (px py : Int) : Prop where
  column : Grid.InTrack xs column px
  row : Grid.InTrack ys row py

namespace Layout

/-- The layout lies between the edges: they are one more than its columns and rows, no pixel lies in
    two tracks, and the rectangles are those of the blocks. -/
structure Laid (l : Layout) (xs ys : List Int) : Prop where
  tiled : l.Tiled
  width : xs.length = l.columns.length + 1
  height : ys.length = l.rows.length + 1
  oneColumn : Grid.OneTrack xs
  oneRow : Grid.OneTrack ys
  rects : l.rects = l.blocks.map fun (name, block) => (name, blockRect xs ys block)

theorem holds_blockRect {xs ys : List Int} {block : Grid.Block} {px py : Int} :
    (blockRect xs ys block).holds px py = true ↔
      (xs.getD block.left 0 ≤ px ∧ px < xs.getD (block.right + 1) 0) ∧
        ys.getD block.top 0 ≤ py ∧ py < ys.getD (block.bottom + 1) 0 := by
  unfold Rect.holds blockRect
  simp only [Bool.and_eq_true, decide_eq_true_eq]
  omega

section Laid

variable {l : Layout} {xs ys : List Int} {px py : Int}

theorem Laid.exists_block (h : l.Laid xs ys) {name : String} {rect : Rect}
    (hmem : (name, rect) ∈ l.rects) :
    ∃ block, (name, block) ∈ l.blocks ∧ rect = blockRect xs ys block := by
  rw [h.rects, List.mem_map] at hmem
  obtain ⟨⟨other, block⟩, hblock, heq⟩ := hmem
  cases heq
  exact ⟨block, hblock, rfl⟩

theorem Laid.mem_rects (h : l.Laid xs ys) {name : String} {block : Grid.Block}
    (hmem : (name, block) ∈ l.blocks) : (name, blockRect xs ys block) ∈ l.rects := by
  rw [h.rects]
  exact List.mem_map_of_mem hmem

/-- The edges of a block. -/
theorem Laid.edges (h : l.Laid xs ys) {name : String} {block : Grid.Block}
    (hmem : (name, block) ∈ l.blocks) :
    (xs[block.left]? = some (xs.getD block.left 0) ∧
      xs[block.right + 1]? = some (xs.getD (block.right + 1) 0)) ∧
    ys[block.top]? = some (ys.getD block.top 0) ∧
      ys[block.bottom + 1]? = some (ys.getD (block.bottom + 1) 0) := by
  obtain ⟨hfirst, hlast⟩ := h.tiled.spans name block hmem
  obtain ⟨htop, hleft⟩ := h.tiled.lt_of_holds hmem hfirst
  obtain ⟨hbottom, hright⟩ := h.tiled.lt_of_holds hmem hlast
  have hget {edges : List Int} {i : Nat} (hi : i < edges.length) :
      edges[i]? = some (edges.getD i 0) := by
    rw [List.getD_eq_getElem?_getD, List.getElem?_eq_getElem hi]
    rfl
  have hwidth := h.width
  have hheight := h.height
  exact ⟨⟨hget (by omega), hget (by omega)⟩, hget (by omega), hget (by omega)⟩

/-- A pixel of a rectangle lies in a cell of its area. -/
theorem Laid.exists_cell (h : l.Laid xs ys) {name : String} {block : Grid.Block}
    (hmem : (name, block) ∈ l.blocks) (hholds : (blockRect xs ys block).holds px py = true) :
    ∃ row column, block.Holds row column ∧ InCell xs ys row column px py := by
  obtain ⟨⟨hleft, hright⟩, htop, hbottom⟩ := holds_blockRect.1 hholds
  obtain ⟨⟨hxleft, hxright⟩, hytop, hybottom⟩ := h.edges hmem
  obtain ⟨hfirst, hlast⟩ := h.tiled.spans name block hmem
  obtain ⟨column, hfrom, hto, hcolumn⟩ :=
    Grid.exists_inTrack hxleft hxright hleft hright (Nat.le_succ_of_le hfirst.right)
  obtain ⟨row, habove, hbelow, hrow⟩ :=
    Grid.exists_inTrack hytop hybottom htop hbottom (Nat.le_succ_of_le hfirst.bottom)
  exact ⟨row, column,
    ⟨habove, Nat.le_of_lt_succ hbelow, hfrom, Nat.le_of_lt_succ hto⟩, hcolumn, hrow⟩

theorem Laid.cell_unique (h : l.Laid xs ys) {row column row' column' : Nat}
    (hcell : InCell xs ys row column px py) (hcell' : InCell xs ys row' column' px py) :
    row = row' ∧ column = column' :=
  ⟨h.oneRow hcell.row hcell'.row, h.oneColumn hcell.column hcell'.column⟩

/-- A pixel of a rectangle has the name of its area in its cell. -/
theorem Laid.nameAt?_of_holds (h : l.Laid xs ys) {name : String} {rect : Rect}
    (hmem : (name, rect) ∈ l.rects) (hholds : rect.holds px py = true) {row column : Nat}
    (hcell : InCell xs ys row column px py) : Grid.nameAt? l.grid row column = some name := by
  obtain ⟨block, hblock, rfl⟩ := h.exists_block hmem
  obtain ⟨r, c, hin, hown⟩ := h.exists_cell hblock hholds
  obtain ⟨rfl, rfl⟩ := h.cell_unique hcell hown
  exact h.tiled.filled name block hblock _ _ hin

/-- Rectangles that share a pixel are those of one area. -/
theorem Laid.name_eq (h : l.Laid xs ys) {name name' : String} {rect rect' : Rect}
    (hmem : (name, rect) ∈ l.rects) (hmem' : (name', rect') ∈ l.rects)
    (hholds : rect.holds px py = true) (hholds' : rect'.holds px py = true) : name = name' := by
  obtain ⟨block, hblock, rfl⟩ := h.exists_block hmem
  obtain ⟨r, c, -, hcell⟩ := h.exists_cell hblock hholds
  have hname := h.nameAt?_of_holds hmem hholds hcell
  have hname' := h.nameAt?_of_holds hmem' hholds' hcell
  exact Option.some.inj (hname.symm.trans hname')

/-- An area whose rectangle holds a pixel is one of the layout. -/
theorem mem_rects_of_holds {area : String} (h : (l.rect area).holds px py = true) :
    (area, l.rect area) ∈ l.rects := by
  unfold rect at h ⊢
  cases hlookup : l.rects.lookup area with
  | none =>
    rw [hlookup] at h
    simp only [Rect.holds, Option.getD_none, Bool.and_eq_true, decide_eq_true_eq] at h
    omega
  | some r =>
    obtain ⟨before, after, hsplit, -⟩ := List.lookup_eq_some_iff.1 hlookup
    rw [Option.getD_some, hsplit]
    exact List.mem_append_right _ List.mem_cons_self

theorem exists_rect_of_areaAt {name : String} (h : l.areaAt px py = some name) :
    ∃ rect, (name, rect) ∈ l.rects ∧ rect.holds px py = true := by
  obtain ⟨⟨other, rect⟩, hfind, rfl⟩ := Option.map_eq_some_iff.1 h
  exact ⟨rect, List.mem_of_find?_eq_some hfind, by simpa using List.find?_some hfind⟩

/-- **The area of a rectangle is found at all its pixels.** -/
theorem Laid.areaAt_of_holds (h : l.Laid xs ys) {name : String} {rect : Rect}
    (hmem : (name, rect) ∈ l.rects) (hholds : rect.holds px py = true) :
    l.areaAt px py = some name := by
  cases hfound : l.areaAt px py with
  | none =>
    have hnone := List.find?_eq_none.1 (Option.map_eq_none_iff.1 hfound) (name, rect) hmem
    exact absurd hholds hnone
  | some other =>
    obtain ⟨otherRect, hother, hholds'⟩ := exists_rect_of_areaAt hfound
    rw [h.name_eq hother hmem hholds' hholds]

/-- Where an area is found there is a cell. -/
theorem Laid.exists_cell_of_areaAt (h : l.Laid xs ys) {name : String}
    (hfound : l.areaAt px py = some name) :
    ∃ row column, InCell xs ys row column px py := by
  obtain ⟨rect, hrect, hholds⟩ := exists_rect_of_areaAt hfound
  obtain ⟨block, hblock, rfl⟩ := h.exists_block hrect
  obtain ⟨row, column, -, hcell⟩ := h.exists_cell hblock hholds
  exact ⟨row, column, hcell⟩

/-- An area found in a cell is that of the cell, and its rectangle holds the pixel. -/
theorem Laid.holds_of_areaAt (h : l.Laid xs ys) {row column : Nat}
    (hcell : InCell xs ys row column px py) {name : String} {block : Grid.Block}
    (hname : Grid.nameAt? l.grid row column = some name) (hblock : (name, block) ∈ l.blocks)
    (hfound : l.areaAt px py ≠ none) : (blockRect xs ys block).holds px py = true := by
  obtain ⟨other, harea⟩ := Option.ne_none_iff_exists'.1 hfound
  obtain ⟨rect, hrect, hholds⟩ := exists_rect_of_areaAt harea
  obtain rfl : other = name :=
    Option.some.inj ((h.nameAt?_of_holds hrect hholds hcell).symm.trans hname)
  obtain ⟨block', hblock', rfl⟩ := h.exists_block hrect
  have hsame := List.inj_on_of_nodup_map h.tiled.names hblock' hblock rfl
  cases hsame
  exact hholds

/-- The cells between the edges are those of the grid. -/
theorem Laid.lt_of_inCell (h : l.Laid xs ys) {row column : Nat}
    (hcell : InCell xs ys row column px py) :
    row < l.grid.length ∧ column < l.columns.length := by
  obtain ⟨⟨_, _, -, hright, -⟩, ⟨_, _, -, hbelow, -⟩⟩ := hcell
  obtain ⟨hcolumn, -⟩ := List.getElem?_eq_some_iff.1 hright
  obtain ⟨hrow, -⟩ := List.getElem?_eq_some_iff.1 hbelow
  rw [h.width] at hcolumn
  rw [h.height, h.tiled.rows] at hrow
  exact ⟨Nat.lt_of_succ_lt_succ hrow, Nat.lt_of_succ_lt_succ hcolumn⟩

/-- No two rectangles share a pixel. -/
theorem Laid.apart (h : l.Laid xs ys) :
    l.rects.Pairwise fun a b =>
      ∀ px py, a.2.holds px py = true → b.2.holds px py = true → False := by
  have hnames : (l.rects.map (·.1)).Nodup := by
    rw [h.rects, List.map_map]
    exact h.tiled.names
  rw [List.Nodup, List.pairwise_map] at hnames
  refine hnames.imp_of_mem fun {a b} ha hb hne px py hholds hholds' => hne ?_
  exact h.name_eq ha hb hholds hholds'

end Laid

/-! ## 3. Areas of cells -/

/-- **The areas found are those of the cells** between the edges, which begin at the padding.

    Edges behind the first one never turn back, but they may come to lie before it: the first is the
    padding itself, the others are computed from the double nearest to it. If that double does not
    lie before the padding, the areas are just those of the cells (`regular`). -/
structure GoesByCells (l : Layout) (padding : Int) (xs ys : List Int) : Prop where
  first : xs.head? = some padding ∧ ys.head? = some padding
  /-- No pixel lies in two cells. -/
  one : ∀ {px py row column row' column'}, InCell xs ys row column px py →
    InCell xs ys row' column' px py → row = row' ∧ column = column'
  /-- At a pixel of a cell its area is found, but not before the first edge if it begins there. -/
  hit : ∀ {px py row column}, InCell xs ys row column px py →
    ∃ name block, Grid.nameAt? l.grid row column = some name ∧ (name, block) ∈ l.blocks ∧
      block.Holds row column ∧
      l.areaAt px py =
        if (block.left = 0 → padding ≤ px) ∧ (block.top = 0 → padding ≤ py) then some name
        else none
  miss : ∀ {px py}, (∀ row column, ¬InCell xs ys row column px py) → l.areaAt px py = none
  apart : l.rects.Pairwise fun a b =>
    ∀ px py, a.2.holds px py = true → b.2.holds px py = true → False
  /-- The box from the first edges to the last ones has no gap. -/
  full : ∀ {px py}, padding ≤ px → px < xs.getLastD padding → padding ≤ py →
    py < ys.getLastD padding → ∃ name, l.areaAt px py = some name
  regular : padding ≤ (Binary64.ofInt padding).round →
    (∀ {px py row column}, InCell xs ys row column px py →
      ∃ name, Grid.nameAt? l.grid row column = some name ∧ l.areaAt px py = some name) ∧
    ∀ {px py}, l.areaAt px py ≠ none →
      (padding ≤ px ∧ px < xs.getLastD padding) ∧ padding ≤ py ∧ py < ys.getLastD padding

section Ascending

variable {l : Layout} {padding : Int} {xs ys : List Int} {px py : Int}

/-- The area of a cell is found at the pixels of the cell that do not lie before its rectangle. -/
theorem Laid.areaAt_of_cell (h : l.Laid (padding :: xs) (padding :: ys))
    (hxs : xs.Pairwise (· ≤ ·)) (hys : ys.Pairwise (· ≤ ·)) {row column : Nat}
    (hcell : InCell (padding :: xs) (padding :: ys) row column px py) :
    ∃ name block, Grid.nameAt? l.grid row column = some name ∧ (name, block) ∈ l.blocks ∧
      block.Holds row column ∧
      l.areaAt px py =
        if (block.left = 0 → padding ≤ px) ∧ (block.top = 0 → padding ≤ py) then some name
        else none := by
  obtain ⟨hrow, hcolumn⟩ := h.lt_of_inCell hcell
  obtain ⟨name, hname⟩ := h.tiled.exists_name hrow hcolumn
  obtain ⟨block, hblock, hin⟩ := h.tiled.covers name row column hname
  have hedges := h.edges hblock
  obtain ⟨hleft, hright⟩ := hcell.column.within hxs hin.left hin.right hedges.1.1 hedges.1.2
  obtain ⟨htop, hbottom⟩ := hcell.row.within hys hin.top hin.bottom hedges.2.1 hedges.2.2
  refine ⟨name, block, hname, hblock, hin, ?_⟩
  have hholds : (blockRect (padding :: xs) (padding :: ys) block).holds px py = true ↔
      (block.left = 0 → padding ≤ px) ∧ (block.top = 0 → padding ≤ py) := by
    rw [holds_blockRect, hleft, htop]
    simp only [hright, hbottom, and_true]
  split
  · rename_i hinside
    exact h.areaAt_of_holds (h.mem_rects hblock) (hholds.2 hinside)
  · rename_i houtside
    by_contra hfound
    exact houtside (hholds.1 (h.holds_of_areaAt hcell hname hblock hfound))

theorem Laid.goesByCells (h : l.Laid (padding :: xs) (padding :: ys))
    (hxs : xs.Pairwise (· ≤ ·)) (hys : ys.Pairwise (· ≤ ·))
    (hstart : padding ≤ (Binary64.ofInt padding).round →
      ∀ {px py row column}, InCell (padding :: xs) (padding :: ys) row column px py →
        padding ≤ px ∧ padding ≤ py) :
    l.GoesByCells padding (padding :: xs) (padding :: ys) where
  first := ⟨rfl, rfl⟩
  one hcell hcell' := h.cell_unique hcell hcell'
  hit hcell := h.areaAt_of_cell hxs hys hcell
  miss {px py} hnone := by
    cases hfound : l.areaAt px py with
    | none => rfl
    | some name =>
      obtain ⟨row, column, hcell⟩ := h.exists_cell_of_areaAt hfound
      exact absurd hcell (hnone row column)
  apart := h.apart
  full hleft hright htop hbottom := by
    obtain ⟨column, hcolumn⟩ := Grid.exists_inTrack_of_lt_last hleft hright
    obtain ⟨row, hrow⟩ := Grid.exists_inTrack_of_lt_last htop hbottom
    obtain ⟨name, block, -, -, -, harea⟩ := h.areaAt_of_cell hxs hys ⟨hcolumn, hrow⟩
    exact ⟨name, harea.trans (if_pos ⟨fun _ => hleft, fun _ => htop⟩)⟩
  regular hnearest := by
    constructor
    · intro px py row column hcell
      obtain ⟨name, block, hname, -, -, harea⟩ := h.areaAt_of_cell hxs hys hcell
      obtain ⟨hleft, htop⟩ := hstart hnearest hcell
      exact ⟨name, hname, harea.trans (if_pos ⟨fun _ => hleft, fun _ => htop⟩)⟩
    · intro px py hfound
      obtain ⟨name, harea⟩ := Option.ne_none_iff_exists'.1 hfound
      obtain ⟨row, column, hcell⟩ := h.exists_cell_of_areaAt harea
      obtain ⟨hleft, htop⟩ := hstart hnearest hcell
      exact ⟨⟨hleft, hcell.column.lt_last hxs⟩, htop, hcell.row.lt_last hys⟩

end Ascending

/-! ## 4. Every grid, every size -/

section Fitted

variable {l fitted : Layout} {size : Size}

/-- A layout that tiles its grid lies, once it is fitted, between the edges of its tracks. -/
theorem Tiled.laid_of_fit (h : l.Tiled) (hcolumns : ∀ f ∈ l.columns, f.NonNegative)
    (hrows : ∀ f ∈ l.rows, f.NonNegative) (hfit : l.fit size = .ok fitted) :
    ∃ xs ys, Grid.tracks l.columns size.padding (size.width - 2 * size.padding) = .ok xs ∧
      Grid.tracks l.rows size.padding (size.height - 2 * size.padding) = .ok ys ∧
      fitted.Laid xs ys := by
  obtain ⟨xs, ys, hxs, hys, rfl⟩ := fit_eq_ok.1 hfit
  exact ⟨xs, ys, hxs, hys, {
    tiled := h.with_rects _
    width := Grid.length_tracks hxs
    height := Grid.length_tracks hys
    oneColumn := Grid.oneTrack_tracks hcolumns hxs
    oneRow := Grid.oneTrack_tracks hrows hys
    rects := rfl }⟩

theorem Laid.goesByCells_of_tracks {xs ys : List Int} (h : fitted.Laid xs ys)
    (hcolumns : ∀ f ∈ l.columns, f.NonNegative) (hrows : ∀ f ∈ l.rows, f.NonNegative)
    (hwidth : 2 * size.padding ≤ size.width) (hheight : 2 * size.padding ≤ size.height)
    (hxs : Grid.tracks l.columns size.padding (size.width - 2 * size.padding) = .ok xs)
    (hys : Grid.tracks l.rows size.padding (size.height - 2 * size.padding) = .ok ys) :
    fitted.GoesByCells size.padding xs ys := by
  have htotalX : 0 ≤ size.width - 2 * size.padding := by omega
  have htotalY : 0 ≤ size.height - 2 * size.padding := by omega
  have hupX := (Grid.ascending_tracks hcolumns htotalX hxs).of_cons
  have hupY := (Grid.ascending_tracks hrows htotalY hys).of_cons
  have hstart (hnearest : size.padding ≤ (Binary64.ofInt size.padding).round) {px py row column}
      (hcell : InCell xs ys row column px py) : size.padding ≤ px ∧ size.padding ≤ py :=
    ⟨hcell.column.start_le hcolumns htotalX hnearest hxs,
      hcell.row.start_le hrows htotalY hnearest hys⟩
  rw [Grid.head_tracks hxs, Grid.head_tracks hys] at h hstart ⊢
  exact h.goesByCells hupX hupY hstart

end Fitted

/-- **The areas found are those of the cells**, for every grid whose fractions are not negative and
    every size with room for the padding that the layout can be fitted to, whatever sizes it was
    asked for before. Sizes that it cannot be fitted to afterwards leave its rectangles as they are.
    The double nearest to a padding within 2⁵³ does not lie before it. -/
theorem areaAt_goes_by_cells {template : String} {columns rows : List Quantity}
    {made fitted : Layout} {before after : List Size} {size : Size}
    (hmade : ofTemplate template columns rows = .ok made)
    (hcolumns : ∀ f ∈ columns, (Quantity.whole 0).atMost f = true)
    (hrows : ∀ f ∈ rows, (Quantity.whole 0).atMost f = true)
    (hwidth : 2 * size.padding ≤ size.width) (hheight : 2 * size.padding ≤ size.height)
    (hfit : (made.askAll before).fit size = .ok fitted)
    (hafter : ∀ later ∈ after, ∃ fault, fitted.fit later = .error fault) :
    (∃ xs ys, Grid.tracks columns size.padding (size.width - 2 * size.padding) = .ok xs ∧
      Grid.tracks rows size.padding (size.height - 2 * size.padding) = .ok ys ∧
      (fitted.askAll after).GoesByCells size.padding xs ys) ∧
    (fitted.askAll after).grid = made.grid ∧
    (fitted.askAll after).rects = fitted.rects ∧
    (size.padding.natAbs ≤ 2 ^ 53 → size.padding ≤ (Binary64.ofInt size.padding).round) := by
  have htiled := tiled_ofTemplate hmade
  obtain ⟨grid, -, -, -, -, rfl⟩ := ofTemplate_eq_ok.1 hmade
  obtain ⟨rects, hbefore⟩ := askAll_eq { grid, columns, rows, blocks := Grid.blocks grid } before
  rw [hbefore] at hfit
  have hcolumns' := Quantity.forall_nonNegative hcolumns
  have hrows' := Quantity.forall_nonNegative hrows
  obtain ⟨xs, ys, hxs, hys, hlaid⟩ :=
    (htiled.with_rects rects).laid_of_fit hcolumns' hrows' hfit
  have hcells := hlaid.goesByCells_of_tracks hcolumns' hrows' hwidth hheight hxs hys
  have hgrid : fitted.grid = grid := by
    obtain ⟨_, _, -, -, rfl⟩ := fit_eq_ok.1 hfit
    rfl
  rw [askAll_of_error hafter]
  refine ⟨⟨xs, ys, hxs, hys, hcells⟩, hgrid, rfl, fun hsmall => Int.le_of_eq ?_⟩
  rw [Binary64.round_ofInt hsmall]

/-- Two areas below a third one that is as wide as both. -/
def twoBelow : Layout where
  grid := [["top", "top"], ["left", "right"]]
  columns := [.whole 1, .whole 2]
  rows := [.whole 1, .whole 1]
  blocks := [("top", ⟨0, 0, 0, 1⟩), ("left", .single 1 0), ("right", .single 1 1)]

theorem ofTemplate_twoBelow :
    ofTemplate "top top\nleft right" [.whole 1, .whole 2] [.whole 1, .whole 1] = .ok twoBelow := by
  have hrows : Grid.templateRows "top top\nleft right" = [["top", "top"], ["left", "right"]] := by
    unfold Grid.templateRows
    rw [String.toList_ofList]
    decide +kernel
  exact ofTemplate_eq_ok.2 ⟨_, parseTemplate_eq_ok.2 ⟨hrows, by decide, by decide⟩, rfl, rfl,
    by decide +kernel, rfl⟩

/-- So it is for a small grid that is asked for a size, fitted to another and asked for a third that
    lies beyond every double. -/
theorem areaAt_twoBelow :
    let before : Size := ⟨10, 10, 0⟩
    let size : Size := ⟨90, 40, 3⟩
    let beyond : Size := ⟨10 ^ 400, 40, 3⟩
    ∃ made fitted,
      ofTemplate "top top\nleft right" [.whole 1, .whole 2] [.whole 1, .whole 1] = .ok made ∧
      (made.askAll [before]).fit size = .ok fitted ∧
      fitted.fit beyond = .error .wholeTooLarge ∧
      (∃ xs ys, Grid.tracks [.whole 1, .whole 2] 3 84 = .ok xs ∧
        Grid.tracks [.whole 1, .whole 1] 3 34 = .ok ys ∧
        (fitted.askAll [beyond]).GoesByCells 3 xs ys) ∧
      (fitted.askAll [beyond]).rects = fitted.rects := by
  intro before size beyond
  obtain ⟨rects, hbefore⟩ := askAll_eq twoBelow [before]
  have hxs : Grid.tracks twoBelow.columns 3 84 = .ok [3, 31, 87] := by decide +kernel
  have hys : Grid.tracks twoBelow.rows 3 34 = .ok [3, 20, 37] := by decide +kernel
  have hwide : Grid.tracks twoBelow.columns 3 (10 ^ 400 - 2 * 3) = .error .wholeTooLarge := by
    decide +kernel
  let fitted : Layout :=
    { twoBelow with
      rects := twoBelow.blocks.map fun (name, block) =>
        (name, blockRect [3, 31, 87] [3, 20, 37] block) }
  have hfit : (twoBelow.askAll [before]).fit size = .ok fitted := by
    rw [hbefore]
    exact fit_eq_ok.2 ⟨_, _, hxs, hys, rfl⟩
  have hbeyond : fitted.fit beyond = .error .wholeTooLarge := fit_of_columns_error hwide
  have hafter : ∀ later ∈ [beyond], ∃ fault, fitted.fit later = .error fault :=
    List.forall_mem_singleton.2 ⟨_, hbeyond⟩
  obtain ⟨hcells, -, hkept, -⟩ :=
    areaAt_goes_by_cells ofTemplate_twoBelow (by decide +kernel) (by decide +kernel) (by decide)
      (by decide) hfit hafter
  exact ⟨twoBelow, fitted, ofTemplate_twoBelow, hfit, hbeyond, hcells, hkept⟩

/-- An area of two columns, the first of no width. -/
def narrowFirst : Layout where
  grid := [["a", "a"]]
  columns := [.whole 0, .whole 1]
  rows := [.whole 1]
  blocks := [("a", ⟨0, 0, 0, 1⟩)]

theorem ofTemplate_narrowFirst :
    ofTemplate "a a" [.whole 0, .whole 1] [.whole 1] = .ok narrowFirst := by
  have hrows : Grid.templateRows "a a" = [["a", "a"]] := by
    unfold Grid.templateRows
    rw [String.toList_ofList]
    decide +kernel
  exact ofTemplate_eq_ok.2 ⟨_, parseTemplate_eq_ok.2 ⟨hrows, by decide, by decide⟩, rfl, rfl,
    by decide +kernel, rfl⟩

/-- **A pixel of a cell without its area**: the padding is no double, so the second edge lies a pixel
    before the first, and the area, which begins at the first, misses the pixel in between. -/
theorem pixel_beside_start :
    let size : Size := ⟨2 ^ 56, 2 ^ 56, 2 ^ 53 + 1⟩
    let xs : List Int := [2 ^ 53 + 1, 2 ^ 53, 2 ^ 56 - 2 ^ 53]
    let ys : List Int := [2 ^ 53 + 1, 2 ^ 56 - 2 ^ 53]
    ∃ made fitted, ofTemplate "a a" [.whole 0, .whole 1] [.whole 1] = .ok made ∧
      2 * size.padding ≤ size.width ∧ 2 * size.padding ≤ size.height ∧
      made.fit size = .ok fitted ∧
      Grid.tracks [.whole 0, .whole 1] size.padding (size.width - 2 * size.padding) = .ok xs ∧
      Grid.tracks [.whole 1] size.padding (size.height - 2 * size.padding) = .ok ys ∧
      InCell xs ys 0 1 (2 ^ 53) (2 ^ 53 + 10) ∧ Grid.nameAt? made.grid 0 1 = some "a" ∧
      fitted.areaAt (2 ^ 53) (2 ^ 53 + 10) = none := by
  intro size xs ys
  have hxs : Grid.tracks [.whole 0, .whole 1] size.padding (size.width - 2 * size.padding) =
      .ok xs := by
    decide +kernel
  have hys : Grid.tracks [.whole 1] size.padding (size.height - 2 * size.padding) = .ok ys := by
    decide +kernel
  have hcell : InCell xs ys 0 1 (2 ^ 53) (2 ^ 53 + 10) :=
    ⟨⟨_, _, rfl, rfl, by decide, by decide⟩, ⟨_, _, rfl, rfl, by decide, by decide⟩⟩
  exact ⟨narrowFirst, _, ofTemplate_narrowFirst, by decide, by decide,
    fit_eq_ok.2 ⟨xs, ys, hxs, hys, rfl⟩, hxs, hys, hcell, rfl, by decide +kernel⟩

end Layout

end DeskCalc
