import Mathlib.Data.List.Induction
import DeskCalc.Grid.Layout

/-!
# Cells and blocks

A grid is read cell by cell, and the block of a name grows until it holds all cells of the name.
A layout is made only if every block holds no other cells, so that the blocks tile the grid: each
cell lies in one block, that of its name. This file fixes

* `Block.Holds`: the cells of a block, and `fills_iff`: when all of them have a name;
* `mem_namedCells`: the cells of a grid with their names;
* `Gathered`: what is known of the blocks around some cells, and `Gathered.addCell`: one more cell;
* `Layout.Tiled`: the blocks of a layout tile its grid, and **`tiled_ofTemplate`**: those of every
  layout that can be made do.
-/

namespace DeskCalc

namespace Grid

/-! ## 1. Blocks -/

/-- The cell lies in the block. -/
structure Block.Holds (b : Block) (row column : Nat) : Prop where
  top : b.top ≤ row
  bottom : row ≤ b.bottom
  left : b.left ≤ column
  right : column ≤ b.right

/-- The block has a cell. -/
def Block.Spans (b : Block) : Prop := b.Holds b.top b.left ∧ b.Holds b.bottom b.right

theorem Block.Holds.spans {b : Block} {row column : Nat} (h : b.Holds row column) : b.Spans := by
  have hrows := Nat.le_trans h.top h.bottom
  have hcolumns := Nat.le_trans h.left h.right
  exact ⟨⟨Nat.le_refl _, hrows, Nat.le_refl _, hcolumns⟩,
    ⟨hrows, Nat.le_refl _, hcolumns, Nat.le_refl _⟩⟩

theorem Block.mem_cells {b : Block} {row column : Nat} :
    (row, column) ∈ b.cells ↔ b.Holds row column := by
  simp only [Block.cells, List.mem_flatMap, List.mem_map, List.mem_range'_1, Prod.mk.injEq]
  constructor
  · rintro ⟨r, hr, c, hc, rfl, rfl⟩
    exact ⟨by omega, by omega, by omega, by omega⟩
  · intro h
    obtain ⟨htop, hbottom, hleft, hright⟩ := h
    exact ⟨row, by omega, column, by omega, rfl, rfl⟩

theorem Block.holds_single (row column : Nat) : (Block.single row column).Holds row column :=
  ⟨Nat.le_refl _, Nat.le_refl _, Nat.le_refl _, Nat.le_refl _⟩

theorem Block.holds_around (b : Block) (row column : Nat) :
    (b.around row column).Holds row column :=
  ⟨Nat.min_le_right _ _, Nat.le_max_right _ _, Nat.min_le_right _ _, Nat.le_max_right _ _⟩

theorem Block.Holds.around {b : Block} {row column : Nat} (h : b.Holds row column) (r c : Nat) :
    (b.around r c).Holds row column :=
  ⟨Nat.le_trans (Nat.min_le_left _ _) h.top, Nat.le_trans h.bottom (Nat.le_max_left _ _),
    Nat.le_trans (Nat.min_le_left _ _) h.left, Nat.le_trans h.right (Nat.le_max_left _ _)⟩

theorem fills_iff {grid : List (List String)} {name : String} {block : Block} :
    fills grid name block = true ↔
      ∀ row column, block.Holds row column → nameAt? grid row column = some name := by
  simp [fills, List.all_eq_true, ← Block.mem_cells]

/-! ## 2. Gathering cells -/

theorem mem_namedCells {grid : List (List String)} {name : String} {row column : Nat} :
    (name, row, column) ∈ namedCells grid ↔ nameAt? grid row column = some name := by
  simp only [namedCells, nameAt?, List.mem_flatMap, List.mem_map, Prod.exists, Prod.mk.injEq,
    List.mem_zipIdx_iff_getElem?, Option.bind_eq_some_iff]
  constructor
  · rintro ⟨names, _, hrow, _, _, hcolumn, rfl, rfl, rfl⟩
    exact ⟨names, hrow, hcolumn⟩
  · rintro ⟨names, hrow, hcolumn⟩
    exact ⟨names, row, hrow, name, column, hcolumn, rfl, rfl, rfl⟩

/-- The blocks around some cells: each name once, none empty, and every cell in the block of its
    name. -/
structure Gathered (cells : List (String × Nat × Nat)) (found : List (String × Block)) : Prop where
  names : (found.map (·.1)).Nodup
  spans : ∀ name block, (name, block) ∈ found → block.Spans
  covers : ∀ name row column, (name, row, column) ∈ cells →
    ∃ block, (name, block) ∈ found ∧ block.Holds row column

section AddCell

variable {name : String} {row column : Nat} {found : List (String × Block)}

theorem map_fst_addCell :
    (addCell name row column found).map (·.1) =
      if name ∈ found.map (·.1) then found.map (·.1) else found.map (·.1) ++ [name] := by
  induction found with
  | nil => rfl
  | cons entry rest ih =>
    obtain ⟨other, block⟩ := entry
    unfold addCell
    by_cases hsame : other = name
    · simp [hsame]
    · have hdifferent : name ≠ other := fun h => hsame h.symm
      rw [if_neg hsame, List.map_cons, ih, List.map_cons]
      by_cases hmem : name ∈ rest.map (·.1)
      · rw [if_pos hmem, if_pos (List.mem_cons_of_mem _ hmem)]
      · rw [if_neg hmem, if_neg (by simp [hdifferent, hmem])]
        rfl

/-- The new cell lies in the block of its name. -/
theorem exists_mem_addCell :
    ∃ block, (name, block) ∈ addCell name row column found ∧ block.Holds row column := by
  induction found with
  | nil => exact ⟨_, List.mem_cons_self, Block.holds_single row column⟩
  | cons entry rest ih =>
    obtain ⟨other, block⟩ := entry
    unfold addCell
    by_cases hsame : other = name
    · rw [if_pos hsame, hsame]
      exact ⟨_, List.mem_cons_self, block.holds_around row column⟩
    · rw [if_neg hsame]
      obtain ⟨larger, hmem, hholds⟩ := ih
      exact ⟨larger, List.mem_cons_of_mem _ hmem, hholds⟩

/-- What a block holds, it goes on to hold. -/
theorem exists_larger_mem_addCell {other : String} {block : Block} (h : (other, block) ∈ found) :
    ∃ larger, (other, larger) ∈ addCell name row column found ∧
      ∀ r c, block.Holds r c → larger.Holds r c := by
  induction found with
  | nil => cases h
  | cons entry rest ih =>
    obtain ⟨first, firstBlock⟩ := entry
    unfold addCell
    by_cases hsame : first = name
    · rw [if_pos hsame]
      rcases List.mem_cons.1 h with heq | hmem
      · cases heq
        exact ⟨_, List.mem_cons_self, fun r c hholds => hholds.around row column⟩
      · exact ⟨block, List.mem_cons_of_mem _ hmem, fun r c hholds => hholds⟩
    · rw [if_neg hsame]
      rcases List.mem_cons.1 h with heq | hmem
      · cases heq
        exact ⟨block, List.mem_cons_self, fun r c hholds => hholds⟩
      · obtain ⟨larger, hlarger, hkeeps⟩ := ih hmem
        exact ⟨larger, List.mem_cons_of_mem _ hlarger, hkeeps⟩

theorem spans_of_mem_addCell (hfound : ∀ name block, (name, block) ∈ found → block.Spans)
    {other : String} {block : Block} (h : (other, block) ∈ addCell name row column found) :
    block.Spans := by
  induction found with
  | nil =>
    cases List.mem_singleton.1 h
    exact (Block.holds_single row column).spans
  | cons entry rest ih =>
    obtain ⟨first, firstBlock⟩ := entry
    unfold addCell at h
    split at h
    · rcases List.mem_cons.1 h with heq | hmem
      · cases heq
        exact (firstBlock.holds_around row column).spans
      · exact hfound other block (List.mem_cons_of_mem _ hmem)
    · rcases List.mem_cons.1 h with heq | hmem
      · cases heq
        exact hfound _ _ List.mem_cons_self
      · exact ih (fun n b hb => hfound n b (List.mem_cons_of_mem _ hb)) hmem

/-- One more cell is gathered. -/
theorem Gathered.addCell {cells : List (String × Nat × Nat)} (h : Gathered cells found) :
    Gathered (cells ++ [(name, row, column)]) (addCell name row column found) where
  names := by
    rw [map_fst_addCell]
    split
    · exact h.names
    · rename_i hnew
      exact List.nodup_append.2 ⟨h.names, List.pairwise_singleton _ _, by
        rintro a ha b hb rfl
        exact hnew (List.mem_singleton.1 hb ▸ ha)⟩
  spans _ _ hmem := spans_of_mem_addCell h.spans hmem
  covers other r c hmem := by
    rcases List.mem_append.1 hmem with hearlier | hlast
    · obtain ⟨block, hblock, hholds⟩ := h.covers other r c hearlier
      obtain ⟨larger, hlarger, hkeeps⟩ := exists_larger_mem_addCell hblock
      exact ⟨larger, hlarger, hkeeps r c hholds⟩
    · cases List.mem_singleton.1 hlast
      exact exists_mem_addCell

end AddCell

/-- **The blocks of a grid gather its cells.** -/
theorem gathered_blocks (grid : List (List String)) : Gathered (namedCells grid) (blocks grid) := by
  unfold blocks
  generalize namedCells grid = cells
  induction cells using List.reverseRecOn with
  | nil =>
    exact ⟨List.nodup_nil, fun _ _ h => absurd h List.not_mem_nil,
      fun _ _ _ h => absurd h List.not_mem_nil⟩
  | append_singleton cells cell ih =>
    rw [List.foldl_append]
    exact ih.addCell

end Grid

namespace Layout

/-- The blocks of the layout tile its grid, and there is a fraction for each column and row. -/
structure Tiled (l : Layout) : Prop where
  rows : l.rows.length = l.grid.length
  columns : ∀ row ∈ l.grid, row.length = l.columns.length
  names : (l.blocks.map (·.1)).Nodup
  spans : ∀ name block, (name, block) ∈ l.blocks → block.Spans
  covers : ∀ name row column, Grid.nameAt? l.grid row column = some name →
    ∃ block, (name, block) ∈ l.blocks ∧ block.Holds row column
  filled : ∀ name block, (name, block) ∈ l.blocks → ∀ row column, block.Holds row column →
    Grid.nameAt? l.grid row column = some name

theorem parseTemplate_eq_ok {template : String} {grid : List (List String)} :
    Grid.parseTemplate template = .ok grid ↔ Grid.templateRows template = grid ∧ grid ≠ [] ∧
      ∀ row ∈ grid, row.length = (grid.headD []).length := by
  unfold Grid.parseTemplate
  cases Grid.templateRows template with
  | nil =>
    refine ⟨fun h => (nomatch h), ?_⟩
    rintro ⟨rfl, hne, -⟩
    exact absurd rfl hne
  | cons first others =>
    dsimp only
    split
    · rename_i row hrow
      refine ⟨fun h => (nomatch h), ?_⟩
      rintro ⟨rfl, -, hsame⟩
      have hother := List.find?_some hrow
      simp [hsame row (List.mem_cons_of_mem _ (List.mem_of_find?_eq_some hrow))] at hother
    · rename_i hsame
      constructor
      · intro h
        cases h
        refine ⟨rfl, List.cons_ne_nil _ _, fun row hrow => ?_⟩
        rcases List.mem_cons.1 hrow with rfl | hmem
        · rfl
        · simpa using List.find?_eq_none.1 hsame row hmem
      · rintro ⟨rfl, -, -⟩
        rfl

/-- What is made of a template and fractions. -/
theorem ofTemplate_eq_ok {template : String} {columns rows : List Quantity} {l : Layout} :
    ofTemplate template columns rows = .ok l ↔
      ∃ grid, Grid.parseTemplate template = .ok grid ∧
        columns.length = (grid.headD []).length ∧ rows.length = grid.length ∧
        (∀ entry ∈ Grid.blocks grid, Grid.fills grid entry.1 entry.2 = true) ∧
        l = { grid, columns, rows, blocks := Grid.blocks grid } := by
  unfold ofTemplate
  cases Grid.parseTemplate template with
  | error fault =>
    refine ⟨fun h => (nomatch h), ?_⟩
    rintro ⟨grid, hgrid, -⟩
    cases hgrid
  | ok grid =>
    dsimp only
    constructor
    · intro h
      split at h
      · cases h
      · rename_i hcolumns
        split at h
        · cases h
        · rename_i hrows
          split at h
          · cases h
          · rename_i hfills
            cases h
            refine ⟨grid, rfl, by simpa using hcolumns, by simpa using hrows, ?_, rfl⟩
            intro entry hmem
            simpa using List.find?_eq_none.1 hfills entry hmem
    · rintro ⟨_, hgrid, hcolumns, hrows, hfills, rfl⟩
      cases hgrid
      rw [if_neg (not_not.2 hcolumns), if_neg (not_not.2 hrows)]
      split
      · rename_i name block hfound
        have hmissing := List.find?_some hfound
        simp [hfills (name, block) (List.mem_of_find?_eq_some hfound)] at hmissing
      · rfl

/-- **The blocks of every layout that can be made tile its grid.** -/
theorem tiled_ofTemplate {template : String} {columns rows : List Quantity} {l : Layout}
    (h : ofTemplate template columns rows = .ok l) : l.Tiled := by
  obtain ⟨grid, hgrid, hcolumns, hrows, hfills, rfl⟩ := ofTemplate_eq_ok.1 h
  obtain ⟨-, -, hsame⟩ := parseTemplate_eq_ok.1 hgrid
  have hgathered := Grid.gathered_blocks grid
  exact {
    rows := hrows
    columns := fun row hrow => (hsame row hrow).trans hcolumns.symm
    names := hgathered.names
    spans := hgathered.spans
    covers := fun name row column hname =>
      hgathered.covers name row column (Grid.mem_namedCells.2 hname)
    filled := fun name block hmem => Grid.fills_iff.1 (hfills (name, block) hmem) }

theorem Tiled.exists_name {l : Layout} (h : l.Tiled) {row column : Nat}
    (hrow : row < l.grid.length) (hcolumn : column < l.columns.length) :
    ∃ name, Grid.nameAt? l.grid row column = some name := by
  have hwidth := h.columns l.grid[row] (List.getElem_mem hrow)
  refine ⟨l.grid[row][column], ?_⟩
  simp [Grid.nameAt?, hrow]

theorem Tiled.lt_of_holds {l : Layout} (h : l.Tiled) {name : String} {block : Grid.Block}
    (hmem : (name, block) ∈ l.blocks) {row column : Nat} (hholds : block.Holds row column) :
    row < l.rows.length ∧ column < l.columns.length := by
  have hname := h.filled name block hmem row column hholds
  obtain ⟨names, hrow, hcolumn⟩ := Option.bind_eq_some_iff.1 hname
  obtain ⟨hlt, rfl⟩ := List.getElem?_eq_some_iff.1 hrow
  obtain ⟨hcolumn, -⟩ := List.getElem?_eq_some_iff.1 hcolumn
  rw [h.columns _ (List.getElem_mem hlt)] at hcolumn
  exact ⟨h.rows ▸ hlt, hcolumn⟩

end Layout

end DeskCalc
