import Mathlib.Data.List.Nodup
import DeskCalc.Proofs.Grid.Cells

/-!
# Grids of rectangles

A block grows around the cells of its name until all of them have been read, and is then searched
for cells of other names. So a grid is made just if the cells of every name are those of one block,
in whatever order and however far apart they were read. This file fixes

* `Text.writtenLines`: the lines that say something, and `templateRows_eq`: they are the rows of a
  grid;
* `Grid.Enclosed`: no block reaches further than the cells of its name, and **`enclosed_blocks`**;
* `map_fst_blocks`: the names of the blocks in the order of their first cells;
* `Grid.Describes`: a template and fractions are those of a grid of rectangles;
* `Layout.Partitioned`: the blocks of a layout are the rectangles of its names, and part its cells;
* **`ofTemplate_made_of_rectangles`**: what is made of any template and fractions.
-/

namespace DeskCalc

/-! ## 1. Rows -/

namespace Text

/-- Between the characters of a class stand the others. -/
theorem flatten_pieces (cut : Char → Bool) (text : List Char) :
    (pieces cut text).flatten = text.filter (!cut ·) := by
  induction text with
  | nil => rfl
  | cons c rest ih =>
    obtain ⟨first, others, hpieces⟩ := List.exists_cons_of_ne_nil (pieces_ne_nil cut rest)
    rw [hpieces, List.flatten_cons] at ih
    cases hc : cut c with
    | true => simp [pieces, hc, hpieces, ih]
    | false => simp [pieces, hc, hpieces, ih]

/-- A line has a word unless it is blank. -/
theorem words_eq_nil_iff (line : List Char) : words line = [] ↔ line.all isBlank = true := by
  have hflatten := flatten_pieces isBlank line
  have hempty : words line = [] ↔ (pieces isBlank line).flatten = [] := by
    simp [words, List.filter_eq_nil_iff, List.flatten_eq_nil_iff]
  rw [hempty, hflatten, List.filter_eq_nil_iff, List.all_eq_true]
  simp

/-- The lines of a text that are not blank. -/
def writtenLines (text : List Char) : List (List Char) :=
  (lines text).filter fun line => !line.all isBlank

end Text

namespace Grid

/-- **The rows of a grid are the words of the lines that are not blank.** -/
theorem templateRows_eq (template : String) :
    templateRows template =
      (Text.writtenLines template.toList).map fun line => (Text.words line).map String.ofList := by
  unfold templateRows Text.writtenLines
  rw [List.filter_map]
  congr 1
  refine List.filter_congr fun line _ => ?_
  have hblank := Text.words_eq_nil_iff line
  cases hwords : Text.words line with
  | nil => simp [hwords, hblank.1 hwords]
  | cons word others =>
    have hwritten : line.all Text.isBlank = false :=
      Bool.eq_false_iff.2 fun hall => nomatch hwords.symm.trans (hblank.2 hall)
    simp [hwords, hwritten]

/-! ## 2. How far blocks reach -/

section AddCell

variable {name other : String} {row column : Nat} {found : List (String × Block)} {block : Block}

/-- **What a cell does to the blocks**: its name gets a block of one cell or one around the cell,
    all else stays. -/
theorem mem_addCell (h : (other, block) ∈ addCell name row column found) :
    (other, block) ∈ found ∨ (other = name ∧
      (block = .single row column ∨
        ∃ smaller, (name, smaller) ∈ found ∧ block = smaller.around row column)) := by
  induction found with
  | nil =>
    cases List.mem_singleton.1 h
    exact .inr ⟨rfl, .inl rfl⟩
  | cons entry rest ih =>
    obtain ⟨first, firstBlock⟩ := entry
    unfold addCell at h
    split at h
    · rename_i hsame
      rcases List.mem_cons.1 h with heq | hmem
      · cases heq
        exact .inr ⟨hsame, .inr ⟨firstBlock, hsame ▸ List.mem_cons_self, rfl⟩⟩
      · exact .inl (List.mem_cons_of_mem _ hmem)
    · rcases List.mem_cons.1 h with heq | hmem
      · exact .inl (heq ▸ List.mem_cons_self)
      · rcases ih hmem with hold | ⟨hname, hsingle | ⟨smaller, hsmaller, haround⟩⟩
        · exact .inl (List.mem_cons_of_mem _ hold)
        · exact .inr ⟨hname, .inl hsingle⟩
        · exact .inr ⟨hname, .inr ⟨smaller, List.mem_cons_of_mem _ hsmaller, haround⟩⟩

end AddCell

/-- The block reaches no further than another one: that one holds two opposite corners. -/
def Block.Inside (b outer : Block) : Prop :=
  outer.Holds b.top b.left ∧ outer.Holds b.bottom b.right

theorem Block.Inside.holds {b outer : Block} (h : b.Inside outer) {row column : Nat}
    (hholds : b.Holds row column) : outer.Holds row column where
  top := Nat.le_trans h.1.top hholds.top
  bottom := Nat.le_trans hholds.bottom h.2.bottom
  left := Nat.le_trans h.1.left hholds.left
  right := Nat.le_trans hholds.right h.2.right

theorem Block.Inside.around {b outer : Block} (h : b.Inside outer) {row column : Nat}
    (hholds : outer.Holds row column) : (b.around row column).Inside outer := by
  constructor
  · exact ⟨Nat.le_min.2 ⟨h.1.top, hholds.top⟩, Nat.le_trans (Nat.min_le_right _ _) hholds.bottom,
      Nat.le_min.2 ⟨h.1.left, hholds.left⟩, Nat.le_trans (Nat.min_le_right _ _) hholds.right⟩
  · exact ⟨Nat.le_trans hholds.top (Nat.le_max_right _ _), Nat.max_le.2 ⟨h.2.bottom, hholds.bottom⟩,
      Nat.le_trans hholds.left (Nat.le_max_right _ _), Nat.max_le.2 ⟨h.2.right, hholds.right⟩⟩

/-- Every block lies inside all blocks that hold the cells of its name. -/
def Enclosed (cells : List (String × Nat × Nat)) (found : List (String × Block)) : Prop :=
  ∀ name block, (name, block) ∈ found → ∀ outer : Block,
    (∀ row column, (name, row, column) ∈ cells → outer.Holds row column) → block.Inside outer

theorem Enclosed.addCell {cells : List (String × Nat × Nat)} {found : List (String × Block)}
    (h : Enclosed cells found) (name : String) (row column : Nat) :
    Enclosed (cells ++ [(name, row, column)]) (addCell name row column found) := by
  intro other block hmem outer houter
  have hearlier : ∀ r c, (other, r, c) ∈ cells → outer.Holds r c := fun r c hcell =>
    houter r c (List.mem_append_left _ hcell)
  rcases mem_addCell hmem with hold | ⟨rfl, hgrown⟩
  · exact h other block hold outer hearlier
  · have hcell : outer.Holds row column :=
      houter row column (List.mem_append_right _ List.mem_cons_self)
    rcases hgrown with rfl | ⟨smaller, hsmaller, rfl⟩
    · exact ⟨hcell, hcell⟩
    · exact (h other smaller hsmaller outer hearlier).around hcell

/-- **No block of a grid reaches further than the cells of its name.** -/
theorem enclosed_blocks (grid : List (List String)) : Enclosed (namedCells grid) (blocks grid) := by
  unfold blocks
  generalize namedCells grid = cells
  induction cells using List.reverseRecOn with
  | nil => exact fun _ _ h => absurd h List.not_mem_nil
  | append_singleton cells cell ih =>
    rw [List.foldl_append]
    exact ih.addCell _ _ _

theorem map_fst_namedCells (grid : List (List String)) :
    (namedCells grid).map (·.1) = grid.flatten := by
  have hrow (row : List String) (r : Nat) :
      (row.zipIdx.map fun cell => (cell.1, r, cell.2)).map (·.1) = row := by
    rw [List.map_map]
    exact List.zipIdx_map_fst 0 row
  calc (namedCells grid).map (·.1) = grid.zipIdx.flatMap (·.1) := by
        unfold namedCells
        rw [List.map_flatMap]
        congr 1
        exact funext fun entry => hrow entry.1 entry.2
    _ = (grid.zipIdx.map (·.1)).flatten := List.flatMap_def
    _ = grid.flatten := by rw [List.zipIdx_map_fst]

/-- **The names of the blocks stand in the order of their first cells.** -/
theorem map_fst_blocks (grid : List (List String)) :
    (blocks grid).map (·.1) = grid.flatten.eraseDups := by
  rw [← map_fst_namedCells]
  unfold blocks
  generalize namedCells grid = cells
  induction cells using List.reverseRecOn with
  | nil => rfl
  | append_singleton cells cell ih =>
    have hmem : cell.1 ∈ (cells.map (·.1)).eraseDups ↔ cell.1 ∈ cells.map (·.1) :=
      List.mem_eraseDups
    rw [List.foldl_append, List.map_append, List.eraseDups_append, ← ih]
    rw [← ih] at hmem
    show (addCell cell.1 cell.2.1 cell.2.2 _).map (·.1) = _
    rw [map_fst_addCell]
    split
    · rename_i hold
      simp [List.removeAll, hmem.1 hold]
    · rename_i hnew
      have hfirst : cell.1 ∉ cells.map (·.1) := fun h => hnew (hmem.2 h)
      simp [List.removeAll, hfirst, List.eraseDups_cons]

/-! ## 3. Grids of rectangles -/

/-- The cells with a name are all cells of one block. -/
def FillsBlock (grid : List (List String)) (name : String) : Prop :=
  ∃ block : Block, ∀ row column, nameAt? grid row column = some name ↔ block.Holds row column

/-- A template and fractions describe a grid of rectangles: some line is not blank, all such lines
    have equally many words, there is a fraction for each column and row, and the cells of every
    name are those of one block. -/
structure Describes (template : String) (columns rows : List Quantity) : Prop where
  written : Text.writtenLines template.toList ≠ []
  even : ∀ line ∈ Text.writtenLines template.toList,
    ∀ other ∈ Text.writtenLines template.toList,
      (Text.words line).length = (Text.words other).length
  columns : ∀ line ∈ Text.writtenLines template.toList, columns.length = (Text.words line).length
  rows : rows.length = (Text.writtenLines template.toList).length
  rectangles : ∀ name, FillsBlock (templateRows template) name

/-- If the cells of a name are those of a block, its own block holds no other cells. -/
theorem FillsBlock.fills {grid : List (List String)} {name : String} (h : FillsBlock grid name)
    {block : Block} (hmem : (name, block) ∈ blocks grid) : fills grid name block = true := by
  obtain ⟨whole, hwhole⟩ := h
  have hinside : block.Inside whole :=
    enclosed_blocks grid name block hmem whole fun row column hcell =>
      (hwhole row column).1 (mem_namedCells.1 hcell)
  exact fills_iff.2 fun row column hholds => (hwhole row column).2 (hinside.holds hholds)

end Grid

namespace Layout

/-- The blocks of a layout are the rectangles of its names, in the order of their first cells, and
    every cell lies in just one of them. -/
structure Partitioned (l : Layout) : Prop where
  names : l.blocks.map (·.1) = l.grid.flatten.eraseDups
  spans : ∀ name block, (name, block) ∈ l.blocks → block.Spans
  cells : ∀ name block, (name, block) ∈ l.blocks → ∀ row column,
    Grid.nameAt? l.grid row column = some name ↔ block.Holds row column
  within : ∀ name block, (name, block) ∈ l.blocks → ∀ row column, block.Holds row column →
    row < l.rows.length ∧ column < l.columns.length
  parts : ∀ row < l.rows.length, ∀ column < l.columns.length,
    ∃! entry, entry ∈ l.blocks ∧ entry.2.Holds row column

theorem Tiled.block_eq {l : Layout} (h : l.Tiled) {name : String} {block block' : Grid.Block}
    (hmem : (name, block) ∈ l.blocks) (hmem' : (name, block') ∈ l.blocks) : block = block' :=
  (Prod.mk.inj (List.inj_on_of_nodup_map h.names hmem hmem' rfl)).2

theorem Tiled.partitioned {l : Layout} (h : l.Tiled) (hblocks : l.blocks = Grid.blocks l.grid) :
    l.Partitioned where
  names := by rw [hblocks, Grid.map_fst_blocks]
  spans := h.spans
  cells name block hmem row column := by
    refine ⟨fun hname => ?_, h.filled name block hmem row column⟩
    obtain ⟨own, hown, hholds⟩ := h.covers name row column hname
    rwa [h.block_eq hmem hown]
  within name block hmem row column hholds := h.lt_of_holds hmem hholds
  parts row hrow column hcolumn := by
    obtain ⟨name, hname⟩ := h.exists_name (h.rows ▸ hrow) hcolumn
    obtain ⟨block, hmem, hholds⟩ := h.covers name row column hname
    refine ⟨(name, block), ⟨hmem, hholds⟩, ?_⟩
    intro entry hentry
    obtain ⟨other, otherBlock⟩ := entry
    obtain ⟨hother, hholds'⟩ := hentry
    have hsame := h.filled other otherBlock hother row column hholds'
    rw [hname] at hsame
    cases hsame
    rw [h.block_eq hmem hother]

/-- A grid of rectangles is made. -/
theorem ofTemplate_of_describes {template : String} {columns rows : List Quantity}
    (h : Grid.Describes template columns rows) :
    ∃ l, ofTemplate template columns rows = .ok l := by
  obtain ⟨first, others, hlines⟩ := List.exists_cons_of_ne_nil h.written
  have hrows := Grid.templateRows_eq template
  have hfirst : first ∈ Text.writtenLines template.toList := hlines ▸ List.mem_cons_self
  have hhead : ((Grid.templateRows template).headD []).length = (Text.words first).length := by
    rw [hrows, hlines]
    simp
  refine ⟨_, ofTemplate_eq_ok.2 ⟨_, parseTemplate_eq_ok.2 ⟨rfl, ?_, fun row hrow => ?_⟩, ?_, ?_,
    fun entry hmem => (h.rectangles entry.1).fills hmem, rfl⟩⟩
  · rw [hrows, hlines]
    exact List.cons_ne_nil _ _
  · rw [hhead]
    rw [hrows] at hrow
    obtain ⟨line, hline, rfl⟩ := List.mem_map.1 hrow
    rw [List.length_map]
    exact h.even line hline first hfirst
  · rw [hhead]
    exact h.columns first hfirst
  · rw [hrows, List.length_map]
    exact h.rows

/-- What a layout was made of describes a grid of rectangles. -/
theorem describes_of_ofTemplate {template : String} {columns rows : List Quantity} {l : Layout}
    (h : ofTemplate template columns rows = .ok l) : Grid.Describes template columns rows := by
  have htiled := tiled_ofTemplate h
  obtain ⟨_, hparse, hcolumns, hcount, hfills, rfl⟩ := ofTemplate_eq_ok.1 h
  obtain ⟨rfl, hsome, hsame⟩ := parseTemplate_eq_ok.1 hparse
  have hrows := Grid.templateRows_eq template
  have hwidth : ∀ line ∈ Text.writtenLines template.toList,
      (Text.words line).length = columns.length := by
    intro line hline
    have hrow := htiled.columns _ (hrows ▸ List.mem_map_of_mem hline)
    rwa [List.length_map] at hrow
  have hpartitioned := htiled.partitioned rfl
  refine ⟨?_, fun line hline other hother => (hwidth line hline).trans (hwidth other hother).symm,
    fun line hline => (hwidth line hline).symm, ?_, fun name => ?_⟩
  · intro hnone
    rw [hrows, hnone] at hsome
    exact hsome rfl
  · rw [hcount, hrows, List.length_map]
  · by_cases hname : ∃ block, (name, block) ∈ Grid.blocks (Grid.templateRows template)
    · obtain ⟨block, hmem⟩ := hname
      exact ⟨block, hpartitioned.cells name block hmem⟩
    · -- a name without cells has an empty block
      refine ⟨⟨1, 0, 0, 0⟩, fun row column => ⟨fun hcell => ?_, fun hholds => ?_⟩⟩
      · obtain ⟨block, hmem, -⟩ := htiled.covers name row column hcell
        exact absurd ⟨block, hmem⟩ hname
      · have hempty := Nat.le_trans hholds.top hholds.bottom
        exact absurd hempty (Nat.not_succ_le_zero 0)

/-- **What is made of any template and fractions**: a layout if they describe a grid of rectangles,
    and a fault otherwise. The layout has the rows of the template as its grid, and its blocks are
    the rectangles of the names, in the order in which they first appear, and part the grid. -/
theorem ofTemplate_made_of_rectangles (template : String) (columns rows : List Quantity) :
    match ofTemplate template columns rows with
    | .ok l => Grid.Describes template columns rows ∧
        l.grid = Grid.templateRows template ∧ l.columns = columns ∧ l.rows = rows ∧
        l.Partitioned
    | .error _ => ¬Grid.Describes template columns rows := by
  cases hmade : ofTemplate template columns rows with
  | error fault =>
    intro hdescribes
    obtain ⟨l, hl⟩ := ofTemplate_of_describes hdescribes
    exact nomatch hmade.symm.trans hl
  | ok l =>
    have htiled := tiled_ofTemplate hmade
    have hdescribes := describes_of_ofTemplate hmade
    obtain ⟨_, hparse, -, -, -, rfl⟩ := ofTemplate_eq_ok.1 hmade
    obtain ⟨rfl, -, -⟩ := parseTemplate_eq_ok.1 hparse
    exact ⟨hdescribes, rfl, rfl, rfl, htiled.partitioned rfl⟩

end Layout

end DeskCalc
