import DeskCalc.Proofs.Grid.HitTest
import DeskCalc.Proofs.Picture.Fitted

/-!
# Panels with the calculator's grid

The calculator's grid tiles its cells, so that the button of an area is found at all pixels of the
area, wherever the window puts it. This file fixes

* `Layout.ofTemplate_calculator`: the calculator's layout is made from its template;
* `Panel.Placed`: the panel's layout is the calculator's, fitted to some size, and stays so;
* **`Placed.button?_of_holds`**: the button of an area is found at all its pixels.
-/

namespace DeskCalc

namespace Layout

theorem ofTemplate_calculator :
    ofTemplate calculatorTemplate calculatorColumns calculatorRows = .ok calculator := by
  have hsame : ∀ row ∈ Grid.templateRows calculatorTemplate,
      row.length = ((Grid.templateRows calculatorTemplate).headD []).length := by
    rw [templateRows_calculatorTemplate]
    decide
  have hfills : ∀ entry ∈ Grid.blocks (Grid.templateRows calculatorTemplate),
      Grid.fills (Grid.templateRows calculatorTemplate) entry.1 entry.2 = true := by
    rw [templateRows_calculatorTemplate]
    decide +kernel
  refine ofTemplate_eq_ok.2 ⟨_, parseTemplate_eq_ok.2 ⟨rfl, ?_, hsame⟩, ?_, ?_, hfills, rfl⟩
  all_goals rw [templateRows_calculatorTemplate]
  · exact List.cons_ne_nil _ _
  · rfl
  · rfl

end Layout

namespace Panel

/-- The layout is the calculator's, fitted to some size. -/
def Placed (p : Panel) : Prop := ∃ size, Layout.calculator.fit size = .ok p.layout

variable {p p' : Panel}

theorem Placed.of_unlit (h : p.Placed) (hunlit : p'.unlit = p.unlit) : p'.Placed := by
  have hlayout : p'.layout = p.layout := (congrArg Panel.layout hunlit :)
  obtain ⟨size, hfit⟩ := h
  exact ⟨size, hlayout ▸ hfit⟩

theorem Placed.gridded (h : p.Placed) : p.Gridded := by
  obtain ⟨size, hfit⟩ := h
  obtain ⟨rects, hlayout⟩ := Layout.resize_eq_ok hfit
  intro width height padding
  rw [hlayout]
  exact Layout.resize_rects _ _ _ _ _

theorem Placed.resize (h : p.Placed) (settings : Settings) (width height : Int) :
    (p.resize settings width height).1.Placed := by
  have hgrid := h.gridded
  obtain ⟨size, hfit⟩ := h
  unfold Placed
  rw [layout_resize]
  generalize Size.mk _ _ _ = asked
  cases hasked : p.layout.fit asked with
  | ok layout =>
    rw [Layout.ask_of_ok hasked]
    exact ⟨asked, (hgrid _ _ _).symm.trans hasked⟩
  | error fault =>
    rw [Layout.ask_of_error hasked]
    exact ⟨size, hfit⟩

theorem placed_create {settings : Settings} {width height : Int}
    (h : create settings width height = .ok p) : p.Placed := by
  obtain ⟨layout, hlayout, rfl⟩ := exists_refit_of_create h
  exact ⟨⟨_, _, settings.padding⟩, hlayout⟩

/-- **The button of an area is found at all pixels of the area.** -/
theorem Placed.button?_of_holds (h : p.Placed) {b : Button} (hb : b ∈ Keypad.buttons) {x y : Int}
    (hholds : (p.layout.rect b.area).holds x y = true) : p.button? x y = some b := by
  obtain ⟨size, hfit⟩ := h
  obtain ⟨xs, ys, -, -, hlaid⟩ :=
    (Layout.tiled_ofTemplate Layout.ofTemplate_calculator).laid_of_fit
      Layout.nonNegative_calculatorColumns Layout.nonNegative_calculatorRows hfit
  have harea := hlaid.areaAt_of_holds (Layout.mem_rects_of_holds hholds) hholds
  unfold button?
  rw [harea]
  exact Keypad.button?_area b hb

end Panel

end DeskCalc
