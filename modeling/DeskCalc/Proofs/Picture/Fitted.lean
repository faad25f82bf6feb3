import DeskCalc.Proofs.Grid.Calculator
import DeskCalc.Proofs.Picture.Panel

/-!
# Panels that are fitted to their size

A panel keeps the calculator's grid for good, and its rectangles are those of its size, unless it
was given a size that the grid cannot be fitted to. This file fixes

* `Panel.Fit`: what fitting may come to, and `fit_resize`: it comes to no more;
* `Panel.Fitted`: the panel is as a new one of its size would be, which every change keeps;
* **`Fitted.eq_of_create`**: a new panel of the same size differs in the highlight alone;
* `Fitted.create_ne_ok`: there is none of a size that was refused;
* `exists_resize_of_moderate`: no moderate size is refused.
-/

namespace DeskCalc

/-! ## 1. Fitting -/

namespace Layout

theorem resize_rects (l : Layout) (rects : List (String × Rect)) (width height padding : Int) :
    { l with rects := rects }.resize width height padding = l.resize width height padding := rfl

theorem resize_eq_ok {l layout : Layout} {width height padding : Int}
    (h : l.resize width height padding = .ok layout) :
    ∃ rects, layout = { l with rects := rects } := by
  unfold resize at h
  simp only [do_eq_ok] at h
  obtain ⟨xs, -, ys, -, hlayout⟩ := h
  cases hlayout
  exact ⟨_, rfl⟩

end Layout

theorem Settings.windowSize_windowSize (s : Settings) (width height : Option Int) :
    s.windowSize (some (s.windowSize width height).1) (some (s.windowSize width height).2) =
      s.windowSize width height := by
  simp [windowSize]

/-- The margin and the smallest size are moderate. -/
structure Settings.Moderate (s : Settings) : Prop where
  padding : DeskCalc.Moderate s.padding
  minWidth : DeskCalc.Moderate s.minWidth
  minHeight : DeskCalc.Moderate s.minHeight

theorem Settings.Moderate.windowSize {s : Settings} (h : s.Moderate) {width height : Int}
    (hwidth : DeskCalc.Moderate width) (hheight : DeskCalc.Moderate height) :
    DeskCalc.Moderate (s.windowSize (some width) (some height)).1 ∧
      DeskCalc.Moderate (s.windowSize (some width) (some height)).2 := by
  have hlarger {m n : Int} (hm : DeskCalc.Moderate m) (hn : DeskCalc.Moderate n) :
      DeskCalc.Moderate (max m n) := by
    rcases Int.le_total m n with hle | hle
    · rwa [Int.max_eq_right hle]
    · rwa [Int.max_eq_left hle]
  exact ⟨hlarger hwidth h.minWidth, hlarger hheight h.minHeight⟩

/-- A size that there is a canvas for is moderate. -/
theorem Canvas.moderate_of_sizeFault? {width height : Int}
    (h : sizeFault? width height = none) : Moderate width ∧ Moderate height := by
  unfold sizeFault? at h
  dsimp only at h
  split at h
  · cases h
  · rename_i hsides
    have hbound : twoPow 63 < twoPow 998 := twoPow_lt (by omega)
    simp only [List.all_cons, fits64, Bool.not_eq_true, Bool.not_eq_false', Bool.and_eq_true,
      decide_eq_true_eq] at hsides
    unfold Moderate
    omega

namespace Panel

variable {settings : Settings} {p p' : Panel} {width height : Int}

/-- The panel with the size that a window of some size gives it. -/
def sized (settings : Settings) (p : Panel) (width height : Int) : Panel :=
  { p with
    width := (settings.windowSize (some width) (some height)).1
    height := (settings.windowSize (some width) (some height)).2 }

/-- The layout fitted to this size. -/
def refit (settings : Settings) (p : Panel) (width height : Int) :
    Except ArithmeticFault Layout :=
  p.layout.resize (p.sized settings width height).width (p.sized settings width height).height
    settings.padding

/-- What fitting may come to: a panel of the new size, with a new layout or with a fault. -/
inductive Fit (settings : Settings) (p : Panel) (width height : Int) :
    Panel × Option ArithmeticFault → Prop where
  | fitted (layout : Layout) (hlayout : p.refit settings width height = .ok layout) :
    Fit settings p width height ({ p.sized settings width height with layout }, none)
  | refused (fault : ArithmeticFault) (hfault : p.refit settings width height = .error fault) :
    Fit settings p width height (p.sized settings width height, some fault)

theorem fit_resize (settings : Settings) (p : Panel) (width height : Int) :
    Fit settings p width height (p.resize settings width height) := by
  cases hlayout : p.refit settings width height with
  | ok layout =>
    have hfit := Fit.fitted layout hlayout
    unfold refit sized at hlayout
    simp only [resize, hlayout]
    exact hfit
  | error fault =>
    have hfit := Fit.refused fault hlayout
    unfold refit sized at hlayout
    simp only [resize, hlayout]
    exact hfit

theorem highlight_resize (settings : Settings) (p : Panel) (width height : Int) :
    (p.resize settings width height).1.pressed = p.pressed ∧
      (p.resize settings width height).1.timer = p.timer := by
  have hfit := fit_resize settings p width height
  generalize p.resize settings width height = outcome at hfit ⊢
  cases hfit <;> exact ⟨rfl, rfl⟩

theorem Timed.resize (h : p.Timed) (settings : Settings) (width height : Int) :
    (p.resize settings width height).1.Timed := by
  obtain ⟨hpressed, htimer⟩ := highlight_resize settings p width height
  unfold Timed
  rw [hpressed, htimer]
  exact h

/-! ## 2. Panels that are fitted -/

/-- The layout is fitted as the calculator's grid is. -/
def Gridded (p : Panel) : Prop :=
  ∀ width height padding,
    p.layout.resize width height padding = Layout.calculator.resize width height padding

/-- The panel has the calculator's grid and a size that a window can have, and its layout is the one
    fitted to this size if the grid can be fitted to it at all. -/
structure Fitted (settings : Settings) (p : Panel) : Prop where
  grid : p.Gridded
  size : settings.windowSize (some p.width) (some p.height) = (p.width, p.height)
  rects : ∀ layout, p.layout.resize p.width p.height settings.padding = .ok layout →
    layout = p.layout

theorem fitted_of_refit {layout : Layout} (hgrid : p.Gridded)
    (h : p.refit settings width height = .ok layout) :
    Fitted settings { p.sized settings width height with layout } := by
  obtain ⟨rects, rfl⟩ := Layout.resize_eq_ok h
  refine ⟨?_, settings.windowSize_windowSize _ _, ?_⟩
  · intro width height padding
    rw [Layout.resize_rects]
    exact hgrid width height padding
  · intro other hother
    rw [Layout.resize_rects] at hother
    exact Except.ok.inj (hother.symm.trans h)

theorem Fitted.resize (h : Fitted settings p) (width height : Int) :
    Fitted settings (p.resize settings width height).1 := by
  have hfit := fit_resize settings p width height
  generalize p.resize settings width height = outcome at hfit ⊢
  cases hfit with
  | fitted layout hlayout => exact fitted_of_refit h.grid hlayout
  | refused fault hfault =>
    refine ⟨h.grid, settings.windowSize_windowSize _ _, fun layout hlayout => ?_⟩
    exact nomatch hfault.symm.trans hlayout

theorem Fitted.of_unlit (h : Fitted settings p) (hunlit : p'.unlit = p.unlit) :
    Fitted settings p' := by
  obtain ⟨width, height, layout, pressed, timer⟩ := p
  obtain ⟨width', height', layout', pressed', timer'⟩ := p'
  cases hunlit
  exact ⟨h.grid, h.size, h.rects⟩

theorem Fitted.tick (h : Fitted settings p) : Fitted settings p.tick :=
  h.of_unlit (unlit_tick p)

theorem Fitted.press (h : Fitted settings p) (area : String) (duration : Int) :
    Fitted settings (p.press area duration) :=
  h.of_unlit (unlit_press p area duration)

/-! ## 3. New panels -/

theorem create_eq_ok :
    create settings width height = .ok p ↔
      resize settings { width, height, layout := Layout.calculator } width height = (p, none) := by
  unfold create
  generalize resize settings { width, height, layout := Layout.calculator } width height = outcome
  obtain ⟨panel, fault⟩ := outcome
  cases fault <;> simp [unlessFault]

theorem gridded_new (width height : Int) :
    Gridded { width, height, layout := Layout.calculator } := fun _ _ _ => rfl

theorem exists_refit_of_create (h : create settings width height = .ok p) :
    ∃ layout, refit settings { width, height, layout := Layout.calculator } width height =
        .ok layout ∧
      { sized settings { width, height, layout := Layout.calculator } width height with layout } =
        p := by
  have hfit := fit_resize settings { width, height, layout := Layout.calculator } width height
  rw [create_eq_ok.1 h] at hfit
  cases hfit with
  | fitted layout hlayout => exact ⟨layout, hlayout, rfl⟩

theorem fitted_create (h : create settings width height = .ok p) : Fitted settings p := by
  obtain ⟨layout, hlayout, rfl⟩ := exists_refit_of_create h
  exact fitted_of_refit (gridded_new width height) hlayout

theorem timed_create (h : create settings width height = .ok p) : p.Timed := by
  obtain ⟨layout, -, rfl⟩ := exists_refit_of_create h
  exact .inl ⟨rfl, rfl⟩

/-- **A new panel of the same size is the panel with no button lit up.** -/
theorem Fitted.eq_of_create (h : Fitted settings p) {fresh : Panel}
    (hfresh : create settings p.width p.height = .ok fresh) :
    p.layout.resize p.width p.height settings.padding = .ok p.layout ∧ fresh = p.unlit := by
  obtain ⟨layout, hlayout, rfl⟩ := exists_refit_of_create hfresh
  have hfits : p.layout.resize p.width p.height settings.padding = .ok layout := by
    rw [h.grid]
    simp only [refit, sized, h.size] at hlayout
    exact hlayout
  obtain rfl := h.rects layout hfits
  refine ⟨hfits, ?_⟩
  simp only [sized, h.size, unlit]

/-- A size that the panel cannot be fitted to has no new panel. -/
theorem Fitted.create_ne_ok (h : Fitted settings p) {fault : ArithmeticFault}
    (hfault : p.resize settings width height = (p', some fault)) (fresh : Panel) :
    create settings p'.width p'.height ≠ .ok fresh := by
  intro hfresh
  have hfit := fit_resize settings p width height
  have hfitted := h.resize width height
  rw [hfault] at hfit hfitted
  cases hfit with
  | refused fault hrefused =>
    exact nomatch hrefused.symm.trans (hfitted.eq_of_create hfresh).1

/-- The panel can be fitted if the size that it takes is moderate, as is the margin. -/
theorem exists_resize (hgrid : p.Gridded) (hpadding : Moderate settings.padding)
    (hwide : Moderate (settings.windowSize (some width) (some height)).1)
    (hhigh : Moderate (settings.windowSize (some width) (some height)).2) :
    ∃ panel, p.resize settings width height = (panel, none) := by
  obtain ⟨layout, hlayout⟩ := Layout.exists_resize_calculator hwide hhigh hpadding
  have hrefit : p.refit settings width height = .ok layout := by
    unfold refit
    rw [hgrid]
    exact hlayout
  have hfit := fit_resize settings p width height
  generalize p.resize settings width height = outcome at hfit ⊢
  cases hfit with
  | fitted other hother => exact ⟨_, rfl⟩
  | refused fault hfault => exact nomatch hrefit.symm.trans hfault

/-- **No moderate size is refused.** -/
theorem exists_resize_of_moderate (hgrid : p.Gridded) (h : settings.Moderate)
    (hwidth : Moderate width) (hheight : Moderate height) :
    ∃ panel, p.resize settings width height = (panel, none) := by
  obtain ⟨hwide, hhigh⟩ := h.windowSize hwidth hheight
  exact exists_resize hgrid h.padding hwide hhigh

end Panel

end DeskCalc
