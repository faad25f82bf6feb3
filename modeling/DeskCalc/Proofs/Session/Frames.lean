import DeskCalc.Proofs.Session.Passes
import Mathlib.Data.List.Induction

/-!
# A session from its first pass to its last

A session is what its passes make of it one after another: every pass shows one picture, of the
state that the passes before it have led to, at the size that the window has by then, and the first
pass that asks to stop is the last one. This file fixes

* `upToStop`, `sizeFrom`, `commandsFrom`: the passes up to the first one that asks to stop, and what
  some passes come to;
* `Session.after`: the session after some passes, whatever they ask for;
* `Frames`: what some passes show, and `exists_frames`: passes that go well show it;
* `loop_eq_after`: the loop goes on just up to the first pass that asks to stop;
* **`run_shows_every_pass`**: the whole run, which goes well just if its window can be painted;
* `unpaintable_run`: a run that ends early because it cannot.
-/

namespace DeskCalc

/-! ## 1. What some passes come to -/

/-- The passes up to the first one that asks to stop, with it. -/
def upToStop : List Pass → List Pass
  | [] => []
  | p :: rest => if p.stops then [p] else p :: upToStop rest

theorem upToStop_of_stops {p : Pass} (h : p.stops = true) (rest : List Pass) :
    upToStop (p :: rest) = [p] := by
  rw [upToStop, if_pos h]

theorem upToStop_of_on {p : Pass} (h : p.stops = false) (rest : List Pass) :
    upToStop (p :: rest) = p :: upToStop rest := by
  rw [upToStop, h]
  rfl

theorem mem_upToStop_head (p : Pass) (rest : List Pass) : p ∈ upToStop (p :: rest) := by
  unfold upToStop
  split <;> exact List.mem_cons_self

section Fold

variable (settings : Settings) (size : Int × Int)

/-- The size of the window after some passes: the last one known, the given one if none is. -/
def sizeFrom (passes : List Pass) : Int × Int :=
  (passes.filterMap (Pass.size? settings)).getLastD size

/-- The commands of some passes, those of each pass in a window of the size that it has by then. -/
def commandsFrom : Int × Int → List Pass → List Command
  | _, [] => []
  | size, p :: rest =>
    p.commands settings (p.sizeAfter settings size) ++ commandsFrom (p.sizeAfter settings size) rest

theorem sizeFrom_cons (p : Pass) (rest : List Pass) :
    sizeFrom settings size (p :: rest) = sizeFrom settings (p.sizeAfter settings size) rest := by
  unfold sizeFrom Pass.sizeAfter
  cases hsize : p.size? settings with
  | none => rw [List.filterMap_cons_none hsize, Option.getD_none]
  | some known => rw [List.filterMap_cons_some hsize, List.getLastD_cons, Option.getD_some]

theorem sizeFrom_concat (passes : List Pass) (p : Pass) :
    sizeFrom settings size (passes ++ [p]) =
      p.sizeAfter settings (sizeFrom settings size passes) := by
  induction passes generalizing size with
  | nil => exact sizeFrom_cons settings size p []
  | cons q rest ih => rw [List.cons_append, sizeFrom_cons, ih, sizeFrom_cons]

theorem commandsFrom_nil : commandsFrom settings size [] = [] := rfl

theorem commandsFrom_cons (p : Pass) (rest : List Pass) :
    commandsFrom settings size (p :: rest) =
      p.commands settings (p.sizeAfter settings size) ++
        commandsFrom settings (p.sizeAfter settings size) rest := rfl

theorem commandsFrom_concat (passes : List Pass) (p : Pass) :
    commandsFrom settings size (passes ++ [p]) = commandsFrom settings size passes ++
      p.commands settings (sizeFrom settings size (passes ++ [p])) := by
  induction passes generalizing size with
  | nil =>
    have hsize : sizeFrom settings size [p] = p.sizeAfter settings size :=
      sizeFrom_cons settings size p []
    rw [List.nil_append, hsize, commandsFrom_cons, commandsFrom_nil, commandsFrom_nil,
      List.append_nil, List.nil_append]
  | cons q rest ih =>
    rw [List.cons_append, commandsFrom_cons, ih, commandsFrom_cons, sizeFrom_cons,
      List.append_assoc]

end Fold

namespace Session

/-- The session after some passes, whatever they ask for. -/
def after (s : Session) (passes : List Pass) : Session :=
  passes.foldl (fun s p => (s.pass p).1) s

theorem after_cons {s next : Session} {p : Pass} {fault : Option SessionFault}
    (h : s.pass p = (next, fault)) (rest : List Pass) : s.after (p :: rest) = next.after rest := by
  unfold after
  rw [List.foldl_cons, h]

theorem after_concat (s : Session) (passes : List Pass) (p : Pass) :
    s.after (passes ++ [p]) = ((s.after passes).pass p).1 :=
  List.foldl_append

/-! ## 2. What some passes show -/

/-- Each of the passes shows one picture: at the size that the window has by then, of the state that
    the commands of the passes before it lead to. -/
structure Frames (settings : Settings) (size : Int × Int) (state : State) (s : Session)
    (passes : List Pass) (shown : List WindowEvent) : Prop where
  count : shown.length = passes.length
  frame : ∀ k p, passes[k]? = some p → ∃ picture event, shown[k]? = some event ∧
    (s.after (passes.take k)).Shows p picture event ∧
    picture.Depicts settings (sizeFrom settings size (passes.take (k + 1)))
      (state.run (commandsFrom settings size (passes.take k)))

theorem Frames.concat {settings : Settings} {size : Int × Int} {state : State} {s : Session}
    {passes : List Pass} {shown : List WindowEvent}
    (h : Frames settings size state s passes shown) {p : Pass} {picture : Picture}
    {event : WindowEvent} (hshows : (s.after passes).Shows p picture event)
    (hdepicts : picture.Depicts settings (sizeFrom settings size (passes ++ [p]))
      (state.run (commandsFrom settings size passes))) :
    Frames settings size state s (passes ++ [p]) (shown ++ [event]) := by
  refine ⟨by simp only [List.length_append, h.count, List.length_singleton], fun k q hq => ?_⟩
  obtain hless | rfl : k < passes.length ∨ k = passes.length := by
    have hbound : k < (passes ++ [p]).length := (List.getElem?_eq_some_iff.1 hq).1
    rw [List.length_append, List.length_singleton] at hbound
    omega
  · rw [List.getElem?_append_left hless] at hq
    rw [List.getElem?_append_left (h.count ▸ hless), List.take_append_of_le_length hless,
      List.take_append_of_le_length (Nat.le_of_lt hless)]
    exact h.frame k q hq
  · have hlast : (shown ++ [event])[passes.length]? = some event := by
      rw [← h.count, List.getElem?_concat_length]
    rw [List.getElem?_concat_length] at hq
    obtain rfl := Option.some.inj hq
    rw [List.take_left, List.take_of_length_le (by simp)]
    exact ⟨picture, event, hlast, hshows, hdepicts⟩

section Run

variable {settings : Settings} {state₀ : State} {first : App}
  (start : App.Started settings state₀ first) (moderate : settings.Moderate)
  (drawable : settings.Drawable)

include start moderate drawable

/-- **Passes that go well show a picture each**, and lead to the size and the state that they come
    to. -/
theorem exists_frames {size : Int × Int} {state : State} {s : Session}
    (h : App.Stands settings first size state s.app) {passes : List Pass}
    (faults : ∀ p ∈ passes, p.fault = none) (paintable : ∀ p ∈ passes, p.Paintable settings) :
    App.Stands settings first (sizeFrom settings size passes)
      (state.run (commandsFrom settings size passes)) (s.after passes).app ∧
    ∃ shown, (s.after passes).events = s.events ++ shown ∧
      Frames settings size state s passes shown := by
  induction passes using List.reverseRecOn with
  | nil =>
    exact ⟨h, [], (List.append_nil _).symm, rfl, fun k p hp => nomatch hp⟩
  | append_singleton passes p ih =>
    obtain ⟨hstands, shown, hevents, hframes⟩ :=
      ih (fun q hq => faults q (List.mem_append_left _ hq))
        (fun q hq => paintable q (List.mem_append_left _ hq))
    have hp : p ∈ passes ++ [p] := List.mem_append_right _ List.mem_cons_self
    obtain ⟨next, picture, event, hpass⟩ :=
      exists_pass start moderate drawable hstands (faults p hp) (paintable p hp)
    have hnext : s.after (passes ++ [p]) = next := by rw [after_concat, hpass.passes]
    have hsize := sizeFrom_concat settings size passes p
    refine ⟨?_, shown ++ [event], ?_, hframes.concat hpass.shows (hsize ▸ hpass.depicts)⟩
    · rw [hnext, commandsFrom_concat, hsize, State.run_append]
      exact hpass.stands
    · rw [hnext, hpass.events, hevents, List.append_assoc]

/-- The loop goes on just up to the first pass that asks to stop. -/
theorem loop_eq_after {size : Int × Int} {state : State} {s : Session}
    (h : App.Stands settings first size state s.app) (running : s.running = true)
    {passes : List Pass} (stops : ∃ p ∈ passes, p.stops = true)
    (faults : ∀ p ∈ upToStop passes, p.fault = none)
    (paintable : ∀ p ∈ upToStop passes, p.Paintable settings) :
    s.loop passes = (s.after (upToStop passes), none) ∧
      (s.after (upToStop passes)).running = false := by
  induction passes generalizing s size state with
  | nil =>
    obtain ⟨p, hp, -⟩ := stops
    cases hp
  | cons p rest ih =>
    have hp := mem_upToStop_head p rest
    obtain ⟨next, picture, event, hpass⟩ :=
      exists_pass start moderate drawable h (faults p hp) (paintable p hp)
    have hrunning := hpass.running running
    rw [loop, hpass.passes]
    cases hstops : p.stops with
    | true =>
      rw [hstops, Bool.not_true] at hrunning
      rw [upToStop_of_stops hstops, after_cons hpass.passes]
      exact ⟨by simp only [hrunning, Bool.false_eq_true, if_false]; rfl, hrunning⟩
    | false =>
      rw [hstops, Bool.not_false] at hrunning
      rw [upToStop_of_on hstops] at faults paintable ⊢
      have hlater : ∃ p ∈ rest, p.stops = true := by simpa [hstops] using stops
      rw [after_cons hpass.passes]
      simp only [hrunning, if_true]
      exact ih hpass.stands hrunning hlater (List.forall_mem_cons.1 faults).2
        (List.forall_mem_cons.1 paintable).2

/-- A loop that comes to its end has painted its window in every pass. -/
theorem paintable_of_loop {size : Int × Int} {state : State} {s last : Session}
    (h : App.Stands settings first size state s.app) (running : s.running = true)
    {passes : List Pass} (faults : ∀ p ∈ upToStop passes, p.fault = none)
    (hloop : s.loop passes = (last, none)) : ∀ p ∈ upToStop passes, p.Paintable settings := by
  induction passes generalizing s size state with
  | nil => exact fun p hp => nomatch hp
  | cons p rest ih =>
    rw [loop] at hloop
    rcases hpassed : s.pass p with ⟨next, _ | fault⟩
    · have hpaintable := paintable_of_pass start h hpassed
      obtain ⟨same, picture, event, hpass⟩ :=
        exists_pass start moderate drawable h (faults p (mem_upToStop_head p rest)) hpaintable
      obtain rfl : next = same := (Prod.mk.inj (hpassed.symm.trans hpass.passes)).1
      cases hstops : p.stops with
      | true =>
        rw [upToStop_of_stops hstops]
        exact List.forall_mem_singleton.2 hpaintable
      | false =>
        have hrunning := hpass.running running
        rw [hstops, Bool.not_false] at hrunning
        rw [upToStop_of_on hstops] at faults ⊢
        simp only [hpassed, hrunning, if_true] at hloop
        exact List.forall_mem_cons.2 ⟨hpaintable,
          ih hpass.stands hrunning (List.forall_mem_cons.1 faults).2 hloop⟩
    · simp only [hpassed] at hloop
      cases hloop

end Run

/-! ## 3. The whole run -/

/-- A session has gone through the passes, and nothing else: it has shown what they show between
    the opening of its window and the closing, and ends in the state that their commands lead to. -/
structure Completed (settings : Settings) (state : State) (s : Session) (passes : List Pass)
    (final : Session) : Prop where
  stopped : final.running = false
  leads : final.app.state =
    state.run (commandsFrom settings (settings.windowSize none none) passes)
  events : ∃ shown, final.events =
      [.opened settings.windowTitle, .sized settings.windowTitle (settings.windowSize none none).1
        (settings.windowSize none none).2, .listening settings.windowTitle] ++
      shown ++ [.closed] ∧
    Frames settings (settings.windowSize none none) state s.openWindow passes shown

variable {settings : Settings}

theorem run_eq_of_loop {s last : Session} {passes : List Pass} {fault : Option SessionFault}
    (h : s.openWindow.loop passes = (last, fault)) :
    (s.run passes).2 = fault ∧ (fault = none → (s.run passes).1 = last.closeWindow) := by
  unfold run
  rw [h]
  cases fault with
  | none => exact ⟨rfl, fun _ => rfl⟩
  | some fault => exact ⟨rfl, fun hnone => nomatch hnone⟩

/-- A session can be started if there is a canvas for its window. -/
theorem exists_start (moderate : settings.Moderate)
    (hcanvas : Canvas.sizeFault? (settings.windowSize none none).1
      (settings.windowSize none none).2 = none) (state : State) (startup : Startup) :
    ∃ first printed, App.start settings state startup = .ok (first, printed) ∧
      Session.start settings state startup = .ok { app := first, printed } := by
  obtain ⟨hwide, hhigh⟩ := Canvas.moderate_of_sizeFault? hcanvas
  obtain ⟨panel, hpanel⟩ := Panel.exists_create moderate hwide hhigh
  have hstart : ∃ first printed, App.start settings state startup = .ok (first, printed) := by
    have hlook := App.look_announcer_start settings startup
    unfold App.start
    generalize Announcer.start settings startup = begun at hlook ⊢
    obtain ⟨announcer, heard, lines⟩ := begun
    rw [← Settings.windowSize_eq_of_look hlook, ← Panel.create_eq_of_look hlook] at hpanel
    exact ⟨_, _, do_eq_ok.2 ⟨panel, hpanel, rfl⟩⟩
  obtain ⟨first, printed, hfirst⟩ := hstart
  exact ⟨first, printed, hfirst, do_eq_ok.2 ⟨_, hfirst, rfl⟩⟩

theorem stands_first {state : State} {first : App} (start : App.Started settings state first)
    (hcanvas : Canvas.sizeFault? (settings.windowSize none none).1
      (settings.windowSize none none).2 = none) :
    App.Stands settings first (settings.windowSize none none) state first := by
  refine ⟨⟨[], rfl⟩, ?_, hcanvas, start.state⟩
  obtain ⟨layout, -, hpanel⟩ := Panel.exists_refit_of_create start.panel
  rw [← hpanel, ← Settings.windowSize_eq_of_look start.look]
  exact Settings.windowSize_windowSize _ _ _

/-- **A session goes through its passes up to the first one that asks to stop**, if and only if its
    window can be painted in all of them. -/
theorem exists_completed (moderate : settings.Moderate) (drawable : settings.Drawable)
    (hcanvas : Canvas.sizeFault? (settings.windowSize none none).1
      (settings.windowSize none none).2 = none) (state : State) (startup : Startup)
    {passes : List Pass} (stops : ∃ p ∈ passes, p.stops = true)
    (faults : ∀ p ∈ upToStop passes, p.fault = none) :
    ∃ s, Session.start settings state startup = .ok s ∧
      ((s.run passes).2 = none ↔ ∀ p ∈ upToStop passes, p.Paintable settings) ∧
      ((∀ p ∈ upToStop passes, p.Paintable settings) →
        Completed settings state s (upToStop passes) (s.run passes).1) := by
  obtain ⟨first, printed, hfirst, hs⟩ := exists_start moderate hcanvas state startup
  have start := App.started hfirst
  let s : Session := { app := first, printed }
  have hopened : App.Stands settings first (settings.windowSize none none) state
      s.openWindow.app := stands_first start hcanvas
  rcases hloop : s.openWindow.loop passes with ⟨last, fault⟩
  obtain ⟨hends, hcloses⟩ := run_eq_of_loop hloop
  refine ⟨s, hs, ⟨fun hnone => ?_, fun paintable => ?_⟩, fun paintable => ?_⟩
  · obtain rfl : fault = none := hends.symm.trans hnone
    exact paintable_of_loop start moderate drawable hopened rfl faults hloop
  · obtain ⟨hgoes, -⟩ := loop_eq_after start moderate drawable hopened rfl stops faults paintable
    rw [hends, (Prod.mk.inj (hloop.symm.trans hgoes)).2]
  · obtain ⟨hgoes, hstopped⟩ :=
      loop_eq_after start moderate drawable hopened rfl stops faults paintable
    obtain ⟨rfl, rfl⟩ := Prod.mk.inj (hloop.symm.trans hgoes)
    obtain ⟨hstands, shown, hevents, hframes⟩ :=
      exists_frames start moderate drawable hopened faults paintable
    have htitle : first.settings.windowTitle = settings.windowTitle := by
      rw [← Settings.look_windowTitle, start.look, Settings.look_windowTitle]
    rw [hcloses rfl]
    refine ⟨hstopped, hstands.state, shown, ?_, hframes⟩
    show (s.openWindow.after _).events ++ [WindowEvent.closed] = _
    rw [hevents]
    simp only [s, openWindow, htitle, ← hopened.sized, List.nil_append]

/-- **A run shows its passes up to the first one that asks to stop**, whatever the state it begins
    with, if none of them fails to wait for a key and the window can be painted in all of them. If
    it cannot be painted in one of them, the run does not come to its end. -/
theorem run_shows_every_pass (state : State) (startup : Startup) {passes : List Pass}
    (stops : ∃ p ∈ passes, p.stops = true) (faults : ∀ p ∈ upToStop passes, p.fault = none) :
    ∃ s, Session.start {} state startup = .ok s ∧
      ((s.run passes).2 = none ↔ ∀ p ∈ upToStop passes, p.Paintable {}) ∧
      ((∀ p ∈ upToStop passes, p.Paintable {}) →
        Completed {} state s (upToStop passes) (s.run passes).1) := by
  have moderate : ({} : Settings).Moderate :=
    ⟨by decide +kernel, by decide +kernel, by decide +kernel⟩
  exact exists_completed moderate Settings.drawable_default (by decide +kernel) state startup stops
    faults

/-- In a window that has grown, a click and a key leave their commands to the next pass, which is
    the last one since the window is gone; the pass behind it is never made. -/
theorem click_and_key_shown_next :
    let passes : List Pass :=
      [{ width := 1000, height := 700, mouse := [⟨1, 30, 320⟩, ⟨0, 30, 320⟩], key := 256 + 43 },
       { visible := false }, { key := 49 }]
    let title := "Simplistic Calculator"
    ∃ s final shown picture event, Session.start {} {} .absent = .ok s ∧
      s.run passes = (final, none) ∧ final.app.state = ⟨"7+", [], .input, ""⟩ ∧
      final.events = [.opened title, .sized title 900 600, .listening title] ++ shown ++ [.closed] ∧
      shown.length = 2 ∧ shown[1]? = some event ∧
      (s.openWindow.after (passes.take 1)).Shows { visible := false } picture event ∧
      picture.Depicts {} (1000, 700) final.app.state := by
  intro passes title
  have hup : upToStop passes = passes.take 2 := rfl
  have hstops : ∃ p ∈ passes, p.stops = true := ⟨{ visible := false }, by simp [passes], rfl⟩
  have hfaults : ∀ p ∈ upToStop passes, p.fault = none := by
    rw [hup]
    simp [passes]
  have hpaintable : ∀ p ∈ upToStop passes, p.Paintable {} := by
    rw [hup]
    decide +kernel
  obtain ⟨s, hstart, hends, hcompletes⟩ := run_shows_every_pass {} .absent hstops hfaults
  obtain ⟨-, hleads, shown, hevents, hframes⟩ := hcompletes hpaintable
  have hstates : ∀ n ∈ [1, 2], State.run {} (commandsFrom {} (900, 600) (passes.take n)) =
      ⟨"7+", [], .input, ""⟩ := by
    simp only [passes, List.forall_mem_cons, List.take, commandsFrom, Pass.commands, Pass.clicks]
    unfold Panel.create
    rw [Layout.calculator_eq]
    decide +kernel
  have hstate : (s.run passes).1.app.state = ⟨"7+", [], .input, ""⟩ :=
    hleads.trans (hstates 2 (by decide))
  obtain ⟨picture, event, hevent, hshows, hdepicts⟩ := hframes.frame 1 { visible := false } rfl
  refine ⟨s, (s.run passes).1, shown, picture, event, hstart, Prod.ext rfl (hends.2 hpaintable),
    hstate, hevents, hframes.count, hevent, hshows, ?_⟩
  rw [hstate, ← hstates 1 (by decide)]
  exact hdepicts

/-- What ends a session early, if anything does. -/
def runFault? (begun : Except ArithmeticFault Session) (passes : List Pass) : Option SessionFault :=
  match begun with
  | .error fault => some (.arithmetic fault)
  | .ok s => (s.run passes).2

/-- In a window with sides of 31 binary digits escape is not reached, since there is no canvas. -/
theorem unpaintable_run :
    ¬∀ (state : State) (startup : Startup) (passes : List Pass),
      (∃ p ∈ passes, p.stops = true) → (∀ p ∈ passes, p.fault = none) →
      ∃ s, Session.start {} state startup = .ok s ∧ (s.run passes).2 = none ∧
        Completed {} state s (upToStop passes) (s.run passes).1 := by
  intro h
  let passes : List Pass := [{ width := 2147483647, height := 2147483647, key := 27 }]
  have hfault : runFault? (Session.start {} {} .absent) passes =
      some (.picture .areaTooLarge) := by
    unfold Session.start App.start Panel.create
    rw [Layout.calculator_eq]
    decide +kernel
  obtain ⟨s, hstart, hends, -⟩ := h {} .absent passes
    ⟨_, List.mem_cons_self, rfl⟩ (fun p hp => by rw [List.mem_singleton.1 hp])
  rw [hstart, runFault?, hends] at hfault
  cases hfault

end Session

end DeskCalc
