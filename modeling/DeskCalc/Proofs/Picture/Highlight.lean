import Mathlib.Data.List.Induction
import DeskCalc.Proofs.Picture.Drawable
import DeskCalc.Proofs.Picture.Fitted

/-!
# How long a button stays lit

A press lights its button up for a number of pictures, whatever was lit up before. A picture shows
the button first and takes its time away afterwards; fitting the panel to a window changes nothing,
and a picture that cannot be drawn takes no time. This file fixes

* `Panel.Press`, `Panel.Call`, `Panel.run`: what a panel is asked to do, and the panel afterwards;
* `Panel.drawn`, `Panel.drawnSince`: how many pictures were drawn, and since a press;
* `take_cases`: what a call does to the highlight;
* `Lit`: a button some pictures after its press, and `Lit.take`, `Lit.run`: what calls make of it;
* **`lit_since_last_press`**: a picture shows as pressed just the button of the last press, as long
  as fewer pictures have been drawn since than it was to stay lit for.
-/

namespace DeskCalc.Panel

/-! ## 1. Calls -/

/-- A button of the keypad is pressed and stays lit for some pictures. -/
structure Press where
  button : Button
  duration : Int
  known : button ∈ Keypad.buttons
  lasting : 1 ≤ duration

inductive Call where
  | press (press : Press)
  | resize (width height : Int)
  | render (s : State)

def Call.isPress : Call → Bool
  | press _ => true
  | _ => false

/-- The panel after a call, whether it failed or not. -/
def take (settings : Settings) (p : Panel) : Call → Panel
  | .press press => p.press press.button.area press.duration
  | .resize width height => (p.resize settings width height).1
  | .render s =>
    match p.render settings s with
    | .ok (_, after) => after
    | .error _ => p

def run (settings : Settings) (p : Panel) (calls : List Call) : Panel :=
  calls.foldl (take settings) p

/-- The number of pictures that a call draws: one or none. -/
def drawnBy (settings : Settings) (p : Panel) : Call → Nat
  | .render s => if (p.render settings s).isOk then 1 else 0
  | _ => 0

/-- The number of pictures drawn in some calls. -/
def drawn (settings : Settings) (p : Panel) : List Call → Nat
  | [] => 0
  | call :: rest => p.drawnBy settings call + (p.take settings call).drawn settings rest

/-- The number of pictures drawn since a press, in the calls after it. -/
def drawnSince (settings : Settings) (p : Panel) (before : List Call) (press : Press)
    (since : List Call) : Nat :=
  (p.run settings (before ++ [.press press])).drawn settings since

/-- The last press among some calls, with the calls before and since. -/
structure LastPress (calls before : List Call) (press : Press) (since : List Call) : Prop where
  split : calls = before ++ .press press :: since
  noneSince : ∀ call ∈ since, call.isPress = false

section

variable {settings : Settings} {p : Panel} {call : Call} {calls before since : List Call}
  {press : Press}

theorem run_append (settings : Settings) (p : Panel) (calls more : List Call) :
    p.run settings (calls ++ more) = (p.run settings calls).run settings more :=
  List.foldl_append

/-- Among some calls there is a last press or none. -/
theorem exists_lastPress (calls : List Call) :
    (∀ call ∈ calls, call.isPress = false) ∨ ∃ before press since,
      LastPress calls before press since := by
  induction calls using List.reverseRecOn with
  | nil => exact .inl (List.forall_mem_nil _)
  | append_singleton calls call ih =>
    cases hcall : call.isPress with
    | true =>
      cases call with
      | press press => exact .inr ⟨calls, press, [], rfl, List.forall_mem_nil _⟩
      | resize | render => cases hcall
    | false =>
      rcases ih with hnone | ⟨before, press, since, hlast⟩
      · exact .inl (List.forall_mem_append.2 ⟨hnone, List.forall_mem_singleton.2 hcall⟩)
      · refine .inr ⟨before, press, since ++ [call], ?_, ?_⟩
        · rw [hlast.split, List.append_assoc, List.cons_append]
        · exact List.forall_mem_append.2 ⟨hlast.noneSince, List.forall_mem_singleton.2 hcall⟩

/-- **What a call does to the highlight**, if it is no press: nothing, or it draws a picture. -/
theorem take_cases (settings : Settings) (p : Panel) (hcall : call.isPress = false) :
    (p.drawnBy settings call = 0 ∧ (p.take settings call).pressed = p.pressed ∧
      (p.take settings call).timer = p.timer) ∨
    (p.drawnBy settings call = 1 ∧ p.take settings call = p.tick) := by
  cases call with
  | press => cases hcall
  | resize width height => exact .inl ⟨rfl, highlight_resize settings p width height⟩
  | render s =>
    unfold take drawnBy
    dsimp only
    cases hrender : p.render settings s with
    | error fault => exact .inl ⟨rfl, rfl, rfl⟩
    | ok picture =>
      obtain ⟨strokes, after⟩ := picture
      obtain ⟨-, -, -, -, -, -, rfl⟩ := render_eq_ok.1 hrender
      exact .inr ⟨rfl, rfl⟩

/-! ## 2. After a press -/

/-- The highlight some pictures after a press. -/
structure Lit (press : Press) (pictures : Nat) (p : Panel) : Prop where
  during : pictures < press.duration →
    p.pressed = some press.button.area ∧ p.timer = press.duration - pictures
  afterwards : press.duration ≤ pictures → p.pressed = none ∧ p.timer = 0

theorem lit_press (p : Panel) (press : Press) :
    Lit press 0 (p.press press.button.area press.duration) where
  during _ := ⟨rfl, (Int.sub_zero _).symm⟩
  afterwards hover := by
    have hlasting := press.lasting
    omega

/-- A picture takes its time away. -/
theorem Lit.tick {n : Nat} (h : Lit press n p) : Lit press (n + 1) p.tick := by
  rcases Int.lt_or_le n press.duration with hlit | hover
  · obtain ⟨hpressed, htimer⟩ := h.during hlit
    have hpositive : 0 < p.timer := by omega
    have hless : p.timer - 1 = press.duration - (n + 1 : Nat) := by omega
    rw [Panel.tick, if_pos hpositive]
    constructor
    · intro hmore
      have hnotLast : p.timer ≠ 1 := by omega
      exact ⟨(if_neg hnotLast).trans hpressed, hless⟩
    · intro hlast
      have hone : p.timer = 1 := by omega
      exact ⟨if_pos hone, by rw [hone]; rfl⟩
  · have hout := h.afterwards hover
    have hstopped : ¬0 < p.timer := by omega
    rw [Panel.tick, if_neg hstopped]
    exact ⟨fun hless => by omega, fun _ => hout⟩

/-- **A call leaves the button lit up** as many pictures less as it draws. -/
theorem Lit.take {n : Nat} (h : Lit press n p) (hcall : call.isPress = false) :
    Lit press (n + p.drawnBy settings call) (p.take settings call) := by
  rcases take_cases settings p hcall with ⟨hnone, hpressed, htimer⟩ | ⟨hone, htick⟩
  · rw [hnone]
    constructor
    · rw [hpressed, htimer]
      exact h.during
    · rw [hpressed, htimer]
      exact h.afterwards
  · rw [hone, htick]
    exact h.tick

theorem Lit.run {n : Nat} (h : Lit press n p) (hcalls : ∀ call ∈ calls, call.isPress = false) :
    Lit press (n + p.drawn settings calls) (p.run settings calls) := by
  induction calls generalizing p n with
  | nil => exact h
  | cons call rest ih =>
    obtain ⟨hcall, hrest⟩ := List.forall_mem_cons.1 hcalls
    have hmore : Lit press _ ((p.take settings call).run settings rest) :=
      ih (h.take hcall) hrest
    rw [Nat.add_assoc] at hmore
    exact hmore

/-- After the last press its button is lit up as long as few enough pictures have been drawn. -/
theorem LastPress.lit (h : LastPress calls before press since) (settings : Settings) (p : Panel) :
    Lit press (p.drawnSince settings before press since) (p.run settings calls) := by
  have hsplit : calls = (before ++ [.press press]) ++ since := by rw [h.split]; simp
  have hpress : p.run settings (before ++ [.press press]) =
      (p.run settings before).press press.button.area press.duration := run_append _ _ _ _
  have hlit := lit_press (p.run settings before) press
  rw [← hpress] at hlit
  have hsince : Lit press (0 + drawn settings (p.run settings (before ++ [.press press])) since) _ :=
    hlit.run h.noneSince
  rw [Nat.zero_add, ← run_append, ← hsplit] at hsince
  exact hsince

theorem Lit.pressed_eq_none_iff {n : Nat} (h : Lit press n p) :
    p.pressed = none ↔ p.timer = 0 := by
  rcases Int.lt_or_le n press.duration with hlit | hover
  · obtain ⟨hpressed, htimer⟩ := h.during hlit
    rw [hpressed]
    exact ⟨fun hnone => (nomatch hnone), fun hzero => by omega⟩
  · obtain ⟨hpressed, htimer⟩ := h.afterwards hover
    exact ⟨fun _ => htimer, fun _ => hpressed⟩

/-! ## 3. Without a press -/

/-- No button is lit up. -/
def Unlit (p : Panel) : Prop := p.pressed = none ∧ p.timer = 0

theorem Unlit.take (h : p.Unlit) (hcall : call.isPress = false) :
    (p.take settings call).Unlit := by
  rcases take_cases settings p hcall with ⟨-, hpressed, htimer⟩ | ⟨-, htick⟩
  · exact ⟨hpressed.trans h.1, htimer.trans h.2⟩
  · have hstopped : ¬0 < p.timer := by rw [h.2]; exact Int.lt_irrefl 0
    rw [htick, Panel.tick, if_neg hstopped]
    exact h

theorem Unlit.run (h : p.Unlit) (hcalls : ∀ call ∈ calls, call.isPress = false) :
    (p.run settings calls).Unlit := by
  induction calls generalizing p with
  | nil => exact h
  | cons call rest ih =>
    obtain ⟨hcall, hrest⟩ := List.forall_mem_cons.1 hcalls
    exact ih (h.take hcall) hrest

theorem unlit_create {width height : Int} (h : create settings width height = .ok p) :
    p.Unlit := by
  obtain ⟨layout, -, rfl⟩ := exists_refit_of_create h
  exact ⟨rfl, rfl⟩

end

/-! ## 4. After any calls -/

theorem button_eq_of_area_eq {b b' : Button} (hb : b ∈ Keypad.buttons) (hb' : b' ∈ Keypad.buttons)
    (h : b.area = b'.area) : b = b' := by
  have hfound := Keypad.button?_area b hb
  rw [h, Keypad.button?_area b' hb'] at hfound
  exact (Option.some.inj hfound).symm

/-- **A button is lit up for as many pictures as its press asks for**, the last press alone being in
    force. After any calls, no button is lit up just when no time is left. Of the last press, so many
    pictures of its time are left as have not been drawn since; when all are drawn, no button is lit
    up. And a picture shows a button as pressed just if it is the one of the last press and fewer
    pictures than it asks for have been drawn since. -/
theorem lit_since_last_press {settings : Settings} {width height : Int} {first : Panel}
    (hfirst : create settings width height = .ok first) (calls : List Call) :
    let p := first.run settings calls
    (p.pressed = none ↔ p.timer = 0) ∧
    (∀ before press since, LastPress calls before press since →
      (first.drawnSince settings before press since < press.duration →
        p.pressed = some press.button.area ∧
          p.timer = press.duration - first.drawnSince settings before press since) ∧
      (press.duration ≤ first.drawnSince settings before press since →
        p.pressed = none ∧ p.timer = 0)) ∧
    ∀ s strokes after, p.render settings s = .ok (strokes, after) → ∀ b ∈ Keypad.buttons,
      (ShowsPressed strokes b ↔ ∃ before press since, LastPress calls before press since ∧
        press.button = b ∧ first.drawnSince settings before press since < press.duration) := by
  intro p
  have hlit {before press since} (hlast : LastPress calls before press since) :
      Lit press (first.drawnSince settings before press since) p := hlast.lit settings first
  have hcases : p.Unlit ∨ ∃ before press since, LastPress calls before press since :=
    (exists_lastPress calls).imp_left (unlit_create hfirst).run
  refine ⟨?_, fun before press since hlast => ⟨(hlit hlast).during, (hlit hlast).afterwards⟩,
    fun s strokes after hrender b hb => ?_⟩
  · rcases hcases with ⟨hpressed, htimer⟩ | ⟨before, press, since, hlast⟩
    · exact ⟨fun _ => htimer, fun _ => hpressed⟩
    · exact (hlit hlast).pressed_eq_none_iff
  · rw [showsPressed_iff hrender hb]
    constructor
    · intro hshown
      rcases hcases with ⟨hpressed, -⟩ | ⟨before, press, since, hlast⟩
      · exact nomatch hshown.symm.trans hpressed
      · refine ⟨before, press, since, hlast, ?_⟩
        rcases Int.lt_or_le (first.drawnSince settings before press since) press.duration with
          hless | hover
        · have hown := ((hlit hlast).during hless).1
          have harea := Option.some.inj (hown.symm.trans hshown)
          exact ⟨button_eq_of_area_eq press.known hb harea, hless⟩
        · have hnone := ((hlit hlast).afterwards hover).1
          exact nomatch hshown.symm.trans hnone
    · rintro ⟨before, press, since, hlast, rfl, hless⟩
      exact ((hlit hlast).during hless).1

/-- The button of the digit seven, pressed for two pictures. -/
def sevenForTwo : Press where
  button := Keypad.appending "seven" "7" Keypad.green
  duration := 2
  known := by decide
  lasting := by decide

/-- After another press before it and one picture since, the next picture shows the seven as
    pressed, and it is the last one. -/
theorem seven_lit_in_second_picture :
    let six : Press := ⟨Keypad.appending "six" "6" Keypad.green, 9, by decide, by decide⟩
    let since : List Call := [.resize 700 800, .render {}]
    let calls : List Call := [.press six] ++ .press sevenForTwo :: since
    ∃ first strokes after, create {} 900 600 = .ok first ∧
      (first.run {} calls).render {} {} = .ok (strokes, after) ∧
      ShowsPressed strokes sevenForTwo.button ∧ (first.run {} calls).timer = 1 := by
  intro six since calls
  have hcheck : ((create {} 900 600).toOption.any fun first =>
      ((first.run {} calls).render {} {}).isOk &&
        first.drawnSince {} [.press six] sevenForTwo since == 1) = true := by
    unfold create
    rw [Layout.calculator_eq]
    decide +kernel
  cases hfirst : create {} 900 600 with
  | error fault =>
    rw [hfirst] at hcheck
    cases hcheck
  | ok first =>
    rw [hfirst] at hcheck
    obtain ⟨hdrawable, hdrawn⟩ := Bool.and_eq_true_iff.1 hcheck
    cases hrender : (first.run {} calls).render {} {} with
    | error fault =>
      rw [hrender] at hdrawable
      cases hdrawable
    | ok picture =>
      obtain ⟨strokes, after⟩ := picture
      have hlast : LastPress calls [.press six] sevenForTwo since := ⟨rfl, by decide⟩
      have hone : first.drawnSince {} [.press six] sevenForTwo since = 1 :=
        of_decide_eq_true hdrawn
      have hless : (first.drawnSince {} [.press six] sevenForTwo since : Int) <
          sevenForTwo.duration := by
        rw [hone]
        decide
      obtain ⟨-, hlit, hshows⟩ := lit_since_last_press hfirst calls
      refine ⟨first, strokes, after, rfl, hrender, ?_, ?_⟩
      · exact (hshows {} strokes after hrender _ sevenForTwo.known).2 ⟨_, _, _, hlast, rfl, hless⟩
      · rw [((hlit _ _ _ hlast).1 hless).2, hone]
        rfl

end DeskCalc.Panel
