import CodeKeyboard.Session
import CodeKeyboard.Proofs.Outcome
import CodeKeyboard.Proofs.Places

/-!
# Edits of a keyboard

A step of a session that edits a keyboard names a tab, and often a button of it, by offsets that may
count from either end. What such a step may do is said once, by the shape of the keyboard before and
after it: a tab with what stands before and behind it, and within the tab a button with what stands
around that. Everything around what is named stays as it was.

- `Keyboard.editTab_eq_ok_iff`: an edit of a tab changes nothing but the buttons of that tab.
- `Keyboard.Edited`: the shape of a keyboard before and after a step.
- `Keyboard.edited_iff`: a step succeeds exactly when it leads from one such shape to the other;
  every other fact about steps is read off the shapes.
-/

namespace CodeKeyboard

/-! ## Labels -/

/-- A button that can be seen and used: a label that shows something and has no blanks around it,
and a text to insert. -/
structure Button.Usable (button : Button) : Prop where
  label_ne_nil : button.label ≠ []
  head_visible : ∀ c ∈ button.label.head?, Text.isBlank c = false
  last_visible : ∀ c ∈ button.label.getLast?, Text.isBlank c = false
  text_ne_nil : button.text ≠ []

open Offset

namespace Keyboard

variable {keyboard edited : Keyboard} {id label text : Text} {offset : Int}

/-- What is given for a button is accepted when the button can be used with the trimmed label. -/
theorem checkedLabel_eq_ok_iff {trimmed : Text} (id : Text) :
    checkedLabel label text = .ok trimmed ↔
      trimmed = Text.trim label ∧ Button.Usable ⟨id, trimmed, text⟩ := by
  unfold checkedLabel
  dsimp only
  split
  · next hempty =>
    rw [Bool.or_eq_true, List.isEmpty_iff, List.isEmpty_iff] at hempty
    refine iff_of_false (nomatch ·) ?_
    rintro ⟨rfl, husable⟩
    exact hempty.elim husable.label_ne_nil husable.text_ne_nil
  · next hgiven =>
    rw [Bool.or_eq_true, List.isEmpty_iff, List.isEmpty_iff, not_or] at hgiven
    constructor
    · intro h
      cases h
      exact ⟨rfl, hgiven.1, fun _ => Text.not_isBlank_of_head?_trim,
        fun _ => Text.not_isBlank_of_getLast?_trimEnd, hgiven.2⟩
    · rintro ⟨rfl, -⟩
      rfl

/-! ## One edit -/

theorem indexOr_eq_ok_iff {fault : EditError} {length place : Nat} :
    indexOr fault length offset = .ok place ↔ Names length offset place := by
  rw [← index?_eq_some_iff, indexOr]
  cases Offset.index? length offset with
  | none => exact iff_of_false (nomatch ·) (nomatch ·)
  | some found => rw [Except.ok.injEq, Option.some.injEq]

/-- **An edit of a tab** succeeds when the offset names a tab whose buttons can be edited so, and
changes nothing but the buttons of that tab. -/
theorem editTab_eq_ok_iff {edit : List Button → Except EditError (List Button)} :
    keyboard.editTab offset edit = .ok edited ↔
      ∃ front tab back buttons, keyboard = front ++ tab :: back ∧
        Names keyboard.length offset front.length ∧ edit tab.buttons = .ok buttons ∧
        edited = front ++ { tab with buttons := buttons } :: back := by
  unfold editTab
  rw [Outcome.bind_eq_ok_iff]
  constructor
  · rintro ⟨i, hi, h⟩
    rw [indexOr_eq_ok_iff] at hi
    split at h
    · cases h
    · next tab htab =>
      obtain ⟨buttons, hbuttons, h⟩ := Outcome.bind_eq_ok_iff.1 h
      cases h
      obtain ⟨hlt, rfl⟩ := List.getElem?_eq_some_iff.1 htab
      obtain ⟨front, back, hkeyboard, rfl, hset⟩ :=
        @List.exists_of_set _ _ { keyboard[i] with buttons := buttons } _ hlt
      exact ⟨front, keyboard[front.length], back, buttons, hkeyboard, hi, hbuttons, hset⟩
  · rintro ⟨front, tab, back, buttons, rfl, hnames, hbuttons, rfl⟩
    refine ⟨front.length, indexOr_eq_ok_iff.2 hnames, ?_⟩
    simp only [getElem?_length_append]
    refine Outcome.bind_eq_ok_iff.2 ⟨buttons, hbuttons, ?_⟩
    rw [List.set_append_right _ _ (Nat.le_refl _), Nat.sub_self, List.set_cons_zero]
    rfl

end Keyboard

/-! ## Edits of a draft -/

/-- What a step makes of a keyboard, if it is a step that edits one. A new button or tab gets the
id. -/
def Step.edit? (id : Text) (keyboard : Keyboard) : Step → Option (Except EditError Keyboard)
  | .addButton tab label text => some (keyboard.addButton tab id label text)
  | .editButton tab button label text => some (keyboard.editButton tab button label text)
  | .deleteButton tab button => some (keyboard.deleteButton tab button)
  | .addTab label => some (keyboard.addTab id label)
  | .deleteTab tab => some (keyboard.deleteTab tab)
  | _ => none

namespace Keyboard

/-- The shape of a keyboard before and after a step that edits it. A new button or tab gets the
id. -/
inductive Edited (id : Text) : Step → Keyboard → Keyboard → Prop where
  /-- A new button stands last in the tab that is named. -/
  | addButton {front back : Keyboard} {tab : Tab} {offset : Int} {label text : Text}
      (hnames : Names (front ++ tab :: back).length offset front.length)
      (husable : Button.Usable ⟨id, Text.trim label, text⟩) :
      Edited id (.addButton offset label text) (front ++ tab :: back)
        (front ++ { tab with buttons := tab.buttons ++ [⟨id, Text.trim label, text⟩] } :: back)
  /-- The button that is named shows and inserts something else. Its id and place are the same. -/
  | editButton {front back : Keyboard} {tab : Tab} {before after : List Button} {button : Button}
      {offset place : Int} {label text : Text}
      (hnames : Names (front ++ tab :: back).length offset front.length)
      (hsplit : tab.buttons = before ++ button :: after)
      (hplace : Names tab.buttons.length place before.length)
      (husable : Button.Usable ⟨button.id, Text.trim label, text⟩) :
      Edited id (.editButton offset place label text) (front ++ tab :: back)
        (front ++
          { tab with buttons := before ++ ⟨button.id, Text.trim label, text⟩ :: after } :: back)
  /-- The button that is named is gone. -/
  | deleteButton {front back : Keyboard} {tab : Tab} {before after : List Button} {button : Button}
      {offset place : Int}
      (hnames : Names (front ++ tab :: back).length offset front.length)
      (hsplit : tab.buttons = before ++ button :: after)
      (hplace : Names tab.buttons.length place before.length) :
      Edited id (.deleteButton offset place) (front ++ tab :: back)
        (front ++ { tab with buttons := before ++ after } :: back)
  /-- A new tab without buttons stands last. -/
  | addTab {keyboard : Keyboard} {label : Text} (hlabel : Text.trim label ≠ []) :
      Edited id (.addTab label) keyboard (keyboard ++ [⟨id, Text.trim label, []⟩])
  /-- The tab that is named is gone, unless it is the only one. -/
  | deleteTab {front back : Keyboard} {tab : Tab} {offset : Int}
      (hnames : Names (front ++ tab :: back).length offset front.length)
      (hothers : front ++ back ≠ []) :
      Edited id (.deleteTab offset) (front ++ tab :: back) (front ++ back)

variable {keyboard edited : Keyboard} {id label text : Text} {offset place : Int}

theorem addButton_eq_ok_iff :
    keyboard.addButton offset id label text = .ok edited ↔
      Edited id (.addButton offset label text) keyboard edited := by
  unfold addButton
  rw [Outcome.bind_eq_ok_iff]
  constructor
  · rintro ⟨trimmed, hlabel, h⟩
    obtain ⟨rfl, husable⟩ := (checkedLabel_eq_ok_iff id).1 hlabel
    obtain ⟨front, tab, back, buttons, rfl, hnames, hbuttons, rfl⟩ := editTab_eq_ok_iff.1 h
    cases hbuttons
    exact .addButton hnames husable
  · intro h
    cases h with
    | @addButton front back tab _ _ _ hnames husable =>
      exact ⟨Text.trim label, (checkedLabel_eq_ok_iff id).2 ⟨rfl, husable⟩,
        editTab_eq_ok_iff.2 ⟨front, tab, back, _, rfl, hnames, rfl, rfl⟩⟩

theorem editButton_eq_ok_iff :
    keyboard.editButton offset place label text = .ok edited ↔
      Edited id (.editButton offset place label text) keyboard edited := by
  unfold editButton
  rw [Outcome.bind_eq_ok_iff]
  constructor
  · rintro ⟨trimmed, hlabel, h⟩
    obtain ⟨front, tab, back, buttons, rfl, hnames, hbuttons, rfl⟩ := editTab_eq_ok_iff.1 h
    obtain ⟨i, hi, hbuttons⟩ := Outcome.bind_eq_ok_iff.1 hbuttons
    rw [indexOr_eq_ok_iff] at hi
    obtain ⟨before, button, after, hsplit, rfl⟩ := exists_split_at hi.1
    obtain ⟨rfl, husable⟩ := (checkedLabel_eq_ok_iff button.id).1 hlabel
    rw [hsplit, modify_length_append] at hbuttons
    cases hbuttons
    exact .editButton hnames hsplit hi husable
  · intro h
    cases h with
    | @editButton front back tab before after button _ _ _ _ hnames hsplit hplace husable =>
      refine ⟨Text.trim label, (checkedLabel_eq_ok_iff button.id).2 ⟨rfl, husable⟩,
        editTab_eq_ok_iff.2 ⟨front, tab, back, _, rfl, hnames, ?_, rfl⟩⟩
      refine Outcome.bind_eq_ok_iff.2 ⟨before.length, indexOr_eq_ok_iff.2 hplace, ?_⟩
      rw [hsplit, modify_length_append]
      rfl

theorem deleteButton_eq_ok_iff :
    keyboard.deleteButton offset place = .ok edited ↔
      Edited id (.deleteButton offset place) keyboard edited := by
  unfold deleteButton
  rw [editTab_eq_ok_iff]
  constructor
  · rintro ⟨front, tab, back, buttons, rfl, hnames, hbuttons, rfl⟩
    obtain ⟨i, hi, hbuttons⟩ := Outcome.bind_eq_ok_iff.1 hbuttons
    rw [indexOr_eq_ok_iff] at hi
    obtain ⟨before, button, after, hsplit, rfl⟩ := exists_split_at hi.1
    rw [hsplit, eraseIdx_length_append] at hbuttons
    cases hbuttons
    exact .deleteButton hnames hsplit hi
  · intro h
    cases h with
    | @deleteButton front back tab before after button _ _ hnames hsplit hplace =>
      refine ⟨front, tab, back, _, rfl, hnames, ?_, rfl⟩
      refine Outcome.bind_eq_ok_iff.2 ⟨before.length, indexOr_eq_ok_iff.2 hplace, ?_⟩
      rw [hsplit, eraseIdx_length_append]
      rfl

theorem addTab_eq_ok_iff :
    keyboard.addTab id label = .ok edited ↔ Edited id (.addTab label) keyboard edited := by
  unfold addTab
  dsimp only
  split
  · next hempty =>
    rw [List.isEmpty_iff] at hempty
    refine iff_of_false (nomatch ·) ?_
    intro h
    cases h with
    | addTab hlabel => exact hlabel hempty
  · next hlabel =>
    rw [List.isEmpty_iff] at hlabel
    constructor
    · intro h
      cases h
      exact .addTab hlabel
    · intro h
      cases h
      rfl

theorem deleteTab_eq_ok_iff :
    keyboard.deleteTab offset = .ok edited ↔ Edited id (.deleteTab offset) keyboard edited := by
  unfold deleteTab
  split
  · next hlast =>
    refine iff_of_false (nomatch ·) ?_
    intro h
    cases h with
    | deleteTab hnames hothers =>
      rw [List.length_append, List.length_cons] at hlast
      exact hothers (List.length_eq_zero_iff.1 (by rw [List.length_append]; omega))
  · next hmore =>
    rw [Outcome.bind_eq_ok_iff]
    constructor
    · rintro ⟨i, hi, h⟩
      rw [indexOr_eq_ok_iff] at hi
      obtain ⟨front, tab, back, rfl, rfl⟩ := exists_split_at hi.1
      rw [eraseIdx_length_append] at h
      cases h
      refine .deleteTab hi fun hnone => hmore ?_
      have hlength := congrArg List.length hnone
      rw [List.length_append, List.length_nil] at hlength
      rw [List.length_append, List.length_cons]
      omega
    · intro h
      cases h with
      | @deleteTab front _ _ _ hnames _ =>
        refine ⟨front.length, indexOr_eq_ok_iff.2 hnames, ?_⟩
        rw [eraseIdx_length_append]
        rfl

/-- **A step that edits a keyboard** succeeds exactly when it leads from one such shape to the
other. -/
theorem edited_iff {step : Step} {result : Except EditError Keyboard}
    (h : step.edit? id keyboard = some result) :
    result = .ok edited ↔ Edited id step keyboard edited := by
  cases step with
  | addButton =>
    cases h
    exact addButton_eq_ok_iff
  | editButton =>
    cases h
    exact editButton_eq_ok_iff
  | deleteButton =>
    cases h
    exact deleteButton_eq_ok_iff
  | addTab =>
    cases h
    exact addTab_eq_ok_iff
  | deleteTab =>
    cases h
    exact deleteTab_eq_ok_iff
  | _ => cases h

/-- Deleting the last button of a tab takes back the button that was just added to it. -/
theorem deleteButton_of_addButton (h : keyboard.addButton offset id label text = .ok edited) :
    edited.deleteButton offset (-1) = .ok keyboard := by
  rw [addButton_eq_ok_iff] at h
  rw [@deleteButton_eq_ok_iff _ _ id]
  cases h with
  | @addButton front back tab _ _ _ hnames _ =>
    have hlast : Names (tab.buttons ++ [(⟨id, Text.trim label, text⟩ : Button)]).length (-1)
        tab.buttons.length := by
      rw [List.length_append, List.length_singleton]
      exact ⟨by omega, .inr (by omega)⟩
    have hnames : Names (front ++ { tab with
        buttons := tab.buttons ++ [⟨id, Text.trim label, text⟩] } :: back).length offset
        front.length := by
      rw [List.length_append, List.length_cons] at hnames ⊢
      exact hnames
    have hdeleted : Edited id (.deleteButton offset (-1)) _ _ := .deleteButton hnames rfl hlast
    rw [List.append_nil] at hdeleted
    exact hdeleted

/-- Whatever is edited, a tab remains. -/
theorem Edited.ne_nil {step : Step} (h : Edited id step keyboard edited) : edited ≠ [] := by
  cases h with
  | addButton | editButton | deleteButton | addTab =>
    exact List.append_ne_nil_of_right_ne_nil _ (List.cons_ne_nil _ _)
  | deleteTab _ hothers => exact hothers

theorem mem_buttons_around {front back : Keyboard} {tab : Tab} {button : Button} :
    button ∈ Keyboard.buttons (front ++ tab :: back) ↔
      button ∈ front.buttons ∨ button ∈ tab.buttons ∨ button ∈ back.buttons := by
  simp only [Keyboard.buttons, List.flatMap_append, List.flatMap_cons, List.mem_append]

/-- A button that was not there before can be used. -/
theorem Edited.mem_or_usable {step : Step} (h : Edited id step keyboard edited) {button : Button}
    (hbutton : button ∈ edited.buttons) : button ∈ keyboard.buttons ∨ button.Usable := by
  cases h with
  | addButton _ husable =>
    rw [mem_buttons_around, List.mem_append, List.mem_singleton] at hbutton
    rw [mem_buttons_around]
    grind
  | editButton _ hsplit _ husable =>
    rw [mem_buttons_around, List.mem_append, List.mem_cons] at hbutton
    rw [mem_buttons_around, hsplit, List.mem_append, List.mem_cons]
    grind
  | deleteButton _ hsplit _ =>
    rw [mem_buttons_around, List.mem_append] at hbutton
    rw [mem_buttons_around, hsplit, List.mem_append, List.mem_cons]
    grind
  | addTab _ =>
    rw [mem_buttons_around] at hbutton
    grind [Keyboard.buttons]
  | deleteTab _ _ =>
    rw [Keyboard.buttons, List.flatMap_append, List.mem_append] at hbutton
    rw [mem_buttons_around]
    exact .inl (hbutton.imp_right .inr)

end Keyboard

end CodeKeyboard
