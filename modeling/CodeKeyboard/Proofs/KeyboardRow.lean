import CodeKeyboard.Keyboard.Saved
import CodeKeyboard.Proofs.Outcome

/-!
# What a row holds of a keyboard

The text under the key of a language may be anything. Unlike a history it is taken as a whole or not
at all: one button without a label is enough, and the language keeps the keyboard it comes with.
`Keyboard.Held` says what a row holds without a way to read it: an array of objects, each with an
array of buttons, each an object with three texts. The key and the label of a tab may be anything.

- `Keyboard.decode_eq_ok_iff`: what is decoded is what the text holds, level by level.
- `Keyboard.load_of_held`, `Keyboard.load_of_not_held`: so a keyboard that the row holds is loaded,
  and without one the keyboard of the language.
-/

namespace CodeKeyboard

/-! ## Buttons -/

namespace Button

/-- A JSON value holds a button: it is an object with the texts of the button under their names,
whatever else it has. -/
def Held (value : Json) (button : Button) : Prop :=
  ∃ entries, value = .object entries ∧
    entries.lookup ("id" : Text) = some (.text button.id) ∧
    entries.lookup ("label" : Text) = some (.text button.label) ∧
    entries.lookup ("text" : Text) = some (.text button.text)

theorem eq_text_of_field? {value : Json} {name s : Text}
    (h : (value.field? name).bind Json.text? = some s) : value.field? name = some (.text s) := by
  obtain ⟨entry, hentry, htext⟩ := Option.bind_eq_some_iff.1 h
  cases entry with
  | text s' => exact hentry.trans (congrArg (some ∘ Json.text) (Option.some.inj htext))
  | null | bool | int | real | array | object => cases htext

theorem ofJson_eq_ok_iff {value : Json} {button : Button} :
    ofJson value = .ok button ↔ Held value button := by
  constructor
  · intro h
    unfold ofJson at h
    split at h
    · next id label text hid hlabel htext =>
      cases h
      cases value with
      | object entries =>
        exact ⟨entries, rfl, eq_text_of_field? hid, eq_text_of_field? hlabel,
          eq_text_of_field? htext⟩
      | null | bool | int | real | text | array => cases hid
    · cases h
  · rintro ⟨entries, rfl, hid, hlabel, htext⟩
    simp only [ofJson, Json.field?, hid, hlabel, htext, Option.bind_some, Json.text?]

end Button

/-! ## Tabs -/

namespace Tab

/-- A JSON value holds a tab: it is an object with an array of the buttons. Its key and its label
are what stands under their names, shown as text, or empty. -/
def Held (value : Json) (tab : Tab) : Prop :=
  ∃ entries items, value = .object entries ∧ entries.lookup ("data" : Text) = some (.array items) ∧
    List.Forall₂ Button.Held items tab.buttons ∧
    tab.key = ((entries.lookup ("key" : Text)).map Json.shown).getD [] ∧
    tab.label = ((entries.lookup ("label" : Text)).map Json.shown).getD []

theorem ofJson_eq_ok_iff {value : Json} {tab : Tab} : ofJson value = .ok tab ↔ Held value tab := by
  constructor
  · intro h
    unfold ofJson at h
    split at h
    · cases h
    · next items hitems =>
      obtain ⟨buttons, hbuttons, rfl⟩ := Outcome.map_eq_ok_iff.1 h
      obtain ⟨entry, hentry, harray⟩ := Option.bind_eq_some_iff.1 hitems
      cases entry with
      | array found =>
        cases harray
        cases value with
        | object entries =>
          refine ⟨entries, items, rfl, hentry, ?_, rfl, rfl⟩
          exact (Outcome.mapM_eq_ok_iff.1 hbuttons).imp fun _ _ => Button.ofJson_eq_ok_iff.1
        | null | bool | int | real | text | array => cases hentry
      | null | bool | int | real | text | object => cases harray
  · rintro ⟨entries, items, rfl, hdata, hbuttons, hkey, hlabel⟩
    have hread : items.mapM Button.ofJson = .ok tab.buttons :=
      Outcome.mapM_eq_ok_iff.2 (hbuttons.imp fun _ _ => Button.ofJson_eq_ok_iff.2)
    simp only [ofJson, Json.field?, hdata, Option.bind_some, Json.array?]
    rw [hread]
    show Except.ok (Tab.mk _ _ tab.buttons) = .ok tab
    rw [shownField, shownField, Json.field?, Json.field?, ← hkey, ← hlabel]

/-- What is wrong with a tab is never that its text cannot be read. -/
theorem ofJson_ne_unreadable {value : Json} {cause : Json.ReadError} :
    ofJson value ≠ .error (.unreadable cause) := by
  intro h
  unfold ofJson at h
  split at h
  · cases h
  · obtain ⟨item, -, hitem⟩ := Outcome.exists_of_mapM_eq_error (Outcome.map_eq_error_iff.1 h)
    unfold Button.ofJson at hitem
    split at hitem <;> cases hitem

end Tab

/-! ## Keyboards -/

namespace Keyboard

/-- What a row holds of a keyboard: it is a JSON array of the tabs. -/
def Held (row : Option Text) (keyboard : Keyboard) : Prop :=
  ∃ text items, row = some text ∧ Json.read text = .ok (.array items) ∧
    List.Forall₂ Tab.Held items keyboard

/-- **What is decoded is what the text holds.** -/
theorem decode_eq_ok_iff {text : Text} {keyboard : Keyboard} :
    decode text = .ok keyboard ↔ Held (some text) keyboard := by
  constructor
  · intro h
    unfold decode at h
    cases hread : Json.read text with
    | error cause =>
      rw [hread] at h
      cases h
    | ok value =>
      rw [hread] at h
      cases value with
      | array items =>
        refine ⟨text, items, rfl, hread, ?_⟩
        exact (Outcome.mapM_eq_ok_iff.1 h).imp fun _ _ => Tab.ofJson_eq_ok_iff.1
      | null | bool | int | real | text | object => cases h
  · rintro ⟨text, items, ⟨⟩, hread, htabs⟩
    rw [decode, hread]
    exact Outcome.mapM_eq_ok_iff.2 (htabs.imp fun _ _ => Tab.ofJson_eq_ok_iff.2)

instance (row : Option Text) (keyboard : Keyboard) : Decidable (Held row keyboard) :=
  match row with
  | none => isFalse fun ⟨_, _, h, _⟩ => nomatch h
  | some text => decidable_of_iff (decode text = .ok keyboard) decode_eq_ok_iff

/-- A text is nested too deeply for a keyboard exactly when it is nested too deeply to be read. -/
theorem read_of_decode_tooDeep {text : Text} (h : decode text = .error (.unreadable .tooDeep)) :
    Json.read text = .error .tooDeep := by
  unfold decode at h
  cases hread : Json.read text with
  | error cause =>
    rw [hread] at h
    exact congrArg _ (DecodeError.unreadable.inj (Except.error.inj h))
  | ok value =>
    rw [hread] at h
    cases value with
    | array items =>
      obtain ⟨item, -, hitem⟩ := Outcome.exists_of_mapM_eq_error h
      exact absurd hitem Tab.ofJson_ne_unreadable
    | null | bool | int | real | text | object => cases h

variable {store : Store} {start : Text} {language : Language} {row : Option Text}

/-- **A keyboard that the row holds is loaded**, without a warning. -/
theorem load_of_held {keyboard : Keyboard} (hrow : store.get? (keyFor start language) = .ok row)
    (h : Held row keyboard) : load store start language = .ok (keyboard, []) := by
  obtain ⟨text, items, rfl, hread, htabs⟩ := h
  have hdecode : decode text = .ok keyboard := decode_eq_ok_iff.2 ⟨text, items, rfl, hread, htabs⟩
  refine Outcome.bind_eq_ok_iff.2 ⟨some text, hrow, ?_⟩
  dsimp only
  rw [hdecode]
  rfl

/-- **Where the row holds none, the keyboard of the language is loaded.** -/
theorem load_of_not_held (hrow : store.get? (keyFor start language) = .ok row)
    (hdepth : ∀ text, row = some text → Json.read text ≠ .error .tooDeep)
    (h : ∀ keyboard, ¬ Held row keyboard) :
    ∃ warnings, load store start language = .ok (language.keyboard, warnings) := by
  cases row with
  | none => exact ⟨[], Outcome.bind_eq_ok_iff.2 ⟨none, hrow, rfl⟩⟩
  | some text =>
    refine ⟨[.keyboardMisshapen], Outcome.bind_eq_ok_iff.2 ⟨some text, hrow, ?_⟩⟩
    dsimp only
    -- of the three ways in which decoding can end only the last one is left
    split
    · next keyboard hdecode => exact absurd (decode_eq_ok_iff.1 hdecode) (h keyboard)
    · next hdecode => exact absurd (read_of_decode_tooDeep hdecode) (hdepth text rfl)
    · rfl

/-- What is loaded depends on nothing of the store but the row. -/
theorem load_congr {store' : Store}
    (h : store'.get? (keyFor start language) = store.get? (keyFor start language)) :
    load store' start language = load store start language := by
  rw [load, load, h]

end Keyboard

end CodeKeyboard
