import CodeKeyboard.Catalog
import CodeKeyboard.Keyboard.Edit
import CodeKeyboard.Proofs.Outcome
import Mathlib.Data.List.Nodup

/-!
# The ids of buttons

A button is addressed by its id, so the ids of a keyboard have to be distinct. Each edit says how it
moves them: only a new button brings an id, and it is the only one that it brings. Everything else
keeps the ids or takes some away.

- `Keyboard.ids_of_editTab`: an edit of a tab moves the ids of the tab and no others; the lemmas on
  editing buttons are read off it.
- `Keyboard.find?_id`: where the ids are distinct, a button is found by its id.
- `Keyboard.nodup_ids_builtIn`: the ids of the built-in keyboards are distinct.
-/

namespace CodeKeyboard

namespace Keyboard

variable {keyboard edited : Keyboard}

/-- The ids of all buttons, tab by tab. -/
def ids (keyboard : Keyboard) : List Text :=
  keyboard.buttons.map Button.id

theorem ids_append (front back : Keyboard) : ids (front ++ back) = front.ids ++ back.ids := by
  rw [ids, buttons, List.flatMap_append, List.map_append]
  rfl

theorem ids_cons (tab : Tab) (keyboard : Keyboard) :
    ids (tab :: keyboard) = tab.buttons.map Button.id ++ keyboard.ids := by
  rw [ids, buttons, List.flatMap_cons, List.map_append]
  rfl

/-- The ids around a tab. -/
theorem ids_around (front : Keyboard) (tab : Tab) (back : Keyboard) :
    ids (front ++ tab :: back) = front.ids ++ (tab.buttons.map Button.id ++ back.ids) := by
  rw [ids_append, ids_cons]

/-- Fewer tabs have fewer ids, in the same order. -/
theorem ids_sublist (h : List.Sublist edited keyboard) : edited.ids.Sublist keyboard.ids := by
  induction h with
  | slnil => exact .refl _
  | cons tab _ ih =>
    rw [ids_cons]
    exact ih.trans (List.sublist_append_right ..)
  | cons_cons tab _ ih =>
    rw [ids_cons, ids_cons]
    exact .append (.refl _) ih

/-! ## Editing -/

theorem lt_of_indexOr {fault : EditError} {length i : Nat} {offset : Int}
    (h : indexOr fault length offset = .ok i) : i < length := by
  unfold indexOr at h
  split at h
  · next hindex =>
    cases h
    exact Offset.index?_lt hindex
  · cases h

/-- **An edit of a tab moves the ids of the tab and no others.** -/
theorem ids_of_editTab {tab : Int} {edit : List Button → Except EditError (List Button)}
    (h : keyboard.editTab tab edit = .ok edited) :
    ∃ front old new back, edit old = .ok new ∧
      keyboard.ids = front ++ (old.map Button.id ++ back) ∧
      edited.ids = front ++ (new.map Button.id ++ back) := by
  obtain ⟨i, -, h⟩ := Outcome.bind_eq_ok_iff.1 h
  split at h
  · cases h
  · next old hold =>
    obtain ⟨buttons, hbuttons, h⟩ := Outcome.bind_eq_ok_iff.1 h
    cases h
    obtain ⟨hi, rfl⟩ := List.getElem?_eq_some_iff.1 hold
    -- the tab is set in its place, and what stands around it is the same before and after
    obtain ⟨front, back, hkeyboard, -, hset⟩ :=
      @List.exists_of_set _ _ { keyboard[i] with buttons := buttons } _ hi
    refine ⟨ids front, keyboard[i].buttons, buttons, ids back, hbuttons, ?_, ?_⟩
    · exact (congrArg ids hkeyboard).trans (ids_around ..)
    · exact (congrArg ids hset).trans (ids_around ..)

/-- A new button brings its id and no other. -/
theorem ids_addButton {tab : Int} {id label text : Text}
    (h : keyboard.addButton tab id label text = .ok edited) :
    edited.ids.Perm (id :: keyboard.ids) := by
  obtain ⟨trimmed, -, h⟩ := Outcome.bind_eq_ok_iff.1 h
  obtain ⟨front, old, new, back, hnew, hids, hedited⟩ := ids_of_editTab h
  cases hnew
  rw [hids, hedited, List.map_append, List.map_singleton, List.append_assoc,
    List.singleton_append, ← List.append_assoc, ← List.append_assoc]
  exact List.perm_middle

/-- A button that is changed keeps its id. -/
theorem ids_editButton {tab button : Int} {label text : Text}
    (h : keyboard.editButton tab button label text = .ok edited) : edited.ids = keyboard.ids := by
  obtain ⟨trimmed, -, h⟩ := Outcome.bind_eq_ok_iff.1 h
  obtain ⟨front, old, new, back, hnew, hids, hedited⟩ := ids_of_editTab h
  obtain ⟨i, hi, hnew⟩ := Outcome.bind_eq_ok_iff.1 hnew
  cases hnew
  obtain ⟨before, changed, after, hold, -, hmodified⟩ := List.exists_of_modify
    (fun old : Button => { old with label := trimmed, text := text }) (lt_of_indexOr hi)
  rw [hids, hedited, hmodified, hold, List.map_append, List.map_cons, List.map_append,
    List.map_cons]

/-- Without a button its id is gone. -/
theorem ids_deleteButton {tab button : Int}
    (h : keyboard.deleteButton tab button = .ok edited) : edited.ids.Sublist keyboard.ids := by
  obtain ⟨front, old, new, back, hnew, hids, hedited⟩ := ids_of_editTab h
  obtain ⟨i, -, hnew⟩ := Outcome.bind_eq_ok_iff.1 hnew
  cases hnew
  rw [hids, hedited]
  exact .append (.refl front) (.append ((List.eraseIdx_sublist old i).map _) (.refl back))

/-- A new tab brings no id. -/
theorem ids_addTab {key label : Text} (h : keyboard.addTab key label = .ok edited) :
    edited.ids = keyboard.ids := by
  unfold addTab at h
  dsimp only at h
  split at h
  · cases h
  · cases h
    rw [ids_append, ids_cons]
    exact List.append_nil _

/-- Without a tab the ids of its buttons are gone. -/
theorem ids_deleteTab {tab : Int} (h : keyboard.deleteTab tab = .ok edited) :
    edited.ids.Sublist keyboard.ids := by
  unfold deleteTab at h
  split at h
  · cases h
  · obtain ⟨i, -, h⟩ := Outcome.bind_eq_ok_iff.1 h
    cases h
    exact ids_sublist (List.eraseIdx_sublist keyboard i)

/-! ## Distinct ids -/

/-- Where the ids are distinct, a button is found by its id. -/
theorem find?_id (h : keyboard.ids.Nodup) {button : Button} (hbutton : button ∈ keyboard.buttons) :
    keyboard.buttons.find? (·.id == button.id) = some button := by
  cases hfound : keyboard.buttons.find? (·.id == button.id) with
  | none =>
    have hnone := List.find?_eq_none.1 hfound button hbutton
    exact absurd (beq_self_eq_true button.id) hnone
  | some found =>
    have hid := List.find?_some hfound
    rw [beq_iff_eq] at hid
    have hsame := List.inj_on_of_nodup_map h (List.mem_of_find?_eq_some hfound) hbutton hid
    rw [hsame]

/-! ## The built-in keyboards -/

/-- A number in place of a short text: comparing numbers is much faster. -/
def numberOf (s : Text) : Nat :=
  s.foldl (fun n c => 256 * n + c.toNat) 0

/-- **The ids of a built-in keyboard are distinct.** -/
theorem nodup_ids_builtIn : ∀ language ∈ Language.builtIn, language.keyboard.ids.Nodup := by
  have hnumbers : ∀ language ∈ Language.builtIn,
      (language.keyboard.ids.map numberOf).Nodup := by
    decide +kernel
  intro language hlanguage
  exact .of_map numberOf (hnumbers language hlanguage)

end Keyboard

end CodeKeyboard
