import CodeKeyboard.Proofs.Ranking
import CodeKeyboard.Proofs.SavedKeyboards
import Mathlib.Data.List.Sort

/-!
# The pool keeps the first button of each label (specification §4.3)

Of buttons that share a label only the first one is ranked, wherever on the keyboard the others
stand. `KeepsFirst` says which places of the keyboard the pool takes and in which order, so there is
only one list that it holds of.

- `firstOfEachLabel_eq_iff`: the pool is that list.
- `firstOfEachLabel_of_nodup`: nothing is left out where no label repeats, so a pool is its own.
- `Engine.pool_of_keyboard`: an engine ranks the pool of the keyboard that it uses.
- `Keyboard.pool_keeps_first`: all this of a keyboard, and no label is predicted twice.
-/

namespace CodeKeyboard

section FirstOfEachLabel

/-- **Of each label the first button**, in order: the places that are taken are those before which
no button has the label. -/
structure KeepsFirst (buttons pool : List Button) (places : List Nat) : Prop where
  /-- The pool is what stands at the places. -/
  pool_eq : pool.map some = places.map (buttons[·]?)
  /-- The places are in order. -/
  ascending : places.Pairwise (· < ·)
  /-- They are the places of the buttons that are the first with their label. -/
  first_iff : ∀ place, place ∈ places ↔ ∃ button, buttons[place]? = some button ∧
    ∀ earlier ∈ buttons.take place, earlier.label ≠ button.label

variable {buttons pool : List Button}

/-- There is one such list only. -/
theorem KeepsFirst.unique {other : List Button} {places others : List Nat}
    (h : KeepsFirst buttons pool places) (hother : KeepsFirst buttons other others) :
    pool = other := by
  have hplaces : places = others :=
    h.ascending.eq_of_mem_iff hother.ascending fun place =>
      (h.first_iff place).trans (hother.first_iff place).symm
  have hsame : pool.map some = other.map some := by
    rw [h.pool_eq, hother.pool_eq, hplaces]
  exact List.map_injective_iff.2 (Option.some_injective _) hsame

/-! ## What is kept -/

/-- With one more button before the others, its place comes first, and of the places of the others
those go that show its label. -/
theorem KeepsFirst.cons {places : List Nat} (h : KeepsFirst buttons pool places) (first : Button) :
    KeepsFirst (first :: buttons) (first :: pool.filter (·.label != first.label))
      (0 :: (places.filter (buttons[·]?.any (·.label != first.label))).map (· + 1)) where
  pool_eq := by
    have hkept : (pool.filter (·.label != first.label)).map some =
        (pool.map some).filter (·.any (·.label != first.label)) := by
      rw [List.filter_map]
      rfl
    rw [List.map_cons, List.map_cons, List.getElem?_cons_zero, hkept, h.pool_eq, List.filter_map,
      List.map_map]
    rfl
  ascending := by
    refine List.pairwise_cons.2 ⟨fun place hplace => ?_, List.pairwise_map.2 ?_⟩
    · obtain ⟨before, -, rfl⟩ := List.mem_map.1 hplace
      exact Nat.succ_pos before
    · exact (h.ascending.filter _).imp Nat.succ_lt_succ
  first_iff place := by
    cases place with
    | zero => simp
    | succ place =>
      simp only [List.mem_cons, Nat.add_one_ne_zero, false_or, List.mem_map,
        Nat.add_right_cancel_iff, exists_eq_right, List.mem_filter, h.first_iff,
        List.getElem?_cons_succ, List.take_succ_cons, forall_eq_or_imp]
      constructor
      · rintro ⟨⟨button, hbutton, hearlier⟩, hlabel⟩
        rw [hbutton, Option.any_some, bne_iff_ne] at hlabel
        exact ⟨button, hbutton, hlabel.symm, hearlier⟩
      · rintro ⟨button, hbutton, hlabel, hearlier⟩
        rw [hbutton, Option.any_some, bne_iff_ne]
        exact ⟨⟨button, rfl, hearlier⟩, hlabel.symm⟩

/-- **The pool keeps of each label the first button**, and it is the only list that does. -/
theorem firstOfEachLabel_eq_iff :
    firstOfEachLabel buttons = pool ↔ ∃ places, KeepsFirst buttons pool places := by
  have hkeeps (buttons : List Button) :
      ∃ places, KeepsFirst buttons (firstOfEachLabel buttons) places := by
    induction buttons with
    | nil => exact ⟨[], rfl, .nil, by simp⟩
    | cons first rest ih =>
      obtain ⟨places, hplaces⟩ := ih
      exact ⟨_, hplaces.cons first⟩
  constructor
  · rintro rfl
    exact hkeeps buttons
  · rintro ⟨places, hpool⟩
    obtain ⟨others, hothers⟩ := hkeeps buttons
    exact hothers.unique hpool

theorem firstOfEachLabel_sublist (buttons : List Button) :
    (firstOfEachLabel buttons).Sublist buttons := by
  induction buttons with
  | nil => exact .refl _
  | cons first rest ih => exact (List.filter_sublist.trans ih).cons_cons first

theorem nodup_labels_firstOfEachLabel (buttons : List Button) :
    ((firstOfEachLabel buttons).map Button.label).Nodup := by
  induction buttons with
  | nil => exact List.nodup_nil
  | cons first rest ih =>
    rw [firstOfEachLabel, List.map_cons, List.nodup_cons]
    refine ⟨fun hmem => ?_, ih.sublist (List.filter_sublist.map _)⟩
    obtain ⟨button, hbutton, hlabel⟩ := List.mem_map.1 hmem
    have hother := (List.mem_filter.1 hbutton).2
    rw [hlabel, bne_self_eq_false] at hother
    cases hother

/-- No label is lost. -/
theorem label_mem_firstOfEachLabel {button : Button} (h : button ∈ buttons) :
    button.label ∈ (firstOfEachLabel buttons).map Button.label := by
  induction buttons with
  | nil => cases h
  | cons first rest ih =>
    rw [firstOfEachLabel, List.map_cons, List.mem_cons]
    by_cases hlabel : button.label = first.label
    · exact .inl hlabel
    · -- it is not the first button, and what goes with the first one has another label
      obtain rfl | hrest := List.mem_cons.1 h
      · exact absurd rfl hlabel
      obtain ⟨kept, hkept, hsame⟩ := List.mem_map.1 (ih hrest)
      refine .inr (List.mem_map.2 ⟨kept, List.mem_filter.2 ⟨hkept, ?_⟩, hsame⟩)
      rw [bne_iff_ne, hsame]
      exact hlabel

theorem mem_labels_firstOfEachLabel_iff {label : Text} :
    label ∈ (firstOfEachLabel buttons).map Button.label ↔ label ∈ buttons.map Button.label := by
  refine ⟨fun h => ((firstOfEachLabel_sublist buttons).map _).subset h, fun h => ?_⟩
  obtain ⟨button, hbutton, rfl⟩ := List.mem_map.1 h
  exact label_mem_firstOfEachLabel hbutton

/-- Where no label repeats nothing is left out. -/
theorem firstOfEachLabel_of_nodup (h : (buttons.map Button.label).Nodup) :
    firstOfEachLabel buttons = buttons := by
  induction buttons with
  | nil => rfl
  | cons first rest ih =>
    rw [List.map_cons, List.nodup_cons] at h
    rw [firstOfEachLabel, ih h.2, List.filter_eq_self.2]
    intro button hbutton
    rw [bne_iff_ne]
    exact fun hlabel => h.1 (List.mem_map.2 ⟨button, hbutton, hlabel⟩)

end FirstOfEachLabel

/-! ## What is predicted -/

namespace Prediction

/-- Those that score keep their order. -/
theorem buttons_scoredBy_sublist (idiom : Text → Score) (language : Language) (context : Context)
    (pool : List Button) :
    ((scoredBy idiom language context pool).map button).Sublist pool := by
  rw [scoredBy_eq_filterMap]
  induction pool with
  | nil => exact .refl _
  | cons first rest ih =>
    rw [List.filterMap_cons]
    split
    · exact ih.cons first
    · next p hp =>
      rw [List.map_cons, button_of_ofScored? hp]
      exact ih.cons_cons first

/-- No label is shown twice where none repeats in the pool. -/
theorem nodup_labels_rank {pool : List Button} (h : (pool.map Button.label).Nodup)
    (language : Language) (context : Context) (limit : Int) :
    ((rank language context pool limit).map (·.button.label)).Nodup := by
  obtain ⟨ordered, hordered, hrank⟩ := exists_ordered language context pool limit
  have hscored : ((scored language context pool).map (·.button.label)).Nodup := by
    have hsublist := (buttons_scoredBy_sublist (idiomScore language context) language context
      pool).map Button.label
    rw [List.map_map] at hsublist
    exact h.sublist hsublist
  rw [hrank]
  exact ((hordered.perm.map _).nodup_iff.2 hscored).sublist ((List.take_sublist ..).map _)

end Prediction

/-! ## The pool of a keyboard -/

namespace Keyboard

/-- Tabs without buttons have no part in the buttons. -/
theorem buttons_filter_nonempty (keyboard : Keyboard) :
    Keyboard.buttons (keyboard.filter fun tab => !tab.buttons.isEmpty) = keyboard.buttons := by
  induction keyboard with
  | nil => rfl
  | cons tab keyboard ih =>
    have hcons (keyboard : Keyboard) :
        Keyboard.buttons (tab :: keyboard) = tab.buttons ++ keyboard.buttons := rfl
    cases hempty : tab.buttons.isEmpty with
    | true => rw [List.filter_cons_of_neg (by simp [hempty]), ih, hcons,
        List.isEmpty_iff.1 hempty, List.nil_append]
    | false => rw [List.filter_cons_of_pos (by simp [hempty]), hcons, hcons, ih]

/-- So they have no part in what is ranked. -/
theorem pool_filter_nonempty (keyboard : Keyboard) :
    Keyboard.pool (keyboard.filter fun tab => !tab.buttons.isEmpty) = keyboard.pool :=
  congrArg firstOfEachLabel keyboard.buttons_filter_nonempty

end Keyboard

/-- An engine ranks the pool of the keyboard that it uses. -/
theorem Engine.pool_of_keyboard {engine : Engine} {language : Language} {keyboard : Keyboard}
    {warnings : List Warning} (h : engine.keyboard language = .ok (keyboard, warnings)) :
    engine.pool language = .ok (keyboard.pool, warnings) :=
  Outcome.map_eq_ok_iff.2 ⟨_, h, congrArg (·, warnings) keyboard.pool_filter_nonempty⟩

namespace Keyboard

/-- **The pool keeps exactly the first button of each label**, for every keyboard. It is a part of
the buttons in tab order, no label repeats in it, and none is missing. Tabs without buttons make no
difference, and neither does it to put the pool on a keyboard of its own. So where an engine uses
the keyboard, predicting succeeds for every text, cursor and limit, and shows no label twice. -/
theorem pool_keeps_first (keyboard : Keyboard) :
    (∀ pool, keyboard.pool = pool ↔ ∃ places, KeepsFirst keyboard.buttons pool places) ∧
      keyboard.pool.Sublist keyboard.buttons ∧
      (keyboard.pool.map Button.label).Nodup ∧
      (∀ button ∈ keyboard.buttons, button.label ∈ keyboard.pool.map Button.label) ∧
      Keyboard.pool (keyboard.filter fun tab => !tab.buttons.isEmpty) = keyboard.pool ∧
      (∀ key label, Keyboard.pool [⟨key, label, keyboard.pool⟩] = keyboard.pool) ∧
      ∀ engine language warnings, Engine.keyboard engine language = .ok (keyboard, warnings) →
        ∀ text cursor limit, ∃ predictions,
          engine.predict language text cursor limit = .ok (predictions, warnings) ∧
            predictions = Prediction.rank language
              (Context.extract text (cursor.getD text.length)) keyboard.pool limit ∧
            (predictions.map (·.button.label)).Nodup := by
  have hnodup := nodup_labels_firstOfEachLabel keyboard.buttons
  refine ⟨fun pool => firstOfEachLabel_eq_iff, firstOfEachLabel_sublist _, hnodup,
    fun button => label_mem_firstOfEachLabel, pool_filter_nonempty keyboard,
    fun key label => ?_, ?_⟩
  · rw [pool, buttons, List.flatMap_singleton]
    exact firstOfEachLabel_of_nodup hnodup
  · intro engine language warnings hkeyboard text cursor limit
    exact ⟨_, Outcome.map_eq_ok_iff.2 ⟨_, Engine.pool_of_keyboard hkeyboard, rfl⟩, rfl,
      Prediction.nodup_labels_rank hnodup language _ limit⟩

/-- A saved keyboard of Python shows `if` twice, with an empty tab between. Only the first one is
ranked. -/
theorem pool_keeps_first_of_repeated :
    let first : Button := ⟨"1", "if", "if condition:"⟩
    let second : Button := ⟨"2", "if", "if again:"⟩
    let keyboard : Keyboard := [⟨"a", "A", [first]⟩, ⟨"b", "B", []⟩, ⟨"c", "C", [second]⟩]
    let start := Keyboard.usualKeyStart
    let store := Store.opened .memory [(Keyboard.keyFor start Language.python, keyboard.encode)]
    let engine : Engine := ⟨Catalog.builtIn, store, History.fresh History.usualKey
      History.usualLimit, start, true⟩
    keyboard.pool = [first] ∧ ∃ predictions,
      engine.predict Language.python [] none 6 = .ok (predictions, []) ∧
        (predictions.map (·.button.label)).Nodup := by
  intro first second keyboard start store engine
  have hrow : store.get? (Keyboard.keyFor start Language.python) =
      .ok ((some keyboard).map Keyboard.encode) := by
    rw [Store.get?_opened]
    exact congrArg Except.ok List.lookup_cons_self
  have hkeyboard : engine.keyboard Language.python = .ok (keyboard, []) := load_of_row hrow
  obtain ⟨hiff, -, -, -, -, -, hpredict⟩ := pool_keeps_first keyboard
  refine ⟨(hiff [first]).2 ⟨[0], rfl, List.pairwise_singleton _ _, ?_⟩, ?_⟩
  · -- the second button shares its label with the first one, and there is no third
    intro place
    rcases place with _ | _ | place
    · simp [buttons, keyboard]
    · simp [buttons, keyboard, first, second]
    · simp [buttons, keyboard]
  · obtain ⟨predictions, hok, -, hnodup⟩ := hpredict engine Language.python [] hkeyboard [] none 6
    exact ⟨predictions, hok, hnodup⟩

end Keyboard

end CodeKeyboard
