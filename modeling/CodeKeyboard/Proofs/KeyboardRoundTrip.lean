import CodeKeyboard.Keyboard.Saved
import CodeKeyboard.Proofs.JsonRoundTrip
import CodeKeyboard.Proofs.Outcome

/-!
# A saved keyboard is the keyboard that is loaded (specification §E6)

A keyboard is saved as an array of tabs, each an object with an array of buttons: four levels of
arrays and objects, whatever its texts are, so it is far from the depth at which reading stops.

- `Keyboard.storable_toJson`: the value that is written may be saved.
- `Keyboard.ofJson_toJson`: and stands for the keyboard.
- `Keyboard.decode_encoded`: so decoding what was encoded gives the keyboard back.
- `Keyboard.decode_encode`: and what was encoded is printable ASCII.
-/

namespace CodeKeyboard

open Json

theorem Button.storable_toJson (depth : Nat) (button : Button) :
    Storable (depth + 1) button.toJson := by
  have hnames : (["id", "label", "text"].map String.toList).Nodup := by decide
  refine .object hnames fun entry h => ?_
  simp only [List.mem_cons, List.not_mem_nil, or_false] at h
  rcases h with rfl | rfl | rfl
  · exact .text _ _
  · exact .text _ _
  · exact .text _ _

theorem Tab.storable_toJson (depth : Nat) (tab : Tab) : Storable (depth + 3) tab.toJson := by
  have hnames : (["key", "label", "data"].map String.toList).Nodup := by decide
  refine .object hnames fun entry h => ?_
  simp only [List.mem_cons, List.not_mem_nil, or_false] at h
  rcases h with rfl | rfl | rfl
  · exact .text _ _
  · exact .text _ _
  · refine .array fun item hitem => ?_
    obtain ⟨button, -, rfl⟩ := List.mem_map.1 hitem
    exact button.storable_toJson depth

@[simp] theorem Tab.ofJson_toJson (tab : Tab) : Tab.ofJson tab.toJson = .ok tab := by
  have hbuttons : (tab.toJson.field? "data").bind Json.array? =
      some (tab.buttons.map Button.toJson) := rfl
  rw [Tab.ofJson, hbuttons]
  dsimp only
  rw [Outcome.mapM_map_eq_ok Button.ofJson_toJson]
  rfl

namespace Keyboard

theorem storable_toJson (depth : Nat) (keyboard : Keyboard) :
    Storable (depth + 4) (.array (keyboard.map Tab.toJson)) := by
  refine .array fun item hitem => ?_
  obtain ⟨tab, -, rfl⟩ := List.mem_map.1 hitem
  exact tab.storable_toJson depth

/-- Four levels are within the 990 that the reader allows. -/
theorem storable_array (keyboard : Keyboard) :
    Storable depthLimit (.array (keyboard.map Tab.toJson)) :=
  storable_toJson 986 keyboard

/-- What was encoded is decoded to the keyboard. -/
theorem decode_encoded (keyboard : Keyboard) : decode keyboard.encode = .ok keyboard := by
  rw [decode, encode, read_compact keyboard.storable_array]
  exact Outcome.mapM_map_eq_ok Tab.ofJson_toJson keyboard

/-- **A keyboard survives being saved**: whatever the texts of its tabs and buttons are, what was
encoded is printable ASCII and is decoded to the keyboard. -/
theorem decode_encode (keyboard : Keyboard) :
    decode keyboard.encode = .ok keyboard ∧ keyboard.encode.all isPrintableAscii :=
  ⟨keyboard.decode_encoded, keyboard.storable_array.printable⟩

end Keyboard

end CodeKeyboard
