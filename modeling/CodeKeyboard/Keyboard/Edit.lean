import CodeKeyboard.Language.Basic
import CodeKeyboard.Offset
import CodeKeyboard.Text.Blank

/-!
# Editing a keyboard (specification §E6)

Tabs and buttons are addressed by offsets that may count from the end. An edit that cannot be made
leaves the keyboard as it was and says why; which of two faults is named follows the order of the
checks: first the texts that were given, then the tab, then the button.
-/

namespace CodeKeyboard

/-- Why a keyboard cannot be edited so. -/
inductive EditError where
  /-- A button needs a label that is not blank and a text. -/
  | emptyButton
  /-- A tab needs a label that is not blank. -/
  | emptyTab
  /-- A keyboard keeps at least one tab. -/
  | lastTab
  | noTab
  | noButton
  /-- There is nothing at the offset that could be deleted. -/
  | nothingToDelete
  /-- The offset is too far out to be one of any keyboard. -/
  | noAddress
deriving DecidableEq, Repr

namespace EditError

/-- What is said about an edit that cannot be made. -/
def message : EditError → Text
  | emptyButton => "Please enter both label and text"
  | emptyTab => "Please enter a tab name"
  | lastTab => "Cannot delete the last tab"
  | noTab => Offset.outsideMessage "tuple"
  | noButton => Offset.outsideMessage "list"
  | nothingToDelete => Offset.outsideMessage "list assignment"
  | noAddress => Offset.noAddressMessage

/-- Whether the fault is an offset with nothing there. -/
def isOffset : EditError → Bool
  | noTab | noButton | nothingToDelete | noAddress => true
  | _ => false

end EditError

namespace Keyboard

/-- The index that an offset names, or the given fault; an offset that is no address is a fault of
its own. -/
def indexOr (fault : EditError) (length : Nat) (offset : Int) : Except EditError Nat :=
  match Offset.index? length offset with
  | some i => .ok i
  | none => .error (if Offset.isAddress offset then fault else .noAddress)

/-- The label of a button without the blanks around it; a button needs a label and a text. -/
def checkedLabel (label text : Text) : Except EditError Text :=
  let label := Text.trim label
  if label.isEmpty || text.isEmpty then .error .emptyButton else .ok label

/-- The keyboard with the buttons of one tab replaced by what `edit` makes of them. -/
def editTab (keyboard : Keyboard) (tab : Int)
    (edit : List Button → Except EditError (List Button)) : Except EditError Keyboard := do
  let i ← indexOr .noTab keyboard.length tab
  match keyboard[i]? with
  | none => .error .noTab
  | some old =>
    let buttons ← edit old.buttons
    return keyboard.set i { old with buttons := buttons }

/-- The keyboard with a new button at the end of a tab. -/
def addButton (keyboard : Keyboard) (tab : Int) (id label text : Text) :
    Except EditError Keyboard := do
  let label ← checkedLabel label text
  keyboard.editTab tab fun buttons => .ok (buttons ++ [⟨id, label, text⟩])

/-- The keyboard with a button that shows and inserts something else. -/
def editButton (keyboard : Keyboard) (tab button : Int) (label text : Text) :
    Except EditError Keyboard := do
  let label ← checkedLabel label text
  keyboard.editTab tab fun buttons => do
    let i ← indexOr .noButton buttons.length button
    return buttons.modify i fun old => { old with label := label, text := text }

/-- The keyboard without a button. -/
def deleteButton (keyboard : Keyboard) (tab button : Int) : Except EditError Keyboard :=
  keyboard.editTab tab fun buttons => do
    let i ← indexOr .nothingToDelete buttons.length button
    return buttons.eraseIdx i

/-- The keyboard with a new, empty tab at its end. -/
def addTab (keyboard : Keyboard) (key label : Text) : Except EditError Keyboard :=
  let label := Text.trim label
  if label.isEmpty then .error .emptyTab else .ok (keyboard ++ [⟨key, label, []⟩])

/-- The keyboard without a tab. -/
def deleteTab (keyboard : Keyboard) (tab : Int) : Except EditError Keyboard :=
  if keyboard.length ≤ 1 then .error .lastTab
  else do
    let i ← indexOr .nothingToDelete keyboard.length tab
    return keyboard.eraseIdx i

end Keyboard

end CodeKeyboard
