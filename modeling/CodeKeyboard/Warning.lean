import CodeKeyboard.Text.Basic

/-!
# Warnings (specification §E3)

What goes wrong without stopping anything is logged. A `Warning` says which of these things
happened; its text is the form of the message, with places for the particulars.
-/

namespace CodeKeyboard

/-- Something that went wrong and was got over. -/
inductive Warning where
  /-- The saved history is not JSON. -/
  | historyUnreadable
  | historyMisshapen
  /-- A bucket of the saved history is no list of texts. -/
  | bucketMisshapen
  | historyUnsaved
  | keyboardMisshapen
  | keyboardUnsaved
deriving DecidableEq, Repr

/-- The form of the message of a warning. -/
def Warning.form : Warning → Text
  | historyUnreadable => "Discarding malformed template history (%s); using defaults"
  | historyMisshapen => "Discarding template history of type %s; using defaults"
  | bucketMisshapen => "Ignoring malformed history bucket %r"
  | historyUnsaved => "Failed to persist template history: %s"
  | keyboardMisshapen => "Discarding malformed keyboard customisation %s (%s); using defaults"
  | keyboardUnsaved => "Failed to save keyboard customisation %s: %s"

end CodeKeyboard
