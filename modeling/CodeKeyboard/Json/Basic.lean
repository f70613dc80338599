import CodeKeyboard.Assoc
import CodeKeyboard.Number.Shortest
import CodeKeyboard.Text.Basic

/-!
# JSON values

The values that saved keyboards, saved histories and requests are made of. Whole numbers are exact,
however long; numbers written with a point or an exponent are of double precision. The entries of an
object keep the order in which their names first occurred.
-/

namespace CodeKeyboard

/-- A JSON value. -/
inductive Json where
  | null
  | bool (b : Bool)
  | int (n : Int)
  | real (x : Number.Binary64)
  | text (s : Text)
  | array (items : List Json)
  | object (entries : List (Text × Json))
deriving Repr

namespace Json

/-- The value of an entry of an object; nothing for another value or a missing entry. -/
def field? (name : Text) : Json → Option Json
  | object entries => entries.lookup name
  | _ => none

/-- The text, if the value is one. -/
def text? : Json → Option Text
  | text s => some s
  | _ => none

/-- The items, if the value is an array. -/
def array? : Json → Option (List Json)
  | array items => some items
  | _ => none

/-- The texts, if the value is an array of nothing else. -/
def texts? : Json → Option (List Text)
  | array items => items.mapM text?
  | _ => none

/-- Whether the value stands for nothing: null, false, zero, and what is empty. -/
def isVoid : Json → Bool
  | null => true
  | bool b => !b
  | int n => n == 0
  | real x => x.isZero
  | text s => s.isEmpty
  | array items => items.isEmpty
  | object entries => entries.isEmpty

/-- An array of texts. -/
def ofTexts (ss : List Text) : Json :=
  array (ss.map text)

@[simp] theorem texts?_ofTexts (ss : List Text) : (ofTexts ss).texts? = some ss := by
  induction ss with
  | nil => rfl
  | cons s ss ih =>
    simp only [ofTexts, texts?, List.map_cons, List.mapM_cons] at ih ⊢
    rw [ih]
    rfl

/-- A value that is read as texts is an array of just these. -/
theorem eq_ofTexts_of_texts? {value : Json} {ss : List Text} (h : value.texts? = some ss) :
    value = ofTexts ss := by
  cases value with
  | null | bool | int | real | text | object => cases h
  | array items =>
    rw [texts?] at h
    -- item by item: each of them has to be a text
    induction items generalizing ss with
    | nil =>
      cases h
      rfl
    | cons item items ih =>
      rw [List.mapM_cons] at h
      cases item with
      | null | bool | int | real | array | object => cases h
      | text s =>
        have hbind : (items.mapM text?).bind (fun rest => some (s :: rest)) = some ss := h
        obtain ⟨rest, hrest, hss⟩ := Option.bind_eq_some_iff.1 hbind
        cases hss
        have hitems := ih hrest
        rw [ofTexts, array.injEq] at hitems ⊢
        rw [List.map_cons, hitems]

end Json

end CodeKeyboard
