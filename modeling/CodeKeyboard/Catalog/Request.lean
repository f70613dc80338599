import CodeKeyboard.Catalog
import CodeKeyboard.Json.Basic

/-!
# Asking for a language (specification §E7)

A key or a file name may come from outside as any JSON value. A value that stands for nothing asks
for the default language. A key that is no text is never known; one that is an array or an object
cannot even be looked up. A file name has to be a text.

`request_text` says that for texts this is `Catalog.resolve`.
-/

namespace CodeKeyboard

/-- Why a language cannot be looked up. -/
inductive RequestError where
  /-- The key is an array or an object. -/
  | keyIsCollection
  /-- The file name is no text. -/
  | fileNameIsNoText
deriving DecidableEq, Repr

namespace Catalog

/-- The language of a key that may be any value. -/
def byRequestedKey (catalog : Catalog) : Json → Except RequestError Language
  | .text key => .ok (catalog.byKey key)
  | .array (_ :: _) => .error .keyIsCollection
  | .object (_ :: _) => .error .keyIsCollection
  | _ => .ok catalog.default

/-- The language of a file name that may be any value. -/
def byRequestedFile (catalog : Catalog) (name : Json) : Except RequestError Language :=
  if name.isVoid then .ok catalog.default
  else
    match name with
    | .text name => .ok (catalog.byFileName name)
    | _ => .error .fileNameIsNoText

/-- Whether a value is the key of a language; the empty text never counts as one. -/
def knows (catalog : Catalog) : Json → Bool
  | .text key => !key.isEmpty && key ∈ catalog.keys
  | _ => false

/-- The language for a key and a file name that may be any values: a known key wins, then the file
name, then the default. -/
def request (catalog : Catalog) (key fileName : Json) : Except RequestError Language :=
  if !fileName.isVoid && !catalog.knows key then catalog.byRequestedFile fileName
  else catalog.byRequestedKey key

/-- For texts, asking is looking up. -/
theorem request_text (catalog : Catalog) (key fileName : Text) :
    catalog.request (.text key) (.text fileName) = .ok (catalog.resolve key fileName) := by
  unfold request resolve
  cases fileName with
  | nil => simp [Json.isVoid, byRequestedKey]
  | cons c s =>
    by_cases hk : key = [] <;> by_cases hm : key ∈ catalog.keys <;>
      simp [Json.isVoid, knows, byRequestedKey, byRequestedFile, hk, hm]

end Catalog

end CodeKeyboard
