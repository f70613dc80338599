import CodeKeyboard.Language.Indented
import CodeKeyboard.Language.Managed
import CodeKeyboard.Language.Native
import CodeKeyboard.Language.Web
import CodeKeyboard.Text.Blank
import CodeKeyboard.Text.LowerCase
import CodeKeyboard.Text.Quoted

/-!
# The catalog of languages (specification §E11)

A `Catalog` is a list of languages with distinct keys, one of which is the default. Looking up a key
or the name of a file always gives a language of the catalog: whatever is unknown stands for the
default.

`Keyboard.pool` is the list of buttons that are ranked: all buttons of a keyboard in order, of each
label only the first.
-/

namespace CodeKeyboard

/-- The languages that come with the library. The first one is what unknown names stand for. -/
def Language.builtIn : List Language :=
  [python, javaScript, typeScript, java, cpp, c, go, rust, cSharp, php]

/-- The key of the language that unknown names stand for. -/
def Language.usualDefault : Text := "python"

/-- Why a list of languages is no catalog. -/
inductive CatalogError where
  | noLanguage
  | duplicateKey (key : Text)
deriving DecidableEq, Repr

/-- What is said about a list of languages that is no catalog. -/
def CatalogError.message : CatalogError → Text
  | noLanguage => "LanguageCatalog: at least one language is required"
  | duplicateKey key => "duplicate language key: ".toList ++ key.quoted

/-- Languages with distinct keys, one of which stands for the unknown ones. -/
structure Catalog where
  languages : List Language
  /-- The language that unknown names stand for. -/
  default : Language
  default_mem : default ∈ languages
  keys_nodup : (languages.map Language.key).Nodup

namespace Catalog

/-- The first key that an earlier one repeats. -/
def repeatedKey? : List Text → List Text → Option Text
  | _, [] => none
  | seen, key :: keys => if key ∈ seen then some key else repeatedKey? (key :: seen) keys

theorem repeatedKey?_eq_none {seen keys : List Text} (h : repeatedKey? seen keys = none) :
    keys.Nodup ∧ ∀ key ∈ keys, key ∉ seen := by
  induction keys generalizing seen with
  | nil => simp
  | cons key keys ih =>
    rw [repeatedKey?] at h
    split at h
    · simp at h
    · next hk =>
      obtain ⟨hn, hs⟩ := ih h
      refine ⟨List.nodup_cons.2 ⟨fun hm => hs key hm List.mem_cons_self, hn⟩, ?_⟩
      intro k hm
      rcases List.mem_cons.1 hm with rfl | hm
      · exact hk
      · exact fun hc => hs k hm (List.mem_cons_of_mem _ hc)

/-- The language whose key is asked for, if there is one. -/
def find? (languages : List Language) (key : Text) : Option Language :=
  languages.find? (·.key == key)

/-- The catalog of some languages; the default is the one with the given key, or else the first. -/
def ofLanguages (languages : List Language) (defaultKey : Option Text) :
    Except CatalogError Catalog :=
  match languages with
  | [] => .error .noLanguage
  | first :: rest =>
    match h : repeatedKey? [] ((first :: rest).map Language.key) with
    | some key => .error (.duplicateKey key)
    | none =>
      match hd : defaultKey.bind (find? (first :: rest)) with
      | some language => .ok
          { languages := first :: rest
            default := language
            default_mem := by
              obtain ⟨key, _, hk⟩ := Option.bind_eq_some_iff.1 hd
              exact List.mem_of_find?_eq_some hk
            keys_nodup := (repeatedKey?_eq_none h).1 }
      | none => .ok
          { languages := first :: rest
            default := first
            default_mem := List.mem_cons_self
            keys_nodup := (repeatedKey?_eq_none h).1 }

/-- The catalog of the built-in languages. -/
def builtIn : Catalog where
  languages := Language.builtIn
  default := Language.python
  default_mem := List.mem_cons_self
  keys_nodup := by decide

/-- The keys of the languages in order. -/
def keys (catalog : Catalog) : List Text :=
  catalog.languages.map Language.key

/-- The language with the given key, or the default. The empty key always stands for the default. -/
def byKey (catalog : Catalog) (key : Text) : Language :=
  if key.isEmpty then catalog.default else (find? catalog.languages key).getD catalog.default

/-- The language of a suffix in lower case and without a dot, or the default. The first language
that has the suffix is the one. -/
def bySuffix (catalog : Catalog) (suffix : Text) : Language :=
  (catalog.languages.find? fun language =>
    suffix ∈ language.extensions.map Text.lower).getD catalog.default

/-- The suffix of a file name, a path, or a suffix with or without its dot. -/
def suffixOf (name : Text) : Text :=
  let ext := name.trim.lower
  let hasPath := '/' ∈ ext || '\\' ∈ ext
  let dots := ext.count '.'
  let last := if hasPath || 1 < dots || (ext.head? != some '.' && 0 < dots)
    then ext.afterLast '.' else ext
  last.dropLeading '.'

/-- The language of a file name, or the default. -/
def byFileName (catalog : Catalog) (name : Text) : Language :=
  if name.isEmpty then catalog.default else catalog.bySuffix (suffixOf name)

/-- The language for a key and a file name: a known key wins, then the file name, then the default.
-/
def resolve (catalog : Catalog) (key fileName : Text) : Language :=
  if !fileName.isEmpty && (key.isEmpty || key ∉ catalog.keys) then catalog.byFileName fileName
  else catalog.byKey key

theorem bySuffix_mem (catalog : Catalog) (suffix : Text) :
    catalog.bySuffix suffix ∈ catalog.languages := by
  unfold bySuffix
  cases hfound : catalog.languages.find? _ with
  | none => exact catalog.default_mem
  | some language => exact List.mem_of_find?_eq_some hfound

theorem byFileName_mem (catalog : Catalog) (name : Text) :
    catalog.byFileName name ∈ catalog.languages := by
  unfold byFileName
  split
  · exact catalog.default_mem
  · exact catalog.bySuffix_mem _

end Catalog

/-- Of each label the first button. -/
def firstOfEachLabel : List Button → List Button
  | [] => []
  | b :: bs => b :: (firstOfEachLabel bs).filter (·.label != b.label)

/-- The buttons that are ranked: those of all tabs in order, of each label only the first. -/
def Keyboard.pool (keyboard : Keyboard) : List Button :=
  firstOfEachLabel keyboard.buttons

end CodeKeyboard
