import CodeKeyboard.Json.Printer
import CodeKeyboard.Json.Reader
import CodeKeyboard.Placeholder
import CodeKeyboard.Store
import CodeKeyboard.Text.Blank
import CodeKeyboard.Warning

/-!
# The history of fill values (specification §4.4)

For each kind of placeholder there is a bucket of values that were lately filled in, the latest
first, no more than a limit. The history in memory is what counts; it is saved whole after each
change, and a save that fails is only warned about. What was saved is merged over the first values
bucket by bucket, as far as it has the right form; only a text that is nested too deeply cannot be
loaded.

A negative limit cuts that many values off the end.
-/

namespace CodeKeyboard

/-- A bucket of values for each kind of placeholder. -/
abbrev Buckets := PlaceholderKind → List Text

namespace Buckets

/-- The name under which a bucket is saved. -/
def nameOf : PlaceholderKind → Text
  | .functionName => "functions"
  | .className => "classes"
  | .variableName => "variables"
  | .condition => "conditions"
  | .moduleName => "modules"
  | .typeName => "types"

/-- The kind whose bucket is saved under a name. -/
def kindOf? (name : Text) : Option PlaceholderKind :=
  PlaceholderKind.all.find? (nameOf · == name)

/-- The values before anything is filled in. -/
def seeds : Buckets
  | .functionName => ["calculate", "process", "handle", "get", "set", "update"]
  | .className => ["User", "Data", "Handler", "Manager", "Controller"]
  | .variableName => ["result", "data", "value", "item", "index", "temp"]
  | .condition => ["x > 0", "i < len(arr)", "data is not None", "result == True"]
  | .moduleName => ["os", "sys", "math", "random", "json", "datetime"]
  | .typeName => ["int", "str", "float", "bool", "list", "dict"]

/-- The buckets with one of them replaced. -/
def replace (buckets : Buckets) (kind : PlaceholderKind) (values : List Text) : Buckets :=
  fun k => if k = kind then values else buckets k

/-- The buckets under their names. -/
def entries (buckets : Buckets) : List (Text × List Text) :=
  PlaceholderKind.all.map fun kind => (nameOf kind, buckets kind)

/-- The buckets as a JSON object. -/
def toJson (buckets : Buckets) : Json :=
  .object (buckets.entries.map fun (name, values) => (name, .ofTexts values))

@[simp] theorem kindOf?_nameOf (kind : PlaceholderKind) : kindOf? (nameOf kind) = some kind := by
  cases kind <;> decide

@[simp] theorem replace_self (buckets : Buckets) (kind : PlaceholderKind) (values : List Text) :
    buckets.replace kind values kind = values := by
  simp [replace]

theorem replace_of_ne (buckets : Buckets) {kind k : PlaceholderKind} (values : List Text)
    (h : k ≠ kind) : buckets.replace kind values k = buckets k := by
  simp [replace, h]

/-- The buckets with one saved entry merged into them. A name of no bucket is passed over. -/
def merge (limit : Int) (buckets : Buckets) (name : Text) (saved : Json) :
    Buckets × List Warning :=
  match kindOf? name with
  | none => (buckets, [])
  | some kind =>
    match saved.texts? with
    | some values => (buckets.replace kind (Offset.before values limit), [])
    | none => (buckets, [.bucketMisshapen])

/-- The buckets with saved entries merged into them one after the other. -/
def mergeAll (limit : Int) (buckets : Buckets) : List (Text × Json) → Buckets × List Warning
  | [] => (buckets, [])
  | (name, saved) :: rest =>
    let (merged, warned) := buckets.merge limit name saved
    let (merged, more) := mergeAll limit merged rest
    (merged, warned ++ more)

/-- The buckets with a saved text merged into them. -/
def mergeText (limit : Int) (buckets : Buckets) (saved : Text) :
    Except StoreError (Buckets × List Warning) :=
  match Json.read saved with
  | .error .tooDeep => .error .tooDeep
  | .error _ => .ok (buckets, [.historyUnreadable])
  | .ok (.object entries) => .ok (buckets.mergeAll limit entries)
  | .ok _ => .ok (buckets, [.historyMisshapen])

end Buckets

/-- The history of a session. -/
structure History where
  key : Text
  /-- How many values a bucket keeps. -/
  limit : Int
  buckets : Buckets

namespace History

/-- The key under which a history is usually saved. -/
def usualKey : Text := "templateHistory"

/-- How many values a bucket usually keeps. -/
def usualLimit : Int := 20

/-- A history before anything is filled in or loaded. -/
def fresh (key : Text) (limit : Int) : History := ⟨key, limit, Buckets.seeds⟩

/-- The history with what is saved of it merged in. -/
def load (history : History) (store : Store) : Except StoreError (History × List Warning) := do
  match ← store.get? history.key with
  | none => return (history, [])
  | some text =>
    let (buckets, warnings) ← history.buckets.mergeText history.limit text
    return ({ history with buckets := buckets }, warnings)

/-- The values of one kind, the latest first. -/
def values (history : History) (kind : PlaceholderKind) : List Text :=
  history.buckets kind

/-- The usual values of a language for a kind, and then those of the history that are not among
them, each once. -/
def suggestionsFor (history : History) (kind : PlaceholderKind) (language : Language) :
    List Text :=
  language.fills kind ++
    ((history.values kind).filter fun value => value ∉ language.fills kind).eraseDups

/-- The text in which the history is saved. -/
def saved (history : History) : Text :=
  history.buckets.toJson.compact

/-- Whether recording a value would change anything: it is not blank and not there yet. -/
def isNews (history : History) (kind : PlaceholderKind) (value : Text) : Bool :=
  !(Text.trim value).isEmpty && value ∉ history.values kind

/-- The history with a value put first. -/
def remember (history : History) (kind : PlaceholderKind) (value : Text) : History :=
  { history with
    buckets := history.buckets.replace kind
      (Offset.before (value :: history.values kind) history.limit) }

/-- The bucket of a value has it in front and pushes out what is too much; the others stay. -/
theorem values_remember (history : History) (kind : PlaceholderKind) (value : Text)
    (k : PlaceholderKind) :
    (history.remember kind value).values k =
      if k = kind then Offset.before (value :: history.values kind) history.limit
      else history.values k := rfl

/-- What recording a value leads to. -/
structure Recorded where
  /-- Whether the value was put into its bucket. -/
  changed : Bool
  history : History
  store : Store
  warnings : List Warning

/-- Records a value that was filled in, and saves the history if that changed it. -/
def record (history : History) (store : Store) (kind : PlaceholderKind) (value : Text) : Recorded :=
  if history.isNews kind value then
    let history := history.remember kind value
    match store.put history.key history.saved with
    | .ok store => ⟨true, history, store, []⟩
    | .error _ => ⟨true, history, store, [.historyUnsaved]⟩
  else ⟨false, history, store, []⟩

/-- Whether a value is put into its bucket does not depend on the store. -/
theorem changed_record (history : History) (store : Store) (kind : PlaceholderKind)
    (value : Text) : (history.record store kind value).changed = history.isNews kind value := by
  rw [record]
  cases hnews : history.isNews kind value with
  | false => rfl
  | true =>
    rw [if_pos rfl]
    dsimp only
    split <;> rfl

/-- News is put first, whether the history can be saved or not. -/
theorem history_record (history : History) (store : Store) (kind : PlaceholderKind)
    (value : Text) : (history.record store kind value).history =
      if history.isNews kind value then history.remember kind value else history := by
  rw [record]
  cases hnews : history.isNews kind value with
  | false => rfl
  | true =>
    rw [if_pos rfl, if_pos rfl]
    dsimp only
    split <;> rfl

/-- A history stays under its key when it is loaded again. -/
theorem key_of_load {history loaded : History} {store : Store} {warnings : List Warning}
    (h : history.load store = .ok (loaded, warnings)) : loaded.key = history.key := by
  unfold load at h
  cases hrow : store.get? history.key with
  | error cause =>
    rw [hrow] at h
    cases h
  | ok row =>
    rw [hrow] at h
    cases row with
    | none =>
      cases h
      rfl
    | some text =>
      dsimp only [bind, Except.bind] at h
      cases hmerged : history.buckets.mergeText history.limit text with
      | error cause =>
        rw [hmerged] at h
        cases h
      | ok merged =>
        rw [hmerged] at h
        cases h
        rfl

@[simp] theorem key_record (history : History) (store : Store) (kind : PlaceholderKind)
    (value : Text) : (history.record store kind value).history.key = history.key := by
  rw [history_record]
  split <;> rfl

/-- Recording a value writes no row but the one of the history. -/
theorem get?_record (history : History) (store : Store) (kind : PlaceholderKind) (value : Text)
    {key : Text} (h : key ≠ history.key) :
    (history.record store kind value).store.get? key = store.get? key := by
  unfold record
  split
  · dsimp only
    split
    · next after hput =>
      rw [Store.get?_put hput, if_neg]
      exact h
    · rfl
  · rfl

end History

end CodeKeyboard
