import CodeKeyboard.Assoc
import CodeKeyboard.Text.Basic

/-!
# The store (specification §E5)

What outlives a session is kept in a store of texts under keys. There are three kinds: one that
lives in memory and forgets everything when it is closed, a database in memory, and a database in a
file, which can be opened again. A store may refuse writes, and a closed database refuses
everything; a refused operation leaves the rows as they were.
-/

namespace CodeKeyboard

/-- Where the rows of a store are kept. -/
inductive Backend where
  | memory
  /-- In a database without a file. -/
  | transient
  | file
deriving DecidableEq, Repr

namespace Backend

/-- Whether the backend is a database. -/
def isDatabase : Backend → Bool
  | memory => false
  | _ => true

/-- What a store address names: the backend, and for a database the path of its file. -/
structure Address where
  backend : Backend
  path : Text
deriving DecidableEq, Repr

/-- What begins the address of a database. -/
def databaseScheme : Text := "sqlite:///"

/-- What begins the address of a store in memory. -/
def memoryScheme : Text := "memory://"

/-- The path of a database without a file. -/
def transientPath : Text := ":memory:"

/-- What an address names; nothing when it begins with no known scheme. -/
def ofAddress? (address : Text) : Option Address :=
  if databaseScheme.isPrefixOf address then
    let path := address.drop databaseScheme.length
    some ⟨if path = transientPath then transient else file, path⟩
  else if memoryScheme.isPrefixOf address then some ⟨memory, []⟩
  else none

/-- What is said about an address that names no store. -/
def unsupportedMessage (address : Text) : Text :=
  "Unsupported store DSN: ".toList ++ address

end Backend

/-- Why a store does not do or give what is asked of it. -/
inductive StoreError where
  | closed
  | refused
  /-- What is kept under a key is nested too deeply to be read. -/
  | tooDeep
deriving DecidableEq, Repr

/-- What is said about an operation that fails. -/
def StoreError.message : StoreError → Text
  | closed => "Cannot operate on a closed database."
  | refused => "disk full"
  | tooDeep => "nested too deeply"

/-- A store of texts under keys. It may refuse to put rows and to remove them. -/
structure Store where
  backend : Backend
  rows : Assoc Text Text
  /-- Whether a database is open. -/
  isOpen : Bool
  refusesPut : Bool
  refusesErase : Bool
deriving Repr

namespace Store

/-- An open store with some rows. -/
def opened (backend : Backend) (rows : Assoc Text Text) : Store :=
  ⟨backend, rows, true, false, false⟩

/-- Nothing is refused, but by a database that is closed. -/
def usable (store : Store) : Except StoreError Unit :=
  if store.backend.isDatabase && !store.isOpen then .error .closed else .ok ()

/-- The text under a key. -/
def get? (store : Store) (key : Text) : Except StoreError (Option Text) :=
  store.usable.map fun _ => store.rows.lookup key

/-- The keys in the order of their characters. -/
def keys (store : Store) : Except StoreError (List Text) :=
  store.usable.map fun _ => (Assoc.keys store.rows).mergeSort Text.isAtMost

/-- The store with a text under a key. -/
def put (store : Store) (key value : Text) : Except StoreError Store :=
  if store.refusesPut then .error .refused
  else store.usable.map fun _ => { store with rows := Assoc.put store.rows key value }

/-- The store without a key. -/
def erase (store : Store) (key : Text) : Except StoreError Store :=
  if store.refusesErase then .error .refused
  else store.usable.map fun _ => { store with rows := Assoc.erase store.rows key }

/-- The store after closing it: a database is closed, a store in memory is emptied. -/
def close (store : Store) : Store :=
  if store.backend.isDatabase then { store with isOpen := false } else { store with rows := [] }

/-- The store after opening it once more: only a file can be opened again. -/
def reopen (store : Store) : Store :=
  match store.backend with
  | .file => { store with isOpen := true }
  | _ => store

/-- The store with what it refuses changed. -/
def refusing (store : Store) (put erase : Bool) : Store :=
  { store with refusesPut := put, refusesErase := erase }

/-- An open store can be read. -/
theorem get?_opened (backend : Backend) (rows : Assoc Text Text) (key : Text) :
    (opened backend rows).get? key = .ok (rows.lookup key) := by
  cases backend <;> rfl

/-- What a store refuses does not change what is read. -/
@[simp] theorem get?_refusing (store : Store) (put erase : Bool) (key : Text) :
    (store.refusing put erase).get? key = store.get? key := rfl

theorem put_of_refuses {store : Store} (h : store.refusesPut = true) (key value : Text) :
    store.put key value = .error .refused := if_pos h

theorem erase_of_refuses {store : Store} (h : store.refusesErase = true) (key : Text) :
    store.erase key = .error .refused := if_pos h

/-- A store that can be read can be used. -/
theorem usable_of_get? {store : Store} {key : Text} {row : Option Text}
    (h : store.get? key = .ok row) : store.usable = .ok () := by
  rw [get?] at h
  cases husable : store.usable with
  | ok => rfl
  | error cause =>
    rw [husable] at h
    cases h

/-- A store that can be read takes a row unless it refuses to. -/
theorem exists_put {store : Store} {k : Text} {row : Option Text} (hread : store.get? k = .ok row)
    (h : store.refusesPut = false) (key value : Text) :
    ∃ after, store.put key value = .ok after := by
  rw [put, if_neg (by simp [h]), usable_of_get? hread]
  exact ⟨_, rfl⟩

/-- A store that can be read gives up a row unless it refuses to. -/
theorem exists_erase {store : Store} {k : Text} {row : Option Text}
    (hread : store.get? k = .ok row) (h : store.refusesErase = false) (key : Text) :
    ∃ after, store.erase key = .ok after := by
  rw [erase, if_neg (by simp [h]), usable_of_get? hread]
  exact ⟨_, rfl⟩

/-- What is put is found, and no other key changes. -/
theorem get?_put {store after : Store} {key value : Text} (h : store.put key value = .ok after)
    (k : Text) :
    after.get? k = if k = key then .ok (some value) else store.get? k := by
  unfold put usable at h
  split at h
  · simp at h
  · split at h
    · simp [Except.map] at h
    · next hu =>
      simp only [Except.map, Except.ok.injEq] at h
      subst h
      simp only [get?, usable, hu, Bool.false_eq_true, if_false, Except.map, Assoc.lookup_put]
      split <;> rfl

/-- What is removed is not found, and no other key changes. -/
theorem get?_erase {store after : Store} {key : Text} (h : store.erase key = .ok after)
    (k : Text) :
    after.get? k = if k = key then .ok none else store.get? k := by
  unfold erase usable at h
  split at h
  · simp at h
  · split at h
    · simp [Except.map] at h
    · next hu =>
      simp only [Except.map, Except.ok.injEq] at h
      subst h
      simp only [get?, usable, hu, Bool.false_eq_true, if_false, Except.map, Assoc.lookup_erase]
      split <;> rfl

end Store

end CodeKeyboard
