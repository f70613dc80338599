/-!
# Association lists

A finite map that keeps the order in which its keys were first put: `put` gives a key a value and
leaves a key that is there in its place, `ofPairs` puts pairs one after the other, so that of
several values of a key the last one counts. Looking up is `List.lookup`; the lemmas say what each
operation does to it.
-/

namespace CodeKeyboard

/-- Pairs of a key and a value in the order in which the keys were first put. -/
abbrev Assoc (α β : Type) := List (α × β)

namespace Assoc

variable {α β : Type} [BEq α]

/-- The map with a value for a key. -/
def put (map : Assoc α β) (key : α) (value : β) : Assoc α β :=
  match map with
  | [] => [(key, value)]
  | (k, v) :: rest => if key == k then (k, value) :: rest else (k, v) :: put rest key value

/-- The map without a key. -/
def erase (map : Assoc α β) (key : α) : Assoc α β :=
  map.filter fun entry => !(key == entry.1)

/-- The map that holds some pairs put one after the other. -/
def ofPairs (pairs : List (α × β)) : Assoc α β :=
  pairs.foldl (fun map entry => put map entry.1 entry.2) []

/-- The keys in order. -/
def keys (map : Assoc α β) : List α :=
  map.map Prod.fst

variable [LawfulBEq α]

/-- What is found is in the map. -/
theorem mem_of_lookup {map : Assoc α β} {key : α} {value : β} (h : map.lookup key = some value) :
    (key, value) ∈ map := by
  obtain ⟨before, after, rfl, -⟩ := List.lookup_eq_some_iff.1 h
  exact List.mem_append_right before List.mem_cons_self

/-- A put value is found under its key, and no other key changes. -/
theorem lookup_put [DecidableEq α] (map : Assoc α β) (key k : α) (value : β) :
    (put map key value).lookup k = if k = key then some value else map.lookup k := by
  induction map with
  | nil =>
    by_cases h : k = key
    · simp [put, h]
    · have hb : (k == key) = false := by simpa using h
      simp [put, List.lookup_cons, h, hb]
  | cons entry rest ih =>
    obtain ⟨k', v⟩ := entry
    rw [put]
    by_cases hk : key = k'
    · subst hk
      by_cases h : k = key
      · simp [h]
      · have hb : (k == key) = false := by simpa using h
        simp [h, List.lookup_cons, hb]
    · have hb : (key == k') = false := by simpa using hk
      simp only [hb, Bool.false_eq_true, if_false, List.lookup_cons]
      by_cases h' : k = k'
      · subst h'
        simp [Ne.symm hk]
      · have hb' : (k == k') = false := by simpa using h'
        rw [hb']
        exact ih

/-- An erased key is not found, and no other key changes. -/
theorem lookup_erase [DecidableEq α] (map : Assoc α β) (key k : α) :
    (erase map key).lookup k = if k = key then none else map.lookup k := by
  induction map with
  | nil => simp [erase]
  | cons entry rest ih =>
    obtain ⟨k', v⟩ := entry
    by_cases hk : key = k'
    · subst hk
      have : erase ((key, v) :: rest) key = erase rest key := by simp [erase]
      rw [this, ih]
      by_cases h : k = key
      · simp [h]
      · have hb : (k == key) = false := by simpa using h
        simp [h, List.lookup_cons, hb]
    · have hb : (key == k') = false := by simpa using hk
      have : erase ((k', v) :: rest) key = (k', v) :: erase rest key := by simp [erase, hb]
      rw [this, List.lookup_cons, List.lookup_cons]
      by_cases h' : k = k'
      · subst h'
        simp [Ne.symm hk]
      · have hb' : (k == k') = false := by simpa using h'
        rw [hb']
        exact ih

/-- A new key is put last. -/
theorem put_of_not_mem {map : Assoc α β} {key : α} (h : key ∉ keys map) (value : β) :
    put map key value = map ++ [(key, value)] := by
  induction map with
  | nil => rfl
  | cons entry rest ih =>
    obtain ⟨k, v⟩ := entry
    simp only [keys, List.map_cons, List.mem_cons, not_or] at h ih
    have hb : (key == k) = false := by simpa using h.1
    rw [put, hb, ih h.2]
    rfl

/-- A key that is there stays in its place. -/
theorem keys_put_of_mem {map : Assoc α β} {key : α} (h : key ∈ keys map) (value : β) :
    keys (put map key value) = keys map := by
  induction map with
  | nil => cases h
  | cons entry rest ih =>
    obtain ⟨k, v⟩ := entry
    rw [put]
    by_cases hk : key = k
    · simp [hk, keys]
    · have hb : (key == k) = false := by simpa using hk
      have hrest : key ∈ keys rest := (List.mem_cons.1 h).resolve_left hk
      simp only [hb, Bool.false_eq_true, if_false, keys, List.map_cons, List.cons.injEq, true_and]
      exact ih hrest

/-- Putting a value leaves the keys distinct. -/
theorem nodup_keys_put {map : Assoc α β} (h : (keys map).Nodup) (key : α)
    (value : β) : (keys (put map key value)).Nodup := by
  by_cases hmem : key ∈ keys map
  · rw [keys_put_of_mem hmem]
    exact h
  · have hkeys : keys (put map key value) = keys map ++ [key] := by
      rw [put_of_not_mem hmem, keys, List.map_append]
      rfl
    rw [hkeys, List.nodup_append]
    refine ⟨h, List.nodup_cons.2 ⟨List.not_mem_nil, List.nodup_nil⟩, ?_⟩
    rintro k hk _ hlast rfl
    exact hmem (List.mem_singleton.1 hlast ▸ hk)

/-- The keys of the map that some pairs make are distinct, also where the pairs repeat one. -/
theorem nodup_keys_ofPairs (pairs : List (α × β)) : (keys (ofPairs pairs)).Nodup := by
  have hfold : ∀ map : Assoc α β, (keys map).Nodup →
      (keys (pairs.foldl (fun map entry => put map entry.1 entry.2) map)).Nodup := by
    induction pairs with
    | nil => exact fun map h => h
    | cons entry pairs ih => exact fun map h => ih _ (nodup_keys_put h entry.1 entry.2)
  exact hfold [] List.nodup_nil

/-- Pairs of new and distinct keys are put last in their order. -/
theorem foldl_put_of_nodup (map : Assoc α β) (pairs : List (α × β))
    (h : ((map ++ pairs).map Prod.fst).Nodup) :
    pairs.foldl (fun map entry => put map entry.1 entry.2) map = map ++ pairs := by
  induction pairs generalizing map with
  | nil => simp
  | cons entry pairs ih =>
    have hnew : entry.1 ∉ keys map := by
      rw [List.map_append, List.map_cons, List.nodup_append] at h
      exact fun hmem => h.2.2 _ hmem _ List.mem_cons_self rfl
    rw [List.foldl_cons, put_of_not_mem hnew, ih _ (by simpa using h), List.append_assoc]
    rfl

/-- Pairs of distinct keys are the map that they make. -/
theorem ofPairs_of_nodup {pairs : List (α × β)} (h : (pairs.map Prod.fst).Nodup) :
    ofPairs pairs = pairs :=
  foldl_put_of_nodup [] pairs h

end Assoc

end CodeKeyboard
