import CodeKeyboard.Proofs.Restart

/-!
# The latest values first (specification §8)

A bucket is cut to the limit after every value that is put into it. Cutting each time comes to the
same as cutting once at the end: what a cut takes away stands behind the limit, and stands further
back still after the next value. A value that was taken away may come again, since only what is in
the bucket counts as known, so the order is told here of values that are new to the bucket and to
each other.

- `Journal.UpToCut`: a bucket is a list up to cuts at the limit; `UpToCut.cons` is the step.
- `Journal.upToCut_recordAll`: so is a bucket after any new values, whatever the store refuses.
- `Journal.latest_first`: each new value is put first, and what is too much is pushed out; a value
  that is no news changes nothing.
-/

namespace CodeKeyboard

namespace History

variable {history : History} {kind : PlaceholderKind} {value : Text}

/-- **What is no news changes nothing**: a blank value, or one that is in the bucket. -/
theorem record_of_known (store : Store)
    (h : Text.allBlank value = true ∨ value ∈ history.values kind) :
    history.record store kind value = ⟨false, history, store, []⟩ := by
  rw [record, if_neg]
  rw [isNews_iff]
  rintro ⟨hvisible, hnew⟩
  rcases h with hblank | hknown
  · rw [hblank] at hvisible
    cases hvisible
  · exact hnew hknown

end History

namespace Journal

variable {journal : Journal} {kind : PlaceholderKind} {fillings : List Filling}

/-! ## Cuts at the limit -/

/-- **A list up to cuts at a limit**, as a bucket holds it. -/
structure UpToCut (limit : Nat) (whole held : List Text) : Prop where
  /-- Nothing that the list has not. -/
  subset : held ⊆ whole
  /-- The same before the limit. -/
  take_eq : held.take limit = whole.take limit

theorem UpToCut.refl (limit : Nat) (whole : List Text) : UpToCut limit whole whole :=
  ⟨List.Subset.refl whole, rfl⟩

/-- With one more value in front the list is the same before the limit. -/
theorem UpToCut.take_cons {limit : Nat} {whole held : List Text} (h : UpToCut limit whole held)
    (value : Text) : (value :: held).take limit = (value :: whole).take limit := by
  cases limit with
  | zero => rfl
  | succ n =>
    -- what counts of the rest is one less than the limit
    have hrest : held.take n = whole.take n := by
      have hless := congrArg (List.take n) h.take_eq
      rwa [List.take_take, List.take_take, Nat.min_eq_left (Nat.le_succ n)] at hless
    rw [List.take_succ_cons, List.take_succ_cons, hrest]

/-- One more value in front, and one more cut. -/
theorem UpToCut.cons {limit : Nat} {whole held : List Text} (h : UpToCut limit whole held)
    (value : Text) : UpToCut limit (value :: whole) ((value :: held).take limit) where
  subset v hv := List.cons_subset_cons value h.subset (List.mem_of_mem_take hv)
  take_eq := by rw [List.take_take, Nat.min_self, h.take_cons]

/-! ## New values -/

/-- **Fillings of one kind with new values**: new to a bucket and to each other, and not blank. -/
structure New (kind : PlaceholderKind) (held : List Text) (fillings : List Filling) : Prop where
  kind_eq : ∀ filling ∈ fillings, filling.kind = kind
  distinct : (fillings.map Filling.value).Nodup
  visible : ∀ filling ∈ fillings, Text.allBlank filling.value = false
  absent : ∀ filling ∈ fillings, filling.value ∉ held

/-- A bucket that nothing is cut from: the fillings from the last to the first, and then what it
held. -/
def latestFirst (fillings : List Filling) (held : List Text) : List Text :=
  (fillings.map Filling.value).reverse ++ held

theorem latestFirst_concat (fillings : List Filling) (last : Filling) (held : List Text) :
    latestFirst (fillings ++ [last]) held = last.value :: latestFirst fillings held := by
  simp [latestFirst]

theorem New.of_append {held : List Text} {front rest : List Filling}
    (h : New kind held (front ++ rest)) : New kind held front where
  kind_eq filling hfilling := h.kind_eq filling (List.mem_append_left _ hfilling)
  distinct := by
    have hdistinct := h.distinct
    rw [List.map_append] at hdistinct
    exact (List.nodup_append.1 hdistinct).1
  visible filling hfilling := h.visible filling (List.mem_append_left _ hfilling)
  absent filling hfilling := h.absent filling (List.mem_append_left _ hfilling)

/-- The last value is new to what the others leave. -/
theorem New.not_mem_latestFirst {held : List Text} {last : Filling}
    (h : New kind held (fillings ++ [last])) : last.value ∉ latestFirst fillings held := by
  have hdistinct := h.distinct
  rw [List.map_append, List.nodup_append] at hdistinct
  rw [latestFirst, List.mem_append, List.mem_reverse]
  rintro (hearlier | hheld)
  · exact hdistinct.2.2 _ hearlier _ (by simp) rfl
  · exact h.absent last (by simp) hheld

/-! ## Recording new values -/

theorem limit_record (journal : Journal) (filling : Filling) :
    (journal.record filling).history.limit = journal.history.limit := by
  rw [record, recording, History.history_record]
  split <;> rfl

theorem limit_recordAll (journal : Journal) (fillings : List Filling) :
    (journal.recordAll fillings).history.limit = journal.history.limit := by
  induction fillings generalizing journal with
  | nil => rfl
  | cons first rest ih => exact (ih (journal.record first)).trans (limit_record journal first)

/-- **One new value** is put first, and its bucket is cut. -/
theorem values_record_of_isNews {filling : Filling} (hlimit : 0 ≤ journal.history.limit)
    (hnews : journal.history.isNews filling.kind filling.value = true) :
    (journal.record filling).history.values filling.kind =
      (filling.value :: journal.history.values filling.kind).take
        journal.history.limit.toNat := by
  rw [record, recording, History.history_record, if_pos hnews, History.values_remember, if_pos rfl]
  obtain ⟨limit, hnat⟩ := Int.eq_ofNat_of_zero_le hlimit
  rw [hnat, Offset.before_ofNat, Int.toNat_natCast]

/-- The last of some new values is news when its turn comes, if the others left the bucket as it
should be. -/
theorem New.isNews_last {held : List Text} {last : Filling} {limit : Nat}
    (h : New kind held (fillings ++ [last]))
    (hcut : UpToCut limit (latestFirst fillings held)
      ((journal.recordAll fillings).history.values kind)) :
    (journal.recordAll fillings).history.isNews last.kind last.value = true := by
  rw [History.isNews_iff, h.kind_eq last (by simp)]
  exact ⟨h.visible last (by simp), fun hmem => h.not_mem_latestFirst (hcut.subset hmem)⟩

/-- The last of some new values is put first, and the bucket is cut. -/
theorem New.values_recordAll_concat {last : Filling} (hlimit : 0 ≤ journal.history.limit)
    (h : New kind (journal.history.values kind) (fillings ++ [last]))
    (hcut : UpToCut journal.history.limit.toNat
      (latestFirst fillings (journal.history.values kind))
      ((journal.recordAll fillings).history.values kind)) :
    (journal.recordAll (fillings ++ [last])).history.values kind =
      (last.value :: (journal.recordAll fillings).history.values kind).take
        journal.history.limit.toNat := by
  have hlimit' : 0 ≤ (journal.recordAll fillings).history.limit := by
    rw [limit_recordAll]
    exact hlimit
  have hvalues := values_record_of_isNews hlimit' (h.isNews_last hcut)
  rw [h.kind_eq last (by simp), limit_recordAll] at hvalues
  rw [recordAll_concat]
  exact hvalues

/-- **Whatever the store refuses, a bucket holds the new values from the last to the first**, and
then what it held, up to cuts at the limit. -/
theorem upToCut_recordAll (hlimit : 0 ≤ journal.history.limit)
    (h : New kind (journal.history.values kind) fillings) :
    UpToCut journal.history.limit.toNat (latestFirst fillings (journal.history.values kind))
      ((journal.recordAll fillings).history.values kind) := by
  induction fillings using List.reverseRecOn with
  | nil => exact UpToCut.refl _ _
  | append_singleton fillings last ih =>
    have hcut := ih h.of_append
    rw [h.values_recordAll_concat hlimit hcut, latestFirst_concat]
    exact hcut.cons last.value

/-- **The latest values stand first, and what is too much is pushed out.** Record values that are
not blank, and new to the bucket and to each other, within any limit that is not negative. Each of
them is put into the bucket, and after the last the bucket is what the limit leaves of them from the
last to the first and of what it held before. A blank value, or one that is in the bucket, changes
nothing. None of this depends on what the store refuses. -/
theorem latest_first (journal : Journal) (kind : PlaceholderKind) :
    (∀ fillings : List Filling, 0 ≤ journal.history.limit →
        New kind (journal.history.values kind) fillings →
      (∀ earlier filling later, fillings = earlier ++ filling :: later →
        ((journal.recordAll earlier).recording filling).changed = true) ∧
      (fillings ≠ [] → (journal.recordAll fillings).history.values kind =
        (latestFirst fillings (journal.history.values kind)).take
          journal.history.limit.toNat)) ∧
      ∀ (store : Store) (value : Text),
        Text.allBlank value = true ∨ value ∈ journal.history.values kind →
        journal.history.record store kind value = ⟨false, journal.history, store, []⟩ := by
  refine ⟨fun fillings hlimit hnew => ⟨?_, ?_⟩, fun store value hknown =>
    History.record_of_known store hknown⟩
  · rintro earlier filling later rfl
    rw [List.append_cons] at hnew
    have hturn := hnew.of_append
    rw [recording, History.changed_record]
    exact hturn.isNews_last (upToCut_recordAll hlimit hturn.of_append)
  · intro hsome
    obtain ⟨front, last, rfl⟩ := (List.eq_nil_or_concat fillings).resolve_left hsome
    rw [List.concat_eq_append] at hnew ⊢
    have hcut := upToCut_recordAll hlimit hnew.of_append
    rw [hnew.values_recordAll_concat hlimit hcut, latestFirst_concat, hcut.take_cons]

/-- Two new values and one first value are left of a bucket that has more first values than the
limit, though the first of the two cannot be saved. The empty text is blank. -/
theorem latest_first_within_three :
    let journal := fresh (Store.opened .memory []) History.usualKey 3
    let fillings : List Filling := [⟨.typeName, "a", true⟩, ⟨.typeName, "b", false⟩]
    New .typeName (journal.history.values .typeName) fillings ∧
      ((journal.recordAll [⟨.typeName, "a", true⟩]).recording ⟨.typeName, "b", false⟩).changed =
        true ∧
      (journal.recordAll fillings).history.values .typeName = [("b" : Text), "a", "int"] ∧
      journal.history.record journal.store .typeName [] =
        ⟨false, journal.history, journal.store, []⟩ := by
  intro journal fillings
  have hnew : New .typeName (journal.history.values .typeName) fillings :=
    ⟨by decide, by decide, by decide, by decide⟩
  obtain ⟨hrecorded, hknown⟩ := latest_first journal .typeName
  obtain ⟨hchanged, hvalues⟩ := hrecorded fillings (by decide) hnew
  exact ⟨hnew, hchanged [⟨.typeName, "a", true⟩] ⟨.typeName, "b", false⟩ [] rfl,
    hvalues (List.cons_ne_nil _ _), hknown journal.store [] (.inl rfl)⟩

end Journal

end CodeKeyboard
