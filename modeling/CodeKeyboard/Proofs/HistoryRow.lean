import CodeKeyboard.History
import CodeKeyboard.Proofs.JsonRoundTrip
import CodeKeyboard.Proofs.Outcome

/-!
# What a row holds of a history

The text under the key of a history may be anything. Loading looks at it bucket by bucket: where the
text is a JSON object with a list of texts under the name of the bucket, the bucket becomes the
beginning of that list, and every other bucket stays. `Buckets.Held` says what a row holds for a
bucket, and `Buckets.Merged` what merging the row makes of the buckets.

- `Json.nodup_of_read`: no object that is read has two entries of one name, so what it holds for a
  bucket is one list, whatever the text repeats.
- `History.merged_of_load`: loading merges what the row holds.
- `History.exists_load`: only nesting beyond the limit of the reader keeps it from doing so;
  `History.exists_load_of_merged` says when it leads to a given history.
- `History.held_saved`: a history that was saved is held as it was.
-/

namespace CodeKeyboard

namespace Json

/-! ## Objects that are read -/

theorem readMagnitude_ne_object (negative : Bool) (s rest : Text) (entries : List (Text × Json)) :
    readMagnitude negative s ≠ .ok (object entries, rest) := by
  intro h
  unfold readMagnitude at h
  split at h
  · cases h
  · dsimp only at h
    split at h
    · cases h
    · split at h <;> cases h

theorem readScalar_ne_object (s rest : Text) (entries : List (Text × Json)) :
    readScalar s ≠ .ok (object entries, rest) := by
  intro h
  unfold readScalar at h
  split at h
  · next word value hword =>
    have hmem := List.mem_of_find?_eq_some hword
    simp only [words, List.mem_cons, Prod.mk.injEq, List.not_mem_nil, or_false] at hmem
    obtain ⟨rfl, -⟩ := Prod.mk.inj (Except.ok.inj h)
    simp at hmem
  · split at h
    · exact readMagnitude_ne_object _ _ _ _ h
    · exact readMagnitude_ne_object _ _ _ _ h

/-- The names of an object that is read are distinct, also where the text repeats one. -/
theorem nodup_of_readValue {fuel depth : Nat} {s rest : Text} {entries : List (Text × Json)}
    (h : readValue fuel depth s = .ok (object entries, rest)) : (entries.map Prod.fst).Nodup := by
  -- of the kinds of values only an object can be one, and its entries were put one after the other
  rw [readValue.eq_def] at h
  split at h
  · obtain ⟨⟨content, rest⟩, -, h⟩ := Outcome.bind_eq_ok_iff.1 h
    cases h
  · cases h
  · split at h
    · cases h
    · obtain ⟨⟨items, rest⟩, -, h⟩ := Outcome.bind_eq_ok_iff.1 h
      cases h
  · cases h
  · split at h
    · cases h
      exact List.nodup_nil
    · obtain ⟨⟨found, rest⟩, -, h⟩ := Outcome.bind_eq_ok_iff.1 h
      cases h
      exact Assoc.nodup_keys_ofPairs found
  · exact absurd h (readScalar_ne_object _ _ _)

theorem nodup_of_read {s : Text} {entries : List (Text × Json)}
    (h : read s = .ok (object entries)) : (entries.map Prod.fst).Nodup := by
  obtain ⟨⟨value, rest⟩, hvalue, h⟩ := Outcome.bind_eq_ok_iff.1 h
  dsimp only at h
  split at h
  · cases h
    exact nodup_of_readValue hvalue
  · cases h

end Json

namespace Buckets

variable {limit : Int} {buckets merged : Buckets} {kind : PlaceholderKind}

/-! ## What is held for a bucket -/

/-- What a row holds for a bucket: it is a JSON object with a list of texts under the name of the
bucket. -/
def Held (row : Option Text) (kind : PlaceholderKind) (values : List Text) : Prop :=
  ∃ text entries, row = some text ∧ Json.read text = .ok (.object entries) ∧
    entries.lookup (nameOf kind) = some (.ofTexts values)

/-- What comes of the buckets when a row is merged into them. -/
structure Merged (limit : Int) (row : Option Text) (before after : Buckets) : Prop where
  /-- A bucket that the row holds begins as the row has it. -/
  held : ∀ kind values, Held row kind values → after kind = Offset.before values limit
  /-- Every other bucket stays. -/
  kept : ∀ kind, (∀ values, ¬ Held row kind values) → after kind = before kind

/-- What a row holds for a bucket, found by reading it. -/
def held? (row : Option Text) (kind : PlaceholderKind) : Option (List Text) :=
  row.bind fun text =>
    match Json.read text with
    | .ok value => (value.field? (nameOf kind)).bind Json.texts?
    | .error _ => none

theorem held_iff {row : Option Text} {values : List Text} :
    Held row kind values ↔ held? row kind = some values := by
  constructor
  · rintro ⟨text, entries, rfl, hread, hlookup⟩
    simp only [held?, Option.bind_some, hread, Json.field?, hlookup, Json.texts?_ofTexts]
  · intro h
    obtain ⟨text, rfl, hheld⟩ := Option.bind_eq_some_iff.1 h
    split at hheld
    · next value hread =>
      obtain ⟨entry, hentry, htexts⟩ := Option.bind_eq_some_iff.1 hheld
      obtain rfl := Json.eq_ofTexts_of_texts? htexts
      cases value with
      | object entries => exact ⟨text, entries, rfl, hread, hentry⟩
      | null | bool | int | real | text | array => cases hentry
    · cases hheld

instance (row : Option Text) (kind : PlaceholderKind) (values : List Text) :
    Decidable (Held row kind values) :=
  decidable_of_iff _ held_iff.symm

/-- What a row holds for a bucket is one list. -/
theorem Held.unique {row : Option Text} {values other : List Text} (h : Held row kind values)
    (h' : Held row kind other) : values = other :=
  Option.some.inj ((held_iff.1 h).symm.trans (held_iff.1 h'))

theorem merged_of_apply {row : Option Text} {before after : Buckets}
    (h : ∀ kind, after kind =
      ((held? row kind).map (Offset.before · limit)).getD (before kind)) :
    Merged limit row before after where
  held kind values hheld := by
    rw [h, held_iff.1 hheld]
    rfl
  kept kind hnone := by
    rw [h, Option.eq_none_iff_forall_ne_some.2 fun values hvalues =>
      hnone values (held_iff.2 hvalues)]
    rfl

/-- A bucket either begins as the row has it or stays. -/
theorem Merged.apply {row : Option Text} {before after : Buckets}
    (h : Merged limit row before after) (kind : PlaceholderKind) :
    (∃ values, Held row kind values ∧ after kind = Offset.before values limit) ∨
      after kind = before kind := by
  by_cases hheld : ∃ values, Held row kind values
  · obtain ⟨values, hheld⟩ := hheld
    exact .inl ⟨values, hheld, h.held kind values hheld⟩
  · exact .inr (h.kept kind fun values hvalues => hheld ⟨values, hvalues⟩)

/-! ## Merging -/

theorem eq_nameOf_of_kindOf? {name : Text} (h : kindOf? name = some kind) : name = nameOf kind := by
  rw [kindOf?] at h
  have hfound := List.find?_some h
  exact (beq_iff_eq.1 hfound).symm

/-- Merging an entry changes the bucket of its name, if it is a list of texts, and no other. -/
theorem merge_apply (limit : Int) (buckets : Buckets) (name : Text) (saved : Json)
    (kind : PlaceholderKind) :
    (buckets.merge limit name saved).1 kind =
      if name = nameOf kind then (saved.texts?.map (Offset.before · limit)).getD (buckets kind)
      else buckets kind := by
  unfold merge
  cases hkind : kindOf? name with
  | none =>
    rw [if_neg]
    rintro rfl
    rw [kindOf?_nameOf] at hkind
    cases hkind
  | some other =>
    obtain rfl := eq_nameOf_of_kindOf? hkind
    by_cases hother : other = kind
    · subst hother
      rw [if_pos rfl]
      cases saved.texts? with
      | none => rfl
      | some values => exact replace_self ..
    · have hname : nameOf other ≠ nameOf kind := by
        intro hname
        have hsame := congrArg kindOf? hname
        rw [kindOf?_nameOf, kindOf?_nameOf] at hsame
        exact hother (Option.some.inj hsame)
      rw [if_neg hname]
      cases saved.texts? with
      | none => rfl
      | some values => exact replace_of_ne _ _ (Ne.symm hother)

/-- Merging entries of distinct names changes each bucket by the entry of its name. -/
theorem mergeAll_apply {entries : List (Text × Json)} (hdistinct : (entries.map Prod.fst).Nodup)
    (limit : Int) (buckets : Buckets) (kind : PlaceholderKind) :
    (buckets.mergeAll limit entries).1 kind =
      (((entries.lookup (nameOf kind)).bind Json.texts?).map (Offset.before · limit)).getD
        (buckets kind) := by
  induction entries generalizing buckets with
  | nil => rfl
  | cons entry entries ih =>
    obtain ⟨name, saved⟩ := entry
    rw [List.map_cons, List.nodup_cons] at hdistinct
    have hstep : (buckets.mergeAll limit ((name, saved) :: entries)).1 =
        ((buckets.merge limit name saved).1.mergeAll limit entries).1 := rfl
    rw [hstep, ih hdistinct.2, merge_apply, List.lookup_cons]
    by_cases hname : name = nameOf kind
    · -- no later entry has the name, so the first one decides
      have hlater : entries.lookup (nameOf kind) = none := by
        refine List.lookup_eq_none_iff.2 fun later hlater => ?_
        rw [bne_iff_ne]
        intro hsame
        exact hdistinct.1 (List.mem_map.2 ⟨later, hlater, (hname.trans hsame).symm⟩)
      rw [if_pos hname, hlater, hname, beq_self_eq_true]
      rfl
    · have hb : (nameOf kind == name) = false := beq_eq_false_iff_ne.2 (Ne.symm hname)
      rw [if_neg hname, hb]

theorem merged_of_mergeText {text : Text} {warnings : List Warning}
    (h : buckets.mergeText limit text = .ok (merged, warnings)) :
    Merged limit (some text) buckets merged := by
  refine merged_of_apply fun kind => ?_
  unfold mergeText at h
  rw [held?, Option.bind_some]
  cases hread : Json.read text with
  | error cause =>
    rw [hread] at h
    cases cause with
    | tooDeep => cases h
    | malformed | tooManyDigits => cases h; rfl
  | ok value =>
    rw [hread] at h
    cases value with
    | object entries =>
      have hmerged : (buckets.mergeAll limit entries).1 = merged :=
        congrArg Prod.fst (Except.ok.inj h)
      rw [← hmerged]
      exact mergeAll_apply (Json.nodup_of_read hread) limit buckets kind
    | null | bool | int | real | text | array => cases h; rfl

end Buckets

namespace History

variable {history loaded : History} {store : Store} {row : Option Text} {warnings : List Warning}

/-! ## Loading -/

/-- **Loading merges what the row holds** into the buckets, and moves nothing else. -/
theorem merged_of_load (hrow : store.get? history.key = .ok row)
    (h : history.load store = .ok (loaded, warnings)) :
    loaded.key = history.key ∧ loaded.limit = history.limit ∧
      Buckets.Merged history.limit row history.buckets loaded.buckets := by
  obtain ⟨found, hfound, h⟩ := Outcome.bind_eq_ok_iff.1 h
  rw [hrow] at hfound
  cases hfound
  cases row with
  | none =>
    cases h
    exact ⟨rfl, rfl, Buckets.merged_of_apply fun kind => rfl⟩
  | some text =>
    obtain ⟨⟨buckets, warned⟩, hmerged, h⟩ := Outcome.bind_eq_ok_iff.1 h
    cases h
    exact ⟨rfl, rfl, Buckets.merged_of_mergeText hmerged⟩

/-- **Loading fails only on a text that is nested too deeply.** -/
theorem exists_load (hrow : store.get? history.key = .ok row)
    (hdepth : ∀ text, row = some text → Json.read text ≠ .error .tooDeep) :
    ∃ loaded warnings, history.load store = .ok (loaded, warnings) := by
  cases row with
  | none => exact ⟨history, [], Outcome.bind_eq_ok_iff.2 ⟨none, hrow, rfl⟩⟩
  | some text =>
    have hmerged : ∃ buckets warned,
        history.buckets.mergeText history.limit text = .ok (buckets, warned) := by
      unfold Buckets.mergeText
      split
      · next hread => exact absurd hread (hdepth text rfl)
      · exact ⟨_, _, rfl⟩
      · exact ⟨_, _, rfl⟩
      · exact ⟨_, _, rfl⟩
    obtain ⟨buckets, warned, hmerged⟩ := hmerged
    refine ⟨{ history with buckets := buckets }, warned, Outcome.bind_eq_ok_iff.2 ?_⟩
    exact ⟨some text, hrow, Outcome.bind_eq_ok_iff.2 ⟨(buckets, warned), hmerged, rfl⟩⟩

/-- If merging the row leads to no buckets but those of a certain history, that one is loaded. -/
theorem exists_load_of_merged {other : History} (hrow : store.get? history.key = .ok row)
    (hdepth : ∀ text, row = some text → Json.read text ≠ .error .tooDeep)
    (hkey : other.key = history.key) (hlimit : other.limit = history.limit)
    (hmerged : ∀ merged, Buckets.Merged history.limit row history.buckets merged →
      merged = other.buckets) :
    ∃ warnings, history.load store = .ok (other, warnings) := by
  obtain ⟨loaded, warnings, hload⟩ := exists_load hrow hdepth
  obtain ⟨hkey', hlimit', hbuckets⟩ := merged_of_load hrow hload
  have hloaded : loaded = other := by
    calc loaded
      _ = ⟨loaded.key, loaded.limit, loaded.buckets⟩ := rfl
      _ = ⟨other.key, other.limit, other.buckets⟩ := by
        rw [hkey', hlimit', hmerged _ hbuckets, hkey, hlimit]
      _ = other := rfl
  exact ⟨warnings, hloaded ▸ hload⟩

/-- What is loaded depends on nothing of the store but the row. -/
theorem load_congr {store' : Store} (h : store.get? history.key = store'.get? history.key) :
    history.load store = history.load store' := by
  rw [load, load, h]

/-! ## What was saved -/

theorem storable_toJson (depth : Nat) (buckets : Buckets) :
    Json.Storable (depth + 2) buckets.toJson := by
  have hnames : buckets.entries.map Prod.fst = PlaceholderKind.all.map Buckets.nameOf := rfl
  have hdistinct : (PlaceholderKind.all.map Buckets.nameOf).Nodup := by decide
  refine .object ?_ fun entry hentry => ?_
  · rw [List.map_map]
    exact hnames ▸ hdistinct
  · obtain ⟨⟨name, values⟩, -, rfl⟩ := List.mem_map.1 hentry
    refine .array fun item hitem => ?_
    obtain ⟨value, -, rfl⟩ := List.mem_map.1 hitem
    exact .text depth value

/-- The text in which a history is saved is read as its buckets. -/
theorem read_saved (history : History) : Json.read history.saved = .ok history.buckets.toJson :=
  -- two levels are within the 990 that the reader allows
  Json.read_compact (storable_toJson 988 history.buckets)

/-- Every bucket stands under its name. -/
theorem lookup_entries (buckets : Buckets) (kind : PlaceholderKind) :
    buckets.entries.lookup (Buckets.nameOf kind) = some (buckets kind) := by
  cases kind <;> rfl

/-- **A history that was saved is held as it was**, bucket by bucket. -/
theorem held_saved (history : History) (kind : PlaceholderKind) :
    Buckets.Held (some history.saved) kind (history.buckets kind) := by
  refine ⟨history.saved, _, rfl, read_saved history, ?_⟩
  cases kind <;> rfl

end History

end CodeKeyboard
