import CodeKeyboard.Proofs.HistoryRow

/-!
# What a history keeps whatever happens to it (specification §3)

A `Journal` is a history with the store that it is saved in. It is loaded and recorded in, in any
order, and the store may refuse any of its writes. Loading takes a row as it is and only cuts its
lists; recording cuts too, and lets nothing blank and nothing twice into a bucket. So the two do not
guard the same things, and what is in memory and what is in the row have to be followed together:
`Journal.Steady` and `Journal.Neat` are the two invariants.

- `Journal.recording_cases`: all that recording can come to; every other lemma is read off it.
- `Journal.Steady.move`, `Journal.Neat.move`: one move keeps the invariants, whatever it is.
- `Journal.regular_throughout`: so after any moves every bucket is there and not too long, and tidy
  if the first row was; recording moves one bucket at most, and what it saves holds each of them.
-/

namespace CodeKeyboard

/-- A value that was filled in, and whether the store refuses to save the history with it. -/
structure Filling where
  kind : PlaceholderKind
  value : Text
  refused : Bool
deriving DecidableEq, Repr

/-- A history with the store that it is saved in. -/
structure Journal where
  history : History
  store : Store

namespace Journal

/-! ## Moves -/

/-- The journal of a store before anything is loaded. -/
def fresh (store : Store) (key : Text) (limit : Int) : Journal :=
  ⟨.fresh key limit, store⟩

/-- The journal after loading what is saved. Loading that fails changes nothing. -/
def load (journal : Journal) : Journal :=
  match journal.history.load journal.store with
  | .ok (history, _) => { journal with history := history }
  | .error _ => journal

/-- What recording a filling leads to. -/
def recording (journal : Journal) (filling : Filling) : History.Recorded :=
  journal.history.record (journal.store.refusing filling.refused journal.store.refusesErase)
    filling.kind filling.value

/-- The journal after recording a filling. -/
def record (journal : Journal) (filling : Filling) : Journal :=
  ⟨(journal.recording filling).history, (journal.recording filling).store⟩

/-- What can be done with a journal. -/
inductive Move where
  | load
  | record (filling : Filling)

/-- The journal after a move. -/
def move (journal : Journal) : Move → Journal
  | .load => journal.load
  | .record filling => journal.record filling

/-- The journal after some moves. -/
def after (journal : Journal) (moves : List Move) : Journal :=
  moves.foldl move journal

theorem after_concat (journal : Journal) (moves : List Move) (last : Move) :
    journal.after (moves ++ [last]) = (journal.after moves).move last :=
  List.foldl_append

variable {journal : Journal} {key : Text} {limit : Int}

theorem store_load (journal : Journal) : journal.load.store = journal.store := by
  unfold load
  split <;> rfl

/-- **All that recording can come to**: the value is no news and nothing happens, or it is put into
its bucket, and then the history is saved unless the store refuses. -/
theorem recording_cases {row : Option Text}
    (hrow : journal.store.get? journal.history.key = .ok row) (filling : Filling) :
    (journal.history.isNews filling.kind filling.value = false ∧
      journal.recording filling = ⟨false, journal.history,
        journal.store.refusing filling.refused journal.store.refusesErase, []⟩) ∨
    (journal.history.isNews filling.kind filling.value = true ∧ filling.refused = true ∧
      journal.recording filling = ⟨true, journal.history.remember filling.kind filling.value,
        journal.store.refusing filling.refused journal.store.refusesErase, [.historyUnsaved]⟩) ∨
    (journal.history.isNews filling.kind filling.value = true ∧ filling.refused = false ∧
      ∃ after, after.get? journal.history.key =
          .ok (some (journal.history.remember filling.kind filling.value).saved) ∧
        journal.recording filling =
          ⟨true, journal.history.remember filling.kind filling.value, after, []⟩) := by
  unfold recording History.record
  cases hnews : journal.history.isNews filling.kind filling.value with
  | false => exact .inl ⟨rfl, rfl⟩
  | true =>
    refine .inr ?_
    rw [if_pos rfl]
    have hkey : (journal.history.remember filling.kind filling.value).key = journal.history.key :=
      rfl
    dsimp only
    rw [hkey]
    cases hrefused : filling.refused with
    | true =>
      refine .inl ⟨rfl, rfl, ?_⟩
      rw [Store.put_of_refuses rfl]
    | false =>
      have hread : (journal.store.refusing false journal.store.refusesErase).get?
          journal.history.key = .ok row := hrow
      obtain ⟨after, hput⟩ := Store.exists_put hread rfl journal.history.key
        (journal.history.remember filling.kind filling.value).saved
      refine .inr ⟨rfl, rfl, after, (Store.get?_put hput _).trans (if_pos rfl), ?_⟩
      rw [hput]

/-! ## Where the journal is, and how much it holds -/

/-- What every journal keeps: its key and its limit, a row that can be read, and no bucket longer
than the limit. -/
structure Steady (key : Text) (limit : Int) (journal : Journal) : Prop where
  key_eq : journal.history.key = key
  limit_eq : journal.history.limit = limit
  /-- The row can be read, whatever is in it. -/
  readable : ∃ row, journal.store.get? key = .ok row
  fits : ∀ kind, ((journal.history.values kind).length : Int) ≤ limit

namespace Steady

theorem fresh (hlimit : 6 ≤ limit) (backend : Backend) (rows : Assoc Text Text) (key : Text) :
    (Journal.fresh (Store.opened backend rows) key limit).Steady key limit where
  key_eq := rfl
  limit_eq := rfl
  readable := ⟨rows.lookup key, Store.get?_opened backend rows key⟩
  fits kind := by
    have hseeds : (Buckets.seeds kind).length ≤ 6 := by cases kind <;> decide
    have hvalues : (Journal.fresh (Store.opened backend rows) key limit).history.values kind =
      Buckets.seeds kind := rfl
    rw [hvalues]
    omega

theorem load (hlimit : 0 ≤ limit) (h : journal.Steady key limit) :
    journal.load.Steady key limit := by
  obtain ⟨row, hrow⟩ := h.readable
  unfold Journal.load
  split
  · next loaded warnings hload =>
    obtain ⟨hkey, hkept, hmerged⟩ :=
      History.merged_of_load (h.key_eq ▸ hrow) hload
    refine ⟨hkey.trans h.key_eq, hkept.trans h.limit_eq, ⟨row, hrow⟩, fun kind => ?_⟩
    show ((loaded.buckets kind).length : Int) ≤ limit
    obtain ⟨values, -, hcut⟩ | hstays := hmerged.apply kind
    · rw [hcut, h.limit_eq]
      exact Offset.length_before_le values hlimit
    · rw [hstays]
      exact h.fits kind
  · exact h

/-- A value that is put into its bucket pushes the last one out if there are too many. -/
theorem fits_remember (hlimit : 0 ≤ limit) (h : journal.Steady key limit) (kind : PlaceholderKind)
    (value : Text) (k : PlaceholderKind) :
    (((journal.history.remember kind value).values k).length : Int) ≤ limit := by
  rw [History.values_remember, h.limit_eq]
  split
  · exact Offset.length_before_le _ hlimit
  · exact h.fits k

theorem record (hlimit : 0 ≤ limit) (h : journal.Steady key limit) (filling : Filling) :
    (journal.record filling).Steady key limit := by
  obtain ⟨row, hrow⟩ := h.readable
  obtain ⟨-, heq⟩ | ⟨-, -, heq⟩ | ⟨-, -, after, hsaved, heq⟩ :=
    recording_cases (h.key_eq ▸ hrow) filling
  · rw [Journal.record, heq]
    exact ⟨h.key_eq, h.limit_eq, ⟨row, hrow⟩, h.fits⟩
  · rw [Journal.record, heq]
    exact ⟨h.key_eq, h.limit_eq, ⟨row, hrow⟩, h.fits_remember hlimit _ _⟩
  · rw [Journal.record, heq]
    exact ⟨h.key_eq, h.limit_eq, ⟨_, h.key_eq ▸ hsaved⟩, h.fits_remember hlimit _ _⟩

/-- One move keeps a journal steady. -/
theorem move (hlimit : 0 ≤ limit) (h : journal.Steady key limit) (move : Move) :
    (journal.move move).Steady key limit := by
  cases move with
  | load => exact h.load hlimit
  | record filling => exact h.record hlimit filling

/-- And so do all moves. -/
theorem after (hlimit : 0 ≤ limit) (h : journal.Steady key limit) (moves : List Move) :
    (journal.after moves).Steady key limit := by
  induction moves generalizing journal with
  | nil => exact h
  | cons first rest ih => exact ih (h.move hlimit first)

end Steady

/-! ## Nothing blank and nothing twice -/

end Journal

namespace Buckets

/-- Values none of which is blank, and none of which is there twice. -/
structure Tidy (values : List Text) : Prop where
  nodup : values.Nodup
  visible : ∀ value ∈ values, Text.allBlank value = false

/-- A row that holds tidy lists only. -/
def TidyRow (row : Option Text) : Prop :=
  ∀ kind values, Held row kind values → Tidy values

variable {values : List Text}

theorem Tidy.before (h : Tidy values) (limit : Int) : Tidy (Offset.before values limit) :=
  have hsub := Offset.before_sublist values limit
  ⟨h.nodup.sublist hsub, fun value hvalue => h.visible value (hsub.subset hvalue)⟩

theorem Tidy.cons (h : Tidy values) {value : Text} (hvisible : Text.allBlank value = false)
    (hnew : value ∉ values) : Tidy (value :: values) where
  nodup := List.nodup_cons.2 ⟨hnew, h.nodup⟩
  visible other hother := by
    rcases List.mem_cons.1 hother with rfl | hother
    · exact hvisible
    · exact h.visible other hother

theorem tidy_seeds (kind : PlaceholderKind) : Tidy (seeds kind) := by
  cases kind <;> exact ⟨by decide, by decide⟩

end Buckets

/-- News is neither blank nor there already. -/
theorem History.isNews_iff {history : History} {kind : PlaceholderKind} {value : Text} :
    history.isNews kind value = true ↔
      Text.allBlank value = false ∧ value ∉ history.values kind := by
  have hblank : (Text.trim value).isEmpty = Text.allBlank value := by
    rw [Bool.eq_iff_iff, List.isEmpty_iff, Text.trim_eq_nil_iff]
  rw [isNews, hblank, Bool.and_eq_true, Bool.not_eq_true', decide_eq_true_eq]

namespace Journal

variable {journal : Journal} {key : Text} {limit : Int}

/-- A journal with tidy buckets and a tidy row. -/
structure Neat (key : Text) (journal : Journal) : Prop where
  buckets : ∀ kind, Buckets.Tidy (journal.history.values kind)
  /-- What would be loaded. -/
  row : ∀ row, journal.store.get? key = .ok row → Buckets.TidyRow row

namespace Neat

theorem load (hsteady : journal.Steady key limit) (h : journal.Neat key) :
    journal.load.Neat key := by
  obtain ⟨row, hrow⟩ := hsteady.readable
  unfold Journal.load
  split
  · next loaded warnings hload =>
    obtain ⟨-, -, hmerged⟩ := History.merged_of_load (hsteady.key_eq ▸ hrow) hload
    refine ⟨fun kind => ?_, h.row⟩
    show Buckets.Tidy (loaded.buckets kind)
    obtain ⟨values, hheld, hcut⟩ | hstays := hmerged.apply kind
    · rw [hcut]
      exact (h.row row hrow kind values hheld).before _
    · rw [hstays]
      exact h.buckets kind
  · exact h

theorem remember (h : journal.Neat key) {kind : PlaceholderKind} {value : Text}
    (hnews : journal.history.isNews kind value = true) (k : PlaceholderKind) :
    Buckets.Tidy ((journal.history.remember kind value).values k) := by
  obtain ⟨hvisible, hnew⟩ := History.isNews_iff.1 hnews
  rw [History.values_remember]
  split
  · exact ((h.buckets kind).cons hvisible hnew).before _
  · exact h.buckets k

theorem record (hsteady : journal.Steady key limit) (h : journal.Neat key) (filling : Filling) :
    (journal.record filling).Neat key := by
  obtain ⟨row, hrow⟩ := hsteady.readable
  obtain ⟨-, heq⟩ | ⟨hnews, -, heq⟩ | ⟨hnews, -, after, hsaved, heq⟩ :=
    recording_cases (hsteady.key_eq ▸ hrow) filling
  · rw [Journal.record, heq]
    exact ⟨h.buckets, h.row⟩
  · rw [Journal.record, heq]
    exact ⟨h.remember hnews, h.row⟩
  · rw [Journal.record, heq]
    refine ⟨h.remember hnews, fun row hrow kind values hheld => ?_⟩
    -- the row is the history that was saved, so it holds the buckets as they are
    have hrow' : Except.ok row = Except.ok (some (journal.history.remember filling.kind
        filling.value).saved) := hrow.symm.trans (hsteady.key_eq ▸ hsaved)
    cases hrow'
    rw [hheld.unique (History.held_saved _ kind)]
    exact h.remember hnews kind

theorem move (hsteady : journal.Steady key limit) (h : journal.Neat key) (move : Move) :
    (journal.move move).Neat key := by
  cases move with
  | load => exact h.load hsteady
  | record filling => exact h.record hsteady filling

theorem after (hlimit : 0 ≤ limit) (hsteady : journal.Steady key limit) (h : journal.Neat key)
    (moves : List Move) : (journal.after moves).Neat key := by
  induction moves generalizing journal with
  | nil => exact h
  | cons first rest ih => exact ih (hsteady.move hlimit first) (h.move hsteady first)

end Neat

/-! ## Every run -/

/-- What holds of a journal at any time, given the row that it was first loaded from. -/
structure Regular (key : Text) (limit : Int) (first : Option Text) (journal : Journal) : Prop where
  /-- Each kind has its bucket, under its name in what would be saved, and it is not too long. -/
  fits : ∀ kind,
    journal.history.buckets.entries.lookup (Buckets.nameOf kind) =
        some (journal.history.values kind) ∧
      ((journal.history.values kind).length : Int) ≤ limit
  /-- No bucket has anything blank or anything twice, if the first row had no such lists. -/
  tidy : Buckets.TidyRow first → ∀ kind, Buckets.Tidy (journal.history.values kind)
  /-- Recording leaves the buckets of the other kinds alone. -/
  others : ∀ filling kind, kind ≠ filling.kind →
    (journal.recording filling).history.values kind = journal.history.values kind
  /-- Recording that does not change the history does not change the rows either. -/
  unchanged : ∀ filling, (journal.recording filling).changed = false →
    (journal.recording filling).history = journal.history ∧
      (journal.recording filling).store.rows = journal.store.rows
  /-- Recording that changes the history, and is not refused, leaves a row that holds every bucket
  as it is, and has nothing else in it. -/
  saved : ∀ filling, (journal.recording filling).changed = true → filling.refused = false →
    ∃ text, (journal.recording filling).store.get? key = .ok (some text) ∧
      (∀ kind, Buckets.Held (some text) kind ((journal.recording filling).history.values kind)) ∧
      Json.read text = .ok (journal.recording filling).history.buckets.toJson

theorem Steady.regular {first : Option Text} (h : journal.Steady key limit)
    (htidy : Buckets.TidyRow first → journal.Neat key) : journal.Regular key limit first := by
  obtain ⟨row, hrow⟩ := h.readable
  have hcases := recording_cases (h.key_eq ▸ hrow)
  refine ⟨fun kind => ⟨History.lookup_entries _ kind, h.fits kind⟩,
    fun hfirst => (htidy hfirst).buckets, ?_, ?_, ?_⟩
  · intro filling kind hkind
    obtain ⟨-, heq⟩ | ⟨-, -, heq⟩ | ⟨-, -, after, -, heq⟩ := hcases filling
    · rw [heq]
    · rw [heq]
      exact Buckets.replace_of_ne _ _ hkind
    · rw [heq]
      exact Buckets.replace_of_ne _ _ hkind
  · intro filling hchanged
    obtain ⟨-, heq⟩ | ⟨-, -, heq⟩ | ⟨-, -, after, -, heq⟩ := hcases filling
    · rw [heq]
      exact ⟨rfl, rfl⟩
    · rw [heq] at hchanged
      cases hchanged
    · rw [heq] at hchanged
      cases hchanged
  · intro filling hchanged hrefused
    obtain ⟨-, heq⟩ | ⟨-, hrefused', -⟩ | ⟨-, -, after, hsaved, heq⟩ := hcases filling
    · rw [heq] at hchanged
      cases hchanged
    · rw [hrefused] at hrefused'
      cases hrefused'
    · rw [heq]
      exact ⟨_, h.key_eq ▸ hsaved, History.held_saved _, History.read_saved _⟩

/-- **A history stays regular in every run.** Whatever the store held at first, and whatever is
loaded and recorded in whatever order, and refused or not: every bucket is there and within the
limit, and free of blanks and repetitions if the first row was; recording touches no bucket of
another kind, nor anything at all if it changes nothing; and what it saves is the history, bucket by
bucket. -/
theorem regular_throughout (hlimit : 6 ≤ limit) (backend : Backend) (rows : Assoc Text Text)
    (key : Text) (moves : List Move) :
    ((fresh (Store.opened backend rows) key limit).after moves).Regular key limit
      (rows.lookup key) := by
  have hstart := Steady.fresh hlimit backend rows key
  refine (hstart.after (by omega) moves).regular fun hfirst => ?_
  refine Neat.after (by omega) hstart ⟨Buckets.tidy_seeds, fun row hrow => ?_⟩ moves
  cases (Store.get?_opened backend rows key).symm.trans hrow
  exact hfirst

/-- The row has one tidy list and one that is no list of texts. A value whose save is refused is
kept, and loading the row again takes it away; the next one that is saved takes it along. -/
theorem regular_throughout_with_a_refusal :
    let row : Text := "\x7b\"types\": [\"a\"], \"modules\": [1]\x7d"
    let moves : List Move :=
      [.load, .record ⟨.typeName, "b", true⟩, .record ⟨.typeName, " ", false⟩]
    let journal :=
      (fresh (Store.opened .memory [(History.usualKey, row)]) History.usualKey 6).after moves
    (6 : Int) ≤ 6 ∧ Buckets.TidyRow (some row) ∧
      Buckets.Tidy (journal.history.values .typeName) ∧
      journal.history.values .typeName = [("b" : Text), ("a" : Text)] ∧
      journal.load.history.values .typeName = [("a" : Text)] ∧
      ∃ text, (journal.recording ⟨.typeName, "c", false⟩).store.get? History.usualKey =
          .ok (some text) ∧
        Buckets.Held (some text) .typeName [("c" : Text), ("b" : Text), ("a" : Text)] ∧
        Buckets.Held (some text) .moduleName (Buckets.seeds .moduleName) := by
  intro row moves journal
  have hheld : ∀ kind, Buckets.held? (some row) kind =
      if kind = .typeName then some [("a" : Text)] else none := by
    intro kind
    cases kind <;> decide +kernel
  have htidy : Buckets.TidyRow (some row) := by
    intro kind values h
    have hvalues := (hheld kind).symm.trans (Buckets.held_iff.1 h)
    obtain ⟨-, hlist⟩ := Option.ite_none_right_eq_some.1 hvalues
    cases hlist
    exact ⟨by decide, by decide⟩
  have hlimit : (6 : Int) ≤ 6 := by decide
  have hregular :=
    regular_throughout hlimit .memory [(History.usualKey, row)] History.usualKey moves
  have hvalues : journal.history.values .typeName = [("b" : Text), ("a" : Text)] := by
    decide +kernel
  have hmodules : journal.history.values .moduleName = Buckets.seeds .moduleName := by
    decide +kernel
  obtain ⟨text, htext, hholds, -⟩ :=
    hregular.saved ⟨.typeName, "c", false⟩ (by decide +kernel) rfl
  have htypes : (journal.recording ⟨.typeName, "c", false⟩).history.values .typeName =
      [("c" : Text), ("b" : Text), ("a" : Text)] := by
    decide +kernel
  have hothers := hregular.others ⟨.typeName, "c", false⟩ .moduleName (by decide)
  exact ⟨hlimit, htidy, hregular.tidy htidy .typeName, hvalues, by decide +kernel,
    text, htext, htypes ▸ hholds .typeName, (hothers.trans hmodules) ▸ hholds .moduleName⟩

end Journal

end CodeKeyboard
