import CodeKeyboard.Proofs.Journal
import Mathlib.Data.List.Induction

/-!
# A history survives a restart (specification §3)

While values are recorded the history in memory is ahead of its row whenever the store refuses a
write, and level with it again after the next write that succeeds, since each write saves the whole
history. So if the last value that was news was saved, then so was all that came before it, and a
new history on the same store becomes the old one by loading. Nothing is cut away by that: within a
limit of at least six values, as many as the longest list of first values, all buckets fit.

- `Journal.CaughtUp`: the row holds the history.
- `Journal.caughtUp_or_untouched`: so it does when the last news was saved, unless there was no news
  at all; by induction on the values from the end, since the last news decides.
- `Journal.survives_restart`: in either case a new history loads what the old one has.
-/

namespace CodeKeyboard

namespace Journal

/-! ## News -/

/-- The fillings that are news when they are recorded one after the other. -/
def news (journal : Journal) : List Filling → List Filling
  | [] => []
  | filling :: rest =>
    if (journal.recording filling).changed then filling :: (journal.record filling).news rest
    else (journal.record filling).news rest

/-- The journal after recording some fillings. -/
def recordAll (journal : Journal) (fillings : List Filling) : Journal :=
  journal.after (fillings.map .record)

theorem recordAll_concat (journal : Journal) (fillings : List Filling) (last : Filling) :
    journal.recordAll (fillings ++ [last]) = (journal.recordAll fillings).record last := by
  rw [recordAll, List.map_append]
  exact after_concat journal _ (.record last)

theorem news_concat (journal : Journal) (fillings : List Filling) (last : Filling) :
    journal.news (fillings ++ [last]) = journal.news fillings ++
      if ((journal.recordAll fillings).recording last).changed then [last] else [] := by
  induction fillings generalizing journal with
  | nil => rw [List.nil_append, news, news, news]; rfl
  | cons first rest ih =>
    have hrest : journal.recordAll (first :: rest) = (journal.record first).recordAll rest := rfl
    rw [List.cons_append, news, news, ih, hrest]
    split <;> rfl

variable {journal : Journal} {key : Text} {limit : Int}

/-! ## Level with the row -/

/-- The row holds the history as it is in memory. -/
def CaughtUp (key : Text) (journal : Journal) : Prop :=
  journal.store.get? key = .ok (some journal.history.saved)

/-- **A history that its row holds is loaded as it is.** -/
theorem Steady.load_fresh (h : journal.Steady key limit) (hcaught : journal.CaughtUp key) :
    ∃ warnings, (History.fresh key limit).load journal.store = .ok (journal.history, warnings) := by
  have hdepth : ∀ text, some journal.history.saved = some text →
      Json.read text ≠ .error .tooDeep := by
    rintro text ⟨⟩
    rw [History.read_saved]
    exact fun h => nomatch h
  refine History.exists_load_of_merged hcaught hdepth h.key_eq h.limit_eq fun merged hmerged => ?_
  funext kind
  calc merged kind
    _ = Offset.before (journal.history.buckets kind) limit :=
      hmerged.held kind _ (History.held_saved _ kind)
    _ = journal.history.buckets kind := Offset.before_of_length_le (h.fits kind)

/-- If the last news was saved the row holds the history; without news nothing has happened. -/
theorem caughtUp_or_untouched (hlimit : 0 ≤ limit) (h : journal.Steady key limit)
    (fillings : List Filling)
    (hlast : ∀ last, (journal.news fillings).getLast? = some last → last.refused = false) :
    (journal.recordAll fillings).CaughtUp key ∨
      (journal.news fillings = [] ∧ (journal.recordAll fillings).history = journal.history ∧
        (journal.recordAll fillings).store.get? key = journal.store.get? key) := by
  induction fillings using List.reverseRecOn with
  | nil => exact .inr ⟨rfl, rfl, rfl⟩
  | append_singleton fillings last ih =>
    have hsteady : (journal.recordAll fillings).Steady key limit := h.after hlimit _
    obtain ⟨row, hrow⟩ := hsteady.readable
    rw [recordAll_concat]
    rw [news_concat] at hlast ⊢
    obtain ⟨-, heq⟩ | ⟨-, hrefused, heq⟩ | ⟨-, -, after, hsaved, heq⟩ :=
      recording_cases (hsteady.key_eq ▸ hrow) last
    · -- no news: the history and the row are those of before
      rw [heq, if_neg Bool.false_ne_true, List.append_nil] at hlast ⊢
      rw [record, heq]
      exact ih hlast
    · -- the last news was refused, against the assumption
      rw [heq, if_pos rfl, List.getLast?_concat] at hlast
      rw [hlast last rfl] at hrefused
      cases hrefused
    · rw [record, heq]
      exact .inl (hsteady.key_eq ▸ hsaved)

/-! ## Restart -/

/-- Whether what is saved can be loaded. -/
def Loads (journal : Journal) : Prop :=
  ∃ loaded warnings, journal.history.load journal.store = .ok (loaded, warnings)

theorem history_load_of_ok {loaded : History} {warnings : List Warning}
    (h : journal.history.load journal.store = .ok (loaded, warnings)) :
    journal.load.history = loaded := by
  rw [load, h]

theorem history_load_congr {other : Journal} (hhistory : journal.history = other.history)
    (hload : journal.history.load journal.store = other.history.load other.store) :
    journal.load.history = other.load.history := by
  unfold load
  rw [hload]
  split
  · rfl
  · exact hhistory

/-- **A history survives a restart.** From any store and within any limit of at least six, load a
history and record any values, while the store refuses some of the writes. If it did not refuse the
last value that was news, a new history on the store becomes the old one by loading, the values of
refused writes included; and it can be loaded whenever the old one could, and whenever there was
news. -/
theorem survives_restart (hlimit : 6 ≤ limit) (backend : Backend) (rows : Assoc Text Text)
    (key : Text) (fillings : List Filling)
    (hlast : ∀ last,
      ((fresh (Store.opened backend rows) key limit).load.news fillings).getLast? = some last →
        last.refused = false) :
    let first := fresh (Store.opened backend rows) key limit
    let journal := first.load.recordAll fillings
    let second := fresh journal.store key limit
    second.load.history = journal.history ∧
      (first.Loads ∨ first.load.news fillings ≠ [] → second.Loads) := by
  intro first journal second
  have hsteady : first.load.Steady key limit :=
    (Steady.fresh hlimit backend rows key).load (by omega)
  obtain hcaught | ⟨hnews, hhistory, hrow⟩ :=
    caughtUp_or_untouched (by omega) hsteady fillings hlast
  · have hlater : journal.Steady key limit := hsteady.after (by omega) _
    obtain ⟨warnings, hload⟩ := hlater.load_fresh hcaught
    exact ⟨history_load_of_ok hload, fun _ => ⟨_, _, hload⟩⟩
  · -- nothing was recorded, so the second history finds what the first one found
    rw [store_load] at hrow
    have hsame : second.history.load second.store = first.history.load first.store :=
      History.load_congr hrow
    have hloaded : second.load.history = first.load.history := history_load_congr rfl hsame
    refine ⟨hloaded.trans hhistory.symm, ?_⟩
    rintro (⟨loaded, warnings, hload⟩ | hsome)
    · exact ⟨loaded, warnings, hsame.trans hload⟩
    · exact absurd hnews hsome

/-- The first of two values is refused and saved with the second one. A blank value is no news, so
it does not matter that it is refused. -/
theorem survives_restart_after_a_refusal :
    let row : Text := "\x7b\"types\": [\"a\"], \"modules\": [1]\x7d"
    let first := fresh (Store.opened .memory [(History.usualKey, row)]) History.usualKey 6
    let fillings : List Filling :=
      [⟨.typeName, "b", true⟩, ⟨.className, "Node", false⟩, ⟨.className, " ", true⟩]
    let second := fresh (first.load.recordAll fillings).store History.usualKey 6
    first.load.news fillings = [⟨.typeName, "b", true⟩, ⟨.className, "Node", false⟩] ∧
      second.load.history.values .typeName = [("b" : Text), ("a" : Text)] := by
  intro row first fillings second
  have hnews : first.load.news fillings =
      [⟨.typeName, "b", true⟩, ⟨.className, "Node", false⟩] := by
    decide +kernel
  have hlast : ∀ last, (first.load.news fillings).getLast? = some last → last.refused = false := by
    rw [hnews]
    rintro last ⟨⟩
    rfl
  have hvalues : (first.load.recordAll fillings).history.values .typeName =
      [("b" : Text), ("a" : Text)] := by
    decide +kernel
  have hrestart := survives_restart (by decide) .memory [(History.usualKey, row)]
    History.usualKey fillings hlast
  exact ⟨hnews, (congrArg (History.values · .typeName) hrestart.1).trans hvalues⟩

end Journal

end CodeKeyboard
