import CodeKeyboard.Session
import Mathlib.Data.List.Basic
import Mathlib.Data.List.Sort

/-!
# What may be filled in (specification §4.4)

The usual values of a language are listed first, then the history. A bucket may repeat values, since
what was saved is taken as it is, and it may hold usual values as well. Reading it from the front
with the list of what is there already, a value is passed over when it is listed and is listed from
then on when it is not. So the invariant says for any such list what the rest of the bucket adds.

- `Buckets.Adds`: what a bucket adds to a list of values. `Adds.pass` and `Adds.take` are its steps.
- `Buckets.adds_unlisted`: what the history adds, however often it repeats a value.
- `History.suggestionsFor_eq_iff`: the suggestions are the usual values and what the history adds to
  them, and asking for them changes nothing.
-/

namespace CodeKeyboard

namespace Buckets

/-- The values of a bucket that are not listed yet, each once. -/
def unlisted (listed bucket : List Text) : List Text :=
  (bucket.filter fun value => value ∉ listed).eraseDups

/-- The first occurrence of a value in a bucket comes before that of the other one. -/
def OccursBefore (bucket : List Text) (value later : Text) : Prop :=
  bucket.idxOf value < bucket.idxOf later

/-- **What a bucket adds to a list of values.** -/
structure Adds (listed bucket further : List Text) : Prop where
  /-- Nothing but what the bucket has and the list has not, and all of it. -/
  mem_iff : ∀ value, value ∈ further ↔ value ∈ bucket ∧ value ∉ listed
  /-- Nothing twice. -/
  nodup : further.Nodup
  /-- In the order in which the values first occur in the bucket. -/
  ordered : further.Pairwise (OccursBefore bucket)

variable {listed bucket further : List Text} {value : Text}

/-- First occurrences keep their order behind one value more, if it is another one. -/
theorem pairwise_occursBefore_cons (h : further.Pairwise (OccursBefore bucket))
    (hother : ∀ added ∈ further, value ≠ added) :
    further.Pairwise (OccursBefore (value :: bucket)) := by
  refine h.imp_of_mem fun {added later} hadded hlater hlt => ?_
  rw [OccursBefore, List.idxOf_cons_ne _ (hother added hadded),
    List.idxOf_cons_ne _ (hother later hlater)]
  exact Nat.succ_lt_succ hlt

/-- A bucket can add only one list of values. -/
theorem Adds.unique {other : List Text} (h : Adds listed bucket further)
    (hother : Adds listed bucket other) : further = other := by
  have : Std.Irrefl (OccursBefore bucket) := ⟨fun value => Nat.lt_irrefl _⟩
  have : Std.Antisymm (OccursBefore bucket) :=
    ⟨fun value later hlt hgt => absurd hgt (Nat.lt_asymm hlt)⟩
  refine h.ordered.eq_of_mem_iff hother.ordered fun value => ?_
  rw [h.mem_iff, hother.mem_iff]

/-! ## One value more in front -/

/-- In front of the bucket stands a value that is listed already: nothing is added for it. -/
theorem Adds.pass (h : Adds listed bucket further) (hlisted : value ∈ listed) :
    Adds listed (value :: bucket) further := by
  have hne : ∀ added ∈ further, value ≠ added := by
    rintro added hadded rfl
    exact ((h.mem_iff value).1 hadded).2 hlisted
  refine ⟨fun added => ?_, h.nodup, pairwise_occursBefore_cons h.ordered hne⟩
  rw [h.mem_iff, List.mem_cons]
  constructor
  · rintro ⟨hbucket, hnew⟩
    exact ⟨.inr hbucket, hnew⟩
  · rintro ⟨rfl | hbucket, hnew⟩
    · exact absurd hlisted hnew
    · exact ⟨hbucket, hnew⟩

/-- In front of the bucket stands a value that is not listed: it is added, and listed from then
on. -/
theorem Adds.take (h : Adds (value :: listed) bucket further) (hnew : value ∉ listed) :
    Adds listed (value :: bucket) (value :: further) := by
  have hne : ∀ added ∈ further, value ≠ added := by
    rintro added hadded rfl
    exact ((h.mem_iff value).1 hadded).2 List.mem_cons_self
  refine ⟨fun added => ?_, ?_, ?_⟩
  · rw [List.mem_cons, List.mem_cons, h.mem_iff, List.mem_cons]
    by_cases hadded : added = value
    · subst hadded
      simp [hnew]
    · simp [hadded]
  · exact List.nodup_cons.2 ⟨fun hmem => hne value hmem rfl, h.nodup⟩
  · refine List.pairwise_cons.2 ⟨fun added hadded => ?_, pairwise_occursBefore_cons h.ordered hne⟩
    rw [OccursBefore, List.idxOf_cons_self, List.idxOf_cons_ne _ (hne added hadded)]
    exact Nat.succ_pos _

/-! ## The whole bucket -/

/-- A value that is listed is passed over, and any other is taken and listed from then on. -/
theorem unlisted_cons (listed bucket : List Text) (value : Text) :
    unlisted listed (value :: bucket) =
      if value ∈ listed then unlisted listed bucket
      else value :: unlisted (value :: listed) bucket := by
  by_cases hlisted : value ∈ listed
  · rw [if_pos hlisted, unlisted, List.filter_cons_of_neg (by simpa using hlisted), unlisted]
  · have hrest : (bucket.filter fun later => later ∉ listed).filter (fun later => !later == value) =
        bucket.filter fun later => later ∉ value :: listed := by
      rw [List.filter_filter]
      refine List.filter_congr fun later _ => ?_
      by_cases hlater : later = value <;> simp [hlater]
    rw [if_neg hlisted, unlisted, List.filter_cons_of_pos (by simpa using hlisted),
      List.eraseDups_cons, hrest, unlisted]

/-- **The values that are not listed are what the bucket adds**, whatever repeats in it. -/
theorem adds_unlisted (listed bucket : List Text) :
    Adds listed bucket (unlisted listed bucket) := by
  induction bucket generalizing listed with
  | nil => exact ⟨fun value => by simp [unlisted], List.nodup_nil, List.Pairwise.nil⟩
  | cons value bucket ih =>
    rw [unlisted_cons]
    by_cases hlisted : value ∈ listed
    · rw [if_pos hlisted]
      exact (ih listed).pass hlisted
    · rw [if_neg hlisted]
      exact (ih (value :: listed)).take hlisted

end Buckets

namespace History

open Buckets

/-- **Suggestions lose and repeat nothing**, for every history, kind and language. They are the
usual values as the language lists them, and after them what the history adds. A session that asks
for them is told so, and neither its history nor anything else of it changes. -/
theorem suggestionsFor_eq_iff (history : History) (kind : PlaceholderKind) (language : Language) :
    (∀ suggestions, history.suggestionsFor kind language = suggestions ↔
      ∃ further, suggestions = language.fills kind ++ further ∧
        Adds (language.fills kind) (history.values kind) further) ∧
    ∀ (session : Session) (choice : LanguageChoice),
      session.step (.suggest kind.name choice) =
        ⟨.ok (.texts (session.engine.history.suggestionsFor kind (session.language choice))), [],
          session⟩ := by
  have hadds := adds_unlisted (language.fills kind) (history.values kind)
  have hsplit : history.suggestionsFor kind language =
      language.fills kind ++ unlisted (language.fills kind) (history.values kind) := rfl
  refine ⟨fun suggestions => ⟨?_, ?_⟩, fun session choice => ?_⟩
  · rintro rfl
    exact ⟨_, hsplit, hadds⟩
  · rintro ⟨further, rfl, hfurther⟩
    rw [hsplit, hadds.unique hfurther]
  · have hkind : PlaceholderKind.parse? kind.name = some kind := by
      cases kind <;> decide
    show session.withKind kind.name _ = _
    rw [Session.withKind, hkind]
    rfl

/-- Two modules that a saved history repeats, one of which is usual. -/
example :
    let saved : History := ⟨usualKey, usualLimit,
      Buckets.seeds.replace .moduleName ["re", "os", "re", "abc", "os"]⟩
    saved.suggestionsFor .moduleName Language.python =
      ["os", "sys", "math", "random", "json", "collections", "re", "abc"] := by
  decide

end History

end CodeKeyboard
