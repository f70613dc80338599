import CodeKeyboard.Prediction

/-!
# The order of predictions

Predictions are shown in an order that their scores determine but for equal ones, and equal ones
keep the order of the pool. `Prediction.Ordered` says so without a way to sort: the same
predictions, the best first, and those of any one score as they were given.

- `Prediction.exists_ordered`: what is shown are the first ones in that order.
- `Prediction.rank_congr`: what ranking reads of a context.
-/

namespace CodeKeyboard

namespace Prediction

/-- **The same predictions, the best first**, and those of one score in the order given. -/
structure Ordered (given ordered : List Prediction) : Prop where
  perm : ordered.Perm given
  descending : ordered.Pairwise fun p q => q.score ≤ p.score
  stable : ∀ score, ordered.filter (·.score = score) = given.filter (·.score = score)

section Sorting

variable {α : Type} (key : α → Score)

/-- The order by a key, the best first, as `List.mergeSort` takes it. -/
def byKey (a b : α) : Bool :=
  decide (key b ≤ key a)

theorem byKey_trans (a b c : α) (hab : byKey key a b = true) (hbc : byKey key b c = true) :
    byKey key a c = true :=
  decide_eq_true (Rat.le_trans (of_decide_eq_true hbc) (of_decide_eq_true hab))

theorem byKey_total (a b : α) : (byKey key a b || byKey key b a) = true := by
  rw [Bool.or_eq_true, byKey, byKey, decide_eq_true_eq, decide_eq_true_eq]
  exact Rat.le_total

theorem descending_mergeSort (given : List α) :
    (given.mergeSort (byKey key)).Pairwise fun a b => key b ≤ key a :=
  (List.pairwise_mergeSort (byKey_trans key) (byKey_total key) given).imp of_decide_eq_true

/-- Those of one key are in order already, and sorting keeps them so. -/
theorem filter_mergeSort (given : List α) (score : Score) :
    (given.mergeSort (byKey key)).filter (key · = score) = given.filter (key · = score) := by
  have hequal : (given.filter (key · = score)).Pairwise fun a b => byKey key a b = true := by
    refine List.pairwise_iff_forall_sublist.2 fun {a b} hab => ?_
    have ha : key a = score := by simpa using (List.mem_filter.1 (hab.subset (by simp))).2
    have hb : key b = score := by simpa using (List.mem_filter.1 (hab.subset (by simp))).2
    rw [byKey, ha, hb]
    exact decide_eq_true Rat.le_refl
  have hkept := (List.sublist_mergeSort (byKey_trans key) (byKey_total key) hequal
    List.filter_sublist).filter (key · = score)
  rw [List.filter_filter] at hkept
  simp only [Bool.and_self] at hkept
  have hperm := List.mergeSort_perm given (byKey key)
  exact (hkept.eq_of_length (hperm.filter _).length_eq.symm).symm

end Sorting

theorem ordered_mergeSort (given : List Prediction) :
    Ordered given (given.mergeSort (byKey score)) where
  perm := List.mergeSort_perm given _
  descending := descending_mergeSort score given
  stable := filter_mergeSort score given

/-- What is shown are the first ones of those that score, in order, whatever scores the idioms
give. -/
theorem exists_ordered_rankBy (idiom : Text → Score) (language : Language) (context : Context)
    (pool : List Button) (limit : Int) :
    ∃ ordered, Ordered (scoredBy idiom language context pool) ordered ∧
      rankBy idiom language context pool limit = ordered.take limit.toNat :=
  ⟨_, ordered_mergeSort _, rfl⟩

/-- What is shown are the first ones of those that score, in order. -/
theorem exists_ordered (language : Language) (context : Context) (pool : List Button)
    (limit : Int) :
    ∃ ordered, Ordered (scored language context pool) ordered ∧
      rank language context pool limit = ordered.take limit.toNat :=
  exists_ordered_rankBy (idiomScore language context) language context pool limit

/-- Within a limit that is great enough all of them are shown, in order. -/
theorem ordered_rankBy {idiom : Text → Score} {language : Language} {context : Context}
    {pool : List Button} {limit : Int}
    (h : (scoredBy idiom language context pool).length ≤ limit.toNat) :
    Ordered (scoredBy idiom language context pool)
      (rankBy idiom language context pool limit) := by
  obtain ⟨ordered, hordered, hrank⟩ := exists_ordered_rankBy idiom language context pool limit
  rw [hrank, List.take_of_length_le (hordered.perm.length_eq ▸ h)]
  exact hordered

theorem rank_perm_scored {language : Language} {context : Context} {pool : List Button}
    {limit : Int} (h : (scored language context pool).length ≤ limit.toNat) :
    (rank language context pool limit).Perm (scored language context pool) :=
  (ordered_rankBy h).perm

theorem mem_scored_of_mem_rank {language : Language} {context : Context} {pool : List Button}
    {limit : Int} {p : Prediction} (h : p ∈ rank language context pool limit) :
    p ∈ scored language context pool := by
  obtain ⟨ordered, hordered, hrank⟩ := exists_ordered language context pool limit
  rw [hrank] at h
  exact hordered.perm.mem_iff.1 (List.mem_of_mem_take h)

theorem button_of_ofScored? {button : Button} {p : Prediction} {scored : Score × Option Reason}
    (h : ofScored? button scored = some p) : p.button = button := by
  obtain ⟨score, reason⟩ := scored
  cases reason with
  | none => cases h
  | some reason =>
    cases h
    rfl

/-- What is shown are buttons of the pool. -/
theorem button_mem_of_mem_rank {language : Language} {context : Context} {pool : List Button}
    {limit : Int} {p : Prediction} (h : p ∈ rank language context pool limit) :
    p.button ∈ pool := by
  obtain ⟨button, hbutton, hscored⟩ := List.mem_filterMap.1 (mem_scored_of_mem_rank h)
  rw [button_of_ofScored? hscored]
  exact hbutton

/-- **What ranking reads of a context**: the last word, whether the line is blank, the pending
operator, whether a call is open, and the suggestions for the line. -/
theorem rank_congr {language : Language} {context context' : Context}
    (hword : context.lastWord = context'.lastWord)
    (hblank : context.onBlankLine = context'.onBlankLine)
    (hoperator : Operator.pending? context.line = Operator.pending? context'.line)
    (hcall : openCallEnd.accepts context.line = openCallEnd.accepts context'.line)
    (hhits : (Cascade.forKey language.key).suggestions context.line =
      (Cascade.forKey language.key).suggestions context'.line)
    (pool : List Button) (limit : Int) :
    rank language context pool limit = rank language context' pool limit := by
  have hfollowers : followers language context = followers language context' := by
    simp only [followers, hoperator, hword, hcall]
  simp only [rank, rankBy, scoredBy, hfollowers, hhits, starterScore, hblank]

end Prediction

end CodeKeyboard
