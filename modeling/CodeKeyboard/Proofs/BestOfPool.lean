import CodeKeyboard.Proofs.Ranking

/-!
# The best buttons of a pool (specification §4.3)

A pool may have the same button more than once, and different buttons may score alike, so a list of
predictions does not tell where in the pool each of them stands. Here every prediction carries its
place. A pool then has one order, `Placed.Before`: the greater score first, and of equal scores the
earlier place. What is shown is the beginning of the pool in that order, as long as the limit allows
or as there are buttons that score.

- `Best`: what it is to be the best buttons of a pool for a limit.
- `placed`: the predictions of a pool with their places; sorting them is sorting the predictions
  (`map_mergeSort_placed`), in the order `Placed.Before` (`before_mergeSort`).
- `rank_best`: the predictions of a pool are the best ones, whatever scores the idioms give.
-/

namespace CodeKeyboard

namespace Prediction

/-- A prediction with the place of its button in the pool. -/
structure Placed where
  /-- Where the button stands in the pool. -/
  place : Nat
  prediction : Prediction

/-- The score of what stands at a place. -/
def Placed.score (entry : Placed) : Score :=
  entry.prediction.score

/-- **The order of a pool**: a greater score first, and of equal scores the earlier place. -/
def Placed.Before (a b : Placed) : Prop :=
  b.score < a.score ∨ b.score = a.score ∧ a.place < b.place

/-- **The best buttons of a pool for a limit**, where `score` gives each label its score and the
reason for it. -/
structure Best (score : Text → Score × Option Reason) (pool : List Button) (limit : Int)
    (shown : List Placed) : Prop where
  /-- As many as the limit allows, or all that score. -/
  length : shown.length =
    Nat.min limit.toNat (pool.countP fun button => decide (0 < (score button.label).1))
  /-- No place is shown twice. -/
  distinct : (shown.map Placed.place).Nodup
  /-- Each is the button at its place, with its own score and reason. -/
  scored : ∀ entry ∈ shown, pool[entry.place]? = some entry.prediction.button ∧
    0 < entry.score ∧
    score entry.prediction.button.label = (entry.score, some entry.prediction.reason)
  /-- They stand in the order of the pool. -/
  ordered : shown.Pairwise Placed.Before
  /-- A button that scores and is left out comes after all that are shown. -/
  leftOut : ∀ place button, pool[place]? = some button → 0 < (score button.label).1 →
    place ∉ shown.map Placed.place → ∀ entry ∈ shown,
      (score button.label).1 < entry.score ∨
        (score button.label).1 = entry.score ∧ entry.place < place

/-! ## Scores and reasons -/

/-- A score that is worth something has its reason, and nothing else has one. -/
theorem firstWorth_cases (follower idiom starter : Score) :
    (firstWorth follower idiom starter = (0, none)) ∨
      ∃ score reason, firstWorth follower idiom starter = (score, some reason) ∧ 0 < score := by
  rw [firstWorth]
  by_cases hfollower : 0 < follower
  · exact .inr ⟨follower, .contextual, if_pos hfollower, hfollower⟩
  · rw [if_neg hfollower]
    by_cases hidiom : 0 < idiom
    · exact .inr ⟨idiom, .idiom, if_pos hidiom, hidiom⟩
    · rw [if_neg hidiom]
      by_cases hstarter : 0 < starter
      · exact .inr ⟨starter, .newLine, if_pos hstarter, hstarter⟩
      · exact .inl (if_neg hstarter)

theorem scoreBy_cases (idiom : Text → Score) (language : Language) (context : Context)
    (label : Text) :
    scoreBy idiom language context label = (0, none) ∨
      ∃ score reason, scoreBy idiom language context label = (score, some reason) ∧ 0 < score :=
  firstWorth_cases _ _ _

variable {idiom : Text → Score} {language : Language} {context : Context} {pool : List Button}

theorem ofScored?_scoreBy_iff {button : Button} {p : Prediction} :
    ofScored? button (scoreBy idiom language context button.label) = some p ↔
      p.button = button ∧ 0 < p.score ∧
        scoreBy idiom language context button.label = (p.score, some p.reason) := by
  rcases scoreBy_cases idiom language context button.label with
    hnone | ⟨score, reason, hsome, hpos⟩
  · rw [hnone]
    simp [ofScored?]
  · rw [hsome]
    constructor
    · intro h
      cases h
      exact ⟨rfl, hpos, rfl⟩
    · rintro ⟨rfl, -, h⟩
      cases h
      rfl

theorem isSome_ofScored?_scoreBy (button : Button) :
    (ofScored? button (scoreBy idiom language context button.label)).isSome =
      decide (0 < (scoreBy idiom language context button.label).1) := by
  rcases scoreBy_cases idiom language context button.label with
    hnone | ⟨score, reason, hsome, hpos⟩
  · rw [hnone]
    rfl
  · rw [hsome]
    exact (decide_eq_true hpos).symm

/-! ## Predictions with their places -/

/-- The predictions of a pool with their places. -/
def placed (idiom : Text → Score) (language : Language) (context : Context)
    (pool : List Button) : List Placed :=
  pool.zipIdx.filterMap fun (button, place) =>
    (ofScored? button (scoreBy idiom language context button.label)).map (Placed.mk place)

theorem map_prediction_placed :
    (placed idiom language context pool).map Placed.prediction =
      scoredBy idiom language context pool := by
  calc (placed idiom language context pool).map Placed.prediction
    _ = pool.zipIdx.filterMap fun entry =>
          ofScored? entry.1 (scoreBy idiom language context entry.1.label) := by
        rw [placed, List.map_filterMap]
        simp [Function.comp_def]
    _ = (pool.zipIdx.map Prod.fst).filterMap fun button =>
          ofScored? button (scoreBy idiom language context button.label) := by
        rw [List.filterMap_map]
        rfl
    _ = scoredBy idiom language context pool := by
        rw [List.zipIdx_map_fst, scoredBy_eq_filterMap]

theorem mem_placed_iff {entry : Placed} :
    entry ∈ placed idiom language context pool ↔
      pool[entry.place]? = some entry.prediction.button ∧ 0 < entry.score ∧
        scoreBy idiom language context entry.prediction.button.label =
          (entry.score, some entry.prediction.reason) := by
  simp only [placed, List.mem_filterMap, Prod.exists, Option.map_eq_some_iff]
  constructor
  · rintro ⟨button, place, hmem, p, hp, rfl⟩
    obtain ⟨rfl, hscore⟩ := ofScored?_scoreBy_iff.1 hp
    exact ⟨List.mem_zipIdx_iff_getElem?.1 hmem, hscore⟩
  · rintro ⟨hplace, hscore⟩
    exact ⟨entry.prediction.button, entry.place, List.mem_zipIdx_iff_getElem?.2 hplace,
      entry.prediction, ofScored?_scoreBy_iff.2 ⟨rfl, hscore⟩, rfl⟩

theorem pairwise_place_placed :
    (placed idiom language context pool).Pairwise fun a b => a.place < b.place := by
  have hplaces : pool.zipIdx.Pairwise fun a b => a.2 < b.2 := by
    rw [← List.pairwise_map (f := Prod.snd), List.zipIdx_map_snd]
    exact List.pairwise_lt_range'
  refine hplaces.filterMap _ fun a a' ha b hb b' hb' => ?_
  obtain ⟨p, -, rfl⟩ := Option.map_eq_some_iff.1 hb
  obtain ⟨p', -, rfl⟩ := Option.map_eq_some_iff.1 hb'
  exact ha

theorem length_placed : (placed idiom language context pool).length =
    pool.countP fun button => decide (0 < (scoreBy idiom language context button.label).1) := by
  rw [← List.length_map Placed.prediction, map_prediction_placed, scoredBy_eq_filterMap,
    List.length_filterMap_eq_countP]
  simp only [isSome_ofScored?_scoreBy]

/-! ## Sorting with places -/

/-- The predictions of a pool with their places, in the order of the pool. -/
def sortedPlaced (idiom : Text → Score) (language : Language) (context : Context)
    (pool : List Button) : List Placed :=
  (placed idiom language context pool).mergeSort (byKey Placed.score)

/-- Without their places these are the sorted predictions. -/
theorem map_prediction_sortedPlaced :
    (sortedPlaced idiom language context pool).map Placed.prediction =
      (scoredBy idiom language context pool).mergeSort (byKey score) := by
  have hkey : ∀ a ∈ placed idiom language context pool, ∀ b ∈ placed idiom language context pool,
      byKey Placed.score a b = byKey score a.prediction b.prediction := fun _ _ _ _ => rfl
  rw [sortedPlaced, List.map_mergeSort hkey, map_prediction_placed]

theorem sortedPlaced_perm :
    (sortedPlaced idiom language context pool).Perm (placed idiom language context pool) :=
  List.mergeSort_perm _ _

/-- Sorting by the scores alone leaves equal ones in the order of their places. -/
theorem pairwise_before_sortedPlaced :
    (sortedPlaced idiom language context pool).Pairwise Placed.Before := by
  refine List.pairwise_iff_forall_sublist.2 fun {a b} hab => ?_
  have hle : b.score ≤ a.score :=
    List.pairwise_iff_forall_sublist.1 (descending_mergeSort Placed.score _) hab
  by_cases hequal : b.score = a.score
  · -- two of one score are a part of all of that score, and those are in the order of the pool
    have hpair := hab.filter (fun entry => decide (entry.score = a.score))
    rw [List.filter_eq_self.2 (by simp [hequal]), sortedPlaced, filter_mergeSort] at hpair
    have hsub := hpair.trans List.filter_sublist
    exact .inr ⟨hequal, List.pairwise_iff_forall_sublist.1 pairwise_place_placed hsub⟩
  · exact .inl (Rat.lt_of_le_of_ne hle hequal)

/-- **The beginning of a pool in its order is the best of it.** -/
theorem best_take_sortedPlaced (idiom : Text → Score) (language : Language) (context : Context)
    (pool : List Button) (limit : Int) :
    Best (scoreBy idiom language context) pool limit
      ((sortedPlaced idiom language context pool).take limit.toNat) where
  length := by
    rw [List.length_take, sortedPlaced_perm.length_eq, length_placed]
  distinct := by
    have hnodup : ((placed idiom language context pool).map Placed.place).Nodup :=
      List.pairwise_map.2 (pairwise_place_placed.imp Nat.ne_of_lt)
    have hsorted := (sortedPlaced_perm.map Placed.place).nodup_iff.2 hnodup
    exact hsorted.sublist ((List.take_sublist _ _).map _)
  scored := fun entry hentry =>
    mem_placed_iff.1 (sortedPlaced_perm.mem_iff.1 (List.mem_of_mem_take hentry))
  ordered := pairwise_before_sortedPlaced.sublist (List.take_sublist _ _)
  leftOut := by
    intro place button hplace hpos hout entry hentry
    -- a button that scores is in the list that is sorted
    have hsome : (ofScored? button (scoreBy idiom language context button.label)).isSome := by
      rw [isSome_ofScored?_scoreBy]
      exact decide_eq_true hpos
    obtain ⟨p, hp⟩ := Option.isSome_iff_exists.1 hsome
    obtain ⟨rfl, hscore⟩ := ofScored?_scoreBy_iff.1 hp
    have hmem : Placed.mk place p ∈ sortedPlaced idiom language context pool :=
      sortedPlaced_perm.mem_iff.2 (mem_placed_iff.2 ⟨hplace, hscore⟩)
    -- it is left out, so it stands in the rest
    rw [← List.take_append_drop limit.toNat (sortedPlaced idiom language context pool),
      List.mem_append] at hmem
    have hrest := hmem.resolve_left fun h => hout (List.mem_map_of_mem h)
    have hordered : (sortedPlaced idiom language context pool).Pairwise Placed.Before :=
      pairwise_before_sortedPlaced
    rw [← List.take_append_drop limit.toNat (sortedPlaced idiom language context pool),
      List.pairwise_append] at hordered
    have hbefore := hordered.2.2 entry hentry _ hrest
    rw [hscore.2]
    exact hbefore

/-- What is shown without the places. -/
theorem map_prediction_take_sortedPlaced (idiom : Text → Score) (language : Language)
    (context : Context) (pool : List Button) (limit : Int) :
    rankBy idiom language context pool limit =
      ((sortedPlaced idiom language context pool).take limit.toNat).map Placed.prediction := by
  rw [List.map_take, map_prediction_sortedPlaced]
  rfl

/-- **What is shown are the best buttons of the pool.** The predictions of a pool, for any limit and
any scores that the idioms give, are the best ones with their places left out. They are so with the
idioms that the language has. -/
theorem rank_best (language : Language) (context : Context) (pool : List Button) (limit : Int) :
    (∀ idiom : Text → Score, ∃ shown, Best (scoreBy idiom language context) pool limit shown ∧
        rankBy idiom language context pool limit = shown.map Placed.prediction) ∧
      ∃ shown, Best (scoreOf language context) pool limit shown ∧
        rank language context pool limit = shown.map Placed.prediction := by
  have hbest : ∀ idiom : Text → Score, ∃ shown,
      Best (scoreBy idiom language context) pool limit shown ∧
        rankBy idiom language context pool limit = shown.map Placed.prediction :=
    fun idiom => ⟨_, best_take_sortedPlaced idiom language context pool limit,
      map_prediction_take_sortedPlaced idiom language context pool limit⟩
  refine ⟨hbest, ?_⟩
  rw [rank_eq_rankBy]
  exact hbest (idiomScore language context)

end Prediction

end CodeKeyboard
