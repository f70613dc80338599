import CodeKeyboard.Proofs.OpenCallAffinity
import CodeKeyboard.Proofs.PlaceScore
import CodeKeyboard.Proofs.Ranking

/-!
# Buttons in the order of the followers (specification §4.3)

The context selects one list of followers: that of the operator that waits for a value, or else that
of the last word. Of the labels among its first ten the earlier one scores more, and any of them
scores more than nothing, so the first rule decides for them and the list is the order in which
their buttons are shown. The list may repeat labels, and labels that differ in case are the same.

- `Selected`: which list the context selects; `followers` is that list (`selected_iff`).
- `FirstAt`: where a label first stands in a list; `placeOf?` finds it (`placeOf?_eq_some_iff`).
- `shownBefore_rankBy`: of two buttons that score as followers the better is shown before the other.
- `shown_in_order_of_followers`: so the order of the list is the order of the buttons.
-/

namespace CodeKeyboard

namespace Prediction

open Text

/-! ## The list that a context selects -/

/-- The language lists no label for the key. -/
def NothingListed (language : Language) (key : Text) : Prop :=
  ∀ labels, language.followers.lookup key = some labels → labels = []

/-- **What follows a word.** -/
inductive FollowsWord (language : Language) (word : Text) : List Text → Prop where
  /-- Nothing follows where no word stands. -/
  | noWord (hword : word = []) : FollowsWord language word []
  /-- The labels that are listed for the word. -/
  | exact {labels : List Text} (hword : word ≠ [])
      (hlist : language.followers.lookup word = some labels) (hsome : labels ≠ []) :
      FollowsWord language word labels
  /-- Else what is listed for its case folding, be it empty. -/
  | folded {labels : List Text} (hword : word ≠ []) (hexact : NothingListed language word)
      (hlist : language.followers.lookup (foldCase word) = some labels) :
      FollowsWord language word labels
  /-- Else what is listed for the last part of a dotted name. -/
  | dotted (hword : word ≠ []) (hexact : NothingListed language word)
      (hfolded : language.followers.lookup (foldCase word) = none) (hdot : '.' ∈ word) :
      FollowsWord language word
        ((language.followers.lookup ('.' :: afterLast '.' word)).getD [])
  /-- Else nothing. -/
  | unlisted (hword : word ≠ []) (hexact : NothingListed language word)
      (hfolded : language.followers.lookup (foldCase word) = none) (hdot : '.' ∉ word) :
      FollowsWord language word []

/-- **The list of followers that a context selects.** -/
inductive Selected (language : Language) (context : Context) : List Text → Prop where
  /-- The labels that are listed for the pending operator. -/
  | operator {op : Text} {labels : List Text} (hop : Operator.pending? context.line = some op)
      (hlist : language.followers.lookup op = some labels) (hsome : labels ≠ []) :
      Selected language context labels
  /-- Else, where an operator is pending, those of the plain assignment. -/
  | assignment {op : Text} (hop : Operator.pending? context.line = some op)
      (hexact : NothingListed language op) :
      Selected language context ((language.followers.lookup ("=" : Text)).getD [])
  /-- Nothing follows a variable in an open call. -/
  | openCall (hop : Operator.pending? context.line = none)
      (hword : context.lastWord = variableWord) (hcall : CallAtEnd context.line) :
      Selected language context []
  /-- Else what follows the last word. -/
  | word {labels : List Text} (hop : Operator.pending? context.line = none)
      (hcall : ¬ (context.lastWord = variableWord ∧ CallAtEnd context.line))
      (hlist : FollowsWord language context.lastWord labels) : Selected language context labels

variable {language : Language} {context : Context} {labels : List Text} {word label : Text}

/-- A key has labels, or nothing is listed for it. -/
theorem lookup_cases (language : Language) (key : Text) :
    (∃ label labels, language.followers.lookup key = some (label :: labels)) ∨
      NothingListed language key := by
  cases hlist : language.followers.lookup key with
  | none => exact .inr fun labels h => by rw [hlist] at h; cases h
  | some labels =>
    cases labels with
    | nil =>
      refine .inr fun labels h => ?_
      rw [hlist] at h
      cases h
      rfl
    | cons label labels => exact .inl ⟨label, labels, rfl⟩

theorem followersOf_of_nothingListed (hword : word ≠ []) (hexact : NothingListed language word) :
    followersOf language word =
      match language.followers.lookup (foldCase word) with
      | some labels => labels
      | none =>
        if '.' ∈ word then (language.followers.lookup ('.' :: afterLast '.' word)).getD []
        else [] := by
  rw [followersOf, if_neg (by simpa using hword)]
  cases hlist : language.followers.lookup word with
  | none => rfl
  | some labels =>
    have hnil := hexact labels hlist
    subst hnil
    rfl

theorem FollowsWord.followersOf_eq (h : FollowsWord language word labels) :
    followersOf language word = labels := by
  cases h with
  | noWord hword => rw [hword]; rfl
  | exact hword hlist hsome =>
    obtain ⟨label, labels, rfl⟩ := List.exists_cons_of_ne_nil hsome
    rw [followersOf, if_neg (by simpa using hword), hlist]
  | folded hword hexact hlist => rw [followersOf_of_nothingListed hword hexact, hlist]
  | dotted hword hexact hfolded hdot =>
    simp only [followersOf_of_nothingListed hword hexact, hfolded, if_pos hdot]
  | unlisted hword hexact hfolded hdot =>
    simp only [followersOf_of_nothingListed hword hexact, hfolded, if_neg hdot]

theorem followsWord_followersOf (language : Language) (word : Text) :
    FollowsWord language word (followersOf language word) := by
  by_cases hword : word = []
  · subst hword
    exact .noWord rfl
  · rcases lookup_cases language word with ⟨label, labels, hlist⟩ | hexact
    · rw [(FollowsWord.exact hword hlist (List.cons_ne_nil _ _)).followersOf_eq]
      exact .exact hword hlist (List.cons_ne_nil _ _)
    · cases hfolded : language.followers.lookup (foldCase word) with
      | some labels =>
        rw [(FollowsWord.folded hword hexact hfolded).followersOf_eq]
        exact .folded hword hexact hfolded
      | none =>
        by_cases hdot : '.' ∈ word
        · rw [(FollowsWord.dotted hword hexact hfolded hdot).followersOf_eq]
          exact .dotted hword hexact hfolded hdot
        · rw [(FollowsWord.unlisted hword hexact hfolded hdot).followersOf_eq]
          exact .unlisted hword hexact hfolded hdot

theorem Selected.followers_eq (h : Selected language context labels) :
    followers language context = labels := by
  cases h with
  | operator hop hlist hsome =>
    obtain ⟨label, labels, rfl⟩ := List.exists_cons_of_ne_nil hsome
    simp only [followers, hop, followersOfOperator, hlist]
  | @assignment op hop hexact =>
    simp only [followers, hop, followersOfOperator]
    cases hlist : language.followers.lookup op with
    | none => rfl
    | some labels =>
      have hnil := hexact labels hlist
      subst hnil
      rfl
  | openCall hop hword hcall =>
    simp [followers, hop, hword, accepts_openCallEnd_iff.2 hcall]
  | word hop hcall hlist =>
    have hopen : (decide (context.lastWord = variableWord) &&
        openCallEnd.accepts context.line) = false := by
      rw [Bool.eq_false_iff, ne_eq, Bool.and_eq_true, decide_eq_true_eq, accepts_openCallEnd_iff]
      exact hcall
    simp only [followers, hop, hopen, Bool.false_eq_true, if_false, hlist.followersOf_eq]

theorem exists_selected (language : Language) (context : Context) :
    ∃ labels, Selected language context labels := by
  cases hop : Operator.pending? context.line with
  | some op =>
    rcases lookup_cases language op with ⟨label, labels, hlist⟩ | hexact
    · exact ⟨_, .operator hop hlist (List.cons_ne_nil _ _)⟩
    · exact ⟨_, .assignment hop hexact⟩
  | none =>
    by_cases hcall : context.lastWord = variableWord ∧ CallAtEnd context.line
    · exact ⟨_, .openCall hop hcall.1 hcall.2⟩
    · exact ⟨_, .word hop hcall (followsWord_followersOf _ _)⟩

/-- **The followers are the list that the context selects.** -/
theorem selected_iff : Selected language context labels ↔ followers language context = labels := by
  constructor
  · exact Selected.followers_eq
  · rintro rfl
    obtain ⟨labels, hlabels⟩ := exists_selected language context
    exact hlabels.followers_eq ▸ hlabels

/-! ## The place of a label -/

/-- **The label first stands at a place of a list**, where differences of case do not count. -/
def FirstAt (labels : List Text) (label : Text) (place : Nat) : Prop :=
  (∃ entry, labels[place]? = some entry ∧ foldCase entry = foldCase label) ∧
    ∀ earlier < place, ∀ entry, labels[earlier]? = some entry → foldCase entry ≠ foldCase label

theorem placeOf?_eq_some_iff {place : Nat} :
    placeOf? labels label = some place ↔ FirstAt labels label place := by
  rw [placeOf?, List.findIdx?_eq_some_iff_getElem]
  constructor
  · rintro ⟨hplace, hsame, hbefore⟩
    refine ⟨⟨labels[place], List.getElem?_eq_getElem hplace, by simpa using hsame⟩, ?_⟩
    intro earlier hearlier entry hentry
    obtain ⟨hlt, rfl⟩ := List.getElem?_eq_some_iff.1 hentry
    simpa using hbefore earlier hearlier
  · rintro ⟨⟨entry, hentry, hsame⟩, hbefore⟩
    obtain ⟨hplace, rfl⟩ := List.getElem?_eq_some_iff.1 hentry
    refine ⟨hplace, by simpa using hsame, fun earlier hearlier => ?_⟩
    simpa using hbefore earlier hearlier _ (List.getElem?_eq_getElem (hearlier.trans hplace))

theorem placeOf?_eq_none_iff :
    placeOf? labels label = none ↔ ∀ entry ∈ labels, foldCase entry ≠ foldCase label := by
  simp [placeOf?, List.findIdx?_eq_none_iff]

/-- A label scores as a follower by its place in the list that is selected. -/
theorem followerScore_of_firstAt {place : Nat} (hlabels : Selected language context labels)
    (h : FirstAt labels label place) :
    followerScore language context label = Score.ofPlace place := by
  rw [followerScore, placeScore, hlabels.followers_eq, placeOf?_eq_some_iff.2 h]

theorem followerScore_of_absent (hlabels : Selected language context labels)
    (h : ∀ entry ∈ labels, foldCase entry ≠ foldCase label) :
    followerScore language context label = 0 := by
  rw [followerScore, placeScore, hlabels.followers_eq, placeOf?_eq_none_iff.2 h]

/-! ## The order of the buttons -/

/-- **One button is shown before another**, both as what plausibly follows. -/
structure ShownBefore (shown : List Prediction) (first second : Button) : Prop where
  /-- The one is shown. -/
  first_shown : ∃ p ∈ shown, p.button = first
  /-- The other is shown. -/
  second_shown : ∃ p ∈ shown, p.button = second
  /-- Neither is shown for another reason. -/
  reason : ∀ p ∈ shown, p.button = first ∨ p.button = second → p.reason = .contextual
  /-- Wherever they stand, the one comes before the other. -/
  order : ∀ (i j : Nat) (p q : Prediction), shown[i]? = some p → shown[j]? = some q →
    p.button = first → q.button = second → i < j

variable {idiom : Text → Score} {pool : List Button} {limit : Int} {button first second : Button}

/-- The prediction of a button that scores as a follower. -/
theorem scoreBy_of_follower (h : 0 < followerScore language context label) :
    scoreBy idiom language context label =
      (followerScore language context label, some .contextual) :=
  if_pos h

theorem mem_scoredBy_of_follower (hbutton : button ∈ pool)
    (h : 0 < followerScore language context button.label) :
    ⟨button, followerScore language context button.label, .contextual⟩ ∈
      scoredBy idiom language context pool := by
  rw [scoredBy_eq_filterMap]
  refine List.mem_filterMap.2 ⟨button, hbutton, ?_⟩
  rw [scoreBy_of_follower h]
  rfl

theorem eq_of_mem_scoredBy_of_follower {p : Prediction}
    (hp : p ∈ scoredBy idiom language context pool)
    (h : 0 < followerScore language context p.button.label) :
    p = ⟨p.button, followerScore language context p.button.label, .contextual⟩ := by
  rw [scoredBy_eq_filterMap] at hp
  obtain ⟨button, -, hscored⟩ := List.mem_filterMap.1 hp
  have hbutton : p.button = button := button_of_ofScored? hscored
  rw [← hbutton, scoreBy_of_follower h] at hscored
  exact (Option.some.inj hscored).symm

/-- **Of two buttons that score as followers the better is shown before the other**, within a limit
that leaves nothing out. -/
theorem shownBefore_rankBy (hpos : 0 < followerScore language context second.label)
    (hlt : followerScore language context second.label <
      followerScore language context first.label)
    (hfirst : first ∈ pool) (hsecond : second ∈ pool) (hlimit : (pool.length : Int) ≤ limit) :
    ShownBefore (rankBy idiom language context pool limit) first second := by
  have hfirstPos : 0 < followerScore language context first.label := hpos.trans hlt
  have hlength : (scoredBy idiom language context pool).length ≤ limit.toNat := by
    have hkept : (scoredBy idiom language context pool).length ≤ pool.length := by
      rw [scoredBy_eq_filterMap]
      exact List.length_filterMap_le _ _
    omega
  have hordered := ordered_rankBy hlength
  -- what is shown of either button is its score as a follower
  have hshown : ∀ p ∈ rankBy idiom language context pool limit, ∀ button, p.button = button →
      0 < followerScore language context button.label →
      p = ⟨button, followerScore language context button.label, .contextual⟩ := by
    rintro p hp _ rfl h
    exact eq_of_mem_scoredBy_of_follower (hordered.perm.mem_iff.1 hp) h
  refine ⟨⟨_, hordered.perm.mem_iff.2 (mem_scoredBy_of_follower hfirst hfirstPos), rfl⟩,
    ⟨_, hordered.perm.mem_iff.2 (mem_scoredBy_of_follower hsecond hpos), rfl⟩, ?_, ?_⟩
  · rintro p hp (hbutton | hbutton)
    · rw [hshown p hp first hbutton hfirstPos]
    · rw [hshown p hp second hbutton hpos]
  · intro i j p q hp hq hbutton hbutton'
    have hscore : q.score < p.score := by
      rw [hshown p (List.mem_of_getElem? hp) first hbutton hfirstPos,
        hshown q (List.mem_of_getElem? hq) second hbutton' hpos]
      exact hlt
    -- at or before the place of the one nothing scores less than it
    obtain ⟨hi, rfl⟩ := List.getElem?_eq_some_iff.1 hp
    obtain ⟨hj, rfl⟩ := List.getElem?_eq_some_iff.1 hq
    by_contra hle
    rcases Nat.eq_or_lt_of_le (Nat.le_of_not_lt hle) with heq | hbefore
    · subst heq
      exact Rat.lt_irrefl hscore
    · exact Rat.not_le.2 hscore (List.pairwise_iff_getElem.1 hordered.descending j i hj hi hbefore)

/-- **Buttons are shown in the order of the followers.** Of two labels that first stand among the
first ten of the list that the context selects, both score as followers and the earlier scores more.
So of their buttons in a pool that the limit does not cut, both are shown for that reason and that
of the earlier label is shown first, whatever scores the idioms give. A label that is not in the
list, or first stands further back, scores nothing as a follower. -/
theorem shown_in_order_of_followers (hlabels : Selected language context labels) :
    (∀ (first second : Button) (i j : Nat), FirstAt labels first.label i →
        FirstAt labels second.label j → i < j → j < 10 →
      0 < followerScore language context second.label ∧
        followerScore language context second.label < followerScore language context first.label ∧
        ∀ (pool : List Button) (limit : Int), first ∈ pool → second ∈ pool →
          (pool.length : Int) ≤ limit →
          ShownBefore (rank language context pool limit) first second ∧
            ∀ idiom, ShownBefore (rankBy idiom language context pool limit) first second) ∧
      ∀ label, ((∀ entry ∈ labels, foldCase entry ≠ foldCase label) ∨
          ∃ place, 10 ≤ place ∧ FirstAt labels label place) →
        followerScore language context label = 0 := by
  constructor
  · intro first second i j hi hj hij hj10
    obtain ⟨hlt, hpos⟩ := Score.ofPlace_lt_ofPlace i (hij.trans hj10) j hj10 hij
    rw [← followerScore_of_firstAt hlabels hj] at hlt hpos
    rw [← followerScore_of_firstAt hlabels hi] at hlt
    refine ⟨hpos, hlt, fun pool limit hfirst hsecond hlimit => ⟨?_, fun idiom => ?_⟩⟩
    · rw [rank_eq_rankBy]
      exact shownBefore_rankBy hpos hlt hfirst hsecond hlimit
    · exact shownBefore_rankBy hpos hlt hfirst hsecond hlimit
  · rintro label (habsent | ⟨place, hplace, hfirstAt⟩)
    · exact followerScore_of_absent hlabels habsent
    · rw [followerScore_of_firstAt hlabels hfirstAt, Score.ofPlace_eq_zero hplace]

/-- After `total += ` the labels of the plain assignment follow: a variable in capitals and the call
of `int` are shown in that order, and `bool`, the eleventh label, scores nothing. -/
theorem shown_in_order_after_compound_assignment :
    (0 < followerScore .python (Context.atEnd "total += ") "int" ∧
      followerScore .python (Context.atEnd "total += ") "int" <
        followerScore .python (Context.atEnd "total += ") "VAR" ∧
      ShownBefore
        (rank .python (Context.atEnd "total += ") [⟨"b2", "int", "int("⟩, ⟨"b1", "VAR", "x"⟩] 2)
        ⟨"b1", "VAR", "x"⟩ ⟨"b2", "int", "int("⟩) ∧
      followerScore .python (Context.atEnd "total += ") "bool" = 0 := by
  have hop : Operator.pending? (Context.atEnd "total += ").line = some "+=" := by decide +kernel
  have hunlisted : Language.python.followers.lookup ("+=" : Text) = none := by decide +kernel
  have hexact : NothingListed .python "+=" := by
    intro labels hlist
    rw [hunlisted] at hlist
    cases hlist
  have hlabels : Selected .python (Context.atEnd "total += ")
      ((Language.python.followers.lookup ("=" : Text)).getD []) :=
    .assignment hop hexact
  have hfirst : FirstAt ((Language.python.followers.lookup ("=" : Text)).getD []) "VAR" 0 :=
    placeOf?_eq_some_iff.1 (by decide +kernel)
  have hsecond : FirstAt ((Language.python.followers.lookup ("=" : Text)).getD []) "int" 7 :=
    placeOf?_eq_some_iff.1 (by decide +kernel)
  have hfar : FirstAt ((Language.python.followers.lookup ("=" : Text)).getD []) "bool" 10 :=
    placeOf?_eq_some_iff.1 (by decide +kernel)
  obtain ⟨horder, hnothing⟩ := shown_in_order_of_followers hlabels
  obtain ⟨hpos, hlt, hshown⟩ := horder ⟨"b1", "VAR", "x"⟩ ⟨"b2", "int", "int("⟩ 0 7 hfirst hsecond
    (by decide) (by decide)
  exact ⟨⟨hpos, hlt, (hshown _ 2 (by decide) (by decide) (by decide)).1⟩,
    hnothing "bool" (.inr ⟨10, by decide, hfar⟩)⟩

end Prediction

end CodeKeyboard
