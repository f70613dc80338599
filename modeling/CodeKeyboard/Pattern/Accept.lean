import CodeKeyboard.Pattern.Basic

/-!
# Deciding a pattern

`Pattern.accepts` decides whether a pattern describes a text by reading it from left to right. Its
state is the list of the patterns of which one must describe what is left; reading a character
replaces each pattern by its remainders after that character. There are only as many different
remainders as the pattern has parts, so the state stays small.

Main statement: `accepts_iff`, the decision agrees with `Matches`.
-/

namespace CodeKeyboard.Pattern

/-- Whether the pattern describes the empty text. -/
def acceptsEmpty : Pattern → Bool
  | never => false
  | nothing => true
  | one _ => false
  | seq p q => p.acceptsEmpty && q.acceptsEmpty
  | alt p q => p.acceptsEmpty || q.acceptsEmpty
  | many _ => true

/-- `p` followed by `q`, without a part that is known to be empty. -/
def followedBy (q : Pattern) : Pattern → Pattern
  | nothing => q
  | p => seq p q

/-- The patterns of which one must describe the rest of a text that begins with `c`. -/
def after (c : Char) : Pattern → List Pattern
  | never => []
  | nothing => []
  | one a => if a.contains c then [nothing] else []
  | seq p q =>
    (p.after c).map (followedBy q) ++ (if p.acceptsEmpty then q.after c else [])
  | alt p q => p.after c ++ q.after c
  | many p => (p.after c).map (followedBy (many p))

/-- The remainders of all the patterns after one character, each once. -/
def advance (state : List Pattern) (c : Char) : List Pattern :=
  (state.flatMap (after c)).eraseDups

/-- Whether the pattern describes the whole text. -/
def accepts (p : Pattern) (s : Text) : Bool :=
  (s.foldl advance [p]).any acceptsEmpty

/-! ## The decision agrees with the meaning -/

theorem acceptsEmpty_iff {p : Pattern} : p.acceptsEmpty = true ↔ Matches p [] := by
  induction p with
  | never => simp [acceptsEmpty]
  | nothing => simp [acceptsEmpty]
  | one a => simp [acceptsEmpty]
  | seq p q ihp ihq =>
    rw [acceptsEmpty, Bool.and_eq_true, ihp, ihq, matches_seq]
    constructor
    · rintro ⟨hp, hq⟩
      exact ⟨[], [], hp, hq, rfl⟩
    · rintro ⟨t, u, hp, hq, e⟩
      obtain ⟨rfl, rfl⟩ := List.append_eq_nil_iff.1 e.symm
      exact ⟨hp, hq⟩
  | alt p q ihp ihq => simp [acceptsEmpty, ihp, ihq]
  | many p _ => simp [acceptsEmpty, Matches.done]

theorem matches_followedBy {p q : Pattern} {s : Text} :
    Matches (followedBy q p) s ↔ Matches (seq p q) s := by
  cases p <;> simp [followedBy, matches_seq]

theorem exists_matches_map_followedBy {ps : List Pattern} {q : Pattern} {s : Text} :
    (∃ r ∈ ps.map (followedBy q), Matches r s) ↔
      ∃ t u, (∃ p ∈ ps, Matches p t) ∧ Matches q u ∧ s = t ++ u := by
  simp only [List.mem_map]
  constructor
  · rintro ⟨_, ⟨p, hp, rfl⟩, h⟩
    obtain ⟨t, u, ht, hu, e⟩ := matches_seq.1 (matches_followedBy.1 h)
    exact ⟨t, u, ⟨p, hp, ht⟩, hu, e⟩
  · rintro ⟨t, u, ⟨p, hp, ht⟩, hu, e⟩
    exact ⟨_, ⟨p, hp, rfl⟩, matches_followedBy.2 (matches_seq.2 ⟨t, u, ht, hu, e⟩)⟩

theorem exists_matches_after {p : Pattern} {c : Char} {s : Text} :
    (∃ r ∈ p.after c, Matches r s) ↔ Matches p (c :: s) := by
  induction p generalizing s with
  | never => simp [after]
  | nothing => simp [after]
  | one a =>
    simp only [matches_one, List.cons.injEq]
    constructor
    · rintro ⟨r, hr, h⟩
      by_cases hc : a.contains c
      · simp only [after, hc, if_true, List.mem_singleton] at hr
        exact ⟨c, hc, rfl, matches_nothing.1 (hr ▸ h)⟩
      · simp [after, hc] at hr
    · rintro ⟨d, hd, rfl, rfl⟩
      exact ⟨nothing, by simp [after, hd], .nothing⟩
  | seq p q ihp ihq =>
    simp only [after, List.mem_append, or_and_right, exists_or, exists_matches_map_followedBy, ihp]
    rw [matches_seq]
    constructor
    · rintro (⟨t, u, ht, hu, rfl⟩ | h)
      · exact ⟨c :: t, u, ht, hu, rfl⟩
      · by_cases he : p.acceptsEmpty
        · rw [if_pos he, ihq] at h
          exact ⟨[], c :: s, acceptsEmpty_iff.1 he, h, rfl⟩
        · simp [he] at h
    · rintro ⟨t, u, ht, hu, e⟩
      cases t with
      | nil =>
        refine .inr ?_
        rw [if_pos (acceptsEmpty_iff.2 ht), ihq, e]
        exact hu
      | cons d t =>
        obtain ⟨rfl, rfl⟩ : c = d ∧ s = t ++ u := by simpa using e
        exact .inl ⟨t, u, ht, hu, rfl⟩
  | alt p q ihp ihq =>
    simp only [after, List.mem_append, or_and_right, exists_or, ihp, ihq, matches_alt]
  | many p ih =>
    simp only [after, exists_matches_map_followedBy, ih, matches_many_cons]

theorem exists_matches_advance {state : List Pattern} {c : Char} {s : Text} :
    (∃ r ∈ advance state c, Matches r s) ↔ ∃ p ∈ state, Matches p (c :: s) := by
  simp only [advance, List.mem_eraseDups, List.mem_flatMap]
  constructor
  · rintro ⟨r, ⟨p, hp, hr⟩, h⟩
    exact ⟨p, hp, exists_matches_after.1 ⟨r, hr, h⟩⟩
  · rintro ⟨p, hp, h⟩
    obtain ⟨r, hr, h⟩ := exists_matches_after.2 h
    exact ⟨r, ⟨p, hp, hr⟩, h⟩

theorem any_acceptsEmpty_foldl_advance {state : List Pattern} {s : Text} :
    (s.foldl advance state).any acceptsEmpty = true ↔ ∃ p ∈ state, Matches p s := by
  induction s generalizing state with
  | nil => simp [acceptsEmpty_iff]
  | cons c s ih => rw [List.foldl_cons, ih, exists_matches_advance]

/-- Reading a text decides whether the pattern describes it. -/
theorem accepts_iff {p : Pattern} {s : Text} : p.accepts s = true ↔ Matches p s := by
  rw [accepts, any_acceptsEmpty_foldl_advance]
  simp

instance (p : Pattern) (s : Text) : Decidable (Matches p s) :=
  decidable_of_iff _ accepts_iff

end CodeKeyboard.Pattern
