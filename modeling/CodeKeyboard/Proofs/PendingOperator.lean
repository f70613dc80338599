import CodeKeyboard.Operator

/-!
# The pending operator, read from the end of the line (specification §4.3)

The pending operator is looked for from left to right: the first place counts where an assignment
operator stands with only blanks after it and no sign of a comparison before it. Only the end of a
line can hold such a place, so the same operator is told by reading backwards. Blanks apart, three
characters are enough: of `<+=` the plain assignment is left, since a compound one may not follow
the sign of a comparison, and of `<=` nothing is.

- `Operator.alone?_eq_some_iff`: what the search asks for at each place.
- `Operator.pendingAfter_append_pair`: it finds nothing before the last two characters.
- `Operator.EndsIn`: the decision from the end, one case for each way in which a line ends.
- `Operator.pending?_iff_endsIn`: the search decides so, on every line.
-/

namespace CodeKeyboard

namespace Operator

open Text

/-! ## What the search asks for at a place -/

variable {s w op : Text} {c d : Char}

theorem trimEnd_of_mem_assignments : ∀ op ∈ assignments, op.trimEnd = op := by
  decide

theorem getLast?_of_mem_assignments : ∀ op ∈ assignments, op.getLast? = some '=' := by
  decide

theorem length_le_of_mem_assignments : ∀ op ∈ assignments, op.length ≤ 2 := by
  decide

/-- A text consists of an operator, but for blanks after it, when trimming leaves the operator. -/
theorem isPrefixOf_and_allBlank_iff (hop : op ∈ assignments) :
    (op.isPrefixOf s && allBlank (s.drop op.length)) = true ↔ s.trimEnd = op := by
  rw [Bool.and_eq_true, List.isPrefixOf_iff_prefix]
  constructor
  · rintro ⟨⟨w, rfl⟩, hw⟩
    rw [List.drop_left] at hw
    rw [trimEnd_append_of_allBlank hw, trimEnd_of_mem_assignments op hop]
  · rintro rfl
    obtain ⟨w, hw, hs⟩ := exists_trimEnd_append s
    have hdrop := congrArg (List.drop s.trimEnd.length) hs
    rw [List.drop_left] at hdrop
    exact ⟨⟨w, hs.symm⟩, by rw [hdrop]; exact hw⟩

theorem alone?_eq_some_iff : alone? s = some op ↔ op ∈ assignments ∧ s.trimEnd = op := by
  constructor
  · intro h
    have hop := List.mem_of_find?_eq_some h
    have htest := List.find?_some h
    exact ⟨hop, (isPrefixOf_and_allBlank_iff hop).1 htest⟩
  · rintro ⟨hop, hs⟩
    -- trimming leaves one text only, so an operator that is found is this one
    have hsome : (alone? s).isSome := by
      rw [alone?, List.find?_isSome]
      exact ⟨op, hop, (isPrefixOf_and_allBlank_iff hop).2 hs⟩
    obtain ⟨found, hfound⟩ := Option.isSome_iff_exists.1 hsome
    have hmem := List.mem_of_find?_eq_some hfound
    have htest := List.find?_some hfound
    rw [hfound, ← (isPrefixOf_and_allBlank_iff hmem).1 htest, hs]

theorem alone?_append_of_allBlank (hw : allBlank w = true) (s : Text) :
    alone? (s ++ w) = alone? s := by
  ext op
  rw [alone?_eq_some_iff, alone?_eq_some_iff, trimEnd_append_of_allBlank hw]

/-! ## Where the search finds something -/

/-- Blanks at the end of a line make no difference. -/
theorem pendingAfter_append_of_allBlank (hw : allBlank w = true) (previous : Option Char)
    (s : Text) : pendingAfter previous (s ++ w) = pendingAfter previous s := by
  have hblank : ∀ previous, pendingAfter previous w = none := by
    induction w with
    | nil => exact fun _ => rfl
    | cons c w ih =>
      intro previous
      have halone : alone? (c :: w) = none := alone?_append_of_allBlank hw []
      rw [allBlank, List.all_cons, Bool.and_eq_true] at hw
      rw [pendingAfter, halone, ih hw.2, Option.or_none, ite_self]
  induction s generalizing previous with
  | nil => exact hblank previous
  | cons c s ih =>
    have halone := alone?_append_of_allBlank hw (c :: s)
    rw [List.cons_append] at halone ⊢
    rw [pendingAfter, pendingAfter, halone, ih]

/-- What is found ends the line. -/
theorem isSuffix_of_pendingAfter {previous : Option Char}
    (h : pendingAfter previous s = some op) : op ∈ assignments ∧ op <:+ s.trimEnd := by
  induction s generalizing previous with
  | nil => cases h
  | cons c s ih =>
    have hlater (h : pendingAfter (some c) s = some op) :
        op ∈ assignments ∧ op <:+ trimEnd (c :: s) := by
      obtain ⟨hop, hsuffix⟩ := ih h
      refine ⟨hop, ?_⟩
      rw [trimEnd]
      split
      · next hnil =>
        rw [hnil, List.suffix_nil] at hsuffix
        rw [hsuffix]
        exact List.nil_suffix
      · exact hsuffix.trans (List.suffix_cons c _)
    rw [pendingAfter] at h
    split at h
    · exact hlater h
    · rcases Option.or_eq_some_iff.1 h with halone | ⟨-, hrest⟩
      · obtain ⟨hop, hs⟩ := alone?_eq_some_iff.1 halone
        exact ⟨hop, hs ▸ List.suffix_rfl⟩
      · exact hlater hrest

/-- Nothing is found before the last two characters: what stands there is longer than any operator,
so all that matters of it is its last character. -/
theorem pendingAfter_append_pair (hd : isBlank d = false) (previous : Option Char) (front : Text) :
    pendingAfter previous (front ++ [c, d]) =
      pendingAfter (front.getLast?.or previous) [c, d] := by
  induction front generalizing previous with
  | nil => rfl
  | cons e front ih =>
    have hlast : ((e :: front) ++ [c, d]).getLast? = some d := by
      rw [List.getLast?_append]
      rfl
    have halone : alone? (e :: (front ++ [c, d])) = none := by
      rw [Option.eq_none_iff_forall_ne_some]
      intro op h
      obtain ⟨hop, hs⟩ := alone?_eq_some_iff.1 h
      rw [← List.cons_append, trimEnd_of_getLast? hlast hd] at hs
      have hlength := length_le_of_mem_assignments op hop
      rw [← hs, List.length_append] at hlength
      simp at hlength
    have hprevious : front.getLast?.or (some e) = (e :: front).getLast?.or previous := by
      rw [List.getLast?_cons]
      cases front.getLast? <;> rfl
    rw [List.cons_append, pendingAfter, halone, Option.none_or, ite_self, ih, hprevious]

/-! ## The last characters of a line -/

/-- The signs that an equals sign makes compound assignments of. -/
def compounds : Text := "+-*/%"

/-- **The operator that a line ends in**, read from its end. The line has no blanks there. -/
inductive EndsIn : Text → Option Text → Prop where
  /-- It ends in no equals sign. -/
  | other {s : Text} (hlast : s.getLast? ≠ some '=') : EndsIn s none
  /-- It ends in a compound assignment that does not follow the sign of a comparison. -/
  | compound {front : Text} {c : Char} (hc : c ∈ compounds)
      (hfront : front.getLast?.any opensComparison = false) :
      EndsIn (front ++ [c, '=']) (some [c, '='])
  /-- It ends in a comparison. -/
  | comparison {front : Text} {c : Char} (hc : opensComparison c = true) :
      EndsIn (front ++ [c, '=']) none
  /-- It ends in an equals sign that neither of them ends with. -/
  | plain {front : Text} (hfront : front.getLast?.any opensComparison = false)
      (hcompound : ∀ before c, front = before ++ [c] → c ∈ compounds →
        before.getLast?.any opensComparison = true) :
      EndsIn (front ++ ['=']) (some ['='])

theorem alone?_pair (c : Char) :
    alone? [c, '='] = if c ∈ compounds then some [c, '='] else none := by
  have htrim : trimEnd [c, '='] = [c, '='] := trimEnd_of_getLast? rfl rfl
  have hmem : [c, '='] ∈ assignments ↔ c ∈ compounds := by
    simp [assignments, compounds]
  ext op
  rw [alone?_eq_some_iff, htrim]
  split
  · next hc =>
    rw [Option.some.injEq]
    exact ⟨And.right, fun hop => ⟨hop ▸ hmem.2 hc, hop⟩⟩
  · next hc =>
    refine iff_of_false ?_ (nomatch ·)
    rintro ⟨hop, rfl⟩
    exact hc (hmem.1 hop)

/-- What is found in the last two characters, the second one an equals sign. -/
theorem pendingAfter_pair (previous : Option Char) (c : Char) :
    pendingAfter previous [c, '='] =
      if previous.any opensComparison = false ∧ c ∈ compounds then some [c, '=']
      else if opensComparison c then none else some ['='] := by
  have hplain : pendingAfter (some c) ['='] = if opensComparison c then none else some ['='] := rfl
  rw [pendingAfter, hplain, alone?_pair]
  cases hprevious : previous.any opensComparison
  · by_cases hc : c ∈ compounds <;> simp [hc]
  · simp

theorem opensComparison_of_mem_compounds (hc : c ∈ compounds) : opensComparison c = false := by
  have hall : compounds.all (!opensComparison ·) = true := by decide
  simpa using List.all_eq_true.1 hall c hc

/-- The end of a line decides which operator is pending. -/
theorem EndsIn.pending?_eq {op : Option Text} (hs : s.trimEnd = s) (h : EndsIn s op) :
    pending? s = op := by
  have hpair (front : Text) (c : Char) :
      pending? (front ++ [c, '=']) = pendingAfter front.getLast? [c, '='] := by
    rw [pending?, pendingAfter_append_pair rfl, Option.or_none]
  cases h with
  | other hlast =>
    rw [Option.eq_none_iff_forall_ne_some]
    intro op hop
    obtain ⟨hmem, front, hsuffix⟩ := isSuffix_of_pendingAfter hop
    apply hlast
    rw [← hs, ← hsuffix, List.getLast?_append, getLast?_of_mem_assignments op hmem, Option.some_or]
  | compound hc hfront => rw [hpair, pendingAfter_pair, if_pos ⟨hfront, hc⟩]
  | @comparison front c hc =>
    have hother : c ∉ compounds := by
      intro hmem
      rw [opensComparison_of_mem_compounds hmem] at hc
      cases hc
    rw [hpair, pendingAfter_pair, if_neg fun h => hother h.2, if_pos hc]
  | @plain front hfront hcompound =>
    cases hlast : front.getLast? with
    | none =>
      obtain rfl := List.getLast?_eq_none_iff.1 hlast
      rfl
    | some c =>
      obtain ⟨before, rfl⟩ := List.getLast?_eq_some_iff.1 hlast
      rw [hlast, Option.any_some] at hfront
      have hnot : ¬ (before.getLast?.any opensComparison = false ∧ c ∈ compounds) := by
        rintro ⟨hbefore, hc⟩
        rw [hcompound before c rfl hc] at hbefore
        cases hbefore
      rw [List.append_assoc, List.singleton_append, hpair, pendingAfter_pair, if_neg hnot, hfront,
        if_neg Bool.false_ne_true]

/-- Every line ends in one of the four ways. -/
theorem exists_endsIn (s : Text) : ∃ op, EndsIn s op := by
  by_cases hlast : s.getLast? = some '='
  · obtain ⟨front, rfl⟩ := List.getLast?_eq_some_iff.1 hlast
    by_cases hcompound : ∃ before c, front = before ++ [c] ∧ c ∈ compounds ∧
        before.getLast?.any opensComparison = false
    · obtain ⟨before, c, rfl, hc, hbefore⟩ := hcompound
      rw [List.append_assoc]
      exact ⟨_, .compound hc hbefore⟩
    · cases hopens : front.getLast?.any opensComparison with
      | true =>
        obtain ⟨c, hc, hcomparison⟩ := (Option.any_eq_true _ _).1 hopens
        obtain ⟨before, rfl⟩ := List.getLast?_eq_some_iff.1 hc
        rw [List.append_assoc]
        exact ⟨_, .comparison hcomparison⟩
      | false =>
        refine ⟨_, .plain hopens fun before c hfront hc => ?_⟩
        rw [← Bool.not_eq_false]
        exact fun hbefore => hcompound ⟨before, c, hfront, hc, hbefore⟩
  · exact ⟨none, .other hlast⟩

/-- **The pending operator is what the line ends in**, on every line. No comparison at the end of a
line leaves one. -/
theorem pending?_iff_endsIn (line : Text) :
    (∀ op, pending? line = op ↔ EndsIn line.trimEnd op) ∧
      ∀ c, opensComparison c = true → [c, '='] <:+ line.trimEnd → pending? line = none := by
  obtain ⟨w, hw, hline⟩ := exists_trimEnd_append line
  have htrim := trimEnd_append_of_allBlank hw line.trimEnd
  have hpending := pendingAfter_append_of_allBlank hw none line.trimEnd
  rw [← hline] at htrim hpending
  have hiff : ∀ op, pending? line = op ↔ EndsIn line.trimEnd op := by
    intro op
    constructor
    · rintro rfl
      obtain ⟨op, hop⟩ := exists_endsIn line.trimEnd
      rw [pending?, hpending, ← pending?, hop.pending?_eq htrim.symm]
      exact hop
    · intro h
      rw [pending?, hpending, ← pending?, h.pending?_eq htrim.symm]
  refine ⟨hiff, ?_⟩
  rintro c hc ⟨front, hfront⟩
  rw [hiff, ← hfront]
  exact .comparison hc

/-- After `total <+= ` the plain assignment is pending, and after `x <= ` nothing is. -/
theorem pending?_iff_endsIn_after_less_than :
    pending? "total <+= " = some "=" ∧
      "<=" <:+ trimEnd "x <= " ∧ pending? "x <= " = none := by
  refine ⟨((pending?_iff_endsIn "total <+= ").1 _).2 ?_, by decide,
    (pending?_iff_endsIn "x <= ").2 '<' (by decide) (by decide)⟩
  have hfront : (List.getLast? "total <+".toList).any opensComparison = false := by decide
  refine EndsIn.plain hfront fun before c hsplit _ => ?_
  have hsplit : "total <".toList ++ ['+'] = before ++ [c] := hsplit
  obtain ⟨rfl, -⟩ := List.append_inj' hsplit rfl
  decide

end Operator

end CodeKeyboard
