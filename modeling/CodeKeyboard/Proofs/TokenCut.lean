import CodeKeyboard.Proofs.TokenRegions

/-!
# Cutting a line between two tokens

The tokens of a line stay what they are when the line is cut between two of them, although the scan
looks ahead for markers and one character back for a backslash. Between two tokens it is in code
with nothing collected, so it goes on there as at the beginning of a line. And a change of state
takes no more than its own token holds, so what stands after the cut has no part in it; only a word
right before a region is classed anew when the region is cut off.

- `ScanState.next?_of_append`: what stands beyond the characters that a change takes is not asked.
- `Token.resumes_tail_scan`: the tokens after any cut are those of what is left of the line.
- `Token.KeepsBefore`, `Token.keepsBefore`: the tokens before it are those of the beginning, but for
  the class of the last one, step by step.
- `Token.classify_cut`: both, for a line and any cut.
-/

namespace CodeKeyboard

namespace ScanState

variable {lexicon : Lexicon} {state next : ScanState} {ahead more : Text}
  {here previous : Option Char} {width : Nat}

theorem isPrefixOf_append {marker : Text} (h : marker.isPrefixOf ahead = true) :
    marker.isPrefixOf (ahead ++ more) = true :=
  List.isPrefixOf_iff_prefix.2 (List.prefix_append_of_prefix (List.isPrefixOf_iff_prefix.1 h))

theorem isPrefixOf_of_append {marker : Text} (h : marker.isPrefixOf (ahead ++ more) = true)
    (hle : marker.length ≤ ahead.length) : marker.isPrefixOf ahead = true := by
  rw [List.isPrefixOf_iff_prefix] at h ⊢
  exact List.prefix_of_prefix_length_le h (List.prefix_append _ _) hle

/-- A marker that is found in all of a text is found in its beginning when it fits there. -/
theorem filter_eq_some_of {α : Type} {markers : Option α} {marker : α} {p q : α → Bool}
    (h : markers.filter p = some marker) (hq : q marker = true) :
    markers.filter q = some marker :=
  Option.filter_eq_some_iff.2 ⟨(Option.filter_eq_some_iff.1 h).1, hq⟩

/-- A marker that is not found in all of a text is not found in its beginning. -/
theorem filter_eq_none_of {α : Type} {markers : Option α} {p q : α → Bool}
    (h : markers.filter p = none) (hpq : ∀ marker, q marker = true → p marker = true) :
    markers.filter q = none :=
  Option.filter_eq_none_iff.2 fun marker hmarks hq =>
    Option.filter_eq_none_iff.1 h marker hmarks (hpq marker hq)

/-- **A change of state is decided by what it takes**: what stands beyond may be cut off. -/
theorem next?_of_append (h : state.next? lexicon (ahead ++ more) here previous = some (next, width))
    (hwidth : width ≤ ahead.length) :
    state.next? lexicon ahead here previous = some (next, width) := by
  -- a marker that is taken fits before the cut, and what is no marker is none when cut
  unfold next? at h ⊢
  cases hmode : state.mode with
  | string =>
    rw [hmode] at h
    exact h
  | code =>
    rw [hmode] at h
    dsimp only at h ⊢
    by_cases hline : (!lexicon.lineComment.isEmpty &&
        lexicon.lineComment.isPrefixOf (ahead ++ more)) = true
    · rw [if_pos hline] at h
      cases h
      rw [Bool.and_eq_true] at hline
      rw [hline.1, isPrefixOf_of_append hline.2 hwidth]
      rfl
    · have hline' : ¬ (!lexicon.lineComment.isEmpty &&
          lexicon.lineComment.isPrefixOf ahead) = true := by
        rw [Bool.and_eq_true] at hline ⊢
        exact fun hmarker => hline ⟨hmarker.1, isPrefixOf_append hmarker.2⟩
      rw [if_neg hline] at h
      rw [if_neg hline']
      split at h
      · next block hblock =>
        cases h
        have hopening := (Option.filter_eq_some_iff.1 hblock).2
        rw [filter_eq_some_of hblock (isPrefixOf_of_append hopening hwidth)]
      · next hblock =>
        rw [filter_eq_none_of hblock fun block => isPrefixOf_append]
        exact h
  | comment =>
    rw [hmode] at h
    dsimp only at h ⊢
    split at h
    · next closer hcloser =>
      cases h
      have hcloses := Bool.and_eq_true_iff.1 (Option.filter_eq_some_iff.1 hcloser).2
      rw [filter_eq_some_of hcloser (Bool.and_eq_true_iff.2
        ⟨hcloses.1, isPrefixOf_of_append hcloses.2 hwidth⟩)]
    · next hcloser =>
      rw [filter_eq_none_of hcloser fun closer hcloses => by
        rw [Bool.and_eq_true] at hcloses ⊢
        exact ⟨hcloses.1, isPrefixOf_append hcloses.2⟩]
      exact h

/-- From code a change leads into a region. -/
theorem mode_ne_code_of_next? (hmode : state.mode = .code)
    (h : state.next? lexicon ahead here previous = some (next, width + 1)) :
    next.mode ≠ .code := by
  unfold next? at h
  rw [hmode] at h
  dsimp only at h
  split at h
  · rw [Option.some_inj, Prod.mk.injEq] at h
    rw [← h.1]
    exact ScanMode.noConfusion
  split at h
  · rw [Option.some_inj, Prod.mk.injEq] at h
    rw [← h.1]
    exact ScanMode.noConfusion
  · obtain ⟨c, -, hc⟩ := Option.map_eq_some_iff.1 h
    split at hc
    · rw [Prod.mk.injEq] at hc
      rw [← hc.1]
      exact ScanMode.noConfusion
    · cases hc

/-- From a region a change leads back to the start. -/
theorem eq_start_of_next? (hmode : state.mode ≠ .code)
    (h : state.next? lexicon ahead here previous = some (next, width + 1)) : next = .start := by
  unfold next? at h
  split at h
  · next hcode => exact absurd hcode hmode
  · obtain ⟨c, -, hc⟩ := Option.map_eq_some_iff.1 h
    split at hc
    · rw [Prod.mk.injEq] at hc
      exact hc.1.symm
    · cases hc
  · split at h
    · rw [Option.some_inj, Prod.mk.injEq] at h
      exact h.1.symm
    · cases h

end ScanState

namespace Token

variable {lexicon : Lexicon} {state : ScanState} {previous : Option Char} {pending rest : Text}

/-- Where the state does not change, the change takes nothing. -/
theorem next?_of_stay {c : Char}
    (h : ∀ next width, state.next? lexicon (c :: rest) (some c) previous ≠ some (next, width + 1)) :
    ∃ next, state.next? lexicon (c :: rest) (some c) previous = some (next, 0) := by
  obtain ⟨next, width, hnext, -⟩ := ScanState.next?_of_char lexicon state c rest previous
  cases width with
  | zero => exact ⟨next, hnext⟩
  | succ width => exact absurd hnext (h next width)

/-! ## After a cut -/

/-- Every end of some tokens is what its own text is classified as. -/
def Resumes (lexicon : Lexicon) (tokens : List Token) : Prop :=
  ∀ ending, ending <:+ tokens → classify lexicon (join ending) = ending

theorem classify_nil (lexicon : Lexicon) : classify lexicon [] = [] :=
  scan_word_end lexicon none []

theorem resumes_nil (lexicon : Lexicon) : Resumes lexicon [] := by
  intro ending h
  rw [List.suffix_nil.1 h]
  exact classify_nil lexicon

theorem Resumes.of_tail {tokens : List Token} (h : classify lexicon (join tokens) = tokens)
    (htail : Resumes lexicon tokens.tail) : Resumes lexicon tokens := by
  intro ending hending
  cases tokens with
  | nil => exact resumes_nil lexicon ending hending
  | cons token tokens =>
    rcases List.suffix_cons_iff.1 hending with rfl | hending
    · exact h
    · exact htail ending hending

/-- What is scanned in code, with nothing collected, is classified on its own. -/
theorem classify_join_scan (lexicon : Lexicon) (previous : Option Char) (rest : Text) :
    classify lexicon (join (scan lexicon .start previous [] rest)) =
      scan lexicon .start previous [] rest := by
  rw [join_scan, List.nil_append]
  exact scan_start_previous lexicon none previous [] rest

/-- **After the first token of a scan the tokens are classified on their own**, wherever the scan
was in the middle of. -/
theorem resumes_tail_scan (hstate : state.mode = .code → state = .start) :
    Resumes lexicon (scan lexicon state previous pending rest).tail := by
  fun_induction scan lexicon state previous pending rest with
  | case1 state previous pending =>
    cases pending with
    | nil => exact resumes_nil lexicon
    | cons c pending => exact resumes_nil lexicon
  | case2 state previous pending c rest next width hnext taken left hmode ih =>
    have hregion := ScanState.mode_ne_code_of_next? hmode hnext
    have htail := ih fun hcode => absurd hcode hregion
    cases pending with
    | nil => exact htail
    | cons d pending =>
      -- the word before the region is the first token, and the region begins a scan of its own
      refine .of_tail ?_ htail
      obtain rfl := hstate hmode
      have hscan : scan lexicon .start previous [] (c :: rest) =
          scan lexicon next taken.getLast? taken left := scan_begins hmode hnext
      exact hscan ▸ classify_join_scan lexicon previous (c :: rest)
  | case3 state previous pending c rest next width hnext taken left hmode ih =>
    obtain rfl := ScanState.eq_start_of_next? (fun h => hmode h) hnext
    exact .of_tail (classify_join_scan lexicon _ left) (ih fun _ => rfl)
  | case4 state previous pending c rest hboundary hstay ih =>
    rw [Bool.and_eq_true, decide_eq_true_eq] at hboundary
    obtain rfl := hstate hboundary.1
    have hrest : Resumes lexicon (scan lexicon .start (some c) [] rest) :=
      .of_tail (classify_join_scan lexicon _ rest) (ih hstate)
    cases pending with
    | nil => exact hrest
    | cons d pending =>
      -- the word is the first token, and what ends it begins a scan of its own
      refine .of_tail ?_ hrest
      obtain ⟨next, hnext⟩ := next?_of_stay hstay
      have hscan : scan lexicon .start previous [] (c :: rest) =
          ⟨[c], .plain⟩ :: scan lexicon .start (some c) [] rest :=
        scan_boundary rfl hnext hboundary.2
      exact hscan ▸ classify_join_scan lexicon previous (c :: rest)
  | case5 state previous pending c rest hword hstay ih => exact ih hstate

/-! ## Before a cut -/

/-- The same tokens but for the class of the last one. -/
def SameButLastKind (tokens other : List Token) : Prop :=
  tokens.map Token.text = other.map Token.text ∧ tokens.dropLast = other.dropLast

theorem SameButLastKind.refl (tokens : List Token) : SameButLastKind tokens tokens :=
  ⟨rfl, rfl⟩

theorem SameButLastKind.cons {tokens other : List Token} (h : SameButLastKind tokens other)
    (token : Token) : SameButLastKind (token :: tokens) (token :: other) := by
  obtain ⟨htexts, hlast⟩ := h
  refine ⟨by rw [List.map_cons, List.map_cons, htexts], ?_⟩
  cases tokens with
  | nil =>
    obtain rfl := List.map_eq_nil_iff.1 htexts.symm
    rfl
  | cons first tokens =>
    cases other with
    | nil => cases htexts
    | cons first' other =>
      rw [List.dropLast_cons_of_ne_nil (List.cons_ne_nil _ _),
        List.dropLast_cons_of_ne_nil (List.cons_ne_nil _ _), hlast]

theorem SameButLastKind.collected_append {tokens other : List Token}
    (h : SameButLastKind tokens other) (kind : TokenKind) (pending : Text) :
    SameButLastKind (collected kind pending ++ tokens) (collected kind pending ++ other) := by
  cases pending with
  | nil => exact h
  | cons c pending => exact h.cons _

/-- What is collected is the beginning of the next token. -/
theorem exists_scan_eq_cons (lexicon : Lexicon) (state : ScanState) (previous : Option Char)
    (hpending : pending ≠ []) (rest : Text) :
    ∃ more kind tokens,
      scan lexicon state previous pending rest = ⟨pending ++ more, kind⟩ :: tokens := by
  fun_induction scan lexicon state previous pending rest with
  | case1 state previous pending =>
    exact ⟨[], _, [], by rw [collected_of_ne_nil _ hpending, List.append_nil]⟩
  | case2 state previous pending c rest next width hnext taken left hmode ih =>
    exact ⟨[], _, _, by rw [collected_of_ne_nil _ hpending, List.append_nil]; rfl⟩
  | case3 state previous pending c rest next width hnext taken left hmode ih =>
    exact ⟨taken, _, _, rfl⟩
  | case4 state previous pending c rest hboundary hstay ih =>
    exact ⟨[], _, _, by rw [collected_of_ne_nil _ hpending, List.append_nil]; rfl⟩
  | case5 state previous pending c rest hword hstay ih =>
    obtain ⟨more, kind, tokens, hscan⟩ := ih (List.append_ne_nil_of_right_ne_nil _ (by simp))
    exact ⟨c :: more, kind, tokens, by rw [hscan, List.append_assoc]; rfl⟩

/-- Some tokens that have no text together, although each of them has, are none. -/
theorem eq_nil_of_join {tokens : List Token} (htexts : ∀ token ∈ tokens, token.text ≠ [])
    (h : join tokens = []) : tokens = [] :=
  List.eq_nil_iff_forall_not_mem.2 fun token htoken =>
    htexts token htoken (List.flatMap_eq_nil_iff.1 h token htoken)

/-- A cut after the characters collected before some tokens cuts these tokens. -/
theorem take_collected_append {kind : TokenKind} {tokens : List Token} {k : Nat} {a : Text}
    (h : join ((collected kind pending ++ tokens).take k) = pending ++ a) :
    ∃ j, (collected kind pending ++ tokens).take k = collected kind pending ++ tokens.take j ∧
      join (tokens.take j) = a := by
  cases pending with
  | nil => exact ⟨k, rfl, h⟩
  | cons c pending =>
    cases k with
    | zero => cases h
    | succ j => exact ⟨j, rfl, List.append_cancel_left h⟩

section Taken

variable {c : Char} {a b : Text} {width : Nat}

/-- What a change takes stands before a cut when the token that it goes to does. -/
theorem le_length_of_taken {more : Text}
    (hwidth : width ≤ (a ++ b).length) (h : (c :: (a ++ b).take width) ++ more = c :: a) :
    width ≤ a.length ∧ more = a.drop width := by
  have hlength := congrArg List.length h
  rw [List.length_append, List.length_cons, List.length_cons, List.length_take,
    Nat.min_eq_left hwidth] at hlength
  have hle : width ≤ a.length := by omega
  refine ⟨hle, ?_⟩
  rw [List.take_append_of_le_length hle, List.cons_append, List.cons.injEq] at h
  exact List.append_cancel_left (h.2.trans (List.take_append_drop width a).symm)

theorem le_length_of_collected {j : Nat} (hwidth : width ≤ (a ++ b).length)
    (h : join ((scan lexicon state previous (c :: (a ++ b).take width) rest).take j) = c :: a) :
    width ≤ a.length := by
  obtain ⟨more, kind, tokens, hfirst⟩ :=
    exists_scan_eq_cons lexicon state previous (List.cons_ne_nil c ((a ++ b).take width)) rest
  cases j with
  | zero => cases h
  | succ j =>
    rw [hfirst, List.take_succ_cons, join_cons, List.append_assoc] at h
    exact (le_length_of_taken hwidth h).1

end Taken

/-! ### One step -/

/-- The tokens before a cut after `a` are those of the scan of `a`, but for the class of the last
one. -/
def KeepsBefore (lexicon : Lexicon) (state : ScanState) (previous : Option Char)
    (pending a b : Text) : Prop :=
  ∀ k, join ((scan lexicon state previous pending (a ++ b)).take k) = pending ++ a →
    SameButLastKind (scan lexicon state previous pending a)
      ((scan lexicon state previous pending (a ++ b)).take k)

/-- A cut right after what is collected leaves it as the last token. -/
theorem keepsBefore_nil (lexicon : Lexicon) (state : ScanState) (previous : Option Char)
    (pending b : Text) : KeepsBefore lexicon state previous pending [] b := by
  intro k h
  rw [List.append_nil, List.nil_append] at h
  rw [List.nil_append]
  have hend : scan lexicon state previous pending [] =
      collected (kindIn lexicon state.mode pending) pending := by rw [scan]
  rw [hend]
  by_cases hpending : pending = []
  · subst hpending
    rw [eq_nil_of_join
      (fun token htoken => text_ne_nil_of_mem_scan (List.mem_of_mem_take htoken)) h]
    exact .refl []
  · obtain ⟨more, kind, tokens, hscan⟩ := exists_scan_eq_cons lexicon state previous hpending b
    cases k with
    | zero => exact absurd h.symm hpending
    | succ k =>
      rw [hscan, List.take_succ_cons, join_cons, List.append_assoc, List.append_right_eq_self,
        List.append_eq_nil_iff] at h
      obtain ⟨rfl, hnone⟩ := h
      have htokens : tokens.take k = [] := by
        refine eq_nil_of_join (fun token htoken => ?_) hnone
        have hmem : token ∈ scan lexicon state previous pending b := by
          rw [hscan]
          exact List.mem_cons_of_mem _ (List.mem_of_mem_take htoken)
        exact text_ne_nil_of_mem_scan hmem
      rw [hscan, List.take_succ_cons, htokens, List.append_nil, collected_of_ne_nil _ hpending]
      exact ⟨rfl, rfl⟩

section Step

variable {next : ScanState} {c : Char} {a b : Text} {width : Nat}

/-- Where a region begins, its marker is in the first token after what is collected. -/
theorem keepsBefore_begins (hmode : state.mode = .code) (hfits : width ≤ (a ++ b).length)
    (hnext : state.next? lexicon (c :: (a ++ b)) (some c) previous = some (next, width + 1))
    (hrest : KeepsBefore lexicon next (c :: a.take width).getLast? (c :: a.take width)
      (a.drop width) b) :
    KeepsBefore lexicon state previous pending (c :: a) b := by
  intro k hcut
  rw [List.cons_append, scan_begins hmode hnext] at hcut ⊢
  obtain ⟨j, htake, hjoin⟩ := take_collected_append hcut
  have hle := le_length_of_collected hfits hjoin
  have hnext' : state.next? lexicon (c :: a) (some c) previous = some (next, width + 1) :=
    ScanState.next?_of_append hnext (by simpa using hle)
  rw [htake, scan_begins hmode hnext']
  refine .collected_append ?_ _ _
  rw [List.take_append_of_le_length hle, List.drop_append_of_le_length hle] at hjoin ⊢
  refine hrest j ?_
  rw [hjoin, List.cons_append, List.take_append_drop]

/-- Where a region ends, its marker is in the first token. -/
theorem keepsBefore_ends (hmode : state.mode ≠ .code) (hfits : width ≤ (a ++ b).length)
    (hnext : state.next? lexicon (c :: (a ++ b)) (some c) previous = some (next, width + 1))
    (hrest : KeepsBefore lexicon next (c :: a.take width).getLast? [] (a.drop width) b) :
    KeepsBefore lexicon state previous pending (c :: a) b := by
  intro k hcut
  rw [List.cons_append, scan_ends hmode hnext] at hcut ⊢
  cases k with
  | zero => cases List.append_ne_nil_of_right_ne_nil _ (List.cons_ne_nil _ _) hcut.symm
  | succ k =>
    rw [List.take_succ_cons, join_cons, List.append_assoc] at hcut
    obtain ⟨hle, hjoin⟩ := le_length_of_taken hfits (List.append_cancel_left hcut)
    have hnext' : state.next? lexicon (c :: a) (some c) previous = some (next, width + 1) :=
      ScanState.next?_of_append hnext (by simpa using hle)
    rw [scan_ends hmode hnext', List.take_succ_cons]
    rw [List.take_append_of_le_length hle, List.drop_append_of_le_length hle] at hjoin ⊢
    exact .cons (hrest k hjoin) _

/-- A blank or punctuation is a token of its own. -/
theorem keepsBefore_boundary (hmode : state.mode = .code) (hc : isBoundary c = true)
    (hnext : state.next? lexicon (c :: (a ++ b)) (some c) previous = some (next, 0))
    (hrest : KeepsBefore lexicon state (some c) [] a b) :
    KeepsBefore lexicon state previous pending (c :: a) b := by
  intro k hcut
  have hnext' : state.next? lexicon (c :: a) (some c) previous = some (next, 0) :=
    ScanState.next?_of_append hnext (Nat.zero_le _)
  rw [List.cons_append, scan_boundary hmode hnext hc] at hcut ⊢
  obtain ⟨j, htake, hjoin⟩ := take_collected_append hcut
  rw [htake, scan_boundary hmode hnext' hc]
  refine .collected_append ?_ _ _
  cases j with
  | zero => cases hjoin
  | succ j => exact .cons (hrest j (List.cons.inj hjoin).2) _

/-- Any other character is collected on both sides. -/
theorem keepsBefore_collects (hc : state.mode = .code → isBoundary c = false)
    (hnext : state.next? lexicon (c :: (a ++ b)) (some c) previous = some (next, 0))
    (hrest : KeepsBefore lexicon state (some c) (pending ++ [c]) a b) :
    KeepsBefore lexicon state previous pending (c :: a) b := by
  intro k hcut
  have hnext' : state.next? lexicon (c :: a) (some c) previous = some (next, 0) :=
    ScanState.next?_of_append hnext (Nat.zero_le _)
  rw [List.cons_append, scan_collects hnext hc] at hcut ⊢
  rw [scan_collects hnext' hc]
  exact hrest k (by rw [hcut]; simp)

end Step

/-- **Before a cut the tokens are those of the text before it**, but for the class of the last. -/
theorem keepsBefore (lexicon : Lexicon) (state : ScanState) (previous : Option Char)
    (pending a b : Text) : KeepsBefore lexicon state previous pending a b := by
  induction hlength : a.length using Nat.strongRecOn generalizing state previous pending a with
  | ind n ih =>
    cases a with
    | nil => exact keepsBefore_nil lexicon state previous pending b
    | cons c a =>
      rw [List.length_cons] at hlength
      obtain ⟨next, width, hnext, hwidth⟩ :=
        ScanState.next?_of_char lexicon state c (a ++ b) previous
      cases width with
      | succ width =>
        have hfits : width ≤ (a ++ b).length := by
          rw [List.length_cons] at hwidth
          omega
        have hshorter : (a.drop width).length < n := by
          rw [List.length_drop]
          omega
        by_cases hmode : state.mode = .code
        · exact keepsBefore_begins hmode hfits hnext (ih _ hshorter _ _ _ _ rfl)
        · exact keepsBefore_ends hmode hfits hnext (ih _ hshorter _ _ _ _ rfl)
      | zero =>
        by_cases hboundary : state.mode = .code ∧ isBoundary c = true
        · exact keepsBefore_boundary hboundary.1 hboundary.2 hnext (ih _ (by omega) _ _ _ _ rfl)
        · have hinner : state.mode = .code → isBoundary c = false := fun hmode =>
            Bool.eq_false_iff.2 fun hc => hboundary ⟨hmode, hc⟩
          exact keepsBefore_collects hinner hnext (ih _ (by omega) _ _ _ _ rfl)

/-- **Cutting a line between two tokens does not change them**, for every lexicon. The tokens after
any cut are those of the text after it. The tokens before it are those of the text before it, but
for the class of the last one; a cut before the first token or after the last one, and one counted
from the end, are cuts too. -/
theorem classify_cut (lexicon : Lexicon) (text : Text) (cut : Int) :
    classify lexicon (join (Offset.after (classify lexicon text) cut)) =
        Offset.after (classify lexicon text) cut ∧
      (classify lexicon (join (Offset.before (classify lexicon text) cut))).map Token.text =
        (Offset.before (classify lexicon text) cut).map Token.text ∧
      (classify lexicon (join (Offset.before (classify lexicon text) cut))).dropLast =
        (Offset.before (classify lexicon text) cut).dropLast := by
  have hresumes : Resumes lexicon (classify lexicon text) := by
    refine .of_tail ?_ (resumes_tail_scan fun _ => rfl)
    rw [join_classify]
  refine ⟨hresumes _ (List.drop_suffix _ _), ?_⟩
  obtain ⟨k, hk⟩ : ∃ k, Offset.before (classify lexicon text) cut =
      (classify lexicon text).take k := ⟨_, rfl⟩
  -- the text of the tokens before the cut and that of those after it are the line
  have htext : text = join ((classify lexicon text).take k) ++
      join ((classify lexicon text).drop k) := by
    rw [← join_append, List.take_append_drop, join_classify]
  have hbefore := keepsBefore lexicon .start none [] (join ((classify lexicon text).take k))
    (join ((classify lexicon text).drop k)) k
  rw [← htext] at hbefore
  rw [hk]
  exact hbefore rfl

end Token

end CodeKeyboard
