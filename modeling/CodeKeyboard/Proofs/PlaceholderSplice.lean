import CodeKeyboard.Placeholder

/-!
# Filling in a placeholder is local (specification §8)

A replacement is spliced into a text at arbitrary characters, and what counts as a placeholder
depends on the characters on both sides of a word. Still a splice neither glues a marker together
nor hides one: a placeholder is a whole word, so what stands before it does not end in a word
character and what stands after it does not begin with one, and through such an edge no word goes.

- `Placeholder.findAll_append`: at an edge the placeholders of two texts are those of their
  concatenation, the second ones further on.
- `Placeholder.mem_findAll_iff`: the placeholders of a text are exactly the places where a marker
  stands as a whole word.
- `Placeholder.findAll_splice`: from both, the placeholders around a whole word that was replaced.
- `Placeholder.findAll_substitute`: the same for `substitute`, told by the offsets.
-/

namespace CodeKeyboard

namespace Placeholder

/-- The text does not end in a word character. -/
def EndsOutside (s : Text) : Prop :=
  ∀ c ∈ s.getLast?, Text.isWord c = false

/-- The text does not begin with a word character. -/
def StartsOutside (s : Text) : Prop :=
  ∀ c ∈ s.head?, Text.isWord c = false

/-- The placeholder of a kind at an offset. -/
def ofKind (kind : PlaceholderKind) (start : Int) : Placeholder :=
  ⟨kind.marker, start, start + kind.marker.length, kind⟩

/-- The placeholder some characters further on. -/
def moved (p : Placeholder) (distance : Int) : Placeholder :=
  { p with start := p.start + distance, stop := p.stop + distance }

@[simp] theorem ofKind_start (kind : PlaceholderKind) (n : Int) : (ofKind kind n).start = n := rfl

@[simp] theorem ofKind_stop (kind : PlaceholderKind) (n : Int) :
    (ofKind kind n).stop = n + kind.marker.length := rfl

@[simp] theorem ofKind_kind (kind : PlaceholderKind) (n : Int) : (ofKind kind n).kind = kind := rfl

@[simp] theorem moved_start (p : Placeholder) (n : Int) : (p.moved n).start = p.start + n := rfl

@[simp] theorem moved_moved (p : Placeholder) (m n : Int) :
    (p.moved m).moved n = p.moved (m + n) := by
  simp [moved, Int.add_assoc]

theorem ofKind_moved (kind : PlaceholderKind) (start n : Int) :
    (ofKind kind start).moved n = ofKind kind (start + n) := by
  simp only [ofKind, moved, Placeholder.mk.injEq, true_and, and_true]
  omega

/-! ## Runs of word characters -/

/-- A run is a placeholder just if it is a marker, and then it is the one that ends here. -/
theorem ofRun?_eq_some_iff {run : Text} {stop : Nat} {p : Placeholder} :
    ofRun? run stop = some p ↔
      run = p.kind.marker ∧ p = ofKind p.kind (stop - run.length : Int) := by
  constructor
  · intro h
    obtain ⟨kind, hkind, rfl⟩ := Option.map_eq_some_iff.1 h
    have hrun : kind.marker = run := by simpa using List.find?_some hkind
    subst hrun
    refine ⟨rfl, ?_⟩
    simp only [ofKind, Placeholder.mk.injEq, true_and, and_true]
    omega
  · rintro ⟨rfl, hp⟩
    rw [ofRun?, PlaceholderKind.ofMarker?_marker, Option.map_some, hp]
    simp only [ofKind, Option.some.injEq, Placeholder.mk.injEq, true_and, and_true]
    omega

@[simp] theorem ofRun?_nil (stop : Nat) : ofRun? [] stop = none := rfl

theorem ofRun?_add (run : Text) (stop n : Nat) :
    ofRun? run (stop + n) = (ofRun? run stop).map (·.moved n) := by
  rw [ofRun?, ofRun?, Option.map_map]
  congr 1
  funext kind
  simp only [Function.comp_apply, moved, Placeholder.mk.injEq, true_and, and_true]
  omega

/-- Counting the offsets from further back moves every placeholder. -/
theorem findFrom_add (run : Text) (offset n : Nat) (s : Text) :
    findFrom run (offset + n) s = (findFrom run offset s).map (·.moved n) := by
  induction s generalizing run offset with
  | nil => rw [findFrom, findFrom, ofRun?_add, Option.toList_map]
  | cons c s ih =>
    have hoffset : offset + n + 1 = offset + 1 + n := by omega
    rw [findFrom, findFrom, hoffset]
    split
    · exact ih (run ++ [c]) (offset + 1)
    · rw [ih [] (offset + 1), ofRun?_add, List.map_append, Option.toList_map]

/-- A text that does not begin with a word character ends the run before it. -/
theorem findFrom_of_startsOutside {s : Text} (hs : StartsOutside s) (run : Text) (offset : Nat) :
    findFrom run offset s = (ofRun? run offset).toList ++ findFrom [] offset s := by
  cases s with
  | nil => simp [findFrom]
  | cons c s =>
    have hc : Text.isWord c = false := hs c rfl
    simp [findFrom, hc]

theorem findFrom_append_of_startsOutside {b : Text} (hb : StartsOutside b) (a run : Text)
    (offset : Nat) :
    findFrom run offset (a ++ b) =
      findFrom run offset a ++ findFrom [] (offset + a.length) b := by
  induction a generalizing run offset with
  | nil => exact findFrom_of_startsOutside hb run offset
  | cons c a ih =>
    have hlength : offset + (c :: a).length = offset + 1 + a.length := by
      rw [List.length_cons]
      omega
    rw [List.cons_append, hlength, findFrom, findFrom]
    split
    · exact ih (run ++ [c]) (offset + 1)
    · rw [ih [] (offset + 1), List.append_assoc]

theorem findFrom_append_of_endsOutside {a : Text} (ha : EndsOutside a) (b : Text) (offset : Nat) :
    findFrom [] offset (a ++ b) =
      findFrom [] offset a ++ findFrom [] (offset + a.length) b := by
  rcases List.eq_nil_or_concat a with rfl | ⟨init, last, rfl⟩
  · rfl
  · have hlast : Text.isWord last = false := ha last (by simp)
    -- the last character begins a text that is outside, so both sides are cut before it
    have hcut : ∀ s, StartsOutside (last :: s) := by
      rintro s c hc
      cases hc
      exact hlast
    rw [List.concat_eq_append, List.append_assoc, List.singleton_append,
      findFrom_append_of_startsOutside (hcut b), findFrom_append_of_startsOutside (hcut []),
      List.append_assoc]
    congr 1
    simp [findFrom, hlast, Nat.add_assoc]

/-- **No word goes through an edge**: there the placeholders of two texts are found on their own. -/
theorem findAll_append {a b : Text} (h : EndsOutside a ∨ StartsOutside b) :
    findAll (a ++ b) = findAll a ++ (findAll b).map (·.moved a.length) := by
  have hmoved : (findAll b).map (·.moved a.length) = findFrom [] (0 + a.length) b :=
    (findFrom_add [] 0 a.length b).symm
  rw [hmoved]
  rcases h with ha | hb
  · exact findFrom_append_of_endsOutside ha b 0
  · exact findFrom_append_of_startsOutside hb a [] 0

/-- What is put between two texts with edges towards it has its placeholders found on their own. -/
theorem findAll_splice {before after : Text} (hbefore : EndsOutside before)
    (hafter : StartsOutside after) (replacement : Text) :
    findAll (before ++ replacement ++ after) =
      findAll before ++ (findAll replacement).map (·.moved before.length) ++
        (findAll after).map (·.moved (before.length + replacement.length)) := by
  rw [findAll_append (.inr hafter), findAll_append (.inl hbefore), List.length_append,
    Int.natCast_add]

/-! ## Whole words -/

/-- A marker stands in the text as a whole word, in the place of the placeholder. -/
def StandsIn (p : Placeholder) (text : Text) : Prop :=
  ∃ before after, text = before ++ p.kind.marker ++ after ∧ p = ofKind p.kind before.length ∧
    EndsOutside before ∧ StartsOutside after

theorem marker_ne_nil (kind : PlaceholderKind) : kind.marker ≠ [] := by
  cases kind <;> decide

theorem findAll_marker (kind : PlaceholderKind) : findAll kind.marker = [ofKind kind 0] := by
  cases kind <;> decide

/-- A placeholder that is found is a whole word of the run and the rest of the text. -/
theorem exists_of_mem_findFrom {run s : Text} {offset : Nat} {p : Placeholder}
    (h : p ∈ findFrom run offset s) :
    ∃ before after, run ++ s = before ++ p.kind.marker ++ after ∧
      p = ofKind p.kind (offset - run.length + before.length) ∧
      EndsOutside before ∧ StartsOutside after := by
  have hends : EndsOutside [] := fun c hc => by cases hc
  have hstarts : StartsOutside [] := fun c hc => by cases hc
  induction s generalizing run offset with
  | nil =>
    rw [findFrom, Option.mem_toList, ofRun?_eq_some_iff] at h
    obtain ⟨hrun, hp⟩ := h
    exact ⟨[], [], by simp [← hrun], by simpa using hp, hends, hstarts⟩
  | cons c s ih =>
    rw [findFrom] at h
    split at h
    · -- a word character joins the run, so the text that is split is the same
      obtain ⟨before, after, hsplit, hp, hbefore, hafter⟩ := ih h
      refine ⟨before, after, by rw [← hsplit]; simp, ?_, hbefore, hafter⟩
      rw [hp, List.length_append, List.length_singleton]
      congr 1
      omega
    · next hc =>
      rcases List.mem_append.1 h with h | h
      · -- the run itself is the marker, and the character ends it
        rw [Option.mem_toList, ofRun?_eq_some_iff] at h
        obtain ⟨hrun, hp⟩ := h
        refine ⟨[], c :: s, by simp [← hrun], by simpa using hp, hends, ?_⟩
        rintro d hd
        cases hd
        simpa using hc
      · -- it is found further on, so what stands before it is longer by the run and the character
        obtain ⟨before, after, hsplit, hp, hbefore, hafter⟩ := ih h
        refine ⟨run ++ c :: before, after, ?_, ?_, ?_, hafter⟩
        · rw [List.nil_append] at hsplit
          rw [hsplit]
          simp
        · rw [hp]
          simp only [List.length_append, List.length_cons, List.length_nil]
          congr 1
          omega
        · intro d hd
          cases before with
          | nil =>
            obtain rfl : c = d := by simpa using hd
            simpa using hc
          | cons e before => exact hbefore d (by simpa using hd)

/-- **The placeholders of a text are the markers that stand in it as whole words.** -/
theorem mem_findAll_iff {text : Text} {p : Placeholder} :
    p ∈ findAll text ↔ p.StandsIn text := by
  constructor
  · intro h
    obtain ⟨before, after, htext, hp, hbefore, hafter⟩ := exists_of_mem_findFrom h
    exact ⟨before, after, by simpa using htext, by simpa using hp, hbefore, hafter⟩
  · rintro ⟨before, after, rfl, hp, hbefore, hafter⟩
    rw [findAll_splice hbefore hafter, findAll_marker]
    refine List.mem_append_left _ (List.mem_append_right _ ?_)
    rw [List.map_singleton, List.mem_singleton, ofKind_moved, Int.zero_add]
    exact hp

/-- A placeholder lies within its text. -/
theorem start_of_mem_findAll {text : Text} {p : Placeholder} (h : p ∈ findAll text) :
    0 ≤ p.start ∧ p.start < text.length := by
  obtain ⟨before, after, rfl, hp, -, -⟩ := mem_findAll_iff.1 h
  have hstart : p.start = before.length := by rw [hp]; rfl
  have hmarker := List.length_pos_iff.2 (marker_ne_nil p.kind)
  rw [hstart]
  simp only [List.length_append]
  omega

/-! ## Substitution -/

section Around

variable {before after : Text} {kind : PlaceholderKind}

/-- Substituting for a marker puts the replacement in its place. -/
theorem substitute_around (before after : Text) (kind : PlaceholderKind) (replacement : Text) :
    substitute (before ++ kind.marker ++ after) (ofKind kind before.length) replacement =
      before ++ replacement ++ after := by
  have hstop : (before.length + kind.marker.length : Int) =
      ((before ++ kind.marker).length : Nat) := by
    rw [List.length_append, Int.natCast_add]
  rw [substitute, ofKind]
  dsimp only
  rw [hstop, Offset.before_ofNat, Offset.after_ofNat, List.append_assoc before kind.marker,
    List.take_left, ← List.append_assoc before kind.marker, List.drop_left]

/-- The placeholders around a marker that stands as a whole word, and the one that it is. -/
theorem findAll_around (hbefore : EndsOutside before) (hafter : StartsOutside after) :
    findAll (before ++ kind.marker ++ after) =
      findAll before ++ ofKind kind before.length ::
        (findAll after).map (·.moved (before.length + kind.marker.length)) := by
  rw [findAll_splice hbefore hafter, findAll_marker, List.map_singleton, ofKind_moved,
    Int.zero_add, List.append_assoc, List.singleton_append]

theorem start_lt_of_mem_before (kind : PlaceholderKind) {q : Placeholder}
    (hq : q ∈ findAll before) : q.start < (ofKind kind before.length).start :=
  (start_of_mem_findAll hq).2

theorem lt_start_of_mem_after {q : Placeholder}
    (hq : q ∈ (findAll after).map (·.moved (before.length + kind.marker.length))) :
    (ofKind kind before.length).start < q.start := by
  obtain ⟨r, hr, rfl⟩ := List.mem_map.1 hq
  have hmarker := List.length_pos_iff.2 (marker_ne_nil kind)
  have hr := (start_of_mem_findAll hr).1
  rw [moved_start, ofKind_start]
  omega

/-- The placeholders that start before the marker are those of the text before it. -/
theorem filter_lt_findAll_around (hbefore : EndsOutside before) (hafter : StartsOutside after) :
    (findAll (before ++ kind.marker ++ after)).filter
      (·.start < (ofKind kind before.length).start) = findAll before := by
  rw [findAll_around hbefore hafter, List.filter_append, List.filter_eq_self.2,
    List.filter_eq_nil_iff.2, List.append_nil]
  · intro q hq
    rcases List.mem_cons.1 hq with rfl | hq
    · simp
    · have := lt_start_of_mem_after hq
      simp only [decide_eq_true_eq]
      omega
  · intro q hq
    exact decide_eq_true (start_lt_of_mem_before kind hq)

/-- Those that start after it are those of the text after it. -/
theorem filter_gt_findAll_around (hbefore : EndsOutside before) (hafter : StartsOutside after) :
    (findAll (before ++ kind.marker ++ after)).filter
      ((ofKind kind before.length).start < ·.start) =
      (findAll after).map (·.moved (before.length + kind.marker.length)) := by
  rw [findAll_around hbefore hafter, List.filter_append, List.filter_eq_nil_iff.2, List.nil_append,
    List.filter_cons_of_neg (by simp), List.filter_eq_self.2]
  · intro q hq
    exact decide_eq_true (lt_start_of_mem_after hq)
  · intro q hq
    have := start_lt_of_mem_before kind hq
    simp only [decide_eq_true_eq]
    omega

end Around

/-- **A substitution is local**: the placeholders before the replaced one stay as they are, then
come those of the replacement, then those after it, moved by what the text has grown. Replacing a
placeholder by its own word changes nothing, and a replacement in which no marker stands as a whole
word leaves one placeholder less. -/
theorem findAll_substitute (text : Text) (p : Placeholder) (hp : p ∈ findAll text)
    (replacement : Text) :
    findAll (substitute text p replacement) =
        (findAll text).filter (·.start < p.start) ++
          (findAll replacement).map (·.moved p.start) ++
          ((findAll text).filter (p.start < ·.start)).map
            (·.moved (replacement.length - (p.stop - p.start))) ∧
      findAll text =
        (findAll text).filter (·.start < p.start) ++ p ::
          (findAll text).filter (p.start < ·.start) ∧
      substitute text p p.word = text ∧
      ((∀ q : Placeholder, ¬ q.StandsIn replacement) →
        (findAll (substitute text p replacement)).length + 1 = (findAll text).length) := by
  obtain ⟨before, after, rfl, hkind, hbefore, hafter⟩ := mem_findAll_iff.1 hp
  obtain ⟨kind, rfl⟩ : ∃ kind, p = ofKind kind before.length := ⟨_, hkind⟩
  have hgrown : (before.length + kind.marker.length : Int) + (replacement.length -
      ((ofKind kind before.length).stop - (ofKind kind before.length).start)) =
      before.length + replacement.length := by
    rw [ofKind_stop, ofKind_start]
    omega
  rw [ofKind_kind, substitute_around, findAll_splice hbefore hafter]
  refine ⟨?_, ?_, substitute_around before after kind kind.marker, ?_⟩
  · rw [filter_lt_findAll_around hbefore hafter, filter_gt_findAll_around hbefore hafter,
      List.map_map]
    simp only [Function.comp_def, moved_moved, hgrown]
    rfl
  · rw [filter_lt_findAll_around hbefore hafter, filter_gt_findAll_around hbefore hafter,
      findAll_around hbefore hafter]
  · intro hnone
    have hnil : findAll replacement = [] :=
      List.eq_nil_iff_forall_not_mem.2 fun q hq => hnone q (mem_findAll_iff.1 hq)
    rw [hnil, findAll_around hbefore hafter]
    simp
    omega

/-- A replacement that begins with a marker and goes on as another word: the type after it moves. -/
theorem findAll_substitute_module_name :
    (ofKind .variableName 0) ∈ findAll "var: type" ∧
      findAll (substitute "var: type" (ofKind .variableName 0) "module_a") =
        [ofKind .typeName 10] ∧
      (findAll (substitute "var: type" (ofKind .variableName 0) "module_a")).length + 1 =
        (findAll "var: type").length := by
  have hp : ofKind .variableName 0 ∈ findAll "var: type" := by decide
  have hnone : findAll "module_a" = [] := by decide
  obtain ⟨hfound, -, -, hfewer⟩ :=
    findAll_substitute "var: type" (ofKind .variableName 0) hp "module_a"
  refine ⟨hp, ?_, hfewer fun q hq => ?_⟩
  · rw [hfound]
    decide
  · rw [← mem_findAll_iff, hnone] at hq
    cases hq

end Placeholder

end CodeKeyboard
