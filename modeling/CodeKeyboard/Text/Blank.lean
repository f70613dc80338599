import CodeKeyboard.Text.CharTable

/-!
# Blank characters and trimming

`isBlank` is the whitespace that separates words: the white space of Unicode 14 together with the
four information separators U+001C to U+001F. The zero-width space is not blank. Trimming removes
blanks from the ends of a text, and its lemmas say that what is kept does not begin (or end) with
one.
-/

namespace CodeKeyboard.Text

/-- The blank characters, as ranges of code points. -/
def blankTable : CharTable :=
  [(9, 13), (28, 32), (133, 133), (160, 160), (5760, 5760), (8192, 8202), (8232, 8233),
   (8239, 8239), (8287, 8287), (12288, 12288)]

/-- A whitespace character of any kind. -/
def isBlank (c : Char) : Bool :=
  blankTable.contains c

/-- A text with no visible character, the empty one included. -/
def allBlank (s : Text) : Bool :=
  s.all isBlank

/-- The text without the blanks it begins with. -/
def trimStart (s : Text) : Text :=
  s.dropWhile isBlank

/-- The text without the blanks it ends with. -/
def trimEnd : Text → Text
  | [] => []
  | c :: s => match trimEnd s with
    | [] => if isBlank c then [] else [c]
    | t => c :: t

/-- The text without the blanks at both ends. -/
def trim (s : Text) : Text :=
  trimEnd (trimStart s)

/-- The blanks that the text begins with. -/
def indentation (s : Text) : Text :=
  s.takeWhile isBlank

/-! ## Lemmas -/

@[simp] theorem isBlank_space : isBlank ' ' = true := by decide

@[simp] theorem isBlank_newline : isBlank '\n' = true := by decide

theorem trimEnd_eq_nil_iff {s : Text} : trimEnd s = [] ↔ allBlank s = true := by
  induction s with
  | nil => simp [trimEnd, allBlank]
  | cons c s ih =>
    rw [trimEnd]
    split
    · next h => by_cases hc : isBlank c <;> simp_all [allBlank]
    · next t h =>
      have : ¬ allBlank s = true := fun hs => h (ih.2 hs)
      simp only [allBlank, List.all_cons, Bool.and_eq_true] at this ⊢
      simp [this]

/-- Nothing is left of a text by trimming exactly when all of it is blank. -/
theorem trim_eq_nil_iff {s : Text} : trim s = [] ↔ allBlank s = true := by
  have hstart : allBlank (trimStart s) = allBlank s := by
    induction s with
    | nil => rfl
    | cons c s ih =>
      by_cases hc : isBlank c
      · simpa [trimStart, allBlank, hc] using ih
      · simp [trimStart, allBlank, hc]
  rw [trim, trimEnd_eq_nil_iff, hstart]

/-- A text is its trimmed form and blanks after it. -/
theorem exists_trimEnd_append (s : Text) : ∃ w, allBlank w = true ∧ s = trimEnd s ++ w := by
  induction s with
  | nil => exact ⟨[], rfl, rfl⟩
  | cons c s ih =>
    obtain ⟨w, hw, hs⟩ := ih
    rw [trimEnd]
    split
    · next h =>
      rw [h, List.nil_append] at hs
      by_cases hc : isBlank c
      · refine ⟨c :: s, ?_, by simp [hc]⟩
        rw [hs]
        simpa [allBlank, hc] using hw
      · exact ⟨w, hw, by simp [hc, ← hs]⟩
    · exact ⟨w, hw, by simp [← hs]⟩

/-- Blanks after a text are trimmed with those it ends with. -/
theorem trimEnd_append_of_allBlank {w : Text} (hw : allBlank w = true) (s : Text) :
    trimEnd (s ++ w) = trimEnd s := by
  induction s with
  | nil => exact trimEnd_eq_nil_iff.2 hw
  | cons c s ih => rw [List.cons_append, trimEnd, trimEnd, ih]

/-- A text that ends in something visible has nothing to trim at its end. -/
theorem trimEnd_of_getLast? {s : Text} {c : Char} (hlast : s.getLast? = some c)
    (hc : isBlank c = false) : trimEnd s = s := by
  obtain ⟨w, hw, hs⟩ := exists_trimEnd_append s
  have hnone : w = [] := by
    refine List.getLast?_eq_none_iff.1 (Option.eq_none_iff_forall_ne_some.2 fun d hd => ?_)
    rw [hs, List.getLast?_append, hd, Option.some_or] at hlast
    obtain rfl := Option.some.inj hlast
    rw [List.all_eq_true.1 hw d (List.mem_of_getLast? hd)] at hc
    cases hc
  rw [hnone, List.append_nil] at hs
  exact hs.symm

/-- A text that does not end in a blank has nothing to trim at its end. -/
theorem trimEnd_of_visible {s : Text} (h : ∀ c ∈ s.getLast?, isBlank c = false) :
    trimEnd s = s := by
  cases hlast : s.getLast? with
  | none =>
    rw [List.getLast?_eq_none_iff.1 hlast]
    rfl
  | some c => exact trimEnd_of_getLast? hlast (h c hlast)

theorem not_isBlank_of_getLast?_trimEnd {s : Text} {c : Char} (h : (trimEnd s).getLast? = some c) :
    isBlank c = false := by
  induction s with
  | nil => cases h
  | cons d s ih =>
    rw [trimEnd] at h
    split at h
    · split at h
      · cases h
      · next hvisible =>
        cases h
        exact Bool.eq_false_iff.2 hvisible
    · next hne =>
      rw [List.getLast?_cons_of_ne_nil hne] at h
      exact ih h

/-- Nothing is trimmed from the first visible character on. -/
theorem trimStart_append_cons {c : Char} (hc : isBlank c = false) (s t : Text) :
    trimStart (s ++ c :: t) = trimStart s ++ c :: t := by
  induction s with
  | nil => simp [trimStart, hc]
  | cons d s ih =>
    by_cases hd : isBlank d = true
    · simpa [trimStart, hd] using ih
    · simp [trimStart, hd]

theorem trimStart_of_allBlank {w : Text} (hw : allBlank w = true) : trimStart w = [] := by
  induction w with
  | nil => rfl
  | cons c w ih =>
    rw [allBlank, List.all_cons, Bool.and_eq_true] at hw
    rw [trimStart, List.dropWhile_cons_of_pos hw.1]
    exact ih hw.2

theorem not_isBlank_of_head?_trim {s : Text} {c : Char} (h : (trim s).head? = some c) :
    isBlank c = false := by
  -- trimming the end leaves the first character that trimming the start has found
  obtain ⟨w, -, hstart⟩ := exists_trimEnd_append (trimStart s)
  have hhead : (s.dropWhile isBlank).head? = some c := by
    change (trimStart s).head? = some c
    rw [hstart, List.head?_append]
    exact congrArg (·.or w.head?) h
  have hvisible := List.head?_dropWhile_not isBlank s
  rw [hhead] at hvisible
  exact hvisible

end CodeKeyboard.Text
