import CodeKeyboard.Proofs.PlaceholderSplice
import Mathlib.Data.List.Pairwise

/-!
# Placeholders are found exactly, and never two at one caret (specification §4.4)

The search runs over a text once and keeps the word characters it has just passed. What it finds is
told here without the run: by the offsets at which word characters stand.

- `Placeholder.mem_findAll_iff_marksRun`: a placeholder is a maximal run of word characters that is
  a marker.
- `Placeholder.findFrom_pairwise`: a placeholder ends before the next one starts, so that the caret
  after its last character is not yet at the next one.
- `Placeholder.findAll_wordRuns`: both, and what the placeholder at an offset is.
-/

namespace CodeKeyboard

namespace Placeholder

/-- A word character stands at the offset. -/
def WordAt (text : Text) (i : Nat) : Prop :=
  ∃ c, text[i]? = some c ∧ Text.isWord c = true

/-- A maximal run of word characters. -/
structure WordRun (text : Text) (start stop : Nat) : Prop where
  /-- The run is not empty. -/
  start_lt_stop : start < stop
  /-- Every character of it is a word character. -/
  inside : ∀ i, start ≤ i → i < stop → WordAt text i
  /-- No word character stands right before it. -/
  left : ∀ i, i + 1 = start → ¬ WordAt text i
  /-- No word character stands right after it. -/
  right : ¬ WordAt text stop

/-- The placeholder is a maximal run of word characters of the text, and this word is the marker of
its kind. -/
def MarksRun (p : Placeholder) (text : Text) : Prop :=
  ∃ start stop : Nat, WordRun text start stop ∧ p.start = start ∧ p.stop = stop ∧
    p.word = text.extract start stop ∧ p.word = p.kind.marker

theorem WordRun.stop_le_length {text : Text} {start stop : Nat} (h : WordRun text start stop) :
    stop ≤ text.length := by
  have hlt := h.start_lt_stop
  obtain ⟨c, hc, -⟩ := h.inside (stop - 1) (by omega) (by omega)
  have := (List.getElem?_eq_some_iff.1 hc).1
  omega

/-! ## Whole words are maximal runs -/

theorem isWord_of_mem_marker {kind : PlaceholderKind} {c : Char} (h : c ∈ kind.marker) :
    Text.isWord c = true := by
  have hall : kind.marker.all Text.isWord = true := by cases kind <;> decide
  exact List.all_eq_true.1 hall c h

theorem endsOutside_take_iff {text : Text} {start : Nat} (h : start ≤ text.length) :
    EndsOutside (text.take start) ↔ ∀ i, i + 1 = start → ¬ WordAt text i := by
  constructor
  · rintro hends i rfl ⟨c, hc, hword⟩
    have hlast : (text.take (i + 1)).getLast? = some c := by
      rw [List.getLast?_eq_getElem?, List.length_take, Nat.min_eq_left h,
        List.getElem?_take_of_lt (by omega), ← hc]
      rfl
    have := hends c hlast
    simp [hword] at this
  · intro hleft c hc
    cases start with
    | zero => simp at hc
    | succ i =>
      rw [List.getLast?_eq_getElem?, List.length_take, Nat.min_eq_left h,
        List.getElem?_take_of_lt (by omega)] at hc
      exact Bool.eq_false_iff.2 fun hword => hleft i rfl ⟨c, hc, hword⟩

theorem startsOutside_drop_iff {text : Text} {stop : Nat} :
    StartsOutside (text.drop stop) ↔ ¬ WordAt text stop := by
  simp [StartsOutside, WordAt, List.head?_drop]

/-- A marker that stands as a whole word is a maximal run of word characters. -/
theorem wordRun_around {before after : Text} (kind : PlaceholderKind) (hbefore : EndsOutside before)
    (hafter : StartsOutside after) :
    WordRun (before ++ kind.marker ++ after) before.length
      (before.length + kind.marker.length) where
  start_lt_stop := by
    have := List.length_pos_iff.2 (marker_ne_nil kind)
    omega
  inside i hstart hstop := by
    obtain ⟨n, rfl⟩ := Nat.exists_eq_add_of_le hstart
    have hn : n < kind.marker.length := by omega
    refine ⟨kind.marker[n], ?_, isWord_of_mem_marker (List.getElem_mem hn)⟩
    rw [List.append_assoc, List.getElem?_append_right hstart, Nat.add_sub_cancel_left,
      List.getElem?_append_left hn, List.getElem?_eq_getElem hn]
  left := by
    refine (endsOutside_take_iff (by simp only [List.length_append]; omega)).1 ?_
    rwa [List.append_assoc, List.take_left]
  right := by
    refine startsOutside_drop_iff.1 ?_
    rwa [← List.length_append, List.drop_left]

/-- **The placeholders of a text are its maximal runs of word characters that are markers.** -/
theorem mem_findAll_iff_marksRun {text : Text} {p : Placeholder} :
    p ∈ findAll text ↔ p.MarksRun text := by
  rw [mem_findAll_iff]
  constructor
  · rintro ⟨before, after, rfl, hp, hbefore, hafter⟩
    have hword : p.word = p.kind.marker := by rw [hp, ofKind_kind]; rfl
    refine ⟨before.length, before.length + p.kind.marker.length,
      wordRun_around p.kind hbefore hafter, by rw [hp]; rfl, by rw [hp]; rfl, ?_, hword⟩
    rw [hword, List.extract, Nat.add_sub_cancel_left, List.append_assoc, List.drop_left,
      List.take_left]
  · rintro ⟨start, stop, hrun, hstart, hstop, hextract, hword⟩
    have hlength : stop ≤ text.length := hrun.stop_le_length
    have hlt := hrun.start_lt_stop
    have hmarker : p.kind.marker.length = stop - start := by
      rw [← hword, hextract, List.extract, List.length_take, List.length_drop]
      omega
    have hbefore : (text.take start).length = start := by
      rw [List.length_take]
      omega
    refine ⟨text.take start, text.drop stop, ?_, ?_, ?_, startsOutside_drop_iff.2 hrun.right⟩
    · have hstop : stop = start + (stop - start) := by omega
      rw [← hword, hextract, List.extract, ← List.take_add, ← hstop, List.take_append_drop]
    · rw [hbefore, ofKind, hmarker, ← hword]
      have hsum : (start + (stop - start : Nat) : Int) = p.stop := by omega
      rw [hsum, ← hstart]
    · exact (endsOutside_take_iff (by omega)).2 hrun.left

/-! ## One placeholder ends before the next one starts -/

theorem le_start_of_mem_findFrom {run s : Text} {offset : Nat} {p : Placeholder}
    (h : p ∈ findFrom run offset s) : (offset - run.length : Int) ≤ p.start := by
  obtain ⟨before, -, -, hp, -, -⟩ := exists_of_mem_findFrom h
  rw [hp, ofKind_start]
  omega

/-- **Between two placeholders stands a character.** -/
theorem findFrom_pairwise (run : Text) (offset : Nat) (s : Text) :
    (findFrom run offset s).Pairwise (·.stop < ·.start) := by
  have hone : ∀ run offset, (ofRun? run offset).toList.Pairwise (·.stop < ·.start) := by
    intro run offset
    cases ofRun? run offset <;> simp
  induction s generalizing run offset with
  | nil => exact hone run offset
  | cons c s ih =>
    rw [findFrom]
    split
    · exact ih (run ++ [c]) (offset + 1)
    · refine List.pairwise_append.2 ⟨hone run offset, ih [] (offset + 1), fun p hp q hq => ?_⟩
      -- the run ends before the character, and what comes later starts after it
      obtain ⟨hrun, hp⟩ := ofRun?_eq_some_iff.1 (Option.mem_toList.1 hp)
      have hstop : p.stop = offset := by
        rw [hp, ofKind_stop, hrun]
        omega
      have hstart := le_start_of_mem_findFrom hq
      rw [List.length_nil] at hstart
      omega

theorem start_lt_stop_of_mem_findAll {text : Text} {p : Placeholder} (h : p ∈ findAll text) :
    p.start < p.stop := by
  obtain ⟨start, stop, hrun, hstart, hstop, -, -⟩ := mem_findAll_iff_marksRun.1 h
  have := hrun.start_lt_stop
  omega

/-- **At most one placeholder is at a caret.** -/
theorem eq_of_covers {text : Text} {p q : Placeholder} {n : Int} (hp : p ∈ findAll text)
    (hq : q ∈ findAll text) (hpn : p.covers n) (hqn : q.covers n) : p = q := by
  by_contra hne
  have hsymm : Std.Symm fun p q : Placeholder => ¬ (p.covers n ∧ q.covers n) :=
    ⟨fun _ _ hapart hboth => hapart hboth.symm⟩
  have hapart : (findAll text).Pairwise fun p q => ¬ (p.covers n ∧ q.covers n) := by
    refine (findFrom_pairwise [] 0 text).imp fun hlt => ?_
    simp only [covers, Bool.and_eq_true, decide_eq_true_eq]
    omega
  exact hapart.forall hp hq hne ⟨hpn, hqn⟩

/-- The placeholder at an offset is the one that touches it. -/
theorem findAt?_eq_some_iff {text : Text} {n : Int} {p : Placeholder} :
    findAt? text n = some p ↔ p ∈ findAll text ∧ p.covers n := by
  have hfound : ∀ q, findAt? text n = some q → q ∈ findAll text ∧ q.covers n := by
    intro q hq
    rw [findAt?] at hq
    exact ⟨List.mem_of_find?_eq_some hq, by simpa using List.find?_some hq⟩
  refine ⟨hfound p, ?_⟩
  rintro ⟨hp, hcovers⟩
  obtain ⟨q, hq⟩ : ∃ q, findAt? text n = some q :=
    Option.isSome_iff_exists.1 (List.find?_isSome.2 ⟨p, hp, hcovers⟩)
  rw [hq, eq_of_covers hp (hfound q hq).1 hcovers (hfound q hq).2]

/-- **Placeholders are found exactly and are unambiguous.** In the order of their starts there is
one for each maximal run of word characters that is a marker, and no other. No two of them share an
offset, their ends included, so at every offset there is at most one, and it is found there. -/
theorem findAll_wordRuns (text : Text) :
    (∀ p : Placeholder, p ∈ findAll text ↔ p.MarksRun text) ∧
    (findAll text).Pairwise (·.start < ·.start) ∧
    (∀ p ∈ findAll text, ∀ q ∈ findAll text, ∀ n : Int, p.covers n → q.covers n → p = q) ∧
    ∀ n : Int, (∀ p, findAt? text n = some p ↔ p ∈ findAll text ∧ p.covers n) ∧
      (findAt? text n = none ↔ ∀ p ∈ findAll text, p.covers n = false) := by
  refine ⟨fun p => mem_findAll_iff_marksRun, ?_, ?_, fun n => ⟨fun p => findAt?_eq_some_iff, ?_⟩⟩
  · refine (findFrom_pairwise [] 0 text).imp_of_mem fun hp _ hlt => ?_
    exact Int.lt_trans (start_lt_stop_of_mem_findAll hp) hlt
  · exact fun p hp q hq n hpn hqn => eq_of_covers hp hq hpn hqn
  · simp [findAt?, List.find?_eq_none]

end Placeholder

end CodeKeyboard
