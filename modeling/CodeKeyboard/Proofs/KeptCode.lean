import CodeKeyboard.Proofs.CurrentLine
import CodeKeyboard.Proofs.DecidingRule

/-!
# A tap neither loses nor invents code

Each rule for insertions changes blanks only, but for one: a dotted beginning of the text that the
line ends in is left out, since it is typed already. So without the blanks an insertion is the text
of the button, or what is left of it after the longest such beginning.

The line is the whole line, and the insertion goes where the cursor is. The two meet where the
cursor is at the end of the line. Before other text of the line a beginning may be left out that
stands behind the cursor, or far from it.

- `Expansion.withoutBlanks_insertion`: what an insertion is without its blanks.
- `Expansion.code_kept`: what is written out.
- `Expansion.dropped_beginning_typed_iff`: when a beginning that is left out stands before the
  cursor.
-/

namespace CodeKeyboard

namespace Text

/-! ## Texts without their blanks -/

/-- A text without its blanks, wherever they are. -/
def withoutBlanks (s : Text) : Text :=
  s.filter fun c => !isBlank c

@[simp] theorem withoutBlanks_append (s t : Text) :
    withoutBlanks (s ++ t) = withoutBlanks s ++ withoutBlanks t :=
  List.filter_append ..

theorem withoutBlanks_cons_of_isBlank {c : Char} (hc : isBlank c = true) (s : Text) :
    withoutBlanks (c :: s) = withoutBlanks s :=
  List.filter_cons_of_neg (by simp [hc])

theorem withoutBlanks_of_allBlank {s : Text} (h : allBlank s = true) : withoutBlanks s = [] := by
  rw [withoutBlanks, List.filter_eq_nil_iff]
  intro c hc
  simp [List.all_eq_true.1 h c hc]

theorem withoutBlanks_append_of_allBlank {t : Text} (ht : allBlank t = true) (s : Text) :
    withoutBlanks (s ++ t) = withoutBlanks s := by
  rw [withoutBlanks_append, withoutBlanks_of_allBlank ht, List.append_nil]

/-- Leading characters may go if they are blanks. -/
theorem withoutBlanks_dropWhile {p : Char → Bool} (hp : ∀ c, p c = true → isBlank c = true)
    (s : Text) : withoutBlanks (s.dropWhile p) = withoutBlanks s := by
  have hblank : allBlank (s.takeWhile p) = true :=
    List.all_eq_true.2 fun c hc => hp c (List.mem_takeWhile_imp hc)
  calc
    withoutBlanks (s.dropWhile p) =
        withoutBlanks (s.takeWhile p) ++ withoutBlanks (s.dropWhile p) := by
      rw [withoutBlanks_of_allBlank hblank, List.nil_append]
    _ = withoutBlanks s := by rw [← withoutBlanks_append, List.takeWhile_append_dropWhile]

/-- Newlines are blanks, so only the lines matter. -/
theorem withoutBlanks_ofLines (ls : List Text) :
    withoutBlanks (ofLines ls) = (ls.map withoutBlanks).flatten := by
  induction ls with
  | nil => rfl
  | cons line ls ih =>
    cases ls with
    | nil => simp [ofLines]
    | cons next ls =>
      rw [ofLines] at ih
      rw [ofLines, List.intercalate_cons_cons, List.map_cons, List.flatten_cons, ← ih]
      simp [withoutBlanks_cons_of_isBlank isBlank_newline]

end Text

namespace Context

/-- What has no newline stands before the cursor just if it does on its line. -/
theorem isSuffix_take_iff {s text : Text} {offset : Nat} (h : '\n' ∉ s) :
    s <:+ text.take offset ↔ s <:+ lineBefore text offset := by
  obtain ⟨front, rest, haround⟩ := exists_around text offset
  rw [haround.before_eq]
  constructor
  · intro hsuffix
    rcases List.suffix_or_suffix_of_suffix hsuffix (List.suffix_append front _) with hline | hline
    · exact hline
    · -- it would reach over the beginning of the line, to the newline there
      obtain ⟨beyond, rfl⟩ := hline
      have hbeyond : beyond <:+ front := List.suffix_append_self_iff.1 hsuffix
      cases hlast : beyond.getLast? with
      | none =>
        rw [List.getLast?_eq_none_iff.1 hlast]
        exact List.suffix_rfl
      | some c =>
        obtain ⟨init, rfl⟩ := List.getLast?_eq_some_iff.1 hlast
        obtain ⟨before, rfl⟩ := hbeyond
        have hnewline : c = '\n' := by simpa using haround.front_ends
        exact absurd (by simp [hnewline]) h
  · exact List.suffix_append_of_suffix

end Context

namespace Expansion

open Text Context

variable {language : Language} {button : Button} {context : Context} {inserted : Insertion}
  {rule : Rule}

/-! ## Each rule -/

@[simp] theorem withoutBlanks_chars (text : Text) (spaces : Int) :
    withoutBlanks (Insertion.chars ⟨text, spaces⟩) = withoutBlanks text := by
  have hspaces : allBlank (List.replicate spaces.toNat ' ') = true := by simp [allBlank]
  exact withoutBlanks_append_of_allBlank hspaces text

theorem withoutBlanks_openerLead (label line : Text) :
    withoutBlanks (openerLead label line) = [] := by
  unfold openerLead
  split <;> rfl

theorem withoutBlanks_closedBySpace (text : Text) :
    withoutBlanks (closedBySpace text) = withoutBlanks text := by
  unfold closedBySpace
  split
  · rfl
  · exact withoutBlanks_append_of_allBlank (by decide) text

theorem withoutBlanks_indentFurther {pad : Text} (hpad : allBlank pad = true) (text : Text) :
    withoutBlanks (indentFurther pad text) = withoutBlanks text := by
  have hline (line : Text) : withoutBlanks (pad ++ line) = withoutBlanks line := by
    rw [withoutBlanks_append, withoutBlanks_of_allBlank hpad, List.nil_append]
  have hfurther : ((lines text).tail.map (pad ++ ·)).map withoutBlanks =
      (lines text).tail.map withoutBlanks := by
    rw [List.map_map]
    exact List.map_congr_left fun line _ => hline line
  calc
    withoutBlanks (indentFurther pad text) =
        (((lines text).take 1 ++ (lines text).tail).map withoutBlanks).flatten := by
      rw [indentFurther, withoutBlanks_ofLines, List.map_append, List.map_append, hfurther]
    _ = withoutBlanks (ofLines (lines text)) := by
      rw [← List.drop_one, List.take_append_drop, withoutBlanks_ofLines]
    _ = withoutBlanks text := by rw [ofLines, lines, List.intercalate_splitOn]

/-- The rules of a language change blanks only. -/
theorem withoutBlanks_of_mem_ownRules (hrule : rule ∈ ownRules language)
    (h : rule button context = some inserted) :
    withoutBlanks inserted.chars = withoutBlanks button.text := by
  cases ownRule_of_mem hrule with
  | loopWord =>
    rw [eq_of_membership h, Insertion.chars_plain, withoutBlanks_cons_of_isBlank isBlank_space,
      trimStart, withoutBlanks_dropWhile (fun c hc => hc), withoutBlanks_closedBySpace]
  | opener =>
    have hnewline : allBlank ['\n'] = true := by decide
    rw [eq_of_blockOpener h, withoutBlanks_chars, withoutBlanks_append_of_allBlank hnewline,
      withoutBlanks_append, withoutBlanks_openerLead, List.nil_append]

/-- So do the rules for the first line, unless it begins with what is typed already. -/
theorem withoutBlanks_of_mem_firstLineRules (hrule : rule ∈ firstLineRules language)
    (h : rule button context = some inserted) :
    withoutBlanks inserted.chars = withoutBlanks button.text ∨
      ∃ k, IsGreatest {j | Overlap button.text context.line j} k ∧
        inserted = .plain (button.text.drop k) := by
  simp only [firstLineRules, List.mem_cons, List.not_mem_nil, or_false] at hrule
  obtain rfl | rfl | rfl := hrule
  · right
    exact withoutTyped_eq_some_iff.1 h
  · left
    have hspace (c : Char) (hc : (c == ' ') = true) : isBlank c = true := by
      rw [beq_iff_eq.1 hc, isBlank_space]
    rw [eq_of_withoutSpace h, Insertion.chars_plain, dropLeading, withoutBlanks_dropWhile hspace]
  · left
    rw [eq_of_withSpace h, Insertion.chars_plain, withoutBlanks_cons_of_isBlank isBlank_space]

/-- **What an insertion is without its blanks**: the text of the button, or what is left of it after
the longest dotted beginning that the line ends in. -/
theorem withoutBlanks_insertion (language : Language) (button : Button) (text : Text)
    (cursor : Int) :
    withoutBlanks (insertion language button (extract text cursor)).chars =
        withoutBlanks button.text ∨
      ∃ k, IsGreatest {j | Overlap button.text (extract text cursor).line j} k ∧
        insertion language button (extract text cursor) = .plain (button.text.drop k) := by
  rcases insertion_cases language button (extract text cursor) with
    ⟨rule, hrule, happlies⟩ | ⟨-, ⟨rule, hrule, happlies⟩ | ⟨-, hlast⟩⟩
  · left
    exact withoutBlanks_of_mem_ownRules hrule happlies
  · exact withoutBlanks_of_mem_firstLineRules hrule happlies
  · left
    rw [hlast, indentedLines_eq]
    split
    · rw [Option.getD_some, Insertion.chars_plain, before_indentWidth]
      exact withoutBlanks_indentFurther List.all_takeWhile button.text
    · rw [Option.getD_none, Insertion.chars_plain]

/-! ## The whole insertion -/

/-- **A tap neither loses nor invents code.** What it inserts, in any language and at any cursor,
can be written out as long as there is room for the indentation. Without the blanks it is the text
of the button, or what is left of the text after the longest dotted beginning that the line ends in.
Such a beginning is left out whenever no rule of the language applies. -/
theorem code_kept (language : Language) (button : Button) (text : Text) (cursor : Int) :
    (nextIndent (extract text cursor) ≤ Insertion.widest →
        ∃ result, expand language button (extract text cursor) = .ok result) ∧
      ∀ result, expand language button (extract text cursor) = .ok result →
        (withoutBlanks result = withoutBlanks button.text ∨
          ∃ k, IsGreatest {j | Overlap button.text (extract text cursor).line j} k ∧
            withoutBlanks result = withoutBlanks (button.text.drop k)) ∧
        ∀ k, Silent (ownRules language) button (extract text cursor) →
          IsGreatest {j | Overlap button.text (extract text cursor).line j} k →
          result = button.text.drop k := by
  refine ⟨fun hwidth => ⟨_, expand_eq_ok language button (Int.natCast_nonneg _) hwidth⟩, ?_⟩
  intro result hexpand
  obtain rfl := eq_chars_of_expand hexpand
  constructor
  · rcases withoutBlanks_insertion language button text cursor with hkept | ⟨k, hk, hdropped⟩
    · exact .inl hkept
    · refine .inr ⟨k, hk, ?_⟩
      rw [hdropped, Insertion.chars_plain]
  · intro k hsilent hk
    rw [insertion_of_overlap hsilent hk, Insertion.chars_plain]

/-- Of a name that is typed up to its dot the rest is inserted. -/
theorem code_kept_of_collections :
    nextIndent (atEnd "    x = collections.") ≤ Insertion.widest ∧
      Silent (ownRules .python) ⟨"py_41", "defaultdict", "collections.defaultdict("⟩
        (atEnd "    x = collections.") ∧
      IsGreatest {j | Overlap "collections.defaultdict(" (atEnd "    x = collections.").line j} 12 ∧
      expand .python ⟨"py_41", "defaultdict", "collections.defaultdict("⟩
        (atEnd "    x = collections.") = .ok (("collections.defaultdict(" : Text).drop 12) := by
  have hwidth : nextIndent (atEnd "    x = collections.") ≤ Insertion.widest := by decide
  have hsilent : Silent (ownRules .python) ⟨"py_41", "defaultdict", "collections.defaultdict("⟩
      (atEnd "    x = collections.") := by decide +kernel
  have hgreatest : IsGreatest
      {j | Overlap "collections.defaultdict(" (atEnd "    x = collections.").line j} 12 :=
    dottedOverlap?_eq_some_iff.1 (by decide +kernel)
  obtain ⟨hwritten, hkept⟩ := code_kept .python
    ⟨"py_41", "defaultdict", "collections.defaultdict("⟩ "    x = collections."
    ("    x = collections." : Text).length
  obtain ⟨result, hexpand⟩ := hwritten hwidth
  have hrest := (hkept result hexpand).2 12 hsilent hgreatest
  refine ⟨hwidth, hsilent, hgreatest, ?_⟩
  rw [← hrest]
  exact hexpand

/-! ## Beginnings that are left out -/

/-- What is inserted without a dotted beginning is so because the line ends in it, and in no longer
one: every other rule keeps the dot. -/
theorem isGreatest_of_expand_eq_drop {text : Text} {cursor : Int} {k : Nat}
    (hdotted : Dotted button.text k)
    (hexpand : expand language button (extract text cursor) = .ok (button.text.drop k)) :
    IsGreatest {j | Overlap button.text (extract text cursor).line j} k := by
  have hchars := eq_chars_of_expand hexpand
  rcases withoutBlanks_insertion language button text cursor with hkept | ⟨j, hj, hdropped⟩
  · -- the dot is visible
    have hdot : '.' ∈ withoutBlanks (button.text.take k) :=
      List.mem_filter.2 ⟨List.mem_of_getLast? hdotted.dotted, by decide⟩
    have hcut : withoutBlanks (button.text.take k) ++ withoutBlanks (button.text.drop k) =
        withoutBlanks (button.text.drop k) := by
      rw [← withoutBlanks_append, List.take_append_drop, ← hkept, hchars]
    rw [List.append_left_eq_self.1 hcut] at hdot
    cases hdot
  · -- what is left has one length only
    rw [hdropped, Insertion.chars_plain] at hchars
    have hlength := congrArg List.length hchars
    rw [List.length_drop, List.length_drop] at hlength
    have hk := hdotted.lt
    have hlt := hj.1.lt
    obtain rfl : k = j := by omega
    exact hj

/-- **When a beginning that is left out stands before the cursor.** A dotted beginning of the text
of a button is left out where the whole line ends in it. The text up to the cursor ends in it just
if the part of the line before the cursor does, and just then the insertion completes the text of
the button at the cursor. So it is where nothing stands after the cursor on its line. -/
theorem dropped_beginning_typed_iff (language : Language) (button : Button) (text : Text)
    (cursor : Int) {k : Nat} (hdotted : Dotted button.text k)
    (hexpand : expand language button (extract text cursor) = .ok (button.text.drop k)) :
    IsGreatest {j | Overlap button.text (extract text cursor).line j} k ∧
      (button.text.take k <:+ text.take (clamp text.length cursor) ↔
        button.text.take k <:+ lineBefore text (clamp text.length cursor)) ∧
      (button.text <:+ text.take (clamp text.length cursor) ++ button.text.drop k ↔
        button.text.take k <:+ lineBefore text (clamp text.length cursor)) ∧
      (lineAfter text (clamp text.length cursor) = [] →
        button.text.take k <:+ text.take (clamp text.length cursor)) := by
  have hgreatest := isGreatest_of_expand_eq_drop hdotted hexpand
  have htyped : button.text.take k <:+ (extract text cursor).line := hgreatest.1.typed
  have hline : '\n' ∉ button.text.take k :=
    fun hmem => not_mem_line text cursor (htyped.subset hmem)
  have hbefore : button.text.take k <:+ text.take (clamp text.length cursor) ↔
      button.text.take k <:+ lineBefore text (clamp text.length cursor) := isSuffix_take_iff hline
  refine ⟨hgreatest, hbefore, ?_, fun hend => hbefore.2 ?_⟩
  · calc
      button.text <:+ text.take (clamp text.length cursor) ++ button.text.drop k ↔
          button.text.take k ++ button.text.drop k <:+
            text.take (clamp text.length cursor) ++ button.text.drop k := by
        rw [List.take_append_drop]
      _ ↔ button.text.take k <:+ text.take (clamp text.length cursor) :=
        List.suffix_append_self_iff
      _ ↔ button.text.take k <:+ lineBefore text (clamp text.length cursor) := hbefore
  · have hwhole : (extract text cursor).line = lineBefore text (clamp text.length cursor) := by
      simp only [extract, hend, List.append_nil]
    rwa [hwhole] at htyped

/-- At the end of a line that other lines follow the longest of two beginnings is left out. -/
theorem dropped_beginning_typed_of_print :
    (⟨"java_21", "System.out.println", "System.out.println("⟩ : Button) ∈
        Language.java.keyboard.buttons ∧
      Dotted "System.out.println(" 11 ∧
      expand .java ⟨"java_21", "System.out.println", "System.out.println("⟩
        (extract "int x;\n  System.out.\n\x7d" 20) = .ok (("System.out.println(" : Text).drop 11) ∧
      ("System.out.println(" : Text) <:+
        ("int x;\n  System.out.\n\x7d" : Text).take 20 ++
          ("System.out.println(" : Text).drop 11 := by
  have hdotted : Dotted "System.out.println(" 11 := ⟨by decide, by decide, by decide⟩
  have hexpand : expand .java ⟨"java_21", "System.out.println", "System.out.println("⟩
      (extract "int x;\n  System.out.\n\x7d" 20) =
        .ok (("System.out.println(" : Text).drop 11) := by
    decide +kernel
  obtain ⟨-, hbefore, hspells, hend⟩ :=
    dropped_beginning_typed_iff .java ⟨"java_21", "System.out.println", "System.out.println("⟩
      "int x;\n  System.out.\n\x7d" 20 hdotted hexpand
  exact ⟨by decide +kernel, hdotted, hexpand, hspells.2 (hbefore.1 (hend (by decide)))⟩

/-- In the middle of a line a beginning is left out that stands at the end of the line only. -/
theorem dropped_beginning_after_cursor :
    (⟨"py_41", "defaultdict", "collections.defaultdict("⟩ : Button) ∈
        Language.python.keyboard.buttons ∧
      Dotted "collections.defaultdict(" 12 ∧
      expand .python ⟨"py_41", "defaultdict", "collections.defaultdict("⟩
        (extract "y = ; x = collections." 4) = .ok (("collections.defaultdict(" : Text).drop 12) ∧
      ¬ ("collections.defaultdict(" : Text).take 12 <:+
        ("y = ; x = collections." : Text).take 4 := by
  refine ⟨by decide +kernel, ⟨by decide, by decide, by decide⟩, by decide +kernel, by decide⟩

end Expansion

end CodeKeyboard
