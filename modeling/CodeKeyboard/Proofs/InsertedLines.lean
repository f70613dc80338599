import CodeKeyboard.Proofs.CurrentLine
import CodeKeyboard.Proofs.DecidingRule

/-!
# The indentation of inserted lines (specification §E11)

Two rules begin new lines. The one for block openers makes as many spaces as the line has blanks at
its beginning, and four more. The one for snippets copies the blanks. The two agree where the blanks
are spaces; after a tab the opened body is indented by spaces.

The rule for snippets comes last, so it never sees a snippet that an earlier rule has changed. Those
rules change the first line only, and the further lines are inserted as the button has them: they
follow the indentation just if they begin with it by themselves.

- `Text.furtherLines`: the lines after the first; what stands before them on the first line does not
  matter.
- `Expansion.furtherLines_insertion`: where no earlier rule applies the further lines are indented.
- `Expansion.furtherLines_of_mem_firstLineRules`: the earlier rules of all languages keep them.
- `Expansion.opened_body_indented_iff`: when an opened body follows the indentation of its header.
- `Expansion.further_lines_follow`: when the further lines of a snippet do.
-/

namespace CodeKeyboard

namespace Text

variable {s t pad indent : Text}

/-- The lines of a text after the first. -/
def furtherLines (s : Text) : List Text :=
  (lines s).tail

/-- What stands at the beginning of the first line does not matter. -/
theorem furtherLines_append_of_not_mem (hs : '\n' ∉ s) (t : Text) :
    furtherLines (s ++ t) = furtherLines t := by
  induction s with
  | nil => rfl
  | cons c s ih =>
    have hc : c ≠ '\n' := fun h => hs (h ▸ List.mem_cons_self)
    have hmem : '\n' ∉ s := fun h => hs (List.mem_cons_of_mem c h)
    rw [← ih hmem, furtherLines, lines, List.cons_append, List.splitOn_cons_eq_if_modifyHead,
      if_neg (by simpa using hc), List.tail_modifyHead]
    rfl

/-- A newline ends the lines before it. -/
theorem furtherLines_append_newline (s t : Text) :
    furtherLines (s ++ '\n' :: t) = furtherLines s ++ lines t := by
  have hne : lines s ≠ [] := List.splitOn_ne_nil '\n' s
  have hcut : lines (s ++ '\n' :: t) = lines s ++ lines t := List.splitOn_append_cons_self ..
  rw [furtherLines, hcut, List.tail_append_of_ne_nil hne, furtherLines]

/-- A line has no newline. -/
theorem not_mem_of_mem_lines {line : Text} (h : line ∈ lines s) : '\n' ∉ line := by
  induction s generalizing line with
  | nil =>
    obtain rfl : line = [] := by simpa [lines] using h
    exact List.not_mem_nil
  | cons c s ih =>
    obtain ⟨first, rest, hlines⟩ := exists_lines_eq_cons s
    rw [hlines] at ih
    rw [lines] at h hlines
    rw [List.splitOn_cons_eq_if_modifyHead, hlines] at h
    split at h
    · rcases List.mem_cons.1 h with rfl | hmem
      · exact List.not_mem_nil
      · exact ih hmem
    · next hc =>
      rw [List.modifyHead_cons] at h
      rcases List.mem_cons.1 h with rfl | hmem
      · rw [List.mem_cons, not_or]
        exact ⟨fun heq => hc (beq_iff_eq.2 heq.symm), ih List.mem_cons_self⟩
      · exact ih (List.mem_cons_of_mem first hmem)

/-- Each line after the first begins with the indentation. -/
def FollowsIndent (indent s : Text) : Prop :=
  ∀ line ∈ furtherLines s, indent <+: line

theorem followsIndent_congr (h : furtherLines s = furtherLines t) :
    FollowsIndent indent s ↔ FollowsIndent indent t := by
  rw [FollowsIndent, FollowsIndent, h]

instance decidableFollowsIndent (indent s : Text) : Decidable (FollowsIndent indent s) :=
  inferInstanceAs (Decidable (∀ line ∈ furtherLines s, indent <+: line))

/-- Enough spaces begin with an indentation just if it consists of spaces. -/
theorem isPrefix_spaces_iff {width : Nat} (h : indent.length ≤ width) :
    indent <+: List.replicate width ' ' ↔ ∀ c ∈ indent, c = ' ' := by
  rw [List.prefix_replicate_iff, List.eq_replicate_iff]
  constructor
  · rintro ⟨-, -, hspaces⟩
    exact hspaces
  · intro hspaces
    exact ⟨h, rfl, hspaces⟩

/-- So they do with more spaces after it. -/
theorem append_isPrefix_spaces_iff (indent : Text) (more : Nat) :
    indent ++ List.replicate more ' ' <+: List.replicate (indent.length + more) ' ' ↔
      ∀ c ∈ indent, c = ' ' := by
  rw [isPrefix_spaces_iff (by simp), List.forall_mem_append]
  exact and_iff_left fun c hc => List.eq_of_mem_replicate hc

end Text

namespace Expansion

open Text Context

variable {language : Language} {button : Button} {context : Context} {inserted : Insertion}
  {rule : Rule} {label : Text} {header loop : Pattern}

/-! ## Snippets -/

theorem furtherLines_indentFurther {pad : Text} (hpad : '\n' ∉ pad) (text : Text) :
    furtherLines (indentFurther pad text) = (furtherLines text).map (pad ++ ·) := by
  obtain ⟨first, rest, hlines⟩ := exists_lines_eq_cons text
  have hall : ∀ line ∈ first :: rest, '\n' ∉ line := by
    intro line hline
    rw [← hlines] at hline
    exact not_mem_of_mem_lines hline
  -- so the lines that are put together are the ones that are found again
  have hpadded : ∀ line ∈ first :: rest.map (pad ++ ·), '\n' ∉ line := by
    intro line hline
    rcases List.mem_cons.1 hline with rfl | hfurther
    · exact hall line List.mem_cons_self
    · obtain ⟨line, hmem, rfl⟩ := List.mem_map.1 hfurther
      rw [List.mem_append, not_or]
      exact ⟨hpad, hall line (List.mem_cons_of_mem first hmem)⟩
  have hcut : lines (ofLines (first :: rest.map (pad ++ ·))) = first :: rest.map (pad ++ ·) :=
    List.splitOn_intercalate '\n' hpadded (List.cons_ne_nil _ _)
  rw [furtherLines, furtherLines, indentFurther, hlines, List.take_succ_cons, List.take_zero,
    List.tail_cons, List.singleton_append, hcut, List.tail_cons]

/-- **Where no earlier rule applies the further lines are indented**, with the blanks that the line
begins with. -/
theorem furtherLines_insertion {text : Text} {cursor : Int} (hlines : '\n' ∈ button.text)
    (hindent : (extract text cursor).line.indentation ≠ [])
    (hown : Silent (ownRules language) button (extract text cursor))
    (hfirst : Silent (firstLineRules language) button (extract text cursor)) :
    furtherLines (insertion language button (extract text cursor)).chars =
      (furtherLines button.text).map ((extract text cursor).line.indentation ++ ·) := by
  have hwidth : (extract text cursor).indentWidth ≠ 0 :=
    fun h => hindent (List.length_eq_zero_iff.1 (Int.ofNat_eq_zero.1 h))
  have hpad : '\n' ∉ (extract text cursor).line.indentation :=
    fun hmem => not_mem_line text cursor ((List.takeWhile_prefix isBlank).subset hmem)
  rw [insertion_of_silent hown hfirst, indentedLines_eq, if_pos ⟨hlines, hwidth⟩, Option.getD_some,
    Insertion.chars_plain, before_indentWidth, furtherLines_indentFurther hpad]

/-- **The rules for the first line keep the further lines.** -/
theorem furtherLines_of_mem_firstLineRules {text : Text} {cursor : Int}
    (hrule : rule ∈ firstLineRules language)
    (h : rule button (extract text cursor) = some inserted) :
    furtherLines inserted.chars = furtherLines button.text := by
  simp only [firstLineRules, List.mem_cons, List.not_mem_nil, or_false] at hrule
  obtain rfl | rfl | rfl := hrule
  · -- what is typed already is part of a line
    obtain ⟨k, hk, rfl⟩ := withoutTyped_eq_some_iff.1 h
    have htyped : '\n' ∉ button.text.take k :=
      fun hmem => not_mem_line text cursor (hk.1.typed.subset hmem)
    rw [Insertion.chars_plain, ← furtherLines_append_of_not_mem htyped, List.take_append_drop]
  · have hspaces : '\n' ∉ button.text.takeWhile (· == ' ') := by
      intro hmem
      have hspace := List.mem_takeWhile_imp hmem
      cases hspace
    rw [eq_of_withoutSpace h, Insertion.chars_plain, dropLeading,
      ← furtherLines_append_of_not_mem hspaces, List.takeWhile_append_dropWhile]
  · have hspace : '\n' ∉ [' '] := by decide
    rw [eq_of_withSpace h, Insertion.chars_plain, ← List.singleton_append,
      furtherLines_append_of_not_mem hspace]

/-- A loop word that is set off keeps the lines after the blanks that it begins with. -/
theorem furtherLines_of_membership (h : membership label loop button context = some inserted) :
    furtherLines inserted.chars = furtherLines (trimStart (closedBySpace button.text)) := by
  have hspace : '\n' ∉ [' '] := by decide
  rw [eq_of_membership h, Insertion.chars_plain, ← List.singleton_append,
    furtherLines_append_of_not_mem hspace]

/-! ## Opened bodies -/

/-- What a block opener inserts in a context that was found in a text. -/
theorem chars_of_blockOpener {text : Text} {cursor : Int}
    (h : blockOpener label header button (extract text cursor) = some inserted) :
    inserted.chars = openerLead label (extract text cursor).line ++ (button.text ++
      '\n' :: List.replicate ((extract text cursor).line.indentation.length + indentStep) ' ') := by
  have hwidth : (nextIndent (extract text cursor)).toNat =
      (extract text cursor).line.indentation.length + indentStep := rfl
  rw [eq_of_blockOpener h, Insertion.chars, hwidth]
  simp only [List.append_assoc, List.singleton_append]

theorem not_mem_openerLead (label line : Text) : '\n' ∉ openerLead label line := by
  unfold openerLead
  split <;> decide

/-- The further lines of an opened block are those of the button, and the body. -/
theorem furtherLines_of_blockOpener {text : Text} {cursor : Int}
    (h : blockOpener label header button (extract text cursor) = some inserted) :
    furtherLines inserted.chars = furtherLines button.text ++
      [List.replicate ((extract text cursor).line.indentation.length + indentStep) ' '] := by
  have hspaces (n : Nat) : lines (List.replicate n ' ') = [List.replicate n ' '] := by
    refine List.splitOn_eq_singleton fun hmem => ?_
    cases List.eq_of_mem_replicate hmem
  rw [chars_of_blockOpener h, furtherLines_append_of_not_mem (not_mem_openerLead _ _),
    furtherLines_append_newline, hspaces]

/-- They follow the indentation if those of the button do and the indentation consists of spaces. -/
theorem followsIndent_of_blockOpener_iff {text : Text} {cursor : Int}
    (h : blockOpener label header button (extract text cursor) = some inserted) :
    FollowsIndent (extract text cursor).line.indentation inserted.chars ↔
      FollowsIndent (extract text cursor).line.indentation button.text ∧
        ∀ c ∈ (extract text cursor).line.indentation, c = ' ' := by
  rw [FollowsIndent, furtherLines_of_blockOpener h, List.forall_mem_append,
    List.forall_mem_singleton, isPrefix_spaces_iff (Nat.le_add_right _ indentStep)]
  exact Iff.rfl

/-- **When an opened body follows the indentation of its header.** Where the rule for block openers
applies it decides, and what it inserts ends in a line of spaces. This line begins with the blanks
that the line of the header begins with, and one level more, just if those blanks are spaces. -/
theorem opened_body_indented_iff (language : Language) (button : Button) (text : Text)
    (cursor : Int) (hrule : blockOpener label header ∈ ownRules language)
    (happlies : blockOpener label header button (extract text cursor) = some inserted) :
    insertion language button (extract text cursor) = inserted ∧
      (nextIndent (extract text cursor) ≤ Insertion.widest →
        expand language button (extract text cursor) = .ok inserted.chars) ∧
      ∃ body, inserted.chars =
          openerLead label (extract text cursor).line ++ (button.text ++ '\n' :: body) ∧
        '\n' ∉ body ∧
        ((extract text cursor).line.indentation ++ List.replicate indentStep ' ' <+: body ↔
          ∀ c ∈ (extract text cursor).line.indentation, c = ' ') := by
  have hinserted := insertion_of_mem_ownRules hrule happlies
  refine ⟨hinserted, fun hwidth => ?_, _, chars_of_blockOpener happlies, fun hmem => ?_,
    append_isPrefix_spaces_iff _ _⟩
  · rw [expand_eq_ok language button (Int.natCast_nonneg _) hwidth, hinserted]
  · cases List.eq_of_mem_replicate hmem

/-- The cursor may be in the blanks before the header. -/
theorem opened_body_indented_of_while :
    blockOpener ":" colonHeader ∈ ownRules .python ∧
      blockOpener ":" colonHeader ⟨"py_4", ":", ":"⟩ (extract "a\n    while ok\nb" 4) =
        some ⟨":\n", 8⟩ ∧
      ∃ body, expand .python ⟨"py_4", ":", ":"⟩ (extract "a\n    while ok\nb" 4) =
          .ok (":\n" ++ body) ∧
        "    ".toList ++ List.replicate indentStep ' ' <+: body := by
  have hrule : blockOpener ":" colonHeader ∈ ownRules .python :=
    List.mem_cons_of_mem _ List.mem_cons_self
  have happlies : blockOpener ":" colonHeader ⟨"py_4", ":", ":"⟩ (extract "a\n    while ok\nb" 4) =
      some ⟨":\n", 8⟩ := by decide +kernel
  have hline : (extract "a\n    while ok\nb" 4).line.indentation = "    " := by decide
  have hlead : openerLead ":" (extract "a\n    while ok\nb" 4).line = [] := by decide
  obtain ⟨-, hexpand, body, hbody, -, hfollows⟩ :=
    opened_body_indented_iff .python ⟨"py_4", ":", ":"⟩ "a\n    while ok\nb" 4 hrule happlies
  rw [hlead] at hbody
  rw [hline] at hfollows
  have hspaces : ∀ c ∈ ("    " : Text), c = ' ' := by simp
  refine ⟨hrule, happlies, body, ?_, hfollows.2 hspaces⟩
  rw [hexpand (by decide), hbody]
  rfl

/-- After a tab the body is indented by spaces, which do not begin with the tab. -/
theorem opened_body_after_tab :
    blockOpener ":" colonHeader ∈ ownRules .python ∧
      (blockOpener ":" colonHeader ⟨"py_4", ":", ":"⟩ (atEnd "\tif x")).isSome = true ∧
      (atEnd "\tif x").line.indentation = "\t" ∧
      expand .python ⟨"py_4", ":", ":"⟩ (atEnd "\tif x") = .ok (":\n" ++ "     ".toList) ∧
      ¬ "\t".toList ++ List.replicate indentStep ' ' <+: "     ".toList := by
  refine ⟨List.mem_cons_of_mem _ List.mem_cons_self, by decide +kernel, by decide,
    by decide +kernel, by decide⟩

/-! ## All rules -/

/-- **How the further lines of an insertion stand to the indentation of the line**, by the rule that
decides. -/
structure LinesFollow (language : Language) (button : Button) (context : Context) (indent : Text) :
    Prop where
  /-- Where no earlier rule applies, each further line begins with the indentation, and the line of
  the button comes after it. -/
  indented : Silent (ownRules language) button context →
    Silent (firstLineRules language) button context →
    FollowsIndent indent (insertion language button context).chars ∧
      furtherLines (insertion language button context).chars =
        (furtherLines button.text).map (indent ++ ·)
  /-- Where a rule for the first line applies, the lines do that do so by themselves. -/
  kept : Silent (ownRules language) button context →
    ¬ Silent (firstLineRules language) button context →
    (FollowsIndent indent (insertion language button context).chars ↔
      FollowsIndent indent button.text)
  /-- Where a body is opened, its line does if the indentation consists of spaces. -/
  opened : ∀ label header, blockOpener label header ∈ ownRules language →
    (blockOpener label header button context).isSome →
    (FollowsIndent indent (insertion language button context).chars ↔
      FollowsIndent indent button.text ∧ ∀ c ∈ indent, c = ' ')
  /-- Where a loop word is set off, the lines do that do so without the blanks before them. -/
  setOff : ∀ label loop, membership label loop ∈ ownRules language →
    (membership label loop button context).isSome →
    (FollowsIndent indent (insertion language button context).chars ↔
      FollowsIndent indent (trimStart (closedBySpace button.text)))

/-- **When the further lines of a snippet follow the indentation.** A button inserts several lines
on an indented line. Each line after the first begins with the indentation where no rule before the
last one applies. Where one does, the further lines are inserted as the button has them, after them
the body of an opened block, so that they begin with the indentation just if they do so by
themselves. -/
theorem further_lines_follow (language : Language) (button : Button) (text : Text) (cursor : Int)
    (hlines : '\n' ∈ button.text) (hindent : (extract text cursor).line.indentation ≠ []) :
    (nextIndent (extract text cursor) ≤ Insertion.widest →
        expand language button (extract text cursor) =
          .ok (insertion language button (extract text cursor)).chars) ∧
      LinesFollow language button (extract text cursor) (extract text cursor).line.indentation := by
  refine ⟨expand_eq_ok language button (Int.natCast_nonneg _), ?_⟩
  constructor
  case indented =>
    intro hown hfirst
    have hfurther := furtherLines_insertion hlines hindent hown hfirst
    refine ⟨fun line hline => ?_, hfurther⟩
    rw [hfurther] at hline
    obtain ⟨further, -, rfl⟩ := List.mem_map.1 hline
    exact List.prefix_append _ _
  case kept =>
    intro hown hfirst
    rcases insertion_cases language button (extract text cursor) with
      ⟨rule, hrule, happlies⟩ | ⟨-, ⟨rule, hrule, happlies⟩ | ⟨hsilent, -⟩⟩
    · rw [hown rule hrule] at happlies
      cases happlies
    · exact followsIndent_congr (furtherLines_of_mem_firstLineRules hrule happlies)
    · exact absurd hsilent hfirst
  case opened =>
    intro label header hrule happlies
    obtain ⟨inserted, happlies⟩ := Option.isSome_iff_exists.1 happlies
    rw [insertion_of_mem_ownRules hrule happlies]
    exact followsIndent_of_blockOpener_iff happlies
  case setOff =>
    intro label loop hrule happlies
    obtain ⟨inserted, happlies⟩ := Option.isSome_iff_exists.1 happlies
    rw [insertion_of_mem_ownRules hrule happlies]
    exact followsIndent_congr (furtherLines_of_membership happlies)

/-- On a new line after a tab a loop is indented by the tab. -/
theorem further_lines_follow_of_loop :
    '\n' ∈ ("for (int var = 0; var < var; var++)\n\x7b\n    \n\x7d" : Text) ∧
      (extract "x;\n\t" 4).line.indentation ≠ [] ∧
      expand .cSharp ⟨"cs_13", "for", "for (int var = 0; var < var; var++)\n\x7b\n    \n\x7d"⟩
          (extract "x;\n\t" 4) =
        .ok "for (int var = 0; var < var; var++)\n\t\x7b\n\t    \n\t\x7d" ∧
      FollowsIndent "\t" "for (int var = 0; var < var; var++)\n\t\x7b\n\t    \n\t\x7d" := by
  have hlines : '\n' ∈ ("for (int var = 0; var < var; var++)\n\x7b\n    \n\x7d" : Text) := by decide
  have hindent : (extract "x;\n\t" 4).line.indentation ≠ [] := by decide
  have hown : Silent (ownRules .cSharp)
      ⟨"cs_13", "for", "for (int var = 0; var < var; var++)\n\x7b\n    \n\x7d"⟩
      (extract "x;\n\t" 4) := by decide +kernel
  have hfirst : Silent (firstLineRules .cSharp)
      ⟨"cs_13", "for", "for (int var = 0; var < var; var++)\n\x7b\n    \n\x7d"⟩
      (extract "x;\n\t" 4) := by decide +kernel
  have hchars : (insertion .cSharp
      ⟨"cs_13", "for", "for (int var = 0; var < var; var++)\n\x7b\n    \n\x7d"⟩
      (extract "x;\n\t" 4)).chars =
        "for (int var = 0; var < var; var++)\n\t\x7b\n\t    \n\t\x7d" := by decide +kernel
  obtain ⟨hexpand, hfollow⟩ := further_lines_follow .cSharp
    ⟨"cs_13", "for", "for (int var = 0; var < var; var++)\n\x7b\n    \n\x7d"⟩ "x;\n\t" 4
    hlines hindent
  have hfollows := (hfollow.indented hown hfirst).1
  rw [hchars] at hexpand hfollows
  exact ⟨hlines, hindent, hexpand (by decide), hfollows⟩

/-- A loop whose beginning up to the dots is typed already is not indented any more. -/
theorem further_lines_after_typed_beginning :
    (⟨"rust_13", "for", "for var in 0..var \x7b\n    \n\x7d"⟩ : Button) ∈
        Language.rust.keyboard.buttons ∧
      '\n' ∈ ("for var in 0..var \x7b\n    \n\x7d" : Text) ∧
      (atEnd "    for var in 0..").line.indentation = "    " ∧
      expand .rust ⟨"rust_13", "for", "for var in 0..var \x7b\n    \n\x7d"⟩
        (atEnd "    for var in 0..") = .ok "var \x7b\n    \n\x7d" ∧
      ¬ FollowsIndent "    " "var \x7b\n    \n\x7d" := by
  refine ⟨by decide +kernel, by decide, by decide, by decide +kernel, by decide⟩

end Expansion

end CodeKeyboard
