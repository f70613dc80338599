import CodeKeyboard.Token
import Mathlib.Order.Bounds.Defs

/-!
# The regions and the words of a line (specification §4.1)

What the tokens of a line are, told without a scan. The comments and strings of a line are its
regions. From the beginning of the line, and again from the end of each region, the next one begins
at the least place where a marker stands: that of a comment up to the end of the line, else that of
a block comment, else the delimiter of a string. It runs through the first marker that ends it, or
to the end of the line. What stands between regions is cut at blanks and punctuation, which are
tokens of their own, and the runs of other characters between them are words.

- `Token.Begins`, `Token.ClosesAt`, `Token.RunsTo`: where regions begin and end.
- `Token.Worded`: how the text between two regions is cut. A word right before a region is plain.
- `Token.Divided`: the tokens of a line from a place on.
- `Token.next?_of_begins`, `Token.next?_of_closesAt`: where a marker stands the scan changes its
  state, and takes the marker; elsewhere it does not.
-/

namespace CodeKeyboard

/-- A region of a line, by its markers. -/
inductive RegionForm where
  /-- A comment up to the end of the line. -/
  | lineComment
  /-- A comment between two markers. -/
  | blockComment (block : BlockComment)
  /-- A string between two equal delimiters. -/
  | string (delimiter : Char)

namespace RegionForm

/-- The class of the token that a region is. -/
def kind : RegionForm → TokenKind
  | lineComment => .comment
  | blockComment _ => .comment
  | string _ => .string

/-- The marker that begins a region. -/
def opening (lexicon : Lexicon) : RegionForm → Text
  | lineComment => lexicon.lineComment
  | blockComment block => block.opening
  | string delimiter => [delimiter]

/-- The marker that ends a region; empty when only the end of the line does. -/
def closing : RegionForm → Text
  | lineComment => []
  | blockComment block => block.closing
  | string delimiter => [delimiter]

/-- The state of the scan in a region. -/
def inside : RegionForm → ScanState
  | lineComment => ⟨.comment, none⟩
  | blockComment block => ⟨.comment, some block.closing⟩
  | string delimiter => ⟨.string, some [delimiter]⟩

end RegionForm

namespace Token

/-! ## Regions -/

/-- A marker stands at a place of a text. -/
def OccursAt (marker text : Text) (place : Nat) : Prop :=
  marker <+: text.drop place

/-- The marker of a comment up to the end of the line stands at a place. -/
def LineCommentAt (lexicon : Lexicon) (text : Text) (place : Nat) : Prop :=
  lexicon.lineComment ≠ [] ∧ OccursAt lexicon.lineComment text place

/-- The marker of a block comment stands at a place. -/
def BlockCommentAt (lexicon : Lexicon) (text : Text) (place : Nat) (block : BlockComment) : Prop :=
  lexicon.blockComment = some block ∧ OccursAt block.opening text place

/-- A region begins at a place: of the markers that stand there, that of a comment up to the end of
the line comes first, then that of a block comment. An empty marker begins no region, and one of a
block comment keeps strings from beginning. -/
inductive Begins (lexicon : Lexicon) (text : Text) (place : Nat) : RegionForm → Prop
  | lineComment (here : LineCommentAt lexicon text place) :
      Begins lexicon text place .lineComment
  | blockComment {block : BlockComment} (noLine : ¬ LineCommentAt lexicon text place)
      (here : BlockCommentAt lexicon text place block) (marked : block.opening ≠ []) :
      Begins lexicon text place (.blockComment block)
  | string {c : Char} (noLine : ¬ LineCommentAt lexicon text place)
      (noBlock : ∀ block, ¬ BlockCommentAt lexicon text place block)
      (here : OccursAt [c] text place) (delimits : [c] ∈ lexicon.delimiters) :
      Begins lexicon text place (.string c)

/-- The marker that ends a region stands at a place after the one that begins it, and in a string
there is no backslash right before it. -/
structure ClosesAt (lexicon : Lexicon) (text : Text) (start : Nat) (form : RegionForm)
    (place : Nat) : Prop where
  after : start + (form.opening lexicon).length ≤ place
  marked : form.closing ≠ []
  here : OccursAt form.closing text place
  unescaped : form.kind = .string → text[place - 1]? ≠ some '\\'

/-- A region that begins at `start` runs through the first marker that ends it, or to the end of the
line when there is none. -/
def RunsTo (lexicon : Lexicon) (text : Text) (start : Nat) (form : RegionForm) (stop : Nat) :
    Prop :=
  (∃ m, IsLeast {m | ClosesAt lexicon text start form m} m ∧ stop = m + form.closing.length) ∨
    (∀ m, ¬ ClosesAt lexicon text start form m) ∧ stop = text.length

/-! ## Words -/

/-- The class of a word: a keyword, else a name of the language, else a number, else plain. -/
inductive Classed (lexicon : Lexicon) (word : Text) : TokenKind → Prop
  | keyword (here : word ∈ lexicon.keywords) : Classed lexicon word .keyword
  | builtin (noKeyword : word ∉ lexicon.keywords) (here : word ∈ lexicon.builtins) :
      Classed lexicon word .builtin
  | number (noKeyword : word ∉ lexicon.keywords) (noBuiltin : word ∉ lexicon.builtins)
      (digits : ∀ c ∈ word, '0' ≤ c ∧ c ≤ '9') : Classed lexicon word .number
  | plain (noKeyword : word ∉ lexicon.keywords) (noBuiltin : word ∉ lexicon.builtins)
      (noNumber : ∃ c ∈ word, ¬ ('0' ≤ c ∧ c ≤ '9')) : Classed lexicon word .plain

/-- A text without regions is cut into tokens: each blank and each punctuation character is one, and
so is each run of other characters, up to the next boundary or the end of the text. The last run is
plain where a region follows the text; any other is classed by its characters. -/
inductive Worded (lexicon : Lexicon) (beforeRegion : Bool) : Text → List Token → Prop
  | nil : Worded lexicon beforeRegion [] []
  | boundary {c : Char} {s : Text} {tokens : List Token} (hc : isBoundary c = true)
      (rest : Worded lexicon beforeRegion s tokens) :
      Worded lexicon beforeRegion (c :: s) (⟨[c], .plain⟩ :: tokens)
  | word {word s : Text} {kind : TokenKind} {tokens : List Token} (nonempty : word ≠ [])
      (inner : ∀ c ∈ word, isBoundary c = false) (maximal : ∀ c ∈ s.head?, isBoundary c = true)
      (classed : if s = [] ∧ beforeRegion = true then kind = .plain else Classed lexicon word kind)
      (rest : Worded lexicon beforeRegion s tokens) :
      Worded lexicon beforeRegion (word ++ s) (⟨word, kind⟩ :: tokens)

/-- **The tokens of a line from a place on**: those of the text before the next region, the region
as one token, and those from its end on; without a region, those of all the text that is left. -/
inductive Divided (lexicon : Lexicon) (text : Text) : Nat → List Token → Prop
  | last {place : Nat} {tokens : List Token}
      (noRegion : ∀ i form, place ≤ i → ¬ Begins lexicon text i form)
      (words : Worded lexicon false (text.drop place) tokens) : Divided lexicon text place tokens
  | region {place start stop : Nat} {form : RegionForm} {words tokens : List Token}
      (next : IsLeast {i | place ≤ i ∧ ∃ form, Begins lexicon text i form} start)
      (begins : Begins lexicon text start form) (ends : RunsTo lexicon text start form stop)
      (before : Worded lexicon true (text.extract place start) words)
      (rest : Divided lexicon text stop tokens) :
      Divided lexicon text place (words ++ ⟨text.extract start stop, form.kind⟩ :: tokens)

/-! ## Markers and changes of state -/

section Markers

variable {lexicon : Lexicon} {text : Text} {place : Nat} {form : RegionForm} {c : Char}
  {rest : Text}

theorem occursAt_iff {marker : Text} (htext : text.drop place = rest) :
    OccursAt marker text place ↔ marker.isPrefixOf rest = true := by
  rw [OccursAt, htext, List.isPrefixOf_iff_prefix]

theorem occursAt_singleton_iff {d : Char} (htext : text.drop place = c :: rest) :
    OccursAt [d] text place ↔ c = d := by
  rw [OccursAt, htext, List.cons_prefix_cons]
  simp [eq_comm]

theorem lineCommentAt_iff (htext : text.drop place = rest) :
    LineCommentAt lexicon text place ↔
      (!lexicon.lineComment.isEmpty && lexicon.lineComment.isPrefixOf rest) = true := by
  rw [LineCommentAt, occursAt_iff htext, Bool.and_eq_true, Bool.not_eq_true',
    List.isEmpty_eq_false_iff]

theorem blockCommentAt_iff {block : BlockComment} (htext : text.drop place = rest) :
    BlockCommentAt lexicon text place block ↔
      lexicon.blockComment.filter (·.opening.isPrefixOf rest) = some block := by
  rw [BlockCommentAt, occursAt_iff htext, Option.filter_eq_some_iff]

/-- Where a region begins the scan goes into it, and takes its marker. -/
theorem next?_of_begins (h : Begins lexicon text place form) (htext : text.drop place = c :: rest)
    (previous : Option Char) :
    ScanState.start.next? lexicon (c :: rest) (some c) previous =
      some (form.inside, (form.opening lexicon).length) := by
  unfold ScanState.next? ScanState.start
  dsimp only
  cases h with
  | lineComment here =>
    rw [if_pos ((lineCommentAt_iff htext).1 here)]
    rfl
  | blockComment noLine here marked =>
    rw [if_neg (mt (lineCommentAt_iff htext).2 noLine), (blockCommentAt_iff htext).1 here]
    rfl
  | string noLine noBlock here delimits =>
    have hblock : lexicon.blockComment.filter (·.opening.isPrefixOf (c :: rest)) = none :=
      Option.eq_none_iff_forall_ne_some.2 fun block hblock =>
        noBlock block ((blockCommentAt_iff htext).2 hblock)
    obtain rfl := (occursAt_singleton_iff htext).1 here
    rw [if_neg (mt (lineCommentAt_iff htext).2 noLine), hblock]
    simp only [Option.map_some, if_pos delimits]
    rfl

/-- Where none begins the scan stays in code. -/
theorem next?_of_not_begins (h : ∀ form, ¬ Begins lexicon text place form)
    (htext : text.drop place = c :: rest) (previous : Option Char) :
    ∃ next, ScanState.start.next? lexicon (c :: rest) (some c) previous = some (next, 0) := by
  have noLine : ¬ LineCommentAt lexicon text place := fun here => h _ (.lineComment here)
  unfold ScanState.next? ScanState.start
  dsimp only
  rw [if_neg (mt (lineCommentAt_iff htext).2 noLine)]
  cases hblock : lexicon.blockComment.filter (·.opening.isPrefixOf (c :: rest)) with
  | some block =>
    -- an empty marker takes nothing, and no other one can stand here
    by_cases hmarked : block.opening = []
    · refine ⟨⟨.comment, some block.closing⟩, ?_⟩
      dsimp only
      rw [hmarked]
      rfl
    · exact absurd (.blockComment noLine ((blockCommentAt_iff htext).2 hblock) hmarked) (h _)
  | none =>
    have noBlock : ∀ block, ¬ BlockCommentAt lexicon text place block := fun block here => by
      rw [(blockCommentAt_iff htext).1 here] at hblock
      cases hblock
    have hdelimits : [c] ∉ lexicon.delimiters := fun delimits =>
      h _ (.string noLine noBlock ((occursAt_singleton_iff htext).2 rfl) delimits)
    refine ⟨⟨.code, none⟩, ?_⟩
    dsimp only [Option.map_some]
    rw [if_neg hdelimits]

/-- In a string its delimiter ends it, unless a backslash stands right before. -/
theorem next?_string (lexicon : Lexicon) (delimiter c : Char) (rest : Text)
    (previous : Option Char) :
    ScanState.next? lexicon ⟨.string, some [delimiter]⟩ (c :: rest) (some c) previous =
      some (if c = delimiter ∧ previous ≠ some '\\' then (.start, 1)
        else (⟨.string, some [delimiter]⟩, 0)) := by
  simp only [ScanState.next?, Option.map_some, ScanState.escape, Bool.and_eq_true,
    decide_eq_true_eq, bne_iff_ne, Option.some_inj, List.cons.injEq, and_true,
    eq_comm (a := delimiter)]
  rfl

theorem opening_ne_nil (h : Begins lexicon text place form) : form.opening lexicon ≠ [] := by
  cases h with
  | lineComment here => exact here.1
  | blockComment _ _ marked => exact marked
  | string _ _ _ _ => exact List.cons_ne_nil _ _

theorem occursAt_opening (h : Begins lexicon text place form) :
    OccursAt (form.opening lexicon) text place := by
  cases h with
  | lineComment here => exact here.2
  | blockComment _ here _ => exact here.2
  | string _ _ here _ => exact here

section Occurrences

variable {marker : Text}

/-- A marker that is not empty stands within the text. -/
theorem OccursAt.add_length_le (hmarker : marker ≠ []) (h : OccursAt marker text place) :
    place + marker.length ≤ text.length := by
  have hlength := h.length_le
  rw [List.length_drop] at hlength
  have hpos := List.length_pos_iff.2 hmarker
  omega

theorem OccursAt.lt_length (hmarker : marker ≠ []) (h : OccursAt marker text place) :
    place < text.length := by
  have hle := h.add_length_le hmarker
  have hpos := List.length_pos_iff.2 hmarker
  omega

theorem OccursAt.eq_extract (h : OccursAt marker text place) :
    marker = text.extract place (place + marker.length) := by
  rw [List.extract, Nat.add_sub_cancel_left]
  exact List.prefix_iff_eq_take.1 h

/-- The last character of a marker is the one before what follows it. -/
theorem OccursAt.getLast?_eq (hmarker : marker ≠ []) (h : OccursAt marker text place) :
    marker.getLast? = text[place + marker.length - 1]? := by
  have hpos := List.length_pos_iff.2 hmarker
  have hplace : place + marker.length - 1 = place + (marker.length - 1) := by omega
  obtain ⟨after, hafter⟩ := h
  rw [hplace, ← List.getElem?_drop, List.getLast?_eq_getElem?, ← hafter,
    List.getElem?_append_left (by omega)]

end Occurrences

theorem Begins.lt_length (h : Begins lexicon text place form) : place < text.length :=
  (occursAt_opening h).lt_length (opening_ne_nil h)

variable {start : Nat}

/-- Where a region ends the scan goes back to code, and takes the marker. -/
theorem next?_of_closesAt (h : ClosesAt lexicon text start form place)
    (htext : text.drop place = c :: rest) :
    form.inside.next? lexicon (c :: rest) (some c) text[place - 1]? =
      some (.start, form.closing.length) := by
  obtain ⟨after, marked, here, unescaped⟩ := h
  cases form with
  | lineComment => exact absurd rfl marked
  | blockComment block =>
    have hhere : (!block.closing.isEmpty && block.closing.isPrefixOf (c :: rest)) = true := by
      rw [Bool.and_eq_true, Bool.not_eq_true', List.isEmpty_eq_false_iff, ← occursAt_iff htext]
      exact ⟨marked, here⟩
    simp only [ScanState.next?, RegionForm.inside, Option.filter, hhere, if_true]
    rfl
  | string delimiter =>
    obtain rfl := (occursAt_singleton_iff htext).1 here
    rw [RegionForm.inside, next?_string, if_pos ⟨rfl, unescaped rfl⟩]
    rfl

/-- Where it does not the scan stays in it. -/
theorem next?_of_not_closesAt (h : ¬ ClosesAt lexicon text start form place)
    (hplace : start + (form.opening lexicon).length ≤ place)
    (htext : text.drop place = c :: rest) :
    form.inside.next? lexicon (c :: rest) (some c) text[place - 1]? = some (form.inside, 0) := by
  cases form with
  | lineComment => rfl
  | blockComment block =>
    have hhere : ¬ (!block.closing.isEmpty && block.closing.isPrefixOf (c :: rest)) = true := by
      rw [Bool.and_eq_true, Bool.not_eq_true', List.isEmpty_eq_false_iff, ← occursAt_iff htext]
      rintro ⟨marked, here⟩
      exact h ⟨hplace, marked, here, fun hkind => by cases hkind⟩
    simp only [ScanState.next?, RegionForm.inside, Option.filter, if_neg hhere]
  | string delimiter =>
    have hends : ¬ (c = delimiter ∧ text[place - 1]? ≠ some '\\') := by
      rintro ⟨rfl, unescaped⟩
      exact h ⟨hplace, List.cons_ne_nil _ _, (occursAt_singleton_iff htext).2 rfl,
        fun _ => unescaped⟩
    rw [RegionForm.inside, next?_string, if_neg hends]

end Markers

end Token

end CodeKeyboard
