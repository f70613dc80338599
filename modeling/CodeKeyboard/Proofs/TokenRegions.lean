import CodeKeyboard.Proofs.LineRegions
import CodeKeyboard.Proofs.Places
import CodeKeyboard.Proofs.TokenLossless
import Mathlib.Data.List.TakeWhile
import Mathlib.Order.Nat

/-!
# The scan finds the regions and the words (specification §4.1)

The scan goes over a line once and changes its state at markers; `Token.Divided` says what the
tokens are without it. Each part of a division is a run of the scan with one outcome, and a line
is such runs one after the other.

- `Token.scan_begins`, `Token.scan_ends`, `Token.scan_boundary`, `Token.scan_collects`: all that one
  step of the scan can do.
- `Token.scan_of_region`, `Token.scan_of_worded`: the scan of a region, and of the text before one.
- `Token.scan_of_divided`, `Token.exists_divided`: from both, by induction on the regions, the scan
  finds the tokens of the division; and every line has a division.
- `Token.classify_eq_iff`: so the tokens of a line are those of its division, and no others are.
-/

namespace CodeKeyboard

namespace Token

open Offset

/-! ## One step of the scan -/

section Step

variable {lexicon : Lexicon} {state next : ScanState} {previous : Option Char} {c : Char}
  {pending rest : Text} {width : Nat}

/-- A region begins: what was collected is a plain token. -/
theorem scan_begins (hmode : state.mode = .code)
    (hnext : state.next? lexicon (c :: rest) (some c) previous = some (next, width + 1)) :
    scan lexicon state previous pending (c :: rest) =
      collected .plain pending ++
        scan lexicon next (c :: rest.take width).getLast? (c :: rest.take width)
          (rest.drop width) := by
  rw [scan, hnext]
  simp only [hmode]

/-- A region ends: it is a token, with its markers. -/
theorem scan_ends (hmode : state.mode ≠ .code)
    (hnext : state.next? lexicon (c :: rest) (some c) previous = some (next, width + 1)) :
    scan lexicon state previous pending (c :: rest) =
      ⟨pending ++ c :: rest.take width, kindIn lexicon state.mode []⟩ ::
        scan lexicon next (c :: rest.take width).getLast? [] (rest.drop width) := by
  rw [scan, hnext]
  cases h : state.mode with
  | code => exact absurd h hmode
  | string => rfl
  | comment => rfl

/-- A blank or punctuation in code: what was collected is a word, and the character a token. -/
theorem scan_boundary (hmode : state.mode = .code)
    (hnext : state.next? lexicon (c :: rest) (some c) previous = some (next, 0))
    (hc : isBoundary c = true) :
    scan lexicon state previous pending (c :: rest) =
      collected (wordKind lexicon pending) pending ++
        ⟨[c], .plain⟩ :: scan lexicon state (some c) [] rest := by
  rw [scan, hnext]
  simp only [hmode, hc, decide_true, Bool.and_true, if_true]

/-- Any other character is collected. -/
theorem scan_collects
    (hnext : state.next? lexicon (c :: rest) (some c) previous = some (next, 0))
    (hc : state.mode = .code → isBoundary c = false) :
    scan lexicon state previous pending (c :: rest) =
      scan lexicon state (some c) (pending ++ [c]) rest := by
  have hinner : ¬ (decide (state.mode = .code) && isBoundary c) = true := by
    rw [Bool.and_eq_true, decide_eq_true_eq]
    rintro ⟨hmode, hboundary⟩
    rw [hc hmode] at hboundary
    cases hboundary
  rw [scan, hnext]
  simp only [if_neg hinner]

/-- In code the character before does not matter. -/
theorem scan_start_previous (lexicon : Lexicon) (previous other : Option Char)
    (pending rest : Text) :
    scan lexicon .start previous pending rest = scan lexicon .start other pending rest := by
  cases rest with
  | nil => rw [scan, scan]
  | cons c rest =>
    rw [scan, scan]
    rfl

end Step

/-! ## The scan of a region -/

section Regions

variable {lexicon : Lexicon} {text : Text} {start place m : Nat} {form : RegionForm}

/-- Where a region begins, whatever stands before, the scan goes into it. -/
theorem exists_next?_of_begins (h : Begins lexicon text place form) :
    ∃ c width, text.drop place = c :: text.drop (place + 1) ∧
      (form.opening lexicon).length = width + 1 ∧
      ∀ previous, ScanState.start.next? lexicon (c :: text.drop (place + 1)) (some c) previous =
        some (form.inside, width + 1) := by
  obtain ⟨c, -, htext⟩ := exists_drop_eq_cons h.lt_length
  obtain ⟨width, hwidth⟩ : ∃ width, (form.opening lexicon).length = width + 1 :=
    Nat.exists_eq_succ_of_ne_zero (mt List.length_eq_zero_iff.1 (opening_ne_nil h))
  exact ⟨c, width, htext, hwidth, fun previous => hwidth ▸ next?_of_begins h htext previous⟩

theorem mode_inside_ne_code (form : RegionForm) : form.inside.mode ≠ .code := by
  cases form <;> exact ScanMode.noConfusion

theorem kindIn_inside (lexicon : Lexicon) (form : RegionForm) (pending : Text) :
    kindIn lexicon form.inside.mode pending = form.kind := by
  cases form <;> rfl

@[simp] theorem collected_nil (kind : TokenKind) : collected kind [] = [] := rfl

theorem collected_of_ne_nil {pending : Text} (kind : TokenKind) (h : pending ≠ []) :
    collected kind pending = [⟨pending, kind⟩] := by
  rw [collected, if_neg (by simpa using h)]

/-- In a region the scan collects what does not end it. -/
theorem scan_inside_step (h : ¬ ClosesAt lexicon text start form place)
    (hplace : start + (form.opening lexicon).length ≤ place) (hlt : place < text.length)
    (pending : Text) :
    ∃ c, text.drop place = c :: text.drop (place + 1) ∧
      scan lexicon form.inside text[place - 1]? pending (text.drop place) =
        scan lexicon form.inside text[place + 1 - 1]? (pending ++ [c])
          (text.drop (place + 1)) := by
  obtain ⟨c, hc, htext⟩ := exists_drop_eq_cons hlt
  have hnext := next?_of_not_closesAt h hplace htext
  refine ⟨c, htext, ?_⟩
  rw [htext, scan_collects hnext fun h => absurd h (mode_inside_ne_code form), Nat.add_sub_cancel,
    hc]

/-- In a region the scan goes on up to the first marker that ends it. -/
theorem scan_inside_of_closesAt (hm : ClosesAt lexicon text start form m)
    (hfirst : ∀ i < m, ¬ ClosesAt lexicon text start form i) (pending : Text)
    (hplace : start + (form.opening lexicon).length ≤ place) (hle : place ≤ m) :
    scan lexicon form.inside text[place - 1]? pending (text.drop place) =
      ⟨pending ++ text.extract place (m + form.closing.length), form.kind⟩ ::
        scan lexicon .start none [] (text.drop (m + form.closing.length)) := by
  have hwithin := hm.here.lt_length hm.marked
  induction hdistance : m - place generalizing place pending with
  | zero =>
    obtain rfl : place = m := by omega
    obtain ⟨c, -, htext⟩ := exists_drop_eq_cons hwithin
    obtain ⟨width, hwidth⟩ : ∃ width, form.closing.length = width + 1 :=
      Nat.exists_eq_succ_of_ne_zero (mt List.length_eq_zero_iff.1 hm.marked)
    have hnext := next?_of_closesAt hm htext
    rw [hwidth] at hnext ⊢
    have hlength : place + (width + 1) - place = width + 1 := by omega
    have hplace' : place + 1 + width = place + (width + 1) := by omega
    rw [List.extract, hlength, htext, scan_ends (mode_inside_ne_code form) hnext,
      kindIn_inside, List.take_succ_cons, List.drop_drop, hplace',
      scan_start_previous lexicon _ none]
  | succ distance ih =>
    obtain ⟨c, htext, hstep⟩ :=
      scan_inside_step (hfirst place (by omega)) hplace (by omega) pending
    rw [hstep, ih (pending ++ [c]) (by omega) (by omega) (by omega),
      extract_eq_cons htext (by omega), List.append_assoc, List.singleton_append]

/-- A region that nothing ends takes all that is left. -/
theorem scan_inside_of_not_closesAt (h : ∀ m, ¬ ClosesAt lexicon text start form m) (pending : Text)
    (hplace : start + (form.opening lexicon).length ≤ place) :
    scan lexicon form.inside text[place - 1]? pending (text.drop place) =
      collected form.kind (pending ++ text.drop place) := by
  induction hdistance : text.length - place generalizing place pending with
  | zero =>
    have hend : text.drop place = [] := List.drop_of_length_le (by omega)
    rw [hend, scan, kindIn_inside, List.append_nil]
  | succ distance ih =>
    obtain ⟨c, htext, hstep⟩ := scan_inside_step (h place) hplace (by omega) pending
    rw [hstep, ih (pending ++ [c]) (by omega) (by omega), htext, List.append_assoc,
      List.singleton_append]

/-- The scan goes into a region with its marker collected. -/
theorem scan_opening (h : Begins lexicon text start form) (previous : Option Char) {inner : Nat}
    (hinner : inner = start + (form.opening lexicon).length) :
    scan lexicon .start previous [] (text.drop start) =
      scan lexicon form.inside text[inner - 1]? (text.extract start inner) (text.drop inner) := by
  obtain ⟨c, width, htext, hwidth, hnext⟩ := exists_next?_of_begins h
  have hhere := occursAt_opening h
  have htaken : c :: (text.drop (start + 1)).take width = form.opening lexicon := by
    rw [← List.take_succ_cons, ← htext, ← hwidth]
    exact (List.prefix_iff_eq_take.1 hhere).symm
  have hrest : start + 1 + width = inner := by omega
  rw [htext, scan_begins rfl (hnext previous), htaken, List.drop_drop, hrest, collected_nil,
    List.nil_append, hhere.getLast?_eq (opening_ne_nil h), hinner, ← hhere.eq_extract]

/-- **The scan of a region**: it is one token, and the scan goes on in code where it ends. -/
theorem scan_of_region {stop : Nat} (hbegins : Begins lexicon text start form)
    (hends : RunsTo lexicon text start form stop) (previous : Option Char) :
    scan lexicon .start previous [] (text.drop start) =
      ⟨text.extract start stop, form.kind⟩ ::
        scan lexicon .start none [] (text.drop stop) := by
  obtain ⟨inner, hinner⟩ : ∃ inner, inner = start + (form.opening lexicon).length := ⟨_, rfl⟩
  have hmarker := List.length_pos_iff.2 (opening_ne_nil hbegins)
  rw [scan_opening hbegins previous hinner]
  rcases hends with ⟨m, hm, hstop⟩ | ⟨hnone, hstop⟩
  · have hfirst : ∀ i < m, ¬ ClosesAt lexicon text start form i :=
      fun i hi hcloses => absurd (hm.2 hcloses) (by omega)
    have hafter := hm.1.after
    rw [scan_inside_of_closesAt hm.1 hfirst _ (by omega) (by omega), ← hstop,
      extract_append_extract (by omega) (by omega)]
  · have hle := (occursAt_opening hbegins).add_length_le (opening_ne_nil hbegins)
    have hrest : text.drop inner = text.extract inner stop := by
      rw [List.extract, hstop, List.take_of_length_le (by rw [List.length_drop])]
    have hend : text.drop stop = [] := by rw [hstop, List.drop_length]
    obtain ⟨c, -, htext⟩ := exists_drop_eq_cons hbegins.lt_length
    rw [scan_inside_of_not_closesAt hnone _ (by omega), hrest, hend, scan,
      extract_append_extract (by omega) (by omega), collected_of_ne_nil, collected]
    · rfl
    · rw [extract_eq_cons htext (by omega)]
      exact List.cons_ne_nil _ _

end Regions

/-! ## The scan of the text before a region -/

section Words

variable {lexicon : Lexicon} {text : Text} {place : Nat} {c : Char} {rest : Text}

theorem isNumeral_iff {word : Text} (hword : word ≠ []) :
    isNumeral word = true ↔ ∀ c ∈ word, '0' ≤ c ∧ c ≤ '9' := by
  simp [isNumeral, hword, Char.isDigit, Char.le_def]

/-- The class of a word is the one it gets. -/
theorem classed_iff {word : Text} {kind : TokenKind} (hword : word ≠ []) :
    Classed lexicon word kind ↔ wordKind lexicon word = kind := by
  have hnumeral := isNumeral_iff hword
  constructor
  · intro h
    cases h with
    | keyword here => rw [wordKind, if_pos here]
    | builtin noKeyword here => rw [wordKind, if_neg noKeyword, if_pos here]
    | number noKeyword noBuiltin digits =>
      rw [wordKind, if_neg noKeyword, if_neg noBuiltin, if_pos (hnumeral.2 digits)]
    | plain noKeyword noBuiltin noNumber =>
      obtain ⟨c, hc, hdigit⟩ := noNumber
      have hother : ¬ isNumeral word = true := fun h => hdigit (hnumeral.1 h c hc)
      rw [wordKind, if_neg noKeyword, if_neg noBuiltin, if_neg hother]
  · rintro rfl
    unfold wordKind
    split
    · next hkeyword => exact .keyword hkeyword
    next hkeyword =>
    split
    · next hbuiltin => exact .builtin hkeyword hbuiltin
    next hbuiltin =>
    split
    · next hnumber => exact .number hkeyword hbuiltin (hnumeral.1 hnumber)
    · next hnumber =>
      rw [hnumeral] at hnumber
      exact .plain hkeyword hbuiltin (by simpa using hnumber)

/-- No region begins from a place on up to another. -/
def Quiet (lexicon : Lexicon) (text : Text) (place stop : Nat) : Prop :=
  ∀ i form, place ≤ i → i < stop → ¬ Begins lexicon text i form

theorem Quiet.here {stop : Nat} (h : Quiet lexicon text place stop) (hlt : place < stop)
    (form : RegionForm) : ¬ Begins lexicon text place form :=
  h place form le_rfl hlt

theorem Quiet.mono {stop place' stop' : Nat} (h : Quiet lexicon text place stop)
    (hplace : place ≤ place') (hstop : stop' ≤ stop) : Quiet lexicon text place' stop' :=
  fun i form hi hi' => h i form (by omega) (by omega)

/-- At the end of a line what was collected is a word. -/
theorem scan_word_end (lexicon : Lexicon) (previous : Option Char) (word : Text) :
    scan lexicon .start previous word [] = collected (wordKind lexicon word) word := by
  rw [scan]
  rfl

/-- Where a blank or punctuation stands what was collected is a word. -/
theorem scan_word_boundary (hbegins : ∀ form, ¬ Begins lexicon text place form)
    (htext : text.drop place = c :: rest) (hc : isBoundary c = true) (previous : Option Char)
    (word : Text) :
    scan lexicon .start previous word (c :: rest) =
      collected (wordKind lexicon word) word ++
        ⟨[c], .plain⟩ :: scan lexicon .start none [] rest := by
  obtain ⟨next, hnext⟩ := next?_of_not_begins hbegins htext previous
  rw [scan_boundary rfl hnext hc, scan_start_previous lexicon _ none]

/-- Where a region begins what was collected is plain. -/
theorem scan_word_begins {form : RegionForm} (hbegins : Begins lexicon text place form)
    (previous : Option Char) (word : Text) :
    scan lexicon .start previous word (text.drop place) =
      collected .plain word ++ scan lexicon .start none [] (text.drop place) := by
  obtain ⟨c, width, htext, -, hnext⟩ := exists_next?_of_begins hbegins
  rw [htext, scan_begins rfl (hnext previous), scan_begins rfl (hnext none), collected_nil,
    List.nil_append]

/-- The characters of a word are collected. -/
theorem scan_word {word : Text} (hquiet : Quiet lexicon text place (place + word.length))
    (htext : text.drop place = word ++ rest) (hinner : ∀ c ∈ word, isBoundary c = false)
    (previous : Option Char) (pending : Text) :
    scan lexicon .start previous pending (word ++ rest) =
      scan lexicon .start none (pending ++ word) rest := by
  induction word generalizing place pending previous with
  | nil => rw [List.append_nil, List.nil_append, scan_start_previous lexicon _ none]
  | cons c word ih =>
    rw [List.cons_append] at htext ⊢
    rw [List.length_cons] at hquiet
    obtain ⟨next, hnext⟩ := next?_of_not_begins (hquiet.here (by omega)) htext previous
    rw [scan_collects hnext fun _ => hinner c List.mem_cons_self,
      ih (hquiet.mono (by omega) (by omega)) (drop_succ_eq htext)
        (fun d hd => hinner d (List.mem_cons_of_mem _ hd)), List.append_assoc,
      List.singleton_append]

/-- Where a word ends it is a token of its class, plain right before a region. -/
theorem scan_after_word {beforeRegion : Bool} {word s : Text} {kind : TokenKind}
    (hword : word ≠ []) (hquiet : Quiet lexicon text place (place + s.length))
    (htext : text.drop place = s ++ rest) (hmaximal : ∀ c ∈ s.head?, isBoundary c = true)
    (hclassed : if s = [] ∧ beforeRegion = true then kind = .plain else Classed lexicon word kind)
    (hrest : if beforeRegion = true then ∃ form, Begins lexicon text (place + s.length) form
      else rest = []) :
    scan lexicon .start none word (s ++ rest) =
      ⟨word, kind⟩ :: scan lexicon .start none [] (s ++ rest) := by
  cases s with
  | cons c s =>
    rw [if_neg (by simp), classed_iff hword] at hclassed
    rw [List.length_cons] at hquiet
    have hbegins := hquiet.here (by omega)
    have hc := hmaximal c rfl
    rw [List.cons_append] at htext ⊢
    rw [scan_word_boundary hbegins htext hc, scan_word_boundary hbegins htext hc, collected_nil,
      collected_of_ne_nil _ hword, hclassed]
    rfl
  | nil =>
    rw [List.nil_append] at htext ⊢
    cases beforeRegion with
    | true =>
      obtain ⟨form, hbegins⟩ : ∃ form, Begins lexicon text place form := hrest
      obtain rfl : kind = .plain := by simpa using hclassed
      rw [← htext, scan_word_begins hbegins, collected_of_ne_nil _ hword]
      rfl
    | false =>
      obtain rfl : rest = [] := by simpa using hrest
      rw [if_neg (by simp), classed_iff hword] at hclassed
      rw [scan_word_end, scan_word_end, collected_of_ne_nil _ hword, hclassed]
      rfl

/-- **The scan of the text before a region**, or of the last one of a line, finds its blanks,
punctuation and words. -/
theorem scan_of_worded {beforeRegion : Bool} {s : Text} {tokens : List Token}
    (h : Worded lexicon beforeRegion s tokens)
    (hquiet : Quiet lexicon text place (place + s.length)) (htext : text.drop place = s ++ rest)
    (hrest : if beforeRegion = true then ∃ form, Begins lexicon text (place + s.length) form
      else rest = []) (previous : Option Char) :
    scan lexicon .start previous [] (s ++ rest) = tokens ++ scan lexicon .start none [] rest := by
  induction h generalizing place previous with
  | nil => exact scan_start_previous lexicon previous none [] rest
  | @boundary c s tokens hc _ ih =>
    rw [List.cons_append] at htext ⊢
    rw [List.length_cons] at hquiet hrest
    have hplace : place + 1 + s.length = place + (s.length + 1) := by omega
    rw [scan_word_boundary (hquiet.here (by omega)) htext hc, collected_nil,
      ih (hquiet.mono (by omega) (by omega)) (drop_succ_eq htext) (by rw [hplace]; exact hrest)]
    rfl
  | @word word s kind tokens nonempty inner maximal classed _ ih =>
    rw [List.append_assoc] at htext ⊢
    rw [List.length_append, ← Nat.add_assoc] at hquiet hrest
    have htext' : text.drop (place + word.length) = s ++ rest := by
      rw [← List.drop_drop, htext, List.drop_left]
    have hquiet' : Quiet lexicon text (place + word.length) (place + word.length + s.length) :=
      hquiet.mono (by omega) le_rfl
    rw [scan_word (hquiet.mono le_rfl (by omega)) htext inner, List.nil_append,
      scan_after_word nonempty hquiet' htext' maximal classed hrest, ih hquiet' htext' hrest]
    rfl

end Words

/-! ## The tokens of a line -/

section Lines

variable {lexicon : Lexicon} {text : Text} {place : Nat} {tokens : List Token}

/-- **The scan finds the tokens of the division.** -/
theorem scan_of_divided (h : Divided lexicon text place tokens) :
    scan lexicon .start none [] (text.drop place) = tokens := by
  induction h with
  | @last place tokens noRegion words =>
    have htext : text.drop place = text.drop place ++ [] := (List.append_nil _).symm
    have hscan := scan_of_worded words (fun i form hi _ => noRegion i form hi) htext rfl none
    rwa [← htext, scan_word_end, collected_nil, List.append_nil] at hscan
  | @region place start stop form words tokens next begins ends before _ ih =>
    have hle : place ≤ start := next.1.1
    have hlength := begins.lt_length
    have hstart : place + (text.extract place start).length = start := by
      rw [List.length_take, List.length_drop]
      omega
    have htext : text.drop place = text.extract place start ++ text.drop start := by
      have hdrop : text.drop start = (text.drop place).drop (start - place) := by
        rw [List.drop_drop, Nat.add_sub_cancel' hle]
      rw [hdrop, List.extract, List.take_append_drop]
    have hquiet : Quiet lexicon text place start := fun i form hi hlt hbegins =>
      absurd (next.2 ⟨hi, form, hbegins⟩) (by omega)
    rw [htext, scan_of_worded before (by rw [hstart]; exact hquiet) htext
      (by rw [hstart]; exact ⟨form, begins⟩), scan_of_region begins ends, ih]

/-- A text that begins with no boundary begins with a word, up to the next boundary or its end. -/
theorem exists_word_append {c : Char} (hc : isBoundary c = false) (s : Text) :
    ∃ word after, c :: s = word ++ after ∧ word ≠ [] ∧ (∀ d ∈ word, isBoundary d = false) ∧
      ∀ d ∈ after.head?, isBoundary d = true := by
  refine ⟨(c :: s).takeWhile (!isBoundary ·), (c :: s).dropWhile (!isBoundary ·),
    List.takeWhile_append_dropWhile.symm, ?_, fun d hd => ?_, fun d hd => ?_⟩
  · rw [List.takeWhile_cons_of_pos (by simpa using hc)]
    exact List.cons_ne_nil _ _
  · simpa using List.mem_takeWhile_imp hd
  · have hhead := List.head?_dropWhile_not (!isBoundary ·) (c :: s)
    rw [Option.mem_def.1 hd] at hhead
    simpa using hhead

/-- Every text can be cut at its blanks and punctuation. -/
theorem exists_worded (lexicon : Lexicon) (beforeRegion : Bool) (s : Text) :
    ∃ tokens, Worded lexicon beforeRegion s tokens := by
  induction hlength : s.length using Nat.strongRecOn generalizing s with
  | ind n ih =>
    cases s with
    | nil => exact ⟨[], .nil⟩
    | cons c s =>
      rw [List.length_cons] at hlength
      by_cases hc : isBoundary c = true
      · obtain ⟨tokens, htokens⟩ := ih s.length (by omega) s rfl
        exact ⟨_, .boundary hc htokens⟩
      · obtain ⟨word, after, hsplit, hnonempty, hinner, hmaximal⟩ :=
          exists_word_append (Bool.eq_false_iff.2 hc) s
        have hshorter : after.length < n := by
          have hsum := congrArg List.length hsplit
          rw [List.length_append, List.length_cons] at hsum
          have := List.length_pos_iff.2 hnonempty
          omega
        obtain ⟨tokens, htokens⟩ := ih after.length hshorter after rfl
        obtain ⟨kind, hkind⟩ : ∃ kind, if after = [] ∧ beforeRegion = true then kind = .plain
            else Classed lexicon word kind := by
          split
          · exact ⟨.plain, rfl⟩
          · exact ⟨_, (classed_iff hnonempty).2 rfl⟩
        rw [hsplit]
        exact ⟨_, .word hnonempty hinner hmaximal hkind htokens⟩

/-- A region that begins has an end, and takes at least its marker. -/
theorem exists_runsTo {start : Nat} {form : RegionForm} (h : Begins lexicon text start form) :
    ∃ stop, RunsTo lexicon text start form stop ∧ start < stop := by
  classical
  have hopening := opening_ne_nil h
  have hmarker := List.length_pos_iff.2 hopening
  by_cases hcloses : ∃ m, ClosesAt lexicon text start form m
  · have hleast := Nat.isLeast_find hcloses
    have hafter := hleast.1.after
    exact ⟨_, .inl ⟨_, hleast, rfl⟩, by omega⟩
  · exact ⟨_, .inr ⟨not_exists.1 hcloses, rfl⟩, h.lt_length⟩

/-- Every line has a division. -/
theorem exists_divided (lexicon : Lexicon) (text : Text) (place : Nat) :
    ∃ tokens, Divided lexicon text place tokens := by
  classical
  induction hlength : text.length - place using Nat.strongRecOn generalizing place with
  | ind n ih =>
    by_cases hregion : ∃ i, place ≤ i ∧ ∃ form, Begins lexicon text i form
    · have hleast := Nat.isLeast_find hregion
      obtain ⟨hle, form, hbegins⟩ := hleast.1
      obtain ⟨stop, hends, hlt⟩ := exists_runsTo hbegins
      obtain ⟨words, hwords⟩ :=
        exists_worded lexicon true (text.extract place (Nat.find hregion))
      have hwithin := hbegins.lt_length
      obtain ⟨tokens, htokens⟩ := ih (text.length - stop) (by omega) stop rfl
      exact ⟨_, .region hleast hbegins hends hwords htokens⟩
    · obtain ⟨words, hwords⟩ := exists_worded lexicon false (text.drop place)
      exact ⟨words, .last (fun i form hi hbegins => hregion ⟨i, hi, form, hbegins⟩) hwords⟩

/-- **The tokens of a line are its regions and the words between them**, for every lexicon: they are
the tokens of the division of the line, and no others. -/
theorem classify_eq_iff (lexicon : Lexicon) (text : Text) (tokens : List Token) :
    classify lexicon text = tokens ↔ Divided lexicon text 0 tokens := by
  constructor
  · rintro rfl
    obtain ⟨tokens, htokens⟩ := exists_divided lexicon text 0
    rwa [classify, ← text.drop_zero, scan_of_divided htokens]
  · exact scan_of_divided

end Lines

end Token

end CodeKeyboard
