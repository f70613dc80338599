import CodeKeyboard.Token
import Mathlib.Data.List.Basic

/-!
# The scan loses nothing (specification §8)

A line is cut into tokens without a gap, an overlap or an empty piece, whatever the lexicon: the
keywords, names and delimiters may be any sets, and the markers of comments may be empty, equal, or
parts of each other.

- `ScanState.next?_of_char`: where a line has a character, the change of state has an answer, and it
  takes no more characters than are left.
- `Token.scanAt?`: the scan once more, reading the line by offsets. It has no answer when it asks
  for a character that the line does not have, or runs past the end.
- `Token.scanAt?_append`: it always has one, that of `Token.scan`. The offset is the length of what
  was scanned, and the character before it is the last one scanned.
- `Token.join_scan`: what is collected and what is left to scan are together the text of the tokens
  to come. This is the invariant of the loop, at each of its five ends of a token.
- `Token.classify_lossless`: all of it for a line, and from there for the lines of a text.
-/

namespace CodeKeyboard

namespace ScanState

variable {lexicon : Lexicon} {state : ScanState} {c : Char} {rest : Text} {previous : Option Char}

/-- Where the line has a character the change of state has an answer, within what is left. -/
theorem next?_of_char (lexicon : Lexicon) (state : ScanState) (c : Char) (rest : Text)
    (previous : Option Char) :
    ∃ next width, state.next? lexicon (c :: rest) (some c) previous = some (next, width) ∧
      width ≤ (c :: rest).length := by
  -- what is taken is a marker that the rest of the line begins with, or at most one character
  unfold next?
  cases state.mode with
  | code =>
    dsimp only
    split
    · next h =>
      rw [Bool.and_eq_true] at h
      exact ⟨_, _, rfl, (List.isPrefixOf_iff_prefix.1 h.2).length_le⟩
    · split
      · next block hblock =>
        have h := (Option.filter_eq_some_iff.1 hblock).2
        exact ⟨_, _, rfl, (List.isPrefixOf_iff_prefix.1 h).length_le⟩
      · simp only [Option.map_some]
        split
        · exact ⟨_, _, rfl, by simp⟩
        · exact ⟨_, _, rfl, by simp⟩
  | string =>
    simp only [Option.map_some]
    split
    · exact ⟨_, _, rfl, by simp⟩
    · exact ⟨_, _, rfl, by simp⟩
  | comment =>
    dsimp only
    split
    · next closer hcloser =>
      have h := (Option.filter_eq_some_iff.1 hcloser).2
      rw [Bool.and_eq_true] at h
      exact ⟨_, _, rfl, (List.isPrefixOf_iff_prefix.1 h.2).length_le⟩
    · exact ⟨_, _, rfl, by simp⟩

theorem width_le {next : ScanState} {width : Nat}
    (h : state.next? lexicon (c :: rest) (some c) previous = some (next, width)) :
    width ≤ rest.length + 1 := by
  obtain ⟨next', width', h', hle⟩ := next?_of_char lexicon state c rest previous
  rw [h] at h'
  cases h'
  exact hle

/-- The change of state at an offset within the line is the one for what stands around it. -/
theorem nextAt?_append (lexicon : Lexicon) (state : ScanState) (before : Text) (c : Char)
    (rest : Text) :
    state.nextAt? lexicon (before ++ c :: rest) before.length =
      state.next? lexicon (c :: rest) (some c) before.getLast? := by
  have hinside : ¬ (decide (((before ++ c :: rest).length : Int) < before.length) &&
      decide (state.mode = .code)) = true := by
    rw [Bool.and_eq_true, decide_eq_true_eq, List.length_append]
    omega
  have hahead : Offset.after (before ++ c :: rest) before.length = c :: rest := by simp
  have hhere : Offset.get? (before ++ c :: rest) before.length = some c := by simp
  have hprevious : (if (0 : Int) < before.length then
      Offset.get? (before ++ c :: rest) (before.length - 1) else none) = before.getLast? := by
    rcases List.eq_nil_or_concat before with rfl | ⟨init, last, rfl⟩
    · simp
    · have hplace : ((init.concat last).length : Int) - 1 = init.length := by simp
      rw [hplace, Offset.get?_ofNat]
      simp
  rw [nextAt?, if_neg hinside, hahead, hhere, hprevious]

end ScanState

namespace Token

/-! ## Joining tokens -/

@[simp] theorem join_nil : join [] = [] := rfl

@[simp] theorem join_cons (token : Token) (tokens : List Token) :
    join (token :: tokens) = token.text ++ join tokens := rfl

@[simp] theorem join_append (tokens more : List Token) :
    join (tokens ++ more) = join tokens ++ join more :=
  List.flatMap_append

@[simp] theorem join_collected (kind : TokenKind) (pending : Text) :
    join (collected kind pending) = pending := by
  cases pending <;> simp [collected]

/-- What was collected becomes a token only when there is something. -/
theorem text_ne_nil_of_mem_collected {kind : TokenKind} {pending : Text} {token : Token}
    (h : token ∈ collected kind pending) : token.text ≠ [] := by
  cases pending with
  | nil => simp [collected] at h
  | cons c s =>
    simp only [collected, List.isEmpty_cons, Bool.false_eq_true, if_false, List.mem_singleton] at h
    simp [h]

/-! ## What one scan keeps -/

variable {lexicon : Lexicon}

/-- What a change of state takes and what it leaves are the rest of the line. -/
theorem taken_append_left (c : Char) (rest : Text) (width : Nat) :
    (c :: rest.take width) ++ rest.drop width = c :: rest := by
  rw [List.cons_append, List.take_append_drop]

/-- **The invariant of the scan**: the text of the tokens to come is what is collected, followed by
what is left of the line. -/
theorem join_scan (lexicon : Lexicon) (state : ScanState) (previous : Option Char)
    (pending rest : Text) :
    join (scan lexicon state previous pending rest) = pending ++ rest := by
  fun_induction scan lexicon state previous pending rest with
  | case1 state previous pending => rw [join_collected, List.append_nil]
  | case2 state previous pending c rest next width hnext taken left hmode ih =>
    -- a string or comment begins: its marker is collected and closed later
    rw [join_append, join_collected, ih, taken_append_left]
  | case3 state previous pending c rest next width hnext taken left hmode ih =>
    -- it ends: its closing marker belongs to the token
    rw [join_cons, ih, List.nil_append, List.append_assoc, taken_append_left]
  | case4 state previous pending c rest hboundary hstay ih =>
    rw [join_append, join_collected, join_cons, ih, List.nil_append, List.singleton_append]
  | case5 state previous pending c rest hword hstay ih =>
    rw [ih, List.append_assoc, List.singleton_append]

/-- No token of a scan is empty. -/
theorem text_ne_nil_of_mem_scan {state : ScanState} {previous : Option Char}
    {pending rest : Text} {token : Token}
    (h : token ∈ scan lexicon state previous pending rest) : token.text ≠ [] := by
  fun_induction scan lexicon state previous pending rest with
  | case1 state previous pending => exact text_ne_nil_of_mem_collected h
  | case2 state previous pending c rest next width hnext taken left hmode ih =>
    rcases List.mem_append.1 h with h | h
    · exact text_ne_nil_of_mem_collected h
    · exact ih h
  | case3 state previous pending c rest next width hnext taken left hmode ih =>
    rcases List.mem_cons.1 h with rfl | h
    · exact List.append_ne_nil_of_right_ne_nil _ (List.cons_ne_nil _ _)
    · exact ih h
  | case4 state previous pending c rest hboundary hstay ih =>
    rcases List.mem_append.1 h with h | h
    · exact text_ne_nil_of_mem_collected h
    · rcases List.mem_cons.1 h with rfl | h
      · exact List.cons_ne_nil _ _
      · exact ih h
  | case5 state previous pending c rest hword hstay ih => exact ih h

/-! ## Reading by offsets -/

/-- The tokens of a line from a place on, every character read by its offset. Nothing is the answer
when the line has no character where one is asked for, and when the place is beyond its end. -/
def scanAt? (lexicon : Lexicon) (line : Text) (state : ScanState) (pending : Text) (place : Nat) :
    Option (List Token) :=
  if place = line.length then some (collected (kindIn lexicon state.mode pending) pending)
  else if line.length < place then none
  else
    match state.nextAt? lexicon line place with
    | none => none
    | some (next, width + 1) =>
      let taken := (line.drop place).take (width + 1)
      match state.mode with
      | .code =>
        (scanAt? lexicon line next taken (place + (width + 1))).map (collected .plain pending ++ ·)
      | mode =>
        (scanAt? lexicon line next [] (place + (width + 1))).map
          (⟨pending ++ taken, kindIn lexicon mode []⟩ :: ·)
    | some (_, 0) =>
      match Offset.get? line place with
      | none => none
      | some c =>
        if state.mode = .code && isBoundary c then
          (scanAt? lexicon line state [] (place + 1)).map
            (collected (wordKind lexicon pending) pending ++ ⟨[c], .plain⟩ :: ·)
        else scanAt? lexicon line state (pending ++ [c]) (place + 1)
termination_by line.length - place

/-- Where the state changes the scan goes on after what the change takes. -/
theorem scanAt?_change {state next : ScanState} {pending before : Text} {c : Char} {rest : Text}
    {width : Nat}
    (h : state.next? lexicon (c :: rest) (some c) before.getLast? = some (next, width + 1)) :
    scanAt? lexicon (before ++ c :: rest) state pending before.length =
      let taken := c :: rest.take width
      let line := before ++ taken ++ rest.drop width
      match state.mode with
      | .code =>
        (scanAt? lexicon line next taken (before ++ taken).length).map
          (collected .plain pending ++ ·)
      | mode =>
        (scanAt? lexicon line next [] (before ++ taken).length).map
          (⟨pending ++ taken, kindIn lexicon mode []⟩ :: ·) := by
  have hwidth := ScanState.width_le h
  have htaken : ((before ++ c :: rest).drop before.length).take (width + 1) =
      c :: rest.take width := by simp
  have hplace : before.length + (width + 1) = (before ++ c :: rest.take width).length := by
    rw [List.length_append, List.length_cons, List.length_take]
    omega
  have hline : before ++ c :: rest.take width ++ rest.drop width = before ++ c :: rest := by
    rw [List.append_assoc, taken_append_left]
  rw [scanAt?, if_neg (by simp), if_neg (by simp), ScanState.nextAt?_append, h]
  simp only [htaken, hplace, hline]

/-- Where it does not, the scan goes on after the character. -/
theorem scanAt?_stay {state next : ScanState} {pending before : Text} {c : Char} {rest : Text}
    (h : state.next? lexicon (c :: rest) (some c) before.getLast? = some (next, 0)) :
    scanAt? lexicon (before ++ c :: rest) state pending before.length =
      if state.mode = .code && isBoundary c then
        (scanAt? lexicon (before ++ [c] ++ rest) state [] (before ++ [c]).length).map
          (collected (wordKind lexicon pending) pending ++ ⟨[c], .plain⟩ :: ·)
      else
        scanAt? lexicon (before ++ [c] ++ rest) state (pending ++ [c]) (before ++ [c]).length := by
  have hplace : before.length + 1 = (before ++ [c]).length := by simp
  have hline : before ++ [c] ++ rest = before ++ c :: rest := by simp
  have hhere : (before ++ c :: rest)[before.length]? = some c := by simp
  rw [scanAt?, if_neg (by simp), if_neg (by simp), ScanState.nextAt?_append, h]
  simp only [Offset.get?_ofNat, hhere, hplace, hline]

/-- Reading by offsets always has an answer, the one of the scan: the place is the length of what
was scanned. -/
theorem scanAt?_append (lexicon : Lexicon) (state : ScanState) (pending before rest : Text) :
    scanAt? lexicon (before ++ rest) state pending before.length =
      some (scan lexicon state before.getLast? pending rest) := by
  -- the character before is a state of its own for the scan, here it is read off what was scanned
  generalize hprevious : before.getLast? = previous
  fun_induction scan lexicon state previous pending rest generalizing before with
  | case1 state previous pending =>
    rw [scanAt?, if_pos (by simp)]
  | case2 state previous pending c rest next width hnext taken left hmode ih =>
    rw [← hprevious] at hnext
    rw [scanAt?_change hnext]
    simp only [hmode]
    rw [ih (before ++ taken) (List.getLast?_append_of_ne_nil _ (List.cons_ne_nil _ _))]
    rfl
  | case3 state previous pending c rest next width hnext taken left hmode ih =>
    rw [← hprevious] at hnext
    rw [scanAt?_change hnext]
    dsimp only
    rw [ih (before ++ taken) (List.getLast?_append_of_ne_nil _ (List.cons_ne_nil _ _))]
    cases h : state.mode with
    | code => exact absurd h hmode
    | string => rfl
    | comment => rfl
  | case4 state previous pending c rest hboundary hstay ih =>
    obtain ⟨next, width, hnext, -⟩ := ScanState.next?_of_char lexicon state c rest previous
    cases width with
    | succ width => exact absurd hnext (hstay next width)
    | zero =>
      rw [← hprevious] at hnext
      rw [scanAt?_stay hnext, if_pos hboundary, ih (before ++ [c]) List.getLast?_concat]
      rfl
  | case5 state previous pending c rest hword hstay ih =>
    obtain ⟨next, width, hnext, -⟩ := ScanState.next?_of_char lexicon state c rest previous
    cases width with
    | succ width => exact absurd hnext (hstay next width)
    | zero =>
      rw [← hprevious] at hnext
      rw [scanAt?_stay hnext, if_neg hword, ih (before ++ [c]) List.getLast?_concat]

/-! ## Lines and texts -/

theorem join_classify (lexicon : Lexicon) (line : Text) : join (classify lexicon line) = line :=
  join_scan lexicon .start none [] line

/-- The lines of a text are scanned on their own, so a newline cuts the work in two. -/
theorem classifyLines_append_newline (lexicon : Lexicon) (a b : Text) :
    classifyLines lexicon (a ++ '\n' :: b) =
      classifyLines lexicon a ++ classifyLines lexicon b := by
  rw [classifyLines, Text.lines, List.splitOn_append_cons_self, List.map_append]
  rfl

/-- The tokens of the lines, joined and put on lines again, are the text. -/
theorem ofLines_classifyLines (lexicon : Lexicon) (text : Text) :
    Text.ofLines ((classifyLines lexicon text).map join) = text := by
  have hjoin : join ∘ classify lexicon = id := funext (join_classify lexicon)
  rw [classifyLines, List.map_map, hjoin, List.map_id, Text.ofLines, Text.lines,
    List.intercalate_splitOn]

/-- **The scan is lossless**, for every lexicon. A line is read to its end and never beyond it, no
token is empty, and the tokens joined are the line; the tokens of the lines of a text give back the
text, and what a newline separates is classified separately. -/
theorem classify_lossless (lexicon : Lexicon) :
    (∀ line, scanAt? lexicon line .start [] 0 = some (classify lexicon line) ∧
      [] ∉ (classify lexicon line).map Token.text ∧
      join (classify lexicon line) = line) ∧
    (∀ text, Text.ofLines ((classifyLines lexicon text).map join) = text) ∧
    (∀ a b, classifyLines lexicon (a ++ '\n' :: b) =
      classifyLines lexicon a ++ classifyLines lexicon b) := by
  refine ⟨fun line => ⟨?_, ?_, join_classify lexicon line⟩, ofLines_classifyLines lexicon,
    classifyLines_append_newline lexicon⟩
  · exact scanAt?_append lexicon .start [] [] line
  · intro hempty
    obtain ⟨token, htoken, htext⟩ := List.mem_map.1 hempty
    exact text_ne_nil_of_mem_scan htoken htext

end Token

end CodeKeyboard
