import CodeKeyboard.Json.Printer
import CodeKeyboard.Json.Reader

/-!
# What is written compactly is read back

`Json.compact` escapes every character outside printable ASCII and `Json.read` undoes it. Between
the two stand the units of a text: a character beyond sixteen bits is written as two of them, which
the reader has to join again, and no two units of different characters may be joined by mistake.
That works out because a character is never a half of a pair.

- `Json.readUnits_asciiChar`: one written character gives its units, whatever follows.
- `Json.ofUnits_textUnits`: the units of a text are its characters again.
- `Json.Storable`: the values that are saved, which are texts, arrays and objects without a repeated
  name, and how many arrays and objects are nested in them.
- `Json.Storable.readsBack`: such a value, followed by any text, is read up to that text. The steps
  that the reader is given are more than twice the characters of the value, and every array and
  object takes at least two.
- `Json.read_compact`: so reading what was written gives the value.
- `Json.Storable.printable`: and all that was written is printable ASCII.
-/

namespace CodeKeyboard

namespace Json

/-! ## Escapes -/

theorem hexDigits_four (n : Nat) :
    Text.hexDigits 4 n = [Text.hexDigit (n / 4096 % 16), Text.hexDigit (n / 256 % 16),
      Text.hexDigit (n / 16 % 16), Text.hexDigit (n % 16)] := by
  simp [Text.hexDigits, Nat.div_div_eq_div_mul]

/-- Four written digits give the unit that they were written for. -/
theorem hexUnit?_hexDigit {n : Nat} (h : n < 0x10000) :
    hexUnit? (Text.hexDigit (n / 4096 % 16)) (Text.hexDigit (n / 256 % 16))
      (Text.hexDigit (n / 16 % 16)) (Text.hexDigit (n % 16)) = some n := by
  have hdigit : ∀ m, Text.hexValue? (Text.hexDigit (m % 16)) = some (m % 16) :=
    fun m => Text.hexValue?_hexDigit _ (Nat.mod_lt m (by decide))
  simp only [hexUnit?, hdigit, bind, Option.bind_some, pure, Option.some.injEq]
  omega

/-- The units that a text begins with, put before those of the rest. -/
def withUnits (units : List Nat) (read : Option (List Nat × Text)) : Option (List Nat × Text) :=
  read.map fun found => (units ++ found.1, found.2)

theorem withUnits_withUnits (units more : List Nat) (read : Option (List Nat × Text)) :
    withUnits units (withUnits more read) = withUnits (units ++ more) read := by
  cases read <;> simp [withUnits]

/-- An escaped unit gives the unit. -/
theorem readUnits_unitEscape {n : Nat} (h : n < 0x10000) (rest : Text) :
    readUnits (unitEscape n ++ rest) = withUnits [n] (readUnits rest) := by
  rw [unitEscape, hexDigits_four]
  simp only [List.cons_append, List.nil_append, readUnits, hexUnit?_hexDigit h]
  cases readUnits rest <;> rfl

/-- The code point of a character, or the pair of units that it is written as. -/
def charUnits (c : Char) : List Nat :=
  if c.toNat < 0x10000 then [c.toNat]
  else [0xD800 + (c.toNat - 0x10000) / 0x400, 0xDC00 + (c.toNat - 0x10000) % 0x400]

/-- The units of a text. -/
def textUnits (s : Text) : List Nat :=
  s.flatMap charUnits

/-- A character is no half of a pair. -/
theorem toNat_scalar (c : Char) :
    c.toNat < 0xD800 ∨ (0xDFFF < c.toNat ∧ c.toNat < 0x110000) :=
  c.valid

/-- A character that need not be escaped gives its code point. -/
theorem readUnits_cons {c : Char} (hquote : c ≠ '"') (hescape : c ≠ '\\')
    (hcontrol : 32 ≤ c.toNat) (rest : Text) :
    readUnits (c :: rest) = withUnits [c.toNat] (readUnits rest) := by
  have hrefused : ¬ (decide (c.toNat < 32) || c == '\\') = true := by
    simp [hescape, hcontrol]
  -- the cases before the last one are for a quote and for escapes
  rw [readUnits.eq_def]
  split
  · next h => cases h
  · next h => exact absurd (List.cons.inj h).1 hquote
  · next h => exact absurd (List.cons.inj h).1 hescape
  · next h => exact absurd (List.cons.inj h).1 hescape
  · next h =>
    obtain ⟨rfl, rfl⟩ := List.cons.inj h
    rw [if_neg hrefused]
    cases readUnits rest <;> rfl

/-- An escape of two characters gives the character that it stands for. -/
theorem readUnits_shortEscape {c : Char} {e : Text} (h : shortEscape? c = some e) (rest : Text) :
    readUnits (e ++ rest) = withUnits (charUnits c) (readUnits rest) := by
  unfold shortEscape? at h
  split at h
  case h_8 => cases h
  all_goals
    cases h
    cases hrest : readUnits rest <;> simp [readUnits, escaped?, hrest, withUnits, charUnits]

/-- **A written character gives its units**, and the reader goes on after it. -/
theorem readUnits_asciiChar (c : Char) (rest : Text) :
    readUnits (asciiChar c ++ rest) = withUnits (charUnits c) (readUnits rest) := by
  have hscalar := toNat_scalar c
  unfold asciiChar
  split
  · next e h => exact readUnits_shortEscape h rest
  · next h =>
    split
    · next hprintable =>
      rw [Bool.and_eq_true, decide_eq_true_eq, decide_eq_true_eq] at hprintable
      have hquote : c ≠ '"' := by rintro rfl; cases h
      have hescape : c ≠ '\\' := by rintro rfl; cases h
      rw [charUnits, if_pos (by omega)]
      exact readUnits_cons hquote hescape hprintable.1 rest
    · split
      · next hunit => rw [charUnits, if_pos hunit, readUnits_unitEscape hunit]
      · next hpair =>
        rw [charUnits, if_neg hpair, List.append_assoc, readUnits_unitEscape (by omega),
          readUnits_unitEscape (by omega), withUnits_withUnits]
        rfl

/-- Up to the closing quote a written text gives its units. -/
theorem readUnits_flatMap_asciiChar (s rest : Text) :
    readUnits (s.flatMap asciiChar ++ '"' :: rest) = some (textUnits s, rest) := by
  induction s with
  | nil => rfl
  | cons c s ih =>
    rw [List.flatMap_cons, List.append_assoc, readUnits_asciiChar, ih]
    rfl

/-! ## Units back to characters -/

/-- The code point of a character is a unit of its own. -/
theorem unitChar_toNat (c : Char) : unitChar c.toNat = c := by
  have hscalar := toNat_scalar c
  have half : ¬ (isHighUnit c.toNat || isLowUnit c.toNat) = true := by
    simp only [isHighUnit, isLowUnit, Bool.or_eq_true, Bool.and_eq_true, decide_eq_true_eq]
    omega
  rw [unitChar, if_neg half, Char.ofNat_toNat]

/-- A unit that is no first half is a character of its own. -/
theorem ofUnits_cons {n : Nat} (h : isHighUnit n = false) (units : List Nat) :
    ofUnits (n :: units) = unitChar n :: ofUnits units := by
  cases units with
  | nil => rfl
  | cons low units => simp [ofUnits, h]

/-- The units of a character are its own, and no other character's are joined with them. -/
theorem ofUnits_charUnits_append (c : Char) (units : List Nat) :
    ofUnits (charUnits c ++ units) = c :: ofUnits units := by
  have hscalar := toNat_scalar c
  unfold charUnits
  split
  · -- a single unit is no first half, whatever comes next
    have hhigh : isHighUnit c.toNat = false := by
      simp only [isHighUnit, Bool.and_eq_false_iff, decide_eq_false_iff_not]
      omega
    rw [List.singleton_append, ofUnits_cons hhigh, unitChar_toNat]
  · -- both halves of a pair are recognised, and their value is the character
    have hpair : (isHighUnit (0xD800 + (c.toNat - 0x10000) / 0x400) &&
        isLowUnit (0xDC00 + (c.toNat - 0x10000) % 0x400)) = true := by
      simp only [isHighUnit, isLowUnit, Bool.and_eq_true, decide_eq_true_eq]
      omega
    have hvalue : 0x10000 + (0xD800 + (c.toNat - 0x10000) / 0x400 - 0xD800) * 0x400 +
        (0xDC00 + (c.toNat - 0x10000) % 0x400 - 0xDC00) = c.toNat := by
      omega
    rw [List.cons_append, List.singleton_append, ofUnits, if_pos hpair, hvalue, Char.ofNat_toNat]

/-- The units of a text are its characters again. -/
theorem ofUnits_textUnits (s : Text) : ofUnits (textUnits s) = s := by
  induction s with
  | nil => rfl
  | cons c s ih => rw [textUnits, List.flatMap_cons, ofUnits_charUnits_append, ← textUnits, ih]

/-- **A written text is read back**, and what follows its closing quote is left. -/
theorem readText_flatMap_asciiChar (s rest : Text) :
    readText (s.flatMap asciiChar ++ '"' :: rest) = .ok (s, rest) := by
  rw [readText, readUnits_flatMap_asciiChar]
  dsimp only
  rw [ofUnits_textUnits]

/-! ## Values -/

/-- A value that may be saved: texts, arrays and objects without a repeated name, arrays and objects
nested at most `depth` deep. -/
inductive Storable : Nat → Json → Prop
  | text (depth : Nat) (s : Text) : Storable depth (.text s)
  | array {depth : Nat} {items : List Json} (h : ∀ item ∈ items, Storable depth item) :
      Storable (depth + 1) (.array items)
  | object {depth : Nat} {entries : List (Text × Json)} (distinct : (entries.map Prod.fst).Nodup)
      (h : ∀ entry ∈ entries, Storable depth entry.2) : Storable (depth + 1) (.object entries)

attribute [local simp] compact compactItems compactEntries

/-- A written value begins with a character that is no space and ends no array or object. -/
theorem Storable.exists_compact_eq_cons {depth : Nat} {value : Json} (h : Storable depth value) :
    ∃ c s, compact value = c :: s ∧ isSpace c = false ∧ c ≠ ']' ∧ c ≠ '\x7d' := by
  cases h with
  | text s => exact ⟨'"', _, by rw [compact]; rfl, by decide, by decide, by decide⟩
  | @array depth items h =>
    cases items with
    | nil => exact ⟨'[', _, by rw [compact]; rfl, by decide, by decide, by decide⟩
    | cons item items => exact ⟨'[', _, by rw [compact]; rfl, by decide, by decide, by decide⟩
  | @object depth entries distinct h =>
    cases entries with
    | nil => exact ⟨'\x7b', _, by rw [compact]; rfl, by decide, by decide, by decide⟩
    | cons entry entries =>
      exact ⟨'\x7b', _, by rw [compact]; rfl, by decide, by decide, by decide⟩

theorem skipSpace_cons {c : Char} (h : isSpace c = false) (rest : Text) :
    skipSpace (c :: rest) = c :: rest := by
  rw [skipSpace, List.dropWhile_cons, h]
  rfl

/-- So there is no space to be skipped before it. -/
theorem Storable.skipSpace_compact {depth : Nat} {value : Json} (h : Storable depth value)
    (rest : Text) : skipSpace (compact value ++ rest) = compact value ++ rest := by
  obtain ⟨c, s, hs, hc, -, -⟩ := h.exists_compact_eq_cons
  rw [hs, List.cons_append, skipSpace_cons hc]

/-- A written value, whatever follows it, is read within twice as many steps as it has characters.
-/
def ReadsBack (depth : Nat) (value : Json) : Prop :=
  ∀ fuel rest, 2 * (compact value).length ≤ fuel →
    readValue fuel depth (compact value ++ rest) = .ok (value, rest)

section Steps

variable {fuel depth : Nat} {s rest rest' name : Text} {item value : Json} {items : List Json}
  {entries : List (Text × Json)}

attribute [local simp] readValue readItems readEntries bind Except.bind pure Except.pure

/-- The last item is followed by the bracket that closes the array. -/
theorem readItems_last (h : readValue fuel depth s = .ok (item, ']' :: rest)) :
    readItems (fuel + 1) depth s = .ok ([item], rest) := by
  have hend : skipSpace (']' :: rest) = ']' :: rest := skipSpace_cons (by decide) rest
  simp [h, hend]

/-- Any other item is followed by a comma. -/
theorem readItems_more (h : readValue fuel depth s = .ok (item, ',' :: rest))
    (hmore : readItems fuel depth (skipSpace rest) = .ok (items, rest')) :
    readItems (fuel + 1) depth s = .ok (item :: items, rest') := by
  have hcomma : skipSpace (',' :: rest) = ',' :: rest := skipSpace_cons (by decide) rest
  simp [h, hcomma, hmore]

/-- The last entry is followed by the brace that closes the object. -/
theorem readEntries_last (hname : readText s = .ok (name, ':' :: rest))
    (h : readValue fuel depth (skipSpace rest) = .ok (value, '\x7d' :: rest')) :
    readEntries (fuel + 1) depth ('"' :: s) = .ok ([(name, value)], rest') := by
  have hcolon : skipSpace (':' :: rest) = ':' :: rest := skipSpace_cons (by decide) rest
  have hend : skipSpace ('\x7d' :: rest') = '\x7d' :: rest' := skipSpace_cons (by decide) rest'
  simp [hname, hcolon, h, hend]

/-- Any other entry is followed by a comma. -/
theorem readEntries_more {rest'' : Text} (hname : readText s = .ok (name, ':' :: rest))
    (h : readValue fuel depth (skipSpace rest) = .ok (value, ',' :: rest'))
    (hmore : readEntries fuel depth (skipSpace rest') = .ok (entries, rest'')) :
    readEntries (fuel + 1) depth ('"' :: s) = .ok ((name, value) :: entries, rest'') := by
  have hcolon : skipSpace (':' :: rest) = ':' :: rest := skipSpace_cons (by decide) rest
  have hcomma : skipSpace (',' :: rest') = ',' :: rest' := skipSpace_cons (by decide) rest'
  simp [hname, hcolon, h, hcomma, hmore]

/-- An array that is not empty is read item by item, one level deeper. -/
theorem readValue_array {c : Char} {t : Text} (hs : skipSpace s = c :: t) (hc : c ≠ ']')
    (h : readItems fuel depth (skipSpace s) = .ok (items, rest)) :
    readValue (fuel + 1) (depth + 1) ('[' :: s) = .ok (array items, rest) := by
  rw [hs] at h
  simp [hs, hc, h]

/-- So is an object entry by entry, and no name comes twice. -/
theorem readValue_object {c : Char} {t : Text} (hs : skipSpace s = c :: t) (hc : c ≠ '\x7d')
    (h : readEntries fuel depth (skipSpace s) = .ok (entries, rest))
    (hdistinct : (entries.map Prod.fst).Nodup) :
    readValue (fuel + 1) (depth + 1) ('\x7b' :: s) = .ok (object entries, rest) := by
  rw [hs] at h
  simp [hs, hc, h, Assoc.ofPairs_of_nodup hdistinct]

end Steps

theorem compactItems_cons (item : Json) (items : List Json) (rest : Text) :
    compactItems (item :: items) ++ rest =
      ',' :: ' ' :: (compact item ++ (compactItems items ++ rest)) := by
  simp

/-- The items of an array are read back if each of them is. -/
theorem readItems_compactItems {depth : Nat} (item : Json) (items : List Json)
    (hstorable : ∀ v ∈ item :: items, Storable depth v)
    (hread : ∀ v ∈ item :: items, ReadsBack depth v) (fuel : Nat) (rest : Text)
    (hfuel : 2 * (compact item ++ compactItems items).length ≤ fuel) :
    readItems fuel depth (compact item ++ (compactItems items ++ rest)) =
      .ok (item :: items, rest) := by
  -- an item takes a step of the budget, and its comma pays for it
  induction items generalizing item fuel with
  | nil =>
    have hends : compactItems [] = [']'] := by rw [compactItems]; rfl
    rw [hends, List.length_append, List.length_singleton] at hfuel
    obtain ⟨fuel, rfl⟩ : ∃ n, fuel = n + 1 := ⟨fuel - 1, by omega⟩
    rw [hends]
    exact readItems_last (hread item List.mem_cons_self fuel _ (by omega))
  | cons next items ih =>
    have hlength := congrArg List.length (compactItems_cons next items [])
    simp only [List.append_nil, List.length_cons] at hlength
    rw [List.length_append, hlength] at hfuel
    obtain ⟨fuel, rfl⟩ : ∃ n, fuel = n + 1 := ⟨fuel - 1, by omega⟩
    have hnext := ih next (fun v hv => hstorable v (List.mem_cons_of_mem _ hv))
      (fun v hv => hread v (List.mem_cons_of_mem _ hv)) fuel (by omega)
    have hspace : ∀ s, skipSpace (' ' :: (compact next ++ s)) = compact next ++ s :=
      (hstorable next (by simp)).skipSpace_compact
    rw [compactItems_cons]
    refine readItems_more (hread item List.mem_cons_self fuel _ (by omega)) ?_
    rw [hspace]
    exact hnext

theorem quotedBy_append (name rest : Text) :
    quotedBy asciiChar name ++ rest = '"' :: (name.flatMap asciiChar ++ '"' :: rest) := by
  simp [quotedBy]

theorem skipSpace_quotedBy (name rest : Text) :
    skipSpace (' ' :: (quotedBy asciiChar name ++ rest)) = quotedBy asciiChar name ++ rest := by
  rw [quotedBy_append]
  exact skipSpace_cons (c := '"') (by decide) _

theorem compactEntries_cons (entry : Text × Json) (entries : List (Text × Json)) (rest : Text) :
    compactEntries (entry :: entries) ++ rest =
      ',' :: ' ' :: (quotedBy asciiChar entry.1 ++
        ':' :: ' ' :: (compact entry.2 ++ (compactEntries entries ++ rest))) := by
  simp

/-- The entries of an object are read back if the value of each of them is. -/
theorem readEntries_compactEntries {depth : Nat} (entry : Text × Json)
    (entries : List (Text × Json)) (hstorable : ∀ e ∈ entry :: entries, Storable depth e.2)
    (hread : ∀ e ∈ entry :: entries, ReadsBack depth e.2) (fuel : Nat) (rest : Text)
    (hfuel : 2 * (compact entry.2 ++ compactEntries entries).length ≤ fuel) :
    readEntries fuel depth (quotedBy asciiChar entry.1 ++
      ':' :: ' ' :: (compact entry.2 ++ (compactEntries entries ++ rest))) =
      .ok (entry :: entries, rest) := by
  have hspace : ∀ s, skipSpace (' ' :: (compact entry.2 ++ s)) = compact entry.2 ++ s :=
    (hstorable entry List.mem_cons_self).skipSpace_compact
  induction entries generalizing entry fuel with
  | nil =>
    have hends : compactEntries [] = ['\x7d'] := by rw [compactEntries]; rfl
    rw [hends, List.length_append, List.length_singleton] at hfuel
    obtain ⟨fuel, rfl⟩ : ∃ n, fuel = n + 1 := ⟨fuel - 1, by omega⟩
    rw [hends, quotedBy_append]
    refine readEntries_last (readText_flatMap_asciiChar _ _) ?_
    rw [hspace]
    exact hread entry List.mem_cons_self fuel _ (by omega)
  | cons next entries ih =>
    have hlength := congrArg List.length (compactEntries_cons next entries [])
    simp only [List.append_nil, List.length_cons, List.length_append] at hlength
    rw [List.length_append, hlength] at hfuel
    obtain ⟨fuel, rfl⟩ : ∃ n, fuel = n + 1 := ⟨fuel - 1, by omega⟩
    have hnext := ih next (fun e he => hstorable e (List.mem_cons_of_mem _ he))
      (fun e he => hread e (List.mem_cons_of_mem _ he)) fuel
      (by rw [List.length_append]; omega) (hstorable next (by simp)).skipSpace_compact
    have hvalue := hread entry List.mem_cons_self fuel (compactEntries (next :: entries) ++ rest)
      (by omega)
    rw [← hspace, compactEntries_cons] at hvalue
    rw [← skipSpace_quotedBy] at hnext
    rw [compactEntries_cons, quotedBy_append entry.1]
    exact readEntries_more (readText_flatMap_asciiChar _ _) hvalue hnext

theorem compact_array_cons (item : Json) (items : List Json) (rest : Text) :
    compact (.array (item :: items)) ++ rest =
      '[' :: (compact item ++ (compactItems items ++ rest)) := by
  simp

theorem compact_object_cons (entry : Text × Json) (entries : List (Text × Json)) (rest : Text) :
    compact (.object (entry :: entries)) ++ rest =
      '\x7b' :: (quotedBy asciiChar entry.1 ++
        ':' :: ' ' :: (compact entry.2 ++ (compactEntries entries ++ rest))) := by
  simp

theorem readsBack_text (depth : Nat) (s : Text) : ReadsBack depth (.text s) := by
  intro fuel rest hfuel
  rw [compact] at hfuel ⊢
  rw [quotedBy_append]
  obtain ⟨fuel, rfl⟩ : ∃ n, fuel = n + 1 := ⟨fuel - 1, by simp [quotedBy] at hfuel; omega⟩
  rw [readValue, readText_flatMap_asciiChar]
  rfl

theorem readsBack_array {depth : Nat} {items : List Json}
    (hstorable : ∀ item ∈ items, Storable depth item)
    (hread : ∀ item ∈ items, ReadsBack depth item) : ReadsBack (depth + 1) (.array items) := by
  intro fuel rest hfuel
  cases items with
  | nil =>
    obtain ⟨fuel, rfl⟩ : ∃ n, fuel = n + 1 := ⟨fuel - 1, by simp at hfuel; omega⟩
    rfl
  | cons item items =>
    have hitem := hstorable item List.mem_cons_self
    obtain ⟨c, s, hs, -, hend, -⟩ := hitem.exists_compact_eq_cons
    have hlength := congrArg List.length (compact_array_cons item items [])
    simp only [List.append_nil, List.length_cons] at hlength
    rw [hlength] at hfuel
    obtain ⟨fuel, rfl⟩ : ∃ n, fuel = n + 1 := ⟨fuel - 1, by omega⟩
    have hspace := hitem.skipSpace_compact (compactItems items ++ rest)
    have hitems := readItems_compactItems item items hstorable hread fuel rest (by omega)
    rw [compact_array_cons]
    refine readValue_array (hspace.trans (by rw [hs]; rfl)) hend ?_
    rw [hspace]
    exact hitems

theorem readsBack_object {depth : Nat} {entries : List (Text × Json)}
    (hdistinct : (entries.map Prod.fst).Nodup)
    (hstorable : ∀ entry ∈ entries, Storable depth entry.2)
    (hread : ∀ entry ∈ entries, ReadsBack depth entry.2) :
    ReadsBack (depth + 1) (.object entries) := by
  intro fuel rest hfuel
  cases entries with
  | nil =>
    obtain ⟨fuel, rfl⟩ : ∃ n, fuel = n + 1 := ⟨fuel - 1, by simp at hfuel; omega⟩
    rfl
  | cons entry entries =>
    have hlength := congrArg List.length (compact_object_cons entry entries [])
    simp only [List.append_nil, List.length_cons, List.length_append] at hlength
    rw [hlength] at hfuel
    obtain ⟨fuel, rfl⟩ : ∃ n, fuel = n + 1 := ⟨fuel - 1, by omega⟩
    have hentries := readEntries_compactEntries entry entries hstorable hread fuel rest
      (by rw [List.length_append]; omega)
    have hname := skipSpace_cons (c := '"') (by decide) (entry.1.flatMap asciiChar ++ '"' ::
      ':' :: ' ' :: (compact entry.2 ++ (compactEntries entries ++ rest)))
    rw [compact_object_cons]
    rw [quotedBy_append] at hentries ⊢
    refine readValue_object hname (by decide) ?_ hdistinct
    rw [hname]
    exact hentries

/-- **A written value is read up to what follows it.** -/
theorem Storable.readsBack {depth : Nat} {value : Json} (h : Storable depth value) :
    ReadsBack depth value := by
  induction h with
  | text depth s => exact readsBack_text depth s
  | array h ih => exact readsBack_array h ih
  | object distinct h ih => exact readsBack_object distinct h ih

/-- **A value that may be saved is read back from its text.** -/
theorem read_compact {value : Json} (h : Storable depthLimit value) :
    read (compact value) = .ok value := by
  have hspace := h.skipSpace_compact []
  have hread := h.readsBack (2 * (compact value).length + 2) [] (by omega)
  rw [List.append_nil] at hspace hread
  rw [read, hspace, hread]
  rfl

/-! ## Printable ASCII -/

/-- A character that can be seen on any terminal, or a space. -/
def isPrintableAscii (c : Char) : Bool :=
  32 ≤ c.toNat && c.toNat < 127

theorem printable_hexDigit : ∀ n < 16, isPrintableAscii (Text.hexDigit n) := by
  decide

/-- An escaped unit is written in digits. -/
theorem printable_unitEscape (n : Nat) : (unitEscape n).all isPrintableAscii := by
  have hdigit : ∀ m, isPrintableAscii (Text.hexDigit (m % 16)) :=
    fun m => printable_hexDigit _ (Nat.mod_lt m (by decide))
  rw [unitEscape, hexDigits_four]
  simp [hdigit]
  decide

theorem printable_shortEscape {c : Char} {e : Text} (h : shortEscape? c = some e) :
    e.all isPrintableAscii := by
  unfold shortEscape? at h
  split at h
  case h_8 => cases h
  all_goals
    cases h
    decide

/-- A character is written as it is only if it is printable. -/
theorem printable_asciiChar (c : Char) : (asciiChar c).all isPrintableAscii := by
  unfold asciiChar
  split
  · next e h => exact printable_shortEscape h
  · split
    · next h => simpa [isPrintableAscii] using h
    · split
      · exact printable_unitEscape _
      · rw [List.all_append, printable_unitEscape, printable_unitEscape]
        rfl

theorem printable_quotedBy (s : Text) : (quotedBy asciiChar s).all isPrintableAscii := by
  have hs : (s.flatMap asciiChar).all isPrintableAscii := by
    rw [List.all_flatMap, List.all_eq_true]
    exact fun c _ => printable_asciiChar c
  rw [quotedBy, List.cons_append, List.all_cons, List.all_append, hs]
  rfl

theorem printable_compactItems {items : List Json}
    (h : ∀ item ∈ items, (compact item).all isPrintableAscii) :
    (compactItems items).all isPrintableAscii := by
  induction items with
  | nil => rw [compactItems]; rfl
  | cons item items ih =>
    rw [compactItems, List.all_append, List.all_append, h item List.mem_cons_self,
      ih fun v hv => h v (List.mem_cons_of_mem _ hv)]
    rfl

theorem printable_compactEntries {entries : List (Text × Json)}
    (h : ∀ entry ∈ entries, (compact entry.2).all isPrintableAscii) :
    (compactEntries entries).all isPrintableAscii := by
  induction entries with
  | nil => rw [compactEntries]; rfl
  | cons entry entries ih =>
    rw [compactEntries, List.all_append, List.all_append, List.all_append, List.all_append,
      h entry List.mem_cons_self, ih fun e he => h e (List.mem_cons_of_mem _ he),
      printable_quotedBy]
    rfl

/-- **What is saved is printable ASCII**, whatever characters its texts have. -/
theorem Storable.printable {depth : Nat} {value : Json} (h : Storable depth value) :
    (compact value).all isPrintableAscii := by
  induction h with
  | text depth s =>
    rw [compact]
    exact printable_quotedBy s
  | @array depth items h ih =>
    cases items with
    | nil => rw [compact]; rfl
    | cons item items =>
      rw [compact, List.cons_append, List.all_cons, List.all_append, ih item List.mem_cons_self,
        printable_compactItems fun v hv => ih v (List.mem_cons_of_mem _ hv)]
      rfl
  | @object depth entries distinct h ih =>
    cases entries with
    | nil => rw [compact]; rfl
    | cons entry entries =>
      rw [compact]
      simp only [List.cons_append, List.all_cons, List.all_append, printable_quotedBy,
        ih entry List.mem_cons_self,
        printable_compactEntries fun e he => ih e (List.mem_cons_of_mem _ he)]
      rfl

end Json

end CodeKeyboard
