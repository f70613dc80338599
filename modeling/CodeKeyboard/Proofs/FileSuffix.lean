import CodeKeyboard.Catalog

/-!
# The language of a file (specification §6)

A file name, a suffix with its dot and a suffix alone are asked for in the same way, and what is
asked for may have blanks around it and capitals in it. In lower case the suffix is what follows the
last dot, or all there is when there is no dot; only a dot that nothing stands before needs care,
since it is dropped and not cut at.

Lower case is no matter of single characters, as a sigma looks at what stands around it. It does not
reach a suffix in ASCII: what stands before the suffix is lowered to something, and the suffix is
lowered as if it stood alone.

- `Text.Spells`: a suffix and a spelling of it. `Spells.lower_append` and `Spells.trim_append` say
  how a name that ends in a spelling is lowered and trimmed.
- `Catalog.suffixOf_spelling`, `Catalog.suffixOf_append_spelling`: both kinds of names have the
  suffix.
- `Catalog.StandsFor`: the language that a suffix stands for, by the order of the catalog.
- `Catalog.byFileName_by_last_suffix`: all names with the suffix are looked up alike.
-/

namespace CodeKeyboard

namespace Text

variable {c : Char} {suffix spelling : Text}

/-! ## Suffixes and their spellings -/

/-- The characters of a suffix: ASCII without the dot and the blanks. -/
def isSuffixChar (c : Char) : Bool :=
  c.toNat < 128 && c != '.' && !isBlank c

/-- **A suffix in some spelling**, which may differ from it in case. -/
structure Spells (suffix spelling : Text) : Prop where
  /-- The suffix is not empty. -/
  ne_nil : suffix ≠ []
  /-- It is made of characters of suffixes. -/
  made : suffix.all isSuffixChar = true
  /-- The spelling has the same lower case. -/
  lower_eq : spelling.lower = suffix.lower

/-- What holds of the first 128 characters one by one holds of every ASCII character. -/
theorem forall_ascii {p : Char → Prop} (h : ∀ n < 128, p (Char.ofNat n)) (hc : c.toNat < 128) :
    p c := by
  have hp := h c.toNat hc
  rwa [Char.ofNat_toNat] at hp

theorem ascii_of_isSuffixChar (h : isSuffixChar c = true) : c.toNat < 128 := by
  simp only [isSuffixChar, Bool.and_eq_true, decide_eq_true_eq] at h
  exact h.1.1

theorem isSuffixChar_toLower (h : isSuffixChar c = true) : isSuffixChar c.toLower = true := by
  refine forall_ascii (p := fun c => isSuffixChar c = true → isSuffixChar c.toLower = true) ?_
    (ascii_of_isSuffixChar h) h
  decide +kernel

/-- No run of capitals reaches a blank. -/
theorem apart_of_mem_lowerShifts :
    ∀ run ∈ lowerShifts, ∀ range ∈ blankTable, range.2 < run.first ∨ run.last < range.1 := by
  decide +kernel

/-- So a blank is its own lower case. -/
theorem lowerChar_of_isBlank (h : isBlank c = true) : lowerChar c = [c] := by
  obtain ⟨range, hrange, hfirst, hlast⟩ := CharTable.contains_iff.1 h
  rw [lowerChar]
  split
  · next hlow =>
    have hsame : c.toLower = c :=
      forall_ascii (p := fun c => isBlank c = true → c.toLower = c) (by decide +kernel) hlow h
    rw [hsame]
  · split
    · next hdotted =>
      subst hdotted
      exact absurd h (by decide)
    · have hruns : lowerShifts.find? (·.covers c) = none := by
        rw [List.find?_eq_none]
        intro run hrun hcovers
        simp only [CharShift.covers, Bool.and_eq_true, decide_eq_true_eq] at hcovers
        obtain ⟨⟨hafter, hbefore⟩, -⟩ := hcovers
        rcases apart_of_mem_lowerShifts run hrun range hrange with happart | happart
        · exact Nat.not_le_of_lt happart (Nat.le_trans hafter hlast)
        · exact Nat.not_le_of_lt happart (Nat.le_trans hfirst hbefore)
      rw [CharShift.apply, hruns]

namespace Spells

variable (h : Spells suffix spelling)
include h

theorem lower_eq_map : spelling.lower = suffix.map Char.toLower := by
  rw [h.lower_eq]
  exact lower_of_ascii fun c hc => ascii_of_isSuffixChar (List.all_eq_true.1 h.made c hc)

/-- In lower case a spelling has no other characters than suffixes have. -/
theorem not_mem_lower (hc : isSuffixChar c = false) : c ∉ spelling.lower := by
  intro hmem
  rw [h.lower_eq_map] at hmem
  obtain ⟨d, hd, rfl⟩ := List.mem_map.1 hmem
  rw [isSuffixChar_toLower (List.all_eq_true.1 h.made d hd)] at hc
  cases hc

theorem lower_ne_nil : suffix.lower ≠ [] := by
  intro hnil
  have hmap := h.lower_eq_map
  rw [h.lower_eq, hnil] at hmap
  exact h.ne_nil (List.map_eq_nil_iff.1 hmap.symm)

theorem spelling_ne_nil : spelling ≠ [] := by
  rintro rfl
  exact h.lower_ne_nil h.lower_eq.symm

/-- A sigma would be one still in lower case. -/
theorem sigma_not_mem : 'Σ' ∉ spelling := by
  intro hmem
  rcases sigma_mem_lowerFrom hmem [] with hlower | hlower
  · exact h.not_mem_lower (by decide) hlower
  · exact h.not_mem_lower (by decide) hlower

/-- And so would a blank. -/
theorem not_isBlank : ∀ c ∈ spelling, isBlank c = false := by
  intro c hc
  rw [← Bool.not_eq_true]
  intro hblank
  have hsigma : c ≠ 'Σ' := fun heq => h.sigma_not_mem (heq ▸ hc)
  have hlower : c ∈ spelling.lower := by
    refine mem_lowerFrom_of_mem hc hsigma [] c ?_
    rw [lowerChar_of_isBlank hblank]
    exact List.mem_cons_self
  have hother : isSuffixChar c = false := by
    rw [isSuffixChar, hblank, Bool.not_true, Bool.and_false]
  exact h.not_mem_lower hother hlower

/-- **What stands before the dot does not change the case of what follows it.** -/
theorem lower_append (front : Text) :
    ∃ lowered, lower (front ++ '.' :: spelling) = lowered ++ '.' :: spelling.lower := by
  obtain ⟨lowered, hlowered⟩ := lowerFrom_append [] front ('.' :: spelling)
  have hdot : lowerChar '.' = ['.'] := by decide
  refine ⟨lowered, ?_⟩
  rw [lower, hlowered, lowerFrom, if_neg (by decide), hdot, lowerFrom_of_not_mem h.sigma_not_mem,
    lower, lowerFrom_of_not_mem h.sigma_not_mem]
  rfl

/-- **Only blanks before and after are trimmed** of a name that ends in a spelling. -/
theorem trim_append {trail : Text} (htrail : allBlank trail = true) (front : Text) :
    trim (front ++ spelling ++ trail) = trimStart front ++ spelling := by
  obtain ⟨c, s, rfl⟩ := List.exists_cons_of_ne_nil h.spelling_ne_nil
  have hc := h.not_isBlank c List.mem_cons_self
  have hstart : trimStart (front ++ c :: s ++ trail) = trimStart front ++ c :: s ++ trail := by
    rw [List.append_assoc, List.cons_append, trimStart_append_cons hc, List.append_assoc,
      List.cons_append]
  rw [trim, hstart, trimEnd_append_of_allBlank htrail]
  refine trimEnd_of_visible fun d hd => h.not_isBlank d ?_
  rw [List.getLast?_append, List.getLast?_eq_some_getLast (List.cons_ne_nil c s),
    Option.some_or] at hd
  rw [← Option.some.inj hd]
  exact List.getLast_mem _

end Spells

end Text

namespace Catalog

open Text

variable {catalog : Catalog} {suffix spelling name front last lead trail : Text}
  {language : Language}

/-! ## The suffix of a name -/

/-- A name without a dot is a suffix itself. -/
theorem suffixOf_of_not_mem (hdot : '.' ∉ name.trim.lower) : suffixOf name = name.trim.lower := by
  have hhead : name.trim.lower.head? ≠ some '.' := fun h => hdot (List.mem_of_mem_head? h)
  unfold suffixOf
  dsimp only
  split
  · rw [afterLast_of_not_mem hdot, dropLeading_of_head? hhead]
  · rw [dropLeading_of_head? hhead]

/-- What follows the last dot of a name is its suffix, whatever stands before the dot. -/
theorem suffixOf_of_dotted (hname : name.trim.lower = front ++ '.' :: last) (hdot : '.' ∉ last) :
    suffixOf name = last := by
  have hhead : last.head? ≠ some '.' := fun h => hdot (List.mem_of_mem_head? h)
  unfold suffixOf
  dsimp only
  rw [hname]
  split
  · rw [afterLast_append_cons hdot, dropLeading_of_head? hhead]
  · next hplain =>
    -- not cut at, the dot is the only one and comes first
    simp only [Bool.or_eq_true, Bool.and_eq_true, not_or, not_and, decide_eq_true_eq,
      bne_iff_ne] at hplain
    obtain ⟨⟨-, hone⟩, hfirst⟩ := hplain
    have hfront : front = [] := by
      cases front with
      | nil => rfl
      | cons c front =>
        by_cases hc : c = '.'
        · subst hc
          simp at hone
        · exact absurd (hfirst (by simpa using hc)) (by simp)
    rw [hfront, List.nil_append, dropLeading, List.dropWhile_cons_of_pos (by decide)]
    exact dropLeading_of_head? hhead

/-- A spelling of a suffix has the suffix. -/
theorem suffixOf_spelling (h : Spells suffix spelling) (hlead : allBlank lead = true)
    (htrail : allBlank trail = true) : suffixOf (lead ++ spelling ++ trail) = suffix.lower := by
  have htrim : (lead ++ spelling ++ trail).trim = spelling := by
    rw [h.trim_append htrail, trimStart_of_allBlank hlead, List.nil_append]
  have hdot : '.' ∉ (lead ++ spelling ++ trail).trim.lower := by
    rw [htrim]
    exact h.not_mem_lower (by decide)
  rw [suffixOf_of_not_mem hdot, htrim, h.lower_eq]

/-- So has any name that ends in a dot and a spelling of it. -/
theorem suffixOf_append_spelling (h : Spells suffix spelling) (htrail : allBlank trail = true)
    (front : Text) : suffixOf (front ++ '.' :: spelling ++ trail) = suffix.lower := by
  have htrim : (front ++ '.' :: spelling ++ trail).trim = trimStart front ++ '.' :: spelling := by
    rw [List.append_cons, h.trim_append htrail, trimStart_append_cons (by decide), ←
      List.append_cons]
  obtain ⟨lowered, hlowered⟩ := h.lower_append (trimStart front)
  rw [← htrim] at hlowered
  rw [suffixOf_of_dotted hlowered (h.not_mem_lower (by decide)), h.lower_eq]

/-! ## The language of a suffix -/

/-- The language lists the suffix, in whatever case. -/
def Lists (language : Language) (suffix : Text) : Prop :=
  ∃ listed ∈ language.extensions, listed.lower = suffix.lower

theorem lists_iff : Lists language suffix ↔ suffix.lower ∈ language.extensions.map lower :=
  List.mem_map.symm

instance decidableLists (language : Language) (suffix : Text) : Decidable (Lists language suffix) :=
  decidable_of_iff _ lists_iff.symm

/-- **The language that a suffix stands for**: the first one that lists it, or else the default. -/
inductive StandsFor (catalog : Catalog) (suffix : Text) : Language → Prop
  /-- A language lists it, and none before it does. -/
  | listed {before after : List Language} {language : Language}
      (split : catalog.languages = before ++ language :: after) (lists : Lists language suffix)
      (first : ∀ earlier ∈ before, ¬ Lists earlier suffix) : StandsFor catalog suffix language
  /-- No language lists it. -/
  | unknown (unlisted : ∀ language ∈ catalog.languages, ¬ Lists language suffix) :
      StandsFor catalog suffix catalog.default

/-- Looking up a suffix finds the language that it stands for. -/
theorem bySuffix_eq_iff :
    catalog.bySuffix suffix.lower = language ↔ StandsFor catalog suffix language := by
  have hlists : (fun language : Language => decide (suffix.lower ∈ language.extensions.map lower)) =
      fun language => decide (Lists language suffix) := by
    funext language
    exact decide_eq_decide.2 lists_iff.symm
  rw [bySuffix, hlists]
  constructor
  · rintro rfl
    cases hfound : catalog.languages.find? fun language => decide (Lists language suffix) with
    | none =>
      refine .unknown fun language hlanguage hlisted => ?_
      exact List.find?_eq_none.1 hfound language hlanguage (decide_eq_true hlisted)
    | some language =>
      obtain ⟨hlisted, before, after, hsplit, hbefore⟩ := List.find?_eq_some_iff_append.1 hfound
      refine .listed hsplit (of_decide_eq_true hlisted) fun earlier hearlier => ?_
      simpa using hbefore earlier hearlier
  · intro h
    cases h with
    | @listed before after language hsplit hlisted hfirst =>
      have hfound : catalog.languages.find? (fun language => decide (Lists language suffix)) =
          some language := by
        refine List.find?_eq_some_iff_append.2 ⟨decide_eq_true hlisted, before, after, hsplit, ?_⟩
        intro earlier hearlier
        simpa using hfirst earlier hearlier
      rw [hfound, Option.getD_some]
    | unknown hnone =>
      have hfound : catalog.languages.find? (fun language => decide (Lists language suffix)) =
          none := by
        simpa using hnone
      rw [hfound, Option.getD_none]

/-- **A file name is resolved by its last suffix, in any case**, in every catalog. A path that ends
in a dot and the suffix, the suffix with its dot and the suffix alone, with any blanks around them,
all stand for one language: the first that lists the suffix in any case, or else the default. And
every name stands for a language of the catalog. -/
theorem byFileName_by_last_suffix (catalog : Catalog) :
    (∀ suffix spelling base lead trail, Spells suffix spelling → allBlank lead = true →
      allBlank trail = true → ∀ name ∈ [base ++ '.' :: spelling, '.' :: spelling, spelling],
        ∀ language, catalog.byFileName (lead ++ name ++ trail) = language ↔
          StandsFor catalog suffix language) ∧
    ∀ name, catalog.byFileName name ∈ catalog.languages := by
  refine ⟨?_, catalog.byFileName_mem⟩
  intro suffix spelling base lead trail h hlead htrail name hname language
  have hsuffix : suffixOf (lead ++ name ++ trail) = suffix.lower := by
    simp only [List.mem_cons, List.not_mem_nil, or_false] at hname
    rcases hname with rfl | rfl | rfl
    · rw [← List.append_assoc]
      exact suffixOf_append_spelling h htrail (lead ++ base)
    · exact suffixOf_append_spelling h htrail lead
    · exact suffixOf_spelling h hlead htrail
  have hempty : (lead ++ name ++ trail).isEmpty = false := by
    rw [List.isEmpty_eq_false_iff]
    intro hnil
    rw [hnil] at hsuffix
    exact h.lower_ne_nil hsuffix.symm
  rw [byFileName, hempty, hsuffix]
  exact bySuffix_eq_iff

/-- A header of C in capitals, with blanks around its path and a dot in the name of its folder. -/
theorem byFileName_by_last_suffix_header :
    Spells "h" "H" ∧ allBlank " " = true ∧ allBlank "\t" = true ∧
      builtIn.byFileName
        (" ".toList ++ ("include\\vec.3/Vec 2".toList ++ '.' :: "H".toList) ++ "\t".toList) =
          Language.c := by
  have hspells : Spells "h" "H" := ⟨by decide, by decide, by decide⟩
  refine ⟨hspells, by decide, by decide, ?_⟩
  refine ((byFileName_by_last_suffix builtIn).1 "h" "H" "include\\vec.3/Vec 2" " " "\t" hspells
    (by decide) (by decide) _ List.mem_cons_self _).2 ?_
  exact .listed
    (show builtIn.languages = [Language.python, Language.javaScript, Language.typeScript,
      Language.java, Language.cpp] ++ Language.c :: _ from rfl) (by decide) (by decide)

end Catalog

end CodeKeyboard
