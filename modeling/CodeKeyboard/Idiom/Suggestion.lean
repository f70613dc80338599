import CodeKeyboard.Assoc
import CodeKeyboard.Score
import CodeKeyboard.Text.Basic

/-!
# Suggestions (specification §4.3)

A rule looks at the current line and names labels that would go on with it, each with a confidence.
The rules of a language stand in a `Cascade`, in order of priority: of all rules that name a label
the first decides its confidence.

Ranking asks for the same line once for every button, so a cascade may be asked through a `Memory`
of its last answer. `ask_fst` says that the memory never changes an answer, whatever was asked
before.
-/

namespace CodeKeyboard

/-- Labels with their confidences, in the order in which they were named. -/
abbrev Suggestions := Assoc Text Score

/-- What a recognised construct suggests for a line; nothing when it is not recognised. -/
abbrev Rule := Text → Suggestions

namespace Suggestions

/-- The suggestions of a first rule, and after them what a second one names beyond them. -/
def merge (first second : Suggestions) : Suggestions :=
  first ++ second.filter fun hit => !first.any (·.1 == hit.1)

/-- The confidence of a label; nothing when it is not named. -/
def confidence (hits : Suggestions) (label : Text) : Score :=
  (hits.lookup label).getD 0

/-- One label with full confidence. -/
def sure (label : Text) : Suggestions := [(label, 1)]

theorem lookup_filter_of_keep (keep : Text → Bool) {hits : Suggestions} {label : Text}
    (h : keep label = true) :
    (hits.filter fun hit => keep hit.1).lookup label = hits.lookup label := by
  induction hits with
  | nil => rfl
  | cons hit hits ih =>
    obtain ⟨l, v⟩ := hit
    by_cases hl : label == l
    · obtain rfl : label = l := by simpa using hl
      simp [h]
    · by_cases hk : keep l <;> simp [hk, List.lookup_cons, hl, ih]

/-- The first rule that names a label decides its confidence. -/
theorem lookup_merge (first second : Suggestions) (label : Text) :
    (first.merge second).lookup label = (first.lookup label).or (second.lookup label) := by
  rw [merge, List.lookup_append]
  cases hf : first.lookup label with
  | some v => simp
  | none =>
    have : first.any (·.1 == label) = false := by
      rw [List.lookup_eq_none_iff] at hf
      simp only [List.any_eq_false, beq_iff_eq]
      intro hit hm e
      simpa [e] using hf hit hm
    simp only [Option.none_or]
    exact lookup_filter_of_keep (fun l => !first.any (·.1 == l)) (by simp [this])

end Suggestions

/-- Rules in order of priority. -/
structure Cascade where
  /-- The rules, the first one deciding first. -/
  rules : List Rule

namespace Cascade

/-- The cascade of a language for which there are no rules. -/
def silent : Cascade := ⟨[]⟩

/-- What the rules suggest for a line, each label once, in the order of first mention. -/
def suggestions (cascade : Cascade) (line : Text) : Suggestions :=
  cascade.rules.foldl (fun hits rule => hits.merge (rule line)) []

/-- The confidence of a label on a line; nothing when no rule names it. -/
def score (cascade : Cascade) (line label : Text) : Score :=
  (cascade.suggestions line).confidence label

/-! ## The memory of the last answer -/

/-- The last line asked for and the answer to it. -/
structure Memory where
  /-- The line and the suggestions for it; nothing before the first question. -/
  last : Option (Text × Suggestions)

/-- The memory before the first question. -/
def Memory.blank : Memory := ⟨none⟩

/-- The suggestions for a line, taken from the memory when it was the last line asked for. -/
def ask (cascade : Cascade) (memory : Memory) (line : Text) : Suggestions × Memory :=
  match memory.last with
  | some (asked, hits) =>
    if asked = line then (hits, memory)
    else (cascade.suggestions line, ⟨some (line, cascade.suggestions line)⟩)
  | none => (cascade.suggestions line, ⟨some (line, cascade.suggestions line)⟩)

/-- The suggestions for several lines, asked one after the other. -/
def askAll (cascade : Cascade) (memory : Memory) : List Text → List Suggestions × Memory
  | [] => ([], memory)
  | line :: lines =>
    let (hits, memory) := cascade.ask memory line
    let (rest, memory) := askAll cascade memory lines
    (hits :: rest, memory)

/-- A memory is faithful when what it holds is what the cascade suggests. -/
def Memory.Faithful (cascade : Cascade) (memory : Memory) : Prop :=
  ∀ line hits, memory.last = some (line, hits) → hits = cascade.suggestions line

theorem Memory.faithful_blank (cascade : Cascade) : Memory.blank.Faithful cascade := by
  intro line hits h
  simp [Memory.blank] at h

/-- Asking through a faithful memory answers as the cascade does. -/
theorem ask_fst {cascade : Cascade} {memory : Memory} (h : memory.Faithful cascade) (line : Text) :
    (cascade.ask memory line).1 = cascade.suggestions line := by
  unfold ask
  split
  · next asked hits hm =>
    split
    · next e => exact e ▸ h _ _ hm
    · rfl
  · rfl

/-- Asking keeps a memory faithful. -/
theorem faithful_ask {cascade : Cascade} {memory : Memory} (h : memory.Faithful cascade)
    (line : Text) : (cascade.ask memory line).2.Faithful cascade := by
  unfold ask
  split
  · split
    · exact h
    · intro l hits e
      simp only [Option.some.injEq, Prod.mk.injEq] at e
      rw [← e.1, ← e.2]
  · intro l hits e
    simp only [Option.some.injEq, Prod.mk.injEq] at e
    rw [← e.1, ← e.2]

end Cascade

end CodeKeyboard
