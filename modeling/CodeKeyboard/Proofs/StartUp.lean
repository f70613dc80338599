import CodeKeyboard.Session
import CodeKeyboard.Proofs.HistoryRow
import CodeKeyboard.Proofs.KeyboardRow

/-!
# An engine starts on any rows (specification §7)

The rows of a store may have been written by anyone, so they may hold anything. An engine starts on
them all the same: it takes of the history what has the right form, bucket by bucket, and of each
keyboard all or nothing, and falls back to what comes with it otherwise. The one thing it cannot
read is a text that is nested too deeply.

- `Engine.Settled`: an engine that has made of the rows what can be made of them.
- `Session.exists_startEngine`: starting leads to such an engine.
- `Engine.Settled.serves`: which is then able to do whatever only reads.
- `Session.run_of_reads`: steps that only read go well and leave the session as it is, by induction
  on the steps.
- `Session.starts_on_any_rows`: all this from the start.
-/

namespace CodeKeyboard

/-- No row is nested too deeply to be read. -/
def Shallow (rows : Assoc Text Text) : Prop :=
  ∀ key text, rows.lookup key = some text → Json.read text ≠ .error .tooDeep

theorem shallow_of_forall {rows : Assoc Text Text}
    (h : ∀ row ∈ rows, Json.read row.2 ≠ .error .tooDeep) : Shallow rows := by
  intro key text htext
  exact h (key, text) (Assoc.mem_of_lookup htext)

/-- A step that only reads what is kept. -/
inductive Step.Reads : Step → Prop where
  | loadHistory : Reads .loadHistory
  | pool (choice : LanguageChoice) : Reads (.pool choice)
  | findButton (id : Text) (choice : LanguageChoice) : Reads (.findButton id choice)
  | predict (text : Text) (cursor : Option Int) (limit : Int) (choice : LanguageChoice) :
    Reads (.predict text cursor limit choice)

/-- What has merged a row merges it again without a change. -/
theorem Buckets.Merged.eq_of_again {limit : Int} {row : Option Text} {first once twice : Buckets}
    (h : Merged limit row first once) (hagain : Merged limit row once twice) : twice = once := by
  funext kind
  obtain ⟨values, hheld, hcut⟩ | hstays := hagain.apply kind
  · rw [hcut, h.held kind values hheld]
  · exact hstays

namespace Engine

variable {engine : Engine} {rows : Assoc Text Text}

/-- The engine has made of the rows what can be made of them. -/
structure Settled (rows : Assoc Text Text) (engine : Engine) : Prop where
  /-- Its store has the rows. -/
  readable : ∀ key, engine.store.get? key = .ok (rows.lookup key)
  /-- Each bucket begins as the row of the history has it, or else is what it is at first. -/
  buckets : Buckets.Merged engine.history.limit (rows.lookup engine.history.key) Buckets.seeds
    engine.history.buckets

/-- What an engine does that only reads the rows. -/
structure Serves (rows : Assoc Text Text) (engine : Engine) : Prop where
  /-- A keyboard that the row of its language holds is the one that is used. -/
  held : ∀ language keyboard,
    Keyboard.Held (rows.lookup (Keyboard.keyFor engine.keyStart language)) keyboard →
      engine.keyboard language = .ok (keyboard, [])
  /-- A language whose row holds none has the keyboard it comes with. -/
  usual : ∀ language,
    (∀ keyboard,
      ¬ Keyboard.Held (rows.lookup (Keyboard.keyFor engine.keyStart language)) keyboard) →
      ∃ warnings, engine.keyboard language = .ok (language.keyboard, warnings)
  /-- The history can be loaded again, and is what it was. -/
  load : ∃ warnings, engine.history.load engine.store = .ok (engine.history, warnings)
  /-- There is a candidate pool. -/
  pool : ∀ language, ∃ found, engine.pool language = .ok found
  /-- Buttons can be looked for. -/
  findButton : ∀ language id, ∃ found, engine.findButton language id = .ok found
  /-- There are predictions. -/
  predict : ∀ language text cursor limit,
    ∃ found, engine.predict language text cursor limit = .ok found

namespace Settled

theorem exists_keyboard (h : engine.Settled rows) (hrows : Shallow rows) (language : Language) :
    ∃ keyboard warnings, engine.keyboard language = .ok (keyboard, warnings) := by
  have hrow := h.readable (Keyboard.keyFor engine.keyStart language)
  by_cases hheld : ∃ keyboard,
      Keyboard.Held (rows.lookup (Keyboard.keyFor engine.keyStart language)) keyboard
  · obtain ⟨keyboard, hheld⟩ := hheld
    exact ⟨keyboard, [], Keyboard.load_of_held hrow hheld⟩
  · obtain ⟨warnings, hload⟩ := Keyboard.load_of_not_held hrow (hrows _)
      fun keyboard hkeyboard => hheld ⟨keyboard, hkeyboard⟩
    exact ⟨language.keyboard, warnings, hload⟩

theorem load (h : engine.Settled rows) (hrows : Shallow rows) :
    ∃ warnings, engine.history.load engine.store = .ok (engine.history, warnings) := by
  exact History.exists_load_of_merged (h.readable engine.history.key) (hrows _) rfl rfl
    fun merged hmerged => h.buckets.eq_of_again hmerged

theorem exists_pool (h : engine.Settled rows) (hrows : Shallow rows) (language : Language) :
    ∃ found, engine.pool language = .ok found := by
  obtain ⟨keyboard, warnings, hkeyboard⟩ := h.exists_keyboard hrows language
  exact ⟨_, Outcome.map_eq_ok_iff.2 ⟨_, hkeyboard, rfl⟩⟩

/-- **What can be made of the rows is enough for whatever only reads them.** -/
theorem serves (h : engine.Settled rows) (hrows : Shallow rows) : engine.Serves rows where
  held language keyboard hheld := Keyboard.load_of_held (h.readable _) hheld
  usual language hnone := Keyboard.load_of_not_held (h.readable _) (hrows _) hnone
  load := h.load hrows
  pool := h.exists_pool hrows
  findButton language id := by
    obtain ⟨keyboard, warnings, hkeyboard⟩ := h.exists_keyboard hrows language
    exact ⟨_, Outcome.map_eq_ok_iff.2 ⟨_, hkeyboard, rfl⟩⟩
  predict language text cursor limit := by
    obtain ⟨found, hpool⟩ := h.exists_pool hrows language
    exact ⟨_, Outcome.map_eq_ok_iff.2 ⟨found, hpool, rfl⟩⟩

end Settled

end Engine

/-! ## Starting -/

/-- A new history can be loaded from any rows. -/
theorem History.exists_load_fresh {rows : Assoc Text Text} (hrows : Shallow rows)
    (backend : Backend) (key : Text) (limit : Int) :
    ∃ history warnings,
      (fresh key limit).load (Store.opened backend rows) = .ok (history, warnings) ∧
        history.key = key ∧ history.limit = limit ∧
        Buckets.Merged limit (rows.lookup key) Buckets.seeds history.buckets := by
  have hrow : (Store.opened backend rows).get? (fresh key limit).key = .ok (rows.lookup key) :=
    Store.get?_opened backend rows key
  obtain ⟨history, warnings, hload⟩ := exists_load hrow (hrows key)
  exact ⟨history, warnings, hload, merged_of_load hrow hload⟩

namespace Session

variable {session : Session} {rows : Assoc Text Text}

/-- Starting leads to an engine on the store as it was, with what is saved of its history. -/
theorem exists_startEngine (hrows : Shallow rows) (catalog : Catalog) (backend : Backend)
    (keyStart : Text) (otherHistory : Option (Text × Int)) :
    ∃ history warnings,
      startEngine catalog (Store.opened backend rows) keyStart otherHistory =
        .ok (⟨catalog, Store.opened backend rows, history, keyStart, true⟩, warnings) ∧
      (history.key, history.limit) =
        otherHistory.getD (History.usualKey, History.usualLimit) ∧
      Buckets.Merged history.limit (rows.lookup history.key) Buckets.seeds history.buckets := by
  obtain ⟨history, warnings, hload, hkey, hlimit, hmerged⟩ :=
    History.exists_load_fresh hrows backend History.usualKey History.usualLimit
  have hstart : Engine.start catalog (Store.opened backend rows) =
      .ok (⟨catalog, Store.opened backend rows, history, Keyboard.usualKeyStart, true⟩,
        warnings) :=
    Outcome.map_eq_ok_iff.2 ⟨(history, warnings), hload, rfl⟩
  cases otherHistory with
  | none =>
    refine ⟨history, warnings, Outcome.bind_eq_ok_iff.2 ⟨_, hstart, rfl⟩, ?_, ?_⟩
    · rw [hkey, hlimit]
      rfl
    · rw [hkey, hlimit]
      exact hmerged
  | some place =>
    -- the usual history is loaded first and then replaced
    obtain ⟨key, limit⟩ := place
    obtain ⟨other, more, hother, hkey', hlimit', hmerged'⟩ :=
      History.exists_load_fresh hrows backend key limit
    refine ⟨other, warnings ++ more, Outcome.bind_eq_ok_iff.2 ⟨_, hstart, ?_⟩, ?_, ?_⟩
    · exact Outcome.bind_eq_ok_iff.2
        ⟨_, Outcome.map_eq_ok_iff.2 ⟨(other, more), hother, rfl⟩, rfl⟩
    · rw [hkey', hlimit']
      rfl
    · rw [hkey', hlimit']
      exact hmerged'

/-! ## Reading -/

theorem reading_of_ok {α : Type} {result : Except StoreError (α × List Warning)}
    {found : α × List Warning} (h : result = .ok found) (reply : α → Reply) :
    session.reading result reply = ⟨.ok (reply found.1), found.2, session⟩ := by
  rw [h, reading]

/-- A step that only reads goes well and leaves the session as it is. -/
theorem step_of_reads (h : session.engine.Serves rows) {step : Step} (hreads : step.Reads) :
    (∃ reply, (session.step step).outcome = .ok reply) ∧ (session.step step).session = session := by
  cases hreads with
  | loadHistory =>
    obtain ⟨warnings, hload⟩ := h.load
    have hstep : session.step .loadHistory = ⟨.ok .done, warnings, session⟩ := by
      rw [Session.step, loadingHistory, hload]
    rw [hstep]
    exact ⟨⟨.done, rfl⟩, rfl⟩
  | pool choice =>
    obtain ⟨found, hfound⟩ := h.pool (session.language choice)
    rw [Session.step, reading_of_ok hfound]
    exact ⟨⟨_, rfl⟩, rfl⟩
  | findButton id choice =>
    obtain ⟨found, hfound⟩ := h.findButton (session.language choice) id
    rw [Session.step, reading_of_ok hfound]
    exact ⟨⟨_, rfl⟩, rfl⟩
  | predict text cursor limit choice =>
    obtain ⟨found, hfound⟩ := h.predict (session.language choice) text cursor limit
    rw [Session.step, reading_of_ok hfound]
    exact ⟨⟨_, rfl⟩, rfl⟩

/-- And so do all of them, one after the other. -/
theorem run_of_reads (h : session.engine.Serves rows) {steps : List Step}
    (hreads : ∀ step ∈ steps, step.Reads) {stepped : Stepped}
    (hstepped : stepped ∈ session.run steps) :
    (∃ reply, stepped.outcome = .ok reply) ∧ stepped.session = session := by
  induction steps with
  | nil => cases hstepped
  | cons first rest ih =>
    -- the first step leaves the session as it is, so the rest starts from the same one
    have hfirst := step_of_reads h (hreads first List.mem_cons_self)
    rw [run, hfirst.2] at hstepped
    obtain rfl | hrest := List.mem_cons.1 hstepped
    · exact hfirst
    · exact ih (fun step hstep => hreads step (List.mem_cons_of_mem first hstep)) hrest

/-- **An engine starts on any rows** that are not nested too deeply, with any languages and
wherever it keeps its history and its keyboards. Its buckets begin as the row of the history has
them, or else are what they are at first; its keyboards are those of their rows, or else those the
languages come with; and whatever only reads goes well and leaves all as it is, rows included. -/
theorem starts_on_any_rows (hrows : Shallow rows) (catalog : Catalog) (backend : Backend)
    (keyStart : Text) (otherHistory : Option (Text × Int)) :
    ∃ history warnings,
      let first : Session :=
        ⟨⟨catalog, Store.opened backend rows, history, keyStart, true⟩, [], 0, otherHistory⟩
      start catalog (Store.opened backend rows) keyStart otherHistory = .ok (first, warnings) ∧
      (history.key, history.limit) =
        otherHistory.getD (History.usualKey, History.usualLimit) ∧
      Buckets.Merged history.limit (rows.lookup history.key) Buckets.seeds history.buckets ∧
      first.engine.Serves rows ∧
      ∀ steps, (∀ step ∈ steps, step.Reads) → ∀ stepped ∈ first.run steps,
        (∃ reply, stepped.outcome = .ok reply) ∧ stepped.session = first := by
  obtain ⟨history, warnings, hengine, hplace, hmerged⟩ :=
    exists_startEngine hrows catalog backend keyStart otherHistory
  have hsettled : Engine.Settled rows
      ⟨catalog, Store.opened backend rows, history, keyStart, true⟩ :=
    ⟨Store.get?_opened backend rows, hmerged⟩
  have hserves := hsettled.serves hrows
  refine ⟨history, warnings, ?_, hplace, hmerged, hserves, fun steps hreads stepped => ?_⟩
  · exact Outcome.map_eq_ok_iff.2 ⟨_, hengine, rfl⟩
  · exact run_of_reads hserves hreads

/-- A history of which one bucket has the right form, a keyboard with a number for a key and no
label, and a text that holds no keyboard, since its button has no text. -/
theorem starts_on_rows_of_three_kinds :
    let python : Text :=
      "[\x7b\"key\": 7, \"data\": [\x7b\"id\": \"x\", \"label\": \"y\", \"text\": \"z\"\x7d]\x7d]"
    let go : Text := "[\x7b\"data\": [\x7b\"id\": \"x\", \"label\": \"y\"\x7d]\x7d]"
    let rows : Assoc Text Text :=
      [(History.usualKey, "\x7b\"types\": [\"a\", \"b\", \"c\"], \"modules\": [\"a\", 1]\x7d"),
        (Keyboard.keyFor Keyboard.usualKeyStart Language.python, python),
        (Keyboard.keyFor Keyboard.usualKeyStart Language.go, go)]
    Shallow rows ∧ ∃ first warnings,
      start Catalog.builtIn (Store.opened .file rows) Keyboard.usualKeyStart
        (some (History.usualKey, 2)) = .ok (first, warnings) ∧
      first.engine.history.values .typeName = [("a" : Text), ("b" : Text)] ∧
      first.engine.history.values .moduleName = Buckets.seeds .moduleName ∧
      first.engine.keyboard Language.python = .ok ([⟨"7", "", [⟨"x", "y", "z"⟩]⟩], []) ∧
      ∃ warned, first.engine.keyboard Language.go = .ok (Language.go.keyboard, warned) := by
  intro python go rows
  have hshallow : Shallow rows := shallow_of_forall (by decide +kernel)
  have htypes : Buckets.Held (rows.lookup History.usualKey) .typeName
      [("a" : Text), ("b" : Text), ("c" : Text)] := by decide +kernel
  have hmodules : ∀ values,
      ¬ Buckets.Held (rows.lookup History.usualKey) .moduleName values := by
    intro values hvalues
    have hnone : Buckets.held? (rows.lookup History.usualKey) .moduleName = none := by
      decide +kernel
    rw [Buckets.held_iff, hnone] at hvalues
    cases hvalues
  have hpython : Keyboard.Held
      (rows.lookup (Keyboard.keyFor Keyboard.usualKeyStart Language.python))
      [⟨"7", "", [⟨"x", "y", "z"⟩]⟩] := by decide +kernel
  have hgo : ∀ keyboard, ¬ Keyboard.Held
      (rows.lookup (Keyboard.keyFor Keyboard.usualKeyStart Language.go)) keyboard := by
    intro keyboard hkeyboard
    have hrow : rows.lookup (Keyboard.keyFor Keyboard.usualKeyStart Language.go) = some go := by
      decide +kernel
    have hbad : Keyboard.decode go = .error .badButton := by decide +kernel
    rw [hrow, ← Keyboard.decode_eq_ok_iff, hbad] at hkeyboard
    cases hkeyboard
  obtain ⟨history, warnings, hstart, hplace, hmerged, hserves, -⟩ :=
    starts_on_any_rows hshallow Catalog.builtIn .file Keyboard.usualKeyStart
      (some (History.usualKey, 2))
  obtain ⟨hkey, hlimit⟩ := Prod.mk.inj hplace
  rw [hkey, hlimit] at hmerged
  refine ⟨hshallow, _, warnings, hstart, ?_, ?_, ?_, ?_⟩
  · exact hmerged.held .typeName _ htypes
  · exact hmerged.kept .moduleName hmodules
  · exact hserves.held Language.python _ hpython
  · exact hserves.usual Language.go hgo

end Session

end CodeKeyboard
