import CodeKeyboard.Session
import CodeKeyboard.Proofs.KeyboardRoundTrip
import CodeKeyboard.Proofs.Outcome
import Mathlib.Data.List.Induction

/-!
# Saved keyboards act as a map (specification §E6)

All keyboards and the history share one store, each under a key of its own, and the store may refuse
any write. To someone who only saves, forgets and loads keyboards this is a map from the keys of
languages to keyboards: what was saved last and not forgotten since is what is loaded, a write that
is refused is told and changes nothing, and neither another language nor the history is touched.

- `Turn.savedBy`: the map, read off the list of turns alone.
- `Session.get?_turn_of_ne_target`: the frame; a turn changes no row but its own.
- `Session.Keeps.turn`: one turn keeps the rows in step with the map, and `Session.Keeps.after`
  all of them, by induction on the turns.
- `Session.saved_keyboards_act_as_map`: so the engine answers as the map does.
-/

namespace CodeKeyboard

/-! ## Turns and what they leave saved -/

/-- What an engine is asked that has to do with the rows it keeps. -/
inductive Act where
  | save (language : Language) (keyboard : Keyboard)
  | reset (language : Language)
  | load (language : Language)
  /-- Whether a keyboard is saved for a language. -/
  | ask (language : Language)
  | record (kind : PlaceholderKind) (value : Text)
  | loadHistory

/-- The language whose keyboard an act is about; one on the history is about none. -/
def Act.language? : Act → Option Language
  | save language _ => some language
  | reset language => some language
  | load language => some language
  | ask language => some language
  | record .. => none
  | loadHistory => none

/-- One act, and the writes that its store refuses meanwhile. -/
structure Turn where
  act : Act
  refusesPut : Bool
  refusesErase : Bool

namespace Turn

/-- What a turn leaves saved under the key of a language: a keyboard, or none; nothing at all when
it leaves the key alone. -/
def effect? (turn : Turn) (key : Text) : Option (Option Keyboard) :=
  match turn.act with
  | .save language keyboard =>
    if turn.refusesPut = false ∧ language.key = key then some (some keyboard) else none
  | .reset language => if turn.refusesErase = false ∧ language.key = key then some none else none
  | _ => none

/-- What is saved under the key of a language after some turns: what the last turn with an effect on
the key left there. -/
def savedBy (turns : List Turn) (key : Text) : Option Keyboard :=
  (turns.reverse.findSome? (·.effect? key)).join

/-- A turn that is not about a language has no effect on its key. -/
theorem effect?_eq_none {turn : Turn} {key : Text}
    (h : ∀ language, turn.act.language? = some language → language.key ≠ key) :
    turn.effect? key = none := by
  obtain ⟨act, refusesPut, refusesErase⟩ := turn
  cases act with
  | save language keyboard => exact if_neg fun hkey => h language rfl hkey.2
  | reset language => exact if_neg fun hkey => h language rfl hkey.2
  | load | ask | record | loadHistory => rfl

theorem savedBy_concat (turns : List Turn) (turn : Turn) (key : Text) :
    savedBy (turns ++ [turn]) key = (turn.effect? key).getD (savedBy turns key) := by
  unfold savedBy
  rw [List.reverse_append, List.reverse_singleton, List.singleton_append, List.findSome?_cons]
  cases turn.effect? key <;> rfl

/-- The key of the row that a turn writes, if the store lets it. -/
def target? (keyStart historyKey : Text) (turn : Turn) : Option Text :=
  match turn.act with
  | .save language _ => some (Keyboard.keyFor keyStart language)
  | .reset language => some (Keyboard.keyFor keyStart language)
  | .record .. => some historyKey
  | _ => none

/-- What a turn about a keyboard writes is the row of a keyboard. -/
theorem exists_of_target? {keyStart historyKey key : Text} {turn : Turn}
    (hkeyboard : turn.act.language? ≠ none) (h : turn.target? keyStart historyKey = some key) :
    ∃ language, Keyboard.keyFor keyStart language = key := by
  obtain ⟨act, refusesPut, refusesErase⟩ := turn
  cases act with
  | save language keyboard => exact ⟨language, Option.some.inj h⟩
  | reset language => exact ⟨language, Option.some.inj h⟩
  | load | ask => cases h
  | record | loadHistory => exact absurd rfl hkeyboard

end Turn

/-! ## The keys of rows -/

namespace Keyboard

@[simp] theorem keyFor_inj {start : Text} {language other : Language} :
    keyFor start language = keyFor start other ↔ language.key = other.key := by
  simp [keyFor]

/-- The usual key of a history is the key of no saved keyboard. -/
theorem keyFor_ne_usualKey (language : Language) :
    keyFor usualKeyStart language ≠ History.usualKey := by
  intro h
  have hhead : some 'c' = some 't' := congrArg List.head? h
  exact absurd hhead (by decide)

variable {store : Store} {start : Text} {language : Language}

/-- What is loaded where a keyboard is saved, or none is. -/
theorem load_of_row {saved : Option Keyboard}
    (h : store.get? (keyFor start language) = .ok (saved.map encode)) :
    load store start language = .ok (saved.getD language.keyboard, []) := by
  unfold load
  rw [h]
  cases saved with
  | none => rfl
  | some keyboard =>
    dsimp only [Option.map_some, bind, Except.bind]
    rw [decode_encoded]
    rfl

/-- Where a language is not customized, there is no row. -/
theorem row_of_not_isCustomized (h : isCustomized store start language = .ok false) :
    store.get? (keyFor start language) = .ok none := by
  rw [isCustomized] at h
  cases hrow : store.get? (keyFor start language) with
  | error cause =>
    rw [hrow] at h
    cases h
  | ok row =>
    rw [hrow] at h
    cases row with
    | none => rfl
    | some text => cases h

theorem isCustomized_of_row {saved : Option Keyboard}
    (h : store.get? (keyFor start language) = .ok (saved.map encode)) :
    isCustomized store start language = .ok saved.isSome := by
  rw [isCustomized, h]
  cases saved <;> rfl

end Keyboard

namespace Session

/-! ## What a turn does -/

/-- What comes of an act. -/
def perform (session : Session) : Act → Stepped
  | .save language keyboard => session.saving language keyboard
  | .reset language => session.resetting language
  | .load language => session.loading language
  | .ask language => session.asking language
  | .record kind value => session.recording kind value
  | .loadHistory => session.loadingHistory

/-- What comes of a turn. -/
def turn (session : Session) (turn : Turn) : Stepped :=
  (session.refusing turn.refusesPut turn.refusesErase).perform turn.act

/-- The session after some turns. -/
def after (session : Session) (turns : List Turn) : Session :=
  turns.foldl (fun session turn => (session.turn turn).session) session

theorem after_concat (session : Session) (turns : List Turn) (turn : Turn) :
    session.after (turns ++ [turn]) = ((session.after turns).turn turn).session :=
  List.foldl_append

variable {session : Session}

/-- A save that the store refuses is told, and nothing else happens. -/
theorem saving_of_refuses (h : session.engine.store.refusesPut = true) (language : Language)
    (keyboard : Keyboard) :
    session.saving language keyboard =
      ⟨.error (.unsaved language.key), [.keyboardUnsaved], session⟩ := by
  rw [saving, Keyboard.save, Store.put_of_refuses h]

/-- So is forgetting a saved keyboard. -/
theorem resetting_of_refuses (h : session.engine.store.refusesErase = true) (language : Language) :
    session.resetting language = ⟨.error (.unreset language.key), [], session⟩ := by
  rw [resetting, Keyboard.reset, Store.erase_of_refuses h]
  rfl

/-- What a turn does to the engine apart from its store: nothing moves, and a turn about a keyboard
leaves the history as it is. -/
theorem places_turn (session : Session) (turn : Turn) :
    (session.turn turn).session.engine.keyStart = session.engine.keyStart ∧
      (session.turn turn).session.engine.history.key = session.engine.history.key ∧
      (turn.act.language? ≠ none →
        (session.turn turn).session.engine.history = session.engine.history) := by
  obtain ⟨act, refusesPut, refusesErase⟩ := turn
  cases act with
  | save language keyboard =>
    simp only [Session.turn, Session.perform, saving]
    split <;> exact ⟨rfl, rfl, fun _ => rfl⟩
  | reset language =>
    simp only [Session.turn, Session.perform, resetting]
    split <;> exact ⟨rfl, rfl, fun _ => rfl⟩
  | load language =>
    simp only [Session.turn, Session.perform, loading]
    split <;> exact ⟨rfl, rfl, fun _ => rfl⟩
  | ask language =>
    simp only [Session.turn, Session.perform, asking, reading]
    split <;> exact ⟨rfl, rfl, fun _ => rfl⟩
  | record kind value => exact ⟨rfl, History.key_record .., fun h => absurd rfl h⟩
  | loadHistory =>
    simp only [Session.turn, Session.perform, loadingHistory]
    split
    · next loaded warnings hload => exact ⟨rfl, History.key_of_load hload, fun h => absurd rfl h⟩
    · exact ⟨rfl, rfl, fun _ => rfl⟩

/-- **The frame**: a turn changes no row but its own. -/
theorem get?_turn_of_ne_target (session : Session) (turn : Turn) {key : Text}
    (h : turn.target? session.engine.keyStart session.engine.history.key ≠ some key) :
    (session.turn turn).session.engine.store.get? key = session.engine.store.get? key := by
  obtain ⟨act, refusesPut, refusesErase⟩ := turn
  cases act with
  | save language keyboard =>
    simp only [Session.turn, Session.perform, saving]
    split
    · next after hsaved =>
      exact (Store.get?_put hsaved key).trans (if_neg fun hkey => h (congrArg some hkey.symm))
    · rfl
  | reset language =>
    simp only [Session.turn, Session.perform, resetting]
    split
    · next after hreset =>
      exact (Store.get?_erase hreset key).trans (if_neg fun hkey => h (congrArg some hkey.symm))
    · rfl
  | load language =>
    simp only [Session.turn, Session.perform, loading]
    split <;> rfl
  | ask language =>
    simp only [Session.turn, Session.perform, asking, reading]
    split <;> rfl
  | record kind value =>
    -- recording writes under the key of the history, which is the target
    exact History.get?_record _ _ kind value fun hkey => h (congrArg some hkey.symm)
  | loadHistory =>
    simp only [Session.turn, Session.perform, loadingHistory]
    split <;> rfl

/-! ## The rows keep in step with the map -/

/-- The rows of saved keyboards are those of the map, and none of them is the history's. -/
structure Keeps (session : Session) (saved : Text → Option Keyboard) : Prop where
  /-- What is kept under the key of a language is what the map has, written out. -/
  rows : ∀ language, session.engine.store.get? (Keyboard.keyFor session.engine.keyStart language) =
    .ok ((saved language.key).map Keyboard.encode)
  /-- The history is kept elsewhere. -/
  apart : ∀ language,
    Keyboard.keyFor session.engine.keyStart language ≠ session.engine.history.key

namespace Keeps

variable {saved : Text → Option Keyboard}

theorem refusing (h : session.Keeps saved) (put erase : Bool) :
    (session.refusing put erase).Keeps saved where
  rows language := (Store.get?_refusing ..).trans (h.rows language)
  apart := h.apart

/-- What a save that is not refused leads to. -/
theorem saving (h : session.Keeps saved) (hput : session.engine.store.refusesPut = false)
    (language : Language) (keyboard : Keyboard) :
    ∃ store, session.engine.store.put (Keyboard.keyFor session.engine.keyStart language)
        keyboard.encode = .ok store ∧
      session.saving language keyboard =
        ⟨.ok .done, [], { session with engine := { session.engine with store := store } }⟩ := by
  obtain ⟨store, hstore⟩ := Store.exists_put (h.rows language) hput
    (Keyboard.keyFor session.engine.keyStart language) keyboard.encode
  refine ⟨store, hstore, ?_⟩
  rw [Session.saving, Keyboard.save, hstore]
  rfl

/-- What forgetting leads to when it is not refused. -/
theorem resetting (h : session.Keeps saved) (herase : session.engine.store.refusesErase = false)
    (language : Language) :
    ∃ store, session.engine.store.erase (Keyboard.keyFor session.engine.keyStart language) =
        .ok store ∧
      session.resetting language =
        ⟨.ok .done, [], { session with engine := { session.engine with store := store } }⟩ := by
  obtain ⟨store, hstore⟩ := Store.exists_erase (h.rows language) herase
    (Keyboard.keyFor session.engine.keyStart language)
  refine ⟨store, hstore, ?_⟩
  rw [Session.resetting, Keyboard.reset, hstore]
  rfl

/-- A turn with an effect on the key of a language leaves that in the row. -/
theorem get?_turn_of_effect (h : session.Keeps saved) {turn : Turn} {language : Language}
    {row : Option Keyboard} (heffect : turn.effect? language.key = some row) :
    (session.turn turn).session.engine.store.get?
        (Keyboard.keyFor session.engine.keyStart language) = .ok (row.map Keyboard.encode) := by
  obtain ⟨act, refusesPut, refusesErase⟩ := turn
  cases act with
  | save other keyboard =>
    obtain ⟨⟨hput, hkey⟩, hrow⟩ := Option.ite_none_right_eq_some.1 heffect
    obtain ⟨store, hstore, hsaving⟩ :=
      (h.refusing refusesPut refusesErase).saving hput other keyboard
    rw [Session.turn, Session.perform, hsaving]
    cases hrow
    exact (Store.get?_put hstore _).trans (if_pos (Keyboard.keyFor_inj.2 hkey.symm))
  | reset other =>
    obtain ⟨⟨herase, hkey⟩, hrow⟩ := Option.ite_none_right_eq_some.1 heffect
    obtain ⟨store, hstore, hresetting⟩ :=
      (h.refusing refusesPut refusesErase).resetting herase other
    rw [Session.turn, Session.perform, hresetting]
    cases hrow
    exact (Store.get?_erase hstore _).trans (if_pos (Keyboard.keyFor_inj.2 hkey.symm))
  | load | ask | record | loadHistory => cases heffect

/-- A turn without an effect on the key of a language leaves its row alone: either it is about
another row, or its write is refused. -/
theorem get?_turn_of_no_effect (h : session.Keeps saved) {turn : Turn} {language : Language}
    (heffect : turn.effect? language.key = none) :
    (session.turn turn).session.engine.store.get?
        (Keyboard.keyFor session.engine.keyStart language) =
      session.engine.store.get? (Keyboard.keyFor session.engine.keyStart language) := by
  by_cases htarget : turn.target? session.engine.keyStart session.engine.history.key ≠
    some (Keyboard.keyFor session.engine.keyStart language)
  · exact session.get?_turn_of_ne_target turn htarget
  -- the row is the one that the turn is about, so the write can only have been refused
  rw [ne_eq, Decidable.not_not] at htarget
  obtain ⟨act, refusesPut, refusesErase⟩ := turn
  cases act with
  | save other keyboard =>
    have hkey : other.key = language.key := Keyboard.keyFor_inj.1 (Option.some.inj htarget)
    cases refusesPut with
    | true => rw [Session.turn, Session.perform, saving_of_refuses rfl]; rfl
    | false => simp [Turn.effect?, hkey] at heffect
  | reset other =>
    have hkey : other.key = language.key := Keyboard.keyFor_inj.1 (Option.some.inj htarget)
    cases refusesErase with
    | true => rw [Session.turn, Session.perform, resetting_of_refuses rfl]; rfl
    | false => simp [Turn.effect?, hkey] at heffect
  | record kind value => exact absurd (Option.some.inj htarget).symm (h.apart language)
  | load | ask | loadHistory => cases htarget

/-- One turn keeps the rows in step with the map. -/
theorem turn (h : session.Keeps saved) (turn : Turn) :
    (session.turn turn).session.Keeps fun key => (turn.effect? key).getD (saved key) := by
  obtain ⟨hstart, hkey, -⟩ := session.places_turn turn
  constructor
  · intro language
    rw [hstart]
    cases heffect : turn.effect? language.key with
    | some row => exact h.get?_turn_of_effect heffect
    | none => exact (h.get?_turn_of_no_effect heffect).trans (h.rows language)
  · intro language
    rw [hstart, hkey]
    exact h.apart language

/-- And so do all turns, from a start where nothing is saved. -/
theorem after (h : session.Keeps fun _ => none) (turns : List Turn) :
    (session.after turns).Keeps (Turn.savedBy turns) := by
  -- on the turns from the end, since the last one decides
  induction turns using List.reverseRecOn with
  | nil => exact h
  | append_singleton turns last ih =>
    rw [after_concat, funext (Turn.savedBy_concat turns last)]
    exact ih.turn last

end Keeps

/-! ## The engine answers as the map does -/

/-- The engine of the session answers as a map from the keys of languages to saved keyboards. -/
structure ActsAsMap (session : Session) (saved : Text → Option Keyboard) : Prop where
  /-- What is loaded is what is saved, or else what the language comes with. -/
  load : ∀ language,
    session.engine.keyboard language = .ok ((saved language.key).getD language.keyboard, [])
  /-- A language is customized exactly when something is saved for it. -/
  customized : ∀ language,
    Keyboard.isCustomized session.engine.store session.engine.keyStart language =
      .ok (saved language.key).isSome
  /-- Saving goes well unless it is refused. -/
  save : ∀ language keyboard refusesErase,
    (session.turn ⟨.save language keyboard, false, refusesErase⟩).outcome = .ok .done
  /-- Forgetting goes well unless it is refused. -/
  reset : ∀ language refusesPut,
    (session.turn ⟨.reset language, refusesPut, false⟩).outcome = .ok .done
  /-- A save that is refused is told, and nothing but what the store refuses has changed. -/
  save_refused : ∀ language keyboard refusesErase,
    session.turn ⟨.save language keyboard, true, refusesErase⟩ =
      ⟨.error (.unsaved language.key), [.keyboardUnsaved], session.refusing true refusesErase⟩
  /-- So is forgetting. -/
  reset_refused : ∀ language refusesPut,
    session.turn ⟨.reset language, refusesPut, true⟩ =
      ⟨.error (.unreset language.key), [], session.refusing refusesPut true⟩
  /-- What is loaded for a language, and whether it is customized, does not depend on what is done
  about another language or the history. -/
  others : ∀ turn language, (∀ other, turn.act.language? = some other → other.key ≠ language.key) →
    (session.turn turn).session.engine.keyboard language = session.engine.keyboard language ∧
      Keyboard.isCustomized (session.turn turn).session.engine.store
          (session.turn turn).session.engine.keyStart language =
        Keyboard.isCustomized session.engine.store session.engine.keyStart language
  /-- No bucket of the history depends on what is done about keyboards, neither as it is nor as it
  would be loaded again. -/
  history : ∀ turn, turn.act.language? ≠ none →
    (session.turn turn).session.engine.history = session.engine.history ∧
      session.engine.history.load (session.turn turn).session.engine.store =
        session.engine.history.load session.engine.store

variable {saved : Text → Option Keyboard}

theorem Keeps.actsAsMap (h : session.Keeps saved) : session.ActsAsMap saved where
  load language := Keyboard.load_of_row (h.rows language)
  customized language := Keyboard.isCustomized_of_row (h.rows language)
  save language keyboard refusesErase := by
    obtain ⟨store, -, hsaving⟩ := (h.refusing false refusesErase).saving rfl language keyboard
    rw [Session.turn, perform, hsaving]
  reset language refusesPut := by
    obtain ⟨store, -, hresetting⟩ := (h.refusing refusesPut false).resetting rfl language
    rw [Session.turn, perform, hresetting]
  save_refused language keyboard refusesErase :=
    @saving_of_refuses (session.refusing true refusesErase) rfl language keyboard
  reset_refused language refusesPut :=
    @resetting_of_refuses (session.refusing refusesPut true) rfl language
  others turn language hother := by
    have hrow := h.get?_turn_of_no_effect (Turn.effect?_eq_none hother)
    have hstart := (session.places_turn turn).1
    rw [Engine.keyboard, Keyboard.load, Keyboard.isCustomized, hstart, hrow]
    exact ⟨rfl, rfl⟩
  history turn hkeyboard := by
    refine ⟨(session.places_turn turn).2.2 hkeyboard, ?_⟩
    rw [History.load, session.get?_turn_of_ne_target turn]
    · rfl
    · -- what a turn about a keyboard writes is the row of a keyboard, so not the history's
      intro htarget
      obtain ⟨language, hlanguage⟩ := Turn.exists_of_target? hkeyboard htarget
      exact h.apart language hlanguage

/-- All of a new session but the values of its history is given. -/
theorem eq_of_start {catalog : Catalog} {store : Store} {keyStart : Text}
    {otherHistory : Option (Text × Int)} {first : Session} {warnings : List Warning}
    (h : start catalog store keyStart otherHistory = .ok (first, warnings)) :
    ∃ history, history.key = (otherHistory.map Prod.fst).getD History.usualKey ∧
      first = ⟨⟨catalog, store, history, keyStart, true⟩, [], 0, otherHistory⟩ := by
  obtain ⟨⟨engine, warned⟩, hengine, heq⟩ := Outcome.map_eq_ok_iff.1 h
  cases heq
  obtain ⟨⟨started, more⟩, hstarted, hengine⟩ := Outcome.bind_eq_ok_iff.1 hengine
  obtain ⟨⟨history, _⟩, hload, hloaded⟩ := Outcome.map_eq_ok_iff.1 hstarted
  cases hloaded
  cases otherHistory with
  | none =>
    cases hengine
    exact ⟨history, History.key_of_load hload, rfl⟩
  | some place =>
    -- the usual history is loaded first and then replaced
    obtain ⟨⟨replaced, _⟩, hreplaced, hengine⟩ := Outcome.bind_eq_ok_iff.1 hengine
    obtain ⟨⟨other, _⟩, hother, heq⟩ := Outcome.map_eq_ok_iff.1 hreplaced
    cases heq
    cases hengine
    exact ⟨other, History.key_of_load hother, rfl⟩

/-- A new session keeps in step with the map that has nothing, if no keyboard is saved. -/
theorem keeps_of_start {catalog : Catalog} {store : Store} {first : Session}
    {warnings : List Warning}
    (hstart : start catalog store Keyboard.usualKeyStart none = .ok (first, warnings))
    (hnone : ∀ language,
      Keyboard.isCustomized store Keyboard.usualKeyStart language = .ok false) :
    first.Keeps fun _ => none := by
  obtain ⟨history, hkey, rfl⟩ := eq_of_start hstart
  constructor
  · intro language
    exact Keyboard.row_of_not_isCustomized (hnone language)
  · intro language hsame
    exact Keyboard.keyFor_ne_usualKey language (hsame.trans hkey)

/-- **Saved keyboards act as a map** from the keys of languages to keyboards. From a start where
none is saved, after any turns, whichever of their writes the store refuses: what is loaded is what
was saved last and not forgotten since, a refused write is told and changes nothing, and neither
other languages nor the history are touched. -/
theorem saved_keyboards_act_as_map {catalog : Catalog} {store : Store} {first : Session}
    {warnings : List Warning}
    (hstart : start catalog store Keyboard.usualKeyStart none = .ok (first, warnings))
    (hnone : ∀ language,
      Keyboard.isCustomized store Keyboard.usualKeyStart language = .ok false)
    (turns : List Turn) : (first.after turns).ActsAsMap (Turn.savedBy turns) :=
  ((keeps_of_start hstart hnone).after turns).actsAsMap

/-- Go keeps the keyboard that the store refused to forget, and Python the one it comes with, since
the store refused another. -/
theorem saved_keyboards_act_as_map_when_refused :
    let first : Session :=
      ⟨⟨Catalog.builtIn, Store.opened .memory [], History.fresh History.usualKey History.usualLimit,
        Keyboard.usualKeyStart, true⟩, [], 0, none⟩
    let mine : Keyboard := [⟨"mine", "Mine", [⟨"1", "go", "go func()"⟩]⟩]
    let turns : List Turn :=
      [⟨.save Language.go mine, false, false⟩, ⟨.record .variableName "total", true, false⟩,
        ⟨.reset Language.go, false, true⟩, ⟨.save Language.python mine, true, false⟩]
    (first.after turns).engine.keyboard Language.go = .ok (mine, []) ∧
      (first.after turns).engine.keyboard Language.python =
        .ok (Language.python.keyboard, []) := by
  intro first mine turns
  have hstart : start Catalog.builtIn (Store.opened .memory []) Keyboard.usualKeyStart none =
      .ok (first, []) := rfl
  have hmap := saved_keyboards_act_as_map hstart (fun language => rfl) turns
  exact ⟨hmap.load Language.go, hmap.load Language.python⟩

end Session

end CodeKeyboard
