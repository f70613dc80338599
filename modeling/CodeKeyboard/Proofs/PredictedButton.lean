import CodeKeyboard.Web.Api
import CodeKeyboard.Proofs.ButtonIds
import CodeKeyboard.Proofs.CandidatePool
import CodeKeyboard.Proofs.KeyboardRow

/-!
# A predicted button is the button that is inserted

Ranking works on a pool that has one button for each label, while what is inserted is looked up by
its id among the buttons of all tabs. The two agree because the ids of a keyboard are distinct. They
are so on the built-in keyboards, and no edit, no save and no reset makes two of them equal, if a
new button gets an id that no other button of the draft has.

- `Edit`: what is done to keyboards, whatever ids are given to new buttons;
  `Session.session_step_of_editOf?`: the steps of a session that touch keyboards are edits.
- `Session.Distinct.edit`: one edit keeps the ids of the draft and of all keyboards in use distinct,
  and `Session.Reachable.distinct` all edits, by induction on how the session was reached.
- `Engine.predict_of_nodup_ids`: with distinct ids a predicted button is found by its id.
- `Session.predicted_button_is_inserted`: so asking for what its id inserts is answered with what
  the button itself inserts.
-/

namespace CodeKeyboard

/-! ## Edits -/

/-- What is done to the keyboards of a session. -/
inductive Edit where
  | load (language : Language)
  | addButton (tab : Int) (id label text : Text)
  | editButton (tab button : Int) (label text : Text)
  | deleteButton (tab button : Int)
  | addTab (key label : Text)
  | deleteTab (tab : Int)
  | save (language : Language)
  | reset (language : Language)
  /-- The store refuses some of the writes from now on. -/
  | refuse (put erase : Bool)

namespace Session

variable {session first : Session}

/-- What comes of an edit. -/
def edit (session : Session) : Edit → Stepped
  | .load language => session.loading language
  | .addButton tab id label text =>
    session.editing (session.draft.addButton tab id label text) tab 1
  | .editButton tab button label text =>
    session.editing (session.draft.editButton tab button label text) tab 0
  | .deleteButton tab button => session.editing (session.draft.deleteButton tab button) tab 0
  | .addTab key label => session.editing (session.draft.addTab key label) (-1) 1
  | .deleteTab tab => session.editing (session.draft.deleteTab tab) (-1) 0
  | .save language => session.saving language session.draft
  | .reset language => session.resetting language
  | .refuse put erase => (session.refusing put erase).ok .done

/-- The edit that a step of a session is, if it is one. -/
def editOf? (session : Session) : Step → Option Edit
  | .loadDraft choice => some (.load (session.language choice))
  | .addButton tab label text => some (.addButton tab session.nextId label text)
  | .editButton tab button label text => some (.editButton tab button label text)
  | .deleteButton tab button => some (.deleteButton tab button)
  | .addTab label => some (.addTab session.nextId label)
  | .deleteTab tab => some (.deleteTab tab)
  | .saveDraft choice => some (.save (session.language choice))
  | .resetKeyboard choice => some (.reset (session.language choice))
  | _ => none

/-- A step that is an edit leads where the edit leads. -/
theorem session_step_of_editOf? {step : Step} {edit : Edit} (h : session.editOf? step = some edit) :
    (session.step step).session = (session.edit edit).session := by
  cases step with
  | deleteTab tab =>
    cases h
    rw [Session.step, Session.edit, editing.eq_def]
    cases session.draft.deleteTab tab <;> rfl
  | loadDraft | addButton | editButton | deleteButton | addTab | saveDraft | resetKeyboard =>
    cases h
    rfl
  | _ => cases h

/-- The edits that are made: only keyboards of built-in languages are taken as the draft, and a new
button gets an id that no button of the draft has. -/
def Allows (session : Session) : Edit → Prop
  | .load language => language ∈ Language.builtIn
  | .addButton _ id _ _ => id ∉ Keyboard.ids session.draft
  | _ => True

/-- The sessions that edits lead to. -/
inductive Reachable (first : Session) : Session → Prop where
  | first : Reachable first first
  | edit {session : Session} {edit : Edit} (h : Reachable first session)
    (hallowed : session.Allows edit) : Reachable first (session.edit edit).session

/-- An edit leaves the languages alone. -/
theorem catalog_edit (session : Session) (edit : Edit) :
    (session.edit edit).session.engine.catalog = session.engine.catalog := by
  have hediting : ∀ result tab made,
      (session.editing result tab made).session.engine.catalog = session.engine.catalog := by
    intro result tab made
    unfold editing
    split <;> rfl
  cases edit with
  | load language =>
    rw [Session.edit, loading]
    split <;> rfl
  | save language =>
    rw [Session.edit, saving]
    split <;> rfl
  | reset language =>
    rw [Session.edit, resetting]
    split <;> rfl
  | refuse put erase => rfl
  | addButton | editButton | deleteButton | addTab | deleteTab => exact hediting ..

theorem Reachable.catalog_eq (h : Reachable first session) :
    session.engine.catalog = first.engine.catalog := by
  induction h with
  | first => rfl
  | edit _ _ ih => rw [catalog_edit, ih]

/-! ## Distinct ids -/

/-- The ids of the draft are distinct, and so are those of each keyboard that is in use for a
built-in language. -/
structure Distinct (session : Session) : Prop where
  /-- The ids of the draft. -/
  draft : (Keyboard.ids session.draft).Nodup
  /-- The ids of the keyboards in use. -/
  inUse : ∀ language ∈ Language.builtIn, ∃ keyboard,
    session.engine.keyboard language = .ok (keyboard, []) ∧ keyboard.ids.Nodup

namespace Distinct

/-- Editing the draft keeps distinct what the edit keeps distinct. -/
theorem editing (h : session.Distinct) {result : Except EditError Keyboard}
    (hresult : ∀ keyboard, result = .ok keyboard → keyboard.ids.Nodup) (tab : Int) (made : Nat) :
    (session.editing result tab made).session.Distinct := by
  unfold Session.editing
  split
  · next keyboard => exact ⟨hresult keyboard rfl, h.inUse⟩
  · exact h

/-- A write to the row of a language keeps all ids distinct, if it leaves such a keyboard there. -/
theorem writing (h : session.Distinct) (language : Language) (saved : Option Keyboard)
    {store : Store}
    (hstore : ∀ key, store.get? key =
      if key = Keyboard.keyFor session.engine.keyStart language then .ok (saved.map Keyboard.encode)
      else session.engine.store.get? key)
    (hsaved : ∀ keyboard, saved = some keyboard → keyboard.ids.Nodup) :
    Distinct { session with engine := { session.engine with store := store } } where
  draft := h.draft
  inUse other hother := by
    -- two languages share a row if they have one key
    by_cases hkey : Keyboard.keyFor session.engine.keyStart other =
        Keyboard.keyFor session.engine.keyStart language
    · have hrow := (hstore _).trans (if_pos hkey)
      refine ⟨saved.getD other.keyboard, Keyboard.load_of_row hrow, ?_⟩
      cases saved with
      | none => exact Keyboard.nodup_ids_builtIn other hother
      | some keyboard => exact hsaved keyboard rfl
    · obtain ⟨keyboard, hkeyboard, hids⟩ := h.inUse other hother
      exact ⟨keyboard, (Keyboard.load_congr ((hstore _).trans (if_neg hkey))).trans hkeyboard, hids⟩

theorem saving (h : session.Distinct) (language : Language) :
    (session.saving language session.draft).session.Distinct := by
  unfold Session.saving
  split
  · next store hput =>
    refine h.writing language (some session.draft) (Store.get?_put hput) ?_
    rintro keyboard ⟨⟩
    exact h.draft
  · exact h

theorem resetting (h : session.Distinct) (language : Language) :
    (session.resetting language).session.Distinct := by
  unfold Session.resetting
  split
  · next store herase =>
    refine h.writing language none (Store.get?_erase herase) ?_
    rintro keyboard ⟨⟩
  · exact h

/-- **One edit keeps all ids distinct.** -/
theorem edit (h : session.Distinct) {edit : Edit} (hallowed : session.Allows edit) :
    (session.edit edit).session.Distinct := by
  cases edit with
  | load language =>
    obtain ⟨keyboard, hkeyboard, hids⟩ := h.inUse language hallowed
    rw [Session.edit, loading, hkeyboard]
    exact ⟨hids, h.inUse⟩
  | addButton tab id label text =>
    refine h.editing (fun keyboard hadded => ?_) tab 1
    rw [(Keyboard.ids_addButton hadded).nodup_iff, List.nodup_cons]
    exact ⟨hallowed, h.draft⟩
  | editButton tab button label text =>
    refine h.editing (fun keyboard hedited => ?_) tab 0
    rw [Keyboard.ids_editButton hedited]
    exact h.draft
  | deleteButton tab button =>
    refine h.editing (fun keyboard hdeleted => ?_) tab 0
    exact h.draft.sublist (Keyboard.ids_deleteButton hdeleted)
  | addTab key label =>
    refine h.editing (fun keyboard hadded => ?_) (-1) 1
    rw [Keyboard.ids_addTab hadded]
    exact h.draft
  | deleteTab tab =>
    refine h.editing (fun keyboard hdeleted => ?_) (-1) 0
    exact h.draft.sublist (Keyboard.ids_deleteTab hdeleted)
  | save language => exact h.saving language
  | reset language => exact h.resetting language
  | refuse put erase => exact ⟨h.draft, h.inUse⟩

end Distinct

/-- And so do all edits. -/
theorem Reachable.distinct (hfirst : first.Distinct) (h : Reachable first session) :
    session.Distinct := by
  induction h with
  | first => exact hfirst
  | edit _ hallowed ih => exact ih.edit hallowed

end Session

/-! ## Predicting and looking up -/

namespace Engine

variable {engine : Engine} {language : Language} {keyboard : Keyboard} {warnings : List Warning}

theorem exists_pool_of_predict {text : Text} {cursor : Option Int} {limit : Int}
    {ps : List Prediction} (h : engine.predict language text cursor limit = .ok (ps, warnings)) :
    ∃ pool, engine.pool language = .ok (pool, warnings) ∧
      ps = Prediction.rank language (Context.extract text (cursor.getD text.length)) pool
        limit := by
  obtain ⟨⟨pool, warned⟩, hpool, hrank⟩ := Outcome.map_eq_ok_iff.1 h
  cases hrank
  exact ⟨pool, hpool, rfl⟩

theorem findButton_of_mem (hkeyboard : engine.keyboard language = .ok (keyboard, warnings))
    (hids : keyboard.ids.Nodup) {button : Button} (hbutton : button ∈ keyboard.buttons) :
    engine.findButton language button.id = .ok (some button, warnings) := by
  refine Outcome.map_eq_ok_iff.2 ⟨(keyboard, warnings), hkeyboard, ?_⟩
  exact congrArg (·, warnings) (Keyboard.find?_id hids hbutton)

/-- **A predicted button is found by its id**, where the ids of the keyboard are distinct. -/
theorem predict_of_nodup_ids (hkeyboard : engine.keyboard language = .ok (keyboard, warnings))
    (hids : keyboard.ids.Nodup) (text : Text) (cursor : Option Int) (limit : Int) :
    ∃ ps, engine.predict language text cursor limit = .ok (ps, warnings) ∧
      ∀ p ∈ ps, engine.findButton language p.button.id = .ok (some p.button, warnings) := by
  refine ⟨_, Outcome.map_eq_ok_iff.2 ⟨_, pool_of_keyboard hkeyboard, rfl⟩, fun p hp => ?_⟩
  -- what is ranked comes from the pool, and the pool from the keyboard
  have hmem : p.button ∈ keyboard.buttons :=
    (firstOfEachLabel_sublist _).subset (Prediction.button_mem_of_mem_rank hp)
  exact findButton_of_mem hkeyboard hids hmem

end Engine

namespace Web.Api

variable {engine : Engine} {request : Request} {language : Language} {button : Button}
  {warnings : List Warning}

/-- What is answered about what a button inserts in a context. -/
def expanded (language : Language) (button : Button) (context : Context) : Answer :=
  match Expansion.expand language button context with
  | .ok text => .ok (Report.object
      [("id", .text button.id), ("label", .text button.label), ("text", .text text)])
  | .error _ => .failed

/-- A request for what the button with an id inserts. -/
structure AsksFor (request : Request) (catalog : Catalog) (language : Language) (id : Text) :
    Prop where
  path_eq : request.path = Resource.expand.path
  method_eq : request.method.map Char.toUpper = "GET"
  id_eq : request.field "id" = id
  language_eq : request.language catalog = language

/-- The answer is about the button that is found. -/
theorem respond_of_asksFor {id : Text} (h : AsksFor request engine.catalog language id)
    (hfound : engine.findButton language id = .ok (some button, warnings)) :
    respond engine request = (expanded language button request.context, engine) := by
  have hexpand : expand engine request = expanded language button request.context := by
    unfold expand
    dsimp only
    rw [h.language_eq, h.id_eq, hfound]
    rfl
  have hget : ("GET" : Text) ≠ "OPTIONS" := by decide
  rw [respond, respondTo, h.path_eq, Resource.ofPath?_path]
  dsimp only
  rw [h.method_eq, if_neg hget]
  exact congrArg (·, engine) hexpand

end Web.Api

/-! ## From the start -/

namespace Session

variable {session first : Session} {catalog : Catalog} {store : Store} {keyStart : Text}
  {otherHistory : Option (Text × Int)} {warnings : List Warning}

/-- **A predicted button is the button that is inserted.** From a start where no built-in language
is customized, after any edits, whichever of their writes the store refuses: all ids of the draft
are distinct, and so are those of the keyboard of each built-in language. Predicting succeeds, each
predicted button is the one that is found by its id, and a request for what the id inserts is
answered with what that button inserts. -/
theorem predicted_button_is_inserted
    (hstart : start catalog store keyStart otherHistory = .ok (first, warnings))
    (hnone : ∀ language ∈ Language.builtIn,
      Keyboard.isCustomized store keyStart language = .ok false)
    (hreachable : Reachable first session) {language : Language}
    (hlanguage : language ∈ Language.builtIn) :
    (Keyboard.ids session.draft).Nodup ∧
      (∃ keyboard, session.engine.keyboard language = .ok (keyboard, []) ∧ keyboard.ids.Nodup) ∧
      ∀ text cursor limit, ∃ ps,
        session.engine.predict language text cursor limit = .ok (ps, []) ∧
        ∀ p ∈ ps, session.engine.findButton language p.button.id = .ok (some p.button, []) ∧
          ∀ request, Web.Api.AsksFor request catalog language p.button.id →
            Web.Api.respond session.engine request =
              (Web.Api.expanded language p.button request.context, session.engine) := by
  obtain ⟨history, -, rfl⟩ := eq_of_start hstart
  have hfirst : Distinct ⟨⟨catalog, store, history, keyStart, true⟩, [], 0, otherHistory⟩ := by
    refine ⟨List.nodup_nil, fun other hother => ⟨other.keyboard, ?_, ?_⟩⟩
    · exact @Keyboard.load_of_row _ _ _ none (Keyboard.row_of_not_isCustomized (hnone other hother))
    · exact Keyboard.nodup_ids_builtIn other hother
  have hdistinct := hreachable.distinct hfirst
  obtain ⟨keyboard, hkeyboard, hids⟩ := hdistinct.inUse language hlanguage
  refine ⟨hdistinct.draft, ⟨keyboard, hkeyboard, hids⟩, fun text cursor limit => ?_⟩
  obtain ⟨ps, hpredict, hfound⟩ := Engine.predict_of_nodup_ids hkeyboard hids text cursor limit
  refine ⟨ps, hpredict, fun p hp => ⟨hfound p hp, fun request hasks => ?_⟩⟩
  exact Web.Api.respond_of_asksFor (hreachable.catalog_eq ▸ hasks) (hfound p hp)

/-- All tabs of Go but the first one are deleted, and a button is added. It is predicted on an empty
line, and asking for what its id inserts is answered with what it inserts. -/
theorem predicted_button_is_inserted_of_added :
    let first : Session :=
      ⟨⟨Catalog.builtIn, Store.opened .memory [], History.fresh History.usualKey History.usualLimit,
        Keyboard.usualKeyStart, true⟩, [], 0, none⟩
    let mine : Button := ⟨"mine", "func", "func () function() \x7b\n\t\n\x7d"⟩
    let loaded := (first.edit (.load Language.go)).session
    let withoutLast (session : Session) := (session.edit (.deleteTab (-1))).session
    let fewer := withoutLast (withoutLast (withoutLast (withoutLast loaded)))
    let added := (fewer.edit (.addButton 0 mine.id mine.label mine.text)).session
    let session := (added.edit (.save Language.go)).session
    let request : Web.Request :=
      ⟨"get", "/api/expand", [("id", "mine"), ("lang", "go"), ("text", "")], "", ""⟩
    session.engine.findButton Language.go "mine" = .ok (some mine, []) ∧
      Web.Api.respond session.engine request =
        (Web.Api.expanded Language.go mine request.context, session.engine) := by
  intro first mine loaded withoutLast fewer added session request
  have hstart : start Catalog.builtIn (Store.opened .memory []) Keyboard.usualKeyStart none =
      .ok (first, []) := rfl
  have hgo : Language.go ∈ Language.builtIn := by simp [Language.builtIn]
  have hfresh : mine.id ∉ Keyboard.ids fewer.draft := by decide +kernel
  have hloaded : Reachable first loaded := .edit .first hgo
  have hwithout : ∀ session, Reachable first session → Reachable first (withoutLast session) :=
    fun session h => .edit h trivial
  have hfewer : Reachable first fewer :=
    hwithout _ (hwithout _ (hwithout _ (hwithout _ hloaded)))
  have hadded : Reachable first added := .edit hfewer hfresh
  have hreachable : Reachable first session := .edit hadded trivial
  obtain ⟨-, -, hpredicted⟩ :=
    predicted_button_is_inserted hstart (fun language _ => rfl) hreachable hgo
  obtain ⟨ps, hpredict, hinserted⟩ := hpredicted [] none 100
  have hmine : ∃ p ∈ ps, p.button = mine := by
    obtain ⟨pool, hpool, rfl⟩ := Engine.exists_pool_of_predict hpredict
    have hshown : (match session.engine.pool Language.go with
        | .ok (pool, _) =>
          decide ((Prediction.scored Language.go (Context.extract [] 0) pool).length ≤ 100) &&
            (Prediction.scored Language.go (Context.extract [] 0) pool).any (·.button = mine)
        | .error _ => false) = true := by
      decide +kernel
    rw [hpool, Bool.and_eq_true, List.any_eq_true] at hshown
    obtain ⟨hlength, p, hp, hbutton⟩ := hshown
    have hperm := @Prediction.rank_perm_scored _ _ _ 100 (of_decide_eq_true hlength)
    exact ⟨p, hperm.mem_iff.2 hp, of_decide_eq_true hbutton⟩
  obtain ⟨p, hp, hbutton⟩ := hmine
  obtain ⟨hfound, hanswer⟩ := hinserted p hp
  rw [hbutton] at hfound hanswer
  exact ⟨hfound, hanswer request ⟨rfl, rfl, rfl, rfl⟩⟩

end Session

end CodeKeyboard
