import CodeKeyboard.Proofs.EditedKeyboard

/-!
# Editing a draft

A draft is edited step by step. A step that succeeds leads from one shape of the draft to another,
and one that fails does nothing; so what is not taken out can be followed from place to place.

- `Keyboard.Edited.kept`: a step keeps the tabs and the buttons that it does not take out.
- `Session.step_edits`: a step of a session does what the shapes of its draft say.
- `Session.tabAfter`, `Session.buttonAfter`: where a tab or a button is found after some steps;
  `Session.found_after`: there it is found, by induction on the steps.
- `Session.draft_stays_well_formed`: what holds of a draft after any steps.
-/

namespace CodeKeyboard

open Offset

namespace Keyboard

variable {keyboard edited : Keyboard} {id label text : Text} {offset place : Int}

/-! ## What stays where -/

/-- The place of the tab that a step takes out of a keyboard, if it succeeds in taking one out. -/
def goneTab? (keyboard : Keyboard) : Step → Option Nat
  | .deleteTab tab =>
    if (keyboard.deleteTab tab).isOk then Offset.index? keyboard.length tab else none
  | _ => none

/-- The place of the button that a step takes out of the tab at a place, if it succeeds in taking
one out there. -/
def goneButton? (keyboard : Keyboard) (place : Nat) : Step → Option Nat
  | .deleteButton tab button =>
    if (keyboard.deleteButton tab button).isOk ∧ Offset.index? keyboard.length tab = some place then
      (keyboard[place]?).bind fun old => Offset.index? old.buttons.length button
    else none
  | _ => none

/-- A tab that stays: it is known by the same name and shows the same, and each of its buttons that
is not taken out is found with its id. -/
structure Kept (gone : Option Nat) (tab later : Tab) : Prop where
  key_eq : later.key = tab.key
  label_eq : later.label = tab.label
  buttons : ∀ {place now : Nat} {button : Button}, placeWithout gone place = some now →
    tab.buttons[place]? = some button →
      ∃ same, later.buttons[now]? = some same ∧ same.id = button.id

theorem Kept.refl (tab : Tab) : Kept none tab tab where
  key_eq := rfl
  label_eq := rfl
  buttons h hbutton := by
    cases h
    exact ⟨_, hbutton, rfl⟩

theorem Kept.append (tab : Tab) (button : Button) :
    Kept none tab { tab with buttons := tab.buttons ++ [button] } where
  key_eq := rfl
  label_eq := rfl
  buttons h hbutton := by
    cases h
    obtain ⟨hlt, -⟩ := List.getElem?_eq_some_iff.1 hbutton
    exact ⟨_, (List.getElem?_append_left hlt).trans hbutton, rfl⟩

theorem Kept.replace {tab : Tab} {before after : List Button} {button changed : Button}
    (hsplit : tab.buttons = before ++ button :: after) (hid : changed.id = button.id) :
    Kept none tab { tab with buttons := before ++ changed :: after } where
  key_eq := rfl
  label_eq := rfl
  buttons {place _ old} h hold := by
    cases h
    rw [hsplit] at hold
    by_cases hplace : place = before.length
    · subst hplace
      rw [getElem?_length_append] at hold ⊢
      cases hold
      exact ⟨changed, rfl, hid⟩
    · exact ⟨old, (getElem?_around hplace changed button after).trans hold, rfl⟩

theorem Kept.erase {tab : Tab} {before after : List Button} {button : Button}
    (hsplit : tab.buttons = before ++ button :: after) :
    Kept (some before.length) tab { tab with buttons := before ++ after } where
  key_eq := rfl
  label_eq := rfl
  buttons h hbutton := by
    rw [hsplit] at hbutton
    exact ⟨_, (getElem?_append_of_placeWithout before button after h).trans hbutton, rfl⟩

/-- An edit of one tab keeps the other ones. -/
theorem kept_around (gone : Nat → Option Nat) {front back : Keyboard} {tab later old : Tab}
    {place : Nat} (hother : ∀ place, place ≠ front.length → gone place = none)
    (hkept : Kept (gone front.length) tab later)
    (hold : (front ++ tab :: back)[place]? = some old) :
    ∃ new, (front ++ later :: back)[place]? = some new ∧ Kept (gone place) old new := by
  by_cases hplace : place = front.length
  · subst hplace
    rw [getElem?_length_append] at hold ⊢
    cases hold
    exact ⟨later, rfl, hkept⟩
  · rw [hother place hplace]
    exact ⟨old, (getElem?_around hplace later tab back).trans hold, .refl old⟩

theorem goneTab?_of_ok (hok : keyboard.deleteTab offset = .ok edited) {place : Nat}
    (hnames : Names keyboard.length offset place) :
    keyboard.goneTab? (.deleteTab offset) = some place := by
  rw [goneTab?, hok]
  exact (if_pos rfl).trans (index?_eq_some_iff.2 hnames)

theorem goneButton?_of_ok {tab : Tab} {button : Int} {place gone : Nat}
    (hok : keyboard.deleteButton offset button = .ok edited)
    (hnames : Names keyboard.length offset place) (htab : keyboard[place]? = some tab)
    (hbutton : Names tab.buttons.length button gone) :
    keyboard.goneButton? place (.deleteButton offset button) = some gone := by
  rw [goneButton?, hok, htab]
  exact (if_pos ⟨rfl, index?_eq_some_iff.2 hnames⟩).trans
    (index?_eq_some_iff.2 hbutton)

/-- From a tab that is not named no button is taken out. -/
theorem goneButton?_of_not_named {button : Int} {place other : Nat}
    (hnames : Names keyboard.length offset place) (hother : other ≠ place) :
    keyboard.goneButton? other (.deleteButton offset button) = none := by
  refine if_neg fun h => hother ?_
  exact Option.some.inj (h.2.symm.trans (index?_eq_some_iff.2 hnames))

/-- **A step keeps the tabs and the buttons that it does not take out.** -/
theorem Edited.kept {step : Step} {place now : Nat} {tab : Tab}
    (h : Edited id step keyboard edited)
    (hplace : placeWithout (goneTab? keyboard step) place = some now)
    (htab : keyboard[place]? = some tab) :
    ∃ later, edited[now]? = some later ∧ Kept (goneButton? keyboard place step) tab later := by
  cases h with
  | addButton =>
    cases hplace
    exact kept_around (fun _ => none) (fun _ _ => rfl) (.append ..) htab
  | editButton _ hsplit =>
    cases hplace
    exact kept_around (fun _ => none) (fun _ _ => rfl) (.replace hsplit rfl) htab
  | @deleteButton front back named _ _ _ _ _ hnames hsplit hbutton =>
    cases hplace
    have hedited : Edited id _ _ _ := .deleteButton hnames hsplit hbutton
    have hok := deleteButton_eq_ok_iff.2 hedited
    have hnamed := getElem?_length_append front named back
    refine kept_around (goneButton? _ · _)
      (fun other hother => goneButton?_of_not_named hnames hother) ?_ htab
    rw [goneButton?_of_ok hok hnames hnamed hbutton]
    exact .erase hsplit
  | addTab =>
    cases hplace
    obtain ⟨hlt, -⟩ := List.getElem?_eq_some_iff.1 htab
    exact ⟨tab, (List.getElem?_append_left hlt).trans htab, .refl tab⟩
  | @deleteTab front back gone offset hnames hothers =>
    have hedited : Edited id (.deleteTab offset) _ _ := .deleteTab hnames hothers
    rw [goneTab?_of_ok (deleteTab_eq_ok_iff.2 hedited) hnames] at hplace
    have hstays := getElem?_append_of_placeWithout front gone back hplace
    exact ⟨tab, hstays.trans htab, .refl tab⟩

/-- A step that fails takes nothing out. -/
theorem gone_of_error {step : Step} {cause : EditError}
    (h : step.edit? id keyboard = some (.error cause)) :
    keyboard.goneTab? step = none ∧ ∀ place, keyboard.goneButton? place step = none := by
  cases step with
  | deleteButton tab button =>
    have hresult := Option.some.inj h
    refine ⟨rfl, fun place => if_neg fun hok => ?_⟩
    rw [hresult] at hok
    cases hok.1
  | deleteTab tab =>
    have hresult := Option.some.inj h
    refine ⟨if_neg fun hok => ?_, fun _ => rfl⟩
    rw [hresult] at hok
    cases hok
  | _ => exact ⟨rfl, fun _ => rfl⟩

end Keyboard

/-- The steps that edit the draft. -/
def Step.EditsDraft : Step → Prop
  | .addButton .. | .editButton .. | .deleteButton .. | .addTab .. | .deleteTab .. => True
  | _ => False

theorem Step.exists_edit? {step : Step} (h : step.EditsDraft) (id : Text) (keyboard : Keyboard) :
    ∃ result, step.edit? id keyboard = some result := by
  cases step with
  | addButton | editButton | deleteButton | addTab | deleteTab => exact ⟨_, rfl⟩
  | _ => exact h.elim

namespace Session

variable {session : Session} {step : Step}

/-! ## One step -/

theorem step_of_edit?_ok {edited : Keyboard}
    (h : step.edit? session.nextId session.draft = some (.ok edited)) :
    (∃ reply, (session.step step).outcome = .ok reply) ∧
      (session.step step).session.draft = edited := by
  cases step with
  | addButton | editButton | deleteButton | addTab | deleteTab =>
    have hresult := Option.some.inj h
    rw [Session.step, hresult]
    exact ⟨⟨_, rfl⟩, rfl⟩
  | _ => cases h

theorem step_of_edit?_error {cause : EditError}
    (h : step.edit? session.nextId session.draft = some (.error cause)) :
    session.step step = session.failed (.edit cause) := by
  cases step with
  | addButton | editButton | deleteButton | addTab =>
    have hresult := Option.some.inj h
    rw [Session.step, hresult]
    rfl
  | deleteTab =>
    have hresult := Option.some.inj h
    rw [Session.step, hresult]
  | _ => cases h

/-- What a step that edits the draft comes to: it leads from one shape of the draft to another, or
it fails and nothing happens. -/
structure StepEdits (session : Session) (step : Step) : Prop where
  /-- A step that fails leaves the session as it was. -/
  failed : ∀ {failure}, (session.step step).outcome = .error failure →
    (session.step step).session = session
  /-- It succeeds exactly when there is a shape to lead to, and leads to that. -/
  succeeded : ∀ {edited},
    (∃ reply, (session.step step).outcome = .ok reply) ∧
        (session.step step).session.draft = edited ↔
      Keyboard.Edited session.nextId step session.draft edited

/-- **Each step that edits the draft does what its shapes say.** -/
theorem step_edits (h : step.EditsDraft) : session.StepEdits step := by
  obtain ⟨result, hresult⟩ := Step.exists_edit? h session.nextId session.draft
  cases result with
  | ok keyboard =>
    obtain ⟨⟨reply, hreply⟩, hdraft⟩ := step_of_edit?_ok hresult
    refine ⟨fun hfails => ?_, fun {edited} => ?_⟩
    · rw [hreply] at hfails
      cases hfails
    · rw [← Keyboard.edited_iff hresult, hdraft, Except.ok.injEq]
      exact ⟨And.right, fun heq => ⟨⟨reply, hreply⟩, heq⟩⟩
  | error cause =>
    have hstep := step_of_edit?_error hresult
    refine ⟨fun _ => congrArg Stepped.session hstep, fun {edited} => ?_⟩
    rw [← Keyboard.edited_iff hresult, hstep]
    exact iff_of_false (fun hok => nomatch hok.1) (nomatch ·)

/-- A step that edits the draft changes nothing, or it leads from one shape of it to another. -/
theorem session_or_edited_of_step (h : step.EditsDraft) :
    (session.step step).session = session ∨
      Keyboard.Edited session.nextId step session.draft (session.step step).session.draft := by
  cases houtcome : (session.step step).outcome with
  | error failure => exact .inl ((step_edits h).failed houtcome)
  | ok reply => exact .inr ((step_edits h).succeeded.1 ⟨⟨reply, houtcome⟩, rfl⟩)

/-- A step keeps the tabs and the buttons of the draft that it does not take out. -/
theorem kept_of_step (h : step.EditsDraft) {place now : Nat} {tab : Tab}
    (hplace : placeWithout (Keyboard.goneTab? session.draft step) place = some now)
    (htab : session.draft[place]? = some tab) :
    ∃ later, (session.step step).session.draft[now]? = some later ∧
      Keyboard.Kept (Keyboard.goneButton? session.draft place step) tab later := by
  obtain ⟨result, hresult⟩ := Step.exists_edit? h session.nextId session.draft
  cases result with
  | ok keyboard =>
    rw [(step_of_edit?_ok hresult).2]
    exact ((Keyboard.edited_iff hresult).1 rfl).kept hplace htab
  | error cause =>
    obtain ⟨htabs, hbuttons⟩ := Keyboard.gone_of_error hresult
    rw [htabs] at hplace
    cases hplace
    rw [step_of_edit?_error hresult, hbuttons]
    exact ⟨tab, htab, .refl tab⟩

/-! ## Many steps -/

/-- The session after some steps. -/
def afterSteps (session : Session) (steps : List Step) : Session :=
  steps.foldl (fun session step => (session.step step).session) session

theorem afterSteps_cons (session : Session) (step : Step) (steps : List Step) :
    session.afterSteps (step :: steps) = (session.step step).session.afterSteps steps :=
  rfl

/-- Where a tab of the draft is found after some steps, unless one of them takes it out. -/
def tabAfter (session : Session) : List Step → Nat → Option Nat
  | [], tab => some tab
  | step :: steps, tab =>
    (placeWithout (Keyboard.goneTab? session.draft step) tab).bind
      ((session.step step).session.tabAfter steps)

/-- Where a button of a tab of the draft is found in it after some steps, unless one of them takes
it or its tab out. -/
def buttonAfter (session : Session) : List Step → (tab button : Nat) → Option Nat
  | [], _, button => some button
  | step :: steps, tab, button =>
    (placeWithout (Keyboard.goneTab? session.draft step) tab).bind fun tabNow =>
      (placeWithout (Keyboard.goneButton? session.draft tab step) button).bind
        ((session.step step).session.buttonAfter steps tabNow)

variable {steps : List Step}

/-- Two tabs that stay are found in the order in which they stood. -/
theorem tabAfter_lt {tab other tabNow otherNow : Nat} (hlt : tab < other)
    (htab : session.tabAfter steps tab = some tabNow)
    (hother : session.tabAfter steps other = some otherNow) : tabNow < otherNow := by
  induction steps generalizing session tab other with
  | nil =>
    cases htab
    cases hother
    exact hlt
  | cons step steps ih =>
    obtain ⟨tabNext, htabNext, htab⟩ := Option.bind_eq_some_iff.1 htab
    obtain ⟨otherNext, hotherNext, hother⟩ := Option.bind_eq_some_iff.1 hother
    exact ih (placeWithout_lt hlt htabNext hotherNext) htab hother

/-- So are two buttons of a tab. -/
theorem buttonAfter_lt {tab button other buttonNow otherNow : Nat} (hlt : button < other)
    (hbutton : session.buttonAfter steps tab button = some buttonNow)
    (hother : session.buttonAfter steps tab other = some otherNow) : buttonNow < otherNow := by
  induction steps generalizing session tab button other with
  | nil =>
    cases hbutton
    cases hother
    exact hlt
  | cons step steps ih =>
    obtain ⟨tabNext, htab, hbutton⟩ := Option.bind_eq_some_iff.1 hbutton
    obtain ⟨tabNext', htab', hother⟩ := Option.bind_eq_some_iff.1 hother
    cases htab.symm.trans htab'
    obtain ⟨buttonNext, hbuttonNext, hbutton⟩ := Option.bind_eq_some_iff.1 hbutton
    obtain ⟨otherNext, hotherNext, hother⟩ := Option.bind_eq_some_iff.1 hother
    exact ih (placeWithout_lt hlt hbuttonNext hotherNext) hbutton hother

/-- **What is not taken out is found where it is said to be.** -/
theorem found_after (hsteps : ∀ step ∈ steps, step.EditsDraft) {place now : Nat} {tab : Tab}
    (hplace : session.tabAfter steps place = some now) (htab : session.draft[place]? = some tab) :
    ∃ later, (session.afterSteps steps).draft[now]? = some later ∧ later.key = tab.key ∧
      later.label = tab.label ∧ ∀ {buttonPlace buttonNow : Nat} {button : Button},
        session.buttonAfter steps place buttonPlace = some buttonNow →
        tab.buttons[buttonPlace]? = some button →
        ∃ same, later.buttons[buttonNow]? = some same ∧ same.id = button.id := by
  induction steps generalizing session place tab with
  | nil =>
    cases hplace
    refine ⟨tab, htab, rfl, rfl, fun hbutton hold => ?_⟩
    cases hbutton
    exact ⟨_, hold, rfl⟩
  | cons step steps ih =>
    obtain ⟨hstep, hsteps⟩ := List.forall_mem_cons.1 hsteps
    obtain ⟨next, hnext, hplace⟩ := Option.bind_eq_some_iff.1 hplace
    obtain ⟨between, hbetween, hkept⟩ := kept_of_step hstep hnext htab
    obtain ⟨later, hlater, hkey, hlabel, hbuttons⟩ := ih hsteps hplace hbetween
    refine ⟨later, hlater, hkey.trans hkept.key_eq, hlabel.trans hkept.label_eq,
      fun {buttonPlace buttonNow button} hbutton hold => ?_⟩
    rw [buttonAfter, hnext, Option.bind_some] at hbutton
    obtain ⟨buttonNext, hbuttonNext, hbutton⟩ := Option.bind_eq_some_iff.1 hbutton
    obtain ⟨middle, hmiddle, hid⟩ := hkept.buttons hbuttonNext hold
    obtain ⟨same, hsame, hsameId⟩ := hbuttons hbutton hmiddle
    exact ⟨same, hsame, hsameId.trans hid⟩

/-- What is not taken out of a draft by some steps is found, and in the order in which it stood. -/
structure KeepsOrder (session : Session) (steps : List Step) : Prop where
  /-- A tab that stays is found by its name, and with it the buttons that stay, by their ids. -/
  found : ∀ {place now : Nat} {tab : Tab}, session.tabAfter steps place = some now →
    session.draft[place]? = some tab →
    ∃ later, (session.afterSteps steps).draft[now]? = some later ∧ later.key = tab.key ∧
      later.label = tab.label ∧ ∀ {buttonPlace buttonNow : Nat} {button : Button},
        session.buttonAfter steps place buttonPlace = some buttonNow →
        tab.buttons[buttonPlace]? = some button →
        ∃ same, later.buttons[buttonNow]? = some same ∧ same.id = button.id
  /-- Tabs that stay keep their order. -/
  tabs_lt : ∀ {tab other tabNow otherNow : Nat}, tab < other →
    session.tabAfter steps tab = some tabNow → session.tabAfter steps other = some otherNow →
    tabNow < otherNow
  /-- So do the buttons of a tab. -/
  buttons_lt : ∀ {tab button other buttonNow otherNow : Nat}, button < other →
    session.buttonAfter steps tab button = some buttonNow →
    session.buttonAfter steps tab other = some otherNow → buttonNow < otherNow

/-- A tab remains after each step, and each button was there as it is or can be used. -/
theorem wellFormed_afterSteps (hdraft : session.draft ≠ [])
    (hsteps : ∀ step ∈ steps, step.EditsDraft) :
    (session.afterSteps steps).draft ≠ [] ∧
      ∀ button ∈ Keyboard.buttons (session.afterSteps steps).draft,
        button ∈ Keyboard.buttons session.draft ∨ button.Usable := by
  induction steps generalizing session with
  | nil => exact ⟨hdraft, fun _ hbutton => .inl hbutton⟩
  | cons step steps ih =>
    obtain ⟨hstep, hsteps⟩ := List.forall_mem_cons.1 hsteps
    rcases session_or_edited_of_step hstep with hsame | hedited
    · rw [afterSteps_cons, hsame]
      exact ih hdraft hsteps
    · obtain ⟨hne, husable⟩ := ih hedited.ne_nil hsteps
      refine ⟨hne, fun button hbutton => ?_⟩
      rcases husable button hbutton with hbetween | husable
      · exact hedited.mem_or_usable hbetween
      · exact .inr husable

/-- **A draft stays well-formed.** Start from any draft with at least one tab, and take any steps
that edit it, with any offsets and texts. A tab remains. Each button is one of the first draft, or
it can be used. What is not taken out keeps its order and its name. One more step that fails changes
nothing, and one that succeeds changes only what it names. Deleting the last button of a tab takes
back the button that was just added to it. -/
theorem draft_stays_well_formed (hdraft : session.draft ≠ [])
    (hsteps : ∀ step ∈ steps, step.EditsDraft) :
    (session.afterSteps steps).draft ≠ [] ∧
      (∀ button ∈ Keyboard.buttons (session.afterSteps steps).draft,
        button ∈ Keyboard.buttons session.draft ∨ button.Usable) ∧
      session.KeepsOrder steps ∧
      (∀ step : Step, step.EditsDraft → (session.afterSteps steps).StepEdits step) ∧
      ∀ (tab : Int) (id label text : Text) (edited : Keyboard),
        Keyboard.addButton (session.afterSteps steps).draft tab id label text = .ok edited →
        edited.deleteButton tab (-1) = .ok (session.afterSteps steps).draft := by
  obtain ⟨hne, husable⟩ := wellFormed_afterSteps hdraft hsteps
  exact ⟨hne, husable, ⟨found_after hsteps, tabAfter_lt, buttonAfter_lt⟩, fun _ => step_edits,
    fun _ _ _ _ _ => Keyboard.deleteButton_of_addButton⟩

/-- The last tab gets a button, no sixth tab can be deleted, the first one is deleted, and the new
button is changed in its new place. The button that stood before it still does. -/
theorem draft_stays_well_formed_in_four_steps :
    let old : Button := ⟨"old", " ", ""⟩
    let first : Session :=
      ⟨⟨Catalog.builtIn, Store.opened .memory [], History.fresh History.usualKey History.usualLimit,
        Keyboard.usualKeyStart, true⟩, [⟨"a", "A", []⟩, ⟨"b", "B", [old]⟩], 0, none⟩
    let steps : List Step :=
      [.addButton (-1) " x " "y", .deleteTab 5, .deleteTab 0, .editButton (-1) (-1) "z\t" "w"]
    let session := first.afterSteps steps
    first.draft ≠ [] ∧ (∀ step ∈ steps, step.EditsDraft) ∧
      session.draft = [⟨"b", "B", [old, ⟨"new1", "z", "w"⟩]⟩] ∧
      (∀ button ∈ Keyboard.buttons session.draft, button = old ∨ button.Usable) ∧
      first.tabAfter steps 0 = none ∧ first.tabAfter steps 1 = some 0 ∧
      (session.step (.deleteTab 0)).session = session := by
  intro old first steps session
  have hdraft : first.draft ≠ [] := List.cons_ne_nil _ _
  have hsteps : ∀ step ∈ steps, step.EditsDraft := by
    simp [steps, Step.EditsDraft]
  obtain ⟨-, husable, -, hstep, -⟩ := draft_stays_well_formed hdraft hsteps
  have hlast : session.draft = [⟨"b", "B", [old, ⟨"new1", "z", "w"⟩]⟩] := by decide +kernel
  refine ⟨hdraft, hsteps, hlast, fun button hbutton => ?_, by decide +kernel, by decide +kernel, ?_⟩
  · refine (husable button hbutton).imp_left fun hfirst => ?_
    have hbuttons : Keyboard.buttons first.draft = [old] := rfl
    rwa [hbuttons, List.mem_singleton] at hfirst
  · have hfails : Step.edit? session.nextId session.draft (.deleteTab 0) =
        some (.error .lastTab) := by
      rw [hlast]
      rfl
    have houtcome := congrArg Stepped.outcome (step_of_edit?_error hfails)
    exact (hstep (.deleteTab 0) trivial).failed houtcome

end Session

end CodeKeyboard
