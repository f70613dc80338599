import CodeKeyboard.Web.Api

/-!
# Which posted bodies are answered (specification §E4)

Two resources take a body, and a body may be any JSON value with any values in its fields. Most of
what is wrong with one is found and told: the answer has the status 400 and says why. Two things are
not looked for. A body that is no object has no fields to ask for, unless it stands for nothing and
is taken for an empty object; and the key of a language that is an array or an object cannot be
looked up, unless the name of a file decides first. Then answering fails. `Request.answerable` says
which bodies are left.

- `Catalog.request_eq_ok_iff`: when a language is found for a key that may be any value.
- `Api.Outcome`: what can come of a posted body; `Api.outcome_highlight` and `Api.outcome_confirm`
  say it of the two resources, whatever JSON value the body says.
- `Api.answered_iff`: a posted body is answered with 200 or 400 just if it is answerable, and unless
  it is answered with 200 nothing changes.
-/

namespace CodeKeyboard

/-- An array or an object with something in it: what cannot be looked up. -/
def Json.isCollection : Json → Bool
  | array (_ :: _) => true
  | object (_ :: _) => true
  | _ => false

theorem Json.isCollection_of_isVoid {value : Json} (h : value.isVoid = true) :
    value.isCollection = false := by
  match value, h with
  | .null, _ | .bool _, _ | .int _, _ | .real _, _ | .text _, _ | .array [], _
  | .object [], _ => rfl

namespace Catalog

variable {catalog : Catalog} {key : Json}

/-- A key that is known is a text. -/
theorem isCollection_of_knows (h : catalog.knows key = true) : key.isCollection = false := by
  cases key with
  | text => rfl
  | null | bool | int | real | array | object => cases h

theorem byRequestedKey_eq_ok_iff (catalog : Catalog) (key : Json) :
    (∃ language, catalog.byRequestedKey key = .ok language) ↔ key.isCollection = false := by
  match key with
  | .null | .bool _ | .int _ | .real _ | .text _ | .array [] | .object [] =>
    exact iff_of_true ⟨_, rfl⟩ rfl
  | .array (_ :: _) | .object (_ :: _) => exact iff_of_false (fun ⟨_, h⟩ => nomatch h) nofun

/-- **When a language is found** for a key that may be any value: the key can be looked up, or the
name of a file comes before it. -/
theorem request_eq_ok_iff (catalog : Catalog) (key : Json) (fileName : Text) :
    (∃ language, catalog.request key (.text fileName) = .ok language) ↔
      key.isCollection = false ∨ fileName ≠ [] := by
  by_cases hfile : fileName = []
  · subst hfile
    have hkey : catalog.request key (.text []) = catalog.byRequestedKey key := rfl
    rw [hkey, byRequestedKey_eq_ok_iff]
    simp
  · refine iff_of_true ?_ (.inr hfile)
    have hvoid : (Json.text fileName).isVoid = false := by simpa [Json.isVoid] using hfile
    rw [request, hvoid, Bool.not_false, Bool.true_and]
    by_cases hknown : catalog.knows key = true
    · rw [hknown]
      exact (byRequestedKey_eq_ok_iff catalog key).2 (isCollection_of_knows hknown)
    · rw [if_pos (by simpa using hknown), byRequestedFile, hvoid]
      exact ⟨_, rfl⟩

end Catalog

namespace Web

/-- Whether what a body says can be answered: it is an object or stands for nothing, and if its text
is to be classified, the language it asks for can be looked up, or the query names a file. -/
def Request.answerable (request : Request) (payload : Option Json) (resource : Resource) : Bool :=
  match payload, resource with
  | some (.object entries), .highlight =>
    ((entries.lookup ("code" : Text)).getD (.text [])).text?.isNone ||
      !((entries.lookup ("lang" : Text)).getD .null).isCollection ||
      !(request.field "file").isEmpty
  | some (.object _), _ => true
  | some value, _ => value.isVoid
  | none, _ => false

namespace Api

variable {engine : Engine} {request : Request} {resource : Resource}

/-- What can come of a posted body. -/
inductive Outcome (engine : Engine) : Bool → Answer × Engine → Prop
  /-- Answering fails. -/
  | failed : Outcome engine false (.failed, engine)
  /-- The request is at fault and is told why. -/
  | refused (message : Text) : Outcome engine true (.badRequest message, engine)
  /-- It is answered, and something may have been recorded. -/
  | done (value : Json) (after : Engine) : Outcome engine true (.ok value, after)

/-- An answer in JSON that says that all is well, or that the request is at fault. -/
def Told (answer : Answer) : Prop :=
  ∃ status value, answer = .json status value ∧ (status = 200 ∨ status = 400)

namespace Outcome

variable {answerable : Bool} {result : Answer × Engine}

theorem told_iff (h : Outcome engine answerable result) :
    Told result.1 ↔ answerable = true := by
  cases h with
  | failed => exact iff_of_false (fun ⟨_, _, hfailed, _⟩ => nomatch hfailed) Bool.false_ne_true
  | refused message => exact iff_of_true ⟨400, _, rfl, .inr rfl⟩ rfl
  | done value after => exact iff_of_true ⟨200, value, rfl, .inl rfl⟩ rfl

theorem eq_failed (h : Outcome engine answerable result) (hanswerable : answerable = false) :
    result = (.failed, engine) := by
  cases h with
  | failed => rfl
  | refused | done => cases hanswerable

/-- Only what is answered with 200 may change anything. -/
theorem eq_of_status (h : Outcome engine answerable result) (hstatus : result.1.status = 400) :
    result.2 = engine := by
  cases h with
  | failed | refused => rfl
  | done => cases hstatus

end Outcome

/-- What a body says is answerable if it has entries, and then as the object of these is. -/
theorem answerable_eq (request : Request) (resource : Resource) (payload : Json) :
    request.answerable (some payload) resource =
      match entriesOf? payload with
      | some entries => request.answerable (some (.object entries)) resource
      | none => false := by
  cases payload with
  | object entries => rfl
  | null | bool | int | real | text | array =>
    dsimp only [entriesOf?]
    split
    · next hentries =>
      obtain ⟨hvoid, hnil⟩ := Option.ite_none_right_eq_some.1 hentries
      cases hnil
      exact hvoid.trans (by cases resource <;> rfl)
    · next hnone =>
      rw [ite_eq_right_iff] at hnone
      exact Bool.eq_false_iff.2 fun hvoid => nomatch hnone hvoid

theorem outcome_highlight (engine : Engine) (request : Request) (payload : Json) :
    Outcome engine (request.answerable (some payload) .highlight)
      (highlight engine request payload, engine) := by
  rw [highlight, answerable_eq]
  cases entriesOf? payload with
  | none => exact .failed
  | some entries =>
    dsimp only [Request.answerable]
    cases (entries.lookup ("code" : Text)).getD (.text []) with
    | null | bool | int | real | array | object => exact .refused _
    | text code =>
      dsimp only
      generalize (entries.lookup ("lang" : Text)).getD .null = asked
      -- the key that is looked up is a collection just if the one in the body is
      have hkey : (if asked.isVoid then .text (request.field "lang") else asked).isCollection =
          asked.isCollection := by
        split
        · next hvoid => exact (Json.isCollection_of_isVoid hvoid).symm
        · rfl
      generalize (if asked.isVoid then .text (request.field "lang") else asked) = key at hkey ⊢
      have hfound : (∃ language, engine.catalog.request key (.text (request.field "file")) =
          .ok language) ↔ ((Json.text code).text?.isNone || !asked.isCollection ||
            !(request.field "file").isEmpty) = true := by
        rw [Catalog.request_eq_ok_iff, hkey]
        simp [Json.text?]
      cases hrequest : engine.catalog.request key (.text (request.field "file")) with
      | ok language =>
        rw [hfound.1 ⟨language, hrequest⟩]
        exact .done _ engine
      | error cause =>
        have hnone : ¬ ∃ language,
            engine.catalog.request key (.text (request.field "file")) = .ok language := by
          rintro ⟨language, hlanguage⟩
          cases hrequest.symm.trans hlanguage
        rw [Bool.eq_false_iff.2 (mt hfound.2 hnone)]
        exact .failed

theorem outcome_confirm (engine : Engine) (request : Request) (payload : Json) :
    Outcome engine (request.answerable (some payload) .confirm) (confirm engine payload) := by
  rw [confirm, answerable_eq]
  cases entriesOf? payload with
  | none => exact .failed
  | some entries =>
    dsimp only [Request.answerable]
    cases (entries.lookup ("value" : Text)).getD .null with
    | null | bool | int | real | array | object => exact .refused _
    | text value =>
      dsimp only
      split
      · exact .refused _
      · split
        · exact .refused _
        · exact .done _ _

/-- **What comes of a posted body.** -/
theorem outcome_respondTo (engine : Engine) (payload : Option Json)
    (hbody : resource.takesBody = true) (hpath : request.path = resource.path)
    (hpost : request.method.map Char.toUpper = "POST") :
    Outcome engine (request.answerable payload resource) (respondTo engine request payload) := by
  have hanswer : respondTo engine request payload = answer engine request payload resource := by
    have hread : ("POST" : Text) ≠ "OPTIONS" := by decide
    rw [respondTo, hpath, Resource.ofPath?_path]
    dsimp only
    rw [hpost, if_neg hread, hbody, if_pos rfl, if_pos rfl]
  rw [hanswer]
  cases payload with
  | none =>
    cases resource with
    | highlight | confirm => exact .failed
    | home | health | languages | predict | expand | classify | placeholders => cases hbody
  | some payload =>
    cases resource with
    | highlight => exact outcome_highlight engine request payload
    | confirm => exact outcome_confirm engine request payload
    | home | health | languages | predict | expand | classify | placeholders => cases hbody

/-- **Which posted bodies are answered.** Whatever the body says and the query asks for, a resource
that takes a body answers in JSON with the status 200 or 400 just if it is answerable; if it is not,
answering fails and nothing changes, and nothing changes either where the status is 400. So is a
request answered, by what its body says. -/
theorem answered_iff (engine : Engine) (hbody : resource.takesBody = true)
    (hpath : request.path = resource.path) (hpost : request.method.map Char.toUpper = "POST") :
    (∀ payload,
      (Told (respondTo engine request payload).1 ↔ request.answerable payload resource = true) ∧
      (request.answerable payload resource = false →
        respondTo engine request payload = (.failed, engine)) ∧
      ((respondTo engine request payload).1.status = 400 →
        (respondTo engine request payload).2 = engine)) ∧
    respond engine request = respondTo engine request request.payload? := by
  refine ⟨fun payload => ?_, rfl⟩
  have houtcome := outcome_respondTo engine payload hbody hpath hpost
  exact ⟨houtcome.told_iff, houtcome.eq_failed, houtcome.eq_of_status⟩

/-- An array in the place of a key does no harm where the query names a file. -/
theorem answered_iff_named_file :
    let engine : Engine :=
      ⟨.builtIn, .opened .memory [], .fresh History.usualKey History.usualLimit,
        Keyboard.usualKeyStart, true⟩
    let request : Request :=
      ⟨"post", "/api/highlight", [("file", "main.go")], "application/json",
        "\x7b\"code\": \"x\", \"lang\": [\"go\"]\x7d"⟩
    request.answerable request.payload? .highlight = true ∧ Told (respond engine request).1 := by
  intro engine request
  have hanswerable : request.answerable request.payload? .highlight = true := by decide +kernel
  have hpost : request.method.map Char.toUpper = "POST" := by decide
  have hbody : Resource.highlight.takesBody = true := rfl
  obtain ⟨hanswered, hrespond⟩ := answered_iff engine hbody rfl hpost
  rw [hrespond]
  exact ⟨hanswerable, (hanswered request.payload?).1.2 hanswerable⟩

/-- An array as a body, and without a file an array as a key, are not answered. -/
theorem array_bodies_fail :
    let engine : Engine :=
      ⟨.builtIn, .opened .memory [], .fresh History.usualKey History.usualLimit,
        Keyboard.usualKeyStart, true⟩
    let post (path body : Text) : Request := ⟨"POST", path, [], "application/json", body⟩
    respond engine (post "/api/highlight" "[1]") = (.failed, engine) ∧
      respond engine (post "/api/templates/confirm" "[1]") = (.failed, engine) ∧
      respond engine (post "/api/highlight" "\x7b\"code\": \"x\", \"lang\": [\"go\"]\x7d") =
        (.failed, engine) := by
  intro engine post
  have hpost : ("POST" : Text).map Char.toUpper = "POST" := by decide
  refine ⟨?_, ?_, ?_⟩
  · exact (@outcome_respondTo _ .highlight engine _ rfl rfl hpost).eq_failed (by decide +kernel)
  · exact (@outcome_respondTo _ .confirm engine _ rfl rfl hpost).eq_failed (by decide +kernel)
  · exact (@outcome_respondTo _ .highlight engine _ rfl rfl hpost).eq_failed (by decide +kernel)

end Api

end Web

end CodeKeyboard
