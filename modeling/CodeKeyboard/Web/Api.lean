import CodeKeyboard.Catalog.Request
import CodeKeyboard.Engine
import CodeKeyboard.Json.Display
import CodeKeyboard.Web.Answer
import CodeKeyboard.Web.Page
import CodeKeyboard.Web.Request

/-!
# The web interface (specification §E8)

What an engine answers to requests. Each `Resource` has a path and one method. All of them but one
only read: `confirm` records a value that was filled in, so `respond` gives the engine after the
request beside the answer.
-/

namespace CodeKeyboard.Web

/-! ## Resources -/

/-- What can be asked for. -/
inductive Resource where
  | home
  | health
  | languages
  | predict
  | expand
  | classify
  | highlight
  | placeholders
  | confirm
deriving DecidableEq, Repr

namespace Resource

/-- All resources. -/
def all : List Resource :=
  [home, health, languages, predict, expand, classify, highlight, placeholders, confirm]

/-- The path of a resource. -/
def path : Resource → Text
  | home => "/"
  | health => "/health"
  | languages => "/api/languages"
  | predict => "/api/predict"
  | expand => "/api/expand"
  | classify => "/api/classify"
  | highlight => "/api/highlight"
  | placeholders => "/api/templates"
  | confirm => "/api/templates/confirm"

/-- Whether the resource takes a body; the others are only read. -/
def takesBody : Resource → Bool
  | highlight => true
  | confirm => true
  | _ => false

/-- The resource at a path. -/
def ofPath? (path : Text) : Option Resource :=
  all.find? (·.path == path)

@[simp] theorem ofPath?_path (resource : Resource) : ofPath? resource.path = some resource := by
  cases resource <;> decide

end Resource

/-! ## What requests ask for -/

namespace Request

/-- The text around the cursor. -/
def text (request : Request) : Text := request.field "text"

/-- The cursor; the end of the text when none is given. -/
def cursor (request : Request) : Int := request.intField "cursor" request.text.length

/-- The context of the cursor. -/
def context (request : Request) : Context := Context.extract request.text request.cursor

/-- The language that the query asks for. -/
def language (request : Request) (catalog : Catalog) : Language :=
  catalog.resolve (request.field "lang") (request.field "file")

end Request

/-! ## Answers to reading requests -/

namespace Api

/-- The answer about what was found in the store. -/
def answerWith (result : Except StoreError (α × List Warning)) (answer : α → Answer) : Answer :=
  match result with
  | .ok (a, _) => answer a
  | .error _ => .failed

/-- Tells that the engine is there. -/
def health (engine : Engine) : Answer :=
  .ok (Report.object [("ok", .bool true), ("languages", .int engine.catalog.languages.length)])

/-- A language of the list, its file name suffixes in the order of their characters. -/
def ofLanguage (language : Language) : Json :=
  Report.object [("key", .text language.key), ("name", .text language.name),
    ("extensions", .ofTexts (language.extensions.mergeSort Text.isAtMost))]

/-- Lists the languages. -/
def languages (engine : Engine) : Answer :=
  .ok (.array (engine.catalog.languages.map ofLanguage))

/-- Predicts at the cursor. -/
def predict (engine : Engine) (request : Request) : Answer :=
  let language := request.language engine.catalog
  let context := request.context
  answerWith (engine.predictIn language context (request.intField "k" Prediction.usualLimit))
    fun ps => .ok (Report.object [("language", .text language.key),
      ("context", Report.ofContext context), ("predictions", Report.ofPredictions ps)])

/-- Tells what a button inserts at the cursor. -/
def expand (engine : Engine) (request : Request) : Answer :=
  let language := request.language engine.catalog
  let id := request.field "id"
  answerWith (engine.findButton language id) fun
    | none => .badRequest ("unknown button id: ".toList ++ id.quoted)
    | some button =>
      match Expansion.expand language button request.context with
      | .ok text => .ok (Report.object
          [("id", .text button.id), ("label", .text button.label), ("text", .text text)])
      | .error _ => .failed

/-- Classifies a line. -/
def classify (engine : Engine) (request : Request) : Answer :=
  .ok (Report.ofTokens
    (Token.classify (request.language engine.catalog).lexicon (request.field "line")))

/-- A placeholder. -/
def ofPlaceholder (p : Placeholder) : Json :=
  Report.object [("placeholder", .text p.word), ("start", .int p.start), ("end", .int p.stop),
    ("type", .text p.kind.name)]

/-- Finds the placeholders of a text, and what the one at the cursor may be filled with. -/
def placeholders (engine : Engine) (request : Request) : Answer :=
  let language := request.language engine.catalog
  let active := Placeholder.findAt? request.text request.cursor
  .ok (Report.object [
    ("matches", .array ((Placeholder.findAll request.text).map ofPlaceholder)),
    ("active", (active.map ofPlaceholder).getD .null),
    ("suggestions", .ofTexts ((active.map fun p =>
      engine.history.suggestionsFor p.kind language).getD []))])

/-! ## Answers to requests with a body -/

/-- The entries of what a body says. What stands for nothing is as good as an empty object, and of
anything else that is no object there are none to ask for. -/
def entriesOf? : Json → Option (List (Text × Json))
  | .object entries => some entries
  | value => if value.isVoid then some [] else none

/-- Classifies a text. The language is asked for in the body, or else in the query. -/
def highlight (engine : Engine) (request : Request) (payload : Json) : Answer :=
  match entriesOf? payload with
  | some entries =>
    match (entries.lookup ("code" : Text)).getD (.text []) with
    | .text code =>
      let asked := (entries.lookup ("lang" : Text)).getD .null
      let key := if asked.isVoid then .text (request.field "lang") else asked
      match engine.catalog.request key (.text (request.field "file")) with
      | .ok language => .ok (Report.object [("language", .text language.key),
          ("lines", Report.ofLines (Token.classifyLines language.lexicon code))])
      | .error _ => .failed
    | _ => .badRequest "'code' must be a string"
  | none => .failed

/-- Records a value that was filled in for a kind of placeholder. -/
def confirm (engine : Engine) (payload : Json) : Answer × Engine :=
  match entriesOf? payload with
  | some entries =>
    match (entries.lookup ("value" : Text)).getD .null with
    | .text value =>
      if value.allBlank then (.badRequest "'value' must be a non-empty string", engine)
      else
        let name := ((entries.lookup ("type" : Text)).getD (.text [])).shown
        match PlaceholderKind.parse? name with
        | none => (.badRequest (PlaceholderKind.unknownMessage name), engine)
        | some kind =>
          let (changed, engine, _) := engine.record kind value
          (.ok (Report.object [("type", .text kind.name), ("recorded", .bool changed),
            ("values", .ofTexts (engine.history.values kind))]), engine)
    | _ => (.badRequest "'value' must be a non-empty string", engine)
  | none => (.failed, engine)

/-- What a resource answers, and the engine after that. A resource that takes a body fails when it
cannot be told what the body says. -/
def answer (engine : Engine) (request : Request) (payload : Option Json) :
    Resource → Answer × Engine
  | .home => (.page Page.html, engine)
  | .health => (health engine, engine)
  | .languages => (languages engine, engine)
  | .predict => (predict engine request, engine)
  | .expand => (expand engine request, engine)
  | .classify => (classify engine request, engine)
  | .highlight => ((payload.map (highlight engine request)).getD .failed, engine)
  | .placeholders => (placeholders engine request, engine)
  | .confirm => (payload.map (confirm engine)).getD (.failed, engine)

/-- What an engine answers to a request whose body says something, and the engine after that. A
resource that takes no body may also be asked for its status alone, and every resource tells that it
may be asked. -/
def respondTo (engine : Engine) (request : Request) (payload : Option Json) : Answer × Engine :=
  match Resource.ofPath? request.path with
  | none => (.notFound, engine)
  | some resource =>
    let method := request.method.map Char.toUpper
    if method = "OPTIONS" then (.bare 200, engine)
    else if resource.takesBody then
      if method = "POST" then answer engine request payload resource
      else (.methodNotAllowed, engine)
    else if method = "GET" then answer engine request payload resource
    else if method = "HEAD" then
      let (answer, engine) := answer engine request payload resource
      (answer.headOnly, engine)
    else (.methodNotAllowed, engine)

/-- What an engine answers to a request, and the engine after that. -/
def respond (engine : Engine) (request : Request) : Answer × Engine :=
  respondTo engine request request.payload?

/-- What an engine answers to requests one after the other. -/
def respondAll (engine : Engine) : List Request → List Answer
  | [] => []
  | request :: rest =>
    let (answer, engine) := respond engine request
    answer :: respondAll engine rest

end Api

end CodeKeyboard.Web
