import CodeKeyboard.Report

/-!
# Answers

An answer is JSON with a status, the page, or a status alone. A request that is at fault is told
why.
-/

namespace CodeKeyboard.Web

/-- An answer to a request. -/
inductive Answer where
  /-- A status with a JSON value. -/
  | json (status : Nat) (value : Json)
  | page (html : Text)
  /-- A status and nothing else. -/
  | bare (status : Nat)
deriving Repr

namespace Answer

/-- The status of an answer. -/
def status : Answer → Nat
  | json status _ => status
  | page _ => 200
  | bare status => status

/-- A JSON value that was asked for. -/
def ok (value : Json) : Answer := json 200 value

/-- What is answered to a request that is at fault. -/
def badRequest (message : Text) : Answer :=
  json 400 (Report.object [("error", .text message)])

/-- What is answered when there is no such resource. -/
def notFound : Answer := bare 404

/-- What is answered when the resource does not have the method. -/
def methodNotAllowed : Answer := bare 405

/-- What is answered when answering failed. -/
def failed : Answer := bare 500

/-- The answer without what it says. -/
def headOnly (answer : Answer) : Answer := bare answer.status

end Answer

end CodeKeyboard.Web
