import CodeKeyboard.Json.Reader
import CodeKeyboard.Text.Blank
import CodeKeyboard.Text.Integer
import CodeKeyboard.Text.LowerCase
import CodeKeyboard.Text.Percent

/-!
# Requests

A request names a path and a method, carries the fields of its query, and may have a body. Of fields
with one name the first counts. A body is read as JSON when its content type says that it is JSON,
and one that is not JSON is as good as null. Only of a body that is nested too deeply it cannot be
told what it says.
-/

namespace CodeKeyboard.Web

/-- A request. -/
structure Request where
  method : Text
  path : Text
  /-- The fields of the query in order. -/
  fields : List (Text × Text)
  /-- What the body is said to be. -/
  contentType : Text
  body : Text
deriving Repr

namespace Request

/-- The fields of a query: they are separated by ampersands, an equals sign ends the name, and a
name alone has the empty value. -/
def fieldsOf (query : Text) : List (Text × Text) :=
  ((query.splitOn '&').filter (!·.isEmpty)).map fun part =>
    (Text.unescaped (part.takeWhile (· != '=')),
      Text.unescaped ((part.dropWhile (· != '=')).drop 1))

/-- The value of a field; empty when there is none. -/
def field (request : Request) (name : Text) : Text :=
  (request.fields.lookup name).getD []

/-- The whole number in a field, or the usual one when there is none. -/
def intField (request : Request) (name : Text) (usual : Int) : Int :=
  ((request.fields.lookup name).bind Text.toInt?).getD usual

/-- The content type without its parameters, in lower case. -/
def mediaType (request : Request) : Text :=
  Text.lower (Text.trim (request.contentType.takeWhile (· != ';')))

/-- Whether the body is said to be JSON, or some format built on it. -/
def saysJson (request : Request) : Bool :=
  let kind := request.mediaType
  kind = "application/json" ||
    ("application/".toList.isPrefixOf kind && "+json".toList.isSuffixOf kind)

/-- The text without the mark that may stand before it. -/
def withoutMark (s : Text) : Text :=
  if s.head? = some '\uFEFF' then s.tail else s

/-- What the body says, if that can be told. -/
def payload? (request : Request) : Option Json :=
  if request.saysJson then
    match Json.read (withoutMark request.body) with
    | .ok value => some value
    | .error .tooDeep => none
    | .error _ => some .null
  else some .null

end Request

end CodeKeyboard.Web
