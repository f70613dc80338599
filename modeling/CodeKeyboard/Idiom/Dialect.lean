import CodeKeyboard.Idiom.Suggestion
import CodeKeyboard.Language.Basic

/-!
# Dialects (specification §9)

The rules that recognise half-typed constructs are written once for a family of languages. What a
language adds to them is its `Dialect`: the words that begin declarations and functions, the names
of calls it knows, the labels it uses, and the order of the rules. This file holds the form of a
dialect and the dialects of the built-in languages.
-/

namespace CodeKeyboard

/-- The rules of a cascade by name. -/
inductive RuleName where
  | loopHeader
  /-- The arguments of a call in progress. -/
  | iterableCall
  /-- The end of a statement, or the opening of a block. -/
  | terminator
  /-- A declaration or an assignment in progress. -/
  | declaration
  /-- The name of something that is called. -/
  | callOpening
  /-- The beginning of a dotted name. -/
  | memberChain
  /-- A known name at the end of the line. -/
  | callableAtEnd
  /-- A call in progress that can be closed. -/
  | openCall
deriving DecidableEq, Repr

/-- The families of languages whose constructs look alike. -/
inductive Family where
  | plain
  /-- Blocks that begin with a colon. -/
  | indented
  /-- Blocks in braces, headers in parentheses. -/
  | braced
  | go
  | rust
deriving DecidableEq, Repr

/-- What a language adds to the rules of its family. -/
structure Dialect where
  family : Family
  order : List RuleName :=
    [.loopHeader, .iterableCall, .terminator, .declaration, .callOpening]
  /-- The calls whose arguments are known. -/
  helpers : List Text := []
  /-- The names after which a parenthesis opens. -/
  callables : List Text := []
  /-- The labels that go on with the beginning of a dotted name. -/
  memberChains : Assoc Text Suggestions := []
  /-- The words that begin a declaration. -/
  typeWords : List Text := []
  /-- The words that begin a function. -/
  functionWords : List Text := []
  /-- The names that a stream is written to or read from. -/
  streams : List Text := []
  /-- The labels for the name of a declared thing, the likeliest first. -/
  nameLabels : List Text := ["var", "name"]
  /-- What ends a statement; empty when nothing does. -/
  endOfStatement : Text := ";"
  /-- What begins the header of a counting loop; empty when nothing does. -/
  loopDeclarator : Text := []
  /-- What begins the header of a loop over a collection; empty when nothing does. -/
  eachDeclarator : Text := []
  /-- What stands between the variable and the collection; empty when nothing does. -/
  membership : Text := []
  /-- What a variable begins with; empty when nothing does. -/
  sigil : Text := []
  /-- Whether a declared name may be followed by its type. -/
  typeAnnotations : Bool := false
  /-- Whether a dot after a name opens the members of a container. -/
  containerMembers : Bool := false

namespace Dialect

open Score

/-- A language without words or constructs of its own. -/
def plain : Dialect := { family := .plain }

/-- A language with braces and no words of its own. -/
def braced : Dialect := { family := .braced }

/-- The dialect of Python. -/
def python : Dialect :=
  { family := .indented
    helpers := ["range", "enumerate", "zip", "len"]
    callables :=
      ["print", "input", "len", "range", "enumerate", "zip", "open", "type", "int", "str",
       "float", "bool", "list", "dict", "set", "tuple", "sorted"]
    memberChains :=
      [("collections.",
         [("defaultdict", hundredths 80), ("Counter", hundredths 75), ("deque", hundredths 70),
          ("OrderedDict", hundredths 70), ("namedtuple", hundredths 65)]),
       ("heapq.", [("heappush", hundredths 80), ("heappop", hundredths 75)])] }

/-- The dialect of JavaScript. -/
def javaScript : Dialect :=
  { family := .braced
    typeWords := ["let", "const", "var"]
    loopDeclarator := "let"
    functionWords := ["function", "async function"]
    helpers :=
      ["console.log", "parseInt", "parseFloat", "JSON.parse", "JSON.stringify", "alert", "prompt"]
    callables :=
      ["console.log", "alert", "prompt", "parseInt", "parseFloat", "JSON.parse", "JSON.stringify"]
    memberChains :=
      [("console.", [("console.log", hundredths 80)]),
       ("JSON.", [("JSON.parse", hundredths 80), ("JSON.stringify", hundredths 75)])] }

/-- The dialect of TypeScript. -/
def typeScript : Dialect :=
  { javaScript with typeAnnotations := true }

/-- The calls that Java knows. -/
def javaCalls : List Text :=
  ["System.out.println", "System.out.print", "Integer.parseInt", "Double.parseDouble",
   "String.valueOf", "Arrays.toString"]

/-- The dialect of Java. -/
def java : Dialect :=
  { family := .braced
    typeWords :=
      ["int", "double", "float", "long", "char", "boolean", "String", "var", "void"]
    loopDeclarator := "int"
    functionWords := ["void"]
    helpers := javaCalls
    callables := javaCalls
    memberChains :=
      [("System.out.",
         [("System.out.println", hundredths 90), ("System.out.print", hundredths 80)]),
       ("Integer.", [("Integer.parseInt", hundredths 80)])] }

/-- The dialect of C++. -/
def cpp : Dialect :=
  { family := .braced
    typeWords :=
      ["int", "double", "float", "char", "bool", "auto", "long", "short", "void", "string",
       "std::string", "size_t", "vector", "std::vector", "map", "std::map"]
    nameLabels := ["var"]
    loopDeclarator := "int"
    streams := ["cout", "cin", "cerr"]
    helpers := ["push_back", "size", "begin", "end"]
    containerMembers := true }

/-- The dialect of C. -/
def c : Dialect :=
  { family := .braced
    typeWords :=
      ["int", "double", "float", "char", "long", "short", "void", "unsigned", "size_t", "struct"]
    loopDeclarator := "int"
    helpers := ["printf", "scanf", "malloc", "free", "strlen"]
    callables := ["printf", "scanf", "malloc", "free"] }

/-- The calls that C# knows. -/
def cSharpCalls : List Text := ["Console.WriteLine", "Console.Write"]

/-- The dialect of C#. -/
def cSharp : Dialect :=
  { family := .braced
    typeWords := ["int", "double", "float", "bool", "string", "var", "char", "long", "void"]
    nameLabels := ["name"]
    loopDeclarator := "int"
    eachDeclarator := "var"
    membership := "in"
    helpers := cSharpCalls
    callables := cSharpCalls
    memberChains := [("Console.", [("Console.WriteLine", hundredths 90)])] }

/-- The calls that PHP knows. -/
def phpCalls : List Text := ["isset", "empty", "count", "strlen"]

/-- The dialect of PHP. -/
def php : Dialect :=
  { family := .braced
    nameLabels := ["name"]
    loopDeclarator := "$"
    eachDeclarator := "$"
    membership := "as"
    sigil := "$"
    functionWords := ["function"]
    helpers := phpCalls
    callables := phpCalls }

/-- The calls that Go knows. -/
def goCalls : List Text := ["make", "append", "len", "fmt.Println", "fmt.Printf"]

/-- The dialect of Go. -/
def go : Dialect :=
  { family := .go
    helpers := goCalls
    callables := goCalls
    memberChains :=
      [("fmt.", [("fmt.Println", hundredths 90), ("fmt.Printf", hundredths 80)])] }

/-- The dialect of Rust. -/
def rust : Dialect :=
  { family := .rust
    helpers := ["println!", "vec!", "format!", "Some", "Ok"] }

end Dialect

end CodeKeyboard
