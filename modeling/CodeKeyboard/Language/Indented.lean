import CodeKeyboard.Language.Symbols

/-!
# Languages with indented blocks

The built-in language whose blocks begin with a colon and are marked by indentation alone.
-/

namespace CodeKeyboard.Language

open Score

/-- Python, the language that unknown names stand for. -/
def python : Language where
  key := "python"
  name := "Python"
  extensions := ["py", "pyw", "pyi"]
  keyboard :=
    [⟨"basic", "Basic",
       [⟨"py_1", "=", "= "⟩,
        ⟨"py_2", "+=", "+= "⟩,
        ⟨"py_3", "var", "var"⟩,
        ⟨"py_4", ":", ":"⟩,
        ⟨"py_5", "0", "0"⟩,
        ⟨"py_6", "1", "1"⟩,
        ⟨"py_7", "10", "10"⟩,
        ⟨"py_8", "''", "''"⟩,
        ⟨"py_9", "i", "i"⟩,
        ⟨"py_10", "x", "x"⟩]⟩,
     ⟨"controlFlow", "Control",
       [⟨"py_11", "if", "if condition:\n    "⟩,
        ⟨"py_12", "else", "else:\n    "⟩,
        ⟨"py_13", "elif", "elif condition:\n    "⟩,
        ⟨"py_14", "for", "for var in range(var):\n    "⟩,
        ⟨"py_15", "while", "while condition:\n    "⟩,
        ⟨"py_16", "try", "try:\n    \nexcept Exception as var:\n    "⟩,
        ⟨"py_17", "def", "def function(var):\n    "⟩,
        ⟨"py_18", "class", "class ClassName:\n    def __init__(self, var):\n        "⟩,
        ⟨"py_19", "in", "in "⟩,
        ⟨"py_20", "return", "return "⟩]⟩,
     ⟨"functions", "Functions",
       [⟨"py_21", "print", "print("⟩,
        ⟨"py_22", "input", "input("⟩,
        ⟨"py_23", "len", "len("⟩,
        ⟨"py_24", "range", "range("⟩,
        ⟨"py_25", "enumerate", "enumerate("⟩,
        ⟨"py_26", "zip", "zip("⟩,
        ⟨"py_27", "open", "open("⟩,
        ⟨"py_28", ")", ")"⟩,
        ⟨"py_29", "import", "import "⟩,
        ⟨"py_30", "from", "from module import "⟩]⟩,
     ⟨"dataTypes", "Types",
       [⟨"py_31", "type", "type("⟩,
        ⟨"py_32", "int", "int("⟩,
        ⟨"py_33", "str", "str("⟩,
        ⟨"py_34", "float", "float("⟩,
        ⟨"py_35", "bool", "bool("⟩,
        ⟨"py_36", "None", "None"⟩,
        ⟨"py_37", "True", "True"⟩,
        ⟨"py_38", "False", "False"⟩,
        ⟨"py_39", "[]", "[]"⟩,
        ⟨"py_40", "\x7b\x7d", "\x7b\x7d"⟩]⟩,
     ⟨"collections", "Collections",
       [⟨"py_41", "defaultdict", "collections.defaultdict("⟩,
        ⟨"py_42", "Counter", "collections.Counter("⟩,
        ⟨"py_43", "OrderedDict", "collections.OrderedDict("⟩,
        ⟨"py_44", "deque", "collections.deque("⟩,
        ⟨"py_45", "heappush", "heapq.heappush("⟩,
        ⟨"py_46", "heappop", "heapq.heappop("⟩,
        ⟨"py_47", "namedtuple", "collections.namedtuple("⟩]⟩,
     symbols]
  followers :=
    [("for", ["i", "var"]),
     ("i", ["in"]),
     ("var", ["in", "=", "+", "-", "*", "/", "%", "<", ">", "<=", ">="]),
     ("if", ["condition", "var"]),
     ("elif", ["condition", "var"]),
     ("else", [":"]),
     ("while", ["condition", "var"]),
     ("condition", [":", "==", "!=", "<", ">", "<=", ">=", "and", "or", "not"]),
     ("in", ["range", "enumerate", "zip", "[]", "\x7b\x7d", "var"]),
     ("range", ["("]),
     ("enumerate", ["("]),
     ("zip", ["("]),
     ("len", ["("]),
     ("print", ["("]),
     ("input", ["("]),
     ("=", ["var", "0", "1", "[", "\x7b", "(", "input", "int", "str", "float", "bool", "\"", "'", "None", "True", "False"])]
  lexicon :=
    { keywords :=
        ["def", "class", "if", "elif", "else", "for", "while", "try", "except", "finally", "import",
         "from", "as", "return", "yield", "break", "continue", "pass", "lambda", "and", "or", "not",
         "in", "is", "True", "False", "None", "with", "async", "await"]
      builtins :=
        ["print", "input", "len", "range", "enumerate", "zip", "map", "filter", "reduce", "str",
         "int", "float", "bool", "list", "dict", "set", "tuple", "type", "isinstance"]
      operators :=
        ["=", "+=", "-=", "*=", "/=", "==", "!=", "<", ">", "<=", ">=", "and", "or", "not"]
      delimiters := ["\"", "'"]
      lineComment := "#"
      blockComment := none }
  starters :=
    [("if", hundredths 90), ("for", hundredths 80), ("while", hundredths 70),
     ("def", hundredths 60), ("class", hundredths 60), ("var", hundredths 60),
     ("try", hundredths 50), ("import", hundredths 50), ("from", hundredths 50),
     ("print", hundredths 40), ("=", hundredths 30)]
  fillValues :=
    [(.functionName, ["main", "solve", "helper"]),
     (.className, ["Solution", "Node"]),
     (.variableName, ["result", "data", "value", "item", "index", "count"]),
     (.condition, ["x > 0", "i < len(arr)", "data is not None"]),
     (.moduleName, ["os", "sys", "math", "random", "json", "collections"]),
     (.typeName, ["int", "str", "float", "bool", "list", "dict"])]

end CodeKeyboard.Language
