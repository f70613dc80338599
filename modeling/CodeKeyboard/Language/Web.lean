import CodeKeyboard.Language.Symbols

/-!
# Languages of the web

JavaScript and TypeScript, which have most of their keyboard in common, and PHP, whose variables
carry a sigil.
-/

namespace CodeKeyboard.Language

open Score

/-! ## What the two script languages share -/

/-- The buttons of control flow. -/
def scriptControl : List Button :=
  [⟨"js_11", "if", "if (condition) \x7b\n    \n\x7d"⟩,
   ⟨"js_12", "else", "else \x7b\n    \n\x7d"⟩,
   ⟨"js_13", "for", "for (let var = 0; var < var; var++) \x7b\n    \n\x7d"⟩,
   ⟨"js_14", "while", "while (condition) \x7b\n    \n\x7d"⟩,
   ⟨"js_15", "switch", "switch (var) \x7b\n    case var:\n        break;\n    default:\n        break;\n\x7d"⟩,
   ⟨"js_16", "try", "try \x7b\n    \n\x7d catch (var) \x7b\n    \n\x7d"⟩,
   ⟨"js_17", "function", "function function(var) \x7b\n    \n\x7d"⟩,
   ⟨"js_18", "=>", "=> "⟩,
   ⟨"js_19", "return", "return "⟩,
   ⟨"js_20", "break", "break;"⟩]

/-- The buttons of functions. -/
def scriptFunctions : List Button :=
  [⟨"js_21", "console.log", "console.log("⟩,
   ⟨"js_22", "alert", "alert("⟩,
   ⟨"js_23", "prompt", "prompt("⟩,
   ⟨"js_24", "parseInt", "parseInt("⟩,
   ⟨"js_25", "parseFloat", "parseFloat("⟩,
   ⟨"js_26", "JSON.parse", "JSON.parse("⟩,
   ⟨"js_27", "JSON.stringify", "JSON.stringify("⟩,
   ⟨"js_28", ")", ")"⟩,
   ⟨"js_29", "import", "import \x7b \x7d from \"\";"⟩,
   ⟨"js_30", "export", "export "⟩]

/-- The buttons of declarations and values. -/
def scriptTypes : List Button :=
  [⟨"js_31", "let", "let "⟩,
   ⟨"js_32", "const", "const "⟩,
   ⟨"js_33", "var", "var "⟩,
   ⟨"js_34", "null", "null"⟩,
   ⟨"js_35", "undefined", "undefined"⟩,
   ⟨"js_36", "[]", "[]"⟩,
   ⟨"js_37", "\x7b\x7d", "\x7b\x7d"⟩,
   ⟨"js_38", "new", "new "⟩,
   ⟨"js_39", "Array", "Array("⟩,
   ⟨"js_40", "Object", "Object("⟩]

/-- The labels that follow a word. -/
def scriptFollowers : List (Text × List Text) :=
  [("if", ["(", "condition"]),
   ("else", ["\x7b", "if"]),
   ("for", ["("]),
   ("while", ["(", "condition"]),
   ("switch", ["(", "var"]),
   ("let", ["var"]),
   ("const", ["var"]),
   ("var", ["var"]),
   ("function", ["name"]),
   ("console.log", ["("]),
   ("alert", ["("]),
   ("parseInt", ["("]),
   ("=", ["var", "0", "1", "[", "\x7b", "null", "undefined", "true", "false", "\"", "'"]),
   ("=>", ["\x7b"])]

/-- The reserved words. -/
def scriptKeywords : List Text :=
  (["function", "let", "const", "var", "if", "else", "for", "while", "do", "switch", "case",
    "default", "try", "catch", "finally", "throw", "return", "break"] : List Text) ++
  (["continue", "true", "false", "null", "undefined", "class", "extends", "import", "export",
    "from", "as", "async", "await", "yield", "new", "this", "super"] : List Text)

/-- The names that come with the language. -/
def scriptBuiltins : List Text :=
  ["console", "alert", "prompt", "parseInt", "parseFloat", "isNaN", "isFinite", "Array", "Object",
   "String", "Number", "Boolean", "Date", "Math", "JSON", "RegExp", "Error", "Promise", "Set",
   "Map", "WeakSet", "WeakMap"]

/-- How likely each label starts a line. -/
def scriptStarters : List (Text × Score) :=
  [("const", hundredths 95), ("let", hundredths 90), ("if", hundredths 85), ("for", hundredths 80),
   ("function", hundredths 75), ("while", hundredths 70), ("return", hundredths 60),
   ("console.log", hundredths 50)]

/-- The usual values of placeholders. -/
def scriptFills : List (PlaceholderKind × List Text) :=
  [(.functionName, ["main", "handleClick", "fetchData"]),
   (.className, ["App", "Component"]),
   (.variableName, ["result", "data", "value", "item", "index"]),
   (.condition, ["x > 0", "i < arr.length", "data !== null"]),
   (.moduleName, ["fs", "path", "react"]),
   (.typeName, ["number", "string", "boolean", "object"])]

/-! ## The languages -/

/-- JavaScript. -/
def javaScript : Language where
  key := "javascript"
  name := "JavaScript"
  extensions := ["js", "jsx", "mjs"]
  keyboard :=
    [⟨"basic", "Basic",
       [⟨"js_1", "let", "let "⟩,
        ⟨"js_2", "const", "const "⟩,
        ⟨"js_3", "var", "var "⟩,
        ⟨"js_4", "var", "var"⟩,
        ⟨"js_5", "name", "name"⟩,
        ⟨"js_6", "=", " = "⟩,
        ⟨"js_7", "0", "0"⟩,
        ⟨"js_8", "true", "true"⟩,
        ⟨"js_9", "false", "false"⟩,
        ⟨"js_10", ";", ";"⟩]⟩,
     ⟨"controlFlow", "Control",
       scriptControl⟩,
     ⟨"functions", "Functions",
       scriptFunctions⟩,
     ⟨"dataTypes", "Types",
       scriptTypes⟩,
     symbols]
  followers :=
    scriptFollowers
  lexicon :=
    { keywords :=
        scriptKeywords
      builtins :=
        scriptBuiltins
      operators :=
        ["=", "+=", "-=", "*=", "/=", "%=", "==", "===", "!=", "!==", "<", ">", "<=", ">=", "&&",
         "||", "!"]
      delimiters := ["\"", "'", "`"]
      lineComment := "//"
      blockComment := some ⟨"/*", "*/"⟩ }
  starters :=
    scriptStarters
  fillValues :=
    scriptFills

/-- TypeScript: JavaScript with types. -/
def typeScript : Language where
  key := "typescript"
  name := "TypeScript"
  extensions := ["ts", "tsx"]
  keyboard :=
    [⟨"basic", "Basic",
       [⟨"ts_1", "let", "let "⟩,
        ⟨"ts_2", "const", "const "⟩,
        ⟨"ts_3", "var", "var "⟩,
        ⟨"ts_4", "var", "var"⟩,
        ⟨"ts_5", "name", "name"⟩,
        ⟨"ts_6", ":", ": "⟩,
        ⟨"ts_9", "=", " = "⟩,
        ⟨"ts_10", "0", "0"⟩]⟩,
     ⟨"controlFlow", "Control",
       scriptControl⟩,
     ⟨"functions", "Functions",
       scriptFunctions⟩,
     ⟨"dataTypes", "Types",
       scriptTypes ++
       ([⟨"ts_41", "interface", "interface Name \x7b\n    \n\x7d"⟩,
         ⟨"ts_42", "type alias", "type Name = "⟩,
         ⟨"ts_43", "enum", "enum Name \x7b\n    \n\x7d"⟩,
         ⟨"ts_44", "type", "type"⟩,
         ⟨"ts_45", "string", "string"⟩,
         ⟨"ts_46", "number", "number"⟩,
         ⟨"ts_47", "boolean", "boolean"⟩] : List Button)⟩,
     symbols]
  followers :=
    scriptFollowers ++
    ([("interface", ["Name"]),
      ("type", ["Name"]),
      ("enum", ["Name"]),
      (":", ["string", "number", "boolean", "any", "void"])] : List (Text × List Text))
  lexicon :=
    { keywords :=
        scriptKeywords ++
        (["interface", "type", "enum", "public", "private", "protected", "readonly", "static",
          "abstract", "implements", "namespace", "module", "declare", "keyof", "typeof"] : List Text)
      builtins :=
        scriptBuiltins ++
        (["string", "number", "boolean", "any", "void", "never", "unknown"] : List Text)
      operators :=
        ["=", "+=", "-=", "*=", "/=", "%=", "==", "===", "!=", "!==", "<", ">", "<=", ">=", "&&",
         "||", "!"]
      delimiters := ["\"", "'", "`"]
      lineComment := "//"
      blockComment := some ⟨"/*", "*/"⟩ }
  starters :=
    scriptStarters
  fillValues :=
    scriptFills

/-- PHP. -/
def php : Language where
  key := "php"
  name := "PHP"
  extensions := ["php"]
  keyboard :=
    [⟨"basic", "Basic",
       [⟨"php_1", "$", "$"⟩,
        ⟨"php_2", "name", "name"⟩,
        ⟨"php_3", "=", " = "⟩,
        ⟨"php_4", "0", "0"⟩,
        ⟨"php_5", "true", "true"⟩,
        ⟨"php_6", "false", "false"⟩,
        ⟨"php_7", "null", "null"⟩,
        ⟨"php_8", ";", ";"⟩,
        ⟨"php_9", "\"", "\"\""⟩,
        ⟨"php_10", "'", "''"⟩]⟩,
     ⟨"controlFlow", "Control",
       [⟨"php_11", "if", "if (condition) \x7b\n    \n\x7d"⟩,
        ⟨"php_12", "else", "else \x7b\n    \n\x7d"⟩,
        ⟨"php_13", "for", "for ($var = 0; $var < $var; $var++) \x7b\n    \n\x7d"⟩,
        ⟨"php_14", "foreach", "foreach ($var as $var) \x7b\n    \n\x7d"⟩,
        ⟨"php_15", "while", "while (condition) \x7b\n    \n\x7d"⟩,
        ⟨"php_16", "try", "try \x7b\n    \n\x7d catch (Exception $var) \x7b\n    \n\x7d"⟩,
        ⟨"php_27", "as", "as "⟩]⟩,
     ⟨"functions", "Functions",
       [⟨"php_17", "function", "function function($var) \x7b\n    \n\x7d"⟩,
        ⟨"php_18", "return", "return "⟩,
        ⟨"php_19", "class", "class ClassName \x7b\n    \n\x7d"⟩,
        ⟨"php_20", "public", "public function "⟩,
        ⟨"php_28", "echo", "echo "⟩]⟩,
     ⟨"dataTypes", "Types",
       [⟨"php_21", "type", "type"⟩,
        ⟨"php_22", "[]", "[]"⟩,
        ⟨"php_24", "isset", "isset("⟩,
        ⟨"php_25", "empty", "empty("⟩,
        ⟨"php_26", "count", "count("⟩]⟩,
     symbols]
  followers :=
    [("$", ["name"]),
     ("echo", ["\""]),
     ("if", ["("]),
     ("for", ["("]),
     ("while", ["("]),
     ("foreach", ["("]),
     ("=", ["0", "true", "false", "null", "[]", "\"", "'", "$"])]
  lexicon :=
    { keywords :=
        (["if", "else", "elseif", "for", "foreach", "while", "do", "switch", "case", "default",
          "break", "continue", "function", "class", "interface", "trait", "extends", "implements",
          "public", "private", "protected", "static"] : List Text) ++
        (["final", "abstract", "const", "var", "global", "return", "yield", "try", "catch",
          "finally", "throw", "new", "clone", "instanceof", "true", "false", "null", "self",
          "parent", "this", "as"] : List Text)
      builtins :=
        ["echo", "print", "var_dump", "print_r", "isset", "empty", "count", "strlen", "array",
         "unset"]
      operators :=
        ["=", ".=", "+=", "-=", "*=", "/=", "%=", "==", "===", "!=", "!==", "<", ">", "<=", ">=",
         "&&", "||", "!", "++", "--", "->", "=>"]
      delimiters := ["\"", "'"]
      lineComment := "//"
      blockComment := some ⟨"/*", "*/"⟩ }
  starters :=
    [("$", hundredths 95), ("if", hundredths 85), ("foreach", hundredths 80),
     ("for", hundredths 75), ("function", hundredths 70), ("return", hundredths 60),
     ("echo", hundredths 50)]
  fillValues :=
    [(.functionName, ["index", "handle", "render"]),
     (.className, ["Controller", "Model"]),
     (.variableName, ["result", "data", "item", "value"]),
     (.condition, ["$x > 0", "isset($data)", "$i < count($arr)"]),
     (.moduleName, ["App\\Models", "App\\Http"]),
     (.typeName, ["int", "string", "array", "bool"])]

end CodeKeyboard.Language
