import CodeKeyboard.Language.Symbols

/-!
# Managed languages

Java and C#: braces, semicolons, and everything inside a class.
-/

namespace CodeKeyboard.Language

open Score

/-- Java. -/
def java : Language where
  key := "java"
  name := "Java"
  extensions := ["java"]
  keyboard :=
    [⟨"basic", "Basic",
       [⟨"java_1", "public", "public "⟩,
        ⟨"java_2", "private", "private "⟩,
        ⟨"java_4", "int", "int "⟩,
        ⟨"java_5", "var", "var"⟩,
        ⟨"java_6", "name", "name"⟩,
        ⟨"java_7", "i", "i"⟩,
        ⟨"java_8", "=", " = "⟩,
        ⟨"java_9", "0", "0"⟩,
        ⟨"java_10", ";", ";"⟩]⟩,
     ⟨"controlFlow", "Control",
       [⟨"java_11", "if", "if (condition) \x7b\n    \n\x7d"⟩,
        ⟨"java_12", "else", "else \x7b\n    \n\x7d"⟩,
        ⟨"java_13", "for", "for (int var = 0; var < var; var++) \x7b\n    \n\x7d"⟩,
        ⟨"java_14", "while", "while (condition) \x7b\n    \n\x7d"⟩,
        ⟨"java_15", "switch", "switch (var) \x7b\n    case var:\n        break;\n    default:\n        break;\n\x7d"⟩,
        ⟨"java_16", "try", "try \x7b\n    \n\x7d catch (Exception var) \x7b\n    \n\x7d"⟩,
        ⟨"java_17", "method", "public type function(var) \x7b\n    \n\x7d"⟩,
        ⟨"java_18", "class", "public class ClassName \x7b\n    \n\x7d"⟩,
        ⟨"java_19", "return", "return "⟩,
        ⟨"java_20", "break", "break;"⟩]⟩,
     ⟨"functions", "Functions",
       [⟨"java_21", "System.out.println", "System.out.println("⟩,
        ⟨"java_22", "System.out.print", "System.out.print("⟩,
        ⟨"java_23", "Scanner", "Scanner("⟩,
        ⟨"java_24", "Integer.parseInt", "Integer.parseInt("⟩,
        ⟨"java_25", "Double.parseDouble", "Double.parseDouble("⟩,
        ⟨"java_26", "String.valueOf", "String.valueOf("⟩,
        ⟨"java_27", "Arrays.toString", "Arrays.toString("⟩,
        ⟨"java_28", ")", ")"⟩,
        ⟨"java_29", "import", "import "⟩,
        ⟨"java_30", "package", "package "⟩]⟩,
     ⟨"dataTypes", "Types",
       [⟨"java_3", "type", "type "⟩,
        ⟨"java_31", "String", "String "⟩,
        ⟨"java_32", "double", "double "⟩,
        ⟨"java_33", "boolean", "boolean "⟩,
        ⟨"java_34", "new", "new "⟩,
        ⟨"java_35", "null", "null"⟩,
        ⟨"java_36", "true", "true"⟩,
        ⟨"java_37", "false", "false"⟩,
        ⟨"java_39", "ArrayList", "ArrayList<>("⟩,
        ⟨"java_40", "HashMap", "HashMap<>("⟩]⟩,
     symbols]
  followers :=
    [("if", ["(", "condition"]),
     ("else", ["\x7b", "if"]),
     ("for", ["("]),
     ("while", ["(", "condition"]),
     ("int", ["var"]),
     ("String", ["var"]),
     ("double", ["var"]),
     ("boolean", ["var"]),
     ("System.out.println", ["("]),
     ("System.out.print", ["("]),
     ("Integer.parseInt", ["("]),
     ("=", ["var", "0", "1", "new", "null", "true", "false", "\""]),
     ("type", [" ", "var"])]
  lexicon :=
    { keywords :=
        (["public", "private", "protected", "static", "final", "abstract", "class", "interface",
          "extends", "implements", "if", "else", "for", "while", "do", "switch", "case", "default",
          "try", "catch", "finally"] : List Text) ++
        (["throw", "throws", "return", "break", "continue", "new", "this", "super", "null", "true",
          "false", "import", "package", "synchronized", "volatile", "transient", "native",
          "strictfp", "enum", "assert"] : List Text)
      builtins :=
        ["int", "double", "float", "long", "short", "byte", "char", "boolean", "void", "String",
         "Object", "System", "Math", "Arrays", "Collections", "List", "ArrayList", "Map", "HashMap",
         "Set", "HashSet"]
      operators :=
        ["=", "+=", "-=", "*=", "/=", "%=", "==", "!=", "<", ">", "<=", ">=", "&&", "||", "!", "++",
         "--"]
      delimiters := ["\"", "'"]
      lineComment := "//"
      blockComment := some ⟨"/*", "*/"⟩ }
  starters :=
    [("int", hundredths 95), ("String", hundredths 90), ("if", hundredths 85),
     ("for", hundredths 80), ("while", hundredths 70), ("return", hundredths 60),
     ("System.out.println", hundredths 50)]
  fillValues :=
    [(.functionName, ["main", "calculate", "process"]),
     (.className, ["Main", "Solution"]),
     (.variableName, ["result", "count", "value", "index"]),
     (.condition, ["i < n", "x > 0", "obj != null"]),
     (.moduleName, ["java.util.*", "java.io.*"]),
     (.typeName, ["int", "String", "double", "boolean", "void"])]

/-- C#. -/
def cSharp : Language where
  key := "csharp"
  name := "C#"
  extensions := ["cs"]
  keyboard :=
    [⟨"basic", "Basic",
       [⟨"cs_1", "public", "public "⟩,
        ⟨"cs_2", "private", "private "⟩,
        ⟨"cs_3", "int", "int "⟩,
        ⟨"cs_4", "string", "string "⟩,
        ⟨"cs_5", "var", "var "⟩,
        ⟨"cs_6", "name", "name"⟩,
        ⟨"cs_7", "=", " = "⟩,
        ⟨"cs_8", "0", "0"⟩,
        ⟨"cs_9", "true", "true"⟩,
        ⟨"cs_10", ";", ";"⟩]⟩,
     ⟨"controlFlow", "Control",
       [⟨"cs_11", "if", "if (condition)\n\x7b\n    \n\x7d"⟩,
        ⟨"cs_12", "else", "else\n\x7b\n    \n\x7d"⟩,
        ⟨"cs_13", "for", "for (int var = 0; var < var; var++)\n\x7b\n    \n\x7d"⟩,
        ⟨"cs_14", "foreach", "foreach (var var in var)\n\x7b\n    \n\x7d"⟩,
        ⟨"cs_15", "while", "while (condition)\n\x7b\n    \n\x7d"⟩,
        ⟨"cs_16", "try", "try\n\x7b\n    \n\x7d\ncatch (Exception var)\n\x7b\n    \n\x7d"⟩,
        ⟨"cs_25", "in", "in "⟩]⟩,
     ⟨"functions", "Functions",
       [⟨"cs_17", "Main", "static void Main(var[] var)\n\x7b\n    \n\x7d"⟩,
        ⟨"cs_18", "method", "public type function(var)\n\x7b\n    \n\x7d"⟩,
        ⟨"cs_19", "return", "return "⟩,
        ⟨"cs_20", "namespace", "namespace "⟩,
        ⟨"cs_24", "Console.WriteLine", "Console.WriteLine("⟩]⟩,
     ⟨"dataTypes", "Types",
       [⟨"cs_26", "type", "type "⟩,
        ⟨"cs_21", "List", "List<>"⟩,
        ⟨"cs_22", "Dictionary", "Dictionary<string, int>"⟩,
        ⟨"cs_23", "Array", "int[] "⟩]⟩,
     symbols]
  followers :=
    [("using", ["System", "System.Collections.Generic"]),
     ("Console.WriteLine", ["("]),
     ("for", ["("]),
     ("foreach", ["("]),
     ("if", ["("]),
     ("while", ["("]),
     ("public", ["class", "void", "int", "string"]),
     ("int", ["name"]),
     ("string", ["name"])]
  lexicon :=
    { keywords :=
        (["using", "namespace", "class", "struct", "interface", "enum", "public", "private",
          "protected", "internal", "static", "readonly", "const", "virtual", "override", "abstract",
          "sealed", "partial", "if", "else", "for"] : List Text) ++
        (["foreach", "while", "do", "switch", "case", "default", "break", "continue", "try",
          "catch", "finally", "throw", "return", "yield", "true", "false", "null", "new", "this",
          "base", "in"] : List Text)
      builtins :=
        ["Console", "string", "int", "double", "bool", "var", "object", "List", "Dictionary",
         "Array"]
      operators :=
        ["=", "+=", "-=", "*=", "/=", "%=", "==", "!=", "<", ">", "<=", ">=", "&&", "||", "!", "++",
         "--", "=>"]
      delimiters := ["\"", "'"]
      lineComment := "//"
      blockComment := some ⟨"/*", "*/"⟩ }
  starters :=
    [("var", hundredths 95), ("int", hundredths 90), ("if", hundredths 85),
     ("foreach", hundredths 80), ("for", hundredths 75), ("return", hundredths 60),
     ("Console.WriteLine", hundredths 50)]
  fillValues :=
    [(.functionName, ["Main", "Calculate", "Process"]),
     (.className, ["Program", "Service"]),
     (.variableName, ["result", "count", "item", "value"]),
     (.condition, ["i < n", "x > 0", "obj != null"]),
     (.moduleName, ["System", "System.Linq", "System.Collections.Generic"]),
     (.typeName, ["int", "string", "bool", "double", "void"])]

end CodeKeyboard.Language
