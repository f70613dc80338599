import CodeKeyboard.Language.Symbols

/-!
# Natively compiled languages

C and C++, and Go and Rust, whose headers go without parentheses.
-/

namespace CodeKeyboard.Language

open Score

/-- C++. -/
def cpp : Language where
  key := "cpp"
  name := "C++"
  extensions := ["cpp", "cc", "cxx", "c++", "hpp", "h++"]
  keyboard :=
    [⟨"basic", "Basic",
       [⟨"cpp_1", "#include", "#include <>"⟩,
        ⟨"cpp_3", "int", "int "⟩,
        ⟨"cpp_4", "var", "var"⟩,
        ⟨"cpp_5", "i", "i"⟩,
        ⟨"cpp_6", "j", "j"⟩,
        ⟨"cpp_7", "=", " = "⟩,
        ⟨"cpp_8", "0", "0"⟩,
        ⟨"cpp_9", ".size()", ".size()"⟩,
        ⟨"cpp_10", ";", ";"⟩,
        ⟨"cpp_11", "cout", "cout << "⟩,
        ⟨"cpp_12", "endl", "endl"⟩]⟩,
     ⟨"controlFlow", "Control",
       [⟨"cpp_13", "if", "if (condition) \x7b\n    \n\x7d"⟩,
        ⟨"cpp_14", "else", "else \x7b\n    \n\x7d"⟩,
        ⟨"cpp_15", "for", "for (int var = 0; var < var; var++) \x7b\n    \n\x7d"⟩,
        ⟨"cpp_16", "for-each", "for (auto& var : var) \x7b\n    \n\x7d"⟩,
        ⟨"cpp_17", "while", "while (condition) \x7b\n    \n\x7d"⟩,
        ⟨"cpp_18", "switch", "switch (var) \x7b\ncase var:\n    break;\ndefault:\n    break;\n\x7d"⟩]⟩,
     ⟨"functions", "Functions",
       [⟨"cpp_19", "main", "int main(var) \x7b\n    \n    return 0;\n\x7d"⟩,
        ⟨"cpp_20", "function", "type function(var) \x7b\n    \n\x7d"⟩,
        ⟨"cpp_21", "return", "return "⟩,
        ⟨"cpp_22", "class", "class ClassName \x7b\npublic:\n    \nprivate:\n    \n\x7d;"⟩,
        ⟨"cpp_23", "<<", " << "⟩,
        ⟨"cpp_24", ">>", " >> "⟩,
        ⟨"cpp_25", "cin", "cin >> "⟩]⟩,
     ⟨"dataTypes", "Types",
       [⟨"cpp_2", "type", "type "⟩,
        ⟨"cpp_26", "const", "const "⟩,
        ⟨"cpp_27", "double", "double "⟩,
        ⟨"cpp_28", "bool", "bool "⟩,
        ⟨"cpp_29", "auto", "auto "⟩,
        ⟨"cpp_30", "string", "string "⟩,
        ⟨"cpp_31", "true", "true"⟩,
        ⟨"cpp_32", "false", "false"⟩]⟩,
     symbols]
  followers :=
    [("#include", ["<iostream>", "<vector>", "<string>", "<algorithm>"]),
     ("cout", ["<<"]),
     ("std::cout", ["<<"]),
     ("cin", [">>"]),
     ("std::cin", [">>"]),
     ("if", ["("]),
     ("for", ["("]),
     ("while", ["("]),
     ("int", ["var"]),
     ("string", ["var"]),
     ("double", ["var"]),
     ("bool", ["var"]),
     ("auto", ["var"]),
     ("vector<int>", ["var"]),
     ("map<int, int>", ["var"]),
     ("=", ["0", "1", "true", "false", "\"", "new", "var"]),
     ("var", ["=", "[", "."]),
     ("type", [" ", "var"]),
     (".size", ["()"]),
     (".push_back", ["("]),
     (".begin", ["()"]),
     (".end", ["()"])]
  lexicon :=
    { keywords :=
        (["int", "double", "float", "char", "bool", "void", "auto", "const", "static", "class",
          "struct", "if", "else", "for", "while", "do", "switch", "case", "default", "break"] : List Text) ++
        (["continue", "return", "try", "catch", "throw", "public", "private", "protected",
          "virtual", "override", "namespace", "using", "template", "typename", "new", "delete",
          "true", "false", "nullptr"] : List Text)
      builtins :=
        ["std", "cout", "cin", "endl", "vector", "map", "string", "pair", "make_pair"]
      operators :=
        ["=", "+=", "-=", "*=", "/=", "%=", "==", "!=", "<", ">", "<=", ">=", "&&", "||", "!", "++",
         "--", "<<", ">>"]
      delimiters := ["\"", "'"]
      lineComment := "//"
      blockComment := some ⟨"/*", "*/"⟩ }
  starters :=
    [("int", hundredths 95), ("auto", hundredths 90), ("if", hundredths 85), ("for", hundredths 80),
     ("while", hundredths 70), ("return", hundredths 60), ("cout", hundredths 50)]
  fillValues :=
    [(.functionName, ["solve", "helper", "compute"]),
     (.className, ["Solution", "Node"]),
     (.variableName, ["n", "result", "count", "idx"]),
     (.condition, ["i < n", "x > 0", "ptr != nullptr"]),
     (.moduleName, ["<iostream>", "<vector>", "<string>"]),
     (.typeName, ["int", "double", "bool", "std::string", "void", "auto"])]

/-- C. -/
def c : Language where
  key := "c"
  name := "C"
  extensions := ["c", "h"]
  keyboard :=
    [⟨"basic", "Basic",
       [⟨"c_1", "#include", "#include <>"⟩,
        ⟨"c_2", "int", "int "⟩,
        ⟨"c_3", "double", "double "⟩,
        ⟨"c_4", "char", "char "⟩,
        ⟨"c_5", "var", "var"⟩,
        ⟨"c_6", "name", "name"⟩,
        ⟨"c_7", "i", "i"⟩,
        ⟨"c_8", "=", " = "⟩,
        ⟨"c_9", "0", "0"⟩,
        ⟨"c_10", ";", ";"⟩]⟩,
     ⟨"controlFlow", "Control",
       [⟨"c_11", "if", "if (condition) \x7b\n    \n\x7d"⟩,
        ⟨"c_12", "else", "else \x7b\n    \n\x7d"⟩,
        ⟨"c_13", "for", "for (int var = 0; var < var; var++) \x7b\n    \n\x7d"⟩,
        ⟨"c_14", "while", "while (condition) \x7b\n    \n\x7d"⟩,
        ⟨"c_15", "switch", "switch (var) \x7b\ncase var:\n    break;\ndefault:\n    break;\n\x7d"⟩]⟩,
     ⟨"functions", "Functions",
       [⟨"c_16", "main", "int main(var) \x7b\n    \n    return 0;\n\x7d"⟩,
        ⟨"c_17", "function", "type function(var) \x7b\n    \n\x7d"⟩,
        ⟨"c_18", "return", "return "⟩,
        ⟨"c_19", "malloc", "malloc("⟩,
        ⟨"c_20", "free", "free("⟩,
        ⟨"c_27", "printf", "printf("⟩,
        ⟨"c_28", "scanf", "scanf("⟩]⟩,
     ⟨"dataTypes", "Types",
       [⟨"c_25", "type", "type "⟩,
        ⟨"c_21", "struct", "struct "⟩,
        ⟨"c_22", "typedef", "typedef "⟩,
        ⟨"c_23", "const", "const "⟩,
        ⟨"c_24", "static", "static "⟩,
        ⟨"c_26", "NULL", "NULL"⟩]⟩,
     symbols]
  followers :=
    [("#include", ["<stdio.h>", "<stdlib.h>", "<string.h>"]),
     ("printf", ["("]),
     ("scanf", ["("]),
     ("for", ["("]),
     ("if", ["("]),
     ("while", ["("]),
     ("int", ["var", "name"]),
     ("double", ["var", "name"]),
     ("char", ["var", "name"]),
     ("=", ["0", "var", "NULL", "\"", "'"])]
  lexicon :=
    { keywords :=
        ["int", "double", "float", "char", "void", "const", "static", "struct", "typedef", "enum",
         "if", "else", "for", "while", "do", "switch", "case", "default", "break", "continue",
         "return", "goto", "sizeof", "auto", "register", "extern", "volatile", "signed", "unsigned"]
      builtins :=
        ["printf", "scanf", "malloc", "free", "strlen", "strcpy", "strcmp", "NULL"]
      operators :=
        ["=", "+=", "-=", "*=", "/=", "%=", "==", "!=", "<", ">", "<=", ">=", "&&", "||", "!", "++",
         "--"]
      delimiters := ["\"", "'"]
      lineComment := "//"
      blockComment := some ⟨"/*", "*/"⟩ }
  starters :=
    [("int", hundredths 95), ("char", hundredths 85), ("if", hundredths 85), ("for", hundredths 80),
     ("while", hundredths 70), ("return", hundredths 60), ("printf", hundredths 50)]
  fillValues :=
    [(.functionName, ["main", "helper", "compute"]),
     (.className, ["Node"]),
     (.variableName, ["n", "result", "count", "buf"]),
     (.condition, ["i < n", "x > 0", "ptr != NULL"]),
     (.moduleName, ["<stdio.h>", "<stdlib.h>", "<string.h>"]),
     (.typeName, ["int", "double", "char", "void", "size_t"])]

/-- Go. -/
def go : Language where
  key := "go"
  name := "Go"
  extensions := ["go"]
  keyboard :=
    [⟨"basic", "Basic",
       [⟨"go_1", "package", "package "⟩,
        ⟨"go_2", "var", "var "⟩,
        ⟨"go_3", "name", "name"⟩,
        ⟨"go_4", "string", "string"⟩,
        ⟨"go_5", "int", "int"⟩,
        ⟨"go_6", ":=", " := "⟩,
        ⟨"go_7", "=", " = "⟩,
        ⟨"go_8", "0", "0"⟩,
        ⟨"go_9", "true", "true"⟩,
        ⟨"go_10", "false", "false"⟩]⟩,
     ⟨"controlFlow", "Control",
       [⟨"go_11", "if", "if condition \x7b\n    \n\x7d"⟩,
        ⟨"go_12", "else", "else \x7b\n    \n\x7d"⟩,
        ⟨"go_13", "for", "for var := 0; var < var; var++ \x7b\n    \n\x7d"⟩,
        ⟨"go_14", "range", "range "⟩,
        ⟨"go_15", "switch", "switch var \x7b\ncase var:\n    \ndefault:\n    \n\x7d"⟩,
        ⟨"go_16", "defer", "defer "⟩]⟩,
     ⟨"functions", "Functions",
       [⟨"go_17", "main", "func main(var) \x7b\n    \n\x7d"⟩,
        ⟨"go_18", "return", "return "⟩,
        ⟨"go_19", "make", "make("⟩,
        ⟨"go_20", "append", "append("⟩,
        ⟨"go_21", "fmt.Println", "fmt.Println("⟩,
        ⟨"go_22", "fmt.Printf", "fmt.Printf("⟩,
        ⟨"go_27", "func", "func function(var) \x7b\n    \n\x7d"⟩]⟩,
     ⟨"dataTypes", "Types",
       [⟨"go_28", "type", "type"⟩,
        ⟨"go_23", "map", "map[string]int"⟩,
        ⟨"go_24", "struct", "struct \x7b\n    \n\x7d"⟩,
        ⟨"go_25", "interface", "interface \x7b\n    \n\x7d"⟩,
        ⟨"go_26", "chan", "chan "⟩,
        ⟨"go_29", "err", "err"⟩,
        ⟨"go_30", "nil", "nil"⟩]⟩,
     symbols]
  followers :=
    [("package", ["main"]),
     ("import", ["fmt", "\"fmt\""]),
     ("func", ["main"]),
     ("fmt.Println", ["("]),
     ("fmt.Printf", ["("]),
     ("for", ["i", "range"]),
     ("if", ["err"]),
     ("err", ["!="]),
     ("!=", ["nil"]),
     ("var", ["name"])]
  lexicon :=
    { keywords :=
        (["package", "import", "func", "var", "const", "type", "struct", "interface", "chan", "map",
          "if", "else", "for", "range", "switch", "case"] : List Text) ++
        (["default", "break", "continue", "fallthrough", "return", "go", "defer", "select", "true",
          "false", "nil", "make", "new", "len", "cap"] : List Text)
      builtins :=
        ["fmt", "append", "make", "len", "cap", "new", "delete", "panic", "recover"]
      operators :=
        ["=", "+=", "-=", "*=", "/=", "%=", "==", "!=", "<", ">", "<=", ">=", "&&", "||", "!", "++",
         "--", ":=", "<-"]
      delimiters := ["\"", "`"]
      lineComment := "//"
      blockComment := some ⟨"/*", "*/"⟩ }
  starters :=
    [("var", hundredths 95), ("if", hundredths 85), ("for", hundredths 80), ("func", hundredths 70),
     ("return", hundredths 60), ("defer", hundredths 50), ("fmt.Println", hundredths 40)]
  fillValues :=
    [(.functionName, ["main", "handle", "run"]),
     (.className, ["Server", "Config"]),
     (.variableName, ["err", "ctx", "result", "n"]),
     (.condition, ["err != nil", "i < n", "ok"]),
     (.moduleName, ["fmt", "os", "strings"]),
     (.typeName, ["int", "string", "bool", "error", "float64"])]

/-- Rust. -/
def rust : Language where
  key := "rust"
  name := "Rust"
  extensions := ["rs"]
  keyboard :=
    [⟨"basic", "Basic",
       [⟨"rust_1", "let", "let "⟩,
        ⟨"rust_2", "mut", "mut "⟩,
        ⟨"rust_3", "name", "name"⟩,
        ⟨"rust_4", ":", ": "⟩,
        ⟨"rust_5", "i32", "i32"⟩,
        ⟨"rust_6", "String", "String"⟩,
        ⟨"rust_7", "=", " = "⟩,
        ⟨"rust_8", "0", "0"⟩,
        ⟨"rust_9", "true", "true"⟩,
        ⟨"rust_10", "false", "false"⟩]⟩,
     ⟨"controlFlow", "Control",
       [⟨"rust_11", "if", "if condition \x7b\n    \n\x7d"⟩,
        ⟨"rust_12", "else", "else \x7b\n    \n\x7d"⟩,
        ⟨"rust_13", "for", "for var in 0..var \x7b\n    \n\x7d"⟩,
        ⟨"rust_14", "while", "while condition \x7b\n    \n\x7d"⟩,
        ⟨"rust_15", "match", "match var \x7b\n    var => var,\n    _ => var,\n\x7d"⟩,
        ⟨"rust_16", "loop", "loop \x7b\n    \n\x7d"⟩,
        ⟨"rust_28", "in", "in "⟩]⟩,
     ⟨"functions", "Functions",
       [⟨"rust_17", "main", "fn main(var) \x7b\n    \n\x7d"⟩,
        ⟨"rust_18", "return", "return "⟩,
        ⟨"rust_19", "impl", "impl "⟩,
        ⟨"rust_20", "use", "use "⟩,
        ⟨"rust_29", "println!", "println!("⟩]⟩,
     ⟨"dataTypes", "Types",
       [⟨"rust_21", "type", "type"⟩,
        ⟨"rust_22", "Vec", "Vec<>"⟩,
        ⟨"rust_23", "HashMap", "HashMap<String, i32>"⟩,
        ⟨"rust_24", "Option", "Option<>"⟩,
        ⟨"rust_25", "Result", "Result<>"⟩,
        ⟨"rust_26", "struct", "struct "⟩,
        ⟨"rust_27", "enum", "enum "⟩]⟩,
     symbols]
  followers :=
    [("let", ["mut", "name"]),
     ("mut", ["name"]),
     ("fn", ["main"]),
     ("println!", ["("]),
     ("use", ["std"]),
     ("match", ["value"]),
     ("for", ["i"]),
     (":", ["i32", "String", "Vec"])]
  lexicon :=
    { keywords :=
        (["fn", "let", "mut", "const", "static", "struct", "enum", "impl", "trait", "type", "mod",
          "use", "pub", "if", "else", "match", "for", "while"] : List Text) ++
        (["loop", "break", "continue", "return", "yield", "true", "false", "Some", "None", "Ok",
          "Err", "self", "Self", "super", "crate", "where", "in"] : List Text)
      builtins :=
        ["println", "print", "vec", "format", "panic", "assert", "Vec", "HashMap", "Option",
         "Result"]
      operators :=
        ["=", "+=", "-=", "*=", "/=", "%=", "==", "!=", "<", ">", "<=", ">=", "&&", "||", "!", "->",
         "=>"]
      delimiters := ["\""]
      lineComment := "//"
      blockComment := some ⟨"/*", "*/"⟩ }
  starters :=
    [("let", hundredths 95), ("if", hundredths 85), ("for", hundredths 80),
     ("match", hundredths 75), ("while", hundredths 70), ("return", hundredths 60),
     ("println!", hundredths 50)]
  fillValues :=
    [(.functionName, ["main", "run", "parse"]),
     (.className, ["Config", "State"]),
     (.variableName, ["result", "value", "count", "idx"]),
     (.condition, ["x > 0", "i < n", "opt.is_some()"]),
     (.moduleName, ["std::collections::HashMap", "std::io"]),
     (.typeName, ["i32", "u64", "String", "bool", "usize"])]

end CodeKeyboard.Language
