import CodeKeyboard.Language.Basic

/-!
# The tab of symbols

Every keyboard ends with the same tab of brackets, quotes, separators and operators. A button of an
earlier tab with the same label stands before it in the candidate pool.
-/

namespace CodeKeyboard.Language

open Score

/-- Punctuation, the last tab of every language. -/
def symbols : Tab where
  key := "symbols"
  label := "Symbols"
  buttons :=
    [⟨"sym_1", "(", "("⟩,
     ⟨"sym_2", ")", ")"⟩,
     ⟨"sym_3", "[", "["⟩,
     ⟨"sym_4", "]", "]"⟩,
     ⟨"sym_5", "\x7b", "\x7b"⟩,
     ⟨"sym_6", "\x7d", "\x7d"⟩,
     ⟨"sym_7", "\"", "\"\""⟩,
     ⟨"sym_8", "'", "''"⟩,
     ⟨"sym_9", ",", ", "⟩,
     ⟨"sym_10", ".", "."⟩,
     ⟨"sym_11", ";", ";"⟩,
     ⟨"sym_12", ":", ":"⟩,
     ⟨"sym_13", "==", " == "⟩,
     ⟨"sym_14", "!=", " != "⟩,
     ⟨"sym_15", "<", " < "⟩,
     ⟨"sym_16", ">", " > "⟩,
     ⟨"sym_17", "<=", " <= "⟩,
     ⟨"sym_18", ">=", " >= "⟩,
     ⟨"sym_19", "+", " + "⟩,
     ⟨"sym_20", "-", " - "⟩,
     ⟨"sym_21", "*", " * "⟩,
     ⟨"sym_22", "/", " / "⟩,
     ⟨"sym_23", "%", " % "⟩,
     ⟨"sym_24", "&&", " && "⟩,
     ⟨"sym_25", "||", " || "⟩,
     ⟨"sym_26", "[]", "[]"⟩,
     ⟨"sym_27", "\x7b\x7d", "\x7b\x7d"⟩]

end CodeKeyboard.Language
