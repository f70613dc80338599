import CodeKeyboard.Catalog
import CodeKeyboard.Idiom.Braced
import CodeKeyboard.Idiom.Indented
import CodeKeyboard.Idiom.Unparenthesised

/-!
# The cascade of a language (specification §4.3)

A dialect names its rules in order of priority; `Dialect.cascade` puts the rules of the family in
their places. The cascade of a language is found by its key: the built-in languages have one each,
made with their own reserved words, and any other key has none.

`Dialect.RuleForm` says once what can go by the name of a rule. What holds of every rule of a
dialect is proved by cases on it, and so is what follows from a result of one rule.
-/

namespace CodeKeyboard

namespace Dialect

/-- The rule of a dialect that goes by a name. -/
def rule (dialect : Dialect) (reserved : Text → Bool) : RuleName → Rule
  | .loopHeader =>
    match dialect.family with
    | .plain => fun _ => []
    | .indented => Indented.loopRule
    | .braced => Braced.loopRule dialect
    | .go => GoIdiom.loopRule
    | .rust => RustIdiom.loopRule
  | .iterableCall =>
    match dialect.family with
    | .plain => fun _ => []
    | .braced => dialect.closeCall ["for", "foreach"]
    | _ => dialect.closeCall ["for"]
  | .terminator =>
    match dialect.family with
    | .plain => fun _ => []
    | .indented => Indented.terminatorRule
    | .braced => Braced.terminatorRule dialect
    | .go => GoIdiom.terminatorRule
    | .rust => RustIdiom.terminatorRule
  | .declaration =>
    match dialect.family with
    | .plain => fun _ => []
    | .indented => Indented.declarationRule reserved
    | .braced => Braced.declarationRule dialect reserved
    | .go => GoIdiom.declarationRule reserved
    | .rust => RustIdiom.declarationRule
  | .callOpening =>
    match dialect.family with
    | .plain => fun _ => []
    | .indented => dialect.chainOrCall
    | .braced => Braced.callRule dialect
    | .go => dialect.chainOrCall
    | .rust => RustIdiom.callRule
  | .memberChain => dialect.memberChain
  | .callableAtEnd => dialect.callableAtEnd
  | .openCall => dialect.closeCall ["for"]

/-- **What can go by the name of a rule**: nothing in a language without constructs, or else the
rule of the family, or one that the families share. -/
inductive RuleForm (dialect : Dialect) (reserved : Text → Bool) : RuleName → Rule → Prop where
  | plain {name : RuleName} (family : dialect.family = .plain) :
      RuleForm dialect reserved name fun _ => []
  | indentedLoop (family : dialect.family = .indented) :
      RuleForm dialect reserved .loopHeader Indented.loopRule
  | bracedLoop (family : dialect.family = .braced) :
      RuleForm dialect reserved .loopHeader (Braced.loopRule dialect)
  | goLoop (family : dialect.family = .go) :
      RuleForm dialect reserved .loopHeader GoIdiom.loopRule
  | rustLoop (family : dialect.family = .rust) :
      RuleForm dialect reserved .loopHeader RustIdiom.loopRule
  | iterableCall (family : dialect.family ≠ .plain) {skip : List Text}
      (skips : skip ⊆ ["for", "foreach"]) :
      RuleForm dialect reserved .iterableCall (dialect.closeCall skip)
  | indentedTerminator (family : dialect.family = .indented) :
      RuleForm dialect reserved .terminator Indented.terminatorRule
  | bracedTerminator (family : dialect.family = .braced) :
      RuleForm dialect reserved .terminator (Braced.terminatorRule dialect)
  | goTerminator (family : dialect.family = .go) :
      RuleForm dialect reserved .terminator GoIdiom.terminatorRule
  | rustTerminator (family : dialect.family = .rust) :
      RuleForm dialect reserved .terminator RustIdiom.terminatorRule
  | indentedDeclaration (family : dialect.family = .indented) :
      RuleForm dialect reserved .declaration (Indented.declarationRule reserved)
  | bracedDeclaration (family : dialect.family = .braced) :
      RuleForm dialect reserved .declaration (Braced.declarationRule dialect reserved)
  | goDeclaration (family : dialect.family = .go) :
      RuleForm dialect reserved .declaration (GoIdiom.declarationRule reserved)
  | rustDeclaration (family : dialect.family = .rust) :
      RuleForm dialect reserved .declaration RustIdiom.declarationRule
  | chainOrCall (family : dialect.family = .indented ∨ dialect.family = .go) :
      RuleForm dialect reserved .callOpening dialect.chainOrCall
  | bracedCall (family : dialect.family = .braced) :
      RuleForm dialect reserved .callOpening (Braced.callRule dialect)
  | rustCall (family : dialect.family = .rust) :
      RuleForm dialect reserved .callOpening RustIdiom.callRule
  | memberChain : RuleForm dialect reserved .memberChain dialect.memberChain
  | callableAtEnd : RuleForm dialect reserved .callableAtEnd dialect.callableAtEnd
  | openCall : RuleForm dialect reserved .openCall (dialect.closeCall ["for"])

/-- **Every rule has one of these forms.** -/
theorem ruleForm (dialect : Dialect) (reserved : Text → Bool) (name : RuleName) :
    dialect.RuleForm reserved name (dialect.rule reserved name) := by
  cases name with
  | loopHeader =>
    unfold rule
    cases hfamily : dialect.family with
    | plain => exact .plain hfamily
    | indented => exact .indentedLoop hfamily
    | braced => exact .bracedLoop hfamily
    | go => exact .goLoop hfamily
    | rust => exact .rustLoop hfamily
  | iterableCall =>
    unfold rule
    cases hfamily : dialect.family with
    | plain => exact .plain hfamily
    | indented | braced | go | rust => exact .iterableCall (by simp [hfamily]) (by simp)
  | terminator =>
    unfold rule
    cases hfamily : dialect.family with
    | plain => exact .plain hfamily
    | indented => exact .indentedTerminator hfamily
    | braced => exact .bracedTerminator hfamily
    | go => exact .goTerminator hfamily
    | rust => exact .rustTerminator hfamily
  | declaration =>
    unfold rule
    cases hfamily : dialect.family with
    | plain => exact .plain hfamily
    | indented => exact .indentedDeclaration hfamily
    | braced => exact .bracedDeclaration hfamily
    | go => exact .goDeclaration hfamily
    | rust => exact .rustDeclaration hfamily
  | callOpening =>
    unfold rule
    cases hfamily : dialect.family with
    | plain => exact .plain hfamily
    | indented => exact .chainOrCall (.inl hfamily)
    | go => exact .chainOrCall (.inr hfamily)
    | braced => exact .bracedCall hfamily
    | rust => exact .rustCall hfamily
  | memberChain => exact .memberChain
  | callableAtEnd => exact .callableAtEnd
  | openCall => exact .openCall

/-- What a rule of a dialect suggests is suggested by a rule of one of the forms. -/
theorem exists_ruleForm_of_mem {dialect : Dialect} {reserved : Text → Bool} {name : RuleName}
    {line : Text} {hit : Text × Score} (h : hit ∈ dialect.rule reserved name line) :
    ∃ rule, dialect.RuleForm reserved name rule ∧ hit ∈ rule line :=
  ⟨_, dialect.ruleForm reserved name, h⟩

/-- The rules of a dialect in its order, with the reserved words of a language. -/
def cascade (dialect : Dialect) (language : Language) : Cascade :=
  ⟨dialect.order.map (dialect.rule language.isReserved)⟩

end Dialect

namespace Cascade

/-- The built-in languages with their dialects. -/
def builtIn : List (Language × Dialect) :=
  [(.python, .python), (.javaScript, .javaScript), (.typeScript, .typeScript), (.java, .java),
   (.cpp, .cpp), (.c, .c), (.go, .go), (.rust, .rust), (.cSharp, .cSharp), (.php, .php)]

/-- The cascade that goes by the key of a language; a key without one stays silent. -/
def forKey (key : Text) : Cascade :=
  match builtIn.find? (·.1.key == key) with
  | some (language, dialect) => dialect.cascade language
  | none => silent

end Cascade

end CodeKeyboard
