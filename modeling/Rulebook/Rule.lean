import Rulebook.Expression.Reader

/-!
# Rules

A `Rule` has a name and a text; its expression is read from the text when the rule is made. A
`Draft` is what is stored of a rule.
-/

set_option autoImplicit false

namespace Rulebook

/-- A rule without its expression. -/
structure Draft where
  name : String
  text : String
deriving DecidableEq, Repr

/-- A named rule with the expression of its text. -/
structure Rule where
  name : String
  text : String
  expression : Expression

namespace Rule

/-- The rule of a name and a text. -/
def make (name text : String) : Rule := ⟨name, text, Expression.read text.toList⟩

/-- The rule of a draft. -/
def ofDraft (d : Draft) : Rule := make d.name d.text

/-- What is stored of a rule. -/
def draft (rule : Rule) : Draft := ⟨rule.name, rule.text⟩

/-- Whether a rule applies to a row. -/
def applies (rule : Rule) (row : Row) : Bool := rule.expression.holds row

end Rule

end Rulebook
