import ClusterQuery.Pattern.Wildcard

/-!
Patterns of predicates, compiled once: regular expressions, which match a part of a text, and wildcard
patterns with or without regard to case, which match the whole of it.
-/

namespace ClusterQuery

inductive PatternKind where
  | regex | like | ilike
deriving DecidableEq

structure Pattern where
  kind : PatternKind
  source : String
  expression : Regex

/-- The kind and the source of a pattern determine it. -/
instance : BEq Pattern where
  beq a b := a.kind == b.kind && a.source == b.source

namespace Pattern

/-- The regular expression that a pattern of a kind is compiled from. -/
def expressionText (kind : PatternKind) (source : List Char) : List Char :=
  match kind with
  | .regex => source
  | .like => Wildcard.patternText false source
  | .ilike => Wildcard.patternText true source

/-- Compiles a pattern; nothing if it is not well formed. -/
def compile? (kind : PatternKind) (source : String) : Option Pattern :=
  (Regex.ofPattern? (expressionText kind source.toList)).map fun expression => ⟨kind, source, expression⟩

/-- Whether a pattern matches a text. -/
def isMatch (p : Pattern) (text : List Char) : Bool := p.expression.matchesIn text

end Pattern

end ClusterQuery
