import ClusterQuery.Pattern.Reader

/-!
Wildcard patterns: `%` stands for any run of characters, `_` for any one, and every other character for itself
or, where case does not count, for its variants. A wildcard pattern matches whole texts only; it is read as the
regular expression that says so.
-/

namespace ClusterQuery

namespace Wildcard

/-- A character as a regular expression for itself. -/
def literalText (c : Char) : List Char := if PatternText.isMeta c then ['\\', c] else [c]

/-- What a character of a wildcard pattern stands for, as a regular expression. -/
def charText (c : Char) : List Char :=
  if c = '%' then ['.', '*'] else if c = '_' then ['.'] else literalText c

/-- A wildcard pattern as a regular expression, in which a dot also matches the end of a line. -/
def patternText (ignoreCase : Bool) (cs : List Char) : List Char :=
  (if ignoreCase then "(?is)^" else "(?s)^").toList ++ (cs.flatMap charText ++ ['$'])

end Wildcard

end ClusterQuery
