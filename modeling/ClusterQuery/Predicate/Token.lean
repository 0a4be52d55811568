/-!
The tokens of predicates: symbols, quoted texts and words. Keywords, numbers and names are all words; what a
word is depends on where it stands.
-/

namespace ClusterQuery

namespace Predicate

inductive Symbol where
  | leftParen | rightParen | leftBracket | rightBracket | comma
  | eq | ne | lt | le | gt | ge
  | regexMatch | regexNotMatch
  | bang | andAnd | orOr
deriving DecidableEq

namespace Symbol

/-- How symbols are spelled, longer spellings before those that they begin with. -/
def spellings : List (List Char × Symbol) :=
  [(['~', '='], .regexMatch), (['~', '!'], .regexNotMatch), (['!', '='], .ne), (['<', '>'], .ne),
    (['<', '='], .le), (['>', '='], .ge), (['=', '='], .eq), (['&', '&'], .andAnd), (['|', '|'], .orOr),
    (['('], .leftParen), ([')'], .rightParen), (['['], .leftBracket), ([']'], .rightBracket), ([','], .comma),
    (['='], .eq), (['<'], .lt), (['>'], .gt), (['!'], .bang)]

/-- The name of a symbol in messages. -/
def name : Symbol → String
  | .leftParen => "LParen"
  | .rightParen => "RParen"
  | .leftBracket => "LBracket"
  | .rightBracket => "RBracket"
  | .comma => "Comma"
  | .eq => "Eq"
  | .ne => "Ne"
  | .lt => "Lt"
  | .le => "Le"
  | .gt => "Gt"
  | .ge => "Ge"
  | .regexMatch => "RegexMatch"
  | .regexNotMatch => "RegexNotMatch"
  | .bang => "Bang"
  | .andAnd => "AndAnd"
  | .orOr => "OrOr"

end Symbol

inductive Token where
  | symbol (s : Symbol)
  /-- A quoted text, without its quotes and escapes. -/
  | text (s : String)
  | word (s : String)
deriving DecidableEq

namespace Token

/-- How a token is shown in messages. -/
def shown : Token → String
  | .symbol s => s.name
  | .text s => "'" ++ s ++ "'"
  | .word s => s

end Token

/-- A token and the number of bytes before it. -/
structure PlacedToken where
  token : Token
  offset : Nat
deriving DecidableEq

end Predicate

end ClusterQuery
