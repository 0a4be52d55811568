import ClusterQuery.Predicate.Token
import ClusterQuery.Text.Quoted

/-!
What can be wrong with the text of a predicate, and where.
-/

namespace ClusterQuery

namespace Predicate

/-- What a reader was looking for when it met something else. -/
inductive Expectation where
  | operand | endOfExpression | pattern | null | and | setOrRange | closingParen | commaOrClosing
deriving DecidableEq

def Expectation.text : Expectation → String
  | .operand => "an operand"
  | .endOfExpression => "end of expression"
  | .pattern => "a quoted pattern"
  | .null => "null"
  | .and => "and"
  | .setOrRange => "like, ilike, in or between"
  | .closingParen => "')'"
  | .commaOrClosing => "',' or closing bracket"

inductive Error where
  | empty
  | unexpectedChar (offset : Nat) (c : Char)
  | unterminatedText (offset : Nat)
  | unbalancedBracket (offset : Nat)
  | unexpectedToken (found : PlacedToken) (expected : Expectation)
  | unexpectedEnd (expected : Expectation)
  | invalidNumber (offset : Nat) (text : String)
  | invalidPattern (pattern : String)
  | unknownFunction (offset : Nat) (name : String)
deriving DecidableEq

def Error.message : Error → String
  | .empty => "empty expression"
  | .unexpectedChar offset c =>
    "unexpected character " ++ String.ofList (quotedChar c) ++ " at " ++ toString offset
  | .unterminatedText offset => "unterminated string starting at " ++ toString offset
  | .unbalancedBracket offset => "unbalanced '[' at " ++ toString offset
  | .unexpectedToken found expected =>
    "unexpected " ++ found.token.shown ++ " at " ++ toString found.offset ++ ", expected " ++ expected.text
  | .unexpectedEnd expected => "unexpected end of expression, expected " ++ expected.text
  | .invalidNumber offset text => "invalid number " ++ quoted text ++ " at " ++ toString offset
  | .invalidPattern pattern => "invalid pattern " ++ quoted pattern
  | .unknownFunction offset name => "unknown function " ++ quoted name ++ " at " ++ toString offset

end Predicate

end ClusterQuery
