import ClusterQuery.Path.Basic
import ClusterQuery.Predicate.Error
import ClusterQuery.Reducer

/-!
What can be wrong with a query.
-/

namespace ClusterQuery

/-- The clauses of a query, in the order in which they stand. -/
inductive Clause where
  | select | from | where | orderBy | limit
deriving DecidableEq

namespace Clause

def keyword : Clause → String
  | .select => "SELECT"
  | .from => "FROM"
  | .where => "WHERE"
  | .orderBy => "ORDER BY"
  | .limit => "LIMIT"

/-- The place of a clause among the clauses. -/
def rank : Clause → Nat
  | .select => 0
  | .from => 1
  | .where => 2
  | .orderBy => 3
  | .limit => 4

end Clause

/-- What a name in a `FROM` clause is the name of. -/
inductive NameRole where
  | namespace | resource
deriving DecidableEq

def NameRole.text : NameRole → String
  | .namespace => "namespace"
  | .resource => "resource"

/-- Why a text is not a query. -/
inductive SyntaxError where
  | empty
  | unbalanced (c : Char) (offset : Nat)
  | unterminatedText
  | openBrackets
  | clauseOrder (clause after : Clause)
  | noClause (text : String)
  | textBefore (clause : Clause) (text : String)
  | emptyWhere
  | missingFrom
  | emptySelect
  | unbalancedSelect (body : String)
  | emptyItem (position : Nat)
  | starWithOthers
  | duplicateColumn (name : String)
  | missingBeforeAs (item : String)
  | invalidTitle (title : String)
  | unbalancedParens (field : String)
  | missingField (field : String)
  | invalidField (field : String) (reason : Path.Error)
  | emptyFrom
  | emptyName (role : NameRole)
  | longName (role : NameRole) (name : String)
  | invalidName (role : NameRole) (name : String)
  | invalidLimit (body : String)
  | emptyOrderBy
  | unbalancedOrderBy (body : String)
  | emptyOrderItem
  | orderWithoutField (item : String)
deriving DecidableEq

/-- How long a name may be, in bytes. -/
def nameLimit : Nat := 63

def SyntaxError.message : SyntaxError → String
  | .empty => "empty query"
  | .unbalanced c offset =>
    "unbalanced " ++ String.ofList (quotedChar c) ++ " at offset " ++ toString offset
  | .unterminatedText => "unterminated string literal"
  | .openBrackets => "unbalanced parentheses or brackets"
  | .clauseOrder clause last => "unexpected clause position: " ++ clause.keyword ++ " after " ++ last.keyword
  | .noClause text => "expected SELECT or FROM in " ++ quoted text
  | .textBefore clause text => "unexpected text before " ++ clause.keyword ++ ": " ++ quoted text
  | .emptyWhere => "WHERE clause cannot be empty"
  | .missingFrom => "missing FROM clause"
  | .emptySelect => "SELECT requires at least one field"
  | .unbalancedSelect body => "unbalanced brackets in SELECT " ++ quoted body
  | .emptyItem position => "select field at position " ++ toString position ++ " cannot be empty"
  | .starWithOthers => "'*' cannot be combined with other select fields"
  | .duplicateColumn name => "duplicate column name " ++ quoted name
  | .missingBeforeAs item => "missing field before AS in " ++ quoted item
  | .invalidTitle title =>
    "invalid alias " ++ quoted title ++ ": must contain only alphanumeric characters and underscores"
  | .unbalancedParens field => "unbalanced parentheses in " ++ quoted field
  | .missingField field => "missing field in " ++ quoted field
  | .invalidField field reason => "invalid field " ++ quoted field ++ ": " ++ reason.message
  | .emptyFrom => "FROM clause requires a resource name"
  | .emptyName role => role.text ++ " name cannot be empty"
  | .longName role name =>
    role.text ++ " name " ++ quoted name ++ " is too long (maximum " ++ toString nameLimit ++ " characters)"
  | .invalidName role name =>
    role.text ++ " name " ++ quoted name ++ " is invalid: must consist of lowercase alphanumeric characters, " ++
      "'-' or '.', and must start and end with an alphanumeric character"
  | .invalidLimit body => "invalid LIMIT value " ++ quoted body ++ ": must be a non-negative integer"
  | .emptyOrderBy => "ORDER BY clause cannot be empty"
  | .unbalancedOrderBy body => "unbalanced brackets in ORDER BY " ++ quoted body
  | .emptyOrderItem => "ORDER BY item cannot be empty"
  | .orderWithoutField item => "ORDER BY item " ++ quoted item ++ " has no field"

/-- Why a query cannot be answered, whatever the cluster holds but for the last. -/
inductive QueryError where
  | invalidSyntax (e : SyntaxError)
  | unknownReducer (name : String)
  | predicate (e : Predicate.Error)
  | reducer (e : Reducer.Error)
deriving DecidableEq

def QueryError.message : QueryError → String
  | .invalidSyntax e => "query syntax error: " ++ e.message
  | .unknownReducer name => "invalid reducer " ++ quoted name ++ ": must be one of 'sum', 'len', 'any', 'all'"
  | .predicate e => "failed to parse where clause: " ++ e.message
  | .reducer e => e.message

/-- The result with an error of syntax. -/
def malformed (e : SyntaxError) : Except QueryError α := .error (.invalidSyntax e)

end ClusterQuery
