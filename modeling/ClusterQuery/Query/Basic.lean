import ClusterQuery.Query.Field

/-!
Queries: which fields of which objects, under which condition, in which order and how many. `Query.render` is
the canonical text.
-/

namespace ClusterQuery

/-- A field of the answer and its title. -/
structure SelectItem where
  field : Field
  /-- The title: the name after `AS`, or the text of the field as typed. -/
  title : String
  /-- Whether the title was given with `AS`. -/
  explicit : Bool
deriving DecidableEq

namespace SelectItem

/-- An item whose title is the text of its field. -/
def implicit (field : Field) (text : List Char) : SelectItem := ⟨field, String.ofList (trim text), false⟩

def render (i : SelectItem) : List Char :=
  if i.explicit then i.field.render ++ " AS ".toList ++ i.title.toList else i.title.toList

end SelectItem

/-- What a query selects: the columns that its resource is shown with, or fields of its own. -/
inductive Selection where
  | all
  | only (items : List SelectItem)
deriving DecidableEq

namespace Selection

/-- The fields that the query names. -/
def named : Selection → List SelectItem
  | .all => []
  | .only items => items

end Selection

/-- A field that decides the order. -/
structure OrderItem where
  item : SelectItem
  descending : Bool
deriving DecidableEq

def OrderItem.render (o : OrderItem) : List Char :=
  o.item.title.toList ++ (if o.descending then " DESC" else " ASC").toList

/-- Where objects are looked for. -/
inductive Scope where
  /-- In the current namespace. -/
  | current
  | namespace (name : String)
  | everywhere
deriving DecidableEq

namespace Scope

/-- The scope under the flags of the command line: `everywhere` wins over what a query says, a namespace only
    fills in for what it does not say. -/
def override (s : Scope) (namespace? : Option String) (everywhere : Bool) : Scope :=
  if everywhere then .everywhere
  else
    match s, namespace? with
    | .current, some name => .namespace name
    | s, _ => s

end Scope

/-- The objects that a query is about. -/
structure Source where
  resource : String
  scope : Scope
deriving DecidableEq

namespace Source

def render (s : Source) : List Char :=
  match s.scope with
  | .current => s.resource.toList
  | .namespace name => name.toList ++ '/' :: s.resource.toList
  | .everywhere => '*' :: '/' :: s.resource.toList

def override (s : Source) (namespace? : Option String) (everywhere : Bool) : Source :=
  { s with scope := s.scope.override namespace? everywhere }

end Source

structure Query where
  selection : Selection
  source : Source
  /-- The text of the condition. -/
  filter : Option String := none
  orderBy : List OrderItem := []
  limit : Option Nat := none
deriving DecidableEq

namespace Query

/-- The items in order with commas between them. -/
def renderList (items : List (List Char)) : List Char := joinWith [',', ' '] items

def renderSelection : Selection → List Char
  | .all => ['*']
  | .only items => renderList (items.map SelectItem.render)

/-- The canonical text. -/
def render (q : Query) : List Char :=
  "SELECT ".toList ++ renderSelection q.selection ++ " FROM ".toList ++ q.source.render ++
    (match q.filter with
      | some condition => " WHERE ".toList ++ condition.toList
      | none => []) ++
    (if q.orderBy.isEmpty then [] else " ORDER BY ".toList ++ renderList (q.orderBy.map OrderItem.render)) ++
    (match q.limit with
      | some n => " LIMIT ".toList ++ decimalText n
      | none => [])

end Query

end ClusterQuery
