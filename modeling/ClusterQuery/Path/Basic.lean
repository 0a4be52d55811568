import ClusterQuery.Text.Quoted

/-!
Paths into documents. A path is a sequence of steps, each from a node to one of its parts; a wildcard goes to
every element of a list.
-/

namespace ClusterQuery

inductive Step where
  /-- The entry of an object, by a key that stands between dots. -/
  | key (name : String)
  /-- The element of a list, counted from 0. -/
  | index (place : Nat)
  /-- A number between dots: the element of a list, counted from 1, or the entry of an object with the number
      as its key. -/
  | position (number : Nat)
  /-- The entry of an object, by a key in brackets, which may hold any character. -/
  | mapKey (name : String)
  /-- Every element of a list. -/
  | wildcard
deriving DecidableEq, Inhabited

structure Path where
  steps : List Step
deriving DecidableEq, Inhabited

namespace Path

/-- Whether a path leads to an entry of the labels or annotations of a document. -/
def isMetadataEntry (p : Path) : Bool :=
  match p.steps with
  | [.key "metadata", .key kind, .key _] | [.key "metadata", .key kind, .mapKey _] =>
    kind == "labels" || kind == "annotations"
  | _ => false

/-- Why a text is not a path. -/
inductive Fault where
  | empty
  | emptySegment
  | unbalanced
  | invalidChar (segment : String) (c : Char)
  | emptySubscript
  | trailingText (rest : String)
deriving DecidableEq

/-- A text that is not a path. -/
structure Error where
  text : String
  fault : Fault
deriving DecidableEq

/-- What is wrong with a text, in words. -/
def Error.message (e : Error) : String :=
  let about (what : String) : String := "invalid path " ++ quoted e.text ++ ": " ++ what
  match e.fault with
  | .empty => "path cannot be empty"
  | .emptySegment => about "empty segment"
  | .unbalanced => about "unbalanced brackets"
  | .invalidChar segment c =>
    about ("invalid character " ++ String.ofList (quotedChar c) ++ " in " ++ quoted segment)
  | .emptySubscript => about "empty subscript"
  | .trailingText rest => about ("unexpected " ++ quoted rest ++ " after subscript")

end Path

end ClusterQuery
