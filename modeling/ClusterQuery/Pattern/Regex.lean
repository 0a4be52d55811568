import ClusterQuery.Pattern.CharSet

/-!
Regular expressions and whether one matches somewhere in a text. A look-around condition speaks of the
characters before and after a position only, so every question about an expression is asked together with the
two. `follow` gives what may be left of an expression after a character; a search keeps what is left of every
match begun so far, and finds one as soon as nothing more is needed.
-/

namespace ClusterQuery

/-- Conditions on a position. -/
inductive Look where
  | textStart | textEnd
  | lineStart | lineEnd
  /-- Lines that end with a line feed, a carriage return or both. -/
  | anyLineStart | anyLineEnd
  | wordEdge (ascii : Bool) | notWordEdge (ascii : Bool)
  | wordStart (ascii : Bool) | wordEnd (ascii : Bool)
  /-- No word character before, or after. -/
  | wordStartHalf (ascii : Bool) | wordEndHalf (ascii : Bool)
deriving DecidableEq, Hashable

namespace Look

/-- Whether there is a word character. -/
def isWord (ascii : Bool) (c : Option Char) : Bool := c.any (if ascii then isAsciiWordChar else isWordChar)

/-- Whether a condition holds between two characters, either of which may be missing. -/
def holds (before after : Option Char) : Look → Bool
  | .textStart => before.isNone
  | .textEnd => after.isNone
  | .lineStart => before.isNone || before == some '\n'
  | .lineEnd => after.isNone || after == some '\n'
  | .anyLineStart =>
    before.isNone || before == some '\n' || (before == some '\r' && after != some '\n')
  | .anyLineEnd =>
    after.isNone || after == some '\r' || (after == some '\n' && before != some '\r')
  | .wordEdge ascii => isWord ascii before != isWord ascii after
  | .notWordEdge ascii => isWord ascii before == isWord ascii after
  | .wordStart ascii => !isWord ascii before && isWord ascii after
  | .wordEnd ascii => isWord ascii before && !isWord ascii after
  | .wordStartHalf ascii => !isWord ascii before
  | .wordEndHalf ascii => !isWord ascii after

end Look

inductive Regex where
  | empty
  | chars (set : CharSet)
  | look (condition : Look)
  | cat (a b : Regex)
  | alt (a b : Regex)
  /-- At least `least` and at most `most` matches in a row. -/
  | times (a : Regex) (least : Nat) (most : Option Nat)
deriving DecidableEq, Hashable

namespace Regex

/-- Whether an expression matches nothing at all between two characters. -/
def nullable (before after : Option Char) : Regex → Bool
  | .empty => true
  | .chars _ => false
  | .look condition => condition.holds before after
  | .cat a b => a.nullable before after && b.nullable before after
  | .alt a b => a.nullable before after || b.nullable before after
  | .times a least _ => least == 0 || a.nullable before after

/-- One expression after the other, without an empty one in front. -/
def andThen (a b : Regex) : Regex := if a = .empty then b else .cat a b

/-- What may be left of an expression after the character `c`. Matches of nothing may use up the least count of
    a repetition. -/
def follow (before : Option Char) (c : Char) : Regex → List Regex
  | .empty => []
  | .chars set => if set.contains c then [.empty] else []
  | .look _ => []
  | .cat a b =>
    (a.follow before c).map (·.andThen b) ++ if a.nullable before (some c) then b.follow before c else []
  | .alt a b => a.follow before c ++ b.follow before c
  | .times a least most =>
    if most == some 0 then []
    else
      let least := if a.nullable before (some c) then 0 else least - 1
      (a.follow before c).map (·.andThen (.times a least (most.map (· - 1))))

/-- Drops an expression that the same one follows. -/
def dropRepeats : List Regex → List Regex
  | r :: s :: rs => if r = s then dropRepeats (s :: rs) else r :: dropRepeats (s :: rs)
  | rs => rs

/-- The members of a list, those with equal hashes together and few of them twice. -/
def distinct (rs : List Regex) : List Regex :=
  dropRepeats (((rs.map fun r => (hash r, r)).mergeSort fun a b => a.1 ≤ b.1).map Prod.snd)

/-- The expressions left of any of several after a character. -/
def followAll (before : Option Char) (c : Char) (rs : List Regex) : List Regex :=
  distinct (rs.flatMap (·.follow before c))

/-- Whether one of the expressions begun, or `r` from here or later on, matches to an end. -/
def search (r : Regex) (before : Option Char) (begun : List Regex) : List Char → Bool
  | [] => (r :: begun).any (·.nullable before none)
  | c :: cs =>
    (r :: begun).any (·.nullable before (some c)) || search r (some c) (followAll before c (r :: begun)) cs

/-- Whether an expression matches a part of a text. -/
def matchesIn (r : Regex) (text : List Char) : Bool := search r none [] text

/-- One expression after the other. -/
def catAll (rs : List Regex) : Regex := rs.foldr (fun a b => if b = .empty then a else .cat a b) .empty

/-- Any one of several expressions. -/
def altAll : List Regex → Regex
  | [] => .chars .none
  | [r] => r
  | r :: rs => .alt r (altAll rs)

theorem mem_dropRepeats {r : Regex} {rs : List Regex} : r ∈ dropRepeats rs ↔ r ∈ rs := by
  fun_induction dropRepeats rs with
  | case1 s rs ih => simp [ih]
  | case2 _ s rs h ih => simp [ih]
  | case3 => rfl

theorem mem_distinct {r : Regex} {rs : List Regex} : r ∈ distinct rs ↔ r ∈ rs := by
  simp [distinct, mem_dropRepeats]

end Regex

end ClusterQuery
