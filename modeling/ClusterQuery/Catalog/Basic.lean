import ClusterQuery.Catalog.Closeness
import ClusterQuery.Catalog.Resource
import ClusterQuery.Text.ByteLength

/-!
Finding a resource by name. A name that no resource answers to is refused, with the closest name as a hint.
-/

namespace ClusterQuery

/-- The resources of a cluster; of several with one name the first counts. -/
abbrev Catalog := List Resource

/-- A name that no resource answers to. -/
structure UnknownResource where
  name : String
  /-- The closest name, if any comes close. -/
  hint : Option String
deriving DecidableEq

def UnknownResource.message (e : UnknownResource) : String :=
  "failed to find resource \"" ++ e.name ++ "\"" ++
    match e.hint with
    | some hint => ", did you mean \"" ++ hint ++ "\"?"
    | none => ""

namespace Catalog

/-- Whether a name with these points and bytes is at least as good as another: more points count first, then
    fewer bytes. -/
def atLeastAsGood (a b : Int × Nat) : Bool := b.1 < a.1 || (a.1 == b.1 && a.2 ≤ b.2)

/-- The name that comes closest to a word, the last of those that come equally close. -/
def suggest? (catalog : Catalog) (word : String) : Option String :=
  let word := (lowerName word).toList
  let ranked := (catalog.flatMap Resource.names).filterMap fun name =>
    (closeness? word name.toList).map fun points => ((points, byteLength name.toList), name)
  (ranked.foldl (fun best? candidate =>
    match best? with
    | some best => if atLeastAsGood candidate.1 best.1 then some candidate else some best
    | none => some candidate) none).map Prod.snd

/-- The first resource that answers to a name. -/
def find (catalog : Catalog) (name : String) : Except UnknownResource Resource :=
  match List.find? (fun r => r.answersTo name) catalog with
  | some r => .ok r
  | none => .error ⟨name, catalog.suggest? name⟩

theorem find_eq_error_iff {catalog : Catalog} {name : String} :
    (∃ e, catalog.find name = .error e) ↔ ∀ r ∈ catalog, r.answersTo name = false := by
  unfold find
  split
  · next r h =>
    have hr := List.find?_some h
    have hm := List.mem_of_find?_eq_some h
    constructor
    · rintro ⟨e, he⟩
      cases he
    · intro hall
      simp [hall r hm] at hr
  · next h =>
    simpa using h

theorem answersTo_of_find {catalog : Catalog} {name : String} {r : Resource} (h : catalog.find name = .ok r) :
    r ∈ catalog ∧ r.answersTo name = true := by
  unfold find at h
  split at h
  · next s hs =>
    cases h
    exact ⟨List.mem_of_find?_eq_some hs, by simpa using List.find?_some hs⟩
  · cases h

end Catalog

end ClusterQuery
