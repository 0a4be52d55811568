import ClusterQuery.Path.Extract
import ClusterQuery.Proofs.Value.Scalar

/-! What a path reads is settled by the nodes that it reaches. Steps are taken one after the other, each from all
    nodes that those before it led to, and a null is no node. Without a wildcard there is one node or none, and its
    value is read; behind wildcards the values of all nodes are joined, where a list that is itself a node
    gives its elements. -/

namespace ClusterQuery

/-! ### Nodes -/

/-- The parts of a node that a step leads to: the entry of an object with a key, the element of a list at a place,
    or all elements. A step that does not fit its node leads nowhere. -/
def Step.parts : Step → Json → List Json
  | .key name, .object fields => (Json.lookup name fields).toList
  | .mapKey name, .object fields => (Json.lookup name fields).toList
  | .index place, .array items => (items[place]?).toList
  | .position number, .array items => if number = 0 then [] else (items[number - 1]?).toList
  | .position number, .object fields => (Json.lookup (String.ofList (Nat.toDigits 10 number)) fields).toList
  | .wildcard, .array items => items
  | _, _ => []

namespace Json

def isNull : Json → Bool
  | .null => true
  | _ => false

/-- The nodes that are not null and that steps lead to, in the order of the document. -/
def nodes (steps : List Step) (doc : Json) : List Json :=
  (steps.foldl (fun reached step => reached.flatMap step.parts) [doc]).filter fun node => !node.isNull

/-- What a node adds to the joined list: the elements of a list, or its value. -/
def joined : Json → List Value
  | .array items => items.map Value.ofJson
  | node => [Value.ofJson node]

end Json

/-- The value that a path without a wildcard reads from its node. An empty label or annotation is true. -/
def Path.nodeValue (p : Path) : Json → Value
  | .string "" => if p.isMetadataEntry then .bool true else Value.ofJson (.string "")
  | node => Value.ofJson node

namespace Json
variable {s : Step} {steps : List Step} {node : Json}

theorem foldl_parts_append (steps : List Step) (front back : List Json) :
    steps.foldl (fun reached step => reached.flatMap step.parts) (front ++ back) =
      steps.foldl (fun reached step => reached.flatMap step.parts) front ++
        steps.foldl (fun reached step => reached.flatMap step.parts) back := by
  induction steps generalizing front back with
  | nil => rfl
  | cons s steps ih => rw [List.foldl_cons, List.flatMap_append, ih, List.foldl_cons, List.foldl_cons]

theorem filter_foldl_parts (steps : List Step) (reached : List Json) :
    (steps.foldl (fun reached step => reached.flatMap step.parts) reached).filter (fun node => !node.isNull) =
      reached.flatMap (nodes steps) := by
  induction reached with
  | nil =>
    induction steps with
    | nil => rfl
    | cons s steps ih => exact ih
  | cons node reached ih =>
    rw [← List.singleton_append, foldl_parts_append, List.filter_append, ih]
    rfl

/-- The nodes behind a step are those behind each of the parts that it leads to. -/
theorem nodes_cons (s : Step) (steps : List Step) (node : Json) :
    nodes (s :: steps) node = (s.parts node).flatMap (nodes steps) := by
  unfold nodes
  rw [List.foldl_cons, filter_foldl_parts, List.flatMap_singleton]
  rfl

theorem nodes_nil (node : Json) : nodes [] node = if node.isNull then [] else [node] := by
  cases node <;> rfl

theorem nodes_null (steps : List Step) : nodes steps .null = [] := by
  cases steps with
  | nil => rfl
  | cons s steps =>
    rw [nodes_cons]
    cases s <;> rfl

end Json

open Json

/-! ### Following steps -/

section Follow
variable {s : Step} {steps : List Step} {node : Json}

theorem parts_eq_part? (hs : s ≠ .wildcard) (node : Json) : s.parts node = (s.part? node).toList := by
  cases s with
  | wildcard => exact absurd rfl hs
  | position number => cases number <;> cases node <;> rfl
  | key name => cases node <;> rfl
  | mapKey name => cases node <;> rfl
  | index place => cases node <;> rfl

theorem follow_of_ne_wildcard (hs : s ≠ .wildcard) (steps : List Step) (node : Json) :
    follow (s :: steps) node =
      match s.part? node with
      | none | some .null => .absent
      | some part => follow steps part := by
  cases s with
  | wildcard => exact absurd rfl hs
  | position number => cases node <;> rfl
  | key name => cases node <;> rfl
  | mapKey name => cases node <;> rfl
  | index place => cases node <;> rfl

theorem part?_key (name : String) (node : Json) : (Step.key name).part? node = node.field? name := by
  cases node <;> rfl

theorem follow_of_part? {part : Json} (hs : s ≠ .wildcard) (hpart : s.part? node = some part) (hnull : part ≠ .null)
    (steps : List Step) : follow (s :: steps) node = follow steps part := by
  rw [follow_of_ne_wildcard hs, hpart]
  cases part with
  | null => exact (hnull rfl).elim
  | _ => rfl

/-- A step that is no wildcard leads nowhere, as do all steps after it, or to one part that is not null. -/
theorem follow_cons (hs : s ≠ .wildcard) (steps : List Step) (node : Json) :
    (follow (s :: steps) node = .absent ∧ ∀ more, nodes (s :: more) node = []) ∨
      ∃ part, follow (s :: steps) node = follow steps part ∧ ∀ more, nodes (s :: more) node = nodes more part := by
  have hnodes (more : List Step) : nodes (s :: more) node = (s.part? node).toList.flatMap (nodes more) := by
    rw [nodes_cons, parts_eq_part? hs]
  rw [follow_of_ne_wildcard hs]
  split
  · next hnone =>
    refine Or.inl ⟨rfl, fun more => ?_⟩
    rw [hnodes, hnone]
    rfl
  · next hnull =>
    refine Or.inl ⟨rfl, fun more => ?_⟩
    rw [hnodes, hnull, Option.toList_some, List.flatMap_singleton, nodes_null]
  · next part _ hpart =>
    refine Or.inr ⟨part, rfl, fun more => ?_⟩
    rw [hnodes, hpart, Option.toList_some, List.flatMap_singleton]

theorem read_ne_list {text : String} {values : List Value} : Scalar.read text ≠ .list values := by
  intro h
  rcases Scalar.read_cases text with ⟨i, hread⟩ | ⟨x, hread⟩ | ⟨b, hread⟩ | ⟨d, hread⟩ | hread <;>
    exact nomatch hread.symm.trans h

/-- The value of a node is a list only if the node is one. -/
theorem ofJson_ne_list (hnode : ∀ items, node ≠ .array items) (values : List Value) :
    Value.ofJson node ≠ .list values := by
  intro h
  cases node with
  | array items => exact hnode items rfl
  | string text => exact read_ne_list h
  | number n =>
    cases n with
    | float x => cases h
    | whole i =>
      change Value.ofNumber (.whole i) = _ at h
      unfold Value.ofNumber at h
      split at h
      · next hi =>
        split at h <;> cases h
      · cases h
  | _ => cases h

/-- A node at the end of the steps adds to a joined list what it is joined as, if it is not null. -/
theorem elements_one (node : Json) : (Reached.one node).elements = (nodes [] node).flatMap joined := by
  rw [nodes_nil]
  by_cases hlist : ∃ items, node = .array items
  · obtain ⟨items, rfl⟩ := hlist
    show Value.ofItems items = items.map Value.ofJson ++ []
    rw [Value.ofItems_eq_map, List.append_nil]
  · have hne := ofJson_ne_list (fun items h => hlist ⟨items, h⟩)
    unfold Reached.elements
    cases node with
    | null => rfl
    | array items => exact absurd ⟨items, rfl⟩ hlist
    | _ =>
      dsimp only [Value.ofJson?]
      split
      · next h => cases h
      · next h => exact absurd (Option.some.inj h) (hne _)
      · next h => rw [← Option.some.inj h]; rfl

/-- What is found behind steps, as elements of a joined list, is what the nodes that they lead to add to it. -/
theorem elements_follow (steps : List Step) (node : Json) :
    (follow steps node).elements = (nodes steps node).flatMap joined := by
  induction steps generalizing node with
  | nil => exact elements_one node
  | cons s steps ih =>
    by_cases hs : s = .wildcard
    · subst hs
      cases node with
      | array items =>
        show (items.flatMap fun item => (follow steps item).elements) = _
        rw [nodes_cons, List.flatMap_assoc]
        exact congrArg (items.flatMap ·) (funext ih)
      | _ =>
        rw [nodes_cons]
        rfl
    · rcases follow_cons hs steps node with ⟨hfollow, hnodes⟩ | ⟨part, hfollow, hnodes⟩
      · rw [hfollow, hnodes]
        rfl
      · rw [hfollow, hnodes, ih]

/-- Without a wildcard, steps lead to one node or to none. -/
theorem follow_of_no_wildcard (h : .wildcard ∉ steps) (node : Json) :
    (follow steps node = .absent ∧ nodes steps node = []) ∨
      ∃ last, follow steps node = .one last ∧ nodes steps node = nodes [] last := by
  induction steps generalizing node with
  | nil => exact Or.inr ⟨node, rfl, rfl⟩
  | cons s steps ih =>
    have hs : s ≠ .wildcard := (List.ne_of_not_mem_cons h).symm
    have hsteps : .wildcard ∉ steps := List.not_mem_of_not_mem_cons h
    rcases follow_cons hs steps node with ⟨hfollow, hnodes⟩ | ⟨part, hfollow, hnodes⟩
    · exact Or.inl ⟨hfollow, hnodes steps⟩
    · rw [hfollow, hnodes]
      exact ih hsteps part

/-- With a wildcard, values are joined exactly if the steps before the first wildcard lead to a list. -/
theorem follow_of_wildcard (h : .wildcard ∈ steps) (node : Json) :
    follow steps node =
      match nodes (steps.takeWhile (· ≠ .wildcard)) node with
      | [.array _] => .many ((nodes steps node).flatMap joined)
      | _ => .absent := by
  induction steps generalizing node with
  | nil => exact absurd h List.not_mem_nil
  | cons s steps ih =>
    by_cases hs : s = .wildcard
    · subst hs
      rw [← elements_follow]
      cases node <;> rfl
    · have hrest : .wildcard ∈ steps := (List.mem_cons.mp h).resolve_left (Ne.symm hs)
      rw [List.takeWhile_cons_of_pos (by simpa using hs)]
      rcases follow_cons hs steps node with ⟨hfollow, hnodes⟩ | ⟨part, hfollow, hnodes⟩
      · rw [hfollow, hnodes]
      · rw [hfollow, hnodes, hnodes]
        exact ih hrest part

end Follow

theorem Path.extract_of_text {p : Path} {doc : Document} {text : String} (htext : text ≠ "")
    (h : follow p.steps doc = .one (.string text)) : p.extract doc = some (Scalar.read text) := by
  unfold Path.extract
  rw [h]
  split
  · next he => cases he
  · next he => cases he
  · next he =>
    cases he
    exact (htext rfl).elim
  · next he =>
    cases he
    rfl

/-- The value at a path. Without a wildcard it is the value of the one node that the path leads to, and absent if
    there is none. With a wildcard it is absent if the steps before the first wildcard do not lead to a list, and
    otherwise the list of what all nodes add, in order: the elements of those that are lists, which are not
    opened further, and the values of the others. -/
theorem extract_eq_of_nodes (p : Path) (doc : Document) :
    (p.extract doc =
      if .wildcard ∈ p.steps then
        match nodes (p.steps.takeWhile (· ≠ .wildcard)) doc with
        | [.array _] => some (.list ((nodes p.steps doc).flatMap joined))
        | _ => none
      else (nodes p.steps doc).head?.map p.nodeValue) ∧
    (.wildcard ∈ p.steps ∨ (nodes p.steps doc).length ≤ 1) := by
  by_cases h : .wildcard ∈ p.steps
  · refine ⟨?_, Or.inl h⟩
    rw [if_pos h]
    unfold Path.extract
    rw [follow_of_wildcard h]
    generalize nodes (p.steps.takeWhile (· ≠ .wildcard)) doc = front
    rcases front with _ | ⟨node, _ | ⟨_, _⟩⟩
    · rfl
    · cases node <;> rfl
    · cases node <;> rfl
  · rw [if_neg h]
    unfold Path.extract
    rcases follow_of_no_wildcard h doc with ⟨hfollow, hnodes⟩ | ⟨last, hfollow, hnodes⟩
    · rw [hfollow, hnodes]
      exact ⟨rfl, Or.inr (Nat.zero_le 1)⟩
    · rw [hfollow, hnodes, nodes_nil]
      refine ⟨?_, Or.inr (by split <;> simp)⟩
      cases last with
      | string text =>
        show _ = some (p.nodeValue (.string text))
        by_cases htext : text = ""
        · subst htext
          cases hentry : p.isMetadataEntry <;> simp [Path.nodeValue, hentry, Value.ofJson?]
        · simp [Path.nodeValue, htext, Value.ofJson?]
      | _ => rfl

end ClusterQuery
