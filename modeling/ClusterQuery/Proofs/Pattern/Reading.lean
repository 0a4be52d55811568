import ClusterQuery.Pattern.Basic
import Mathlib.Tactic.FinCases

/-! Reading a wildcard pattern as a regular expression. The text written for a character of the pattern is read as one
    part, whatever text follows it, so the tree of the whole text lists the parts in order. -/

namespace ClusterQuery

namespace PatternText

variable {done done' : List Tree} {c : Char} {rest rest' : List Char}

/-! ### Parts one by one -/

/-- The parts read so far and the text left after a character that opens neither a class, nor counts, nor a group with
    parts of its own. -/
def readFlat? (done : List Tree) (c : Char) (rest : List Char) : Option (List Tree × List Char) :=
  match Role.ofChar c with
  | .part t => some (t :: done, rest)
  | .repeats least most => (repeatLast? least most done).map (·, skipLazy rest)
  | .escapes => (readEscape false rest).map fun found => (found.val.1.tree :: done, found.val.2)
  | .opensGroup =>
    match readOpening false rest with
    | some (.flags change, after) => if verboseAfter false change then none else some (.flags change :: done, after)
    | _ => none
  | _ => none

/-- Parts are read in order, each to its end before the next begins. -/
theorem readParts_cons (h : readFlat? done c rest = some (done', rest')) :
    (readParts false done (c :: rest)).map Subtype.val = (readParts false done' rest').map Subtype.val := by
  unfold readFlat? at h
  rw [readParts]
  split
  · next hs => cases hs
  next c' rest'' hs =>
  obtain ⟨rfl, rfl⟩ := List.cons.inj hs
  dsimp only
  -- Either reader does what the role of the character says.
  split at h
  · next t hrole =>
    cases h
    rw [hrole]
    dsimp only
    cases readParts false (t :: done) rest <;> rfl
  · next least most hrole =>
    obtain ⟨last, hlast, he⟩ := Option.map_eq_some_iff.mp h
    obtain ⟨rfl, rfl⟩ := Prod.mk.inj he
    rw [hrole]
    dsimp only
    rw [hlast]
    dsimp only
    cases readParts false last (skipLazy rest) <;> rfl
  · next hrole =>
    obtain ⟨found, hfound, he⟩ := Option.map_eq_some_iff.mp h
    obtain ⟨rfl, rfl⟩ := Prod.mk.inj he
    rw [hrole]
    dsimp only
    rw [hfound]
    dsimp only
    cases readParts false (found.val.1.tree :: done) found.val.2 <;> rfl
  · next hrole =>
    rw [hrole]
    dsimp only
    split at h
    · next change after hopening =>
      split at h
      · cases h
      · next hverbose =>
        cases h
        rw [Bool.not_eq_true] at hverbose
        split <;> rename_i hopened <;> rw [hopening] at hopened <;> cases hopened
        rw [hverbose]
        cases readParts false (.flags change :: done) rest' <;> rfl
    · cases h
  · cases h

theorem readParts_nil (done : List Tree) :
    (readParts false done []).map Subtype.val = some ((done.reverse, false), []) := by
  rw [readParts]
  rfl

/-- A text that is read as parts to its end is read as those parts. -/
theorem parse?_of_readParts {parts : List Tree}
    (h : (readParts false [] rest).map Subtype.val = some ((parts, false), [])) :
    parse? rest = some (catOf parts) := by
  obtain ⟨⟨⟨⟨parts', verbose⟩, after⟩, hle⟩, hread, he⟩ := Option.map_eq_some_iff.mp h
  cases he
  rw [parse?, readBranches, hread]
  rfl

end PatternText

namespace Wildcard

open PatternText

variable {c : Char} {rest : List Char} (done : List Tree)

/-! ### The characters of a wildcard pattern -/

/-- What a character of a wildcard pattern stands for, as a tree. -/
def charTree (c : Char) : Tree :=
  if c = '%' then .times .dot 0 none else if c = '_' then .dot else .literal ⟨c, false⟩

theorem role_of_not_isMeta (h : isMeta c = false) : Role.ofChar c = .part (.literal ⟨c, false⟩) := by
  unfold Role.ofChar
  split <;> first | rfl | (exfalso; revert h; decide)

theorem readFlat?_of_isMeta (h : isMeta c = true) (rest : List Char) :
    readFlat? done '\\' (c :: rest) = some (.literal ⟨c, false⟩ :: done, rest) := by
  simp only [isMeta, List.contains_eq_mem, decide_eq_true_eq] at h
  fin_cases h <;> rfl

theorem readParts_literalText (c : Char) (rest : List Char) :
    (readParts false done (literalText c ++ rest)).map Subtype.val =
      (readParts false (.literal ⟨c, false⟩ :: done) rest).map Subtype.val := by
  by_cases hmeta : isMeta c = true
  · rw [literalText, if_pos hmeta]
    exact readParts_cons (readFlat?_of_isMeta done hmeta rest)
  · rw [literalText, if_neg hmeta]
    refine readParts_cons ?_
    rw [readFlat?, role_of_not_isMeta (Bool.eq_false_iff.mpr hmeta)]
    rfl

/-- What is written for a character is read as its tree. Of what follows only a question mark would be taken with it, as
    the mark of a lazy repetition. -/
theorem readParts_charText (c : Char) (h : skipLazy rest = rest) :
    (readParts false done (charText c ++ rest)).map Subtype.val =
      (readParts false (charTree c :: done) rest).map Subtype.val := by
  unfold charTree
  split
  · next hc =>
    rw [charText, if_pos hc]
    have hdot : readFlat? done '.' ('*' :: rest) = some (.dot :: done, '*' :: rest) := rfl
    refine (readParts_cons hdot).trans (readParts_cons ?_)
    rw [← congrArg (fun rest => some (_, rest)) h]
    rfl
  · next hrun =>
    split
    · next hc =>
      rw [charText, if_neg hrun, if_pos hc]
      exact readParts_cons rfl
    · next hone =>
      rw [charText, if_neg hrun, if_neg hone]
      exact readParts_literalText done c rest

/-- A question mark is written with a backslash before it. -/
theorem skipLazy_charText (c : Char) (rest : List Char) : skipLazy (charText c ++ rest) = charText c ++ rest := by
  unfold charText literalText
  split
  · rfl
  split
  · rfl
  split
  · rfl
  · next hmeta =>
    unfold skipLazy
    split
    · next h =>
      cases h
      exact absurd rfl hmeta
    · rfl

theorem skipLazy_text (cs : List Char) :
    skipLazy (cs.flatMap charText ++ ['$']) = cs.flatMap charText ++ ['$'] := by
  cases cs with
  | nil => rfl
  | cons c cs => rw [List.flatMap_cons, List.append_assoc, skipLazy_charText]

theorem readParts_text (cs : List Char) :
    (readParts false done (cs.flatMap charText ++ ['$'])).map Subtype.val =
      some ((done.reverse ++ cs.map charTree ++ [.look .dollar], false), []) := by
  induction cs generalizing done with
  | nil =>
    have hend : readFlat? done '$' [] = some (.look .dollar :: done, []) := rfl
    refine (readParts_cons hend).trans ((readParts_nil _).trans ?_)
    simp
  | cons c cs ih =>
    rw [List.flatMap_cons, List.append_assoc, readParts_charText done c (skipLazy_text cs), ih]
    simp

/-- The flags that a wildcard pattern is read under. -/
def flagChange (ignoreCase : Bool) : FlagChange :=
  if ignoreCase then [(.ignoreCase, true), (.dotAll, true)] else [(.dotAll, true)]

/-- The parts of the regular expression that a wildcard pattern is read as. -/
def parts (ignoreCase : Bool) (cs : List Char) : List Tree :=
  .flags (flagChange ignoreCase) :: .look .caret :: cs.map charTree ++ [.look .dollar]

/-- Every wildcard pattern is written as a regular expression with the intended parts. -/
theorem parse?_patternText (ignoreCase : Bool) (cs : List Char) :
    parse? (patternText ignoreCase cs) = some (.cat (parts ignoreCase cs)) := by
  have hread : (readParts false [] (patternText ignoreCase cs)).map Subtype.val =
      some ((parts ignoreCase cs, false), []) := by
    have hopen : readFlat? [] '(' ((patternText ignoreCase cs).drop 1) =
        some ([.flags (flagChange ignoreCase)], '^' :: (cs.flatMap charText ++ ['$'])) := by
      cases ignoreCase <;> rfl
    have hcaret : readFlat? [.flags (flagChange ignoreCase)] '^' (cs.flatMap charText ++ ['$']) =
        some ([.look .caret, .flags (flagChange ignoreCase)], cs.flatMap charText ++ ['$']) := rfl
    have hfirst : patternText ignoreCase cs = '(' :: (patternText ignoreCase cs).drop 1 := by
      cases ignoreCase <;> rfl
    rw [hfirst, readParts_cons hopen, readParts_cons hcaret, readParts_text]
    rfl
  rw [parse?_of_readParts hread]
  rfl

end Wildcard

end ClusterQuery
