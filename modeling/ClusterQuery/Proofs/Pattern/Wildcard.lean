import ClusterQuery.Pattern.Basic
import ClusterQuery.Proofs.Pattern.CaseVariants
import ClusterQuery.Proofs.Pattern.Matching
import ClusterQuery.Proofs.Pattern.Reading

/-! The language of wildcard patterns. A text belongs to it if it can be cut into pieces, one for each character of the
    pattern: a percent sign stands for any piece, an underscore for any one character, and every other character for
    itself or, where case does not count, for any character that folds to the same one. A compiled pattern matches
    exactly the texts of its language. -/

namespace ClusterQuery

namespace Wildcard

open Matching Regex

variable {ignoreCase : Bool} {c d : Char} {cs text : List Char} {before after : Option Char}

/-! ### The language -/

/-- Whether two characters are the same or, where case does not count, fold to the same one. -/
def SameChar (ignoreCase : Bool) (c d : Char) : Prop :=
  if ignoreCase then foldCode c.toNat = foldCode d.toNat else c = d

/-- The texts that a character of a wildcard pattern stands for. -/
def Stands (ignoreCase : Bool) (c : Char) (piece : List Char) : Prop :=
  if c = '%' then True
  else if c = '_' then ∃ d, piece = [d]
  else ∃ d, SameChar ignoreCase c d ∧ piece = [d]

/-- The texts that consist of pieces for the characters of a wildcard pattern, in order and with nothing left over. -/
def Denotes (ignoreCase : Bool) (cs text : List Char) : Prop :=
  ∃ pieces, text = pieces.flatten ∧ List.Forall₂ (Stands ignoreCase) cs pieces

theorem denotes_nil : Denotes ignoreCase [] text ↔ text = [] := by
  constructor
  · rintro ⟨_, rfl, hpieces⟩
    cases hpieces
    rfl
  · rintro rfl
    exact ⟨[], rfl, .nil⟩

theorem denotes_cons :
    Denotes ignoreCase (c :: cs) text ↔
      ∃ front back, text = front ++ back ∧ Stands ignoreCase c front ∧ Denotes ignoreCase cs back := by
  constructor
  · rintro ⟨_, rfl, hpieces⟩
    cases hpieces with
    | @cons _ piece _ pieces hpiece hpieces =>
      exact ⟨piece, pieces.flatten, List.flatten_cons, hpiece, pieces, rfl, hpieces⟩
  · rintro ⟨front, _, rfl, hfront, pieces, rfl, hpieces⟩
    exact ⟨front :: pieces, List.flatten_cons.symm, .cons hfront hpieces⟩

/-! ### The expression of a pattern -/

/-- The flags under which a wildcard pattern is read. -/
def flags (ignoreCase : Bool) : Flags := { ignoreCase, dotAll := true }

/-- What a character of a wildcard pattern stands for, as an expression. -/
def charRegex (ignoreCase : Bool) (c : Char) : Regex :=
  if c = '%' then .times (.chars .any) 0 none
  else if c = '_' then .chars .any
  else .chars ((flags ignoreCase).fold (.single c))

/-- The parts of the expression of a wildcard pattern from one of its characters on. -/
def charRegexes (ignoreCase : Bool) (cs : List Char) : List Regex := cs.map (charRegex ignoreCase) ++ [.look .textEnd]

theorem regexWith_charTree (ignoreCase : Bool) (c : Char) :
    (charTree c).regexWith (flags ignoreCase) = some (charRegex ignoreCase c, flags ignoreCase) := by
  unfold charTree charRegex
  split
  · rfl
  · split <;> rfl

theorem regexesWith_cons {f f' f'' : Flags} {t : Tree} {ts : List Tree} {r : Regex} {rs : List Regex}
    (h : t.regexWith f = some (r, f')) (hs : Tree.regexesWith f' ts = some (rs, f'')) :
    Tree.regexesWith f (t :: ts) = some (r :: rs, f'') := by
  rw [Tree.regexesWith, h, Option.bind_eq_bind, Option.bind_some]
  dsimp only
  rw [hs]
  rfl

theorem regexesWith_charTrees (ignoreCase : Bool) (cs : List Char) :
    Tree.regexesWith (flags ignoreCase) (cs.map charTree ++ [.look .dollar]) =
      some (charRegexes ignoreCase cs, flags ignoreCase) := by
  induction cs with
  | nil => rfl
  | cons c cs ih => exact regexesWith_cons (regexWith_charTree ignoreCase c) ih

theorem regexesWith_parts (ignoreCase : Bool) (cs : List Char) :
    Tree.regexesWith {} (parts ignoreCase cs) =
      some (.empty :: .look .textStart :: charRegexes ignoreCase cs, flags ignoreCase) := by
  have hflags : (Tree.flags (flagChange ignoreCase)).regexWith {} = some (.empty, flags ignoreCase) := by
    cases ignoreCase <;> rfl
  exact regexesWith_cons hflags (regexesWith_cons rfl (regexesWith_charTrees ignoreCase cs))

/-- The expression that a wildcard pattern is compiled to, if it is not too large. -/
theorem ofPattern?_patternText {r : Regex} (h : Regex.ofPattern? (patternText ignoreCase cs) = some r) :
    r = catAll (.empty :: .look .textStart :: charRegexes ignoreCase cs) := by
  rw [Regex.ofPattern?, parse?_patternText, Option.bind_some, Tree.regex?] at h
  split at h
  · rw [Tree.regexWith, regexesWith_parts] at h
    exact (Option.some.inj h).symm
  · cases h

/-! ### What the expression matches -/

theorem contains_fold : ((flags ignoreCase).fold (.single c)).contains d = true ↔ SameChar ignoreCase c d := by
  cases ignoreCase with
  | false => exact CharSet.contains_single.trans eq_comm
  | true =>
    have hsame : SameChar true c d ↔ c ∈ caseVariants d := mem_caseVariants_iff.symm
    rw [hsame]
    refine List.any_eq_true.trans ?_
    simp only [CharSet.contains_single, exists_eq_right]

theorem repeated_any (n : Nat) : Repeated (Regex.chars .any).Matches n before text after ↔ text.length = n := by
  induction n generalizing before text with
  | zero => exact List.length_eq_zero_iff.symm
  | succ n ih =>
    constructor
    · rintro ⟨_, back, rfl, ⟨c, -, rfl⟩, hback⟩
      simpa using ih.mp hback
    · intro h
      obtain ⟨c, back, rfl⟩ := List.exists_cons_of_length_eq_add_one h
      exact ⟨[c], back, rfl, ⟨c, rfl, rfl⟩, ih.mpr (Nat.succ.inj h)⟩

theorem matches_charRegex : (charRegex ignoreCase c).Matches before text after ↔ Stands ignoreCase c text := by
  unfold charRegex Stands
  split
  · refine iff_of_true ⟨text.length, Nat.zero_le _, fun _ h => (nomatch h), ?_⟩ trivial
    exact (repeated_any _).mpr rfl
  · split
    · exact exists_congr fun d => and_iff_right rfl
    · exact exists_congr fun d => and_congr_left fun _ => contains_fold

theorem matches_catAll_cons {r : Regex} {rs : List Regex} :
    (catAll (r :: rs)).Matches before text after ↔ Joined r.Matches (catAll rs).Matches before text after := by
  have hcons : catAll (r :: rs) = if catAll rs = .empty then r else .cat r (catAll rs) := rfl
  rw [hcons]
  split
  · next h =>
    rw [h]
    constructor
    · exact fun hr => ⟨text, [], (List.append_nil _).symm, hr, rfl⟩
    · rintro ⟨front, _, rfl, hr, rfl⟩
      rwa [List.append_nil]
  · rfl

/-- The expression from a character of the pattern on matches what the rest of the pattern denotes, up to the end of the
    text. -/
theorem matches_charRegexes :
    (catAll (charRegexes ignoreCase cs)).Matches before text after ↔ Denotes ignoreCase cs text ∧ after = none := by
  induction cs generalizing before text with
  | nil =>
    rw [denotes_nil]
    exact and_congr_right fun _ => Option.isNone_iff_eq_none
  | cons c cs ih =>
    have hcons : charRegexes ignoreCase (c :: cs) = charRegex ignoreCase c :: charRegexes ignoreCase cs := rfl
    rw [hcons, matches_catAll_cons, denotes_cons]
    constructor
    · rintro ⟨front, back, rfl, hfront, hback⟩
      obtain ⟨hback, hafter⟩ := ih.mp hback
      exact ⟨⟨front, back, rfl, matches_charRegex.mp hfront, hback⟩, hafter⟩
    · rintro ⟨⟨front, back, rfl, hfront, hback⟩, hafter⟩
      exact ⟨front, back, rfl, matches_charRegex.mpr hfront, ih.mpr ⟨hback, hafter⟩⟩

theorem inOrder_catAll {rs : List Regex} (h : ∀ r ∈ rs, r.InOrder) : (catAll rs).InOrder := by
  induction rs with
  | nil => trivial
  | cons r rs ih =>
    obtain ⟨hr, hrs⟩ := List.forall_mem_cons.mp h
    have hcons : catAll (r :: rs) = if catAll rs = .empty then r else .cat r (catAll rs) := rfl
    rw [hcons]
    split
    · exact hr
    · exact ⟨hr, ih hrs⟩

theorem inOrder_charRegex (ignoreCase : Bool) (c : Char) : (charRegex ignoreCase c).InOrder := by
  unfold charRegex
  split
  · exact ⟨trivial, fun _ h => nomatch h⟩
  · split <;> trivial

/-- The expression of a pattern matches a part of a text exactly if the pattern denotes the whole text: the conditions at
    its ends leave no other part. -/
theorem matchesIn_expression :
    (catAll (.empty :: .look .textStart :: charRegexes ignoreCase cs)).matchesIn text = true ↔
      Denotes ignoreCase cs text := by
  have horder : ∀ r ∈ .empty :: .look .textStart :: charRegexes ignoreCase cs, r.InOrder := by
    simp only [charRegexes, List.forall_mem_cons, List.forall_mem_append, List.forall_mem_map]
    exact ⟨trivial, trivial, fun c _ => inOrder_charRegex ignoreCase c, trivial, List.forall_mem_nil _⟩
  have hwhole : ∀ {before after text}, (catAll (.empty :: .look .textStart :: charRegexes ignoreCase cs)).Matches
      before text after ↔ before = none ∧ Denotes ignoreCase cs text ∧ after = none := by
    intro before after text
    rw [matches_catAll_cons]
    constructor
    · rintro ⟨_, text, rfl, rfl, hrest⟩
      obtain ⟨_, text, rfl, ⟨rfl, hstart⟩, hrest⟩ := matches_catAll_cons.mp hrest
      exact ⟨Option.isNone_iff_eq_none.mp hstart, matches_charRegexes.mp hrest⟩
    · rintro ⟨rfl, hrest⟩
      exact ⟨[], text, rfl, rfl, matches_catAll_cons.mpr ⟨[], text, rfl, ⟨rfl, rfl⟩, matches_charRegexes.mpr hrest⟩⟩
  rw [matchesIn_iff (inOrder_catAll horder)]
  constructor
  · rintro ⟨front, _, rfl, middle, rest, rfl, hmatches⟩
    obtain ⟨hfront, hdenotes, hrest⟩ := hwhole.mp hmatches
    rw [Option.or_none, List.getLast?_eq_none_iff] at hfront
    rw [List.head?_eq_none_iff] at hrest
    rwa [hfront, hrest, List.nil_append, List.append_nil]
  · exact fun hdenotes => ⟨[], text, rfl, text, [], (List.append_nil _).symm, hwhole.mpr ⟨rfl, hdenotes, rfl⟩⟩

/-- The kind of the wildcard patterns with or without regard to case. -/
def kind (ignoreCase : Bool) : PatternKind := if ignoreCase then .ilike else .like

/-- A wildcard pattern that is compiled matches a text exactly if the text can be cut into consecutive pieces that the
    characters of the pattern stand for. -/
theorem isMatch_iff_denotes {source : String} {p : Pattern} (h : Pattern.compile? (kind ignoreCase) source = some p)
    (text : List Char) : p.isMatch text = true ↔ Denotes ignoreCase source.toList text := by
  obtain ⟨r, hr, rfl⟩ := Option.map_eq_some_iff.mp h
  have htext : Pattern.expressionText (kind ignoreCase) source.toList = patternText ignoreCase source.toList := by
    cases ignoreCase <;> rfl
  rw [htext] at hr
  rw [Pattern.isMatch, ofPattern?_patternText hr, matchesIn_expression]

/-- The Kelvin sign folds to the letter k; the percent sign takes the rest of the text over the end of a line. -/
theorem isMatch_of_kelvin_sign :
    ∃ p, Pattern.compile? (kind true) "k_.%" = some p ∧ p.isMatch "\u212A!.\nx".toList = true := by
  have hcompiles : (Pattern.compile? (kind true) "k_.%").isSome = true := by decide +kernel
  obtain ⟨p, hp⟩ := Option.isSome_iff_exists.mp hcompiles
  refine ⟨p, hp, (isMatch_iff_denotes hp _).mpr ⟨[['\u212A'], ['!'], ['.'], ['\n', 'x']], rfl, ?_⟩⟩
  have hfold : SameChar true 'k' '\u212A' := show foldCode 0x6B = foldCode 0x212A by decide +kernel
  exact .cons ⟨'\u212A', hfold, rfl⟩ (.cons ⟨'!', rfl⟩ (.cons ⟨'.', rfl, rfl⟩ (.cons trivial .nil)))

end Wildcard

end ClusterQuery
