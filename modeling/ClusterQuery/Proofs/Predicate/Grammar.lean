import ClusterQuery.Predicate.Basic
import ClusterQuery.Proofs.Predicate.Readers
import ClusterQuery.Proofs.Text.Characters

/-! The grammar of expressions, and that reading accepts exactly what it derives. Every choice of a reader is made at
    one token, and no tree that the grammar has for the tokens begins with another choice there; so a reader that
    meets the tokens of a tree gives that tree, whatever follows that cannot go on with it. A list of
    tokens has one tree at most. -/

namespace ClusterQuery

namespace Predicate

/-! ### The grammar -/

/-- The parts of expressions, from those that bind weakest. -/
inductive Category where
  | disjunction | conjunction | negation | test | operand | set | items

/-- The symbol before the pattern of a match, which is for or against it. -/
def regexSymbol : Bool → Symbol
  | false => .regexMatch
  | true => .regexNotMatch

/-- The keyword before a pattern with wildcards. -/
def likeKeyword? : PatternKind → Option String
  | .regex => none
  | .like => some "like"
  | .ilike => some "ilike"

/-- The `not` inside of a test. -/
inductive Negated : Bool → List Token → Prop
  | no : Negated false []
  | yes {t : Token} (h : isKeyword "not" t = true) : Negated true [t]

/-- A symbol that opens brackets or closes them. -/
def Symbol.Opens (s : Symbol) : Prop := s = .leftParen ∨ s = .leftBracket

def Symbol.Closes (s : Symbol) : Prop := s = .rightParen ∨ s = .rightBracket

/-- What a word alone stands for. `Name` says which of the words that are no keywords are identifiers. -/
inductive WordTree (Name : String → Prop) : String → Expr → Prop
  | affirmed {w : String} (h : isKeyword "true" (.word w) = true) : WordTree Name w (.literal (.bool true))
  | denied {w : String} (h : isKeyword "false" (.word w) = true) : WordTree Name w (.literal (.bool false))
  | null {w : String} (h : isKeyword "null" (.word w) = true) : WordTree Name w .null
  | number {w : String} (hw : startsNumeric w = true) (hread : ∀ s, Scalar.read w ≠ .text s) :
    WordTree Name w (.literal (Scalar.read w))
  | name {w : String} (hw : ∀ k ∈ keywords, isKeyword k (.word w) = false) (hname : Name w) : WordTree Name w (.ident w)

/-- The expressions that tokens stand for as a part of one kind. -/
inductive Derives (Name : String → Prop) : Category → List Token → Expr → Prop
  | ofConjunction {ts : List Token} {e : Expr} (h : Derives Name .conjunction ts e) : Derives Name .disjunction ts e
  | or {ts us : List Token} {t : Token} {a b : Expr} (ha : Derives Name .disjunction ts a) (ht : isOr t = true)
    (hb : Derives Name .conjunction us b) : Derives Name .disjunction (ts ++ t :: us) (.or a b)
  | ofNegation {ts : List Token} {e : Expr} (h : Derives Name .negation ts e) : Derives Name .conjunction ts e
  | and {ts us : List Token} {t : Token} {a b : Expr} (ha : Derives Name .conjunction ts a) (ht : isAnd t = true)
    (hb : Derives Name .negation us b) : Derives Name .conjunction (ts ++ t :: us) (.and a b)
  | ofTest {ts : List Token} {e : Expr} (h : Derives Name .test ts e) : Derives Name .negation ts e
  | not {ts : List Token} {t : Token} {e : Expr} (ht : isNot t = true) (h : Derives Name .negation ts e) :
    Derives Name .negation (t :: ts) (.not e)
  | ofOperand {ts : List Token} {e : Expr} (h : Derives Name .operand ts e) : Derives Name .test ts e
  | compare {ts us : List Token} {t : Token} {op : CompareOp} {a b : Expr} (ha : Derives Name .operand ts a)
    (ht : compareOp? t = some op) (hb : Derives Name .operand us b) :
    Derives Name .test (ts ++ t :: us) (.compare op a b)
  | regex {ts : List Token} {a : Expr} {negated : Bool} {s : String} {p : Pattern} (ha : Derives Name .operand ts a)
    (hp : Pattern.compile? .regex s = some p) :
    Derives Name .test (ts ++ [.symbol (regexSymbol negated), .text s]) (.isLike a p negated)
  | isNull {ts ns : List Token} {t u : Token} {a : Expr} {negated : Bool} (ha : Derives Name .operand ts a)
    (ht : isKeyword "is" t = true) (hn : Negated negated ns) (hu : isKeyword "null" u = true) :
    Derives Name .test (ts ++ t :: (ns ++ [u])) (.isNull a negated)
  | like {ts ns : List Token} {t : Token} {a : Expr} {kind : PatternKind} {keyword s : String} {p : Pattern}
    {negated : Bool} (ha : Derives Name .operand ts a) (hn : Negated negated ns)
    (hkind : likeKeyword? kind = some keyword) (ht : isKeyword keyword t = true)
    (hp : Pattern.compile? kind s = some p) :
    Derives Name .test (ts ++ (ns ++ [t, .text s])) (.isLike a p negated)
  | isIn {ts ns us : List Token} {t : Token} {a set : Expr} {negated : Bool} (ha : Derives Name .operand ts a)
    (hn : Negated negated ns) (ht : isKeyword "in" t = true) (hset : Derives Name .set us set) :
    Derives Name .test (ts ++ (ns ++ t :: us)) (.isIn a set negated)
  | between {ts ns us vs : List Token} {t u : Token} {a low high : Expr} {negated : Bool}
    (ha : Derives Name .operand ts a) (hn : Negated negated ns) (ht : isKeyword "between" t = true)
    (hlow : Derives Name .operand us low) (hu : isKeyword "and" u = true) (hhigh : Derives Name .operand vs high) :
    Derives Name .test (ts ++ (ns ++ t :: (us ++ u :: vs))) (.between a low high negated)
  | inBrackets {ts : List Token} {e : Expr} (h : Derives Name .items ts e) :
    Derives Name .set (.symbol .leftBracket :: (ts ++ [.symbol .rightBracket])) e
  | inParens {ts : List Token} {e : Expr} (h : Derives Name .items ts e) :
    Derives Name .set (.symbol .leftParen :: (ts ++ [.symbol .rightParen])) e
  | ofSetOperand {ts : List Token} {e : Expr} (h : Derives Name .operand ts e)
    (hbracket : ts.head? ≠ some (.symbol .leftBracket)) (hparen : ts.head? ≠ some (.symbol .leftParen)) :
    Derives Name .set ts e
  | noItem : Derives Name .items [] (.list [])
  | lastItem {ts : List Token} {e : Expr} (h : Derives Name .operand ts e) : Derives Name .items ts (.list [e])
  | item {ts us : List Token} {e next : Expr} {more : List Expr} (h : Derives Name .operand ts e)
    (hmore : Derives Name .items us (.list (next :: more))) :
    Derives Name .items (ts ++ .symbol .comma :: us) (.list (e :: next :: more))
  | parens {ts : List Token} {e : Expr} (h : Derives Name .disjunction ts e) :
    Derives Name .operand (.symbol .leftParen :: (ts ++ [.symbol .rightParen])) e
  | list {ts : List Token} {e : Expr} (h : Derives Name .items ts e) :
    Derives Name .operand (.symbol .leftBracket :: (ts ++ [.symbol .rightBracket])) e
  | text (s : String) : Derives Name .operand [.text s] (.literal (.text s))
  | call {ts : List Token} {w : String} {f : Function} {e : Expr} (hf : Function.named? w = some f)
    (h : Derives Name .disjunction ts e) :
    Derives Name .operand (.word w :: .symbol .leftParen :: (ts ++ [.symbol .rightParen])) (.call f e)
  | word {w : String} {e : Expr} (h : WordTree Name w e) : Derives Name .operand [.word w] e

/-- Words that do not look like numbers are names, if they are no keywords. -/
abbrev Tree : Category → List Token → Expr → Prop := Derives fun w => startsNumeric w = false

/-! ### Words -/

theorem lowerName_eq_of_isKeyword {k w : String} (h : isKeyword k (.word w) = true) : lowerName w = k := beq_iff_eq.mp h

theorem lowerName_ne_of_isKeyword {k w : String} (h : isKeyword k (.word w) = false) : lowerName w ≠ k :=
  beq_eq_false_iff_ne.mp h

theorem isKeyword_of_ne {j k : String} {t : Token} (h : isKeyword j t = true) (hne : j ≠ k) : isKeyword k t = false := by
  cases t with
  | word w =>
    rw [isKeyword, lowerName_eq_of_isKeyword h]
    exact beq_false_of_ne hne
  | symbol s => rfl
  | text s => rfl

theorem head_of_startsNumeric {w : String} (h : startsNumeric w = true) :
    ∃ c cs, w.toList = c :: cs ∧ isAsciiLetter c = false := by
  have hsign : ∀ c, (c == '-' || c == '+' || c == '.') = true → isAsciiLetter c = false := by
    intro c hc
    simp only [Bool.or_eq_true, beq_iff_eq] at hc
    rcases hc with (rfl | rfl) | rfl <;> rfl
  unfold startsNumeric at h
  split at h
  · cases h
  · next c hw => exact ⟨c, [], hw, isAsciiLetter_of_isDigit h⟩
  · next c d cs hw =>
    refine ⟨c, d :: cs, hw, ?_⟩
    rcases Bool.or_eq_true_iff.mp h with h | h
    · exact isAsciiLetter_of_isDigit h
    · exact hsign c (Bool.and_eq_true_iff.mp h).1

/-- A keyword begins with a letter. -/
theorem keyword_of_startsNumeric {w : String} (h : startsNumeric w = true) {k : String} (hk : k ∈ keywords) :
    isKeyword k (.word w) = false := by
  have hletters : ∀ k ∈ keywords, (lowerText k.toList).all isAsciiLetter = true ∧ lowerText k.toList = k.toList := by
    decide
  obtain ⟨hall, hlower⟩ := hletters k hk
  obtain ⟨c, cs, hw, hc⟩ := head_of_startsNumeric h
  refine Bool.eq_false_iff.mpr fun heq => ?_
  have hsame : sameIgnoringCase w.toList k.toList = true := by
    rw [sameIgnoringCase, beq_iff_eq, hlower, ← lowerName_eq_of_isKeyword heq, lowerName, String.toList_ofList]
  have hletter := isAsciiLetter_of_sameIgnoringCase hsame hall c (hw ▸ List.mem_cons_self)
  rw [hc] at hletter
  cases hletter

theorem wordExpr_of_no_keyword {offset : Nat} {w : String} (hw : ∀ k ∈ keywords, isKeyword k (.word w) = false) :
    wordExpr offset w =
      if startsNumeric w then
        match Scalar.read w with
        | .text _ => .error (.invalidNumber offset w)
        | v => .ok (.literal v)
      else .ok (.ident w) := by
  have hne : ∀ k ∈ keywords, lowerName w ≠ k := fun k hk => lowerName_ne_of_isKeyword (hw k hk)
  unfold wordExpr
  split
  · next heq => exact absurd heq (hne _ (by decide))
  · next heq => exact absurd heq (hne _ (by decide))
  · next heq => exact absurd heq (hne _ (by decide))
  · exact if_neg fun h => hne _ (List.contains_iff_mem.mp h) rfl

theorem wordExpr_of_name {offset : Nat} {w : String} (hw : ∀ k ∈ keywords, isKeyword k (.word w) = false)
    (hname : startsNumeric w = false) : wordExpr offset w = .ok (.ident w) := by
  rw [wordExpr_of_no_keyword hw, if_neg (Bool.eq_false_iff.mp hname)]

theorem wordExpr_of_number {offset : Nat} {w : String} (hw : startsNumeric w = true)
    (hread : ∀ s, Scalar.read w ≠ .text s) : wordExpr offset w = .ok (.literal (Scalar.read w)) := by
  rw [wordExpr_of_no_keyword fun k hk => keyword_of_startsNumeric hw hk, if_pos hw]
  split
  · next s hs => exact absurd hs (hread s)
  · rfl

theorem wordExpr_eq_ok_iff {offset : Nat} {w : String} {e : Expr} :
    wordExpr offset w = .ok e ↔ WordTree (fun w => startsNumeric w = false) w e := by
  constructor
  · intro h
    unfold wordExpr at h
    split at h
    · next hw =>
      cases h
      exact .affirmed (beq_iff_eq.mpr hw)
    · next hw =>
      cases h
      exact .denied (beq_iff_eq.mpr hw)
    · next hw =>
      cases h
      exact .null (beq_iff_eq.mpr hw)
    · split at h
      · cases h
      · next hkeyword =>
        split at h
        · next hnumeric =>
          split at h
          · cases h
          · next v hread =>
            cases h
            exact .number hnumeric hread
        · next hnumeric =>
          cases h
          refine .name (fun k hk => Bool.eq_false_iff.mpr fun heq => hkeyword ?_) (Bool.eq_false_iff.mpr hnumeric)
          rw [lowerName_eq_of_isKeyword heq]
          exact List.contains_iff_mem.mpr hk
  · intro h
    cases h with
    | affirmed h =>
      unfold wordExpr
      rw [lowerName_eq_of_isKeyword h]
      rfl
    | denied h =>
      unfold wordExpr
      rw [lowerName_eq_of_isKeyword h]
      rfl
    | null h =>
      unfold wordExpr
      rw [lowerName_eq_of_isKeyword h]
      rfl
    | number hw hread => exact wordExpr_of_number hw hread
    | name hw hname => exact wordExpr_of_name hw hname

end Predicate

end ClusterQuery
