import ClusterQuery.Predicate.Basic
import ClusterQuery.Proofs.Predicate.Soundness
import Mathlib.Data.Set.Subsingleton

/-! The readers of expressions give every tree of the tokens, whatever comes after them that does not go on with
    the tree. Every choice of a reader is made at one token, and no tree of the tokens has another one there. So
    tokens have one tree at most, and a predicate is read exactly if its tokens have one. -/

namespace ClusterQuery

namespace Predicate

/-- A token that begins a test of the operand before it. -/
def beginsTest (t : Token) : Bool :=
  (compareOp? t).isSome || t == .symbol .regexMatch || t == .symbol .regexNotMatch || isKeyword "is" t ||
    isKeyword "not" t || isKeyword "like" t || isKeyword "ilike" t || isKeyword "in" t || isKeyword "between" t

/-- The reader of a part gives `e` for its tokens, whatever comes after them that does not go on with the part. After
    operands of `or` and `and` the readers go on with the operators. -/
def Readable : Category → List PlacedToken → Expr → Prop
  | .disjunction, ts, e => ∀ rest, eat (· == .symbol .leftParen) rest = none → eat beginsTest rest = none →
    eat isAnd rest = none → given (parseOr (ts ++ rest)) = givenUpTo (orTail e rest)
  | .conjunction, ts, e => ∀ rest, eat (· == .symbol .leftParen) rest = none → eat beginsTest rest = none →
    given (parseAnd (ts ++ rest)) = givenUpTo (andTail e rest)
  | .negation, ts, e => ∀ rest, eat (· == .symbol .leftParen) rest = none → eat beginsTest rest = none →
    given (parseNot (ts ++ rest)) = some (e, rest)
  | .test, ts, e => ∀ rest, eat (· == .symbol .leftParen) rest = none → eat beginsTest rest = none →
    given (parseTest (ts ++ rest)) = some (e, rest)
  | .operand, ts, e => ∀ rest, eat (· == .symbol .leftParen) rest = none →
    given (parseOperand (ts ++ rest)) = some (e, rest)
  | .set, ts, e => ∀ rest, eat (· == .symbol .leftParen) rest = none → given (parseSet (ts ++ rest)) = some (e, rest)
  | .items, ts, e => (ts = [] ∧ e = .list []) ∨ ∃ es, e = .list es ∧ ∀ close offset items rest, close.Closes →
    given (moreItems close items (ts ++ ⟨.symbol close, offset⟩ :: rest)) = some (.list (items.reverse ++ es), rest)

variable {ts us rest : List PlacedToken} {t : PlacedToken} {a b e : Expr} {p : Token → Bool}

/-! ### What a token is not -/

theorem eat_cons (h : p t.token = true) : eat p (t :: ts) = some ts := if_pos h

theorem eat_cons_of_false (h : p t.token = false) : eat p (t :: ts) = none := if_neg (Bool.eq_false_iff.mp h)

theorem eat_symbol {s : Symbol} {offset : Nat} : eat (· == .symbol s) (⟨.symbol s, offset⟩ :: ts) = some ts :=
  eat_cons (beq_iff_eq.mpr rfl)

theorem exists_word_of_isKeyword {k : String} {t : Token} (h : isKeyword k t = true) : ∃ w, t = .word w := by
  cases t with
  | word w => exact ⟨w, rfl⟩
  | symbol s => cases h
  | text s => cases h

theorem eat_leftParen_of_isKeyword {k : String} (h : isKeyword k t.token = true) :
    eat (· == .symbol .leftParen) (t :: ts) = none := by
  obtain ⟨w, hw⟩ := exists_word_of_isKeyword h
  refine eat_cons_of_false ?_
  rw [hw]
  rfl

theorem eat_leftParen_of_symbol {s : Symbol} (h : t.token = .symbol s) (hs : s ≠ .leftParen) :
    eat (· == .symbol .leftParen) (t :: ts) = none := by
  refine eat_cons_of_false ?_
  rw [h]
  exact beq_false_of_ne fun heq => hs (Token.symbol.inj heq)

theorem eat_leftParen_of_compareOp? {op : CompareOp} (h : compareOp? t.token = some op) :
    eat (· == .symbol .leftParen) (t :: ts) = none := by
  refine eat_cons_of_false (beq_false_of_ne fun heq => ?_)
  rw [heq] at h
  cases h

theorem beginsTest_of_isKeyword {k : String} {t : Token} (h : isKeyword k t = true)
    (hk : k ∉ ["is", "not", "like", "ilike", "in", "between"]) : beginsTest t = false := by
  have hother : ∀ j ∈ ["is", "not", "like", "ilike", "in", "between"], isKeyword j t = false := fun j hj =>
    isKeyword_of_ne h fun heq => hk (heq ▸ hj)
  obtain ⟨w, rfl⟩ := exists_word_of_isKeyword h
  simp only [List.forall_mem_cons] at hother
  simp [beginsTest, compareOp?, hother]

/-- An operator between tests is nothing that goes on with a test. -/
theorem stops_of_isAnd (h : isAnd t.token = true) (ts : List PlacedToken) :
    eat (· == .symbol .leftParen) (t :: ts) = none ∧ eat beginsTest (t :: ts) = none := by
  rcases Bool.or_eq_true_iff.mp h with h | h
  · exact ⟨eat_leftParen_of_isKeyword h, eat_cons_of_false (beginsTest_of_isKeyword h (by decide))⟩
  · have ht := beq_iff_eq.mp h
    exact ⟨eat_leftParen_of_symbol ht (by decide), eat_cons_of_false (by rw [ht]; rfl)⟩

theorem stops_of_isOr (h : isOr t.token = true) (ts : List PlacedToken) :
    eat (· == .symbol .leftParen) (t :: ts) = none ∧ eat beginsTest (t :: ts) = none ∧ eat isAnd (t :: ts) = none := by
  rcases Bool.or_eq_true_iff.mp h with h | h
  · refine ⟨eat_leftParen_of_isKeyword h, eat_cons_of_false (beginsTest_of_isKeyword h (by decide)),
      eat_cons_of_false ?_⟩
    obtain ⟨w, hw⟩ := exists_word_of_isKeyword h
    rw [isAnd, isKeyword_of_ne h (by decide), hw]
    rfl
  · have ht := beq_iff_eq.mp h
    exact ⟨eat_leftParen_of_symbol ht (by decide), eat_cons_of_false (by rw [ht]; rfl), eat_cons_of_false (by rw [ht]; rfl)⟩

/-- A closing symbol is nothing that goes on with an item. -/
theorem stops_of_closes {close : Symbol} (h : close.Closes) (offset : Nat) (ts : List PlacedToken) :
    eat (· == .symbol .leftParen) (⟨.symbol close, offset⟩ :: ts) = none ∧
      eat (· == .symbol .comma) (⟨.symbol close, offset⟩ :: ts) = none := by
  rcases h with rfl | rfl <;> exact ⟨rfl, rfl⟩

/-! ### Operands begin with nothing else -/

theorem given_parseOperand_closes {close : Symbol} {offset : Nat} (h : close.Closes) :
    given (parseOperand (⟨.symbol close, offset⟩ :: ts)) = none := by
  rw [given_parseOperand_symbol]
  rcases h with rfl | rfl <;> rfl

/-- No operand begins with `not`, so that `not` in front of a test negates the test. -/
theorem eat_isNot_of_given_parseOperand {p : Reading} (h : given (parseOperand ts) = some p) : eat isNot ts = none := by
  cases ts with
  | nil => rfl
  | cons t rest =>
    refine eat_cons_of_false (Bool.eq_false_iff.mpr fun hnot => ?_)
    obtain ⟨token, offset⟩ := t
    rcases Bool.or_eq_true_iff.mp hnot with hnot | hnot
    · obtain ⟨w, rfl⟩ := exists_word_of_isKeyword hnot
      have hw := lowerName_eq_of_isKeyword hnot
      rw [given_parseOperand_word] at h
      split at h
      · rw [Function.named?, hw] at h
        cases h
      · rw [wordExpr, hw] at h
        cases h
    · obtain rfl : token = .symbol .bang := beq_iff_eq.mp hnot
      rw [given_parseOperand_symbol] at h
      cases h

/-! ### Tests -/

theorem given_testTail_of_stops (h : eat beginsTest ts = none) : givenUpTo (testTail a ts) = some (a, ts) := by
  cases ts with
  | nil => exact given_testTail_nil a
  | cons t rest =>
    have ht : beginsTest t.token = false := by
      rw [Bool.eq_false_iff]
      intro ht
      rw [eat_cons ht] at h
      cases h
    simp only [beginsTest, Bool.or_eq_false_iff, beq_eq_false_iff_ne, Option.isSome_eq_false_iff,
      Option.isNone_iff_eq_none] at ht
    obtain ⟨⟨⟨⟨⟨⟨⟨⟨hcompare, hregex⟩, hregexNot⟩, his⟩, hnot⟩, hlike⟩, hilike⟩, hin⟩, hbetween⟩ := ht
    simp [given_testTail_cons, given_wordTest_cons, hcompare, hregex, hregexNot, his, hnot, hlike, hilike, hin, hbetween]

theorem Negated.cases {ns : List PlacedToken} {negated : Bool} (h : Negated negated (tokensOf ns)) :
    (negated = false ∧ ns = []) ∨ ∃ n, negated = true ∧ ns = [n] ∧ isKeyword "not" n.token = true := by
  generalize hus : tokensOf ns = us at h
  cases h with
  | no => exact .inl ⟨rfl, List.map_eq_nil_iff.mp hus⟩
  | yes hnot =>
    obtain ⟨n, rfl, rfl⟩ := List.map_eq_singleton_iff.mp hus
    exact .inr ⟨n, rfl, rfl, hnot⟩

/-- A keyword after an operand is `is`, `not` or the beginning of a test with words. -/
theorem given_testTail_keyword {k : String} (ht : isKeyword k t.token = true) :
    givenUpTo (testTail a (t :: ts)) =
      if isKeyword "is" t.token then given (readNullTest a ts)
      else if isKeyword "not" t.token then (givenIfAny (wordTest a true ts)).bind id
      else (givenIfAny (wordTest a false (t :: ts))).map fun found => found.getD (a, t :: ts) := by
  rw [given_testTail_cons]
  obtain ⟨token, offset⟩ := t
  obtain ⟨w, rfl⟩ := exists_word_of_isKeyword ht
  rfl

theorem given_testTail_of_wordTest {k : String} {ns : List PlacedToken} {negated : Bool} {p : Reading}
    (hn : Negated negated (tokensOf ns)) (ht : isKeyword k t.token = true) (hk : k ∉ ["is", "not"])
    (h : givenIfAny (wordTest a negated (t :: ts)) = some (some p)) : givenUpTo (testTail a (ns ++ t :: ts)) = some p := by
  have hother : ∀ j ∈ ["is", "not"], isKeyword j t.token = false := fun j hj =>
    isKeyword_of_ne ht fun heq => hk (heq ▸ hj)
  rcases hn.cases with ⟨rfl, rfl⟩ | ⟨n, rfl, rfl, hnot⟩
  · rw [List.nil_append, given_testTail_keyword ht, hother _ (by decide), hother _ (by decide), h]
    rfl
  · rw [List.cons_append, List.nil_append, given_testTail_keyword hnot, isKeyword_of_ne hnot (by decide), hnot, h]
    rfl

theorem given_testTail_null {ns : List PlacedToken} {u : PlacedToken} {negated : Bool} (ht : isKeyword "is" t.token = true)
    (hn : Negated negated (tokensOf ns)) (hu : isKeyword "null" u.token = true) :
    givenUpTo (testTail a (t :: (ns ++ u :: ts))) = some (.isNull a negated, ts) := by
  have hskip : skipNot (ns ++ u :: ts) = (negated, u :: ts) := by
    unfold skipNot
    rcases hn.cases with ⟨rfl, rfl⟩ | ⟨n, rfl, rfl, hnot⟩
    · rw [List.nil_append, eat_cons_of_false (isKeyword_of_ne hu (by decide))]
    · rw [List.cons_append, List.nil_append, eat_cons hnot]
  rw [given_testTail_keyword ht, if_pos ht, given_readNullTest, hskip, eat_cons hu]
  rfl

theorem given_readPattern_text {kind : PatternKind} {negated : Bool} {s : String} {offset : Nat} {pattern : Pattern}
    (h : Pattern.compile? kind s = some pattern) :
    given (readPattern kind negated a (⟨.text s, offset⟩ :: ts)) = some (.isLike a pattern negated, ts) := by
  rw [given_readPattern]
  simp only [h, Option.map_some]

theorem given_testTail_regex {negated : Bool} {s : String} {offset : Nat} {pattern : Pattern}
    (ht : t.token = .symbol (regexSymbol negated)) (h : Pattern.compile? .regex s = some pattern) :
    givenUpTo (testTail a (t :: ⟨.text s, offset⟩ :: ts)) = some (.isLike a pattern negated, ts) := by
  rw [given_testTail_cons, ht]
  cases negated <;> exact given_readPattern_text h

theorem not_mem_of_likeKeyword? {kind : PatternKind} {keyword : String} (h : likeKeyword? kind = some keyword) :
    keyword ∉ ["is", "not"] := by
  cases kind <;> cases h <;> decide

theorem given_wordTest_like {kind : PatternKind} {keyword s : String} {negated : Bool} {offset : Nat} {pattern : Pattern}
    (hkind : likeKeyword? kind = some keyword) (ht : isKeyword keyword t.token = true)
    (h : Pattern.compile? kind s = some pattern) :
    givenIfAny (wordTest a negated (t :: ⟨.text s, offset⟩ :: ts)) = some (some (.isLike a pattern negated, ts)) := by
  rw [given_wordTest_cons]
  cases kind with
  | regex => cases hkind
  | like =>
    cases hkind
    rw [if_pos ht, given_readPattern_text h]
    rfl
  | ilike =>
    cases hkind
    rw [isKeyword_of_ne ht (by decide), if_neg Bool.false_ne_true, if_pos ht, given_readPattern_text h]
    rfl

theorem given_wordTest_in {set : Expr} {negated : Bool} (ht : isKeyword "in" t.token = true)
    (h : given (parseSet us) = some (set, rest)) :
    givenIfAny (wordTest a negated (t :: us)) = some (some (.isIn a set negated, rest)) := by
  rw [given_wordTest_cons, isKeyword_of_ne ht (by decide), isKeyword_of_ne ht (by decide), ht, h]
  rfl

theorem given_wordTest_between {low high : Expr} {negated : Bool} {u : PlacedToken} {vs : List PlacedToken}
    (ht : isKeyword "between" t.token = true) (hlow : given (parseOperand us) = some (low, u :: vs))
    (hu : isKeyword "and" u.token = true) (hhigh : given (parseOperand vs) = some (high, rest)) :
    givenIfAny (wordTest a negated (t :: us)) = some (some (.between a low high negated, rest)) := by
  rw [given_wordTest_cons, isKeyword_of_ne ht (by decide), isKeyword_of_ne ht (by decide),
    isKeyword_of_ne ht (by decide), ht, hlow]
  simp [eat_cons hu, hhigh]

/-! ### Operands -/

theorem Readable.parseItems {close : Symbol} {offset : Nat} (h : Readable .items ts e) (hclose : close.Closes) :
    given (parseItems close (ts ++ ⟨.symbol close, offset⟩ :: rest)) = some (e, rest) := by
  rw [given_parseItems]
  rcases h with ⟨rfl, rfl⟩ | ⟨es, rfl, h⟩
  · rw [List.nil_append, eat_symbol]
  · have hitems := h close offset [] rest hclose
    -- The first item does not begin with the closing symbol.
    cases heat : eat (· == .symbol close) (ts ++ ⟨.symbol close, offset⟩ :: rest) with
    | none => exact hitems
    | some after =>
      obtain ⟨⟨token, o⟩, hts, ht⟩ := exists_of_eat heat
      obtain rfl : token = .symbol close := beq_iff_eq.mp ht
      rw [hts, given_moreItems, given_parseOperand_closes hclose] at hitems
      cases hitems

theorem Readable.parseInParens {offset : Nat} (h : Readable .disjunction ts e) :
    given (parseInParens (ts ++ ⟨.symbol .rightParen, offset⟩ :: rest)) = some (e, rest) := by
  rw [given_parseInParens, h _ rfl rfl rfl, given_orTail]
  rfl

/-! ### Every tree is read -/

theorem Readable.or (ha : Readable .disjunction ts a) (ht : isOr t.token = true) (hb : Readable .conjunction us b) :
    Readable .disjunction (ts ++ t :: us) (.or a b) := by
  intro rest hparen htest hand
  obtain ⟨hparen', htest', hand'⟩ := stops_of_isOr ht (us ++ rest)
  rw [List.append_assoc, List.cons_append, ha _ hparen' htest' hand', given_orTail, eat_cons ht]
  show (given (parseAnd (us ++ rest))).bind _ = _
  rw [hb rest hparen htest, given_andTail, hand]
  rfl

theorem Readable.and (ha : Readable .conjunction ts a) (ht : isAnd t.token = true) (hb : Readable .negation us b) :
    Readable .conjunction (ts ++ t :: us) (.and a b) := by
  intro rest hparen htest
  obtain ⟨hparen', htest'⟩ := stops_of_isAnd ht (us ++ rest)
  rw [List.append_assoc, List.cons_append, ha _ hparen' htest', given_andTail, eat_cons ht]
  show (given (parseNot (us ++ rest))).bind _ = _
  rw [hb rest hparen htest]
  rfl

theorem Readable.not (ht : isNot t.token = true) (h : Readable .negation ts e) : Readable .negation (t :: ts) (.not e) := by
  intro rest hparen htest
  rw [List.cons_append, given_parseNot, eat_cons ht]
  show (given (parseNot (ts ++ rest))).map _ = _
  rw [h rest hparen htest]
  rfl

theorem Readable.ofTest (h : Readable .test ts e) : Readable .negation ts e := by
  intro rest hparen htest
  have hread := h rest hparen htest
  have hnot : eat isNot (ts ++ rest) = none := by
    rw [given_parseTest] at hread
    obtain ⟨q, hq, -⟩ := Option.bind_eq_some_iff.mp hread
    exact eat_isNot_of_given_parseOperand hq
  rw [given_parseNot, hnot]
  exact hread

theorem Readable.parseTest {p : Reading} (ha : Readable .operand ts a) (hparen : eat (· == .symbol .leftParen) us = none)
    (h : givenUpTo (testTail a us) = some p) : given (parseTest (ts ++ us)) = some p := by
  rw [given_parseTest, ha us hparen]
  exact h

theorem Readable.compare {op : CompareOp} (ha : Readable .operand ts a) (ht : compareOp? t.token = some op)
    (hb : Readable .operand us b) : Readable .test (ts ++ t :: us) (.compare op a b) := by
  intro rest hparen _
  rw [List.append_assoc]
  refine ha.parseTest (eat_leftParen_of_compareOp? ht) ?_
  show givenUpTo (testTail a (t :: (us ++ rest))) = _
  rw [given_testTail_cons, ht]
  show (given (parseOperand (us ++ rest))).map _ = _
  rw [hb rest hparen]
  rfl

theorem Readable.wordTest {k : String} {ns : List PlacedToken} {negated : Bool} {p : Reading} (ha : Readable .operand ts a)
    (hn : Negated negated (tokensOf ns)) (ht : isKeyword k t.token = true) (hk : k ∉ ["is", "not"])
    (h : givenIfAny (wordTest a negated (t :: us)) = some (some p)) :
    given (Predicate.parseTest (ts ++ (ns ++ t :: us))) = some p := by
  refine ha.parseTest ?_ (given_testTail_of_wordTest hn ht hk h)
  rcases hn.cases with ⟨rfl, rfl⟩ | ⟨n, rfl, rfl, hnot⟩
  · exact eat_leftParen_of_isKeyword ht
  · exact eat_leftParen_of_isKeyword hnot

theorem Readable.between {ns vs : List PlacedToken} {u : PlacedToken} {low high : Expr} {negated : Bool}
    (ha : Readable .operand ts a) (hn : Negated negated (tokensOf ns)) (ht : isKeyword "between" t.token = true)
    (hlow : Readable .operand us low) (hu : isKeyword "and" u.token = true) (hhigh : Readable .operand vs high) :
    Readable .test (ts ++ (ns ++ t :: (us ++ u :: vs))) (.between a low high negated) := by
  intro rest hparen _
  rw [List.append_assoc, List.append_assoc, List.cons_append, List.append_assoc, List.cons_append]
  exact ha.wordTest hn ht (by decide)
    (given_wordTest_between ht (hlow _ (eat_leftParen_of_isKeyword hu)) hu (hhigh rest hparen))

theorem Readable.ofSetOperand (h : Readable .operand ts e) (hbracket : (tokensOf ts).head? ≠ some (.symbol .leftBracket))
    (hparen : (tokensOf ts).head? ≠ some (.symbol .leftParen)) : Readable .set ts e := by
  intro rest hrest
  have hread := h rest hrest
  cases ts with
  | nil => exact absurd (length_lt_of_given hread) (Nat.lt_irrefl _)
  | cons t ts =>
    rw [List.cons_append, given_parseSet_cons, if_neg fun ht => hbracket (congrArg some ht),
      if_neg fun ht => hparen (congrArg some ht)]
    exact hread

theorem Readable.lastItem (h : Readable .operand ts e) : Readable .items ts (.list [e]) := by
  refine .inr ⟨[e], rfl, fun close offset items rest hclose => ?_⟩
  obtain ⟨hparen, hcomma⟩ := stops_of_closes hclose offset rest
  rw [given_moreItems, h _ hparen, Option.bind_some, hcomma, eat_symbol]
  simp

theorem Readable.item {offset : Nat} {next : Expr} {more : List Expr} (h : Readable .operand ts e)
    (hmore : Readable .items us (.list (next :: more))) :
    Readable .items (ts ++ ⟨.symbol .comma, offset⟩ :: us) (.list (e :: next :: more)) := by
  rcases hmore with ⟨-, hempty⟩ | ⟨es, hes, hmore⟩
  · cases hempty
  · cases hes
    refine .inr ⟨_, rfl, fun close o items rest hclose => ?_⟩
    rw [List.append_assoc, List.cons_append, given_moreItems, h _ (eat_leftParen_of_symbol rfl (by decide)),
      Option.bind_some, eat_symbol]
    show given (moreItems close (e :: items) (us ++ ⟨.symbol close, o⟩ :: rest)) = _
    rw [hmore close o (e :: items) rest hclose]
    simp

/-- Whatever is a tree of the tokens is what is read from them. -/
theorem readable_of_tree {c : Category} {us : List Token} (h : Tree c us e) :
    ∀ {ts}, tokensOf ts = us → Readable c ts e := by
  -- Tokens of a tree are split as the tree is, and each part is read where the one before it ends.
  induction h with
  | ofConjunction _ ih =>
    intro ts hts rest hparen htest hand
    rw [given_parseOr, ih hts rest hparen htest, given_andTail, hand]
    rfl
  | or _ ht _ iha ihb =>
    intro ts hts
    obtain ⟨as, t, bs, rfl, has, rfl, hbs⟩ := tokensOf_eq_append_cons hts
    exact (iha has).or ht (ihb hbs)
  | ofNegation _ ih =>
    intro ts hts rest hparen htest
    rw [given_parseAnd, ih hts rest hparen htest]
    rfl
  | and _ ht _ iha ihb =>
    intro ts hts
    obtain ⟨as, t, bs, rfl, has, rfl, hbs⟩ := tokensOf_eq_append_cons hts
    exact (iha has).and ht (ihb hbs)
  | ofTest _ ih => exact fun hts => (ih hts).ofTest
  | not ht _ ih =>
    intro ts hts
    obtain ⟨t, us, rfl, rfl, hus⟩ := List.map_eq_cons_iff.mp hts
    exact (ih hus).not ht
  | ofOperand _ ih => exact fun hts rest hparen htest => (ih hts).parseTest hparen (given_testTail_of_stops htest)
  | compare _ hop _ iha ihb =>
    intro ts hts
    obtain ⟨as, t, bs, rfl, has, rfl, hbs⟩ := tokensOf_eq_append_cons hts
    exact (iha has).compare hop (ihb hbs)
  | @regex _ _ negated s _ _ hp iha =>
    intro ts hts rest _ _
    obtain ⟨as, t, us, rfl, has, ht, hus⟩ := tokensOf_eq_append_cons hts
    obtain ⟨⟨token, offset⟩, rfl, rfl⟩ := List.map_eq_singleton_iff.mp hus
    rw [List.append_assoc]
    exact (iha has).parseTest (eat_leftParen_of_symbol ht (by cases negated <;> decide)) (given_testTail_regex ht hp)
  | isNull _ ht hn hu iha =>
    intro ts hts rest _ _
    obtain ⟨as, t, bs, rfl, has, rfl, hbs⟩ := tokensOf_eq_append_cons hts
    obtain ⟨ns, u, us, rfl, rfl, rfl, hus⟩ := tokensOf_eq_append_cons hbs
    obtain rfl := List.map_eq_nil_iff.mp hus
    rw [List.append_assoc, List.cons_append, List.append_assoc]
    exact (iha has).parseTest (eat_leftParen_of_isKeyword ht) (given_testTail_null ht hn hu)
  | like _ hn hkind ht hp iha =>
    intro ts hts rest _ _
    obtain ⟨as, bs, rfl, has, hbs⟩ := List.map_eq_append_iff.mp hts
    obtain ⟨ns, t, us, rfl, rfl, rfl, hus⟩ := tokensOf_eq_append_cons hbs
    obtain ⟨⟨token, offset⟩, rfl, rfl⟩ := List.map_eq_singleton_iff.mp hus
    rw [List.append_assoc, List.append_assoc]
    exact (iha has).wordTest hn ht (not_mem_of_likeKeyword? hkind) (given_wordTest_like hkind ht hp)
  | isIn _ hn ht _ iha ihset =>
    intro ts hts rest hparen _
    obtain ⟨as, bs, rfl, has, hbs⟩ := List.map_eq_append_iff.mp hts
    obtain ⟨ns, t, us, rfl, rfl, rfl, hus⟩ := tokensOf_eq_append_cons hbs
    rw [List.append_assoc, List.append_assoc]
    exact (iha has).wordTest hn ht (by decide) (given_wordTest_in ht (ihset hus rest hparen))
  | between _ hn ht _ hu _ iha ihlow ihhigh =>
    intro ts hts
    obtain ⟨as, bs, rfl, has, hbs⟩ := List.map_eq_append_iff.mp hts
    obtain ⟨ns, t, us', rfl, rfl, rfl, hus'⟩ := tokensOf_eq_append_cons hbs
    obtain ⟨us, u, vs, rfl, hus, rfl, hvs⟩ := tokensOf_eq_append_cons hus'
    exact (iha has).between hn ht (ihlow hus) hu (ihhigh hvs)
  | inBrackets _ ih =>
    intro ts hts rest _
    obtain ⟨o, us, offset, rfl, hus⟩ := tokensOf_eq_group hts
    rw [List.cons_append, List.append_assoc, given_parseSet_cons]
    exact (ih hus).parseItems (.inr rfl)
  | inParens _ ih =>
    intro ts hts rest _
    obtain ⟨o, us, offset, rfl, hus⟩ := tokensOf_eq_group hts
    rw [List.cons_append, List.append_assoc, given_parseSet_cons]
    exact (ih hus).parseItems (.inl rfl)
  | ofSetOperand _ hbracket hparen ih =>
    intro ts hts
    exact (ih hts).ofSetOperand (hts ▸ hbracket) (hts ▸ hparen)
  | noItem => exact fun hts => .inl ⟨List.map_eq_nil_iff.mp hts, rfl⟩
  | lastItem _ ih => exact fun hts => (ih hts).lastItem
  | item _ _ ih ihmore =>
    intro ts hts
    obtain ⟨as, ⟨token, offset⟩, bs, rfl, has, rfl, hbs⟩ := tokensOf_eq_append_cons hts
    exact (ih has).item (ihmore hbs)
  | parens _ ih =>
    intro ts hts rest _
    obtain ⟨o, us, offset, rfl, hus⟩ := tokensOf_eq_group hts
    rw [List.cons_append, List.append_assoc, given_parseOperand_symbol]
    exact (ih hus).parseInParens
  | list _ ih =>
    intro ts hts rest _
    obtain ⟨o, us, offset, rfl, hus⟩ := tokensOf_eq_group hts
    rw [List.cons_append, List.append_assoc, given_parseOperand_symbol]
    exact (ih hus).parseItems (.inr rfl)
  | text s =>
    intro ts hts rest _
    obtain ⟨⟨token, offset⟩, rfl, rfl⟩ := List.map_eq_singleton_iff.mp hts
    exact given_parseOperand_text s offset rest
  | call hf _ ih =>
    intro ts hts rest _
    obtain ⟨⟨token, o⟩, us, rfl, rfl, hus⟩ := List.map_eq_cons_iff.mp hts
    obtain ⟨o', vs, offset, rfl, hvs⟩ := tokensOf_eq_group hus
    rw [List.cons_append, List.cons_append, List.append_assoc, given_parseOperand_word, eat_symbol]
    simp only [hf, Option.bind_some, List.cons_append, List.nil_append, (ih hvs).parseInParens, Option.map_some]
  | word h =>
    intro ts hts rest hparen
    obtain ⟨⟨token, offset⟩, rfl, rfl⟩ := List.map_eq_singleton_iff.mp hts
    rw [List.cons_append, List.nil_append, given_parseOperand_word, hparen, wordExpr_eq_ok_iff.mpr h]
    rfl

theorem given_parseOr_eq_some_iff {ts : List PlacedToken} :
    given (parseOr ts) = some (e, []) ↔ Tree .disjunction (tokensOf ts) e := by
  constructor
  · intro h
    obtain ⟨front, hfront, htree⟩ := parseOr_sound h
    rw [hfront, List.append_nil]
    exact htree
  · intro h
    have hread := readable_of_tree h rfl [] rfl rfl rfl
    rw [List.append_nil, given_orTail] at hread
    exact hread

theorem tree_subsingleton (us : List Token) : {e | Tree .disjunction us e}.Subsingleton := by
  intro a ha b hb
  -- The tokens have a tree wherever they stand.
  have hplaced : tokensOf (us.map fun t => ⟨t, 0⟩) = us := by
    rw [tokensOf, List.map_map]
    exact List.map_id us
  rw [← hplaced] at ha hb
  have hread := (given_parseOr_eq_some_iff.mpr ha).symm.trans (given_parseOr_eq_some_iff.mpr hb)
  exact congrArg Prod.fst (Option.some.inj hread)

theorem parse_of_tree {source : String} {ts : List PlacedToken} (hts : tokens source.toList = .ok ts)
    (htree : Tree .disjunction (tokensOf ts) e) : Predicate.parse source = .ok ⟨source, e⟩ := by
  have hall := parseAll_eq_ok_iff.mpr (given_parseOr_eq_some_iff.mpr htree)
  exact Except.bind_eq_ok_iff.mpr ⟨ts, hts, Except.bind_eq_ok_iff.mpr ⟨e, hall, rfl⟩⟩

/-- A predicate is read exactly if its text is cut into tokens and these have a tree, which is then the only one. -/
theorem parse_eq_ok_iff_tree :
    (∀ source e, Predicate.parse source = .ok ⟨source, e⟩ ↔
      ∃ ts, tokens source.toList = .ok ts ∧ Tree .disjunction (tokensOf ts) e) ∧
    ∀ us : List Token, {e | Tree .disjunction us e}.Subsingleton := by
  refine ⟨fun source e => ?_, tree_subsingleton⟩
  constructor
  · intro h
    obtain ⟨ts, hts, h⟩ := Except.bind_eq_ok_iff.mp h
    obtain ⟨e', he', h⟩ := Except.bind_eq_ok_iff.mp h
    cases h
    exact ⟨ts, hts, given_parseOr_eq_some_iff.mp (parseAll_eq_ok_iff.mp he')⟩
  · rintro ⟨ts, hts, htree⟩
    exact parse_of_tree hts htree

/-- A word that looks like a number and is none is no name either. -/
theorem not_parse_iff_tree_of_numeric_name :
    ¬∀ source e, Predicate.parse source = .ok ⟨source, e⟩ ↔ ∃ ts, tokens source.toList = .ok ts ∧
      Derives (fun w => ¬(startsNumeric w = true ∧ ∀ s, Scalar.read w ≠ .text s)) .disjunction (tokensOf ts) e := by
  intro h
  have htokens : tokens "5x".toList = .ok [⟨.word "5x", 0⟩] := by decide +kernel
  have hread : Predicate.parse "5x" = .error (.invalidNumber 0 "5x") := by
    rw [Predicate.parse, htokens]
    cbv
  have htext : Scalar.read "5x" = .text "5x" := rfl
  have hname : WordTree (fun w => ¬(startsNumeric w = true ∧ ∀ s, Scalar.read w ≠ .text s)) "5x" (.ident "5x") :=
    .name (by decide) fun hnumber => hnumber.2 _ htext
  have hparse := (h "5x" (.ident "5x")).mpr
    ⟨_, htokens, .ofConjunction (.ofNegation (.ofTest (.ofOperand (.word hname))))⟩
  rw [hread] at hparse
  cases hparse

end Predicate

end ClusterQuery
