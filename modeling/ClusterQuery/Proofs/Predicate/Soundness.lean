import ClusterQuery.Proofs.Predicate.Grammar
import ClusterQuery.Proofs.Result

/-! What the readers of expressions give is a tree of the tokens that they take. -/

namespace ClusterQuery

namespace Predicate

/-- The tokens without their places. -/
def tokensOf (ts : List PlacedToken) : List Token := ts.map (·.token)

theorem tokensOf_eq_append_cons {ts : List PlacedToken} {vs ws : List Token} {token : Token}
    (h : tokensOf ts = vs ++ token :: ws) :
    ∃ as t bs, ts = as ++ t :: bs ∧ tokensOf as = vs ∧ t.token = token ∧ tokensOf bs = ws := by
  obtain ⟨as, bs', rfl, has, hbs'⟩ := List.map_eq_append_iff.mp h
  obtain ⟨t, bs, rfl, ht, hbs⟩ := List.map_eq_cons_iff.mp hbs'
  exact ⟨as, t, bs, rfl, has, ht, hbs⟩

theorem tokensOf_eq_group {ts : List PlacedToken} {first last : Token} {vs : List Token}
    (h : tokensOf ts = first :: (vs ++ [last])) :
    ∃ o as offset, ts = ⟨first, o⟩ :: (as ++ [⟨last, offset⟩]) ∧ tokensOf as = vs := by
  obtain ⟨⟨token, o⟩, us, rfl, rfl, hus⟩ := List.map_eq_cons_iff.mp h
  obtain ⟨as, bs, rfl, has, hbs⟩ := List.map_eq_append_iff.mp hus
  obtain ⟨⟨token, offset⟩, rfl, rfl⟩ := List.map_eq_singleton_iff.mp hbs
  exact ⟨o, as, offset, rfl, has⟩

/-- What was read is a tree of the tokens that were taken, with those in `before` in front of them. -/
def Found (c : Category) (before : List Token) (ts : List PlacedToken) (p : Reading) : Prop :=
  ∃ front, ts = front ++ p.2 ∧ Tree c (before ++ tokensOf front) p.1

/-- What was read is a tree of the tokens up to a closing symbol. -/
def FoundInside (c : Category) (close : Symbol) (ts : List PlacedToken) (p : Reading) : Prop :=
  ∃ front offset, ts = front ++ ⟨.symbol close, offset⟩ :: p.2 ∧ Tree c (tokensOf front) p.1

variable {c c' : Category} {before : List Token} {ts : List PlacedToken} {t : PlacedToken} {p q : Reading} {e : Expr}

theorem Found.here (h : Tree c before e) : Found c before ts (e, ts) :=
  ⟨[], rfl, by simpa [tokensOf] using h⟩

theorem Found.cons (h : Found c (before ++ [t.token]) ts p) : Found c before (t :: ts) p := by
  obtain ⟨front, rfl, htree⟩ := h
  exact ⟨t :: front, rfl, by simpa [tokensOf] using htree⟩

/-- A part that was read, and what was read from the tokens after it. -/
theorem Found.chain (h : Found c [] ts q) (hnext : ∀ us, Tree c us q.1 → Found c' (before ++ us) q.2 p) :
    Found c' before ts p := by
  obtain ⟨front, rfl, htree⟩ := h
  obtain ⟨more, hmore, htree'⟩ := hnext (tokensOf front) htree
  exact ⟨front ++ more, by rw [hmore, List.append_assoc], by simpa [tokensOf] using htree'⟩

/-- The same with a token in front of the part. -/
theorem Found.link (h : Found c [] ts q) (hnext : ∀ us, Tree c us q.1 → Found c' (before ++ t.token :: us) q.2 p) :
    Found c' before (t :: ts) p := by
  refine Found.cons (h.chain fun us hus => ?_)
  rw [List.append_assoc]
  exact hnext us hus

theorem FoundInside.found {close : Symbol} (h : FoundInside c close ts p)
    (htree : ∀ us, Tree c us p.1 → Tree c' (before ++ (us ++ [.symbol close])) e) : Found c' before ts (e, p.2) := by
  obtain ⟨front, offset, rfl, hfront⟩ := h
  exact ⟨front ++ [⟨.symbol close, offset⟩], by simp, by simpa [tokensOf] using htree _ hfront⟩

/-! ### Tests -/

theorem readPattern_sound {kind : PatternKind} {negated : Bool} (h : given (readPattern kind negated e ts) = some p) :
    ∃ s offset pattern, ts = ⟨.text s, offset⟩ :: p.2 ∧ Pattern.compile? kind s = some pattern ∧
      p.1 = .isLike e pattern negated := by
  rw [given_readPattern] at h
  split at h
  · next s offset rest =>
    obtain ⟨pattern, hpattern, rfl⟩ := Option.map_eq_some_iff.mp h
    exact ⟨s, offset, pattern, rfl, hpattern, rfl⟩
  · cases h

theorem skipNot_sound (ts : List PlacedToken) :
    ∃ front, ts = front ++ (skipNot ts).2 ∧ Negated (skipNot ts).1 (tokensOf front) := by
  unfold skipNot
  split
  · next rest heat =>
    obtain ⟨t, rfl, ht⟩ := exists_of_eat heat
    exact ⟨[t], rfl, .yes ht⟩
  · exact ⟨[], rfl, .no⟩

theorem readNullTest_sound (ha : Tree .operand before e) (ht : isKeyword "is" t.token = true)
    (h : given (readNullTest e ts) = some p) : Found .test before (t :: ts) p := by
  rw [given_readNullTest] at h
  obtain ⟨after, hnull, rfl⟩ := Option.map_eq_some_iff.mp h
  obtain ⟨ns, hns, hnegated⟩ := skipNot_sound ts
  obtain ⟨u, hu, hukey⟩ := exists_of_eat hnull
  refine ⟨t :: (ns ++ [u]), by rw [hns, hu]; simp, ?_⟩
  simpa [tokensOf] using Derives.isNull ha ht hnegated hukey

theorem like_sound {kind : PatternKind} {keyword : String} {negated : Bool} {ns : List Token}
    (ha : Tree .operand before e) (hn : Negated negated ns) (hkind : likeKeyword? kind = some keyword)
    (ht : isKeyword keyword t.token = true) (h : given (readPattern kind negated e ts) = some p) :
    Found .test (before ++ ns) (t :: ts) p := by
  obtain ⟨s, offset, pattern, rfl, hpattern, hp⟩ := readPattern_sound h
  refine ⟨[t, ⟨.text s, offset⟩], rfl, ?_⟩
  rw [hp]
  simpa [tokensOf] using Derives.like ha hn hkind ht hpattern

theorem regex_sound (negated : Bool) (ha : Tree .operand before e) (ht : t.token = .symbol (regexSymbol negated))
    (h : given (readPattern .regex negated e ts) = some p) : Found .test before (t :: ts) p := by
  obtain ⟨s, offset, pattern, rfl, hpattern, hp⟩ := readPattern_sound h
  refine ⟨[t, ⟨.text s, offset⟩], rfl, ?_⟩
  rw [hp]
  simpa [tokensOf, ht] using Derives.regex ha hpattern

/-! ### Expressions -/

mutual

theorem parseOr_sound {ts : List PlacedToken} {p : Reading} (h : given (parseOr ts) = some p) :
    Found .disjunction [] ts p := by
  rw [given_parseOr] at h
  obtain ⟨q, hq, htail⟩ := Option.bind_eq_some_iff.mp h
  have hlt := length_lt_of_given hq
  exact (parseAnd_sound hq).chain fun us hus => orTail_sound (.ofConjunction hus) htail
termination_by 16 * ts.length + 6

theorem orTail_sound {before : List Token} {a : Expr} {ts : List PlacedToken} {p : Reading}
    (ha : Tree .disjunction before a) (h : givenUpTo (orTail a ts) = some p) : Found .disjunction before ts p := by
  rw [given_orTail] at h
  split at h
  · cases h
    exact .here ha
  · next rest heat =>
    obtain ⟨t, rfl, ht⟩ := exists_of_eat heat
    obtain ⟨q, hq, htail⟩ := Option.bind_eq_some_iff.mp h
    have hlt := length_lt_of_given hq
    exact (parseAnd_sound hq).link fun us hus => orTail_sound (.or ha ht hus) htail
termination_by 16 * ts.length + 7
decreasing_by
  all_goals
    subst_vars
    simp only [List.length_cons]
    omega

theorem parseAnd_sound {ts : List PlacedToken} {p : Reading} (h : given (parseAnd ts) = some p) :
    Found .conjunction [] ts p := by
  rw [given_parseAnd] at h
  obtain ⟨q, hq, htail⟩ := Option.bind_eq_some_iff.mp h
  have hlt := length_lt_of_given hq
  exact (parseNot_sound hq).chain fun us hus => andTail_sound (.ofNegation hus) htail
termination_by 16 * ts.length + 5

theorem andTail_sound {before : List Token} {a : Expr} {ts : List PlacedToken} {p : Reading}
    (ha : Tree .conjunction before a) (h : givenUpTo (andTail a ts) = some p) : Found .conjunction before ts p := by
  rw [given_andTail] at h
  split at h
  · cases h
    exact .here ha
  · next rest heat =>
    obtain ⟨t, rfl, ht⟩ := exists_of_eat heat
    obtain ⟨q, hq, htail⟩ := Option.bind_eq_some_iff.mp h
    have hlt := length_lt_of_given hq
    exact (parseNot_sound hq).link fun us hus => andTail_sound (.and ha ht hus) htail
termination_by 16 * ts.length + 7
decreasing_by
  all_goals
    subst_vars
    simp only [List.length_cons]
    omega

theorem parseNot_sound {ts : List PlacedToken} {p : Reading} (h : given (parseNot ts) = some p) :
    Found .negation [] ts p := by
  rw [given_parseNot] at h
  split at h
  · next rest heat =>
    obtain ⟨t, rfl, ht⟩ := exists_of_eat heat
    obtain ⟨q, hq, rfl⟩ := Option.map_eq_some_iff.mp h
    exact (parseNot_sound hq).link fun us hus => .here (.not ht hus)
  · exact (parseTest_sound h).chain fun us hus => .here (.ofTest hus)
termination_by 16 * ts.length + 4
decreasing_by
  all_goals
    subst_vars
    try simp only [List.length_cons]
    omega

theorem parseTest_sound {ts : List PlacedToken} {p : Reading} (h : given (parseTest ts) = some p) :
    Found .test [] ts p := by
  rw [given_parseTest] at h
  obtain ⟨q, hq, htail⟩ := Option.bind_eq_some_iff.mp h
  have hlt := length_lt_of_given hq
  exact (parseOperand_sound hq).chain fun us hus => testTail_sound hus htail
termination_by 16 * ts.length + 3

theorem testTail_sound {before : List Token} {a : Expr} {ts : List PlacedToken} {p : Reading}
    (ha : Tree .operand before a) (h : givenUpTo (testTail a ts) = some p) : Found .test before ts p := by
  cases ts with
  | nil =>
    rw [given_testTail_nil] at h
    cases h
    exact .here (.ofOperand ha)
  | cons t rest =>
    rw [given_testTail_cons] at h
    split at h
    · next op hop =>
      obtain ⟨q, hq, rfl⟩ := Option.map_eq_some_iff.mp h
      exact (parseOperand_sound hq).link fun us hus => .here (.compare ha hop hus)
    · split at h
      · next ht => exact regex_sound false ha ht h
      · split at h
        · next ht => exact regex_sound true ha ht h
        · split at h
          · next ht => exact readNullTest_sound ha ht h
          · split at h
            · next ht =>
              obtain ⟨found, hfound, hp⟩ := Option.bind_eq_some_iff.mp h
              obtain rfl : found = some p := hp
              exact .cons (wordTest_sound ha (.yes ht) hfound)
            · obtain ⟨found, hfound, hp⟩ := Option.map_eq_some_iff.mp h
              cases found with
              | none =>
                cases hp
                exact .here (.ofOperand ha)
              | some q =>
                cases hp
                simpa using wordTest_sound ha .no hfound
termination_by 16 * ts.length + 7
decreasing_by
  all_goals
    subst_vars
    simp only [List.length_cons]
    omega

theorem wordTest_sound {before ns : List Token} {a : Expr} {negated : Bool} {ts : List PlacedToken} {p : Reading}
    (ha : Tree .operand before a) (hn : Negated negated ns)
    (h : givenIfAny (wordTest a negated ts) = some (some p)) : Found .test (before ++ ns) ts p := by
  cases ts with
  | nil =>
    rw [given_wordTest_nil] at h
    cases h
  | cons t rest =>
    rw [given_wordTest_cons] at h
    split at h
    · next ht =>
      obtain ⟨q, hq, hp⟩ := Option.map_eq_some_iff.mp h
      cases hp
      exact like_sound ha hn rfl ht hq
    · split at h
      · next ht =>
        obtain ⟨q, hq, hp⟩ := Option.map_eq_some_iff.mp h
        cases hp
        exact like_sound ha hn rfl ht hq
      · split at h
        · next ht =>
          obtain ⟨q, hq, hp⟩ := Option.map_eq_some_iff.mp h
          cases hp
          refine (parseSet_sound hq).link fun us hus => .here ?_
          rw [List.append_assoc]
          exact .isIn ha hn ht hus
        · split at h
          · next ht =>
            obtain ⟨low, hlow, h⟩ := Option.bind_eq_some_iff.mp h
            obtain ⟨mid, hmid, h⟩ := Option.bind_eq_some_iff.mp h
            obtain ⟨high, hhigh, hp⟩ := Option.map_eq_some_iff.mp h
            cases hp
            obtain ⟨u, hu, hand⟩ := exists_of_eat hmid
            have hlowLt := length_lt_of_given hlow
            have hmidLt := length_lt_of_eat hmid
            refine (parseOperand_sound hlow).link fun us hus => ?_
            rw [hu]
            refine (parseOperand_sound hhigh).link fun vs hvs => .here ?_
            simpa using Derives.between ha hn ht hus hand hvs
          · cases h
termination_by 16 * ts.length + 6
decreasing_by
  all_goals
    subst_vars
    simp only [List.length_cons]
    omega

theorem parseSet_sound {ts : List PlacedToken} {p : Reading} (h : given (parseSet ts) = some p) : Found .set [] ts p := by
  cases ts with
  | nil =>
    rw [given_parseSet_nil] at h
    cases h
  | cons t rest =>
    rw [given_parseSet_cons] at h
    split at h
    · next ht =>
      refine .cons ((parseItems_sound h).found fun us hus => ?_)
      rw [ht]
      exact .inBrackets hus
    · next hbracket =>
      split at h
      · next ht =>
        refine .cons ((parseItems_sound h).found fun us hus => ?_)
        rw [ht]
        exact .inParens hus
      · next hparen =>
        have hlt := length_lt_of_given h
        obtain ⟨front, hfront, htree⟩ := parseOperand_sound h
        -- An operand has a token at least, and the first of its tokens opens no list.
        cases front with
        | nil =>
          rw [hfront] at hlt
          exact absurd hlt (Nat.lt_irrefl _)
        | cons u us =>
          cases hfront
          exact ⟨t :: us, rfl, .ofSetOperand htree (fun heq => hbracket (Option.some.inj heq)) fun heq =>
            hparen (Option.some.inj heq)⟩
termination_by 16 * ts.length + 2
decreasing_by
  all_goals
    subst_vars
    simp only [List.length_cons]
    omega

theorem parseItems_sound {close : Symbol} {ts : List PlacedToken} {p : Reading}
    (h : given (parseItems close ts) = some p) : FoundInside .items close ts p := by
  rw [given_parseItems] at h
  split at h
  · next rest heat =>
    cases h
    obtain ⟨⟨token, offset⟩, rfl, ht⟩ := exists_of_eat heat
    obtain rfl : token = .symbol close := beq_iff_eq.mp ht
    exact ⟨[], offset, rfl, .noItem⟩
  · obtain ⟨front, offset, e, es, hts, hp, htree⟩ := moreItems_sound h
    exact ⟨front, offset, hts, by rw [hp]; exact htree⟩
termination_by 16 * ts.length + 9

/-- At least one more item was read after those that were there, the last of them first. -/
theorem moreItems_sound {close : Symbol} {items : List Expr} {ts : List PlacedToken} {p : Reading}
    (h : given (moreItems close items ts) = some p) :
    ∃ front offset e es, ts = front ++ ⟨.symbol close, offset⟩ :: p.2 ∧ p.1 = .list (items.reverse ++ e :: es) ∧
      Tree .items (tokensOf front) (.list (e :: es)) := by
  rw [given_moreItems] at h
  obtain ⟨q, hq, h⟩ := Option.bind_eq_some_iff.mp h
  have hlt := length_lt_of_given hq
  obtain ⟨front, hfront, htree⟩ := parseOperand_sound hq
  split at h
  · next next heat =>
    have hnext := length_lt_of_eat heat
    obtain ⟨⟨token, o⟩, hcomma, ht⟩ := exists_of_eat heat
    obtain rfl : token = .symbol .comma := beq_iff_eq.mp ht
    obtain ⟨more, offset, e, es, hmore, hp, hmoreTree⟩ := moreItems_sound h
    refine ⟨front ++ ⟨.symbol .comma, o⟩ :: more, offset, q.1, e :: es, ?_, by simp [hp], ?_⟩
    · rw [hfront, hcomma, hmore]
      simp
    · simpa [tokensOf] using Derives.item htree hmoreTree
  · obtain ⟨after, heat, rfl⟩ := Option.map_eq_some_iff.mp h
    obtain ⟨⟨token, offset⟩, hclose, ht⟩ := exists_of_eat heat
    obtain rfl : token = .symbol close := beq_iff_eq.mp ht
    exact ⟨front, offset, q.1, [], hclose ▸ hfront, by simp, .lastItem htree⟩
termination_by 16 * ts.length + 8

theorem parseInParens_sound {ts : List PlacedToken} {p : Reading} (h : given (parseInParens ts) = some p) :
    FoundInside .disjunction .rightParen ts p := by
  rw [given_parseInParens] at h
  obtain ⟨q, hq, h⟩ := Option.bind_eq_some_iff.mp h
  obtain ⟨after, heat, rfl⟩ := Option.map_eq_some_iff.mp h
  obtain ⟨⟨token, offset⟩, hclose, ht⟩ := exists_of_eat heat
  obtain rfl : token = .symbol .rightParen := beq_iff_eq.mp ht
  obtain ⟨front, hfront, htree⟩ := parseOr_sound hq
  exact ⟨front, offset, hclose ▸ hfront, htree⟩
termination_by 16 * ts.length + 7

theorem parseOperand_sound {ts : List PlacedToken} {p : Reading} (h : given (parseOperand ts) = some p) :
    Found .operand [] ts p := by
  cases ts with
  | nil =>
    rw [given_parseOperand_nil] at h
    cases h
  | cons t rest =>
    obtain ⟨token, offset⟩ := t
    cases token with
    | text s =>
      rw [given_parseOperand_text] at h
      cases h
      exact .cons (.here (.text s))
    | symbol s =>
      rw [given_parseOperand_symbol] at h
      split at h
      · next hs =>
        subst hs
        exact .cons ((parseInParens_sound h).found fun us hus => .parens hus)
      · split at h
        · next hs =>
          subst hs
          exact .cons ((parseItems_sound h).found fun us hus => .list hus)
        · cases h
    | word w =>
      rw [given_parseOperand_word] at h
      split at h
      · next inner heat =>
        obtain ⟨f, hf, h⟩ := Option.bind_eq_some_iff.mp h
        obtain ⟨q, hq, rfl⟩ := Option.map_eq_some_iff.mp h
        obtain ⟨⟨token, o⟩, rfl, ht⟩ := exists_of_eat heat
        obtain rfl : token = .symbol .leftParen := beq_iff_eq.mp ht
        exact .cons (.cons ((parseInParens_sound hq).found fun us hus => .call hf hus))
      · obtain ⟨e, he, rfl⟩ := Option.map_eq_some_iff.mp h
        exact .cons (.here (.word (wordExpr_eq_ok_iff.mp (Except.toOption_eq_some_iff.mp he))))
termination_by 16 * ts.length + 1
decreasing_by
  all_goals
    subst_vars
    simp only [List.length_cons]
    omega

end

end Predicate

end ClusterQuery
