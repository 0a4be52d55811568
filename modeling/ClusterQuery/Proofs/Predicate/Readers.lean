import ClusterQuery.Predicate.Parser

/-! What readers of expressions give, apart from why they fail and from how much they leave. For each reader an
    equation says how it goes on from what the readers give that it calls. -/

namespace ClusterQuery

namespace Predicate

/-- What was read, and the tokens after it. -/
abbrev Reading : Type := Expr × List PlacedToken

/-- What a reader gives, if it does not fail. -/
def given {ts : List PlacedToken} : Except Error (Parsed ts) → Option Reading
  | .ok p => some (p.expr, p.rest)
  | .error _ => none

/-- What a reader gives that may read nothing. -/
def givenUpTo {ts : List PlacedToken} : Except Error (ParsedUpTo ts) → Option Reading
  | .ok p => some (p.expr, p.rest)
  | .error _ => none

/-- What a reader gives that may find that there is nothing for it. -/
def givenIfAny {ts : List PlacedToken} : Except Error (Option (Parsed ts)) → Option (Option Reading)
  | .ok p => some (p.map fun p => (p.expr, p.rest))
  | .error _ => none

variable {ts : List PlacedToken}

theorem given_ok (p : Parsed ts) : given (.ok p) = some (p.expr, p.rest) := rfl

theorem length_lt_of_given {r : Except Error (Parsed ts)} {p : Reading} (h : given r = some p) :
    p.2.length < ts.length := by
  cases r with
  | error e => cases h
  | ok q =>
    cases h
    exact q.shorter

theorem exists_of_eat {us : List PlacedToken} {p : Token → Bool} (h : eat p ts = some us) : ∃ t, ts = t :: us ∧ p t.token = true := by
  cases ts with
  | nil => cases h
  | cons t ts =>
    simp only [eat] at h
    split at h
    · next ht =>
      cases h
      exact ⟨t, rfl, ht⟩
    · cases h

/-- A token that joins operands of `or`. -/
def isOr (t : Token) : Bool := isKeyword "or" t || t == .symbol .orOr

/-- A token that joins operands of `and`. -/
def isAnd (t : Token) : Bool := isKeyword "and" t || t == .symbol .andAnd

/-- A token that negates what follows. -/
def isNot (t : Token) : Bool := isKeyword "not" t || t == .symbol .bang

/-! ### Chains of readers -/

theorem given_chain (r : Except Error (Parsed ts)) (tail : Expr → (us : List PlacedToken) → Except Error (ParsedUpTo us)) :
    given (match r with
        | .error e => .error e
        | .ok ⟨a, rest, h⟩ => match tail a rest with
          | .error e => .error e
          | .ok p => .ok (p.weaken h)) =
      (given r).bind fun p => givenUpTo (tail p.1 p.2) := by
  cases r with
  | error e => rfl
  | ok p =>
    dsimp only [given, Option.bind_some]
    cases tail p.expr p.rest <;> rfl

theorem givenUpTo_chain {rest : List PlacedToken} (hlt : rest.length < ts.length) (r : Except Error (Parsed rest))
    (tail : Expr → (us : List PlacedToken) → Except Error (ParsedUpTo us)) :
    givenUpTo (match r with
        | .error e => .error e
        | .ok ⟨b, after, _⟩ => match tail b after with
          | .error e => .error e
          | .ok p => (.ok ⟨p.expr, p.rest, by have := p.shorter; omega⟩ : Except Error (ParsedUpTo ts))) =
      (given r).bind fun p => givenUpTo (tail p.1 p.2) := by
  cases r with
  | error e => rfl
  | ok p =>
    dsimp only [given, Option.bind_some]
    cases tail p.expr p.rest <;> rfl

theorem given_weaken {us : List PlacedToken} (h : us.length ≤ ts.length) (r : Except Error (Parsed us)) :
    given (match r with
        | .error e => .error e
        | .ok p => .ok (p.weaken h : Parsed ts)) = given r := by
  cases r <;> rfl

/-! ### Operators -/

theorem given_parseOr (ts : List PlacedToken) :
    given (parseOr ts) = (given (parseAnd ts)).bind fun p => givenUpTo (orTail p.1 p.2) := by
  rw [parseOr]
  exact given_chain (parseAnd ts) orTail

theorem given_orTail (a : Expr) (ts : List PlacedToken) :
    givenUpTo (orTail a ts) =
      match eat isOr ts with
      | none => some (a, ts)
      | some rest => (given (parseAnd rest)).bind fun p => givenUpTo (orTail (.or a p.1) p.2) := by
  rw [orTail]
  split
  · next h =>
    rw [show eat isOr ts = none from h]
    rfl
  · next rest h =>
    rw [show eat isOr ts = some rest from h]
    exact givenUpTo_chain (length_lt_of_eat h) (parseAnd rest) fun b => orTail (.or a b)

theorem given_parseAnd (ts : List PlacedToken) :
    given (parseAnd ts) = (given (parseNot ts)).bind fun p => givenUpTo (andTail p.1 p.2) := by
  rw [parseAnd]
  exact given_chain (parseNot ts) andTail

theorem given_andTail (a : Expr) (ts : List PlacedToken) :
    givenUpTo (andTail a ts) =
      match eat isAnd ts with
      | none => some (a, ts)
      | some rest => (given (parseNot rest)).bind fun p => givenUpTo (andTail (.and a p.1) p.2) := by
  rw [andTail]
  split
  · next h =>
    rw [show eat isAnd ts = none from h]
    rfl
  · next rest h =>
    rw [show eat isAnd ts = some rest from h]
    exact givenUpTo_chain (length_lt_of_eat h) (parseNot rest) fun b => andTail (.and a b)

theorem given_parseNot (ts : List PlacedToken) :
    given (parseNot ts) =
      match eat isNot ts with
      | some rest => (given (parseNot rest)).map fun p => (.not p.1, p.2)
      | none => given (parseTest ts) := by
  rw [parseNot]
  split
  · next rest h =>
    rw [show eat isNot ts = some rest from h]
    dsimp only
    cases parseNot rest <;> rfl
  · next h => rw [show eat isNot ts = none from h]

theorem given_parseTest (ts : List PlacedToken) :
    given (parseTest ts) = (given (parseOperand ts)).bind fun p => givenUpTo (testTail p.1 p.2) := by
  rw [parseTest]
  exact given_chain (parseOperand ts) testTail

/-! ### Tests -/

theorem given_readPattern (kind : PatternKind) (negated : Bool) (e : Expr) (ts : List PlacedToken) :
    given (readPattern kind negated e ts) =
      match ts with
      | ⟨.text s, _⟩ :: rest => (Pattern.compile? kind s).map fun pattern => (.isLike e pattern negated, rest)
      | _ => none := by
  unfold readPattern
  split
  · rfl
  · next s offset rest =>
    dsimp only
    cases Pattern.compile? kind s <;> rfl
  · next t rest ht =>
    split
    · next s offset rest' h =>
      cases h
      exact absurd rfl (ht s offset)
    · rfl

/-- The tokens after an optional `not`, and whether it was there. -/
def skipNot (ts : List PlacedToken) : Bool × List PlacedToken :=
  match eat (isKeyword "not") ts with
  | some rest => (true, rest)
  | none => (false, ts)

theorem given_readNullTest (e : Expr) (ts : List PlacedToken) :
    given (readNullTest e ts) =
      (eat (isKeyword "null") (skipNot ts).2).map fun after => (.isNull e (skipNot ts).1, after) := by
  unfold readNullTest
  show given (match eat (isKeyword "null") (skipNot ts).2 with
    | some after => if h : after.length < ts.length then .ok ⟨.isNull e (skipNot ts).1, after, h⟩ else .error _
    | none => .error _) = _
  have hle : (skipNot ts).2.length ≤ ts.length := by
    unfold skipNot
    split
    · next rest h => exact Nat.le_of_lt (length_lt_of_eat h)
    · exact Nat.le_refl _
  cases hnull : eat (isKeyword "null") (skipNot ts).2 with
  | none => rfl
  | some after =>
    have hlt := length_lt_of_eat hnull
    dsimp only
    rw [dif_pos (by omega)]
    rfl

theorem given_testTail_nil (a : Expr) : givenUpTo (testTail a []) = some (a, []) := by
  rw [testTail]
  rfl

theorem given_testTail_cons (a : Expr) (t : PlacedToken) (rest : List PlacedToken) :
    givenUpTo (testTail a (t :: rest)) =
      match compareOp? t.token with
      | some op => (given (parseOperand rest)).map fun p => (.compare op a p.1, p.2)
      | none =>
        if t.token = .symbol .regexMatch then given (readPattern .regex false a rest)
        else if t.token = .symbol .regexNotMatch then given (readPattern .regex true a rest)
        else if isKeyword "is" t.token then given (readNullTest a rest)
        else if isKeyword "not" t.token then (givenIfAny (wordTest a true rest)).bind id
        else (givenIfAny (wordTest a false (t :: rest))).map fun found => found.getD (a, t :: rest) := by
  rw [testTail]
  cases compareOp? t.token with
  | some op =>
    dsimp only
    cases parseOperand rest <;> rfl
  | none =>
    dsimp only
    split
    · cases readPattern .regex false a rest <;> rfl
    · split
      · cases readPattern .regex true a rest <;> rfl
      · split
        · cases readNullTest a rest <;> rfl
        · split
          · cases wordTest a true rest with
            | error e => rfl
            | ok found => cases found <;> rfl
          · cases wordTest a false (t :: rest) with
            | error e => rfl
            | ok found => cases found <;> rfl

theorem given_wordTest_nil (a : Expr) (negated : Bool) : givenIfAny (wordTest a negated []) = some none := by
  rw [wordTest]
  rfl

theorem given_wordTest_cons (a : Expr) (negated : Bool) (t : PlacedToken) (rest : List PlacedToken) :
    givenIfAny (wordTest a negated (t :: rest)) =
      if isKeyword "like" t.token then (given (readPattern .like negated a rest)).map some
      else if isKeyword "ilike" t.token then (given (readPattern .ilike negated a rest)).map some
      else if isKeyword "in" t.token then
        (given (parseSet rest)).map fun p => some (.isIn a p.1 negated, p.2)
      else if isKeyword "between" t.token then
        (given (parseOperand rest)).bind fun low =>
          (eat (isKeyword "and") low.2).bind fun mid =>
            (given (parseOperand mid)).map fun high => some (.between a low.1 high.1 negated, high.2)
      else some none := by
  rw [wordTest]
  dsimp only
  split
  · cases readPattern .like negated a rest <;> rfl
  · split
    · cases readPattern .ilike negated a rest <;> rfl
    · split
      · cases parseSet rest <;> rfl
      · split
        · cases parseOperand rest with
          | error e => rfl
          | ok low =>
            obtain ⟨low, afterLow, hlow⟩ := low
            simp only [given_ok, Option.bind_some]
            split
            · next hand =>
              rw [hand]
              rfl
            · next mid hand =>
              simp only [hand, Option.bind_some]
              cases parseOperand mid <;> rfl
        · rfl

/-! ### Operands -/

theorem given_parseSet_nil : given (parseSet []) = none := by
  rw [parseSet, parseOperand]
  rfl

theorem given_parseSet_cons (t : PlacedToken) (rest : List PlacedToken) :
    given (parseSet (t :: rest)) =
      if t.token = .symbol .leftBracket then given (parseItems .rightBracket rest)
      else if t.token = .symbol .leftParen then given (parseItems .rightParen rest)
      else given (parseOperand (t :: rest)) := by
  rw [parseSet]
  split
  · exact given_weaken _ _
  · split
    · exact given_weaken _ _
    · rfl

theorem given_parseItems (close : Symbol) (ts : List PlacedToken) :
    given (parseItems close ts) =
      match eat (· == .symbol close) ts with
      | some rest => some (.list [], rest)
      | none => given (moreItems close [] ts) := by
  rw [parseItems]
  split
  · next rest h =>
    simp only [h]
    rfl
  · next h => rw [h]

theorem given_moreItems (close : Symbol) (items : List Expr) (ts : List PlacedToken) :
    given (moreItems close items ts) =
      (given (parseOperand ts)).bind fun p =>
        match eat (· == .symbol .comma) p.2 with
        | some next => given (moreItems close (p.1 :: items) next)
        | none => (eat (· == .symbol close) p.2).map fun after => (.list (p.1 :: items).reverse, after) := by
  rw [moreItems]
  cases parseOperand ts with
  | error e => rfl
  | ok p =>
    obtain ⟨e, rest, h⟩ := p
    simp only [given_ok, Option.bind_some]
    split
    · next next hcomma =>
      simp only [hcomma]
      exact given_weaken _ _
    · next hcomma =>
      simp only [hcomma]
      split
      · next after hclose =>
        simp only [hclose]
        rfl
      · next hclose =>
        rw [hclose]
        rfl

theorem given_parseInParens (ts : List PlacedToken) :
    given (parseInParens ts) =
      (given (parseOr ts)).bind fun p => (eat (· == .symbol .rightParen) p.2).map fun after => (p.1, after) := by
  rw [parseInParens]
  cases parseOr ts with
  | error e => rfl
  | ok p =>
    obtain ⟨e, rest, h⟩ := p
    simp only [given_ok, Option.bind_some]
    split
    · next after hclose =>
      simp only [hclose]
      rfl
    · next hclose =>
      rw [hclose]
      rfl

theorem given_parseOperand_nil : given (parseOperand []) = none := by
  rw [parseOperand]
  rfl

theorem given_parseOperand_text (s : String) (offset : Nat) (rest : List PlacedToken) :
    given (parseOperand (⟨.text s, offset⟩ :: rest)) = some (.literal (.text s), rest) := by
  rw [parseOperand]
  rfl

theorem given_parseOperand_symbol (s : Symbol) (offset : Nat) (rest : List PlacedToken) :
    given (parseOperand (⟨.symbol s, offset⟩ :: rest)) =
      if s = .leftParen then given (parseInParens rest)
      else if s = .leftBracket then given (parseItems .rightBracket rest)
      else none := by
  rw [parseOperand]
  split
  · exact given_weaken _ _
  · split
    · exact given_weaken _ _
    · rfl

theorem given_parseOperand_word (w : String) (offset : Nat) (rest : List PlacedToken) :
    given (parseOperand (⟨.word w, offset⟩ :: rest)) =
      match eat (· == .symbol .leftParen) rest with
      | some inner =>
        (Function.named? w).bind fun f => (given (parseInParens inner)).map fun p => (.call f p.1, p.2)
      | none => (wordExpr offset w).toOption.map fun e => (e, rest) := by
  rw [parseOperand]
  split
  · next inner h =>
    simp only [h]
    cases Function.named? w with
    | none => rfl
    | some f =>
      simp only [Option.bind_some]
      cases parseInParens inner <;> rfl
  · next h =>
    rw [h]
    cases wordExpr offset w <;> rfl

/-- A whole expression is one after which no token is left. -/
theorem parseAll_eq_ok_iff {e : Expr} : parseAll ts = .ok e ↔ given (parseOr ts) = some (e, []) := by
  unfold parseAll
  split
  · rw [given_parseOr, given_parseAnd, given_parseNot]
    simp [eat, given_parseTest, given_parseOperand_nil]
  · next t ts =>
    cases parseOr (t :: ts) with
    | error error => simp [given]
    | ok p =>
      obtain ⟨expr, rest, h⟩ := p
      cases rest <;> simp [given]

end Predicate

end ClusterQuery
