import ClusterQuery.Predicate.Expr
import ClusterQuery.Predicate.Lexer
import ClusterQuery.Value.Scalar

/-!
Reading expressions from tokens: `or` binds weakest, then `and`, then `not`, then one comparison or test, then
operands. Each reader gives the tokens after what it read, with the fact that they are fewer.
-/

namespace ClusterQuery

namespace Predicate

/-- An expression and the tokens after it, fewer than those it began with. -/
structure Parsed (ts : List PlacedToken) where
  expr : Expr
  rest : List PlacedToken
  shorter : rest.length < ts.length

/-- An expression and the tokens after it, no more than those it began with. -/
structure ParsedUpTo (ts : List PlacedToken) where
  expr : Expr
  rest : List PlacedToken
  shorter : rest.length ≤ ts.length

/-- What was read from fewer tokens. -/
def Parsed.weaken {ts us : List PlacedToken} (p : Parsed us) (h : us.length ≤ ts.length) : Parsed ts :=
  ⟨p.expr, p.rest, Nat.lt_of_lt_of_le p.shorter h⟩

def ParsedUpTo.weaken {ts us : List PlacedToken} (p : ParsedUpTo us) (h : us.length < ts.length) : Parsed ts :=
  ⟨p.expr, p.rest, Nat.lt_of_le_of_lt p.shorter h⟩

/-! ### Single tokens -/

/-- The words that are no identifiers. -/
def keywords : List String :=
  ["and", "or", "not", "like", "ilike", "in", "is", "null", "between", "true", "false"]

/-- Whether a token is a keyword, in any case. -/
def isKeyword (keyword : String) : Token → Bool
  | .word w => lowerName w == keyword
  | _ => false

/-- The error of tokens that are not what was expected. -/
def unexpected (expected : Expectation) : List PlacedToken → Error
  | [] => .unexpectedEnd expected
  | t :: _ => .unexpectedToken t expected

/-- The tokens after one that satisfies `p`. -/
def eat (p : Token → Bool) : List PlacedToken → Option (List PlacedToken)
  | [] => none
  | t :: ts => if p t.token then some ts else none

theorem length_lt_of_eat {p : Token → Bool} {ts rest : List PlacedToken} (h : eat p ts = some rest) :
    rest.length < ts.length := by
  cases ts with
  | nil => cases h
  | cons t ts =>
    simp only [eat] at h
    split at h
    · cases h
      simp
    · cases h

/-- The comparison that a token stands for. -/
def compareOp? : Token → Option CompareOp
  | .symbol .eq => some .eq
  | .symbol .ne => some .ne
  | .symbol .lt => some .lt
  | .symbol .le => some .le
  | .symbol .gt => some .gt
  | .symbol .ge => some .ge
  | _ => none

/-- Whether a word begins like a number: with a digit, or with a sign or a point and a digit. -/
def startsNumeric (w : String) : Bool :=
  match w.toList with
  | [] => false
  | [c] => isDigit c
  | c :: d :: _ => isDigit c || ((c == '-' || c == '+' || c == '.') && isDigit d)

/-- The expression that a word alone stands for. -/
def wordExpr (offset : Nat) (w : String) : Except Error Expr :=
  match lowerName w with
  | "true" => .ok (.literal (.bool true))
  | "false" => .ok (.literal (.bool false))
  | "null" => .ok .null
  | lower =>
    if keywords.contains lower then .error (.unexpectedToken ⟨.word w, offset⟩ .operand)
    else if startsNumeric w then
      match Scalar.read w with
      | .text _ => .error (.invalidNumber offset w)
      | v => .ok (.literal v)
    else .ok (.ident w)

/-- Reads the quoted pattern of a match. -/
def readPattern (kind : PatternKind) (negated : Bool) (e : Expr) (ts : List PlacedToken) :
    Except Error (Parsed ts) :=
  match ts with
  | [] => .error (.unexpectedEnd .pattern)
  | ⟨.text s, _⟩ :: rest =>
    match Pattern.compile? kind s with
    | some pattern => .ok ⟨.isLike e pattern negated, rest, by simp⟩
    | none => .error (.invalidPattern s)
  | t :: _ => .error (.unexpectedToken t .pattern)

/-- Reads the rest of a test for null, after `is`. -/
def readNullTest (e : Expr) (ts : List PlacedToken) : Except Error (Parsed ts) :=
  let (negated, rest) := match eat (isKeyword "not") ts with
    | some rest => (true, rest)
    | none => (false, ts)
  match eat (isKeyword "null") rest with
  | some after =>
    if h : after.length < ts.length then .ok ⟨.isNull e negated, after, h⟩ else .error (unexpected .null rest)
  | none => .error (unexpected .null rest)

/-! ### Expressions -/

mutual

/-- Reads operands of `or`. -/
def parseOr (ts : List PlacedToken) : Except Error (Parsed ts) :=
  match parseAnd ts with
  | .error e => .error e
  | .ok ⟨a, rest, h⟩ =>
    match orTail a rest with
    | .error e => .error e
    | .ok p => .ok (p.weaken h)
termination_by 16 * ts.length + 6

/-- Reads on after an operand of `or`. -/
def orTail (a : Expr) (ts : List PlacedToken) : Except Error (ParsedUpTo ts) :=
  match _h : eat (fun t => isKeyword "or" t || t == .symbol .orOr) ts with
  | none => .ok ⟨a, ts, Nat.le_refl _⟩
  | some rest =>
    match parseAnd rest with
    | .error e => .error e
    | .ok ⟨b, after, h1⟩ =>
      match orTail (.or a b) after with
      | .error e => .error e
      | .ok p => .ok ⟨p.expr, p.rest, by have := length_lt_of_eat _h; have := p.shorter; omega⟩
termination_by 16 * ts.length + 7
decreasing_by
  · have := length_lt_of_eat _h
    omega
  · have := length_lt_of_eat _h
    omega

/-- Reads operands of `and`. -/
def parseAnd (ts : List PlacedToken) : Except Error (Parsed ts) :=
  match parseNot ts with
  | .error e => .error e
  | .ok ⟨a, rest, h⟩ =>
    match andTail a rest with
    | .error e => .error e
    | .ok p => .ok (p.weaken h)
termination_by 16 * ts.length + 5

/-- Reads on after an operand of `and`. -/
def andTail (a : Expr) (ts : List PlacedToken) : Except Error (ParsedUpTo ts) :=
  match _h : eat (fun t => isKeyword "and" t || t == .symbol .andAnd) ts with
  | none => .ok ⟨a, ts, Nat.le_refl _⟩
  | some rest =>
    match parseNot rest with
    | .error e => .error e
    | .ok ⟨b, after, h1⟩ =>
      match andTail (.and a b) after with
      | .error e => .error e
      | .ok p => .ok ⟨p.expr, p.rest, by have := length_lt_of_eat _h; have := p.shorter; omega⟩
termination_by 16 * ts.length + 7
decreasing_by
  · have := length_lt_of_eat _h
    omega
  · have := length_lt_of_eat _h
    omega

/-- Reads an operand of `and`: any number of `not` and a test. -/
def parseNot (ts : List PlacedToken) : Except Error (Parsed ts) :=
  match _h : eat (fun t => isKeyword "not" t || t == .symbol .bang) ts with
  | some rest =>
    match parseNot rest with
    | .error e => .error e
    | .ok ⟨a, after, h1⟩ => .ok ⟨.not a, after, by have := length_lt_of_eat _h; omega⟩
  | none => parseTest ts
termination_by 16 * ts.length + 4
decreasing_by
  · have := length_lt_of_eat _h
    omega
  · omega

/-- Reads an operand and what is asked of it. -/
def parseTest (ts : List PlacedToken) : Except Error (Parsed ts) :=
  match parseOperand ts with
  | .error e => .error e
  | .ok ⟨a, rest, h⟩ =>
    match testTail a rest with
    | .error e => .error e
    | .ok p => .ok (p.weaken h)
termination_by 16 * ts.length + 3

/-- Reads what is asked of an operand; it may be nothing. -/
def testTail (a : Expr) (ts : List PlacedToken) : Except Error (ParsedUpTo ts) :=
  match ts with
  | [] => .ok ⟨a, [], Nat.le_refl _⟩
  | t :: rest =>
    match compareOp? t.token with
    | some op =>
      match parseOperand rest with
      | .error e => .error e
      | .ok ⟨b, after, h⟩ => .ok ⟨.compare op a b, after, by simp; omega⟩
    | none =>
      let below {us : List PlacedToken} (h : us.length ≤ rest.length) (p : Parsed us) : ParsedUpTo (t :: rest) :=
        ⟨p.expr, p.rest, by have := p.shorter; simp; omega⟩
      if t.token = .symbol .regexMatch then (readPattern .regex false a rest).map (below (Nat.le_refl _))
      else if t.token = .symbol .regexNotMatch then (readPattern .regex true a rest).map (below (Nat.le_refl _))
      else if isKeyword "is" t.token then (readNullTest a rest).map (below (Nat.le_refl _))
      else if isKeyword "not" t.token then
        match wordTest a true rest with
        | .error e => .error e
        | .ok (some p) => .ok (below (Nat.le_refl _) p)
        | .ok none => .error (unexpected .setOrRange rest)
      else
        match wordTest a false (t :: rest) with
        | .error e => .error e
        | .ok (some p) => .ok ⟨p.expr, p.rest, Nat.le_of_lt p.shorter⟩
        | .ok none => .ok ⟨a, t :: rest, Nat.le_refl _⟩
termination_by 16 * ts.length + 7
decreasing_by
  all_goals
    simp only [List.length_cons]
    omega

/-- Reads a test that begins with `like`, `ilike`, `in` or `between`, if there is one. -/
def wordTest (a : Expr) (negated : Bool) (ts : List PlacedToken) : Except Error (Option (Parsed ts)) :=
  match ts with
  | [] => .ok none
  | t :: rest =>
    let above (p : Parsed rest) : Option (Parsed (t :: rest)) := some (p.weaken (by simp))
    if isKeyword "like" t.token then (readPattern .like negated a rest).map above
    else if isKeyword "ilike" t.token then (readPattern .ilike negated a rest).map above
    else if isKeyword "in" t.token then
      match parseSet rest with
      | .error e => .error e
      | .ok ⟨set, after, h⟩ => .ok (above ⟨.isIn a set negated, after, h⟩)
    else if isKeyword "between" t.token then
      match parseOperand rest with
      | .error e => .error e
      | .ok ⟨low, afterLow, h1⟩ =>
        match _h : eat (isKeyword "and") afterLow with
        | none => .error (unexpected .and afterLow)
        | some rest' =>
          match parseOperand rest' with
          | .error e => .error e
          | .ok ⟨high, after, h2⟩ =>
            .ok (above ⟨.between a low high negated, after, by have := length_lt_of_eat _h; omega⟩)
    else .ok none
termination_by 16 * ts.length + 6
decreasing_by
  · simp only [List.length_cons]
    omega
  · simp only [List.length_cons]
    omega
  · have := length_lt_of_eat _h
    simp only [List.length_cons]
    omega

/-- Reads a set: items in brackets or parentheses, or an operand. -/
def parseSet (ts : List PlacedToken) : Except Error (Parsed ts) :=
  match ts with
  | [] => parseOperand []
  | t :: rest =>
    if t.token = .symbol .leftBracket then
      match parseItems .rightBracket rest with
      | .error e => .error e
      | .ok p => .ok (p.weaken (by simp))
    else if t.token = .symbol .leftParen then
      match parseItems .rightParen rest with
      | .error e => .error e
      | .ok p => .ok (p.weaken (by simp))
    else parseOperand (t :: rest)
termination_by 16 * ts.length + 2
decreasing_by
  all_goals
    simp only [List.length_cons, List.length_nil]
    omega

/-- Reads the items of a list after its opening bracket. -/
def parseItems (close : Symbol) (ts : List PlacedToken) : Except Error (Parsed ts) :=
  match h : eat (· == .symbol close) ts with
  | some rest => .ok ⟨.list [], rest, length_lt_of_eat h⟩
  | none => moreItems close [] ts
termination_by 16 * ts.length + 9

/-- Reads an item after those in `items`, which are in reverse order, and on to the closing bracket. -/
def moreItems (close : Symbol) (items : List Expr) (ts : List PlacedToken) : Except Error (Parsed ts) :=
  match parseOperand ts with
  | .error e => .error e
  | .ok ⟨e, rest, h1⟩ =>
    match _h : eat (· == .symbol .comma) rest with
    | some next =>
      match moreItems close (e :: items) next with
      | .error e => .error e
      | .ok p => .ok (p.weaken (by have := length_lt_of_eat _h; omega))
    | none =>
      match h2 : eat (· == .symbol close) rest with
      | some after => .ok ⟨.list (e :: items).reverse, after, by have := length_lt_of_eat h2; omega⟩
      | none => .error (unexpected .commaOrClosing rest)
termination_by 16 * ts.length + 8
decreasing_by
  · omega
  · have := length_lt_of_eat _h
    omega

/-- Reads an expression after an opening parenthesis, and the closing one. -/
def parseInParens (ts : List PlacedToken) : Except Error (Parsed ts) :=
  match parseOr ts with
  | .error e => .error e
  | .ok ⟨e, rest, h1⟩ =>
    match h2 : eat (· == .symbol .rightParen) rest with
    | some after => .ok ⟨e, after, by have := length_lt_of_eat h2; omega⟩
    | none => .error (unexpected .closingParen rest)
termination_by 16 * ts.length + 7

/-- Reads an operand. A word before a parenthesis names a function. -/
def parseOperand (ts : List PlacedToken) : Except Error (Parsed ts) :=
  match ts with
  | [] => .error (.unexpectedEnd .operand)
  | ⟨.text s, _⟩ :: rest => .ok ⟨.literal (.text s), rest, by simp⟩
  | ⟨.symbol s, offset⟩ :: rest =>
    if s = .leftParen then
      match parseInParens rest with
      | .error e => .error e
      | .ok p => .ok (p.weaken (by simp))
    else if s = .leftBracket then
      match parseItems .rightBracket rest with
      | .error e => .error e
      | .ok p => .ok (p.weaken (by simp))
    else .error (.unexpectedToken ⟨.symbol s, offset⟩ .operand)
  | ⟨.word w, offset⟩ :: rest =>
    match _h : eat (· == .symbol .leftParen) rest with
    | some inner =>
      match Function.named? w with
      | none => .error (.unknownFunction offset w)
      | some f =>
        match parseInParens inner with
        | .error e => .error e
        | .ok ⟨e, after, h1⟩ => .ok ⟨.call f e, after, by have := length_lt_of_eat _h; simp; omega⟩
    | none => (wordExpr offset w).map fun e => ⟨e, rest, by simp⟩
termination_by 16 * ts.length + 1
decreasing_by
  · simp only [List.length_cons]
    omega
  · simp only [List.length_cons]
    omega
  · have := length_lt_of_eat _h
    simp only [List.length_cons]
    omega

end

/-- Reads a whole expression. -/
def parseAll (ts : List PlacedToken) : Except Error Expr :=
  match ts with
  | [] => .error .empty
  | t :: ts =>
    match parseOr (t :: ts) with
    | .error e => .error e
    | .ok ⟨e, [], _⟩ => .ok e
    | .ok ⟨_, t :: _, _⟩ => .error (.unexpectedToken t .endOfExpression)

end Predicate

end ClusterQuery
