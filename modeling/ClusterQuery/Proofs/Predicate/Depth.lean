import ClusterQuery.Proofs.Predicate.Soundness

/-! How deep in brackets tokens are. The tokens of a tree leave the depth as it was in front of them, so that the
    brackets of a whole predicate are closed. -/

namespace ClusterQuery

namespace Predicate

/-- The depth after a token; none after a bracket that closes nothing. -/
def Token.depthAfter (d : Nat) : Token → Option Nat
  | .symbol .leftParen | .symbol .leftBracket => some (d + 1)
  | .symbol .rightParen | .symbol .rightBracket =>
    match d with
    | 0 => none
    | d + 1 => some d
  | _ => some d

/-- The depth after tokens. -/
def depthAfter (d : Nat) : List PlacedToken → Option Nat
  | [] => some d
  | t :: ts => (t.token.depthAfter d).bind fun e => depthAfter e ts

/-- A token that keeps the depth. -/
def Token.Neutral (t : Token) : Prop := ∀ d, t.depthAfter d = some d

/-- Tokens that leave the depth as it was, wherever they stand. -/
def KeepsDepth (ts : List Token) : Prop := ∀ us : List PlacedToken, tokensOf us = ts → ∀ d, depthAfter d us = some d

variable {ts us : List Token} {t : Token}

/-! ### Single tokens -/

theorem neutral_word (w : String) : (Token.word w).Neutral := fun _ => rfl

theorem neutral_text (s : String) : (Token.text s).Neutral := fun _ => rfl

theorem neutral_of_isKeyword {keyword : String} (h : isKeyword keyword t = true) : t.Neutral := by
  cases t with
  | word w => exact neutral_word w
  | symbol s => cases h
  | text s => cases h

theorem neutral_of_compareOp? {op : CompareOp} (h : compareOp? t = some op) : t.Neutral := by
  cases t with
  | word w => cases h
  | text s => cases h
  | symbol s => cases s <;> first | exact fun _ => rfl | cases h

theorem neutral_of_keyword_or {keyword : String} {s : Symbol} (hs : (Token.symbol s).Neutral)
    (h : (isKeyword keyword t || t == .symbol s) = true) : t.Neutral := by
  rcases Bool.or_eq_true_iff.mp h with h | h
  · exact neutral_of_isKeyword h
  · obtain rfl := beq_iff_eq.mp h
    exact hs

/-! ### Lists of tokens -/

theorem depthAfter_append (us vs : List PlacedToken) (d : Nat) :
    depthAfter d (us ++ vs) = (depthAfter d us).bind fun e => depthAfter e vs := by
  induction us generalizing d with
  | nil => rfl
  | cons u us ih =>
    rw [List.cons_append, depthAfter, depthAfter, Option.bind_assoc]
    exact congrArg _ (funext ih)

theorem keepsDepth_nil : KeepsDepth [] := by
  intro us hus d
  obtain rfl := List.map_eq_nil_iff.mp hus
  rfl

theorem KeepsDepth.cons (ht : t.Neutral) (h : KeepsDepth ts) : KeepsDepth (t :: ts) := by
  intro us hus d
  obtain ⟨u, vs, rfl, rfl, hvs⟩ := List.map_eq_cons_iff.mp hus
  rw [depthAfter, ht d, Option.bind_some, h vs hvs]

theorem KeepsDepth.append (h : KeepsDepth ts) (h' : KeepsDepth us) : KeepsDepth (ts ++ us) := by
  intro vs hvs d
  obtain ⟨as, bs, rfl, has, hbs⟩ := List.map_eq_append_iff.mp hvs
  rw [depthAfter_append, h as has, Option.bind_some, h' bs hbs]

theorem KeepsDepth.group {s close : Symbol} (hopen : s.Opens) (hclose : close.Closes) (h : KeepsDepth ts) :
    KeepsDepth (.symbol s :: (ts ++ [.symbol close])) := by
  intro us hus d
  obtain ⟨o, as, offset, rfl, has⟩ := tokensOf_eq_group hus
  have hfirst : (Token.symbol s).depthAfter d = some (d + 1) := by
    rcases hopen with rfl | rfl <;> rfl
  have hlast : (Token.symbol close).depthAfter (d + 1) = some d := by
    rcases hclose with rfl | rfl <;> rfl
  rw [depthAfter, hfirst, Option.bind_some, depthAfter_append, h as has, Option.bind_some, depthAfter, hlast]
  rfl

theorem Negated.keepsDepth {negated : Bool} (h : Negated negated ts) : KeepsDepth ts := by
  cases h with
  | no => exact keepsDepth_nil
  | yes ht => exact .cons (neutral_of_isKeyword ht) keepsDepth_nil

/-! ### Expressions -/

theorem keepsDepth_of_derives {Name : String → Prop} {c : Category} {e : Expr} (h : Derives Name c ts e) :
    KeepsDepth ts := by
  -- Brackets stand in groups only, which close what they open.
  induction h with
  | ofConjunction _ ih | ofNegation _ ih | ofTest _ ih | ofOperand _ ih | lastItem _ ih => exact ih
  | ofSetOperand _ _ _ ih => exact ih
  | or _ ht _ iha ihb => exact iha.append (.cons (neutral_of_keyword_or (fun _ => rfl) ht) ihb)
  | and _ ht _ iha ihb => exact iha.append (.cons (neutral_of_keyword_or (fun _ => rfl) ht) ihb)
  | not ht _ ih => exact .cons (neutral_of_keyword_or (fun _ => rfl) ht) ih
  | compare _ hop _ iha ihb => exact iha.append (.cons (neutral_of_compareOp? hop) ihb)
  | @regex _ _ negated s _ _ _ iha =>
    have hsymbol : (Token.symbol (regexSymbol negated)).Neutral := by
      cases negated <;> exact fun _ => rfl
    exact iha.append (.cons hsymbol (.cons (neutral_text s) keepsDepth_nil))
  | isNull _ ht hn hu iha =>
    exact iha.append (.cons (neutral_of_isKeyword ht)
      (hn.keepsDepth.append (.cons (neutral_of_isKeyword hu) keepsDepth_nil)))
  | like _ hn _ ht _ iha =>
    exact iha.append (hn.keepsDepth.append (.cons (neutral_of_isKeyword ht) (.cons (neutral_text _) keepsDepth_nil)))
  | isIn _ hn ht _ iha ihset => exact iha.append (hn.keepsDepth.append (.cons (neutral_of_isKeyword ht) ihset))
  | between _ hn ht _ hu _ iha ihlow ihhigh =>
    exact iha.append (hn.keepsDepth.append (.cons (neutral_of_isKeyword ht)
      (ihlow.append (.cons (neutral_of_isKeyword hu) ihhigh))))
  | inBrackets _ ih | list _ ih => exact ih.group (.inr rfl) (.inr rfl)
  | inParens _ ih | parens _ ih => exact ih.group (.inl rfl) (.inl rfl)
  | noItem => exact keepsDepth_nil
  | item _ _ ih ihmore => exact ih.append (.cons (fun _ => rfl) ihmore)
  | text s => exact .cons (neutral_text s) keepsDepth_nil
  | call _ _ ih => exact .cons (neutral_word _) (ih.group (.inl rfl) (.inl rfl))
  | word _ => exact .cons (neutral_word _) keepsDepth_nil

theorem depthAfter_of_parseAll {ts : List PlacedToken} {e : Expr} (h : parseAll ts = .ok e) :
    depthAfter 0 ts = some 0 := by
  obtain ⟨front, hfront, htree⟩ := parseOr_sound (parseAll_eq_ok_iff.mp h)
  rw [List.append_nil] at hfront
  subst hfront
  exact keepsDepth_of_derives htree ts rfl 0

end Predicate

end ClusterQuery
