import ClusterQuery.Proofs.Predicate.Membership
import ClusterQuery.Proofs.Predicate.Words
import ClusterQuery.Proofs.Value.Display

/-! What a cell shows can be typed into a condition. A text between single quotes, in which every backslash and every
    single quote stands after a backslash, is read as itself, and what a value is shown as equals the value. -/

namespace ClusterQuery

namespace Predicate

variable {cs rest : List Char}

/-- A character between single quotes: backslashes and the quotes themselves stand after a backslash. -/
def escapeQuote (c : Char) : List Char := if c = '\\' ∨ c = '\'' then ['\\', c] else [c]

/-- A text as a literal in single quotes. -/
def singleQuoted (cs : List Char) : List Char := '\'' :: (cs.flatMap escapeQuote ++ ['\''])

theorem readQuoted_singleQuoted (cs rest : List Char) :
    readQuoted '\'' (cs.flatMap escapeQuote ++ '\'' :: rest) = some (cs, cs.flatMap escapeQuote ++ ['\''], rest) := by
  induction cs with
  | nil => rfl
  | cons c cs ih =>
    rw [List.flatMap_cons, List.append_assoc, escapeQuote]
    split
    · rw [List.cons_append, List.singleton_append, readQuoted, ih]
      rfl
    · next hc =>
      rw [List.singleton_append, readQuoted.eq_def]
      split
      · next he => cases he
      · next he => exact (hc (.inl (List.cons.inj he).1)).elim
      · next he =>
        cases he
        rw [if_neg fun he => hc (.inr he), ih]
        rfl

/-- A literal in single quotes is one token, the text that it holds. -/
theorem tokensFrom_singleQuoted (cs : List Char) (offset : Nat) :
    tokensFrom offset (singleQuoted cs) = .ok [⟨.text (String.ofList cs), offset⟩] := by
  have hscan : scan offset '\'' (cs.flatMap escapeQuote ++ ['\'']) = .ok ⟨.text (String.ofList cs), singleQuoted cs, []⟩ :=
    scan_eq_ok_iff.mpr (.text rfl rfl (readQuoted_singleQuoted cs []))
  rw [singleQuoted, tokensFrom_of_scan rfl hscan, tokensFrom_nil]
  rfl

/-- The condition that an identifier equals a text. -/
def equalityText (x : String) (cs : List Char) : String := String.ofList (x.toList ++ " = ".toList ++ singleQuoted cs)

theorem parse_equalityText {x : String} (hx : IsIdentifier x) (cs : List Char) :
    parse (equalityText x cs) = .ok ⟨equalityText x cs, .compare .eq (.ident x) (.literal (.text (String.ofList cs)))⟩ := by
  have hspace : isBlank ' ' = true := rfl
  obtain ⟨ts, hts, htokens⟩ : ∃ ts, tokens (equalityText x cs).toList = .ok ts ∧
      tokensOf ts = [.word x] ++ .symbol .eq :: [.text (String.ofList cs)] := by
    have hscan (offset : Nat) : scan offset '=' (' ' :: singleQuoted cs) = .ok ⟨.symbol .eq, ['='], ' ' :: singleQuoted cs⟩ :=
      scan_eq_ok_iff.mpr (.symbol rfl)
    have hword := @IsIdentifier.tokensFrom_append (' ' :: '=' :: ' ' :: singleQuoted cs) x hx (fun c hc => by cases hc; rfl) 0
    rw [tokensFrom_blank hspace, tokensFrom_of_scan rfl (hscan _), tokensFrom_blank hspace, tokensFrom_singleQuoted] at hword
    have hsource : (equalityText x cs).toList = x.toList ++ ' ' :: '=' :: ' ' :: singleQuoted cs := by
      rw [equalityText, String.toList_ofList, List.append_assoc]
      rfl
    exact ⟨_, (congrArg tokens hsource).trans hword, rfl⟩
  refine parse_of_tree hts ?_
  rw [htokens]
  exact .ofConjunction (.ofNegation (.ofTest (.compare hx.tree rfl (.text _))))

variable {x : String} {v : Value}

/-- Let an identifier have a value that is neither null nor a list. The condition that it equals what the value is shown as
    is read and holds, whatever the other identifiers are. -/
theorem holds_of_display (hx : IsIdentifier x) (hnull : v ≠ .null) (hlist : ∀ items, v ≠ .list items)
    (hdate : ∀ d, v = .date d → d.OfClock) :
    ∃ p, parse (equalityText x v.display) = .ok p ∧ ∀ env : Environment, env x = .ok (some v) → p.holds env = .ok true := by
  refine ⟨_, parse_equalityText hx v.display, fun env henv => ?_⟩
  have hequal : compareHolds .eq (some v) (some (.text (String.ofList v.display))) = true := by
    rw [compareHolds_eq_of_present hnull Value.noConfusion, Value.same_comm]
    exact Value.same_display hnull hlist hdate
  have hsingle : ∀ items, some v ≠ some (.list items) := fun items h => hlist items (Option.some.inj h)
  have heval : (Expr.compare .eq (.ident x) (.literal (.text (String.ofList v.display)))).eval env = .ok (some (.bool true)) := by
    have hident : (Expr.ident x).eval env = .ok (some v) := henv
    rw [Expr.eval, hident]
    show Except.ok (some (broadcast (compareHolds .eq · (some (.text (String.ofList v.display)))) (some v))) = _
    rw [Expr.broadcast_of_single hsingle, hequal]
  rw [holds, evaluate, heval]
  rfl

/-- A leap second that a document has in another spelling, and a text with both characters that a literal escapes, at an
    identifier with a subscript. -/
theorem holds_of_display_of_leapSecond :
    (∃ p, parse "metadata.creationTimestamp = '2016-12-31T23:59:60.250Z'" = .ok p ∧ ∀ env : Environment,
      env "metadata.creationTimestamp" = .ok (some (Value.ofJson (.string "2016-12-31 18:59:60.25-05:00"))) →
        p.holds env = .ok true) ∧
    ∃ p, parse "annotations[\"it's\"] = 'C:\\\\it\\'s'" = .ok p ∧ ∀ env : Environment,
      env "annotations[\"it's\"]" = .ok (some (.text "C:\\it's")) → p.holds env = .ok true := by
  have hname {x : String} (hread : ∃ c cs, x.toList = c :: cs ∧ (endsWord c = false ∧ c ≠ '[') ∧ readWord .outside cs = some (cs, []))
      (hkeyword : ∀ k ∈ keywords, isKeyword k (.word x) = false) (hnumeric : startsNumeric x = false) : IsIdentifier x := by
    obtain ⟨c, cs, hx, hc, hread⟩ := hread
    exact isIdentifier_iff.mpr ⟨⟨c, cs, hx, hc, reads_of_readWord hread⟩, hkeyword, hnumeric⟩
  have hcreated : IsIdentifier "metadata.creationTimestamp" :=
    hname ⟨_, _, rfl, by decide +kernel, by decide +kernel⟩ (by decide +kernel) (by decide +kernel)
  have hannotation : IsIdentifier "annotations[\"it's\"]" :=
    hname ⟨_, _, rfl, by decide +kernel, by decide +kernel⟩ (by decide +kernel) (by decide +kernel)
  constructor
  · have hread : Scalar.read "2016-12-31 18:59:60.25-05:00" = .date ⟨17166, 86399, 1250000000⟩ :=
      Scalar.read_eq_date (by decide +kernel) (by decide +kernel) (by decide +kernel) (by decide +kernel)
    have hdate : Value.ofJson (.string "2016-12-31 18:59:60.25-05:00") = .date ⟨17166, 86399, 1250000000⟩ := hread
    have htext : equalityText "metadata.creationTimestamp" (Value.date ⟨17166, 86399, 1250000000⟩).display =
      "metadata.creationTimestamp = '2016-12-31T23:59:60.250Z'" := by decide +kernel
    rw [hdate, ← htext]
    exact holds_of_display hcreated (by simp) (by simp) fun d hd => Value.ofClock_of_ofJson (hdate.trans hd)
  · have htext : equalityText "annotations[\"it's\"]" (Value.text "C:\\it's").display =
      "annotations[\"it's\"] = 'C:\\\\it\\'s'" := by decide +kernel
    rw [← htext]
    exact holds_of_display hannotation (by simp) (by simp) (by simp)

end Predicate

end ClusterQuery
