import ClusterQuery.Json.Printer
import ClusterQuery.Proofs.Number.Decimal

/-! Compact JSON is one line: no control character stands in it. Literals escape those that a text holds, and nothing
    else that is written holds one. -/

namespace ClusterQuery

/-- A text without control characters. -/
def OneLine (cs : List Char) : Prop := ∀ c ∈ cs, 0x20 ≤ c.toNat

instance (cs : List Char) : Decidable (OneLine cs) := inferInstanceAs (Decidable (∀ c ∈ cs, 0x20 ≤ c.toNat))

variable {cs ds : List Char} {c : Char}

theorem OneLine.append (hcs : OneLine cs) (hds : OneLine ds) : OneLine (cs ++ ds) :=
  List.forall_mem_append.mpr ⟨hcs, hds⟩

theorem OneLine.cons (hc : 0x20 ≤ c.toNat) (hcs : OneLine cs) : OneLine (c :: cs) :=
  List.forall_mem_cons.mpr ⟨hc, hcs⟩

theorem OneLine.newline_not_mem (h : OneLine cs) : '\n' ∉ cs := fun hmem => absurd (h '\n' hmem) (by decide)

/-! ### Numbers -/

theorem oneLine_of_digits (h : ∀ c ∈ cs, isDigit c = true) : OneLine cs := fun c hc =>
  Nat.le_trans (by decide) (toNat_of_isDigit (h c hc)).1

theorem oneLine_decimalText (i : Int) : OneLine (decimalText i) := by
  cases i with
  | ofNat n => exact oneLine_of_digits fun c hc => isDigit_of_mem_toDigits hc
  | negSucc n => exact .cons (by decide) (oneLine_of_digits fun c hc => isDigit_of_mem_toDigits hc)

namespace Binary64

theorem oneLine_of_isNumberChar (h : isNumberChar c = true) : 0x20 ≤ c.toNat := by
  rcases Bool.or_eq_true_iff.mp h with hdigit | hother
  · exact Nat.le_trans (by decide) (toNat_of_isDigit hdigit).1
  · exact (show OneLine ['-', '.', 'N', 'a', 'i', 'n', 'f'] by decide) c (List.contains_iff_mem.mp hother)

theorem oneLine_layoutExponent (signsExponent : Bool) {digits : List Char} (point : Int)
    (h : ∀ c ∈ digits, isDigit c = true) : OneLine (layoutExponent signsExponent digits point) := by
  have hdigits := oneLine_of_digits h
  have hsign (signs : Bool) : OneLine (if signs then ['+'] else []) := by cases signs <;> decide
  refine .append (.append ?_ (.cons (c := 'e') (by decide) (hsign _))) (oneLine_decimalText _)
  split
  · exact hdigits
  · exact hdigits
  · exact .cons (hdigits _ List.mem_cons_self)
      (.cons (c := '.') (by decide) fun c hc => hdigits c (List.mem_cons_of_mem _ hc))

theorem oneLine_layout (style : FloatStyle) {digits : List Char} (point : Int) (h : ∀ c ∈ digits, isDigit c = true) :
    OneLine (style.layout digits point) := by
  have hchoice (fixed : Bool) : OneLine (if fixed then layoutFixed style.keepsPoint digits point
      else layoutExponent style.signsExponent digits point) := by
    cases fixed with
    | true => exact fun c hc => oneLine_of_isNumberChar (isNumberChar_of_mem_layoutFixed h hc)
    | false => exact oneLine_layoutExponent _ point h
  exact hchoice _

theorem oneLine_render (style : FloatStyle) (x : Binary64) : OneLine (x.render style) :=
  forall_mem_render (fun _ => oneLine_of_isNumberChar) fun _ point => oneLine_layout style point

end Binary64

/-! ### Values -/

namespace Json

theorem oneLine_escape (c : Char) : OneLine (escape c) := by
  have hhex : ∀ n < 16, 0x20 ≤ (hexDigit n).toNat := by decide
  unfold escape
  split
  any_goals decide
  split
  · next hcontrol =>
    have hhigh := hhex (c.toNat / 16) (by omega)
    have hlow := hhex (c.toNat % 16) (Nat.mod_lt _ (by decide))
    exact .append (show OneLine ['\\', 'u', '0', '0'] by decide) (.cons hhigh (.cons hlow fun _ hc => nomatch hc))
  · next hcontrol => exact .cons (Nat.le_of_not_lt hcontrol) fun _ hc => nomatch hc

theorem oneLine_quote (s : String) : OneLine (quote s) := by
  refine .append (.cons (by decide) fun c hc => ?_) (by decide)
  obtain ⟨d, -, hd⟩ := List.mem_flatMap.mp hc
  exact oneLine_escape d c hd

theorem oneLine_boolText (b : Bool) : OneLine (boolText b) := by cases b <;> decide

theorem oneLine_numberText (n : JsonNumber) : OneLine (numberText n) := by
  unfold numberText
  split
  · exact oneLine_decimalText _
  · split
    · exact Binary64.oneLine_render _ _
    · decide

mutual

theorem oneLine_compact (j : Json) : OneLine j.compact := by
  cases j with
  | null => decide
  | bool b => exact oneLine_boolText b
  | number n => exact oneLine_numberText n
  | string s => exact oneLine_quote s
  | array items => exact .append (.cons (by decide) (oneLine_compactItems items)) (by decide)
  | object fields => exact .append (.cons (by decide) (oneLine_compactFields fields)) (by decide)

theorem oneLine_compactItems (items : List Json) : OneLine (compactItems items) := by
  match items with
  | [] => exact fun _ hc => nomatch hc
  | [item] => exact oneLine_compact item
  | item :: next :: items => exact .append (oneLine_compact item) (.cons (by decide) (oneLine_compactItems (next :: items)))

theorem oneLine_compactFields (fields : List (String × Json)) : OneLine (compactFields fields) := by
  match fields with
  | [] => exact fun _ hc => nomatch hc
  | [(key, value)] => exact .append (oneLine_quote key) (.cons (c := ':') (by decide) (oneLine_compact value))
  | (key, value) :: next :: fields =>
    exact .append (.append (oneLine_quote key) (.cons (c := ':') (by decide) (oneLine_compact value)))
      (.cons (c := ',') (by decide) (oneLine_compactFields (next :: fields)))

end

end Json

end ClusterQuery
