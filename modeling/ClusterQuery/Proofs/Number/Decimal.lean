import ClusterQuery.Number.Decimal
import ClusterQuery.Proofs.Number.Digits
import ClusterQuery.Proofs.Text.Split

/-! Decimal texts: the shapes of the texts that are read as numbers, and the characters of those that numbers are
    written with. -/

namespace ClusterQuery

/-- Digits, and maybe a point and digits after it. -/
def IsDecimal (cs : List Char) : Prop :=
  ∃ whole, IsDigits whole ∧ (cs = whole ∨ ∃ fraction, (∀ c ∈ fraction, isDigit c = true) ∧ cs = whole ++ '.' :: fraction)

/-- A decimal and an exponent, which may have a minus sign. -/
def IsScientific (cs : List Char) : Prop :=
  ∃ mantissa exponent, IsDecimal mantissa ∧ cs = mantissa ++ 'e' :: exponent ∧
    (IsDigits exponent ∨ ∃ digits, IsDigits digits ∧ exponent = '-' :: digits)

/-- A text that begins with a digit. -/
def BeginsWithDigit (cs : List Char) : Prop := ∃ c ∈ cs.head?, isDigit c = true

instance (cs : List Char) : Decidable (BeginsWithDigit cs) :=
  decidable_of_iff (cs.head?.any isDigit = true) (Option.any_eq_true _ _)

variable {cs ds : List Char} {c : Char}

theorem BeginsWithDigit.append (h : BeginsWithDigit cs) : BeginsWithDigit (cs ++ ds) := by
  obtain ⟨c, hc, hdigit⟩ := h
  refine ⟨c, ?_, hdigit⟩
  rwa [List.head?_append_of_ne_nil _ (List.ne_nil_of_mem (List.mem_of_mem_head? hc))]

theorem IsDigits.beginsWithDigit (h : IsDigits cs) : BeginsWithDigit cs := by
  cases cs with
  | nil => exact (h.1 rfl).elim
  | cons c cs => exact ⟨c, rfl, h.2 c List.mem_cons_self⟩

theorem IsDecimal.beginsWithDigit (h : IsDecimal cs) : BeginsWithDigit cs := by
  obtain ⟨whole, hwhole, rfl | ⟨fraction, -, rfl⟩⟩ := h
  · exact hwhole.beginsWithDigit
  · exact hwhole.beginsWithDigit.append

theorem IsScientific.beginsWithDigit (h : IsScientific cs) : BeginsWithDigit cs := by
  obtain ⟨mantissa, exponent, hmantissa, rfl, -⟩ := h
  exact hmantissa.beginsWithDigit.append

theorem IsDecimal.chars (h : IsDecimal cs) : ∀ c ∈ cs, isDigit c = true ∨ c = '.' := by
  obtain ⟨whole, hwhole, rfl | ⟨fraction, hfraction, rfl⟩⟩ := h
  · exact fun c hc => .inl (hwhole.2 c hc)
  · intro c hc
    rcases List.mem_append.mp hc with hc | hc
    · exact .inl (hwhole.2 c hc)
    · rcases List.mem_cons.mp hc with rfl | hc
      · exact .inr rfl
      · exact .inl (hfraction c hc)

theorem IsScientific.mem_mark (h : IsScientific cs) : 'e' ∈ cs := by
  obtain ⟨mantissa, exponent, -, rfl, -⟩ := h
  exact List.mem_append_right _ List.mem_cons_self

theorem IsScientific.chars (h : IsScientific cs) : ∀ c ∈ cs, isDigit c = true ∨ c ∈ ['.', '-', 'e'] := by
  have hdigits {ds : List Char} (hds : IsDigits ds) : ∀ c ∈ ds, isDigit c = true ∨ c ∈ ['.', '-', 'e'] :=
    fun c hc => .inl (hds.2 c hc)
  obtain ⟨mantissa, exponent, hmantissa, rfl, hexponent⟩ := h
  intro c hc
  rcases List.mem_append.mp hc with hc | hc
  · exact (hmantissa.chars c hc).imp_right fun hdot => by
      rw [hdot]
      exact List.mem_cons_self
  · rcases List.mem_cons.mp hc with rfl | hc
    · exact .inr (by decide)
    · rcases hexponent with hexponent | ⟨digits, hexponent, rfl⟩
      · exact hdigits hexponent c hc
      · rcases List.mem_cons.mp hc with rfl | hc
        · exact .inr (by decide)
        · exact hdigits hexponent c hc

theorem IsDecimal.not_mark (h : IsDecimal cs) : ∀ c ∈ cs, (c == 'e' || c == 'E') = false := by
  intro c hc
  rcases h.chars c hc with hdigit | rfl
  · refine Bool.eq_false_iff.mpr fun hmark => ?_
    rcases Bool.or_eq_true_iff.mp hmark with hmark | hmark
    · rw [beq_iff_eq.mp hmark] at hdigit
      cases hdigit
    · rw [beq_iff_eq.mp hmark] at hdigit
      cases hdigit
  · rfl

theorem readInteger?_isSome_iff (hplus : '+' ∉ cs) :
    (readInteger? cs).isSome = true ↔ IsDigits cs ∨ ∃ digits, IsDigits digits ∧ cs = '-' :: digits := by
  have hread (f : Int → Int) {ds : List Char} :
      (Option.map f (readDigits? ds >>= fun n => pure (n : Int))).isSome = true ↔ IsDigits ds := by
    cases h : readDigits? ds with
    | some n => exact ⟨fun _ => (readDigits?_eq_some_iff.mp h).1, fun _ => rfl⟩
    | none => exact ⟨(fun he => nomatch he), fun hdigits => nomatch h.symm.trans (readDigits?_eq_some_iff.mpr ⟨hdigits, rfl⟩)⟩
  have hsign {ds : List Char} : ¬IsDigits ('-' :: ds) := fun h => nomatch h.2 '-' List.mem_cons_self
  unfold readInteger?
  split
  · next digits =>
    rw [hread (- ·)]
    exact ⟨fun h => .inr ⟨digits, h, rfl⟩, fun h => h.elim (fun h => (hsign h).elim) fun ⟨_, h, he⟩ => (List.cons.inj he).2 ▸ h⟩
  · exact (hplus List.mem_cons_self).elim
  · next hminus _ =>
    rw [hread fun n => n]
    exact ⟨.inl, fun h => h.elim id fun ⟨digits, _, he⟩ => (hminus digits he).elim⟩

namespace Binary64

/-! ### Decimals -/

theorem isDecimal_of_readPointed? {r : Nat × Nat} (hdigit : BeginsWithDigit cs) (h : readPointed? cs = some r) :
    IsDecimal cs := by
  have hwhole : IsDigits (cs.takeWhile isDigit) := by
    refine ⟨?_, fun c hc => List.mem_takeWhile_imp hc⟩
    obtain ⟨c, hhead, hc⟩ := hdigit
    obtain ⟨rest, rfl⟩ := List.head?_eq_some_iff.mp hhead
    rw [List.takeWhile_cons_of_pos hc]
    exact List.cons_ne_nil _ _
  have hcs := (List.takeWhile_append_dropWhile (p := isDigit) (l := cs)).symm
  obtain ⟨fraction, hafter, h⟩ := Option.bind_eq_some_iff.mp h
  split at h
  · next hfraction =>
    obtain ⟨hfraction, -⟩ := Bool.and_eq_true_iff.mp hfraction
    split at hafter
    · next hdrop =>
      cases hafter
      exact ⟨_, hwhole, .inr ⟨fraction, List.all_eq_true.mp hfraction, by rwa [hdrop] at hcs⟩⟩
    · next hdrop => exact ⟨_, hwhole, .inl (by rwa [hdrop, List.append_nil] at hcs)⟩
    · cases hafter
  · cases h

theorem readPointed?_of_isDigits (h : IsDigits cs) : readPointed? cs = some (digitsValue 0 cs, 0) := by
  have htake : cs.takeWhile isDigit = cs := List.takeWhile_eq_self_iff.mpr h.2
  have hdrop : cs.dropWhile isDigit = [] := List.dropWhile_eq_nil_iff.mpr h.2
  have hne : cs.isEmpty = false := List.isEmpty_eq_false_iff.mpr h.1
  unfold readPointed?
  simp [htake, hdrop, hne]

theorem readPointed?_of_point {whole fraction : List Char} (hwhole : IsDigits whole)
    (hfraction : ∀ c ∈ fraction, isDigit c = true) :
    readPointed? (whole ++ '.' :: fraction) = some (digitsValue 0 (whole ++ fraction), fraction.length) := by
  have htake : (whole ++ '.' :: fraction).takeWhile isDigit = whole := by
    rw [List.takeWhile_append_of_pos hwhole.2]
    exact List.append_nil whole
  have hdrop : (whole ++ '.' :: fraction).dropWhile isDigit = '.' :: fraction := by
    rw [List.dropWhile_append_of_pos hwhole.2]
    rfl
  have hne : whole.isEmpty = false := List.isEmpty_eq_false_iff.mpr hwhole.1
  unfold readPointed?
  simpa [htake, hdrop, hne] using hfraction

theorem isSome_readPointed? (h : IsDecimal cs) : (readPointed? cs).isSome = true := by
  obtain ⟨whole, hwhole, rfl | ⟨fraction, hfraction, rfl⟩⟩ := h
  · rw [readPointed?_of_isDigits hwhole]
    rfl
  · rw [readPointed?_of_point hwhole hfraction]
    rfl

/-! ### Numbers without a sign -/

/-- A text that begins with a digit is no name of a number, and is read as a decimal up to the exponent mark. -/
theorem readUnsigned?_of_beginsWithDigit (negative : Bool) (hdigit : BeginsWithDigit cs) :
    readUnsigned? negative cs = match splitFirst (fun c => c == 'e' || c == 'E') cs with
      | none => (readPointed? cs).map fun (digits, places) => ofDecimal negative digits (-(places : Int))
      | some (mantissa, exponent) =>
        (readPointed? mantissa).bind fun (digits, places) =>
          (readInteger? exponent).map fun e => ofDecimal negative digits (e - places) := by
  obtain ⟨c, hhead, hc⟩ := hdigit
  obtain ⟨rest, rfl⟩ := List.head?_eq_some_iff.mp hhead
  have hlower := lowerAscii_of_isDigit hc
  have hword (d : Char) (name : List Char) (hd : isDigit d = false) : lowerText (c :: rest) ≠ d :: name := by
    intro he
    have : lowerAscii c = d := (List.cons.inj he).1
    rw [hlower] at this
    rw [this, hd] at hc
    cases hc
  unfold readUnsigned?
  dsimp only
  rw [if_neg (by simp [hword 'i' _ rfl])]
  exact if_neg (hword _ _ rfl)

theorem read?_eq_readUnsigned? (hdigit : BeginsWithDigit cs) : read? cs = readUnsigned? false cs := by
  obtain ⟨c, hhead, hc⟩ := hdigit
  obtain ⟨rest, rfl⟩ := List.head?_eq_some_iff.mp hhead
  unfold read?
  split
  · next he =>
    rw [(List.cons.inj he).1] at hc
    cases hc
  · next he =>
    rw [(List.cons.inj he).1] at hc
    cases hc
  · rfl

theorem read?_of_beginsWithDigit (hdigit : BeginsWithDigit cs) :
    read? cs = match splitFirst (fun c => c == 'e' || c == 'E') cs with
      | none => (readPointed? cs).map fun (digits, places) => ofDecimal false digits (-(places : Int))
      | some (mantissa, exponent) =>
        (readPointed? mantissa).bind fun (digits, places) =>
          (readInteger? exponent).map fun e => ofDecimal false digits (e - places) :=
  (read?_eq_readUnsigned? hdigit).trans (readUnsigned?_of_beginsWithDigit false hdigit)

/-- The texts of lower-case letters, digits, points and hyphens that begin with a digit and are read as numbers. -/
theorem read?_isSome_iff (hdigit : BeginsWithDigit cs) (hplus : '+' ∉ cs) (hmark : 'E' ∉ cs) :
    (read? cs).isSome = true ↔ IsDecimal cs ∨ IsScientific cs := by
  rw [read?_of_beginsWithDigit hdigit]
  constructor
  · intro h
    split at h
    · rw [Option.isSome_map] at h
      obtain ⟨r, hr⟩ := Option.isSome_iff_exists.mp h
      exact .inl (isDecimal_of_readPointed? hdigit hr)
    · next mantissa exponent hsplit =>
      obtain ⟨x, hx⟩ := Option.isSome_iff_exists.mp h
      obtain ⟨r, hr, hx⟩ := Option.bind_eq_some_iff.mp hx
      obtain ⟨e, he, -⟩ := Option.map_eq_some_iff.mp hx
      obtain ⟨d, hd, rfl, -⟩ := splitFirst_eq_some hsplit
      -- There is no capital letter, so that the mark is a small one.
      obtain rfl : d = 'e' := by
        rcases Bool.or_eq_true_iff.mp hd with hd | hd
        · exact beq_iff_eq.mp hd
        · rw [beq_iff_eq.mp hd] at hmark
          exact (hmark (List.mem_append_right _ List.mem_cons_self)).elim
      have hmantissa : BeginsWithDigit mantissa := by
        obtain ⟨c, hhead, hc⟩ := hdigit
        cases mantissa with
        | nil =>
          cases hhead
          cases hc
        | cons c' mantissa => exact ⟨c, hhead, hc⟩
      have hplus' : '+' ∉ exponent := fun h => hplus (List.mem_append_right _ (List.mem_cons_of_mem _ h))
      exact .inr ⟨mantissa, exponent, isDecimal_of_readPointed? hmantissa hr, rfl,
        (readInteger?_isSome_iff hplus').mp (Option.isSome_iff_exists.mpr ⟨e, he⟩)⟩
  · rintro (h | ⟨mantissa, exponent, hmantissa, rfl, hexponent⟩)
    · rw [splitFirst_eq_none_iff.mpr h.not_mark]
      dsimp only
      rw [Option.isSome_map]
      exact isSome_readPointed? h
    · obtain ⟨r, hread⟩ := Option.isSome_iff_exists.mp (isSome_readPointed? hmantissa)
      have hplus' : '+' ∉ exponent := fun h => hplus (List.mem_append_right _ (List.mem_cons_of_mem _ h))
      obtain ⟨e, he⟩ := Option.isSome_iff_exists.mp ((readInteger?_isSome_iff hplus').mpr hexponent)
      rw [splitFirst_append_cons rfl hmantissa.not_mark]
      dsimp only
      rw [hread, he]
      rfl

/-- A decimal is read as its digits and the places after the point. -/
theorem readUnsigned?_of_isDecimal (negative : Bool) (h : IsDecimal cs) :
    readUnsigned? negative cs = (readPointed? cs).map fun (digits, places) => ofDecimal negative digits (-(places : Int)) := by
  rw [readUnsigned?_of_beginsWithDigit negative h.beginsWithDigit, splitFirst_eq_none_iff.mpr h.not_mark]

theorem read?_of_isDecimal (h : IsDecimal cs) :
    read? cs = (readPointed? cs).map fun (digits, places) => ofDecimal false digits (-(places : Int)) :=
  (read?_eq_readUnsigned? h.beginsWithDigit).trans (readUnsigned?_of_isDecimal false h)

/-! ### Written numbers -/

/-- The characters that numbers are written with without an exponent. -/
def isNumberChar (c : Char) : Bool := isDigit c || ['-', '.', 'N', 'a', 'i', 'n', 'f'].contains c

theorem isNumberChar_of_isDigit (h : isDigit c = true) : isNumberChar c = true := by
  rw [isNumberChar, h, Bool.true_or]

theorem isDigit_of_mem_normal {d : Digits} (h : c ∈ d.normal.1) : isDigit c = true := by
  unfold Digits.normal at h
  dsimp only at h
  split at h
  · cases List.mem_singleton.mp h
    rfl
  · have := List.dropWhile_subset _ (List.mem_reverse.mp h)
    exact isDigit_of_mem_toDigits (List.mem_reverse.mp this)

theorem isNumberChar_of_mem_layoutFixed {keepsPoint : Bool} {digits : List Char} {point : Int}
    (hdigits : ∀ c ∈ digits, isDigit c = true) (h : c ∈ layoutFixed keepsPoint digits point) : isNumberChar c = true := by
  have hzeros {n : Nat} (h : c ∈ List.replicate n '0') : isNumberChar c = true := by
    rw [List.eq_of_mem_replicate h]
    rfl
  have hwhole {n m : Nat} (h : c ∈ digits.take n ++ List.replicate m '0') : isNumberChar c = true := by
    rcases List.mem_append.mp h with h | h
    · exact isNumberChar_of_isDigit (hdigits c (List.mem_of_mem_take h))
    · exact hzeros h
  unfold layoutFixed at h
  split at h
  · rcases List.mem_append.mp h with h | h
    · rcases List.mem_cons.mp h with rfl | h
      · rfl
      · rcases List.mem_cons.mp h with rfl | h
        · rfl
        · exact hzeros h
    · exact isNumberChar_of_isDigit (hdigits c h)
  · dsimp only at h
    split at h
    · split at h
      · rcases List.mem_append.mp h with h | h
        · exact hwhole h
        · exact List.all_eq_true.mp (show ['.', '0'].all isNumberChar = true from rfl) c h
      · exact hwhole h
    · rcases List.mem_append.mp h with h | h
      · exact hwhole h
      · rcases List.mem_cons.mp h with rfl | h
        · rfl
        · exact isNumberChar_of_isDigit (hdigits c (List.mem_of_mem_drop h))

theorem layout_eq_layoutFixed {style : FloatStyle} (hfrom : style.fixedFrom = none) (hbelow : style.fixedBelow = none)
    (digits : List Char) (point : Int) : style.layout digits point = layoutFixed style.keepsPoint digits point := by
  unfold FloatStyle.layout
  rw [hfrom, hbelow]
  rfl

/-- What holds of the characters of numbers, and of those that a style lays digits out with, holds of those that it
    writes numbers with. -/
theorem forall_mem_render {style : FloatStyle} {x : Binary64} {p : Char → Prop} (hp : ∀ c, isNumberChar c = true → p c)
    (hlayout : ∀ digits point, (∀ c ∈ digits, isDigit c = true) → ∀ c ∈ style.layout digits point, p c) :
    ∀ c ∈ x.render style, p c := by
  intro c h
  have hall {cs : List Char} (hcs : cs.all isNumberChar = true) (h : c ∈ cs) : p c := hp c (List.all_eq_true.mp hcs c h)
  have hsign {negative : Bool} (h : c ∈ if negative then ['-'] else []) : p c := by
    cases negative with
    | false => cases h
    | true => exact hall rfl h
  unfold render at h
  split at h
  · exact hall rfl h
  · dsimp only at h
    split at h
    · rcases List.mem_append.mp h with h | h
      · exact hsign h
      · exact hall rfl h
    · split at h
      · rcases List.mem_append.mp h with h | h
        · exact hsign h
        · split at h
          · exact hall rfl h
          · exact hall rfl h
      · rcases List.mem_append.mp h with h | h
        · exact hsign h
        · exact hlayout _ _ (fun c hc => isDigit_of_mem_normal hc) c h

/-- A number that is written without an exponent has digits, a sign and a point, or the letters of `NaN` and `inf`. -/
theorem isNumberChar_of_mem_render {style : FloatStyle} (hfrom : style.fixedFrom = none) (hbelow : style.fixedBelow = none)
    {x : Binary64} (h : c ∈ x.render style) : isNumberChar c = true := by
  refine forall_mem_render (fun _ hc => hc) (fun digits point hdigits d hd => ?_) c h
  rw [layout_eq_layoutFixed hfrom hbelow] at hd
  exact isNumberChar_of_mem_layoutFixed hdigits hd

end Binary64

end ClusterQuery
