import ClusterQuery.Text.Blank
import ClusterQuery.Text.Split
import Mathlib.Data.List.Basic
import Mathlib.Data.List.TakeWhile

/-! Blanks around a text. A text is blanks, what `trim` keeps, and blanks; blanks added at either end are
    trimmed away, and a text that neither begins nor ends with a blank is its own trimmed form. -/

namespace ClusterQuery

/-- A run of blanks, maybe empty. -/
def Blanks (cs : List Char) : Prop := ∀ c ∈ cs, isBlank c = true

instance (cs : List Char) : Decidable (Blanks cs) := inferInstanceAs (Decidable (∀ c ∈ cs, isBlank c = true))

/-- A text that neither begins nor ends with a blank. -/
structure Trimmed (cs : List Char) : Prop where
  head : ∀ c ∈ cs.head?, isBlank c = false
  last : ∀ c ∈ cs.getLast?, isBlank c = false

theorem Blanks.append {as bs : List Char} (ha : Blanks as) (hb : Blanks bs) : Blanks (as ++ bs) := by
  intro c hc
  rcases List.mem_append.mp hc with h | h
  · exact ha c h
  · exact hb c h

theorem blanks_nil : Blanks [] := fun _ hc => nomatch hc

theorem blanks_space : Blanks [' '] := fun _ hc => by
  cases List.mem_singleton.mp hc
  rfl

theorem trimmed_of_not_blank {cs : List Char} (h : ∀ c ∈ cs, isBlank c = false) : Trimmed cs :=
  ⟨fun c hc => h c (List.mem_of_mem_head? hc), fun c hc => h c (List.mem_of_mem_getLast? hc)⟩

theorem blanks_takeWhile (cs : List Char) : Blanks (cs.takeWhile isBlank) := fun _ hc =>
  List.mem_takeWhile_imp hc

/-! ### Trimming one end -/

theorem trimStart_append_of_blanks {as : List Char} (h : Blanks as) (cs : List Char) :
    trimStart (as ++ cs) = trimStart cs :=
  List.dropWhile_append_of_pos h

theorem trimStart_eq_self {cs : List Char} (h : ∀ c ∈ cs.head?, isBlank c = false) : trimStart cs = cs := by
  cases cs with
  | nil => rfl
  | cons c cs => exact List.dropWhile_cons_of_neg (by simp [h c rfl])

theorem trimEnd_append_of_blanks {bs : List Char} (h : Blanks bs) (cs : List Char) :
    trimEnd (cs ++ bs) = trimEnd cs := by
  unfold trimEnd dropEndWhile
  rw [List.reverse_append, List.dropWhile_append_of_pos fun c hc => h c (List.mem_reverse.mp hc)]

theorem trimEnd_eq_self {cs : List Char} (h : ∀ c ∈ cs.getLast?, isBlank c = false) : trimEnd cs = cs := by
  unfold trimEnd dropEndWhile
  have hrev : cs.reverse.dropWhile isBlank = cs.reverse :=
    trimStart_eq_self fun c hc => h c (by rwa [List.head?_reverse] at hc)
  rw [hrev, List.reverse_reverse]

theorem trimEnd_append {as bs : List Char} (h : Blanks bs → ∀ c ∈ as.getLast?, isBlank c = false) :
    trimEnd (as ++ bs) = as ++ trimEnd bs := by
  by_cases hb : Blanks bs
  · have hnil : trimEnd bs = [] := trimEnd_append_of_blanks hb []
    rw [trimEnd_append_of_blanks hb, trimEnd_eq_self (h hb), hnil, List.append_nil]
  · have hne : bs.reverse.dropWhile isBlank ≠ [] := fun hnil =>
      hb fun c hc => List.dropWhile_eq_nil_iff.mp hnil c (List.mem_reverse.mpr hc)
    unfold trimEnd dropEndWhile
    rw [List.reverse_append, List.dropWhile_append, if_neg (by simpa using hne), List.reverse_append, List.reverse_reverse]

/-- Only blanks are dropped at the end. -/
theorem exists_trimEnd (cs : List Char) : ∃ bs, Blanks bs ∧ cs = trimEnd cs ++ bs :=
  ⟨(cs.reverse.takeWhile isBlank).reverse, fun c hc => blanks_takeWhile _ c (List.mem_reverse.mp hc),
    (dropEndWhile_append_takeWhile isBlank cs).symm⟩

theorem trimEnd_prefix (cs : List Char) : trimEnd cs <+: cs := ⟨_, dropEndWhile_append_takeWhile isBlank cs⟩

/-! ### Trimming both ends -/

theorem trim_eq_self {cs : List Char} (h : Trimmed cs) : trim cs = cs := by
  unfold trim
  rw [trimStart_eq_self h.head, trimEnd_eq_self h.last]

theorem head?_dropWhile_neg (p : Char → Bool) (cs : List Char) {c : Char} (h : c ∈ (cs.dropWhile p).head?) :
    p c = false := by
  induction cs with
  | nil => cases h
  | cons d cs ih =>
    cases hd : p d with
    | true =>
      rw [List.dropWhile_cons_of_pos hd] at h
      exact ih h
    | false =>
      rw [List.dropWhile_cons_of_neg (by simp [hd])] at h
      cases h
      exact hd

/-- What is left after dropping at both ends neither begins nor ends with what is dropped. -/
theorem ends_dropEndWhile_dropWhile (p : Char → Bool) (cs : List Char) :
    (∀ c ∈ (dropEndWhile p (cs.dropWhile p)).head?, p c = false) ∧
      ∀ c ∈ (dropEndWhile p (cs.dropWhile p)).getLast?, p c = false := by
  constructor
  · intro c hc
    -- What is left of a text that begins with nothing to drop begins like it.
    refine head?_dropWhile_neg p cs ?_
    rw [← dropEndWhile_append_takeWhile p (cs.dropWhile p), List.head?_append, hc]
    rfl
  · intro c hc
    unfold dropEndWhile at hc
    rw [List.getLast?_reverse] at hc
    exact head?_dropWhile_neg p _ hc

theorem trimmed_trim (cs : List Char) : Trimmed (trim cs) :=
  ⟨(ends_dropEndWhile_dropWhile isBlank cs).1, (ends_dropEndWhile_dropWhile isBlank cs).2⟩

theorem exists_trim (cs : List Char) : ∃ as bs, Blanks as ∧ Blanks bs ∧ cs = as ++ (trim cs ++ bs) := by
  obtain ⟨bs, hbs, hsplit⟩ := exists_trimEnd (trimStart cs)
  refine ⟨cs.takeWhile isBlank, bs, blanks_takeWhile cs, hbs, ?_⟩
  rw [trim, ← hsplit]
  exact List.takeWhile_append_dropWhile.symm

theorem trim_of_blanks {cs : List Char} (h : Blanks cs) : trim cs = [] := by
  have hstart : trimStart cs = [] := List.dropWhile_eq_nil_iff.mpr h
  unfold trim
  rw [hstart]
  rfl

theorem trim_append_of_blanks {as bs : List Char} (ha : Blanks as) (hb : Blanks bs) (cs : List Char) :
    trim (as ++ (cs ++ bs)) = trim cs := by
  unfold trim
  rw [trimStart_append_of_blanks ha]
  cases h : trimStart cs with
  | nil =>
    have hcs : Blanks cs := List.dropWhile_eq_nil_iff.mp h
    have hall : trimStart (cs ++ bs) = [] := List.dropWhile_eq_nil_iff.mpr (hcs.append hb)
    rw [hall]
  | cons c rest =>
    have hne : cs.dropWhile isBlank ≠ [] := fun hnil => by rw [trimStart, hnil] at h; cases h
    have hall : trimStart (cs ++ bs) = trimStart cs ++ bs := by
      unfold trimStart
      rw [List.dropWhile_append, if_neg (by simpa using hne)]
    rw [hall, h, trimEnd_append_of_blanks hb]

theorem trim_blanks_append {as : List Char} (has : Blanks as) (cs : List Char) : trim (as ++ cs) = trim cs := by
  have h := trim_append_of_blanks has blanks_nil cs
  rwa [List.append_nil] at h

theorem trim_append_blanks {bs : List Char} (hbs : Blanks bs) (cs : List Char) : trim (cs ++ bs) = trim cs :=
  trim_append_of_blanks blanks_nil hbs cs

theorem trim_append {as bs : List Char} (hne : as ≠ []) (hhead : ∀ c ∈ as.head?, isBlank c = false)
    (h : Blanks bs → ∀ c ∈ as.getLast?, isBlank c = false) : trim (as ++ bs) = as ++ trimEnd bs := by
  have hstart : ∀ c ∈ (as ++ bs).head?, isBlank c = false := by rwa [List.head?_append_of_ne_nil _ hne]
  rw [trim, trimStart_eq_self hstart, trimEnd_append h]

/-- A text whose beginning is left when it is trimmed is trimmed behind it. -/
theorem trimEnd_eq_of_trim_append {as bs rest : List Char} (hne : as ≠ []) (h : trim (as ++ bs) = as ++ rest) :
    trimEnd bs = rest := by
  have htrimmed : Trimmed (as ++ rest) := h ▸ trimmed_trim (as ++ bs)
  have hstart : trimStart (as ++ bs) = as ++ bs := trimStart_eq_self fun c hc => htrimmed.head c <| by
    rwa [List.head?_append_of_ne_nil _ hne] at hc ⊢
  rw [trim, hstart] at h
  obtain ⟨blanks, hblanks, hbs⟩ := exists_trimEnd (as ++ bs)
  rw [h, List.append_assoc] at hbs
  rw [List.append_cancel_left hbs, trimEnd_append_of_blanks hblanks]
  refine trimEnd_eq_self fun c hc => htrimmed.last c ?_
  have hrest : rest ≠ [] := fun hnil => by rw [hnil] at hc; cases hc
  rwa [List.getLast?_append_of_ne_nil _ hrest]

theorem trim_cons_space (cs : List Char) : trim (' ' :: cs) = trim cs := trim_blanks_append blanks_space cs

theorem trim_trim (cs : List Char) : trim (trim cs) = trim cs := trim_eq_self (trimmed_trim cs)

theorem trim_eq_nil_iff {cs : List Char} : trim cs = [] ↔ Blanks cs := by
  refine ⟨fun h => ?_, trim_of_blanks⟩
  obtain ⟨as, bs, ha, hb, hcs⟩ := exists_trim cs
  rw [h, List.nil_append] at hcs
  rw [hcs]
  exact ha.append hb

theorem trimmed_append {as bs : List Char} (ha : as ≠ []) (hb : bs ≠ []) (hhead : ∀ c ∈ as.head?, isBlank c = false)
    (hlast : ∀ c ∈ bs.getLast?, isBlank c = false) : Trimmed (as ++ bs) := by
  refine ⟨fun c hc => hhead c ?_, fun c hc => hlast c ?_⟩
  · rwa [List.head?_append_of_ne_nil _ ha] at hc
  · rwa [List.getLast?_append_of_ne_nil _ hb] at hc

theorem trimmed_joinWith {sep : List Char} {css : List (List Char)} (hne : css ≠ []) (h : ∀ cs ∈ css, cs ≠ [] ∧ Trimmed cs) :
    joinWith sep css ≠ [] ∧ Trimmed (joinWith sep css) := by
  induction css with
  | nil => exact (hne rfl).elim
  | cons cs rest ih =>
    obtain ⟨hcs, hrest⟩ := List.forall_mem_cons.mp h
    cases rest with
    | nil => exact hcs
    | cons second rest =>
      obtain ⟨hne', htrimmed⟩ := ih (List.cons_ne_nil _ _) hrest
      rw [joinWith_cons_of_ne_nil (List.cons_ne_nil _ _), List.append_assoc]
      refine ⟨by simp [hcs.1], trimmed_append hcs.1 (by simp [hne']) hcs.2.head fun c hc => htrimmed.last c ?_⟩
      rwa [List.getLast?_append_of_ne_nil _ hne'] at hc

theorem Trimmed.trim_between {cs : List Char} (h : Trimmed cs) {as bs : List Char} (ha : Blanks as) (hb : Blanks bs) :
    trim (as ++ (cs ++ bs)) = cs := by
  rw [trim_append_of_blanks ha hb, trim_eq_self h]

end ClusterQuery
