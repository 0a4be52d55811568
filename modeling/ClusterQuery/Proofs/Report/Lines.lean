import ClusterQuery.Proofs.Json.Printing
import ClusterQuery.Proofs.Report.Table
import ClusterQuery.Proofs.Text.Split
import ClusterQuery.Proofs.Value.Display

/-! The lines of tables and of lists of names. Each row is printed as a text and a line break. Texts of documents may
    hold line breaks themselves, which are printed as they are: then the row has more than one line, unless nothing but
    blanks follows the break in a table, where they are dropped. No other value shows a line break. -/

namespace ClusterQuery

/-! ### Lines of a text -/

/-- The lines of a text, each of which ends with a line break. -/
def linesOf (text : List Char) : List (List Char) := (splitOn '\n' text).dropLast

theorem linesOf_flatMap (texts : List (List Char)) :
    linesOf (texts.flatMap (· ++ ['\n'])) = texts.flatMap (splitOn '\n') := by
  have hpieces : splitOn '\n' (texts.flatMap (· ++ ['\n'])) = texts.flatMap (splitOn '\n') ++ [[]] := by
    induction texts with
    | nil => rfl
    | cons text texts ih =>
      rw [List.flatMap_cons, List.append_assoc, List.singleton_append, splitOn_append_sep, ih, List.flatMap_cons,
        List.append_assoc]
  rw [linesOf, hpieces, List.dropLast_concat]

/-- Texts that are written line by line have a line each, and one more for every line break in them. -/
theorem length_linesOf_flatMap (texts : List (List Char)) :
    (linesOf (texts.flatMap (· ++ ['\n']))).length = texts.length + (texts.map (·.count '\n')).sum := by
  rw [linesOf_flatMap]
  induction texts with
  | nil => rfl
  | cons text texts ih =>
    rw [List.flatMap_cons, List.length_append, ih, length_splitOn, List.length_cons, List.map_cons, List.sum_cons]
    omega

theorem length_linesOf_flatMap_iff (texts : List (List Char)) :
    (linesOf (texts.flatMap (· ++ ['\n']))).length = texts.length ↔ ∀ text ∈ texts, '\n' ∉ text := by
  rw [length_linesOf_flatMap, Nat.add_eq_left, List.sum_eq_zero_iff_forall_eq_nat, List.forall_mem_map]
  exact forall₂_congr fun _ _ => List.count_eq_zero

/-! ### Line breaks in a row -/

theorem blanks_append_iff {as bs : List Char} : Blanks (as ++ bs) ↔ Blanks as ∧ Blanks bs := List.forall_mem_append

theorem mem_trimEnd_append_iff {c : Char} {as bs : List Char} :
    c ∈ trimEnd (as ++ bs) ↔ if Blanks bs then c ∈ trimEnd as else c ∈ as ∨ c ∈ trimEnd bs := by
  split
  · next hbs => rw [trimEnd_append_of_blanks hbs]
  · next hbs => rw [trimEnd_append fun h => (hbs h).elim, List.mem_append]

/-- Of a kind of blanks one is kept if one has more than blanks behind it. -/
theorem mem_trimEnd_iff {c : Char} (hc : isBlank c = true) {cs : List Char} :
    c ∈ trimEnd cs ↔ ∃ front back, cs = front ++ c :: back ∧ ¬Blanks back := by
  constructor
  · intro hmem
    -- Otherwise the text ends with blanks from the first occurrence on, and none is kept.
    have hkept {ds : List Char} : trimEnd ds ⊆ ds := List.IsPrefix.subset <| trimEnd_prefix ds
    obtain ⟨front, back, rfl, hfirst⟩ := List.eq_append_cons_of_mem (hkept hmem)
    refine ⟨front, back, rfl, fun hback => hfirst ?_⟩
    have hrest : Blanks (c :: back) := List.forall_mem_cons.mpr ⟨hc, hback⟩
    rw [trimEnd_append_of_blanks hrest] at hmem
    exact hkept hmem
  · rintro ⟨front, back, rfl, hback⟩
    have hrest : ¬Blanks (c :: back) := fun h => hback (List.forall_mem_cons.mp h).2
    have hkept : trimEnd ([c] ++ back) = [c] ++ trimEnd back := trimEnd_append fun h => (hback h).elim
    rw [mem_trimEnd_append_iff, if_neg hrest]
    exact Or.inr (hkept ▸ List.mem_cons_self)

namespace Table

theorem blanks_padded_iff {width : Nat} {cell : List Char} : Blanks (padded width cell) ↔ Blanks (shown cell) := by
  rw [padded, blanks_append_iff]
  refine and_iff_left fun c hc => ?_
  rw [List.eq_of_mem_replicate hc]
  rfl

theorem newline_mem_padded_iff {width : Nat} {cell : List Char} : '\n' ∈ padded width cell ↔ '\n' ∈ shown cell := by
  rw [padded, List.mem_append]
  exact or_iff_left fun h => absurd (List.eq_of_mem_replicate h) (by decide)

theorem trimEnd_padded {width : Nat} {cell : List Char} : trimEnd (padded width cell) = trimEnd (shown cell) :=
  trimEnd_append_of_blanks (fun c hc => by rw [List.eq_of_mem_replicate hc]; rfl) _

/-- Padding neither adds line breaks to a line nor drops any. -/
theorem newline_mem_line_iff (ws : List Nat) (cells : List (List Char)) :
    (Blanks (List.zipWith padded ws cells).flatten ↔ Blanks ((cells.take ws.length).map shown).flatten) ∧
      ('\n' ∈ trimEnd (List.zipWith padded ws cells).flatten ↔
        '\n' ∈ trimEnd ((cells.take ws.length).map shown).flatten) := by
  induction ws generalizing cells with
  | nil => simp
  | cons width ws ih =>
    cases cells with
    | nil => simp
    | cons cell cells =>
      obtain ⟨hblanks, hnewline⟩ := ih cells
      rw [List.zipWith_cons_cons, List.length_cons, List.take_succ_cons, List.map_cons, List.flatten_cons,
        List.flatten_cons, blanks_append_iff, blanks_append_iff, blanks_padded_iff, hblanks, mem_trimEnd_append_iff,
        mem_trimEnd_append_iff, trimEnd_padded, newline_mem_padded_iff, hnewline]
      exact ⟨Iff.rfl, by simp only [hblanks]⟩

end Table

/-- A line break in what is shown of the cells of a row, and more than blanks behind it, in its cell or in the cells
    after that. -/
def BreaksLine (cells : List (List Char)) : Prop :=
  ∃ front back, (cells.map Table.shown).flatten = front ++ '\n' :: back ∧ ¬Blanks back

theorem breaksLine_iff {cells : List (List Char)} : BreaksLine cells ↔ '\n' ∈ trimEnd (cells.map Table.shown).flatten :=
  (mem_trimEnd_iff rfl).symm

instance (cells : List (List Char)) : Decidable (BreaksLine cells) := decidable_of_iff _ breaksLine_iff.symm

/-! ### Line breaks in a cell -/

/-- Of all values only texts are shown with line breaks, those that they hold. -/
theorem Value.newline_mem_display_iff (v : Value) : '\n' ∈ v.display ↔ ∃ s, v = .text s ∧ '\n' ∈ s.toList := by
  have hother {v : Value} (hv : ∀ s, v ≠ .text s) (h : '\n' ∉ v.display) :
      '\n' ∈ v.display ↔ ∃ s, v = .text s ∧ '\n' ∈ s.toList :=
    iff_of_false h fun ⟨s, hs, _⟩ => hv s hs
  have hnumber {v : Value} (hv : (∃ i, v = .int i) ∨ ∃ x, v = .float x) : '\n' ∉ v.display := fun h =>
    absurd (Scalar.isNumberChar_of_mem_display hv h) (by decide)
  cases v with
  | text s => exact ⟨fun h => ⟨s, rfl, h⟩, fun ⟨_, hs, h⟩ => Value.text.inj hs ▸ h⟩
  | null => exact hother nofun List.not_mem_nil
  | bool b => exact hother nofun (Json.oneLine_boolText b).newline_not_mem
  | int i => exact hother nofun (hnumber (.inl ⟨i, rfl⟩))
  | float x => exact hother nofun (hnumber (.inr ⟨x, rfl⟩))
  | date d => exact hother nofun fun h => absurd (Instant.isDateChar_of_mem_render d _ h) (by decide)
  | list items => exact hother nofun (Json.oneLine_compact (toJson (.list items))).newline_not_mem
  | map fields => exact hother nofun (Json.oneLine_compact (toJson (.map fields))).newline_not_mem

/-! ### Lines of reports -/

namespace Report
variable {r : Report}

/-- The text of a row in a list of names: that of its first cell. -/
def nameText (row : List (Option Value)) : List Char := cellText row.head?.join

theorem names_eq (r : Report) :
    r.names = ((r.rows.filter fun row => nameText row ≠ []).map nameText).flatMap (· ++ ['\n']) := by
  unfold names
  induction r.rows with
  | nil => rfl
  | cons row rows ih =>
    rw [List.flatMap_cons, ih]
    by_cases hname : nameText row = []
    · rw [List.filter_cons_of_neg (by simpa using hname)]
      exact congrArg (· ++ _) (if_pos (List.isEmpty_iff.mpr hname))
    · rw [List.filter_cons_of_pos (by simpa using hname), List.map_cons, List.flatMap_cons]
      exact congrArg (· ++ _) (if_neg fun h => hname (List.isEmpty_iff.mp h))

/-- The text of a row in a table, without the break that ends its line. -/
def lineText (r : Report) (row : List (List Char)) : List Char :=
  trimEnd (List.zipWith Table.padded (Table.widths r.titles.length r.texts) row).flatten

theorem newline_mem_lineText_iff (r : Report) (row : List (List Char)) :
    '\n' ∈ r.lineText row ↔ BreaksLine (row.take r.titles.length) := by
  have hcolumns : (Table.widths r.titles.length r.texts).length = r.titles.length := by
    rw [widths_eq, List.length_map, List.length_range]
  rw [lineText, (Table.newline_mem_line_iff _ row).2, hcolumns, breaksLine_iff]

/-- Of a report with rows, a table has one line for each row, and one for the titles if it has headers, if and only if
    no row that it shows breaks its line; and a list of names has one line for each row with a name if and only if no
    name holds a line break. Line breaks come from texts alone. -/
theorem one_line_per_row_iff (hrows : r.rows ≠ []) :
    (∀ headers, (linesOf (r.table headers)).length = r.rows.length + (if headers then 1 else 0) ↔
      ∀ row ∈ (if headers then r.texts else r.texts.tail), ¬BreaksLine (row.take r.titles.length)) ∧
    ((linesOf r.names).length = (r.rows.filter fun row => nameText row ≠ []).length ↔
      ∀ row ∈ r.rows, '\n' ∉ nameText row) ∧
    ∀ v : Value, '\n' ∈ v.display ↔ ∃ s, v = .text s ∧ '\n' ∈ s.toList := by
  refine ⟨fun headers => ?_, ?_, Value.newline_mem_display_iff⟩
  · have hcount : r.rows.length + (if headers then 1 else 0) =
        ((if headers then r.texts else r.texts.tail).map r.lineText).length := by
      cases headers <;> simp [texts]
    have htable : r.table headers =
        ((if headers then r.texts else r.texts.tail).map r.lineText).flatMap (· ++ ['\n']) := by
      rw [table_eq hrows, List.flatMap_map]
      rfl
    rw [hcount, htable, length_linesOf_flatMap_iff, List.forall_mem_map]
    exact forall₂_congr fun row _ => not_congr (newline_mem_lineText_iff r row)
  · rw [names_eq, ← List.length_map (f := nameText), length_linesOf_flatMap_iff, List.forall_mem_map]
    refine ⟨fun h row hrow hmem => ?_, fun h row hrow => h row (List.mem_of_mem_filter hrow)⟩
    have hname : nameText row ≠ [] := List.ne_nil_of_mem hmem
    exact h row (List.mem_filter.mpr ⟨hrow, decide_eq_true hname⟩) hmem

/-- The break at the end of a last cell is dropped in a table, but not in a list of names. -/
theorem one_line_per_row_iff_of_break_at_end :
    let r : Report := ⟨["note"], [[some (.text "deploy\n")]]⟩
    r.rows ≠ [] ∧ (linesOf (r.table true)).length = r.rows.length + 1 ∧
      (linesOf r.names).length ≠ (r.rows.filter fun row => nameText row ≠ []).length := by
  intro r
  have hrows : r.rows ≠ [] := List.cons_ne_nil _ _
  obtain ⟨htable, hnames, -⟩ := one_line_per_row_iff hrows
  refine ⟨hrows, (htable true).mpr (by decide), fun h => ?_⟩
  exact hnames.mp h _ List.mem_cons_self (by decide)

/-- A break inside a cell is printed in both, so that one row takes two lines. -/
theorem two_lines_of_break_inside :
    let r : Report := ⟨["note"], [[some (.text "a\nb")]]⟩
    r.table true = "note\na\nb\n".toList ∧ (linesOf (r.table true)).length = 3 ∧
      r.names = "a\nb\n".toList ∧ (linesOf r.names).length = 2 := by
  decide

end Report

end ClusterQuery
