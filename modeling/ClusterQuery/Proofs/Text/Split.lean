import ClusterQuery.Proofs.Text.Trim

/-! Cutting a text once, and at every separator. -/

namespace ClusterQuery

variable {p : Char → Bool} {sep c : Char} {cs before after : List Char}

theorem splitFirst_eq_some (h : splitFirst p cs = some (before, after)) :
    ∃ c, p c = true ∧ cs = before ++ c :: after ∧ ∀ d ∈ before, p d = false := by
  unfold splitFirst at h
  split at h
  · cases h
  · next c rest hdrop =>
    cases h
    refine ⟨c, ?_, ?_, fun d hd => ?_⟩
    · have := head?_dropWhile_neg (fun c => !p c) cs (by rw [hdrop]; exact Option.mem_some_self c)
      simpa using this
    · rw [← hdrop]
      exact (List.takeWhile_append_dropWhile).symm
    · simpa using List.mem_takeWhile_imp hd

theorem splitFirst_append_cons (hc : p c = true) (h : ∀ d ∈ before, p d = false) :
    splitFirst p (before ++ c :: after) = some (before, after) := by
  have hall : ∀ d ∈ before, (!p d) = true := fun d hd => by rw [h d hd]; rfl
  have hstop : ¬(!p c) = true := by rw [hc]; exact Bool.false_ne_true
  rw [splitFirst, List.dropWhile_append_of_pos hall, List.takeWhile_append_of_pos hall,
    List.dropWhile_cons_of_neg (p := fun d => !p d) hstop,
    List.takeWhile_cons_of_neg (p := fun d => !p d) hstop, List.append_nil]

theorem splitFirst_eq_none_iff : splitFirst p cs = none ↔ ∀ c ∈ cs, p c = false := by
  unfold splitFirst
  split
  · next h => simpa [List.dropWhile_eq_nil_iff] using h
  · next c rest h =>
    simp only [reduceCtorEq, false_iff]
    intro hall
    have hnil : cs.dropWhile (fun c => !p c) = [] := List.dropWhile_eq_nil_iff.mpr fun d hd => by rw [hall d hd]; rfl
    rw [hnil] at h
    cases h

theorem dropLast?_eq_some_iff : dropLast? c cs = some before ↔ cs = before ++ [c] := by
  unfold dropLast?
  constructor
  · intro h
    split at h
    · next d rest hrev =>
      split at h
      · next hd =>
        cases h
        have := congrArg List.reverse hrev
        simpa [hd] using this
      · cases h
    · cases h
  · rintro rfl
    simp

/-- A text without brackets and what begins with one are told apart again. -/
theorem takeWhile_append_bracket {base subscripts : List Char} (hbase : ∀ c ∈ base, c ≠ '[')
    (hsubscripts : ∀ c ∈ subscripts.head?, c = '[') :
    (base ++ subscripts).takeWhile (· != '[') = base ∧ (base ++ subscripts).dropWhile (· != '[') = subscripts := by
  have hopen : ∀ c ∈ base, (c != '[') = true := fun c hc => bne_iff_ne.mpr (hbase c hc)
  rw [List.takeWhile_append_of_pos hopen, List.dropWhile_append_of_pos hopen]
  cases subscripts with
  | nil => exact ⟨List.append_nil base, rfl⟩
  | cons c rest =>
    rw [hsubscripts c rfl]
    exact ⟨List.append_nil base, rfl⟩

theorem mem_splitOn_of_mem (h : c ∈ cs) (hsep : c ≠ sep) : ∃ piece ∈ splitOn sep cs, c ∈ piece := by
  induction cs with
  | nil => cases h
  | cons d cs ih =>
    by_cases hd : d = sep
    · rw [splitOn, if_pos hd]
      obtain ⟨piece, hpiece, hc⟩ := ih (List.mem_of_ne_of_mem (fun he => hsep (he.trans hd)) h)
      exact ⟨piece, List.mem_cons_of_mem _ hpiece, hc⟩
    · rw [splitOn, if_neg hd]
      rcases List.mem_cons.mp h with rfl | h
      · split
        · exact ⟨[c], List.mem_cons_self, List.mem_cons_self⟩
        · exact ⟨_, List.mem_cons_self, List.mem_cons_self⟩
      · obtain ⟨piece, hpiece, hc⟩ := ih h
        split
        · next hnil =>
          rw [hnil] at hpiece
          cases hpiece
        · next first rest hcons =>
          rw [hcons] at hpiece
          rcases List.mem_cons.mp hpiece with rfl | hpiece
          · exact ⟨_, List.mem_cons_self, List.mem_cons_of_mem d hc⟩
          · exact ⟨piece, List.mem_cons_of_mem _ hpiece, hc⟩

theorem mem_of_mem_splitOn {piece : List Char} (h : piece ∈ splitOn sep cs) (hc : c ∈ piece) : c ∈ cs ∧ c ≠ sep := by
  induction cs generalizing piece with
  | nil =>
    cases List.mem_singleton.mp h
    cases hc
  | cons d cs ih =>
    have hrest : ∀ {piece}, piece ∈ splitOn sep cs → c ∈ piece → c ∈ d :: cs ∧ c ≠ sep := fun hpiece hc =>
      ⟨List.mem_cons_of_mem d (ih hpiece hc).1, (ih hpiece hc).2⟩
    by_cases hd : d = sep
    · rw [splitOn, if_pos hd] at h
      rcases List.mem_cons.mp h with rfl | h
      · cases hc
      · exact hrest h hc
    · rw [splitOn, if_neg hd] at h
      obtain ⟨first, more, hmore⟩ := List.exists_cons_of_ne_nil (splitOn_ne_nil sep cs)
      rw [hmore] at h hrest
      rcases List.mem_cons.mp h with rfl | h
      · rcases List.mem_cons.mp hc with rfl | hc
        · exact ⟨List.mem_cons_self, hd⟩
        · exact hrest List.mem_cons_self hc
      · exact hrest (List.mem_cons_of_mem first h) hc

theorem mem_joinWith {between piece : List Char} {pieces : List (List Char)} (hpiece : piece ∈ pieces) (hc : c ∈ piece) :
    c ∈ joinWith between pieces := by
  induction pieces with
  | nil => cases hpiece
  | cons first rest ih =>
    by_cases hrest : rest = []
    · subst hrest
      rwa [List.mem_singleton.mp hpiece] at hc
    · rw [joinWith_cons_of_ne_nil hrest]
      rcases List.mem_cons.mp hpiece with rfl | hpiece
      · exact List.mem_append_left _ (List.mem_append_left _ hc)
      · exact List.mem_append_right _ (ih hpiece)

/-- What is put in front of the first piece stands at the beginning of the text. -/
theorem joinWith_append_cons (between cs piece : List Char) (pieces : List (List Char)) :
    joinWith between ((cs ++ piece) :: pieces) = cs ++ joinWith between (piece :: pieces) := by
  cases pieces with
  | nil => rfl
  | cons second pieces =>
    rw [joinWith_cons_of_ne_nil (List.cons_ne_nil _ _), joinWith_cons_of_ne_nil (List.cons_ne_nil _ _)]
    simp only [List.append_assoc]

/-- Between pieces and more pieces stands what stands between two pieces. -/
theorem joinWith_append {between : List Char} {lefts rights : List (List Char)} (hlefts : lefts ≠ []) (hrights : rights ≠ []) :
    joinWith between (lefts ++ rights) = joinWith between lefts ++ between ++ joinWith between rights := by
  induction lefts with
  | nil => exact (hlefts rfl).elim
  | cons piece lefts ih =>
    rw [List.cons_append, joinWith_cons_of_ne_nil (List.append_ne_nil_of_right_ne_nil lefts hrights)]
    by_cases hnil : lefts = []
    · subst hnil
      rfl
    · rw [ih hnil, joinWith_cons_of_ne_nil hnil]
      simp only [List.append_assoc]

/-- What is added to the last piece stands at the end of the text. -/
theorem joinWith_concat_append (between : List Char) (init : List (List Char)) (last bs : List Char) :
    joinWith between (init ++ [last ++ bs]) = joinWith between (init ++ [last]) ++ bs := by
  by_cases hinit : init = []
  · subst hinit
    rfl
  · rw [joinWith_append hinit (List.cons_ne_nil _ _), joinWith_append hinit (List.cons_ne_nil _ _)]
    simp only [joinWith, List.append_assoc]

theorem splitOn_eq_self (h : sep ∉ cs) : splitOn sep cs = [cs] := by
  induction cs with
  | nil => rfl
  | cons c cs ih =>
    obtain ⟨hc, hcs⟩ := List.ne_and_not_mem_of_not_mem_cons h
    rw [splitOn, if_neg hc.symm, ih hcs]

theorem splitOn_append_sep (cs rest : List Char) : splitOn sep (cs ++ sep :: rest) = splitOn sep cs ++ splitOn sep rest := by
  induction cs with
  | nil =>
    show splitOn sep (sep :: rest) = [] :: splitOn sep rest
    rw [splitOn, if_pos rfl]
  | cons c cs ih =>
    obtain ⟨first, more, hmore⟩ := List.exists_cons_of_ne_nil (splitOn_ne_nil sep cs)
    rw [List.cons_append, splitOn, splitOn, ih, hmore]
    split <;> rfl

theorem length_splitOn (sep : Char) (cs : List Char) : (splitOn sep cs).length = cs.count sep + 1 := by
  induction cs with
  | nil => rfl
  | cons c cs ih =>
    obtain ⟨first, more, hmore⟩ := List.exists_cons_of_ne_nil (splitOn_ne_nil sep cs)
    rw [splitOn, List.count_cons, hmore]
    rw [hmore, List.length_cons] at ih
    by_cases hc : c = sep
    · rw [if_pos hc, if_pos (beq_iff_eq.mpr hc), List.length_cons, List.length_cons, ih]
    · rw [if_neg hc, if_neg (by simpa using hc), List.length_cons, ih]

end ClusterQuery
