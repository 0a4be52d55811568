/-!
Finite tables with texts as keys. `insert` replaces what a key was bound to, so a key is bound once and the
last binding counts.
-/

namespace ClusterQuery

/-- Bindings of texts, in the order in which the texts were first bound. -/
abbrev Dictionary (α : Type) := List (String × α)

namespace Dictionary

variable {α : Type}

/-- What a key is bound to. -/
def get? (key : String) : Dictionary α → Option α
  | [] => none
  | (k, a) :: rest => if k = key then some a else get? key rest

/-- Binds a key. -/
def insert (key : String) (a : α) : Dictionary α → Dictionary α
  | [] => [(key, a)]
  | (k, b) :: rest => if k = key then (k, a) :: rest else (k, b) :: insert key a rest

/-- Binds keys one after the other. -/
def insertAll (d : Dictionary α) (bindings : List (String × α)) : Dictionary α :=
  bindings.foldl (fun d (key, a) => insert key a d) d

theorem get?_insert_self (key : String) (a : α) (d : Dictionary α) : get? key (insert key a d) = some a := by
  induction d with
  | nil => simp [insert, get?]
  | cons b rest ih =>
    obtain ⟨k, b⟩ := b
    by_cases h : k = key <;> simp [insert, get?, h, ih]

theorem get?_insert_of_ne {key other : String} (h : key ≠ other) (a : α) (d : Dictionary α) :
    get? other (insert key a d) = get? other d := by
  induction d with
  | nil => simp [insert, get?, h]
  | cons b rest ih =>
    obtain ⟨k, b⟩ := b
    by_cases hk : k = key
    · subst hk
      simp [insert, get?, h]
    · by_cases ho : k = other
      · subst ho
        simp [insert, get?, hk]
      · simp [insert, get?, hk, ho, ih]

theorem get?_eq_none {key : String} {d : Dictionary α} (h : ∀ b ∈ d, b.1 ≠ key) : get? key d = none := by
  induction d with
  | nil => rfl
  | cons b rest ih =>
    obtain ⟨k, b⟩ := b
    obtain ⟨hk, hrest⟩ := List.forall_mem_cons.mp h
    exact (if_neg hk).trans (ih hrest)

theorem mem_of_get? {key : String} {a : α} {d : Dictionary α} (h : get? key d = some a) : (key, a) ∈ d := by
  induction d with
  | nil => cases h
  | cons b rest ih =>
    obtain ⟨k, b⟩ := b
    rw [get?] at h
    split at h
    · next hk =>
      cases h
      exact hk ▸ List.mem_cons_self
    · exact List.mem_cons_of_mem _ (ih h)

end Dictionary

end ClusterQuery
