import ClusterQuery.Value.Scalar

/-! What texts are typed as. The readers of whole numbers, numbers, booleans, dates and quantities are asked in
    this order, and the first that reads a text settles its value. -/

namespace ClusterQuery.Scalar

/-- The value of a text, by the reader that reads it and those that were asked before. -/
inductive TypedAs (s : String) : Value → Prop
  | int {i : Int64} (h : readInt64? s.toList = some i) : TypedAs s (.int i)
  | float {x : Binary64} (hint : readInt64? s.toList = none) (h : readFloat? s.toList = some x) : TypedAs s (.float x)
  | bool {b : Bool} (hint : readInt64? s.toList = none) (hfloat : readFloat? s.toList = none)
      (h : readBool? s.toList = some b) : TypedAs s (.bool b)
  | date {d : Instant} (hint : readInt64? s.toList = none) (hfloat : readFloat? s.toList = none)
      (hbool : readBool? s.toList = none) (h : readDate? s.toList = some d) : TypedAs s (.date d)
  | quantity {v : Value} (hint : readInt64? s.toList = none) (hfloat : readFloat? s.toList = none)
      (hbool : readBool? s.toList = none) (hdate : readDate? s.toList = none) (h : readQuantity? s.toList = some v) :
      TypedAs s v
  | text (hint : readInt64? s.toList = none) (hfloat : readFloat? s.toList = none) (hbool : readBool? s.toList = none)
      (hdate : readDate? s.toList = none) (hquantity : readQuantity? s.toList = none) : TypedAs s (.text s)

theorem typedAs_read (s : String) : TypedAs s (read s) := by
  unfold read
  dsimp only
  cases hint : readInt64? s.toList with
  | some i => exact .int hint
  | none =>
    cases hfloat : readFloat? s.toList with
    | some x => exact .float hint hfloat
    | none =>
      cases hbool : readBool? s.toList with
      | some b => exact .bool hint hfloat hbool
      | none =>
        cases hdate : readDate? s.toList with
        | some d => exact .date hint hfloat hbool hdate
        | none =>
          cases hquantity : readQuantity? s.toList with
          | some v => exact .quantity hint hfloat hbool hdate hquantity
          | none => exact .text hint hfloat hbool hdate hquantity

theorem number_of_readQuantity? {cs : List Char} {v : Value} (h : readQuantity? cs = some v) :
    (∃ i, v = .int i) ∨ ∃ x, v = .float x := by
  obtain ⟨factor, -, h⟩ := Option.bind_eq_some_iff.mp h
  split at h
  · next i _ => exact .inl ⟨i, (Option.some.inj h).symm⟩
  · obtain ⟨x, -, hx⟩ := Option.map_eq_some_iff.mp h
    exact .inr ⟨_, hx.symm⟩

/-- A text is typed as a number, a boolean, a date or itself. -/
theorem read_cases (s : String) :
    (∃ i, read s = .int i) ∨ (∃ x, read s = .float x) ∨ (∃ b, read s = .bool b) ∨ (∃ d, read s = .date d) ∨
      read s = .text s := by
  have h := typedAs_read s
  generalize read s = v at h
  cases h with
  | int _ => exact .inl ⟨_, rfl⟩
  | float _ _ => exact .inr (.inl ⟨_, rfl⟩)
  | bool _ _ _ => exact .inr (.inr (.inl ⟨_, rfl⟩))
  | date _ _ _ _ => exact .inr (.inr (.inr (.inl ⟨_, rfl⟩)))
  | quantity _ _ _ _ hquantity =>
    rcases number_of_readQuantity? hquantity with h | h
    · exact .inl h
    · exact .inr (.inl h)
  | text _ _ _ _ _ => exact .inr (.inr (.inr (.inr rfl)))

end ClusterQuery.Scalar
