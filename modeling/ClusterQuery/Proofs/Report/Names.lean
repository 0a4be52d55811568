import ClusterQuery.Proofs.Path.Nodes
import ClusterQuery.Proofs.Path.RoundTrip
import ClusterQuery.Proofs.Query.Fields
import ClusterQuery.Proofs.Value.ObjectName
import ClusterQuery.Report.Basic

/-! Reports of names. The item `name` is the name of an object as a value, and a report of names writes this value on
    a line. The line is the name for all names but those that lose their text. -/

namespace ClusterQuery

/-! ### The item -/

/-- The field of the item `name`. -/
def Field.ofName : Field := ⟨⟨[.key "metadata", .key "name"]⟩, none⟩

theorem Field.parse_name : Field.parse .builtin "name".toList = .ok (.ofName, "name".toList) := by
  have hpath := (Path.WellFormed.parse_render_iff (p := Field.ofName.path) (by decide)).mpr (by decide)
  have htarget : target .builtin none "name".toList = .ok (none, "metadata.name".toList) := by cbv
  exact parse_eq_ok_iff.mpr ⟨rfl, none, "name".toList, rfl, by decide, _, htarget, hpath, rfl⟩

theorem Field.value_ofName {s : String} {doc : Document} (hs : s ≠ "")
    (hdoc : (doc.field? "metadata").bind (Json.field? "name") = some (.string s)) :
    Field.ofName.value doc = .ok (some (Scalar.read s)) := by
  obtain ⟨metadata, hmetadata, hname⟩ := Option.bind_eq_some_iff.mp hdoc
  have hnull : metadata ≠ .null := fun he => by
    rw [he] at hname
    cases hname
  have hfollow : follow Field.ofName.path.steps doc = .one (.string s) := by
    show follow [.key "metadata", .key "name"] doc = _
    rw [follow_of_part? Step.noConfusion ((part?_key _ _).trans hmetadata) hnull,
      follow_of_part? Step.noConfusion ((part?_key _ _).trans hname) Json.noConfusion]
    rfl
  show Except.ok (Field.ofName.path.extract doc) = _
  rw [Path.extract_of_text hs hfollow]

/-! ### Lines -/

theorem Report.names_cons (v : Value) (titles : List String) (cells : List (Option Value)) (rows : List (List (Option Value))) :
    Report.names ⟨titles, (some v :: cells) :: rows⟩ =
      (if v.display.isEmpty then [] else v.display ++ ['\n']) ++ Report.names ⟨titles, rows⟩ :=
  rfl

theorem Report.names_cons_iff {text : List Char} (htext : text ≠ []) (v : Value) (titles : List String)
    (cells : List (Option Value)) (rows : List (List (Option Value))) :
    Report.names ⟨titles, (some v :: cells) :: rows⟩ = text ++ '\n' :: Report.names ⟨titles, rows⟩ ↔ v.display = text := by
  have hline : text ++ '\n' :: Report.names ⟨titles, rows⟩ = (text ++ ['\n']) ++ Report.names ⟨titles, rows⟩ := by
    rw [List.append_assoc]
    rfl
  rw [Report.names_cons, hline]
  constructor
  · intro h
    have h := List.append_cancel_right h
    split at h
    · exact (List.append_ne_nil_of_right_ne_nil _ (List.cons_ne_nil _ _) h.symm).elim
    · exact List.append_cancel_right h
  · rintro rfl
    rw [if_neg (by simpa using htext)]

/-- The value of the item `name` in a document whose name is that of an object. It shows the name, and a report of
    names has the name on its line, if and only if the name does not lose its text. -/
theorem name_shows_itself_iff {s : String} {doc : Document} (hname : IsObjectName s.toList)
    (hdoc : (doc.field? "metadata").bind (Json.field? "name") = some (.string s)) :
    ∃ f text v, Field.parse .builtin "name".toList = .ok (f, text) ∧ f.value doc = .ok (some v) ∧
      (v.display = s.toList ↔ ¬LosesText s.toList) ∧
      ∀ titles cells rows, Report.names ⟨titles, (some v :: cells) :: rows⟩ =
        s.toList ++ '\n' :: Report.names ⟨titles, rows⟩ ↔ ¬LosesText s.toList := by
  have hs : s ≠ "" := fun he => hname.ne_nil (by rw [he]; rfl)
  refine ⟨.ofName, _, Scalar.read s, Field.parse_name, Field.value_ofName hs hdoc, Scalar.display_eq_iff hname,
    fun titles cells rows => ?_⟩
  rw [Report.names_cons_iff hname.ne_nil, Scalar.display_eq_iff hname]

theorem name_shows_itself_of_letter :
    IsObjectName "web-0.example".toList ∧ ∃ f text v, Field.parse .builtin "name".toList = .ok (f, text) ∧
      f.value (.object [("metadata", .object [("name", .string "web-0.example")])]) = .ok (some v) ∧
      v.display = "web-0.example".toList := by
  have hname : IsObjectName "web-0.example".toList := by decide
  have hkept : ¬LosesText "web-0.example".toList := not_losesText_of_letter ⟨'w', rfl, rfl⟩
  obtain ⟨f, text, v, hf, hv, hdisplay, -⟩ := name_shows_itself_iff hname
    (show (Json.field? "metadata" (.object [("metadata", .object [("name", .string "web-0.example")])])).bind
      (Json.field? "name") = some (.string "web-0.example") from rfl)
  exact ⟨hname, f, text, v, hf, hv, hdisplay.mpr hkept⟩

/-- A name of digits loses the zeros in front. -/
theorem name_of_zeros_shows_number :
    IsObjectName "007".toList ∧ ∃ f text v, Field.parse .builtin "name".toList = .ok (f, text) ∧
      f.value (.object [("metadata", .object [("name", .string "007")])]) = .ok (some v) ∧
      v.display ≠ "007".toList ∧ Report.names ⟨["name"], [[some v]]⟩ = "7\n".toList := by
  refine ⟨by decide, .ofName, _, .int 7, Field.parse_name, ?_, ?_, ?_⟩
  · rfl
  · decide
  · rfl

end ClusterQuery
