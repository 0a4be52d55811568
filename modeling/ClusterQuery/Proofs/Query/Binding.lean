import ClusterQuery.Proofs.Predicate.Identifiers
import ClusterQuery.Query.Bindings

/-! Bindings cover what evaluation asks for. A predicate is bound name by name before any document is looked at, and
    its value in a document depends on these names only, so that no evaluation comes to a name without a binding. -/

namespace ClusterQuery

theorem getElem?_toList_append {s t : String} {i : Nat} {c : Char} (h : s.toList[i]? = some c) :
    (s ++ t).toList[i]? = some c := by
  rw [String.toList_append, List.getElem?_append_left (List.getElem?_eq_some_iff.mp h).1, h]

/-- What a failed reducer says is not what is said of a name without a binding: their third characters differ. -/
theorem Reducer.Error.message_ne_unbound (e : Reducer.Error) : e.message ≠ "unbound identifier" := by
  intro h
  have hunbound : e.message.toList[2]? = some 'b' := by
    rw [h]
    rfl
  cases e with
  | unknown name =>
    have hchar : (Error.unknown name).message.toList[2]? = some 'k' :=
      getElem?_toList_append (getElem?_toList_append (by rfl))
    rw [hchar] at hunbound
    cases hunbound
  | notAList reducer found =>
    have hchar : (Error.notAList reducer found).message.toList[2]? = some 'd' :=
      getElem?_toList_append (getElem?_toList_append (getElem?_toList_append (by rfl)))
    rw [hchar] at hunbound
    cases hunbound

namespace Bindings

open Predicate

variable {aliases : AliasTable} {selected : List SelectItem} {b : Bindings} {name : String}

theorem ofNames_eq_ok {names : List String} (h : ofNames aliases selected names = .ok b) :
    List.Forall₂ (fun name binding => binding.1 = name ∧ fieldOf aliases selected name = .ok binding.2) names b.fields := by
  obtain ⟨fields, hfields, hb⟩ := Except.bind_eq_ok_iff.mp h
  cases hb
  refine (Except.mapM_eq_ok_iff.mp hfields).imp fun name binding hbinding => ?_
  obtain ⟨field, hfield, rfl⟩ := Except.map_eq_ok_iff.mp hbinding
  exact ⟨rfl, hfield⟩

theorem exists_get?_of_ofNames {names : List String} (h : ofNames aliases selected names = .ok b) (hname : name ∈ names) :
    ∃ field, fieldOf aliases selected name = .ok field ∧ b.fields.get? name = some field := by
  have hbound := ofNames_eq_ok h
  generalize b.fields = fields at hbound ⊢
  clear h
  induction hbound with
  | nil => cases hname
  | @cons first binding names fields hfirst _ ih =>
    obtain ⟨key, field⟩ := binding
    obtain ⟨rfl, hfield⟩ := hfirst
    by_cases hkey : key = name
    · subst hkey
      exact ⟨field, hfield, if_pos rfl⟩
    · obtain ⟨found, hfound, hget⟩ := ih ((List.mem_cons.mp hname).resolve_left (Ne.symm hkey))
      exact ⟨found, hfound, (if_neg hkey).trans hget⟩

theorem lookup_of_resolve {p : Predicate} (h : resolve p selected aliases = .ok b) (hname : name ∈ p.identifiers)
    (doc : Document) : ∃ field, fieldOf aliases selected name = .ok field ∧
      b.lookup doc name = (field.value doc).mapError fun e => .lookup name e.message := by
  obtain ⟨field, hfield, hget⟩ := exists_get?_of_ofNames h hname
  refine ⟨field, hfield, ?_⟩
  rw [lookup, hget]

theorem lookup_ne_unbound {p : Predicate} (h : resolve p selected aliases = .ok b) (hname : name ∈ p.identifiers)
    (doc : Document) (n : String) : b.lookup doc name ≠ .error (.lookup n "unbound identifier") := by
  obtain ⟨field, -, hlookup⟩ := lookup_of_resolve h hname doc
  rw [hlookup]
  cases field.value doc with
  | ok v => exact fun hv => nomatch hv
  | error e =>
    intro he
    exact e.message_ne_unbound (EvalError.lookup.inj (Except.error.inj he)).2

theorem evaluate_ne_unbound {p : Predicate} (h : resolve p selected aliases = .ok b) (doc : Document) (n : String) :
    p.evaluate (b.lookup doc) ≠ .error (.lookup n "unbound identifier") := by
  intro herror
  obtain ⟨name, hname, hlookup⟩ := Expr.asksOnly_identifiers p.expr n "unbound identifier" herror
  exact lookup_ne_unbound h hname doc n hlookup

/-- A predicate whose names are bound is never evaluated at a name without a binding. In general the value of an
    expression, or its error, is settled by what the environment says of its identifiers, each of which is listed
    once. -/
theorem evaluation_asks_only_for_bound_identifiers :
    (∀ (p : Predicate) (selected : List SelectItem) (aliases : AliasTable) (b : Bindings),
      resolve p selected aliases = .ok b → ∀ (doc : Document) (name : String),
        p.evaluate (b.lookup doc) ≠ .error (.lookup name "unbound identifier") ∧
        b.holds p doc ≠ .error (.lookup name "unbound identifier")) ∧
    (∀ (e : Expr) (env env' : Environment), (∀ name ∈ e.identifiers, env name = env' name) → e.eval env = e.eval env') ∧
    ∀ e : Expr, e.identifiers.Nodup := by
  refine ⟨fun p selected aliases b h doc name => ?_, fun e env env' => Expr.eval_congr, Expr.nodup_identifiers⟩
  have hevaluate := evaluate_ne_unbound h doc name
  refine ⟨hevaluate, fun hholds => ?_⟩
  rcases Except.bind_eq_error_iff.mp hholds with herror | ⟨v, -, htruthy⟩
  · exact hevaluate herror
  · have hnames : Expr.AsksOnly (b.lookup doc) [] (truthy v) := .truthy v
    obtain ⟨_, hnone, -⟩ := hnames _ _ htruthy
    cases hnone

/-- A name that is bound to the count of what is no list fails in its lookup, but not as a name without a binding. -/
theorem evaluation_of_item_that_fails :
    (resolve ⟨"n > 1", .compare .gt (.ident "n") (.literal (.int 1))⟩ [⟨⟨⟨[.key "phase"]⟩, some .len⟩, "n", true⟩] .builtin =
        .ok ⟨[("n", ⟨⟨[.key "phase"]⟩, some .len⟩)]⟩ ∧
      (Predicate.mk "n > 1" (.compare .gt (.ident "n") (.literal (.int 1)))).evaluate
          (Bindings.lookup ⟨[("n", ⟨⟨[.key "phase"]⟩, some .len⟩)]⟩ (.object [("phase", .string "Running")])) ≠
        .error (.lookup "n" "unbound identifier")) ∧
    (Expr.ident "n").eval (fun _ => .ok none) =
      (Expr.ident "n").eval fun name => if name = "n" then .ok none else .error (.lookup name "other") := by
  obtain ⟨hbound, hagree, -⟩ := evaluation_asks_only_for_bound_identifiers
  have hresolve : resolve ⟨"n > 1", .compare .gt (.ident "n") (.literal (.int 1))⟩
      [⟨⟨⟨[.key "phase"]⟩, some .len⟩, "n", true⟩] .builtin = .ok ⟨[("n", ⟨⟨[.key "phase"]⟩, some .len⟩)]⟩ := by rfl
  refine ⟨⟨hresolve, (hbound _ _ _ _ hresolve (.object [("phase", .string "Running")]) "n").1⟩, hagree _ _ _ ?_⟩
  intro name hname
  obtain rfl : name = "n" := List.mem_singleton.mp (Expr.mem_identifiers.mp hname)
  rfl

end Bindings

end ClusterQuery
