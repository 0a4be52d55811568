import ClusterQuery.Predicate.Eval
import ClusterQuery.Proofs.Result

/-! What the value of an expression depends on. Evaluation asks its environment for the identifiers that an
    expression mentions and for nothing else: two environments that answer alike for these give the same result, and
    a failed lookup in a result is the answer that the environment gave for one of them. -/

namespace ClusterQuery

theorem nodup_eraseDups {α : Type} [DecidableEq α] (as : List α) : as.eraseDups.Nodup := by
  cases as with
  | nil => exact List.nodup_nil
  | cons a as =>
    rw [List.eraseDups_cons]
    refine List.nodup_cons.mpr ⟨fun hmem => ?_, nodup_eraseDups _⟩
    have := (List.mem_filter.mp (List.mem_eraseDups.mp hmem)).2
    simp at this
-- What is left after the head is filtered, so that it is no part of the list but is shorter.
termination_by as.length
decreasing_by exact Nat.lt_succ_of_le (List.length_filter_le _ as)

namespace Predicate

namespace Expr

variable {env env' : Environment} {e : Expr}

theorem mem_identifiers {name : String} : name ∈ e.identifiers ↔ name ∈ e.mentions := List.mem_eraseDups

theorem nodup_identifiers (e : Expr) : e.identifiers.Nodup := nodup_eraseDups _

/-! ### Environments that agree -/

mutual

theorem eval_congr_of_mentions : ∀ e : Expr, (∀ name ∈ e.mentions, env name = env' name) → e.eval env = e.eval env'
  | .literal _, _ => rfl
  | .null, _ => rfl
  | .ident name, h => h name List.mem_cons_self
  | .list items, h => by
    rw [eval, eval, evalAll_congr_of_mentions items h]
  | .not e, h => by
    rw [eval, eval, eval_congr_of_mentions e h]
  | .and a b, h => by
    obtain ⟨ha, hb⟩ := List.forall_mem_append.mp h
    rw [eval, eval, eval_congr_of_mentions a ha, eval_congr_of_mentions b hb]
  | .or a b, h => by
    obtain ⟨ha, hb⟩ := List.forall_mem_append.mp h
    rw [eval, eval, eval_congr_of_mentions a ha, eval_congr_of_mentions b hb]
  | .compare op a b, h => by
    obtain ⟨ha, hb⟩ := List.forall_mem_append.mp h
    rw [eval, eval, eval_congr_of_mentions a ha, eval_congr_of_mentions b hb]
  | .isLike e pattern negated, h => by
    rw [eval, eval, eval_congr_of_mentions e h]
  | .isIn e set negated, h => by
    obtain ⟨he, hset⟩ := List.forall_mem_append.mp h
    rw [eval, eval, eval_congr_of_mentions e he, eval_congr_of_mentions set hset]
  | .between e low high negated, h => by
    obtain ⟨hfront, hhigh⟩ := List.forall_mem_append.mp h
    obtain ⟨he, hlow⟩ := List.forall_mem_append.mp hfront
    rw [eval, eval, eval_congr_of_mentions e he, eval_congr_of_mentions low hlow, eval_congr_of_mentions high hhigh]
  | .isNull e negated, h => by
    rw [eval, eval, eval_congr_of_mentions e h]
  | .call f argument, h => by
    rw [eval, eval, eval_congr_of_mentions argument h]

theorem evalAll_congr_of_mentions :
    ∀ es : List Expr, (∀ name ∈ mentionsOf es, env name = env' name) → evalAll env es = evalAll env' es
  | [], _ => rfl
  | e :: es, h => by
    obtain ⟨he, hes⟩ := List.forall_mem_append.mp h
    rw [evalAll, evalAll, eval_congr_of_mentions e he, evalAll_congr_of_mentions es hes]

end

/-- Environments that agree on the identifiers of an expression, be it on values or on errors, give it the same result. -/
theorem eval_congr (h : ∀ name ∈ e.identifiers, env name = env' name) : e.eval env = e.eval env' :=
  eval_congr_of_mentions e fun name hname => h name (mem_identifiers.mpr hname)

/-! ### Failed lookups -/

/-- A result that fails with a lookup only where the environment does so for one of some names. -/
def AsksOnly {α : Type} (env : Environment) (names : List String) (x : Except EvalError α) : Prop :=
  ∀ n reason, x = .error (.lookup n reason) → ∃ name ∈ names, env name = .error (.lookup n reason)

namespace AsksOnly

variable {α β : Type} {names more : List String} {x : Except EvalError α} {f : α → Except EvalError β}

theorem ok (a : α) : AsksOnly env names (.ok a) := fun _ _ h => nomatch h

theorem mono (h : AsksOnly env names x) (hsub : names ⊆ more) : AsksOnly env more x := fun n reason hx => by
  obtain ⟨name, hname, henv⟩ := h n reason hx
  exact ⟨name, hsub hname, henv⟩

theorem bind (hx : AsksOnly env names x) (hf : ∀ a, AsksOnly env names (f a)) : AsksOnly env names (x >>= f) := by
  intro n reason h
  rcases Except.bind_eq_error_iff.mp h with h | ⟨a, -, h⟩
  · exact hx n reason h
  · exact hf a n reason h

theorem append (hx : AsksOnly env names x) (hf : ∀ a, AsksOnly env more (f a)) :
    AsksOnly env (names ++ more) (x >>= f) :=
  (hx.mono (List.subset_append_left names more)).bind fun a => (hf a).mono (List.subset_append_right names more)

theorem truthy (v : Option Value) : AsksOnly env names (truthy v) := by
  intro n reason h
  unfold Predicate.truthy at h
  split at h <;> cases h

theorem apply (g : Function) (v : Option Value) : AsksOnly env names (g.apply v) := by
  intro n reason h
  unfold Function.apply at h
  split at h <;> cases h

end AsksOnly

mutual

theorem asksOnly_mentions : ∀ e : Expr, AsksOnly env e.mentions (e.eval env)
  | .literal v => .ok (some v)
  | .null => .ok none
  | .ident name => fun _ _ h => ⟨name, List.mem_cons_self, h⟩
  | .list items => by
    rw [eval]
    exact (asksOnly_mentionsOf items).bind fun _ => .ok _
  | .not e => by
    rw [eval]
    exact (asksOnly_mentions e).bind fun v => (AsksOnly.truthy v).bind fun _ => .ok _
  | .and a b => by
    rw [eval]
    refine (asksOnly_mentions a).append fun v => (AsksOnly.truthy v).bind fun t => ?_
    cases t with
    | true => exact (asksOnly_mentions b).bind fun w => (AsksOnly.truthy w).bind fun _ => .ok _
    -- The other operand is not asked for.
    | false => exact .ok _
  | .or a b => by
    rw [eval]
    refine (asksOnly_mentions a).append fun v => (AsksOnly.truthy v).bind fun t => ?_
    cases t with
    | true => exact .ok _
    | false => exact (asksOnly_mentions b).bind fun w => (AsksOnly.truthy w).bind fun _ => .ok _
  | .compare op a b => by
    rw [eval]
    exact (asksOnly_mentions a).append fun _ => (asksOnly_mentions b).bind fun _ => .ok _
  | .isLike e pattern negated => by
    rw [eval]
    exact (asksOnly_mentions e).bind fun _ => .ok _
  | .isIn e set negated => by
    rw [eval]
    exact (asksOnly_mentions e).append fun _ => (asksOnly_mentions set).bind fun _ => .ok _
  | .between e low high negated => by
    rw [eval, mentions, List.append_assoc]
    exact (asksOnly_mentions e).append fun _ =>
      (asksOnly_mentions low).append fun _ => (asksOnly_mentions high).bind fun _ => .ok _
  | .isNull e negated => by
    rw [eval]
    exact (asksOnly_mentions e).bind fun _ => .ok _
  | .call f argument => by
    rw [eval]
    exact (asksOnly_mentions argument).bind fun v => .apply f v

theorem asksOnly_mentionsOf : ∀ es : List Expr, AsksOnly env (mentionsOf es) (evalAll env es)
  | [] => .ok []
  | e :: es => by
    rw [evalAll]
    exact (asksOnly_mentions e).append fun _ => (asksOnly_mentionsOf es).bind fun _ => .ok _

end

/-- A failed lookup in the result is the answer of the environment for an identifier of the expression. -/
theorem asksOnly_identifiers (e : Expr) : AsksOnly env e.identifiers (e.eval env) :=
  (asksOnly_mentions e).mono fun _ => mem_identifiers.mpr

end Expr

end Predicate

end ClusterQuery
