import ClusterQuery.Cluster.Session
import ClusterQuery.Proofs.Cluster.Recording
import ClusterQuery.Proofs.Query.Pipeline
import ClusterQuery.Proofs.Result

/-! A session remembers what its cluster serves, and nobody can tell but by what the server is asked for. Of a
    server whose answers do not change, a session knows nothing or what finding out gives; a step gives the same in
    both, and only where nothing is known does it ask again before it asks for what it needs of its own. -/

namespace ClusterQuery

/-! ### Steps -/

/-- One thing that a session is used for. Nothing of it is cancelled. -/
inductive SessionStep where
  | list (source : Source)
  /-- A query, as it is typed. -/
  | query (text : List Char)
  | resolve (name : String)
  | resources
  | version
  | currentNamespace

namespace SessionStep

/-- What a step gives. -/
def Reply : SessionStep → Type
  | .list _ => Except Failure (List Document)
  | .query _ => Except (RunError Failure) QueryResult
  | .resolve _ => Except Failure Resource
  | .resources => Except Failure Catalog
  | .version => Except Failure String
  | .currentNamespace => String

variable (server : Server) (engine : Engine) (cpus : Nat)

/-- The answer to a query as it is typed. -/
def answerText (text : List Char) : StateT Session (StateM (List String)) (Except (RunError Failure) QueryResult) :=
  match Query.parse engine.aliases text with
  | .error e => pure (.error (.query e))
  | .ok q => Session.answer server.recorded engine cpus .never q

/-- A step with a server that keeps what it is asked for. -/
def perform : (step : SessionStep) → StateT Session (StateM (List String)) step.Reply
  | .list source => Session.list server.recorded false source
  | .query text => answerText server engine cpus text
  | .resolve name => Session.resolve server.recorded name
  | .resources => Session.resources server.recorded
  | .version => Session.version server.recorded
  | .currentNamespace => return (← get).current

/-- What a step shows in a session: what it gives, what the server is asked for, and the session after it. -/
structure Observed (step : SessionStep) where
  reply : step.Reply
  asked : List String
  session : Session

def observe (step : SessionStep) (s : Session) : Observed step :=
  let ((reply, session), asked) := ((step.perform server engine cpus).run s).run []
  ⟨reply, asked, session⟩

/-- The session after steps, one after the other. -/
def after (steps : List SessionStep) (s : Session) : Session :=
  steps.foldl (fun s step => (step.observe server engine cpus s).session) s

/-! ### What steps need -/

/-- The source that a step lists. A query comes to its listing if it can be read and if everything is ready for it
    that does not depend on the cluster. -/
def listed? : SessionStep → Option Source
  | .list source => some source
  | .query text =>
    match Query.parse engine.aliases text with
    | .error _ => none
    | .ok q => (engine.plan q).toOption.map Plan.source
  | _ => none

/-- Whether a step needs to know what the cluster serves. -/
def needsCatalog (step : SessionStep) : Bool :=
  match step with
  | .resolve _ | .resources => true
  | step => (step.listed? engine).isSome

/-- Whether one of some steps has found out what the cluster serves: it had to, and the server let it. -/
def discovered (steps : List SessionStep) : Bool := steps.any (needsCatalog engine) && server.discovery.1.isOk

/-- The resource of a server that answers to a name. -/
def resolved (name : String) : Except Failure Resource := do
  (Catalog.find (← server.discovery.1) name).mapError .unknownResource

/-- The documents of a source from a server, and the targets that are asked for once its resource is known. -/
def listing (current : String) (source : Source) : Except Failure (List Document) × List String :=
  match resolved server source.resource with
  | .error e => (.error e, [])
  | .ok r =>
    let target := r.listTarget source.scope current
    (Session.documents r (server.reply target), Server.sent target)

/-- The targets that a step asks for on its own account. -/
def ownTargets (current : String) (step : SessionStep) : List String :=
  match step with
  | .version => ["/version"]
  | step =>
    match step.listed? engine with
    | some source => (listing server current source).2
    | none => []

end SessionStep

/-! ### What a session knows -/

namespace Session

variable (server : Server) (current : String)

/-- A session after it has tried to find out what its server serves. -/
def tried : Session := { current, catalog := server.discovery.1.toOption }

/-- A session that knows nothing of its server or what finding out gives. -/
def Honest (s : Session) : Prop := s = { current } ∨ s = tried server current

/-- The targets that a session has to ask for before it knows what its server serves. -/
def pending (s : Session) : List String := if s.catalog.isSome then [] else server.discovery.2

variable {server current} {s : Session}

theorem Honest.current_eq (h : s.Honest server current) : s.current = current := by
  rcases h with rfl | rfl <;> rfl

/-- A session that knows what its server serves knows what finding out gives. -/
theorem Honest.of_catalog_eq_some (h : s.Honest server current) {catalog : Catalog} (hc : s.catalog = some catalog) :
    server.discovery.1 = .ok catalog ∧ s = tried server current := by
  rcases h with rfl | rfl
  · cases hc
  · exact ⟨Except.toOption_eq_some_iff.mp hc, rfl⟩

section Runs
variable {m : Type → Type} [Monad m] [LawfulMonad m] {request : String → m Response}

theorem resources_run_of_some {catalog : Catalog} (h : s.catalog = some catalog) :
    (resources request).run s = pure (.ok catalog, s) := by
  unfold resources
  rw [StateT.run_bind]
  simp only [StateT.run_get, pure_bind, h]
  rfl

theorem resources_run_of_none (h : s.catalog = none) :
    (resources request).run s =
      Discovery.catalog request >>= fun found => pure (found, { s with catalog := found.toOption }) := by
  obtain ⟨current, catalog⟩ := s
  obtain rfl : catalog = none := h
  unfold resources
  rw [StateT.run_bind]
  simp only [StateT.run_get, pure_bind]
  rw [StateT.run_bind]
  simp only [StateT.run_monadLift, bind_assoc, pure_bind, monadLift_self]
  congr 1
  funext found
  cases found <;> simp [Except.toOption]

theorem version_run :
    (version request).run s =
      Discovery.read? request readVersion? "/version" >>= fun told =>
        pure (told.elim (.error .serverVersion) .ok, s) := by
  unfold version
  rw [StateT.run_bind]
  simp only [StateT.run_monadLift, bind_assoc, pure_bind, monadLift_self]
  congr 1
  funext told
  cases told <;> rfl

end Runs

/-- What the cluster serves is what finding out gives, whether that is known or not. -/
theorem Honest.run_resources (h : s.Honest server current) (asked : List String) :
    ((resources server.recorded).run s).run asked =
      ((server.discovery.1, tried server current), asked ++ s.pending server) := by
  unfold pending
  cases hc : s.catalog with
  | some catalog =>
    obtain ⟨hfound, rfl⟩ := h.of_catalog_eq_some hc
    rw [resources_run_of_some hc, hfound, Option.isSome_some, if_pos rfl, List.append_nil]
    rfl
  | none =>
    obtain rfl : s.current = current := h.current_eq
    rw [resources_run_of_none hc, StateT.run_bind, server.run_catalog]
    rfl

theorem Honest.run_resolve (h : s.Honest server current) (name : String) (asked : List String) :
    ((resolve server.recorded name).run s).run asked =
      ((SessionStep.resolved server name, tried server current), asked ++ s.pending server) := by
  unfold resolve SessionStep.resolved
  rw [StateT.run_bind, StateT.run_bind, h.run_resources]
  cases server.discovery.1 <;> rfl

theorem Honest.run_list (h : s.Honest server current) (source : Source) (asked : List String) :
    ((list server.recorded false source).run s).run asked =
      (((SessionStep.listing server current source).1, tried server current),
        asked ++ (s.pending server ++ (SessionStep.listing server current source).2)) := by
  unfold list SessionStep.listing
  rw [if_neg Bool.false_ne_true, StateT.run_bind, StateT.run_bind, h.run_resolve]
  cases SessionStep.resolved server source.resource with
  | error e =>
    rw [List.append_nil]
    rfl
  | ok r =>
    let target := r.listTarget source.scope current
    let finish (answer : Response × List String) := ((documents r answer.1, tried server current), answer.2)
    show finish ((Response.ask server.recorded target).run (asked ++ s.pending server)) = _
    rw [server.run_ask, List.append_assoc]

theorem run_version (s : Session) (asked : List String) :
    ((version server.recorded).run s).run asked =
      (((server.told readVersion? "/version").elim (.error .serverVersion) .ok, s), asked ++ ["/version"]) := by
  have hsent : Server.sent "/version" = ["/version"] := by decide
  rw [version_run, StateT.run_bind, server.run_read?, hsent]
  rfl

end Session

namespace SessionStep

variable (server : Server) (engine : Engine) (cpus : Nat) (current : String) {s : Session}

/-- A query that comes to its listing gives the outcome of its plan, and any other one the same error always. -/
theorem answerText_eq (text : List Char) :
    (∃ p source, (SessionStep.query text).listed? engine = some source ∧
      answerText server engine cpus text = Plan.outcome p <$> Session.list server.recorded false source) ∨
    ∃ e, (SessionStep.query text).listed? engine = none ∧
      answerText server engine cpus text = pure (.error (.query e)) := by
  unfold answerText Session.answer
  cases hq : Query.parse engine.aliases text with
  | error e => exact .inr ⟨e, by simp [listed?, hq], rfl⟩
  | ok q =>
    dsimp only
    cases hp : engine.plan q with
    | error e =>
      refine .inr ⟨e, by simp [listed?, hq, hp, Except.toOption], ?_⟩
      rw [Engine.run, hp]
    | ok p => exact .inl ⟨p, p.source, by simp [listed?, hq, hp, Except.toOption], Engine.run_of_plan hp cpus _⟩

/-- What a step gives does not depend on what its session knows, which decides only on whether the step asks what the
    server serves. -/
theorem exists_reply (step : SessionStep) :
    ∃ reply, ∀ s, Session.Honest server current s → ∀ asked,
      ((step.perform server engine cpus).run s).run asked =
        ((reply, if step.needsCatalog engine then Session.tried server current else s),
          asked ++ ((if step.needsCatalog engine then s.pending server else []) ++
            step.ownTargets server engine current)) := by
  -- What a session knows is looked at only in the steps that need to know what is served.
  cases step with
  | list source => exact ⟨(listing server current source).1, fun s h asked => h.run_list source asked⟩
  | query text =>
    rcases answerText_eq server engine cpus text with
      ⟨p, source, hsource, heq⟩ | ⟨e, hsource, heq⟩
    · refine ⟨p.outcome (listing server current source).1, fun s h asked => ?_⟩
      have hlist := h.run_list source asked
      have hneeds : (SessionStep.query text).needsCatalog engine = true := by simp [needsCatalog, hsource]
      have hown : (SessionStep.query text).ownTargets server engine current = (listing server current source).2 := by
        simp [ownTargets, hsource]
      show ((answerText server engine cpus text).run s).run asked = _
      rw [heq, hneeds, hown, if_pos rfl, if_pos rfl, StateT.run_map, StateT.run_map, hlist]
      rfl
    · refine ⟨.error (.query e), fun s h asked => ?_⟩
      have hneeds : (SessionStep.query text).needsCatalog engine = false := by simp [needsCatalog, hsource]
      have hown : (SessionStep.query text).ownTargets server engine current = [] := by simp [ownTargets, hsource]
      show ((answerText server engine cpus text).run s).run asked = _
      rw [heq, hneeds, hown, if_neg Bool.false_ne_true, if_neg Bool.false_ne_true, List.append_nil, List.append_nil]
      rfl
  | resolve name =>
    refine ⟨resolved server name, fun s h asked => ?_⟩
    show _ = (_, asked ++ (s.pending server ++ []))
    rw [List.append_nil]
    exact h.run_resolve name asked
  | resources =>
    refine ⟨server.discovery.1, fun s h asked => ?_⟩
    show _ = (_, asked ++ (s.pending server ++ []))
    rw [List.append_nil]
    exact h.run_resources asked
  | version =>
    exact ⟨_, fun s _ asked => Session.run_version s asked⟩
  | currentNamespace =>
    refine ⟨current, fun s h asked => ?_⟩
    show ((s.current, s), asked) = ((current, s), asked ++ [])
    rw [h.current_eq, List.append_nil]

variable {server engine cpus current} in
theorem observe_session (h : s.Honest server current) (step : SessionStep) :
    (step.observe server engine cpus s).session =
      if step.needsCatalog engine then Session.tried server current else s := by
  obtain ⟨reply, hreply⟩ := step.exists_reply server engine cpus current
  unfold observe
  rw [hreply s h []]

variable {server engine cpus current} in
/-- After some steps a session has tried to find out what its server serves if one of them needed that. -/
theorem after_eq (h : s.Honest server current) (steps : List SessionStep) :
    after server engine cpus steps s =
      if steps.any (needsCatalog engine) then Session.tried server current else s := by
  induction steps generalizing s with
  | nil => rfl
  | cons step steps ih =>
    show after server engine cpus steps (step.observe server engine cpus s).session = _
    rw [observe_session h, List.any_cons]
    cases hneeds : step.needsCatalog engine with
    | false => exact ih h
    | true =>
      rw [if_pos rfl, ih (.inr rfl), Bool.true_or, if_pos rfl]
      exact ite_self _

theorem honest_after (steps : List SessionStep) :
    (after server engine cpus steps { current }).Honest server current := by
  rw [after_eq (.inl rfl)]
  split
  · exact .inr rfl
  · exact .inl rfl

/-- A session knows what its server serves just if one of its steps has found that out. -/
theorem isSome_catalog_after (steps : List SessionStep) :
    (after server engine cpus steps { current }).catalog.isSome = discovered server engine steps := by
  rw [after_eq (.inl rfl)]
  unfold discovered
  cases steps.any (needsCatalog engine) with
  | false => rfl
  | true =>
    rw [if_pos rfl, Bool.true_and, Session.tried]
    cases server.discovery.1 <;> rfl

/-- Whatever steps came before it, a step gives what it gives in a new session. It asks for what it asks for in a new
    session too, only that it leaves out what finding out asks for if one of the steps before it has found out. -/
theorem observe_after_eq (server : Server) (engine : Engine) (cpus : Nat) (current : String)
    (before : List SessionStep) (step : SessionStep) :
    let alone := step.observe server engine cpus { current }
    let now := step.observe server engine cpus (after server engine cpus before { current })
    let finding (needed : Bool) := if needed then server.discovery.2 else []
    now.reply = alone.reply ∧
      alone.asked = finding (step.needsCatalog engine) ++ step.ownTargets server engine current ∧
      now.asked = finding (step.needsCatalog engine && !discovered server engine before) ++
        step.ownTargets server engine current ∧
      (after server engine cpus before { current }).catalog.isSome = discovered server engine before := by
  obtain ⟨reply, hreply⟩ := step.exists_reply server engine cpus current
  have halone := hreply { current } (.inl rfl) []
  have hnow := hreply _ (honest_after server engine cpus current before) []
  have hknown := isSome_catalog_after server engine cpus current before
  refine ⟨?_, ?_, ?_, hknown⟩
  · simp only [observe, halone, hnow]
  · simp only [observe, halone, List.nil_append]
    rfl
  · simp only [observe, hnow, List.nil_append, Session.pending, hknown]
    cases step.needsCatalog engine <;> cases discovered server engine before <;> rfl

end SessionStep

end ClusterQuery
