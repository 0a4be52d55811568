import ClusterQuery.Proofs.Cluster.Recording
import ClusterQuery.Proofs.Result
import Mathlib.Data.List.Forall2

/-! What finding out gives. The catalog has an entry for every resource that can be listed, in the order in which the
    server tells of them. Each group has entries of its own: a group that cannot be read has none, and the others keep
    theirs. -/

namespace ClusterQuery

/-! ### Entries -/

namespace Discovery

variable {group version : String} {listed : List ListedResource} {entries : List Resource} {g : Group} {v : GroupVersion}

/-- The entry of a resource says what the server says of it, and of which version of which group it is. -/
structure Describes (group version : String) (l : ListedResource) (r : Resource) : Prop where
  group : r.group = group
  version : r.version = version
  kind : r.kind = l.kind
  plural : r.plural = l.name
  singular : r.singular = if l.singularName = "" then lowerName l.kind else l.singularName
  shortNames : r.shortNames = l.shortNames
  namespaced : r.namespaced = l.namespaced

/-- The entries of a version of a group: one for each resource that is no part of another and can be listed, in their
    order. -/
def Lists (group version : String) (listed : List ListedResource) (entries : List Resource) : Prop :=
  List.Forall₂ (Describes group version) (listed.filter fun l => '/' ∉ l.name.toList ∧ "list" ∈ l.verbs) entries

theorem describes_iff {l : ListedResource} {r : Resource} : Describes group version l r ↔ l.resource group version = r := by
  constructor
  · intro h
    cases r
    rw [ListedResource.resource, Resource.mk.injEq]
    exact ⟨h.group.symm, h.version.symm, h.kind.symm, h.plural.symm, h.singular.symm, h.shortNames.symm, h.namespaced.symm⟩
  · rintro rfl
    exact ⟨rfl, rfl, rfl, rfl, rfl, rfl, rfl⟩

theorem lists_iff : Lists group version listed entries ↔ collect group version listed = entries := by
  have hlistable : (fun l : ListedResource => decide ('/' ∉ l.name.toList ∧ "list" ∈ l.verbs)) = (·.isListable) := by
    funext l
    simp [ListedResource.isListable]
  have hentries : ∀ ls : List ListedResource,
      List.Forall₂ (Describes group version) ls entries ↔ ls.map (fun l => l.resource group version) = entries := by
    intro ls
    rw [← List.forall₂_eq_eq_eq, List.forall₂_map_left_iff]
    exact ⟨fun h => h.imp fun _ _ => describes_iff.mp, fun h => h.imp fun _ _ => describes_iff.mpr⟩
  rw [Lists, hlistable, hentries]
  rfl

/-- The version in which a group is looked at: the preferred one, or else the first one. -/
inductive Group.LooksAt : Group → GroupVersion → Prop where
  | preferred {g : Group} {v : GroupVersion} (h : g.preferred = some v) : LooksAt g v
  | first {g : Group} {v : GroupVersion} {rest : List GroupVersion} (h : g.preferred = none) (hv : g.versions = v :: rest) :
    LooksAt g v

theorem Group.chosen?_eq_some_iff : g.chosen? = some v ↔ g.LooksAt v := by
  constructor
  · intro h
    unfold chosen? at h
    cases hp : g.preferred with
    | some p =>
      rw [hp] at h
      cases h
      exact .preferred hp
    | none =>
      rw [hp] at h
      obtain ⟨rest, hrest⟩ := List.head?_eq_some_iff.mp (show g.versions.head? = some v from h)
      exact .first hp hrest
  · rintro (h | ⟨h, hv⟩)
    · rw [chosen?, h]
      rfl
    · rw [chosen?, h, hv]
      rfl

theorem Group.chosen?_eq_none_iff : g.chosen? = none ↔ g.preferred = none ∧ g.versions = [] := by
  rw [chosen?]
  cases g.preferred <;> simp

/-- Whether what a group is asked for is among some targets. -/
def Group.isAskedAt (targets : List String) (g : Group) : Bool :=
  g.chosen?.any fun v => targets.contains ("/apis/" ++ v.groupVersion)

end Discovery

namespace Server

open Discovery

variable (server : Server)

/-- The entries of a core version that a server tells of. -/
def CoreEntries (version : String) (entries : List Resource) : Prop :=
  ∃ listed, server.told readResources? ("/api/" ++ version) = some listed ∧ Lists "" version listed entries

/-- The entries of a group that a server tells of. -/
inductive GroupEntries : Group → List Resource → Prop where
  /-- Without a version there is nothing to look at. -/
  | versionless {g : Group} (hp : g.preferred = none) (hv : g.versions = []) : GroupEntries g []
  | unavailable {g : Group} {v : GroupVersion} (hv : g.LooksAt v)
    (h : server.told readResources? ("/apis/" ++ v.groupVersion) = none) : GroupEntries g []
  | listed {g : Group} {v : GroupVersion} {listed : List ListedResource} {entries : List Resource} (hv : g.LooksAt v)
    (h : server.told readResources? ("/apis/" ++ v.groupVersion) = some listed)
    (hentries : Lists g.name v.version listed entries) : GroupEntries g entries

/-- What a server serves: its core versions and its groups, in its order, each with the entries of its own. -/
structure Serves (versions : List String) (core : List (List Resource)) (groups : List Group) (others : List (List Resource)) :
    Prop where
  toldVersions : server.told readVersions? "/api" = some versions
  core : List.Forall₂ server.CoreEntries versions core
  toldGroups : server.told readGroups? "/apis" = some groups
  others : List.Forall₂ server.GroupEntries groups others

/-- Why finding out fails: the first of the lists that everything rests on that cannot be read. -/
inductive FailsWith : Failure → Prop where
  | versions (h : server.told readVersions? "/api" = none) : FailsWith .coreVersions
  | resources {before after : List String} {version : String}
    (h : server.told readVersions? "/api" = some (before ++ version :: after))
    (hbefore : ∀ v ∈ before, server.told readResources? ("/api/" ++ v) ≠ none)
    (hversion : server.told readResources? ("/api/" ++ version) = none) : FailsWith (.coreResources version)
  | groups {versions : List String} (h : server.told readVersions? "/api" = some versions)
    (hall : ∀ v ∈ versions, server.told readResources? ("/api/" ++ v) ≠ none)
    (hgroups : server.told readGroups? "/apis" = none) : FailsWith .groups

/-! ### What a computation gives -/

/-- What a computation with a recorded server gives. -/
def given {α : Type} (x : StateM (List String) α) : α := (x.run []).1

theorem given_bind {α β : Type} {x : StateM (List String) α} {f : α → StateM (List String) β} {a : α} (hx : given x = a)
    (hf : Appends (f a)) : given (x >>= f) = given (f a) := by
  subst hx
  rw [given, StateT.run_bind]
  show ((f (given x)).run (x.run []).2).1 = _
  rw [hf]
  rfl

theorem given_read? {α : Type} (form : Json → Option α) (target : String) :
    given (Discovery.read? server.recorded form target) = server.told form target := by
  rw [given, run_read?]

theorem given_coreResources_cons (version : String) (versions : List String) :
    given (coreResources server.recorded (version :: versions)) =
      match server.told readResources? ("/api/" ++ version) with
      | none => .error (.coreResources version)
      | some listed => (given (coreResources server.recorded versions)).map (collect "" version listed ++ ·) := by
  cases htold : server.told readResources? ("/api/" ++ version) with
  | none => exact given_bind ((server.given_read? _ _).trans htold) (.pure _)
  | some listed =>
    refine (given_bind ((server.given_read? _ _).trans htold) ?_).trans (given_bind rfl (.pure _))
    exact (server.appends_coreResources versions).bind fun _ => .pure _

theorem given_groupResources_eq (g : Group) :
    given (groupResources server.recorded g) =
      match g.chosen? with
      | none => []
      | some v =>
        match server.told readResources? ("/apis/" ++ v.groupVersion) with
        | none => []
        | some listed => collect g.name v.version listed := by
  unfold groupResources
  cases g.chosen? with
  | none => rfl
  | some v =>
    dsimp only
    cases htold : server.told readResources? ("/apis/" ++ v.groupVersion) with
    | none => exact given_bind ((server.given_read? _ _).trans htold) (.pure _)
    | some listed => exact given_bind ((server.given_read? _ _).trans htold) (.pure _)

theorem given_groupsResources_cons (g : Group) (groups : List Group) :
    given (groupsResources server.recorded (g :: groups)) =
      given (groupResources server.recorded g) ++ given (groupsResources server.recorded groups) := by
  refine (given_bind rfl ?_).trans (given_bind rfl (.pure _))
  exact (server.appends_groupsResources groups).bind fun _ => .pure _

variable {server : Server}

/-- Core versions are gone through one by one, and every one of them has to be told of. -/
theorem given_coreResources_eq_ok_iff {versions : List String} {found : List Resource} :
    given (coreResources server.recorded versions) = .ok found ↔
      ∃ core, List.Forall₂ server.CoreEntries versions core ∧ found = core.flatten := by
  induction versions generalizing found with
  | nil =>
    constructor
    · intro h
      cases h
      exact ⟨[], .nil, rfl⟩
    · rintro ⟨_, ⟨⟩, rfl⟩
      rfl
  | cons version versions ih =>
    rw [given_coreResources_cons]
    constructor
    · intro h
      cases htold : server.told readResources? ("/api/" ++ version) with
      | none =>
        rw [htold] at h
        cases h
      | some listed =>
        rw [htold] at h
        obtain ⟨_, hothers, rfl⟩ := Except.map_eq_ok_iff.mp h
        obtain ⟨core, hcore, rfl⟩ := ih.mp hothers
        exact ⟨collect "" version listed :: core, .cons ⟨listed, htold, lists_iff.mpr rfl⟩ hcore, rfl⟩
    · rintro ⟨_, _ | ⟨⟨listed, htold, hlisted⟩, hcore⟩, rfl⟩
      rw [htold]
      exact Except.map_eq_ok_iff.mpr ⟨_, ih.mpr ⟨_, hcore, rfl⟩, by rw [lists_iff.mp hlisted]; rfl⟩

/-- The first core version that is not told of is what going through them fails with. -/
theorem given_coreResources_eq_error_iff_find? {versions : List String} {e : Failure} :
    given (coreResources server.recorded versions) = .error e ↔
      ∃ version, (versions.find? fun v => (server.told readResources? ("/api/" ++ v)).isNone) = some version ∧
        e = .coreResources version := by
  induction versions with
  | nil => exact iff_of_false (fun h => nomatch h) fun ⟨_, h, _⟩ => nomatch h
  | cons first versions ih =>
    rw [given_coreResources_cons, List.find?_cons]
    cases server.told readResources? ("/api/" ++ first) with
    | none =>
      constructor
      · intro h
        cases h
        exact ⟨first, rfl, rfl⟩
      · rintro ⟨version, h, rfl⟩
        cases h
        rfl
    | some listed =>
      refine Iff.trans ?_ ih
      cases given (coreResources server.recorded versions) <;> simp [Except.map]

theorem given_coreResources_eq_error_iff {versions : List String} {e : Failure} :
    given (coreResources server.recorded versions) = .error e ↔
      ∃ before version after, versions = before ++ version :: after ∧
        (∀ v ∈ before, server.told readResources? ("/api/" ++ v) ≠ none) ∧
        server.told readResources? ("/api/" ++ version) = none ∧ e = .coreResources version := by
  rw [given_coreResources_eq_error_iff_find?]
  simp only [List.find?_eq_some_iff_append, Option.isNone_iff_eq_none, Bool.not_eq_eq_eq_not, Bool.not_true,
    Option.isNone_eq_false_iff, Option.isSome_iff_ne_none]
  constructor
  · rintro ⟨version, ⟨hversion, before, after, rfl, hbefore⟩, he⟩
    exact ⟨before, version, after, rfl, hbefore, hversion, he⟩
  · rintro ⟨before, version, after, rfl, hbefore, hversion, he⟩
    exact ⟨version, ⟨hversion, before, after, rfl, hbefore⟩, he⟩

theorem groupEntries_iff {g : Group} {entries : List Resource} :
    server.GroupEntries g entries ↔ given (groupResources server.recorded g) = entries := by
  rw [given_groupResources_eq]
  constructor
  · intro h
    cases h with
    | versionless hp hv => rw [Group.chosen?_eq_none_iff.mpr ⟨hp, hv⟩]
    | unavailable hv htold =>
      rw [Group.chosen?_eq_some_iff.mpr hv]
      dsimp only
      rw [htold]
    | listed hv htold hentries =>
      rw [Group.chosen?_eq_some_iff.mpr hv]
      dsimp only
      rw [htold]
      exact lists_iff.mp hentries
  · rintro rfl
    cases hv : g.chosen? with
    | none =>
      obtain ⟨hp, hversions⟩ := Group.chosen?_eq_none_iff.mp hv
      exact .versionless hp hversions
    | some v =>
      have hlooks := Group.chosen?_eq_some_iff.mp hv
      dsimp only
      cases htold : server.told readResources? ("/apis/" ++ v.groupVersion) with
      | none => exact .unavailable hlooks htold
      | some listed => exact .listed hlooks htold (lists_iff.mpr rfl)

/-- Groups are gone through one by one, and each has the entries of its own. -/
theorem given_groupsResources_eq_iff {groups : List Group} {found : List Resource} :
    given (groupsResources server.recorded groups) = found ↔
      ∃ others, List.Forall₂ server.GroupEntries groups others ∧ found = others.flatten := by
  induction groups generalizing found with
  | nil =>
    constructor
    · rintro rfl
      exact ⟨[], .nil, rfl⟩
    · rintro ⟨_, ⟨⟩, rfl⟩
      rfl
  | cons g groups ih =>
    rw [given_groupsResources_cons]
    constructor
    · rintro rfl
      obtain ⟨others, hothers, hfound⟩ := ih.mp rfl
      exact ⟨_ :: others, .cons (groupEntries_iff.mpr rfl) hothers, by rw [hfound]; rfl⟩
    · rintro ⟨_, _ | ⟨hentries, hothers⟩, rfl⟩
      rw [groupEntries_iff.mp hentries, ih.mpr ⟨_, hothers, rfl⟩]
      rfl

/-! ### Finding out -/

theorem discovery_eq (server : Server) :
    server.discovery.1 =
      match server.told readVersions? "/api" with
      | none => .error .coreVersions
      | some versions =>
        match given (coreResources server.recorded versions) with
        | .error e => .error e
        | .ok core =>
          match server.told readGroups? "/apis" with
          | none => .error .groups
          | some groups => .ok (core ++ given (groupsResources server.recorded groups)) := by
  have happends : ∀ core : List Resource, Appends (Discovery.read? server.recorded readGroups? "/apis" >>= fun groups? =>
      match groups? with
      | none => (pure (.error .groups) : StateM (List String) (Except Failure Catalog))
      | some groups => groupsResources server.recorded groups >>= fun others => pure (.ok (core ++ others))) := fun core =>
    (server.appends_read? _ _).bind fun groups? => by
      cases groups? with
      | none => exact .pure _
      | some groups => exact (server.appends_groupsResources groups).bind fun _ => .pure _
  -- Each question is followed by what only asks for more, so that its answer stands.
  cases hversions : server.told readVersions? "/api" with
  | none => exact given_bind ((server.given_read? _ _).trans hversions) (.pure _)
  | some versions =>
    refine (given_bind ((server.given_read? _ _).trans hversions) ?_).trans ?_
    · refine (server.appends_coreResources versions).bind fun core => ?_
      cases core with
      | error e => exact .pure _
      | ok core => exact happends core
    dsimp only
    cases hcore : given (coreResources server.recorded versions) with
    | error e => exact given_bind hcore (.pure _)
    | ok core =>
      refine (given_bind hcore (happends core)).trans ?_
      cases hgroups : server.told readGroups? "/apis" with
      | none => exact given_bind ((server.given_read? _ _).trans hgroups) (.pure _)
      | some groups =>
        refine (given_bind ((server.given_read? _ _).trans hgroups) ?_).trans (given_bind rfl (.pure _))
        exact (server.appends_groupsResources groups).bind fun _ => .pure _

variable {server : Server}

/-- Where every core version is told of, going through them fails at none. -/
theorem exists_given_coreResources_iff {versions : List String} :
    (∃ found, given (coreResources server.recorded versions) = .ok found) ↔
      ∀ v ∈ versions, server.told readResources? ("/api/" ++ v) ≠ none := by
  constructor
  · rintro ⟨found, hfound⟩ v hv
    obtain ⟨core, hcore, -⟩ := given_coreResources_eq_ok_iff.mp hfound
    obtain ⟨entries, -, listed, htold, -⟩ := hcore.flip.exists_of_mem_right hv
    rw [htold]
    exact Option.some_ne_none _
  · intro hall
    cases hcore : given (coreResources server.recorded versions) with
    | ok found => exact ⟨found, rfl⟩
    | error e =>
      obtain ⟨before, version, after, rfl, -, hversion, -⟩ := given_coreResources_eq_error_iff.mp hcore
      exact (hall version (by simp) hversion).elim

theorem Serves.discovery_eq {versions : List String} {core : List (List Resource)} {groups : List Group}
    {others : List (List Resource)} (h : server.Serves versions core groups others) :
    server.discovery.1 = .ok (core.flatten ++ others.flatten) := by
  rw [Server.discovery_eq, h.toldVersions, h.toldGroups]
  dsimp only
  rw [given_coreResources_eq_ok_iff.mpr ⟨core, h.core, rfl⟩, given_groupsResources_eq_iff.mpr ⟨others, h.others, rfl⟩]

theorem FailsWith.discovery_eq {e : Failure} (h : server.FailsWith e) : server.discovery.1 = .error e := by
  rw [Server.discovery_eq]
  cases h with
  | versions hversions => rw [hversions]
  | resources hversions hbefore hversion =>
    rw [hversions]
    dsimp only
    rw [given_coreResources_eq_error_iff.mpr ⟨_, _, _, rfl, hbefore, hversion, rfl⟩]
  | groups hversions hall hgroups =>
    obtain ⟨found, hfound⟩ := exists_given_coreResources_iff.mpr hall
    rw [hversions, hgroups]
    dsimp only
    rw [hfound]

/-- A server serves something, or one of the lists fails that everything rests on. -/
theorem exists_serves_or_failsWith (server : Server) :
    (∃ versions core groups others, server.Serves versions core groups others) ∨ ∃ e, server.FailsWith e := by
  cases hversions : server.told readVersions? "/api" with
  | none => exact .inr ⟨_, .versions hversions⟩
  | some versions =>
    cases hfound : given (coreResources server.recorded versions) with
    | error e =>
      obtain ⟨before, version, after, rfl, hbefore, hversion, -⟩ := given_coreResources_eq_error_iff.mp hfound
      exact .inr ⟨_, .resources hversions hbefore hversion⟩
    | ok found =>
      cases hgroups : server.told readGroups? "/apis" with
      | none => exact .inr ⟨_, .groups hversions (exists_given_coreResources_iff.mp ⟨found, hfound⟩) hgroups⟩
      | some groups =>
        obtain ⟨core, hcore, -⟩ := given_coreResources_eq_ok_iff.mp hfound
        obtain ⟨others, hothers, -⟩ := given_groupsResources_eq_iff.mp (Eq.refl (given (groupsResources server.recorded groups)))
        exact .inl ⟨versions, core, groups, others, hversions, hcore, hgroups, hothers⟩

theorem discovery_eq_ok_iff {found : Catalog} :
    server.discovery.1 = .ok found ↔
      ∃ versions core groups others, server.Serves versions core groups others ∧ found = core.flatten ++ others.flatten := by
  constructor
  · intro h
    obtain ⟨versions, core, groups, others, hserves⟩ | ⟨e, hfails⟩ := server.exists_serves_or_failsWith
    · exact ⟨versions, core, groups, others, hserves, Except.ok.inj (h.symm.trans hserves.discovery_eq)⟩
    · cases h.symm.trans hfails.discovery_eq
  · rintro ⟨versions, core, groups, others, hserves, rfl⟩
    exact hserves.discovery_eq

theorem discovery_eq_error_iff {e : Failure} : server.discovery.1 = .error e ↔ server.FailsWith e := by
  refine ⟨fun h => ?_, FailsWith.discovery_eq⟩
  obtain ⟨versions, core, groups, others, hserves⟩ | ⟨e', hfails⟩ := server.exists_serves_or_failsWith
  · cases h.symm.trans hserves.discovery_eq
  · rwa [Except.error.inj (h.symm.trans hfails.discovery_eq)]

/-- Finding out fails just if one of the lists fails that everything rests on. -/
theorem exists_failsWith_iff :
    (∃ e, server.FailsWith e) ↔
      server.told readVersions? "/api" = none ∨
      (∃ versions, server.told readVersions? "/api" = some versions ∧
        ∃ version ∈ versions, server.told readResources? ("/api/" ++ version) = none) ∨
      server.told readGroups? "/apis" = none := by
  constructor
  · rintro ⟨e, h | ⟨h, -, hversion⟩ | ⟨h, -, hgroups⟩⟩
    · exact .inl h
    · exact .inr (.inl ⟨_, h, _, by simp, hversion⟩)
    · exact .inr (.inr hgroups)
  · intro h
    -- Without a failure there would be a catalog, and nothing that it rests on would fail.
    simp only [← discovery_eq_error_iff]
    cases hfound : server.discovery.1 with
    | error e => exact ⟨e, rfl⟩
    | ok found =>
      obtain ⟨versions, core, groups, others, hserves, -⟩ := discovery_eq_ok_iff.mp hfound
      have hall := exists_given_coreResources_iff.mp ⟨_, given_coreResources_eq_ok_iff.mpr ⟨core, hserves.core, rfl⟩⟩
      rcases h with h | ⟨versions', h, version, hversion, hnone⟩ | h
      · rw [hserves.toldVersions] at h
        cases h
      · rw [hserves.toldVersions] at h
        cases h
        exact (hall version hversion hnone).elim
      · rw [hserves.toldGroups] at h
        cases h

/-! ### Groups that fail -/

/-- What is told at a target is settled by what comes back for it. -/
theorem told_congr {other : Server} {α : Type} {target : String} (form : Json → Option α)
    (h : other.reply target = server.reply target) : other.told form target = server.told form target := by
  unfold told
  rw [h]

/-- A group that fails has no entries, and any other group keeps its own. -/
theorem GroupEntries.of_agree {other : Server} {down : List String} {g : Group} {entries : List Resource}
    (hsame : ∀ target ∉ down, other.reply target = server.reply target)
    (hdown : ∀ target ∈ down, other.told readResources? target = none) (h : server.GroupEntries g entries) :
    other.GroupEntries g (if g.isAskedAt down then [] else entries) := by
  have hasked : ∀ {v : GroupVersion}, g.LooksAt v → (g.isAskedAt down = true ↔ "/apis/" ++ v.groupVersion ∈ down) := fun hv => by
    rw [Group.isAskedAt, Group.chosen?_eq_some_iff.mpr hv, Option.any_some, List.contains_iff_mem]
  cases h with
  | versionless hp hv =>
    rw [ite_self]
    exact .versionless hp hv
  | @unavailable v hv htold =>
    rw [ite_self]
    refine .unavailable hv ?_
    by_cases hmem : "/apis/" ++ v.groupVersion ∈ down
    · exact hdown _ hmem
    · rw [told_congr _ (hsame _ hmem), htold]
  | @listed v listed _ hv htold hentries =>
    by_cases hmem : "/apis/" ++ v.groupVersion ∈ down
    · rw [if_pos ((hasked hv).mpr hmem)]
      exact .unavailable hv (hdown _ hmem)
    · rw [if_neg fun h => hmem ((hasked hv).mp h)]
      exact .listed hv ((told_congr _ (hsame _ hmem)).trans htold) hentries

/-- The entries of groups, of which some fail. -/
def withoutFailed (down : List String) (groups : List Group) (others : List (List Resource)) : List (List Resource) :=
  List.zipWith (fun g entries => if g.isAskedAt down then [] else entries) groups others

theorem Serves.of_agree {other : Server} {down : List String} {versions : List String} {core : List (List Resource)}
    {groups : List Group} {others : List (List Resource)} (h : server.Serves versions core groups others)
    (hfixed : ∀ target ∈ ["/api", "/apis"] ++ versions.map ("/api/" ++ ·), target ∉ down)
    (hsame : ∀ target ∉ down, other.reply target = server.reply target)
    (hdown : ∀ target ∈ down, other.told readResources? target = none) :
    other.Serves versions core groups (withoutFailed down groups others) := by
  have hkept : ∀ {α : Type} (form : Json → Option α), ∀ target ∈ ["/api", "/apis"] ++ versions.map ("/api/" ++ ·),
      other.told form target = server.told form target := fun form target htarget =>
    told_congr form (hsame target (hfixed target htarget))
  refine ⟨?_, ?_, ?_, ?_⟩
  · rw [hkept _ _ (by simp), h.toldVersions]
  · refine ((List.forall₂_and_left _ _).mpr ⟨fun _ hv => hv, h.core⟩).imp ?_
    rintro version entries ⟨hversion, listed, htold, hlisted⟩
    exact ⟨listed, (hkept _ _ (by simp [hversion])).trans htold, hlisted⟩
  · rw [hkept _ _ (by simp), h.toldGroups]
  · have hothers := h.others
    clear h
    induction hothers with
    | nil => exact .nil
    | cons hentries _ ih => exact .cons (hentries.of_agree hsame hdown) ih

/-- Finding out gives the entries of every core version and then of every group, in the order in which the server tells of
    them, and it fails just if the core versions, the resources of one of them or the groups cannot be read; it says which of
    these failed first. Whatever else a server fails at costs the groups that are asked for there their own entries and
    changes nothing else. -/
theorem discovery_isolates_groups (server : Server) :
    (∀ found : Catalog, server.discovery.1 = .ok found ↔
      ∃ versions core groups others, server.Serves versions core groups others ∧ found = core.flatten ++ others.flatten) ∧
    ((∃ e, server.discovery.1 = .error e) ↔
      server.told readVersions? "/api" = none ∨
      (∃ versions, server.told readVersions? "/api" = some versions ∧
        ∃ version ∈ versions, server.told readResources? ("/api/" ++ version) = none) ∨
      server.told readGroups? "/apis" = none) ∧
    (∀ e : Failure, server.discovery.1 = .error e ↔ server.FailsWith e) ∧
    ∀ (versions : List String) (core : List (List Resource)) (groups : List Group) (others : List (List Resource)),
      server.Serves versions core groups others → ∀ (down : List String) (other : Server),
        (∀ target ∈ ["/api", "/apis"] ++ versions.map ("/api/" ++ ·), target ∉ down) →
        (∀ target ∉ down, other.reply target = server.reply target) →
        (∀ target ∈ down, other.told readResources? target = none) →
        other.discovery.1 = .ok (core.flatten ++ (withoutFailed down groups others).flatten) := by
  refine ⟨fun found => discovery_eq_ok_iff, ?_, fun e => discovery_eq_error_iff, ?_⟩
  · simp only [discovery_eq_error_iff]
    exact exists_failsWith_iff
  · intro versions core groups others h down other hfixed hsame hdown
    exact discovery_eq_ok_iff.mpr ⟨versions, core, groups, _, h.of_agree hfixed hsame hdown, rfl⟩

/-- A server with two groups, of which the first prefers no version. -/
def twoGroups : Server
  | "/api" => .body "\x7b\"versions\": [\"v1\"]\x7d".toList
  | "/api/v1" => .body ("\x7b\"resources\": [\x7b\"name\": \"pods\", \"kind\": \"Pod\", \"namespaced\": true, " ++
      "\"shortNames\": [\"po\"], \"verbs\": [\"get\", \"list\"]\x7d, " ++
      "\x7b\"name\": \"pods/log\", \"kind\": \"Pod\", \"verbs\": [\"list\"]\x7d]\x7d").toList
  | "/apis" => .body ("\x7b\"groups\": [\x7b\"name\": \"metrics\", \"versions\": " ++
      "[\x7b\"groupVersion\": \"metrics/v1\", \"version\": \"v1\"\x7d]\x7d, " ++
      "\x7b\"name\": \"apps\", \"preferredVersion\": " ++
      "\x7b\"groupVersion\": \"apps/v1\", \"version\": \"v1\"\x7d\x7d]\x7d").toList
  | "/apis/metrics/v1" => .body ("\x7b\"resources\": " ++
      "[\x7b\"name\": \"usages\", \"kind\": \"Usage\", \"verbs\": [\"list\"]\x7d]\x7d").toList
  | "/apis/apps/v1" => .body ("\x7b\"resources\": [\x7b\"name\": \"deployments\", \"kind\": \"Deployment\", " ++
      "\"singularName\": \"deployment\", \"namespaced\": true, \"verbs\": [\"list\"]\x7d]\x7d").toList
  | _ => .refused 404

/-- The same server while the first group is down. -/
def firstGroupDown : Server := fun target => if target = "/apis/metrics/v1" then .refused 503 else twoGroups target

theorem discovery_isolates_groups_of_firstGroupDown :
    let pods : Resource := ⟨"", "v1", "Pod", "pods", "pod", ["po"], true⟩
    let usages : Resource := ⟨"metrics", "v1", "Usage", "usages", "usage", [], false⟩
    let deployments : Resource := ⟨"apps", "v1", "Deployment", "deployments", "deployment", [], true⟩
    let metrics : Group := ⟨"metrics", none, [⟨"metrics/v1", "v1"⟩]⟩
    let apps : Group := ⟨"apps", some ⟨"apps/v1", "v1"⟩, []⟩
    twoGroups.Serves ["v1"] [[pods]] [metrics, apps] [[usages], [deployments]] ∧
      (∀ target ∈ ["/api", "/apis"] ++ ["v1"].map ("/api/" ++ ·), target ∉ ["/apis/metrics/v1"]) ∧
      (∀ target ∉ ["/apis/metrics/v1"], firstGroupDown.reply target = twoGroups.reply target) ∧
      (∀ target ∈ ["/apis/metrics/v1"], firstGroupDown.told readResources? target = none) ∧
      firstGroupDown.discovery.1 = .ok [pods, deployments] := by
  intro pods usages deployments metrics apps
  have hpods : twoGroups.told readResources? ("/api/" ++ "v1") =
      some [⟨"pods", "Pod", "", ["po"], true, ["get", "list"]⟩, ⟨"pods/log", "Pod", "", [], false, ["list"]⟩] := by
    decide +kernel
  have husages : twoGroups.told readResources? ("/apis/" ++ "metrics/v1") =
      some [⟨"usages", "Usage", "", [], false, ["list"]⟩] := by decide +kernel
  have hdeployments : twoGroups.told readResources? ("/apis/" ++ "apps/v1") =
      some [⟨"deployments", "Deployment", "deployment", [], true, ["list"]⟩] := by decide +kernel
  have hserves : twoGroups.Serves ["v1"] [[pods]] [metrics, apps] [[usages], [deployments]] :=
    { toldVersions := by decide +kernel
      core := .cons ⟨_, hpods, lists_iff.mpr (by decide +kernel)⟩ .nil
      toldGroups := by decide +kernel
      others := .cons (.listed (.first rfl rfl) husages (lists_iff.mpr (by decide +kernel)))
        (.cons (.listed (.preferred rfl) hdeployments (lists_iff.mpr (by decide +kernel))) .nil) }
  have hfixed : ∀ target ∈ ["/api", "/apis"] ++ ["v1"].map ("/api/" ++ ·), target ∉ ["/apis/metrics/v1"] := by decide
  have hsame : ∀ target ∉ ["/apis/metrics/v1"], firstGroupDown.reply target = twoGroups.reply target := fun target htarget => by
    unfold reply firstGroupDown
    rw [if_neg fun he => htarget (List.mem_singleton.mpr he)]
  have hdown : ∀ target ∈ ["/apis/metrics/v1"], firstGroupDown.told readResources? target = none := by decide +kernel
  obtain ⟨-, -, -, hisolates⟩ := discovery_isolates_groups twoGroups
  exact ⟨hserves, hfixed, hsame, hdown, hisolates _ _ _ _ hserves _ _ hfixed hsame hdown⟩

end Server

end ClusterQuery
