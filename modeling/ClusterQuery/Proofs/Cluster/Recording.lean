import ClusterQuery.Cluster.Discovery

/-! What a server is asked for. A computation that asks a recorded server adds the targets that it asks for to
    those asked for before, and neither they nor its result depend on these. -/

namespace ClusterQuery

/-- A computation that adds what it asks for to what was asked for before, and does not mind that. -/
def Appends {α : Type} (x : StateM (List String) α) : Prop := ∀ asked, x.run asked = ((x.run []).1, asked ++ (x.run []).2)

namespace Appends

variable {α β : Type} {x : StateM (List String) α} {f : α → StateM (List String) β}

theorem pure (a : α) : Appends (Pure.pure a) := fun asked => by
  show (a, asked) = (a, asked ++ [])
  rw [List.append_nil]

theorem run_bind (hx : Appends x) (hf : ∀ a, Appends (f a)) (asked : List String) :
    (x >>= f).run asked =
      (((f (x.run []).1).run []).1, asked ++ ((x.run []).2 ++ ((f (x.run []).1).run []).2)) := by
  rw [StateT.run_bind, hx asked]
  show (f (x.run []).1).run (asked ++ (x.run []).2) = _
  rw [hf _ (asked ++ (x.run []).2), List.append_assoc]

theorem bind (hx : Appends x) (hf : ∀ a, Appends (f a)) : Appends (x >>= f) := fun asked => by
  rw [run_bind hx hf asked, run_bind hx hf []]
  rfl

end Appends

namespace Server

variable (server : Server)

/-- The targets that are asked for when one is: itself if it can be sent. -/
def sent (target : String) : List String := if target.toList.any isUnsendable then [] else [target]

/-- What comes back for a target, sent or not. -/
def reply (target : String) : Response := if target.toList.any isUnsendable then .silence else server target

theorem run_ask (target : String) (asked : List String) :
    (Response.ask server.recorded target).run asked = (server.reply target, asked ++ sent target) := by
  unfold Response.ask reply sent
  split
  · rw [List.append_nil]
    rfl
  · exact server.recorded_run target asked

/-- What is read from the body that comes back for a target. -/
def told {α : Type} (form : Json → Option α) (target : String) : Option α :=
  match server.reply target with
  | .body text => (Json.parse? text).bind form
  | _ => none

theorem run_read? {α : Type} (form : Json → Option α) (target : String) (asked : List String) :
    (Discovery.read? server.recorded form target).run asked = (server.told form target, asked ++ sent target) := by
  unfold Discovery.read? told
  rw [StateT.run_bind, run_ask]
  cases server.reply target <;> rfl

theorem appends_read? {α : Type} (form : Json → Option α) (target : String) :
    Appends (Discovery.read? server.recorded form target) := fun asked => by
  rw [run_read?, run_read?]
  rfl

/-! ### Finding out what a cluster serves -/

open Discovery

theorem appends_coreResources (versions : List String) : Appends (coreResources server.recorded versions) := by
  induction versions with
  | nil => exact .pure _
  | cons version versions ih =>
    refine (server.appends_read? _ _).bind fun listed => ?_
    cases listed with
    | none => exact .pure _
    | some listed => exact ih.bind fun _ => .pure _

theorem appends_groupResources (g : Group) : Appends (groupResources server.recorded g) := by
  unfold groupResources
  split
  · exact .pure _
  · refine (server.appends_read? _ _).bind fun listed => ?_
    cases listed <;> exact .pure _

theorem appends_groupsResources (groups : List Group) : Appends (groupsResources server.recorded groups) := by
  induction groups with
  | nil => exact .pure _
  | cons g groups ih => exact (server.appends_groupResources g).bind fun _ => ih.bind fun _ => .pure _

theorem appends_catalog : Appends (catalog server.recorded) := by
  refine (server.appends_read? _ _).bind fun versions => ?_
  cases versions with
  | none => exact .pure _
  | some versions =>
    refine (server.appends_coreResources versions).bind fun core => ?_
    cases core with
    | error e => exact .pure _
    | ok core =>
      refine (server.appends_read? _ _).bind fun groups => ?_
      cases groups with
      | none => exact .pure _
      | some groups => exact (server.appends_groupsResources groups).bind fun _ => .pure _

/-- What asking a server for what it serves gives, and the targets that it is asked for. -/
def discovery : Except Failure Catalog × List String := (catalog server.recorded).run []

theorem run_catalog (asked : List String) :
    (catalog server.recorded).run asked = (server.discovery.1, asked ++ server.discovery.2) := server.appends_catalog asked

end Server

end ClusterQuery
