/-!
What a server answers. Everything that is asked of a cluster is the body at a target, which is a path and
perhaps a question mark.
-/

namespace ClusterQuery

inductive Response where
  | body (text : List Char)
  /-- Refused with a code from 400 on. -/
  | refused (code : Nat)
  /-- No answer came. -/
  | silence
deriving DecidableEq

/-- A server that answers each target in one way. -/
abbrev Server := String → Response

/-- Characters that a target is not sent with. -/
def isUnsendable (c : Char) : Bool := c ≤ ' ' || c == '<' || c == '>' || c == '\x60'

/-- Asks for a target, if it can be sent at all. -/
def Response.ask {m : Type → Type} [Monad m] (request : String → m Response) (target : String) : m Response :=
  if target.toList.any isUnsendable then pure .silence else request target

/-- Asks a server and keeps the targets that it was asked for, in order. -/
def Server.recorded (server : Server) (target : String) : StateM (List String) Response := do
  modify (· ++ [target])
  return server target

theorem Server.recorded_run (server : Server) (target : String) (asked : List String) :
    (server.recorded target).run asked = (server target, asked ++ [target]) := rfl

end ClusterQuery
