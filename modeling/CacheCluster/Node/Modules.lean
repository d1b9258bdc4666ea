import CacheCluster.Member
import CacheCluster.Node.Roster

/-!
# The parts of a running node

A node runs a locator, a member, or both, as its roles say, and an endpoint that serves the
requests for them.  The endpoint only refers to the other parts: it cannot start once they are
gone.

## Main definitions

* `Modules` : the parts of a node.
* `Roster.modules?` : the parts that the roles of a node ask for.
* `Roster.listenAddress` : where the endpoint of a node listens.
* `Modules.upgrade` : the parts that an endpoint refers to.
-/

namespace CacheCluster

/-- The parts of a running node. -/
structure Modules where
  locator? : Option Management
  member? : Option Member
  deriving DecidableEq

/-- The message where a node has no role to play. -/
def noRoleMessage : String := "assertion failed: is_locator || is_member"

/-- The parts of a node, which has to have a role. -/
def Roster.modules? (r : Roster) : Option Modules :=
  if r.this.hasRole then
    some {
      locator? := if r.this.isLocator then some r.management else none
      member? := if r.this.isMember then some (.new (r.this.memberName r.thisId)) else none }
  else none

/-- Where the endpoint of a node listens, which is at every address that the node has. -/
def Roster.listenAddress (r : Roster) : SocketAddress :=
  ⟨.v4 ⟨0, 0, 0, 0⟩, r.this.httpAddress.port⟩

/-- The parts that an endpoint refers to, if they are still there. -/
def Modules.upgrade (modules? : Option Modules) : Except Error Modules :=
  match modules? with
  | some modules => .ok modules
  | none => .error (.runtime .modulesDropped)

end CacheCluster
