import CacheCluster.Locator.Management
import CacheCluster.Node.Basic

/-!
# Rosters

The nodes of a cluster as one of them sees them: itself, its peers by number, and the management
settings.  A roster comes from a list of all nodes in which this node plays a role, every node
leaves a port for its endpoint, and no two members share a name.

## Main definitions

* `ClusterFile`, `Roster` : the nodes as listed, and as seen by one of them.
* `Roster.groupMembers`, `Roster.locator`, `Roster.listed` : what a roster answers.
* `checkNodes` : the check of all nodes in order.
* `Roster.ofFile` : the roster of one node of a list.
-/

namespace CacheCluster

/-- The nodes of a cluster, with the settings for all of them. -/
structure ClusterFile where
  management : Management
  nodes : SortedMap NodeId Node
  deriving DecidableEq

/-- The nodes of a cluster as one of them sees them. -/
structure Roster where
  thisId : NodeId
  this : Node
  peers : SortedMap NodeId Node
  management : Management

/-- Which node takes requests, if one may be named. -/
inductive LocatorChoice
  | none
  | node (id : NodeId)
  | ambiguous
  deriving DecidableEq, Repr

namespace Roster

/-- All nodes, this one last. -/
def all (r : Roster) : List (NodeId × Node) := r.peers.entries ++ [(r.thisId, r.this)]

/-- The number of nodes. -/
def count (r : Roster) : Nat := r.peers.size + 1

/-- The members of a group by number. -/
def groupMembers (r : Roster) (group : String) : SortedMap NodeId Node :=
  .ofList (r.all.filter fun e => e.2.isMemberOf group)

/-- The node that takes requests: a peer if there is one that does, and else this node. -/
def locator (r : Roster) : LocatorChoice :=
  match r.peers.entries.filter fun e => e.2.isLocator with
  | [] => if r.this.isLocator then .node r.thisId else .none
  | [(id, _)] => .node id
  | _ => .ambiguous

/-- All nodes by number. -/
def listed (r : Roster) : List (NodeId × Node) :=
  r.all.mergeSort fun a b => a.1 ≤ b.1

end Roster

/-- Checks nodes in order, given the members before them by name. -/
def checkNodes (named : List (String × NodeId)) : List (NodeId × Node) → Except ConfigError Unit
  | [] => .ok ()
  | (id, n) :: rest =>
    if n.httpPort?.isNone then .error (.noHttpPort id)
    else if n.isMember then
      let name := n.memberName id
      match named.lookup name with
      | some first => .error (.duplicateMemberName name first id)
      | none => checkNodes ((name, id) :: named) rest
    else checkNodes named rest

namespace Roster

/-- The roster of one node of a list. -/
def ofFile (thisId : NodeId) (file : ClusterFile) : Except ConfigError Roster :=
  match file.nodes.get? thisId with
  | none => .error (.thisNodeMissing thisId)
  | some this =>
    if this.hasRole then do
      checkNodes [] file.nodes.entries
      return ⟨thisId, this, file.nodes.erase thisId, file.management⟩
    else .error (.noRole thisId)

end Roster

end CacheCluster
