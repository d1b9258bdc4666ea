import CacheCluster.Node.Roster
import CacheCluster.Text.Charset
import CacheCluster.Yaml.Node.OfTokens
import CacheCluster.Yaml.Shape
import CacheCluster.Yaml.Token.Stream

/-!
# Cluster files

The nodes of a cluster are listed in a YAML file that every node reads.

## Main definitions

* `ClusterFile.ofBytes?` : the list that a file holds.
* `filePath` : where the file is, below a directory.
* `Roster.read` : the roster of a node, from the file if it can be read.
-/

namespace CacheCluster

open Yaml (Shape)

/-- Reads a set of names. -/
def namesShape : Shape NameSet := fun d n => NameSet.ofNames <$> Shape.list Shape.text d n

/-- Reads an address. -/
def addressShape : Shape SocketAddress := fun d n => do
  let s ← Shape.text d n
  liftM (SocketAddress.parse? s)

/-- Reads a node. -/
def Node.shape : Shape Node :=
  Shape.record default [
    .of "addr" true addressShape fun v n => { n with address := v },
    .of "domain" false (Shape.optional Shape.text) fun v n => { n with domain? := v },
    .of "name" false (Shape.optional Shape.text) fun v n => { n with name? := v },
    .of "spec" true namesShape fun v n => { n with roles := v },
    .of "groups" false namesShape fun v n => { n with groups := v }]

/-- Reads management settings. -/
def Management.shape : Shape Management :=
  Shape.record .default [
    .of "admin_group" false Shape.text fun v m => { m with adminGroup := v },
    .of "dispatch_timeout_ms" false (Shape.natural 0x10000000000000000)
      fun v m => { m with dispatchTimeoutMs := v.toUInt64 },
    .of "reject_unknown_type" false Shape.flag fun v m => { m with rejectUnknownType := v }]

/-- Reads the nodes by number; of two nodes of a number the later one counts. -/
def nodesShape : Shape (SortedMap NodeId Node) := fun d n => do
  let entries ← Shape.entries (Shape.natural 0x100000000) Node.shape d n
  return .ofList (entries.map fun e => (e.1.toUInt32, e.2))

namespace ClusterFile

/-- Reads the list of nodes with the settings. -/
def shape : Shape ClusterFile :=
  Shape.record ⟨.default, .empty⟩ [
    .of "management" false Management.shape fun v f => { f with management := v },
    .of "nodes" true nodesShape fun v f => { f with nodes := v }]

/-- The list that a file holds, which is in UTF-8 unless a byte order mark says else. -/
def ofBytes? (bytes : List UInt8) : Option ClusterFile := do
  let d ← Yaml.document? (← Yaml.tokens? (← Text.Charset.utf8.decode? bytes))
  shape.run? d

end ClusterFile

/-- Where the file is, below a directory. -/
def filePath (directory : String) : String :=
  let separator := if directory.isEmpty || directory.endsWith "/" then "" else "/"
  directory ++ separator ++ "files/node_config.yaml"

namespace Roster

/-- The roster of a node, from the file below a directory or the reason why there is none.  What
cannot be read only once it is open is no list of nodes either. -/
def read (thisId : NodeId) (directory : String) (file : Except IoError (List UInt8)) :
    Except ConfigError Roster :=
  match file with
  | .error .isDirectory => .error (.decode (filePath directory))
  | .error reason => .error (.open (filePath directory) reason)
  | .ok bytes =>
    match ClusterFile.ofBytes? bytes with
    | none => .error (.decode (filePath directory))
    | some file => ofFile thisId file

end Roster

end CacheCluster
