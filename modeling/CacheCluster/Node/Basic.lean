import CacheCluster.Error
import CacheCluster.Json.Record
import CacheCluster.Node.Address

/-!
# Nodes

What a node of the cluster is set up as: where it listens, which roles it has, to which groups it
belongs, and how others call and reach it.

## Main definitions

* `NameSet` : a set of names.
* `Node` : the settings of a node.
* `Node.isLocator`, `Node.isMember`, `Node.memberName` : its roles and its name.
* `Node.httpPort?`, `Node.httpAddress`, `Node.httpUrl` : where its endpoint is.
* `Node.toJson`, `Node.reader` : the written form.
-/

namespace CacheCluster

open Json (Reader Record)

/-- A set of names. -/
abbrev NameSet := SortedMap String Unit

/-- The set of the names of a list. -/
def NameSet.ofNames (names : List String) : NameSet := .ofList (names.map (·, ()))

/-- The settings of a node. -/
structure Node where
  address : SocketAddress
  domain? : Option String
  name? : Option String
  roles : NameSet
  groups : NameSet
  deriving DecidableEq, Inhabited

namespace Node

/-- Whether a node takes requests. -/
def isLocator (n : Node) : Bool := n.roles.contains "locator"

/-- Whether a node holds regions. -/
def isMember (n : Node) : Bool := n.roles.contains "member"

/-- Whether a node has any role in the cluster. -/
def hasRole (n : Node) : Bool := n.isLocator || n.isMember

/-- Whether a node gets the commands for a group. -/
def isMemberOf (n : Node) (group : String) : Bool := n.isMember && n.groups.contains group

/-- The name under which a node reports. -/
def memberName (n : Node) (id : NodeId) : String := n.name?.getD s!"node-{id}"

/-- The port of the endpoint, which is the one after the port of the node. -/
def httpPort? (n : Node) : Option UInt16 :=
  if n.address.port = 65535 then none else some (n.address.port + 1)

/-- The address of the endpoint; the last port is used twice. -/
def httpAddress (n : Node) : SocketAddress where
  ip :=
    match n.address.ip with
    | .v4 address => .v4 address
    | .v6 groups _ => .v6 groups 0
  port := n.httpPort?.getD 65535

/-- A text without the slashes at its end. -/
def trimSlashes (s : String) : String :=
  String.ofList (s.toList.reverse.dropWhile (· == '/')).reverse

/-- Whether a text begins with the scheme of the web. -/
def isWebUrl (s : String) : Bool :=
  "http://".toList.isPrefixOf s.toList || "https://".toList.isPrefixOf s.toList

/-- The address that others are told to use instead, unless its scheme is another. -/
def domainUrl? (n : Node) : Option String := (n.domain?.filter isWebUrl).map trimSlashes

/-- The address of the endpoint without a path. -/
def httpUrl (n : Node) : String := n.domainUrl?.getD ("http://" ++ n.httpAddress.text)

/-- A node as JSON. -/
def toJson (n : Node) : Json :=
  .obj [("addr", .str n.address.text), ("domain", (n.domain?.map .str).getD .null),
    ("name", (n.name?.map .str).getD .null), ("spec", .arr (n.roles.keys.map .str)),
    ("groups", .arr (n.groups.keys.map .str))]

/-- Reads an address. -/
def addressReader : Reader SocketAddress :=
  Json.expecting "socket address" fun b =>
    if b = Json.byte '"' then
      some do
        Json.skip
        match SocketAddress.parse? (← Json.stringBody) with
        | some address => pure address
        | none => Json.refuse (.refused "invalid socket address syntax")
    else none

/-- Reads a set of names. -/
def namesReader : Reader NameSet := NameSet.ofNames <$> Json.list Json.text

/-- The fields of a node. -/
def record : Record Node where
  name := "NodeConfig"
  start := default
  fields := [
    .mandatory "addr" addressReader fun v n => { n with address := v },
    .defaulted "domain" (Json.optional Json.text) fun v n => { n with domain? := v },
    .defaulted "name" (Json.optional Json.text) fun v n => { n with name? := v },
    .mandatory "spec" namesReader fun v n => { n with roles := v },
    .defaulted "groups" namesReader fun v n => { n with groups := v }]

/-- Reads a node. -/
def reader : Reader Node := Json.record record

end Node

end CacheCluster
