import CacheCluster.Node.Endpoint

/-!
# A network in one process

Hosts stand behind sites, and a request reaches the host of the site that it is sent to.  A host is
a member with its endpoint, or it answers in a way of its own, as a whole or in part, or not at all.

## Main definitions

* `Host`, `Host.receive` : who is reached, and what becomes of a request there.
* `Network`, `Network.post` : hosts by their sites, and a request to one of them.
* `Transport.network` : the transport over such a network.
-/

namespace CacheCluster

/-- Who is reached at a site: a member, or one who always gives the same response, breaks it off in
its body, drops the connection or refuses it, for whatever reason, or never answers. -/
inductive Host
  | member (m : Member)
  | fixed (response : Http.Response)
  | breaking (response : Http.Response) (reason : String)
  | dropping (reason : String)
  | silent
  deriving DecidableEq

namespace Host

/-- What becomes of a request at a host, and the host after it. -/
def receive (q : Http.Request) : Host → Delivery × Host
  | .member m =>
    let (response, m') := Http.serve memberRoutes q m
    (.answered response, .member m')
  | .fixed response => (.answered response.received, .fixed response)
  | .breaking response reason => (.brokenOff response reason, .breaking response reason)
  | .dropping reason => (.failed reason, .dropping reason)
  | .silent => (.never, .silent)

end Host

/-- The hosts that can be reached, by their sites. -/
abbrev Network := SortedMap String Host

namespace Network

/-- What becomes of a JSON text that is posted to an address. -/
def post (url : Http.Url) (body : List UInt8) (net : Network) : Delivery × Network :=
  match net.get? url.site with
  | some host =>
    let (delivery, host') :=
      host.receive ⟨"POST", url.target, [("content-type", "application/json")], body⟩
    (delivery, net.insert url.site host')
  | none => (.failed unreachableReason, net)

end Network

/-- The transport over a network in one process, with no other character sets. -/
def Transport.network : Transport Network := ⟨Network.post, fun _ => none⟩

end CacheCluster
