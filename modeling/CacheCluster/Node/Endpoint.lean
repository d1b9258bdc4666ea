import CacheCluster.Engine.Http
import CacheCluster.Locator.Endpoint
import CacheCluster.Member

/-!
# The endpoint of a node

A node serves the routes of the roles that it has, over what its locator works on and the member
that it is.

## Main definitions

* `memberRoutes` : the routes of a member.
* `Served` : the state that an endpoint works on.
* `Endpoint`, `Endpoint.serve` : the endpoint of a node.
-/

namespace CacheCluster

variable {σ : Type}

/-- The path where members list their regions. -/
def regionListPath : String := "/functions/regions"

/-- The answer of a member to a command. -/
def Member.handleCommand (q : Http.Request) (m : Member) : Http.Response × Member :=
  match Http.jsonBody Command.reader q with
  | .error rejection => (.text rejection.status rejection.message, m)
  | .ok c =>
    let (reply, m') := m.execute c
    (.json 200 reply.toJson, m')

/-- The answer of a member that is asked for its regions. -/
def Member.handleList (_ : Http.Request) (m : Member) : Http.Response × Member :=
  (.json 200 (.arr (m.paths.map .str)), m)

/-- The routes of a member. -/
def memberRoutes : List (Http.Route Member) :=
  [⟨createRegionPath, .post, Member.handleCommand⟩, ⟨regionListPath, .get, Member.handleList⟩]

/-- What the locator of a node works on, and the member that the node is. -/
structure Served (σ : Type) where
  engine : σ
  member? : Option Member

/-- A route of the locator as a route of the node. -/
def Served.locatorRoute (r : Http.Route σ) : Http.Route (Served σ) where
  path := r.path
  method := r.method
  handle q s :=
    let (response, engine) := r.handle q s.engine
    (response, { s with engine })

/-- A route of a member as a route of the node. -/
def Served.memberRoute (m : Member) (r : Http.Route Member) : Http.Route (Served σ) where
  path := r.path
  method := r.method
  handle q s :=
    let (response, m') := r.handle q m
    (response, { s with member? := some m' })

/-- The endpoint of a node: its settings and its engine if it is a locator. -/
structure Endpoint (σ : Type) where
  locator? : Option (Management × Engine σ)

namespace Endpoint

/-- The routes of a node. -/
def routes (e : Endpoint σ) (s : Served σ) : List (Http.Route (Served σ)) :=
  let ofLocator :=
    match e.locator? with
    | some (m, engine) => (Locator.routes m engine).map Served.locatorRoute
    | none => []
  let ofMember :=
    match s.member? with
    | some m => memberRoutes.map (Served.memberRoute m)
    | none => []
  ofLocator ++ ofMember

/-- The answer of a node to a request. -/
def serve (e : Endpoint σ) (q : Http.Request) (s : Served σ) : Http.Response × Served σ :=
  Http.serve (e.routes s) q s

end Endpoint

end CacheCluster
