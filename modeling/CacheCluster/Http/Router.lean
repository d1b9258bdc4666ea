import CacheCluster.Http.Message

/-!
# Routers

A router hands a request to the route of its path.  Every origin may read every answer, and a
request for the options of any path is answered by the router itself.

## Main definitions

* `Route` : a path, the method that it takes, and what answers there.
* `answer` : the answer of one route.
* `serve` : the answer of the route of the path.
-/

namespace CacheCluster.Http

/-- The methods that routes take; who may `get` may also ask for the headers alone. -/
inductive Method
  | get
  | post
  deriving DecidableEq, Repr

/-- The names of the requests that a method takes. -/
def Method.names : Method → List String
  | .get => ["GET", "HEAD"]
  | .post => ["POST"]

/-- A place where requests are answered. -/
structure Route (σ : Type) where
  path : String
  method : Method
  handle : Request → σ → Response × σ

/-- The headers that say on what an answer depends. -/
def varyHeaders : List (String × String) :=
  [("vary", "origin"), ("vary", "access-control-request-method"),
    ("vary", "access-control-request-headers")]

/-- The headers of answers that every origin may read. -/
def openHeaders : List (String × String) :=
  varyHeaders ++
    [("access-control-allow-origin", "*"), ("access-control-expose-headers", "*")]

/-- The headers of answers about options. -/
def optionHeaders : List (String × String) :=
  varyHeaders ++
    [("access-control-allow-origin", "*"), ("access-control-allow-methods", "*"),
      ("access-control-allow-headers", "*")]

namespace Route

variable {σ : Type}

/-- The header that lists what a route takes. -/
def allowHeader (r : Route σ) : String × String := ("allow", ",".intercalate r.method.names)

/-- What a route answers, before the headers for other origins. -/
def answer (r : Route σ) (q : Request) (s : σ) : Response × σ :=
  if r.method.names.contains q.method then
    let (response, s') := r.handle q s
    (if q.method = "HEAD" then { response with body := [] } else response, s')
  else (⟨405, [r.allowHeader], []⟩, s)

end Route

/-- The answer to a request. -/
def serve {σ : Type} (routes : List (Route σ)) (q : Request) (s : σ) : Response × σ :=
  let route? := routes.find? fun r => r.path == q.path
  if q.method = "OPTIONS" then
    (⟨200, route?.toList.map Route.allowHeader ++ optionHeaders, []⟩, s)
  else
    let (response, s') :=
      match route? with
      | some r => r.answer q s
      | none => (⟨404, [], []⟩, s)
    ({ response with headers := response.headers ++ openHeaders }, s')

end CacheCluster.Http
