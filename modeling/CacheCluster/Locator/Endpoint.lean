import CacheCluster.Http.JsonBody
import CacheCluster.Http.Router
import CacheCluster.Locator.Answer
import CacheCluster.Locator.Basic

/-!
# The endpoint of a locator

Regions are asked for by a `POST` to one path.  Everything that goes wrong is answered in JSON.

## Main definitions

* `Locator.handle` : the answer to a request for a region.
* `Locator.routes` : the routes of a locator.
-/

namespace CacheCluster.Locator

variable {σ : Type}

/-- The answer to what became of a request. -/
def answerTo (r : Region.Request) : Outcome → Nat × Answer
  | .ok _ => (201, .created ((Region.shortName? r.name).getD r.name))
  | .error e => Answer.ofError e

/-- The answer to a request for a region. -/
def handle (m : Management) (engine : Engine σ) (q : Http.Request) (s : σ) :
    Http.Response × σ :=
  let ((status, a), s') :=
    match Http.jsonBody Region.Request.reader q with
    | .error rejection => ((400, Answer.problem rejection.message), s)
    | .ok r =>
      let (outcome, s') := createRegion m engine r s
      (answerTo r outcome, s')
  (.json status a.toJson, s')

/-- The routes of a locator. -/
def routes (m : Management) (engine : Engine σ) : List (Http.Route σ) :=
  [⟨"/v2/regions", .post, handle m engine⟩]

end CacheCluster.Locator
