import CacheCluster.Http.MediaType
import CacheCluster.Http.Message
import CacheCluster.Json.Record

/-!
# Bodies in JSON

A body is read as JSON when its header says that it is, and when it is not too long.  Whatever
follows the value is not looked at.

## Main definitions

* `Rejection`, `Rejection.message`, `Rejection.status` : why a body is not taken.
* `jsonBody` : the value of a body.
* `Response.json`, `Response.text` : responses with a body.
-/

namespace CacheCluster.Http

open CacheCluster.Json (Reader Fault)

/-- Why a body is not taken. -/
inductive Rejection
  | mediaType
  | tooLong
  | malformed (description : String)
  | mismatch (description : String)
  deriving DecidableEq

namespace Rejection

/-- The text of a rejection. -/
def message : Rejection → String
  | .mediaType => "Expected request with \x60Content-Type: application/json\x60"
  | .tooLong => "Failed to buffer the request body: length limit exceeded"
  | .malformed description => "Failed to parse the request body as JSON: " ++ description
  | .mismatch description =>
    "Failed to deserialize the JSON body into the target type: " ++ description

/-- The status of a rejection. -/
def status : Rejection → Nat
  | .mediaType => 415
  | .tooLong => 413
  | .malformed _ => 400
  | .mismatch _ => 422

end Rejection

/-- The greatest length of a body, two mebibytes. -/
def bodyLimit : Nat := 2097152

/-- The rejection of a body in which a fault was found. -/
def rejectionOf (f : Fault) (body : List UInt8) : Rejection :=
  let description := f.messageWithPath body
  match f.cause.kind with
  | .mismatch => .mismatch description
  | _ => .malformed description

/-- The value of the body of a request. -/
def jsonBody {α : Type} (r : Reader α) (q : Request) : Except Rejection α :=
  if (q.header? "content-type").any isJsonType then
    if bodyLimit < q.body.length then .error .tooLong
    else (CacheCluster.Json.front r q.body).mapError fun f => rejectionOf f q.body
  else .error .mediaType

/-- A response in JSON. -/
def Response.json (status : Nat) (j : CacheCluster.Json) : Response :=
  ⟨status, [("content-type", "application/json")], j.render⟩

/-- A response in plain text. -/
def Response.text (status : Nat) (s : String) : Response :=
  ⟨status, [("content-type", "text/plain; charset=utf-8")], Text.encode s⟩

end CacheCluster.Http
