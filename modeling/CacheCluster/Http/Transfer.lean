import CacheCluster.Http.Message
import CacheCluster.Text.Utf8

/-!
# HTTP messages as bytes

A request begins with a line of method and target and goes on with a line for every header; a
response is written the same way, with its length.

## Main definitions

* `Request.ofHead?` : the request that the lines before a body are.
* `Request.bodyLength` : the length of the body that follows them.
* `Response.render` : the bytes of a response.
-/

namespace CacheCluster.Http

/-- The header that a line is. -/
def headerOfLine? (line : String) : Option (String × String) :=
  match line.splitOn ":" with
  | name :: value :: rest => some (name, (":".intercalate (value :: rest)).trimAscii.toString)
  | _ => none

namespace Request

/-- The request without a body that some lines are. -/
def ofHead? : List String → Option Request
  | [] => none
  | start :: lines =>
    match start.splitOn " " with
    | method :: target :: _ => some ⟨method, target, lines.filterMap headerOfLine?, []⟩
    | _ => none

/-- The length of the body that follows. -/
def bodyLength (q : Request) : Nat := ((q.header? "content-length").bind String.toNat?).getD 0

end Request

/-- The bytes of a response. -/
def Response.render (r : Response) : List UInt8 :=
  let headers := r.headers ++ [("content-length", toString r.body.length)]
  let lines := ("HTTP/1.1 " ++ statusText r.status) :: headers.map fun h => h.1 ++ ": " ++ h.2
  Text.encode (String.join (lines.map (· ++ "\r\n")) ++ "\r\n") ++ r.body

end CacheCluster.Http
