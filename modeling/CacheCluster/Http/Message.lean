/-!
# HTTP messages

Requests and responses as far as an endpoint looks at them.

## Main definitions

* `Request`, `Request.path`, `Request.header?` : a request, the path in its target, and the first
  header of a name.
* `Response`, `Response.header?` : a response.
* `reasonPhrase`, `statusText` : the words of a status.
* `statusHasBody`, `Response.received` : what is received of a response.
-/

namespace CacheCluster.Http

/-- A request. -/
structure Request where
  method : String
  target : String
  headers : List (String × String)
  body : List UInt8

/-- A response. -/
structure Response where
  status : Nat
  headers : List (String × String)
  body : List UInt8
  deriving DecidableEq, Inhabited

/-- The text before a query or a fragment. -/
def beforeQuery (cs : List Char) : List Char := cs.takeWhile fun c => c != '?' && c != '#'

/-- The text after a scheme and an authority, if there are any. -/
def afterAuthority : List Char → List Char
  | ':' :: '/' :: '/' :: rest => rest.dropWhile (· != '/')
  | _ :: rest => afterAuthority rest
  | [] => []

/-- The first header of a name in lower case, whose case does not matter. -/
def firstHeader? (headers : List (String × String)) (name : String) : Option String :=
  (headers.find? fun h => h.1.toLower == name).map (·.2)

/-- The first header of a name. -/
def Response.header? (r : Response) (name : String) : Option String :=
  firstHeader? r.headers name

namespace Request

/-- The path of a request. -/
def path (q : Request) : String :=
  let cs := beforeQuery q.target.toList
  if cs.head? = some '/' then String.ofList cs
  else
    match afterAuthority cs with
    | [] => "/"
    | rest => String.ofList rest

/-- The first header of a name. -/
def header? (q : Request) (name : String) : Option String := firstHeader? q.headers name

end Request

/-- The words of the statuses that have any. -/
def reasonPhrase : Nat → Option String
  | 100 => some "Continue"
  | 101 => some "Switching Protocols"
  | 102 => some "Processing"
  | 200 => some "OK"
  | 201 => some "Created"
  | 202 => some "Accepted"
  | 203 => some "Non Authoritative Information"
  | 204 => some "No Content"
  | 205 => some "Reset Content"
  | 206 => some "Partial Content"
  | 207 => some "Multi-Status"
  | 208 => some "Already Reported"
  | 226 => some "IM Used"
  | 300 => some "Multiple Choices"
  | 301 => some "Moved Permanently"
  | 302 => some "Found"
  | 303 => some "See Other"
  | 304 => some "Not Modified"
  | 305 => some "Use Proxy"
  | 307 => some "Temporary Redirect"
  | 308 => some "Permanent Redirect"
  | 400 => some "Bad Request"
  | 401 => some "Unauthorized"
  | 402 => some "Payment Required"
  | 403 => some "Forbidden"
  | 404 => some "Not Found"
  | 405 => some "Method Not Allowed"
  | 406 => some "Not Acceptable"
  | 407 => some "Proxy Authentication Required"
  | 408 => some "Request Timeout"
  | 409 => some "Conflict"
  | 410 => some "Gone"
  | 411 => some "Length Required"
  | 412 => some "Precondition Failed"
  | 413 => some "Payload Too Large"
  | 414 => some "URI Too Long"
  | 415 => some "Unsupported Media Type"
  | 416 => some "Range Not Satisfiable"
  | 417 => some "Expectation Failed"
  | 418 => some "I'm a teapot"
  | 421 => some "Misdirected Request"
  | 422 => some "Unprocessable Entity"
  | 423 => some "Locked"
  | 424 => some "Failed Dependency"
  | 426 => some "Upgrade Required"
  | 428 => some "Precondition Required"
  | 429 => some "Too Many Requests"
  | 431 => some "Request Header Fields Too Large"
  | 451 => some "Unavailable For Legal Reasons"
  | 500 => some "Internal Server Error"
  | 501 => some "Not Implemented"
  | 502 => some "Bad Gateway"
  | 503 => some "Service Unavailable"
  | 504 => some "Gateway Timeout"
  | 505 => some "HTTP Version Not Supported"
  | 506 => some "Variant Also Negotiates"
  | 507 => some "Insufficient Storage"
  | 508 => some "Loop Detected"
  | 510 => some "Not Extended"
  | 511 => some "Network Authentication Required"
  | _ => none

/-- A status with its words. -/
def statusText (status : Nat) : String :=
  s!"{status} " ++ (reasonPhrase status).getD "<unknown status code>"

/-- Whether a status is one of success. -/
def isSuccessStatus (status : Nat) : Bool := 200 ≤ status && status < 300

/-- Whether a response of a status has a body. -/
def statusHasBody (status : Nat) : Bool := 200 ≤ status && status != 204 && status != 304

/-- A response as it is received: what follows the headers is its body if its status has one. -/
def Response.received (r : Response) : Response :=
  { r with body := if statusHasBody r.status then r.body else [] }

end CacheCluster.Http
