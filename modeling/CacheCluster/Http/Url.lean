import CacheCluster.Http.Host

/-!
# Web addresses

An address of the web names a host, a path, and more.  It is read leniently and written in one
way: hosts in lower case, numeric hosts as addresses, no default port, no dots as segments.

## Main definitions

* `Url`, `Url.text` : an address and its one written form.
* `Url.site`, `Url.target` : whom it reaches, and what it asks for there.
* `Url.isSendable` : whether requests can be sent to it.
* `Url.parse` : its reader.
* `UrlError`, `UrlError.message` : what it refuses.
-/

namespace CacheCluster.Http

/-- Why a text is no web address. -/
inductive UrlError
  | scheme
  | port
  | host (cause : HostError)
  deriving DecidableEq, Repr

/-- The text of a refusal. -/
def UrlError.message : UrlError → String
  | .scheme => "relative URL without a base"
  | .port => "invalid port number"
  | .host cause => cause.message

/-- An address of the web.  A user in front of the host is part of it only where no name can be made
of the user. -/
structure Url where
  secure : Bool
  user? : Option (List Char)
  host : List Char
  port? : Option Nat
  path : List Char
  query? : Option (List Char)
  fragment? : Option (List Char)
  deriving DecidableEq

namespace Url

/-- The scheme of an address, with its slashes. -/
def schemeText (u : Url) : String := if u.secure then "https://" else "http://"

/-- The host with its port. -/
def authority (u : Url) : String :=
  String.ofList u.host ++
    match u.port? with
    | some port => s!":{port}"
    | none => ""

/-- The place that an address reaches, whoever asks for whatever there. -/
def site (u : Url) : String := u.schemeText ++ u.authority

/-- The path with the query. -/
def target (u : Url) : String :=
  String.ofList (u.path ++
    match u.query? with
    | some query => '?' :: query
    | none => [])

/-- The written form of an address. -/
def text (u : Url) : String :=
  u.schemeText ++
    (match u.user? with
      | some user => String.ofList user ++ "@"
      | none => "") ++
    u.authority ++ u.target ++
    match u.fragment? with
    | some fragment => String.ofList ('#' :: fragment)
    | none => ""

/-- The number of bytes that an address may have to be sent. -/
def sendableLength : Nat := 65534

/-- Whether requests can be sent to an address: it is not too long, and there is no quote in its
host. -/
def isSendable (u : Url) : Bool :=
  !u.host.contains '"' && u.text.utf8ByteSize ≤ sendableLength

/-! ## Paths -/

/-- The characters that a path escapes. -/
def pathSet : String := " \"#<>?\x60\x7b\x7d"

/-- What a segment of dots means, also where dots are escaped. -/
def dots (segment : List Char) : Nat :=
  match String.ofList (segment.map Char.toLower) with
  | "." | "%2e" => 1
  | ".." | ".%2e" | "%2e." | "%2e%2e" => 2
  | _ => 0

/-- The segments of a path behind those already kept in reverse, with dots taken out. -/
def keepSegments (kept : List (List Char)) : List (List Char) → List (List Char)
  | [] => kept.reverse
  | segment :: rest =>
    let last := rest.isEmpty
    match dots segment with
    | 0 => keepSegments (escape pathSet segment :: kept) rest
    | 1 => keepSegments (if last then [] :: kept else kept) rest
    | _ => keepSegments (if last then [] :: kept.tail else kept.tail) rest

/-- The one written form of a path. -/
def readPath (cs : List Char) : List Char :=
  let cs := cs.map fun c => if c = '\\' then '/' else c
  let segments := Text.partsAt (· == '/') (if cs.head? = some '/' then cs.tail else cs)
  (keepSegments [] segments).flatMap ('/' :: ·)

/-! ## Addresses -/

/-- A text cut before the first character of a kind. -/
def cutAt (p : Char → Bool) (cs : List Char) : List Char × List Char :=
  (cs.takeWhile fun c => !p c, cs.dropWhile fun c => !p c)

/-- The port of an authority, unless it is the default one. -/
def readPort (secure : Bool) (cs : List Char) : Except UrlError (Option Nat) :=
  if cs.isEmpty then .ok none
  else
    match Text.readNumber? 10 0x10000 cs with
    | some (n, []) => .ok (if n = (if secure then 443 else 80) then none else some n)
    | _ => .error .port

/-- The characters that a user escapes. -/
def userSet : String := pathSet ++ "/:;=@[\\]^|"

/-- The user in front of a host, unless it is gone from there: a name that can be read goes with the
request, also an empty one with a password. -/
def keptUser? (cs : List Char) : Option (List Char) :=
  let (name, password) := cutAt (· == ':') cs
  let name := escape userSet name
  let password := escape userSet password.tail
  let isText (cs : List Char) : Bool := (Text.decode? (unescape cs)).isSome
  if isText name && (!name.isEmpty || isText password) then none
  else some (name ++ if password.isEmpty then [] else ':' :: password)

/-- The host in front of a port; a colon between brackets belongs to the host. -/
def cutHost (between : Bool) : List Char → List Char × List Char
  | [] => ([], [])
  | c :: rest =>
    if c = ':' ∧ !between then ([], c :: rest)
    else
      let (host, port) := cutHost (c = '[' || (between && c ≠ ']')) rest
      (c :: host, port)

/-- The user, the host and the port of an authority. -/
def readAuthority (secure : Bool) (cs : List Char) :
    Except UrlError (Option (List Char) × List Char × Option Nat) := do
  let place := (cs.reverse.takeWhile (· != '@')).reverse
  let user := (cs.take (cs.length - place.length)).dropLast
  let (host, port) := cutHost false place
  let host ← (readHost host).mapError UrlError.host
  return (keptUser? user, host, ← readPort secure port.tail)

/-- The web address that a text is. -/
def parse (s : String) : Except UrlError Url := do
  let cs := (s.toList.dropWhile fun c => c.toNat ≤ 0x20).reverse.dropWhile fun c => c.toNat ≤ 0x20
  let cs := cs.reverse.filter fun c => c ≠ '\t' ∧ c ≠ '\n' ∧ c ≠ '\r'
  let (scheme, rest) := cutAt (· == ':') cs
  let secure ←
    match String.ofList (scheme.map Char.toLower) with
    | "http" => pure false
    | "https" => pure true
    | _ => throw .scheme
  let rest := rest.tail.dropWhile fun c => c = '/' ∨ c = '\\'
  let (rest, fragment) := cutAt (· == '#') rest
  let (rest, query) := cutAt (· == '?') rest
  let (authority, path) := cutAt (fun c => c = '/' ∨ c = '\\') rest
  let (user?, host, port?) ← readAuthority secure authority
  return {
    secure, user?, host, port?
    path := readPath path
    query? := if query.isEmpty then none else some (escape " \"#<>'" query.tail)
    fragment? := if fragment.isEmpty then none else some (escape " \"<>\x60" fragment.tail) }

end Url

end CacheCluster.Http
