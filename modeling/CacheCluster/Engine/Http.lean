import CacheCluster.Engine.Basic
import CacheCluster.Http.MediaType
import CacheCluster.Http.Message
import CacheCluster.Http.Url
import CacheCluster.Node.Roster
import CacheCluster.Text.Charset

/-!
# The engine over HTTP

A command goes to the endpoint of every member of a group at once.  Members are reported under the
names that the roster gives them, whatever they call themselves.

## Main definitions

* `Delivery`, `Transport` : what becomes of a `POST`, and a way to send one.
* `statusOfReply`, `statusOfResponse`, `statusOfBroken` : what the response of a member says, also
  one that breaks off.
* `callMember`, `callMembers` : the calls to one member and to several.
* `Engine.http`.
-/

namespace CacheCluster

/-- What becomes of a request that is sent: a response is received as a whole, or it breaks off in
its body, or none comes. -/
inductive Delivery
  | answered (response : Http.Response)
  | brokenOff (response : Http.Response) (reason : String)
  | failed (reason : String)
  | never

/-- A way to send a body to an address, and the character sets in which the text of a response can
be read besides those that are told apart here. -/
structure Transport (σ : Type) where
  post : Http.Url → List UInt8 → σ → Delivery × σ
  charsets : Text.OtherCharsets

/-- The reason why nothing arrives without a network. -/
def unreachableReason : String :=
  "error trying to connect: tcp connect error: Network is unreachable (os error 101)"

/-- The transport of a node that has no network. -/
def Transport.unreachable : Transport Unit where
  post _ _ s := (.failed unreachableReason, s)
  charsets _ := none

/-- The text of the body of a response, in the character set that its type names. -/
def responseText (others : Text.OtherCharsets) (r : Http.Response) : String :=
  Text.decodeLabeled others ((r.header? "content-type").bind Http.charset?) r.body

/-- What a response of a status says: the reply in its body counts if the status is one of success,
and the text of its body if not. -/
def statusOfReply (status : Nat) (reply : Except String MemberReply) (text : String) : Status :=
  if Http.isSuccessStatus status then
    match reply with
    | .ok reply => reply.status
    | .error reason => .failure ("invalid member reply: " ++ reason)
  else .failure ("member replied " ++ Http.statusText status ++ ": " ++ text)

/-- What the response of a member says. -/
def statusOfResponse (others : Text.OtherCharsets) (r : Http.Response) : Status :=
  let reply := (Json.whole MemberReply.reader r.body).mapError fun f =>
    "error decoding response body: " ++ f.message r.body
  statusOfReply r.status reply (responseText others r)

/-- What a response says that breaks off in its body: its text is empty. -/
def statusOfBroken (r : Http.Response) (reason : String) : Status :=
  statusOfReply r.status (.error reason) ""

variable {σ : Type}

/-- Calls one member; no status means that it never answers. -/
def callMember (t : Transport σ) (base : String) (c : Command) (s : σ) : Option Status × σ :=
  let address := base ++ createRegionPath
  let failure (reason : String) : Option Status :=
    some (.failure ("request to " ++ address ++ " failed: " ++ reason))
  match Http.Url.parse address with
  | .error e => (failure ("builder error: " ++ e.message), s)
  | .ok url =>
    if !url.isSendable then
      (failure ("builder error for url (" ++ url.text ++ "): Parsed Url is not a valid Uri"), s)
    else
      let (delivery, s') := t.post url c.toJson.render s
      match delivery with
      | .answered r => (some (statusOfResponse t.charsets r), s')
      | .brokenOff r reason => (some (statusOfBroken r reason), s')
      | .failed reason =>
        (failure ("error sending request for url (" ++ url.text ++ "): " ++ reason), s')
      | .never => (none, s')

/-- Calls members, whose statuses go under their names; no statuses if one never answers. -/
def callMembers (t : Transport σ) (c : Command) : List (NodeId × Node) → σ →
    Option (List (String × Status)) × σ
  | [], s => (some [], s)
  | (id, n) :: rest, s =>
    let (status?, s') := callMember t n.httpUrl c s
    let (statuses?, s'') := callMembers t c rest s'
    (do return (n.memberName id, ← status?) :: (← statuses?), s'')

/-- The engine over HTTP. -/
def Engine.http (r : Roster) (t : Transport σ) : Engine σ where
  run _ group c s :=
    match (r.groupMembers group).entries with
    | [] => (some (.error (.dispatch (.noMembers group))), s)
    | members =>
      let (statuses?, s') := callMembers t c members s
      (statuses?.map fun statuses => .ok (.ofList statuses), s')

end CacheCluster
