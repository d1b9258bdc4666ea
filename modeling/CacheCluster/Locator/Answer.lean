import CacheCluster.Error
import CacheCluster.Json.Record

/-!
# Management answers

What a locator answers to whoever asked for a region: where the region is found, or what went
wrong, with the members that failed.

## Main definitions

* `Answer`, `FailedMember` : an answer.
* `Answer.created`, `Answer.problem`, `Answer.ofError` : the answers there are, with their status.
* `Answer.toJson`, `Answer.reader` : the written form.
-/

namespace CacheCluster

open Json (Reader Record)

/-- A member that failed, with what it said. -/
structure FailedMember where
  member : String
  message : String
  deriving DecidableEq, Inhabited

/-- An answer to whoever asked for a region. -/
structure Answer where
  url? : Option String
  message? : Option String
  failedMembers : List FailedMember
  deriving DecidableEq, Inhabited

namespace FailedMember

/-- A failed member as JSON. -/
def toJson (f : FailedMember) : Json :=
  .obj [("member", .str f.member), ("message", .str f.message)]

/-- The fields of a failed member. -/
def record : Record FailedMember where
  name := "FailedMember"
  start := default
  fields := [
    .mandatory "member" Json.text fun v f => { f with member := v },
    .mandatory "message" Json.text fun v f => { f with message := v }]

/-- Reads a failed member. -/
def reader : Reader FailedMember := Json.record record

end FailedMember

namespace Answer

/-- An answer that says what went wrong. -/
def problem (message : String) : Answer := ⟨none, some message, []⟩

/-- An answer that says where a region is found. -/
def created (shortName : String) : Answer := ⟨some ("/v2/regions/" ++ shortName), none, []⟩

/-- The members that failed in a report. -/
def failedMembersOf (r : Report) : List FailedMember :=
  r.failures.map fun e => ⟨e.1, e.2.message?.getD ""⟩

/-- The answer for an error, with its status. -/
def ofError : Error → Nat × Answer
  | .invalid cause => (400, problem cause.text)
  | .dispatch (.timeout group after) =>
    (504, problem s!"members of group {group} did not answer within {after.text}")
  | .dispatch (.noMembers _) => (500, problem "no members found to create cache element")
  | .dispatch (.memberExecution _ report) =>
    (500, ⟨none, some report.message, failedMembersOf report⟩)
  | e => (500, problem e.message)

/-- An answer as JSON. -/
def toJson (a : Answer) : Json :=
  .obj <|
    Json.field? "metadata" (a.url?.map fun url => .obj [("url", .str url)]) ++
    Json.field? "message" (a.message?.map .str) ++
    Json.field? "failed_members"
      (if a.failedMembers.isEmpty then none
        else some (.arr (a.failedMembers.map FailedMember.toJson)))

/-- The fields around the place of a region. -/
def metadataRecord : Record String where
  name := "Metadata"
  start := ""
  fields := [.mandatory "url" Json.text fun v _ => v]

/-- The fields of an answer. -/
def record : Record Answer where
  name := "ManagementResponse"
  start := default
  fields := [
    .defaulted "metadata" (Json.optional (Json.record metadataRecord))
      fun v a => { a with url? := v },
    .defaulted "message" (Json.optional Json.text) fun v a => { a with message? := v },
    .defaulted "failed_members" (Json.list FailedMember.reader)
      fun v a => { a with failedMembers := v }]

/-- Reads an answer. -/
def reader : Reader Answer := Json.record record

end Answer

end CacheCluster
