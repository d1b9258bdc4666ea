import CacheCluster.Json.Record
import CacheCluster.Text.Quoted

/-!
# Reports

What members say about a command, and what they say together.  A member that reports twice keeps
its first failure; without one its last report counts.

## Main definitions

* `Status`, `MemberReply` : the word of a member, and the same with its name.
* `Report`, `Report.add` : the words of several members by name.
* `Report.failures`, `Report.successes`, `Report.isSuccessful`, `Report.message`.
-/

namespace CacheCluster

open Json (Reader Record)

/-- Whether a member did what it was asked. -/
inductive Verdict
  | success
  | failure
  deriving DecidableEq, Repr, Inhabited

namespace Verdict

/-- The tag of a verdict. -/
def tag : Verdict → String
  | .success => "SUCCESS"
  | .failure => "FAILURE"

/-- The name of a verdict. -/
def name : Verdict → String
  | .success => "Success"
  | .failure => "Failure"

/-- Reads a verdict by its tag. -/
def reader : Reader Verdict :=
  Json.variant ([Verdict.success, .failure].map fun v => (v.tag, v))

end Verdict

/-- The word of a member about a command. -/
structure Status where
  verdict : Verdict
  message? : Option String
  deriving DecidableEq, Inhabited

namespace Status

/-- A success with a message. -/
def success (message : String) : Status := ⟨.success, some message⟩

/-- A failure with a message. -/
def failure (message : String) : Status := ⟨.failure, some message⟩

/-- Whether a member did what it was asked. -/
def isSuccess (s : Status) : Bool := s.verdict == .success

/-- A status as JSON. -/
def toJson (s : Status) : Json :=
  .obj (("result", .str s.verdict.tag) :: Json.field? "message" (s.message?.map .str))

/-- The fields of a status. -/
def record : Record Status where
  name := "Status"
  start := default
  fields := [
    .mandatory "result" Verdict.reader fun v s => { s with verdict := v },
    .defaulted "message" (Json.optional Json.text) fun v s => { s with message? := v }]

/-- Reads a status. -/
def reader : Reader Status := Json.record record

/-- The text of a status in diagnostics. -/
def text (s : Status) : String :=
  let message :=
    match s.message? with
    | some m => "Some(" ++ Text.quoted m ++ ")"
    | none => "None"
  "Status \x7b result: " ++ s.verdict.name ++ ", message: " ++ message ++ " \x7d"

end Status

/-- The word of a member with its name. -/
structure MemberReply where
  member : String
  status : Status
  deriving DecidableEq, Inhabited

namespace MemberReply

/-- A reply as JSON. -/
def toJson (r : MemberReply) : Json :=
  .obj [("member", .str r.member), ("status", r.status.toJson)]

/-- The fields of a reply. -/
def record : Record MemberReply where
  name := "MemberFunctionResult"
  start := default
  fields := [
    .mandatory "member" Json.text fun v r => { r with member := v },
    .mandatory "status" Status.reader fun v r => { r with status := v }]

/-- Reads a reply. -/
def reader : Reader MemberReply := Json.record record

end MemberReply

/-- The words of members by name. -/
@[ext] structure Report where
  statuses : SortedMap String Status
  deriving DecidableEq

namespace Report

/-- The report before anybody reported. -/
def empty : Report := ⟨.empty⟩

instance : Inhabited Report := ⟨empty⟩

/-- The status that counts after a further one. -/
def merge (old? : Option Status) (new : Status) : Status :=
  match old? with
  | none => new
  | some old => if old.isSuccess then new else old

/-- Takes a further status of a member in. -/
def add (r : Report) (member : String) (status : Status) : Report :=
  ⟨r.statuses.insert member (merge (r.statuses.get? member) status)⟩

/-- The report of a list of statuses. -/
def ofList (l : List (String × Status)) : Report :=
  l.foldl (fun r e => r.add e.1 e.2) empty

/-- The members that failed, in order, with their statuses. -/
def failures (r : Report) : List (String × Status) :=
  r.statuses.entries.filter fun e => !e.2.isSuccess

/-- The members that did what they were asked, in order. -/
def successes (r : Report) : List String :=
  (r.statuses.entries.filter fun e => e.2.isSuccess).map (·.1)

/-- Whether no member failed. -/
def isSuccessful (r : Report) : Bool := r.statuses.entries.all fun e => e.2.isSuccess

/-- One line for every member that failed. -/
def message (r : Report) : String :=
  "\n".intercalate (r.failures.map fun e => e.1 ++ " -> " ++ e.2.message?.getD "")

/-- The text of a report in diagnostics. -/
def text (r : Report) : String :=
  let entries := r.statuses.entries.map fun e => Text.quoted e.1 ++ ": " ++ e.2.text
  "ClusterManagementResult \x7b member_statuses: \x7b" ++ ", ".intercalate entries ++ "\x7d \x7d"

/-- A report as JSON. -/
def toJson (r : Report) : Json :=
  .obj [("member_statuses", .obj (r.statuses.entries.map fun e => (e.1, e.2.toJson)))]

/-- The fields of a report. -/
def record : Record Report where
  name := "ClusterManagementResult"
  start := empty
  fields := [
    .mandatory "member_statuses" (Json.table Status.reader) fun v r => { r with statuses := v }]

/-- Reads a report. -/
def reader : Reader Report := Json.record record

theorem isSuccessful_iff {r : Report} : r.isSuccessful = true ↔ r.failures = [] := by
  simp [isSuccessful, failures]

@[simp] theorem get?_add_self (r : Report) (m : String) (s : Status) :
    (r.add m s).statuses.get? m = some (merge (r.statuses.get? m) s) :=
  SortedMap.get?_insert_self ..

theorem get?_add_of_ne (r : Report) {m n : String} (s : Status) (h : n ≠ m) :
    (r.add m s).statuses.get? n = r.statuses.get? n :=
  SortedMap.get?_insert_of_ne _ _ h

end Report

end CacheCluster
