import CacheCluster.Engine.Basic
import CacheCluster.Member

/-!
# The engine in one process

Members in a list carry out a command one after the other.  Some take their time, and some fail
whatever they are asked.

## Main definitions

* `Behaviour`, `LocalMember` : how a member of the list answers.
* `LocalCluster` : the members, and the commands that were submitted so far.
* `runMembers` : the members that the time limit reaches.
* `Engine.inProcess`.
-/

namespace CacheCluster

/-- How a member answers. -/
inductive Behaviour
  | healthy
  | failing (message : String)
  | slow (delay : Duration)
  deriving DecidableEq

/-- A member with the way it answers. -/
structure LocalMember where
  member : Member
  behaviour : Behaviour
  deriving DecidableEq

/-- A member without regions. -/
def LocalMember.new (name : String) (behaviour : Behaviour) : LocalMember :=
  ⟨.new name, behaviour⟩

/-- The time that a member takes before it answers. -/
def LocalMember.delay (m : LocalMember) : Duration :=
  match m.behaviour with
  | .slow d => d
  | _ => ⟨0⟩

/-- What a member answers to a command, and the member after it. -/
def LocalMember.execute (m : LocalMember) (c : Command) : Status × LocalMember :=
  match m.behaviour with
  | .failing message => (.failure message, m)
  | _ =>
    let (reply, member) := m.member.execute c
    (reply.status, { m with member })

/-- Members in one process, and the commands with their groups, in order. -/
structure LocalCluster where
  members : List LocalMember
  sent : List (String × Command)

/-- Has the members carry out a command in turn while time is left.  A member that is done exactly
when the time is over is still in time. -/
def runMembers (c : Command) : Duration → Report → List LocalMember →
    Option Report × List LocalMember
  | _, report, [] => (some report, [])
  | left, report, m :: rest =>
    if left.nanoseconds < m.delay.nanoseconds then (none, m :: rest)
    else
      let (status, m') := m.execute c
      let (report?, rest') :=
        runMembers c ⟨left.nanoseconds - m.delay.nanoseconds⟩ (report.add m.member.name status) rest
      (report?, m' :: rest')

namespace LocalCluster

/-- A cluster to which nothing was submitted yet. -/
def new (members : List LocalMember) : LocalCluster := ⟨members, []⟩

/-- The first member of a name. -/
def member? (s : LocalCluster) (name : String) : Option Member :=
  (s.members.find? fun m => m.member.name == name).map LocalMember.member

end LocalCluster

/-- The engine in one process. -/
def Engine.inProcess : Engine LocalCluster where
  run limit group c s :=
    let sent := s.sent ++ [(group, c)]
    match s.members with
    | [] => (some (.error (.dispatch (.noMembers group))), { s with sent })
    | members =>
      let (report?, members) := runMembers c limit .empty members
      (report?.map .ok, ⟨members, sent⟩)

end CacheCluster
