import CacheCluster.Command
import CacheCluster.Region.Table
import CacheCluster.Report

/-!
# Members

A member of the cluster holds regions and carries out commands.  Whatever becomes of a command,
the member answers with a status.

## Main definitions

* `Member` : a name and a table of regions.
* `Member.execute` : what a command changes, and what is answered.
* `Member.paths`, `Member.region?` : which regions there are, and what they are.
-/

namespace CacheCluster

open Region (Path Table Creation)

/-- A member with its regions. -/
structure Member where
  name : String
  regions : Table
  deriving DecidableEq

namespace Member

/-- A member without regions. -/
def new (name : String) : Member := ⟨name, .empty⟩

/-- What a member answers when a region was to be created at a path. -/
def statusOf (member : String) (p : Path) : Creation → Status
  | .inserted => .success s!"Region \"{p.text}\" created on \"{member}\""
  | .skipped => .success s!"Skipping \"{member}\". Region \"{p.text}\" already exists."
  | .alreadyExists => .failure s!"Region with path \"{p.text}\" already exists on \"{member}\""
  | .parentMissing _ => .failure s!"Parent region for \"{p.text}\" does not exist."

/-- Carries out a command. -/
def execute (m : Member) (c : Command) : MemberReply × Member :=
  let p := Path.ofName c.targetPath
  let (outcome, regions) := m.regions.create p c.config c.skipIfExists
  (⟨m.name, statusOf m.name p outcome⟩, { m with regions })

/-- The paths of the regions, in order. -/
def paths (m : Member) : List String := m.regions.keys.map Path.text

/-- The configuration of the region that a name means. -/
def region? (m : Member) (name : String) : Option Region.Config := m.regions.get? (.ofName name)

@[simp] theorem execute_name (m : Member) (c : Command) : (m.execute c).2.name = m.name := rfl

theorem isSuccess_statusOf {member : String} {p : Path} {o : Creation} :
    (statusOf member p o).isSuccess = true ↔ o = .inserted ∨ o = .skipped := by
  cases o <;> simp [statusOf, Status.isSuccess, Status.success, Status.failure]

end Member

end CacheCluster
