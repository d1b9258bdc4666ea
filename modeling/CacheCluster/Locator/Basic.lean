import CacheCluster.Engine.Basic
import CacheCluster.Locator.Management

/-!
# Locators

A locator checks a request, brings the command for it to the administered group, and is content
only when every member is.

## Main definitions

* `dispatch` : brings the command for a request to a group.
* `Locator.createRegion` : all of it.
-/

namespace CacheCluster

variable {σ : Type}

/-- Brings the command for a request to a group; no outcome in time is an error. -/
def dispatch (engine : Engine σ) (group : String) (timeout : Duration) (r : Region.Request)
    (config : Region.Config) (s : σ) : Outcome × σ :=
  let (outcome?, s') := engine.run timeout group (.ofRequest group r config) s
  (outcome?.getD (.error (.dispatch (.timeout group timeout))), s')

/-- A report with failures is an error, with the name that was asked for. -/
def requireSuccess (targetPath : String) (outcome : Outcome) : Outcome := do
  let report ← outcome
  if report.isSuccessful then return report
  else throw (.dispatch (.memberExecution targetPath report))

namespace Locator

/-- Creates a region on every member of the administered group. -/
def createRegion (m : Management) (engine : Engine σ) (r : Region.Request) (s : σ) :
    Outcome × σ :=
  match r.validate m.rejectUnknownType with
  | .error cause => (.error (.invalid cause), s)
  | .ok config =>
    let (outcome, s') := dispatch engine m.adminGroup m.timeout r config s
    (requireSuccess r.name outcome, s')

end Locator

end CacheCluster
