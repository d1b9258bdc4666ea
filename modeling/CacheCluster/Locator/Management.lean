import CacheCluster.Duration
import CacheCluster.Json.Record

/-!
# Management settings

Which group gets the commands, how long its members have, and whether unknown types pass.

## Main definitions

* `Management`, `Management.default` : the settings, and what holds where none are given.
* `Management.timeout` : the time limit.
* `Management.toJson`, `Management.reader` : the written form.
-/

namespace CacheCluster

open Json (Reader Record)

/-- The settings of a locator. -/
structure Management where
  adminGroup : String
  dispatchTimeoutMs : UInt64
  rejectUnknownType : Bool
  deriving DecidableEq

namespace Management

/-- The settings where none are given. -/
def default : Management := ⟨"cluster", 10000, false⟩

instance : Inhabited Management := ⟨default⟩

/-- The time that the members have for a command. -/
def timeout (m : Management) : Duration := .ofMillis m.dispatchTimeoutMs.toNat

/-- Settings as JSON. -/
def toJson (m : Management) : Json :=
  .obj [("admin_group", .str m.adminGroup), ("dispatch_timeout_ms", .int m.dispatchTimeoutMs.toNat),
    ("reject_unknown_type", .bool m.rejectUnknownType)]

/-- The fields of settings. -/
def record : Record Management where
  name := "ManagementConfig"
  start := default
  fields := [
    .defaulted "admin_group" Json.text fun v m => { m with adminGroup := v },
    .defaulted "dispatch_timeout_ms" Json.uint64 fun v m => { m with dispatchTimeoutMs := v },
    .defaulted "reject_unknown_type" Json.flag fun v m => { m with rejectUnknownType := v }]

/-- Reads settings. -/
def reader : Reader Management := Json.record record

end Management

end CacheCluster
