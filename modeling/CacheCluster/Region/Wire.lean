import CacheCluster.Json.Record
import CacheCluster.Region.Request

/-!
# Regions as JSON

The written form of requests, attributes and configurations, and their readers.  What is left
open in a tuning is not written.

## Main definitions

* `PartitionSpec.toJson`, `Attributes.toJson`, `Config.toJson`, `Request.toJson`.
* `PartitionSpec.reader`, `Attributes.reader`, `Config.reader`, `Request.reader`.
-/

namespace CacheCluster.Region

open Json (Reader Record)

/-- A tuning as JSON. -/
def PartitionSpec.toJson (s : PartitionSpec) : Json :=
  .obj <|
    Json.field? "colocated_with" (s.colocatedWith.map .str) ++
    Json.field? "local_max_memory_mb" (s.localMaxMemoryMb.map fun n => .int n.toNat) ++
    Json.field? "recovery_delay_ms" (s.recoveryDelayMs.map fun n => .int n.toInt) ++
    Json.field? "redundant_copies" (s.redundantCopies.map fun n => .int n.toNat) ++
    Json.field? "startup_recovery_delay_ms" (s.startupRecoveryDelayMs.map fun n => .int n.toInt) ++
    Json.field? "total_max_memory_mb" (s.totalMaxMemoryMb.map fun n => .int n.toNat) ++
    Json.field? "total_num_buckets" (s.totalNumBuckets.map fun n => .int n.toNat) ++
    Json.field? "partition_resolver" (s.partitionResolver.map .str)

/-- The fields of a tuning. -/
def PartitionSpec.record : Record PartitionSpec where
  name := "PartitionSpec"
  start := .none
  fields := [
    .defaulted "colocated_with" (Json.optional Json.text)
      fun v s => { s with colocatedWith := v },
    .defaulted "local_max_memory_mb" (Json.optional Json.uint32)
      fun v s => { s with localMaxMemoryMb := v },
    .defaulted "recovery_delay_ms" (Json.optional Json.int64)
      fun v s => { s with recoveryDelayMs := v },
    .defaulted "redundant_copies" (Json.optional Json.uint32)
      fun v s => { s with redundantCopies := v },
    .defaulted "startup_recovery_delay_ms" (Json.optional Json.int64)
      fun v s => { s with startupRecoveryDelayMs := v },
    .defaulted "total_max_memory_mb" (Json.optional Json.uint64)
      fun v s => { s with totalMaxMemoryMb := v },
    .defaulted "total_num_buckets" (Json.optional Json.uint32)
      fun v s => { s with totalNumBuckets := v },
    .defaulted "partition_resolver" (Json.optional Json.text)
      fun v s => { s with partitionResolver := v }]

/-- Reads a tuning. -/
def PartitionSpec.reader : Reader PartitionSpec := Json.record PartitionSpec.record

/-- Reads a policy by its tag. -/
def DataPolicy.reader : Reader DataPolicy :=
  Json.variant (DataPolicy.all.map fun p => (p.tag, p))

/-- Attributes as JSON. -/
def Attributes.toJson (a : Attributes) : Json :=
  .obj (("data_policy", .str a.policy.tag) ::
    Json.field? "partition_spec" (a.spec?.map PartitionSpec.toJson))

/-- The two parts of attributes, before it is known whether they fit. -/
structure AttributeParts where
  policy : DataPolicy
  spec? : Option PartitionSpec

/-- The fields of attributes. -/
def AttributeParts.record : Record AttributeParts where
  name := "RawRegionAttributes"
  start := ⟨default, none⟩
  fields := [
    .mandatory "data_policy" DataPolicy.reader fun v a => { a with policy := v },
    .defaulted "partition_spec" (Json.optional PartitionSpec.reader)
      fun v a => { a with spec? := v }]

/-- Reads attributes, whose parts have to fit. -/
def Attributes.reader : Reader Attributes := do
  let parts ← Json.record AttributeParts.record
  match Attributes.ofParts parts.policy parts.spec? with
  | .ok a => pure a
  | .error reason => Json.refuse (.refused reason)

/-- A configuration as JSON. -/
def Config.toJson (c : Config) : Json :=
  .obj [("short_name", .str c.shortName), ("attributes", c.attributes.toJson)]

/-- The fields of a configuration. -/
def Config.record : Record Config where
  name := "RegionConfig"
  start := default
  fields := [
    .mandatory "short_name" Json.text fun v c => { c with shortName := v },
    .mandatory "attributes" Attributes.reader fun v c => { c with attributes := v }]

/-- Reads a configuration. -/
def Config.reader : Reader Config := Json.record Config.record

/-- A request as JSON. -/
def Request.toJson (r : Request) : Json := .obj [("name", .str r.name), ("type", .str r.type)]

/-- The fields of a request. -/
def Request.record : Record Request where
  name := "CreateRegionRequest"
  start := default
  fields := [
    .mandatory "name" Json.text fun v r => { r with name := v },
    .mandatory "type" Json.text fun v r => { r with type := v }]

/-- Reads a request. -/
def Request.reader : Reader Request := Json.record Request.record

end CacheCluster.Region
