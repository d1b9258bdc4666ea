/-!
# Region attributes

How the entries of a region are spread over the members, and the type tags that choose it.

## Main definitions

* `PartitionSpec` : tuning of partitioned regions; what is left out is up to the member.
* `Attributes` : a partitioned region with its tuning, a replicated one, or neither.
* `DataPolicy`, `Attributes.policy`, `Attributes.spec?` : the two parts that are written down.
* `Attributes.ofParts` : the attributes of two parts, which have to fit.
* `RegionType`, `resolve` : the tags, and what a tag chooses.
-/

namespace CacheCluster.Region

/-- How entries are spread over the members. -/
inductive DataPolicy
  | partition
  | replicate
  | unset
  deriving DecidableEq, Repr, Inhabited

namespace DataPolicy

/-- The name of a policy. -/
def name : DataPolicy → String
  | .partition => "Partition"
  | .replicate => "Replicate"
  | .unset => "Unset"

/-- The tag of a policy. -/
def tag : DataPolicy → String
  | .partition => "PARTITION"
  | .replicate => "REPLICATE"
  | .unset => "UNSET"

/-- The policies. -/
def all : List DataPolicy := [.partition, .replicate, .unset]

end DataPolicy

/-- Tuning of a partitioned region. -/
structure PartitionSpec where
  colocatedWith : Option String
  localMaxMemoryMb : Option UInt32
  recoveryDelayMs : Option Int64
  redundantCopies : Option UInt32
  startupRecoveryDelayMs : Option Int64
  totalMaxMemoryMb : Option UInt64
  totalNumBuckets : Option UInt32
  partitionResolver : Option String
  deriving DecidableEq

/-- Leaves all of it to the member. -/
def PartitionSpec.none : PartitionSpec :=
  ⟨.none, .none, .none, .none, .none, .none, .none, .none⟩

instance : Inhabited PartitionSpec := ⟨PartitionSpec.none⟩

/-- The attributes of a region.  Only a partitioned one has a tuning, and it always has one. -/
inductive Attributes
  | partition (spec : PartitionSpec)
  | replicate
  | unset
  deriving DecidableEq, Inhabited

namespace Attributes

/-- The policy of a region. -/
def policy : Attributes → DataPolicy
  | .partition _ => .partition
  | .replicate => .replicate
  | .unset => .unset

/-- The tuning of a region. -/
def spec? : Attributes → Option PartitionSpec
  | .partition spec => some spec
  | _ => none

/-- The attributes of a policy and a tuning, or why they do not fit. -/
def ofParts : DataPolicy → Option PartitionSpec → Except String Attributes
  | .partition, some spec => .ok (.partition spec)
  | .partition, none => .error "PARTITION requires a partition_spec"
  | policy, some _ => .error (policy.name ++ " must not carry a partition_spec")
  | .replicate, none => .ok .replicate
  | .unset, none => .ok .unset

@[simp] theorem ofParts_parts (a : Attributes) : ofParts a.policy a.spec? = .ok a := by
  cases a <;> rfl

theorem ofParts_eq_ok_iff {policy : DataPolicy} {spec? : Option PartitionSpec} {a : Attributes} :
    ofParts policy spec? = .ok a ↔ a.policy = policy ∧ a.spec? = spec? := by
  constructor
  · intro h
    cases policy <;> cases spec? <;> cases h <;> exact ⟨rfl, rfl⟩
  · rintro ⟨rfl, rfl⟩
    exact ofParts_parts a

theorem isSome_spec?_iff (a : Attributes) : a.spec?.isSome ↔ a.policy = .partition := by
  cases a <;> simp [spec?, policy]

end Attributes

/-- The types that a request can name. -/
inductive RegionType
  | partition
  | replicate
  deriving DecidableEq, Repr

namespace RegionType

/-- The tag of a type. -/
def tag : RegionType → String
  | .partition => "PARTITION"
  | .replicate => "REPLICATE"

/-- The type of a tag, which has to be spelled exactly. -/
def ofTag? (tag : String) : Option RegionType :=
  [RegionType.partition, .replicate].find? fun t => t.tag == tag

/-- The attributes of a new region of a type. -/
def attributes : RegionType → Attributes
  | .partition => .partition .none
  | .replicate => .replicate

end RegionType

/-- The attributes that a tag chooses; an unknown tag leaves the policy open. -/
def resolve (tag : String) : Attributes :=
  match RegionType.ofTag? tag with
  | some t => t.attributes
  | none => .unset

theorem resolve_eq_unset_iff {tag : String} :
    resolve tag = .unset ↔ RegionType.ofTag? tag = none := by
  unfold resolve
  split
  · rename_i t h
    cases t <;> simp [RegionType.attributes, h]
  · rename_i h
    simp [h]

theorem policy_resolve_eq_unset_iff {tag : String} :
    (resolve tag).policy = .unset ↔ RegionType.ofTag? tag = none := by
  rw [← resolve_eq_unset_iff]
  cases resolve tag <;> simp [Attributes.policy]

end CacheCluster.Region
