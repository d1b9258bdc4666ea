import CacheCluster.Region.Attributes
import CacheCluster.Region.Path
import CacheCluster.Text.Quoted

/-!
# Requests for new regions

A request gives the full name and a type tag.  It becomes a configuration, the same for every
member, unless its name has no usable last segment; whether an unknown tag is let through is a
matter of policy.

## Main definitions

* `Request`, `Config` : what is asked for, and what the members get.
* `Invalid`, `Invalid.text` : why a request goes to no member.
* `shortName?` : the last segment of a name, unless it is blank.
* `Request.build`, `Request.checkType`, `Request.validate`.
-/

namespace CacheCluster.Region

/-- A request for a new region. -/
structure Request where
  name : String
  type : String
  deriving DecidableEq, Inhabited

/-- The configuration of a region. -/
structure Config where
  shortName : String
  attributes : Attributes
  deriving DecidableEq, Inhabited

/-- Why a request goes to no member. -/
inductive Invalid
  | name (fullName : String)
  | type (tag : String)
  deriving DecidableEq

/-- The text of a refusal. -/
def Invalid.text : Invalid → String
  | .name fullName => "InvalidName \x7b full_name: " ++ Text.quoted fullName ++ " \x7d"
  | .type tag => "UnknownType \x7b type_tag: " ++ Text.quoted tag ++ " \x7d"

/-- The last segment of a name, unless it is blank. -/
def shortName? (name : String) : Option String :=
  let segment := afterLastSlash name.toList
  if Text.isBlank segment then none else some (String.ofList segment)

theorem shortName?_eq_none_iff {name : String} :
    shortName? name = none ↔ Text.isBlank (afterLastSlash name.toList) = true := by
  simp [shortName?]

theorem shortName?_eq_some_iff {name s : String} :
    shortName? name = some s ↔
      s.toList = afterLastSlash name.toList ∧ Text.isBlank s.toList = false := by
  simp only [shortName?]
  constructor
  · intro h
    split at h
    · cases h
    · rename_i hb
      cases h
      simpa using hb
  · rintro ⟨h, hb⟩
    rw [← h, hb]
    simp

namespace Request

/-- The configuration that a request asks for. -/
def build (r : Request) : Except Invalid Config :=
  match shortName? r.name with
  | some s => .ok ⟨s, resolve r.type⟩
  | none => .error (.name r.name)

/-- Refuses a configuration without a policy where the cluster is set up to do so. -/
def checkType (r : Request) (config : Config) (rejectUnknownType : Bool) : Except Invalid Unit :=
  if rejectUnknownType && config.attributes.policy = .unset then .error (.type r.type)
  else .ok ()

/-- The configuration of a request that passes both checks. -/
def validate (rejectUnknownType : Bool) (r : Request) : Except Invalid Config := do
  let config ← r.build
  r.checkType config rejectUnknownType
  return config

theorem build_eq_ok_iff {r : Request} {config : Config} :
    r.build = .ok config ↔
      shortName? r.name = some config.shortName ∧ config.attributes = resolve r.type := by
  obtain ⟨s, a⟩ := config
  unfold build
  cases h : shortName? r.name with
  | none => simp
  | some t => simp [eq_comm]

theorem validate_eq_ok_iff {reject : Bool} {r : Request} {config : Config} :
    r.validate reject = .ok config ↔
      r.build = .ok config ∧ (reject = true → config.attributes.policy ≠ .unset) := by
  unfold validate checkType
  cases h : r.build with
  | error e => simp [bind, Except.bind]
  | ok c =>
    by_cases hc : reject = true ∧ c.attributes.policy = .unset
    · have hr : (.ok c : Except Invalid Config) = .ok config →
          ¬(reject = true → config.attributes.policy ≠ .unset) := by
        rintro e h'
        cases e
        exact h' hc.1 hc.2
      simpa [bind, Except.bind, hc.1, hc.2] using hr
    · have hf : (reject && decide (c.attributes.policy = .unset)) = false := by
        rw [Bool.eq_false_iff]
        intro ht
        rw [Bool.and_eq_true, decide_eq_true_eq] at ht
        exact hc ht
      simp only [bind, Except.bind, hf]
      constructor
      · intro e
        cases e
        exact ⟨rfl, fun hr hp => hc ⟨hr, hp⟩⟩
      · rintro ⟨e, -⟩
        exact e

theorem validate_of_blank {reject : Bool} {r : Request}
    (h : Text.isBlank (afterLastSlash r.name.toList) = true) :
    r.validate reject = .error (.name r.name) := by
  rw [validate, build, shortName?_eq_none_iff.2 h]
  rfl

theorem validate_of_unknown {r : Request}
    (hname : Text.isBlank (afterLastSlash r.name.toList) = false)
    (htype : RegionType.ofTag? r.type = none) : r.validate true = .error (.type r.type) := by
  have hpolicy : (resolve r.type).policy = .unset := policy_resolve_eq_unset_iff.2 htype
  rw [validate, build, shortName?, hname]
  simp [checkType, hpolicy, bind, Except.bind]

/-- A request passes both checks with the last segment of its name and the attributes of its tag. -/
theorem validate_of_known {reject : Bool} {r : Request}
    (hname : Text.isBlank (afterLastSlash r.name.toList) = false)
    (htype : ¬ (reject = true ∧ RegionType.ofTag? r.type = none)) :
    r.validate reject = .ok ⟨String.ofList (afterLastSlash r.name.toList), resolve r.type⟩ := by
  rw [validate_eq_ok_iff, build_eq_ok_iff, shortName?_eq_some_iff, String.toList_ofList]
  refine ⟨⟨⟨rfl, hname⟩, rfl⟩, ?_⟩
  intro hreject hpolicy
  exact htype ⟨hreject, policy_resolve_eq_unset_iff.1 hpolicy⟩

end Request

end CacheCluster.Region
