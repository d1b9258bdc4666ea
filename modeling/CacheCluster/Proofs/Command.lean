import CacheCluster.Command
import CacheCluster.Http.JsonBody
import CacheCluster.Proofs.Json.Covers

/-!
# Commands before their parts are checked

A posted command gives a policy and perhaps a tuning, and is taken only when these fit.  The same
body can be read without that check, which shows what was posted whether it was taken or not.

## Main definitions

* `Region.AttributeParts.Fits` : a tuning is there exactly where the policy is to partition.
* `Region.ConfigParts`, `CommandParts` : what is posted, whether it fits or not.

## Main results

* `Region.Attributes.covers_reader`, `Command.covers_reader` : what is taken was posted.
* `Command.jsonBody_parts` : the posted parts of a command that is taken fit.
-/

namespace CacheCluster

open Json (Reader Record Covers)

namespace Region

/-- A tuning is there exactly where the policy is to partition. -/
def AttributeParts.Fits (a : AttributeParts) : Prop := a.spec?.isSome ↔ a.policy = .partition

/-- The two parts of attributes. -/
def Attributes.parts (a : Attributes) : AttributeParts := ⟨a.policy, a.spec?⟩

theorem Attributes.fits_parts (a : Attributes) : a.parts.Fits := a.isSome_spec?_iff

/-- A configuration of which it is not known whether the parts fit. -/
structure ConfigParts where
  shortName : String
  attributes : AttributeParts

/-- A configuration in parts. -/
def Config.parts (c : Config) : ConfigParts := ⟨c.shortName, c.attributes.parts⟩

/-- The fields of a configuration in parts. -/
def ConfigParts.record : Record ConfigParts where
  name := "RegionConfig"
  start := (default : Config).parts
  fields := [
    .mandatory "short_name" Json.text fun v c => { c with shortName := v },
    .mandatory "attributes" (Json.record AttributeParts.record)
      fun v c => { c with attributes := v }]

/-- What is taken as attributes was posted in these parts. -/
theorem Attributes.covers_reader :
    Covers (Json.record AttributeParts.record) Attributes.reader Attributes.parts := by
  intro c a c'' ha
  obtain ⟨parts, c', hparts, ha⟩ := Json.exists_of_bind_eq_ok ha
  -- Attributes that pass the check are made of the two parts, and show them again.
  cases hfit : ofParts parts.policy parts.spec? with
  | error reason =>
    rw [hfit] at ha
    cases ha
  | ok b =>
    rw [hfit] at ha
    cases ha
    obtain ⟨hpolicy, hspec⟩ := ofParts_eq_ok_iff.1 hfit
    rw [hparts, Attributes.parts, hpolicy, hspec]

theorem Config.covers_reader :
    Covers (Json.record ConfigParts.record) Config.reader Config.parts := by
  refine Covers.record ⟨rfl, .cons ?_ (.cons ?_ .nil)⟩
  · exact Json.Field.covers_mandatory (.refl _) fun _ _ => rfl
  · exact Json.Field.covers_mandatory Attributes.covers_reader fun _ _ => rfl

end Region

/-- A command of which it is not known whether the parts fit. -/
structure CommandParts where
  targetPath : String
  config : Region.ConfigParts
  skipIfExists : Bool
  targetGroup : String

/-- A command in parts. -/
def Command.parts (c : Command) : CommandParts :=
  ⟨c.targetPath, c.config.parts, c.skipIfExists, c.targetGroup⟩

namespace CommandParts

/-- The fields of a command in parts. -/
def record : Record CommandParts where
  name := "CreationCommand"
  start := (default : Command).parts
  fields := [
    .mandatory "target_path" Json.text fun v c => { c with targetPath := v },
    .mandatory "config" (Json.record Region.ConfigParts.record) fun v c => { c with config := v },
    .mandatory "skip_if_exists" Json.flag fun v c => { c with skipIfExists := v },
    .mandatory "target_group" Json.text fun v c => { c with targetGroup := v }]

/-- Reads a command in parts. -/
def reader : Reader CommandParts := Json.record record

end CommandParts

theorem Command.covers_reader : Covers CommandParts.reader Command.reader Command.parts := by
  refine Covers.record ⟨rfl, .cons ?_ (.cons ?_ (.cons ?_ (.cons ?_ .nil)))⟩
  · exact Json.Field.covers_mandatory (.refl _) fun _ _ => rfl
  · exact Json.Field.covers_mandatory Region.Config.covers_reader fun _ _ => rfl
  · exact Json.Field.covers_mandatory (.refl _) fun _ _ => rfl
  · exact Json.Field.covers_mandatory (.refl _) fun _ _ => rfl

/-- The body of a request, read by a reader that takes more. -/
theorem Http.jsonBody_of_covers {α β : Type} {r : Reader β} {r' : Reader α} {f : α → β}
    (h : Covers r r' f) {q : Http.Request} {a : α} (ha : Http.jsonBody r' q = .ok a) :
    Http.jsonBody r q = .ok (f a) := by
  rw [Http.jsonBody] at ha ⊢
  split at ha
  · rename_i htype
    split at ha
    · cases ha
    · rename_i hlength
      cases hfront : Json.front r' q.body with
      | error fault =>
        rw [hfront] at ha
        cases ha
      | ok b =>
        rw [hfront] at ha
        cases ha
        rw [if_pos htype, if_neg hlength, h.front hfront]
        rfl
  · cases ha

/-- A body that is taken as a command has the parts of that command, which fit. -/
theorem Command.jsonBody_parts {q : Http.Request} {c : Command}
    (h : Http.jsonBody Command.reader q = .ok c) :
    Http.jsonBody CommandParts.reader q = .ok c.parts ∧ c.parts.config.attributes.Fits :=
  ⟨Http.jsonBody_of_covers Command.covers_reader h, c.config.attributes.fits_parts⟩

end CacheCluster
