import CacheCluster.Region.Wire

/-!
# Commands

What a locator asks every member of a group to do: create the region of a request, or leave it
alone where it exists.

## Main definitions

* `Command`, `createRegionPath` : a command, and where members take it.
* `Command.ofRequest` : the command for a request, which keeps the name as it was given.
* `Command.toJson`, `Command.reader` : its written form.
-/

namespace CacheCluster

open Json (Reader Record)

/-- A command to the members of a group. -/
structure Command where
  targetPath : String
  config : Region.Config
  skipIfExists : Bool
  targetGroup : String
  deriving DecidableEq, Inhabited

/-- The path where members take commands. -/
def createRegionPath : String := "/functions/create-region"

namespace Command

/-- The command to a group for a request with its configuration. -/
def ofRequest (group : String) (r : Region.Request) (config : Region.Config) : Command :=
  ⟨r.name, config, true, group⟩

/-- A command as JSON. -/
def toJson (c : Command) : Json :=
  .obj [("target_path", .str c.targetPath), ("config", c.config.toJson),
    ("skip_if_exists", .bool c.skipIfExists), ("target_group", .str c.targetGroup)]

/-- The fields of a command. -/
def record : Record Command where
  name := "CreationCommand"
  start := default
  fields := [
    .mandatory "target_path" Json.text fun v c => { c with targetPath := v },
    .mandatory "config" Region.Config.reader fun v c => { c with config := v },
    .mandatory "skip_if_exists" Json.flag fun v c => { c with skipIfExists := v },
    .mandatory "target_group" Json.text fun v c => { c with targetGroup := v }]

/-- Reads a command. -/
def reader : Reader Command := Json.record record

end Command

end CacheCluster
