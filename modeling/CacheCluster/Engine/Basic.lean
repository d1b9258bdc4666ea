import CacheCluster.Command
import CacheCluster.Error

/-!
# Engines

An engine brings a command to the members of a group and collects what they report.  It is given
a time limit; members that were reached before it passed keep what they did.

## Main definitions

* `Outcome` : a report or an error.
* `Engine` : a run over a state, which may not end within the limit.
* `Engine.answering` : the engine that always has the same outcome.
-/

namespace CacheCluster

/-- What an engine makes of a command. -/
abbrev Outcome := Except Error Report

/-- A way to bring commands to groups.  A run without an outcome did not end within the limit. -/
structure Engine (σ : Type) where
  run : Duration → String → Command → σ → Option Outcome × σ

namespace Engine

/-- The engine that has the same outcome at once for every command. -/
def answering (outcome : Outcome) : Engine Unit := ⟨fun _ _ _ s => (some outcome, s)⟩

end Engine

end CacheCluster
