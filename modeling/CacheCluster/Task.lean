import CacheCluster.Error

/-!
# Background tasks

A task is waited for once.  Whoever waits again learns nothing more.

## Main definitions

* `TaskEnd` : how a task ends.
* `TaskHandle`, `TaskHandle.join` : what is left to wait for.
-/

namespace CacheCluster

/-- How a task ends. -/
inductive TaskEnd
  | done
  | panicked (message : String)
  deriving DecidableEq, Repr

/-- A task under a name, unless it was waited for already. -/
structure TaskHandle where
  context : String
  task? : Option TaskEnd
  deriving DecidableEq

/-- Waits for the task. -/
def TaskHandle.join (h : TaskHandle) : Except Error Unit × TaskHandle :=
  let outcome :=
    match h.task? with
    | some (.panicked _) => .error (.runtime (.taskPanicked h.context))
    | _ => .ok ()
  (outcome, { h with task? := none })

end CacheCluster
