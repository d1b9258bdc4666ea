import CacheCluster.Proofs.Member

/-!
# Runs of a member

A member carries out commands one after the other.  Its regions change as a table does by attempts,
and are never fewer than before.

## Main definitions

* `Member.run` : a member after some commands.
* `Member.trace` : what is answered to commands, each time with the member after it.

## Main results

* `Member.run_regions` : commands change the regions of a member as attempts do.
* `Member.paths_execute_mono`, `Member.paths_run_mono` : who has more regions has more of them after
  the same commands, and after further ones.
-/

namespace CacheCluster

namespace Member

/-- The member after some commands. -/
def run (m : Member) (cs : List Command) : Member := cs.foldl (fun m c => (m.execute c).2) m

@[simp] theorem run_nil (m : Member) : m.run [] = m := rfl

@[simp] theorem run_cons (m : Member) (c : Command) (cs : List Command) :
    m.run (c :: cs) = (m.execute c).2.run cs := rfl

theorem run_regions (m : Member) (cs : List Command) :
    (m.run cs).regions = m.regions.run (cs.map Command.attempt) := by
  induction cs generalizing m with
  | nil => rfl
  | cons c cs ih =>
    rw [run_cons, ih]
    rfl

theorem run_name (m : Member) (cs : List Command) : (m.run cs).name = m.name := by
  induction cs generalizing m with
  | nil => rfl
  | cons c cs ih => rw [run_cons, ih, execute_name]

/-- What is answered to commands one after the other, each time with the member after it. -/
def trace (m : Member) : List Command → List (MemberReply × Member)
  | [] => []
  | c :: cs => m.execute c :: (m.execute c).2.trace cs

/-! ## More and more regions -/

variable {m m' : Member}

theorem paths_execute_mono (c : Command) (h : m.paths ⊆ m'.paths) :
    (m.execute c).2.paths ⊆ (m'.execute c).2.paths := by
  rw [paths_subset_iff] at h ⊢
  intro p
  rw [contains_execute_iff, contains_execute_iff]
  exact Or.imp (h p) fun hnew => ⟨hnew.1, fun q hq => h q (hnew.2 q hq)⟩

theorem paths_subset_execute (m : Member) (c : Command) : m.paths ⊆ (m.execute c).2.paths := by
  rw [paths_subset_iff]
  intro p hp
  exact contains_execute_iff.2 (.inl hp)

/-- A member with more regions has more of them also after the same commands with further ones
between them. -/
theorem paths_run_mono {cs more : List Command} (hcs : cs.Sublist more)
    (h : m.paths ⊆ m'.paths) : (m.run cs).paths ⊆ (m'.run more).paths := by
  -- A further command takes nothing away from the member with more, and one that both get keeps
  -- the order.
  induction hcs generalizing m m' with
  | slnil => exact h
  | cons c _ ih => exact ih (List.Subset.trans h (paths_subset_execute m' c))
  | cons_cons c _ ih => exact ih (paths_execute_mono c h)

end Member

end CacheCluster
