import CacheCluster.Member
import CacheCluster.Proofs.Region.Run

/-!
# What a command does at a member

A member that is told to skip what it has does what it is asked exactly when the region is there
already, or what the region is below is.  Whenever it says so, it has the region from then on.

## Main definitions

* `Command.attempt` : a command as an attempt on the table of a member.

## Main results

* `Member.isSuccess_execute_iff` : when a member does what it is asked.
* `Member.contains_execute_of_isSuccess` : a member that says so has the region.
* `Member.contains_execute_iff` : the regions of a member after a command.
* `Member.get?_execute_of_some`, `Member.get?_of_execute` : regions stay as they are, and a new one
  is that of the command.
* `Member.mem_paths_iff`, `Member.paths_subset_iff` : the paths that a member lists.
-/

namespace CacheCluster

open Region (Attempt Path Table Config)

namespace Region.Table

variable {t : Table} {p : Path} {config : Config} {skip : Bool}

/-- An attempt that skips what is there fails only if it misses the region above. -/
theorem attempt_skip_iff {a : Attempt} (hskip : a.skipIfExists = true) :
    (t.attempt a).1 = .inserted ∨ (t.attempt a).1 = .skipped ↔
      t.contains a.path = true ∨ ∀ q, a.path.parent? = some q → t.contains q = true := by
  rcases attempt_cases t a with ⟨htaken, heq⟩ | ⟨hfree, q, hparent, hmissing, heq⟩ |
    ⟨-, hparent, heq⟩
  · simp [heq, hskip, htaken]
  · rw [heq]
    refine iff_of_false (by simp) ?_
    rintro (htaken | hall)
    · simp [htaken] at hfree
    · simp [hall q hparent] at hmissing
  · exact iff_of_true (.inl (by rw [heq])) (.inr hparent)

/-- On a free path nothing is skipped. -/
theorem create_ne_skipped (h : t.get? p = none) : (t.create p config skip).1 ≠ .skipped := by
  rw [create, contains_eq_false_iff.2 h]
  cases t.missingParent? p <;> simp

end Region.Table

/-- A command as an attempt on the table of a member. -/
def Command.attempt (c : Command) : Attempt := ⟨c.targetPath, c.config, c.skipIfExists⟩

namespace Member

variable {m : Member} {c : Command}

theorem execute_status (m : Member) (c : Command) :
    (m.execute c).1.status =
      statusOf m.name (.ofName c.targetPath) (m.regions.attempt c.attempt).1 := rfl

theorem execute_regions (m : Member) (c : Command) :
    (m.execute c).2.regions = (m.regions.attempt c.attempt).2 := rfl

/-- A member that skips what it has does what it is asked when the region is there, or the one that
it is below is. -/
theorem isSuccess_execute_iff (hskip : c.skipIfExists = true) :
    (m.execute c).1.status.isSuccess = true ↔
      m.regions.contains (.ofName c.targetPath) = true ∨
        ∀ q, (Path.ofName c.targetPath).parent? = some q → m.regions.contains q = true := by
  rw [execute_status, isSuccess_statusOf]
  exact Table.attempt_skip_iff hskip

theorem ne_parentMissing_of_isSuccess (h : (m.execute c).1.status.isSuccess = true) (q : Path) :
    (m.regions.attempt c.attempt).1 ≠ .parentMissing q := by
  intro hmissing
  rw [execute_status, isSuccess_statusOf, hmissing] at h
  simp at h

/-- A member that says that it did what it was asked has the region. -/
theorem contains_execute_of_isSuccess (h : (m.execute c).1.status.isSuccess = true) :
    (m.execute c).2.regions.contains (.ofName c.targetPath) = true := by
  rw [execute_regions]
  exact Table.contains_attempt_self (ne_parentMissing_of_isSuccess h)

/-- The regions of a member after a command are those before, and that of the command if the region
above was there. -/
theorem contains_execute_iff {p : Path} :
    (m.execute c).2.regions.contains p = true ↔
      m.regions.contains p = true ∨ Path.ofName c.targetPath = p ∧
        ∀ q, p.parent? = some q → m.regions.contains q = true := by
  rw [execute_regions, Table.contains_attempt]
  rfl

/-- A region of a member stays as it is. -/
theorem get?_execute_of_some {p : Path} {config : Config} (h : m.regions.get? p = some config) :
    (m.execute c).2.regions.get? p = some config := by
  rw [execute_regions]
  exact Table.get?_create_of_some h

/-- A region that a member has after a command was there before, or is that of the command. -/
theorem get?_of_execute {p : Path} {config : Config}
    (h : (m.execute c).2.regions.get? p = some config) :
    m.regions.get? p = some config ∨ Path.ofName c.targetPath = p ∧ c.config = config := by
  rw [execute_regions, Table.get?_attempt] at h
  rcases h with hold | ⟨-, hconfig, hpath, -⟩
  · exact .inl hold
  · exact .inr ⟨hpath, hconfig⟩

/-! ## Paths -/

theorem mem_paths_iff {text : String} :
    text ∈ m.paths ↔ ∃ p config, m.regions.get? p = some config ∧ p.text = text := by
  rw [paths, List.mem_map]
  simp only [SortedMap.mem_keys_iff, exists_and_right]

theorem text_mem_paths_iff {p : Path} : p.text ∈ m.paths ↔ m.regions.contains p = true := by
  rw [mem_paths_iff, Table.contains_iff]
  constructor
  · rintro ⟨q, config, hq, htext⟩
    rw [← Path.ofName_text p, ← htext, Path.ofName_text]
    exact ⟨config, hq⟩
  · rintro ⟨config, hp⟩
    exact ⟨p, config, hp, rfl⟩

theorem paths_subset_iff {m m' : Member} :
    m.paths ⊆ m'.paths ↔ ∀ p, m.regions.contains p = true → m'.regions.contains p = true := by
  simp only [← text_mem_paths_iff]
  refine ⟨fun h p hp => h hp, fun h text htext => ?_⟩
  obtain ⟨p, config, -, rfl⟩ := mem_paths_iff.1 htext
  exact h p htext

end Member

end CacheCluster
