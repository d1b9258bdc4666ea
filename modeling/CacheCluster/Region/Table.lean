import CacheCluster.Region.Request
import CacheCluster.SortedMap

/-!
# Region tables

The regions of a member by path.  Regions are only ever added: the first configuration at a path
stays, and a region below another one has to come after it.

## Main definitions

* `Table` : configurations by path.
* `Creation` : what became of an attempt to add a region.
* `Table.create` : the attempt.

## Main results

* `Table.create_eq_self` : an attempt that adds nothing changes nothing.
* `Table.get?_create_of_inserted` : a region that was added is there.
* `Table.get?_create_of_some` : a region that was there stays as it is.
-/

namespace CacheCluster.Region

/-- The regions of a member. -/
abbrev Table := SortedMap Path Config

/-- What became of an attempt to add a region. -/
inductive Creation
  | inserted
  | skipped
  | alreadyExists
  | parentMissing (parent : Path)
  deriving DecidableEq

namespace Table

/-- Whether the region above a path is there, if the path has one; otherwise the path of it. -/
def missingParent? (t : Table) (p : Path) : Option Path :=
  p.parent?.filter fun q => !t.contains q

/-- Tries to add a region. -/
def create (t : Table) (p : Path) (config : Config) (skipIfExists : Bool) : Creation × Table :=
  if t.contains p then (if skipIfExists then .skipped else .alreadyExists, t)
  else
    match t.missingParent? p with
    | some q => (.parentMissing q, t)
    | none => (.inserted, t.insert p config)

variable {t : Table} {p q : Path} {config : Config} {skip : Bool}

theorem create_eq_self (h : (t.create p config skip).1 ≠ .inserted) :
    (t.create p config skip).2 = t := by
  unfold create at h ⊢
  split
  · rfl
  · split
    · rfl
    · simp_all

theorem create_eq_inserted_iff :
    (t.create p config skip).1 = .inserted ↔ t.get? p = none ∧ t.missingParent? p = none := by
  unfold create SortedMap.contains
  split
  · rename_i h
    rw [Option.isSome_iff_exists] at h
    obtain ⟨c, hc⟩ := h
    cases skip <;> simp [hc]
  · rename_i h
    simp only [Bool.not_eq_true, Option.isSome_eq_false_iff, Option.isNone_iff_eq_none] at h
    split <;> simp_all

theorem create_of_inserted (h : (t.create p config skip).1 = .inserted) :
    (t.create p config skip).2 = t.insert p config := by
  unfold create at h ⊢
  split
  · rename_i h'
    cases skip <;> simp [h'] at h
  · split
    · simp_all
    · rfl

/-- A region that was added is there. -/
theorem get?_create_of_inserted (h : (t.create p config skip).1 = .inserted) :
    (t.create p config skip).2.get? p = some config := by
  rw [create_of_inserted h]
  exact SortedMap.get?_insert_self ..

/-- A region that was there stays as it is. -/
theorem get?_create_of_some {c : Config} (h : t.get? q = some c) :
    (t.create p config skip).2.get? q = some c := by
  by_cases hi : (t.create p config skip).1 = .inserted
  · rw [create_of_inserted hi]
    have hp := (create_eq_inserted_iff.1 hi).1
    have hne : q ≠ p := by
      rintro rfl
      rw [hp] at h
      cases h
    rwa [SortedMap.get?_insert_of_ne _ _ hne]
  · rwa [create_eq_self hi]

end Table

end CacheCluster.Region
