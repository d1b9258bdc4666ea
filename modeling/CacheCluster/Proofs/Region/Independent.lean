import CacheCluster.Proofs.Region.Run

/-!
# Independent attempts

An attempt looks at two paths, its own and the one above, and can change its own only.  So two of
them do not notice each other unless one is about a path that the other looks at, however else their
paths may be related.

## Main definitions

* `Attempt.Independent` : neither of two attempts is about a path that the other looks at.

## Main results

* `Table.fst_attempt_congr` : what an attempt looks at.
* `Table.contains_attempt_of_ne` : what it cannot change.
* `Table.attempts_commute` : independent attempts can be made in either order.
-/

namespace CacheCluster.Region

/-- Two attempts are about different paths, neither of which is the parent of the other. -/
structure Attempt.Independent (a b : Attempt) : Prop where
  path_ne : a.path ≠ b.path
  left_not_below : a.path.parent? ≠ some b.path
  right_not_below : b.path.parent? ≠ some a.path

theorem Attempt.Independent.symm {a b : Attempt} (h : a.Independent b) : b.Independent a :=
  ⟨h.path_ne.symm, h.right_not_below, h.left_not_below⟩

namespace Table

variable {t t' : Table} {a b : Attempt} {p : Path}

/-- What becomes of an attempt depends on its path and the one above. -/
theorem fst_attempt_congr (hpath : t.contains a.path = t'.contains a.path)
    (hparent : ∀ q, a.path.parent? = some q → t.contains q = t'.contains q) :
    (t.attempt a).1 = (t'.attempt a).1 := by
  have hmissing : t.missingParent? a.path = t'.missingParent? a.path := by
    rw [missingParent?, missingParent?]
    cases h : a.path.parent? with
    | none => rfl
    | some q => simp only [Option.filter_some, hparent q h]
  rw [attempt, attempt, create, create, hpath, hmissing]
  cases t'.contains a.path with
  | true => rfl
  | false => cases t'.missingParent? a.path <;> rfl

theorem contains_attempt_of_ne (t : Table) (h : a.path ≠ p) :
    (t.attempt a).2.contains p = t.contains p := by
  rw [SortedMap.contains, SortedMap.contains, get?_attempt_eq_ite, if_neg fun h' => h h'.2]

/-- An attempt is not noticed by an independent one. -/
theorem fst_attempt_attempt (t : Table) (h : a.Independent b) :
    ((t.attempt a).2.attempt b).1 = (t.attempt b).1 := by
  apply fst_attempt_congr
  · exact contains_attempt_of_ne t h.path_ne
  · intro q hq
    apply contains_attempt_of_ne
    rintro rfl
    exact h.right_not_below hq

/-- **Independent attempts commute.**  On any table, whether it can be reached or not, two attempts
about different paths, neither of which is the parent of the other, have the same outcomes and leave
the same table in either order. -/
theorem attempts_commute (t : Table) (a b : Attempt) (h : a.Independent b) :
    ((t.attempt b).2.attempt a).1 = (t.attempt a).1 ∧
      ((t.attempt a).2.attempt b).1 = (t.attempt b).1 ∧
      ((t.attempt a).2.attempt b).2 = ((t.attempt b).2.attempt a).2 := by
  have ha : ((t.attempt b).2.attempt a).1 = (t.attempt a).1 := fst_attempt_attempt t h.symm
  have hb : ((t.attempt a).2.attempt b).1 = (t.attempt b).1 := fst_attempt_attempt t h
  -- With the same outcomes both orders put the same entries, at different paths.
  refine ⟨ha, hb, SortedMap.ext_get? fun p => ?_⟩
  simp only [get?_attempt_eq_ite, ha, hb]
  by_cases hp : a.path = p
  · have hne : b.path ≠ p := fun hb => h.path_ne (hp.trans hb.symm)
    simp only [hne, and_false, if_false]
  · simp only [hp, and_false, if_false]

/-- The parent of a parent does not count: a region can be added at one before or after an attempt
that misses the path between. -/
theorem attempts_commute_grandparent :
    let a : Attempt := ⟨"a/b/c", default, true⟩
    let b : Attempt := ⟨"/a", default, false⟩
    a.Independent b ∧
      ((attempt .empty b).2.attempt a).1 = .parentMissing (.ofName "/a/b") ∧
      ((attempt .empty a).2.attempt b).1 = .inserted ∧
      ((attempt .empty a).2.attempt b).2 = ((attempt .empty b).2.attempt a).2 := by
  intro a b
  have hindependent : a.Independent b := ⟨by decide, by decide, by decide⟩
  obtain ⟨ha, hb, htable⟩ := attempts_commute .empty a b hindependent
  exact ⟨hindependent, ha.trans (by decide), hb.trans (by decide), htable⟩

end Table

end CacheCluster.Region
