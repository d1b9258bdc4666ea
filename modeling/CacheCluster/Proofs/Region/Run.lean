import CacheCluster.Region.Table
import Mathlib.Data.List.Induction

/-!
# Runs of attempts on a table

A table comes about by attempts to add regions, one after the other.

## Main definitions

* `Attempt`, `Attempt.path` : an attempt to add a region under a name, and the path it means.
* `Table.attempt`, `Table.run` : what one attempt and several of them make of a table.

## Main results

* `exists_split_snoc_iff` : what happened at one step of a run and one more.
* `Table.attempt_cases` : what can become of an attempt, and the table after it.
* `Table.get?_attempt` : what a table answers after an attempt.
* `Table.get?_run_of_some` : a region stays as it is.
-/

namespace CacheCluster

/-- What happened at one of some steps and one more, given those before it, happened at one of the
former or at the last one. -/
theorem exists_split_snoc_iff {α : Type} {P : List α → α → Prop} {l : List α} {x : α} :
    (∃ before a after, l ++ [x] = before ++ a :: after ∧ P before a) ↔
      (∃ before a after, l = before ++ a :: after ∧ P before a) ∨ P l x := by
  constructor
  · rintro ⟨before, a, after, heq, h⟩
    rcases List.eq_nil_or_concat after with rfl | ⟨after, z, rfl⟩
    · obtain ⟨rfl, ha⟩ := List.append_inj' heq rfl
      obtain rfl := List.singleton_inj.1 ha
      exact .inr h
    · rw [List.concat_eq_append, ← List.cons_append, ← List.append_assoc] at heq
      obtain ⟨rfl, -⟩ := List.append_inj' heq rfl
      exact .inl ⟨before, a, after, rfl, h⟩
  · rintro (⟨before, a, after, rfl, h⟩ | h)
    · exact ⟨before, a, after ++ [x], by simp, h⟩
    · exact ⟨l, x, [], rfl, h⟩

namespace Region

/-- An attempt to add a region under a name. -/
structure Attempt where
  name : String
  config : Config
  skipIfExists : Bool
  deriving DecidableEq

/-- The path that an attempt is about. -/
def Attempt.path (a : Attempt) : Path := .ofName a.name

namespace Table

/-- What becomes of an attempt, and the table after it. -/
def attempt (t : Table) (a : Attempt) : Creation × Table :=
  t.create a.path a.config a.skipIfExists

/-- The table after some attempts. -/
def run (t : Table) (as : List Attempt) : Table := as.foldl (fun t a => (t.attempt a).2) t

@[simp] theorem run_nil (t : Table) : t.run [] = t := rfl

theorem run_snoc (t : Table) (as : List Attempt) (a : Attempt) :
    t.run (as ++ [a]) = ((t.run as).attempt a).2 := by
  simp [run]

theorem missingParent?_eq_none_iff {t : Table} {p : Path} :
    t.missingParent? p = none ↔ ∀ q, p.parent? = some q → t.contains q = true := by
  simp [missingParent?, Option.filter_eq_none_iff]

theorem contains_iff {t : Table} {p : Path} : t.contains p = true ↔ ∃ c, t.get? p = some c := by
  rw [SortedMap.contains, Option.isSome_iff_exists]

theorem contains_eq_false_iff {t : Table} {p : Path} : t.contains p = false ↔ t.get? p = none := by
  rw [SortedMap.contains, Option.isSome_eq_false_iff, Option.isNone_iff_eq_none]

theorem missingParent?_eq_some_iff {t : Table} {p q : Path} :
    t.missingParent? p = some q ↔ p.parent? = some q ∧ t.contains q = false := by
  simp [missingParent?, Option.filter_eq_some_iff]

theorem attempt_eq_inserted_iff {t : Table} {a : Attempt} :
    (t.attempt a).1 = .inserted ↔
      t.contains a.path = false ∧ ∀ q, a.path.parent? = some q → t.contains q = true := by
  rw [attempt, create_eq_inserted_iff, missingParent?_eq_none_iff, contains_eq_false_iff]

/-- An attempt finds its path taken, or the region above missing, or adds the region. -/
theorem attempt_cases (t : Table) (a : Attempt) :
    (t.contains a.path = true ∧
      t.attempt a = (if a.skipIfExists then .skipped else .alreadyExists, t)) ∨
    (t.contains a.path = false ∧ ∃ q, a.path.parent? = some q ∧ t.contains q = false ∧
      t.attempt a = (.parentMissing q, t)) ∨
    (t.contains a.path = false ∧ (∀ q, a.path.parent? = some q → t.contains q = true) ∧
      t.attempt a = (.inserted, t.insert a.path a.config)) := by
  rw [attempt, create]
  -- The path is looked at first: where it is taken the one above does not matter.
  cases htaken : t.contains a.path with
  | true => exact .inl ⟨rfl, rfl⟩
  | false =>
    right
    cases hmissing : t.missingParent? a.path with
    | some q =>
      obtain ⟨hparent, hq⟩ := missingParent?_eq_some_iff.1 hmissing
      exact .inl ⟨rfl, q, hparent, hq, rfl⟩
    | none => exact .inr ⟨rfl, missingParent?_eq_none_iff.1 hmissing, rfl⟩

theorem attempt_eq_self {t : Table} {a : Attempt} (h : (t.attempt a).1 ≠ .inserted) :
    (t.attempt a).2 = t := create_eq_self h

theorem attempt_eq_insert {t : Table} {a : Attempt} (h : (t.attempt a).1 = .inserted) :
    (t.attempt a).2 = t.insert a.path a.config := create_of_inserted h

/-- An attempt changes its own path, and that only when it adds the region. -/
theorem get?_attempt_eq_ite (t : Table) (a : Attempt) (p : Path) :
    (t.attempt a).2.get? p =
      if (t.attempt a).1 = .inserted ∧ a.path = p then some a.config else t.get? p := by
  by_cases hinserted : (t.attempt a).1 = .inserted
  · rw [attempt_eq_insert hinserted]
    by_cases hp : a.path = p
    · subst hp
      rw [if_pos ⟨hinserted, rfl⟩, SortedMap.get?_insert_self]
    · rw [if_neg fun h => hp h.2, SortedMap.get?_insert_of_ne _ _ (Ne.symm hp)]
  · rw [attempt_eq_self hinserted, if_neg fun h => hinserted h.1]

/-- After an attempt a region is there that was there before, or that the attempt was about and
whose parent was there. -/
theorem get?_attempt {t : Table} {a : Attempt} {p : Path} {c : Config} :
    (t.attempt a).2.get? p = some c ↔
      t.get? p = some c ∨ t.get? p = none ∧ a.config = c ∧ a.path = p ∧
        ∀ q, p.parent? = some q → t.contains q = true := by
  have hinserted : (t.attempt a).1 = .inserted ↔
      t.get? a.path = none ∧ ∀ q, a.path.parent? = some q → t.contains q = true := by
    rw [attempt_eq_inserted_iff, contains_eq_false_iff]
  rw [get?_attempt_eq_ite]
  split
  · rename_i h
    obtain ⟨h, rfl⟩ := h
    obtain ⟨hfree, hparent⟩ := hinserted.1 h
    rw [hfree, Option.some.injEq]
    exact ⟨fun hc => .inr ⟨rfl, hc, rfl, hparent⟩, fun h => (h.resolve_left nofun).2.1⟩
  · rename_i h
    refine ⟨.inl, ?_⟩
    rintro (hold | ⟨hfree, -, rfl, hparent⟩)
    · exact hold
    · exact absurd ⟨hinserted.2 ⟨hfree, hparent⟩, rfl⟩ h

theorem contains_attempt {t : Table} {a : Attempt} {p : Path} :
    (t.attempt a).2.contains p = true ↔
      t.contains p = true ∨ a.path = p ∧ ∀ q, p.parent? = some q → t.contains q = true := by
  simp only [contains_iff (p := p), get?_attempt, exists_or, exists_and_left, exists_eq_left']
  cases h : t.get? p with
  | none => simp
  | some c => simp

/-- Only an attempt that misses its parent leaves its path without a region. -/
theorem contains_attempt_self {t : Table} {a : Attempt}
    (h : ∀ q, (t.attempt a).1 ≠ .parentMissing q) : (t.attempt a).2.contains a.path = true := by
  rcases attempt_cases t a with ⟨htaken, heq⟩ | ⟨-, q, -, -, heq⟩ | ⟨-, -, heq⟩
  · rwa [heq]
  · exact absurd (by rw [heq]) (h q)
  · rw [heq, SortedMap.contains, SortedMap.get?_insert_self]
    rfl

/-- A region stays as it is, whatever is attempted. -/
theorem get?_run_of_some {t : Table} {p : Path} {c : Config} (h : t.get? p = some c)
    (as : List Attempt) : (t.run as).get? p = some c := by
  induction as generalizing t with
  | nil => exact h
  | cons a as ih => exact ih (get?_create_of_some h)

end Table

end Region

end CacheCluster
