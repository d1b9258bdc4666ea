import CacheCluster.Proofs.Region.Chain
import CacheCluster.Proofs.Region.Run
import Mathlib.Data.List.Basic

/-!
# Reachable tables

Which regions a table has after some attempts is read off the paths of the attempts alone: those
whose chain occurs among them in order, with anything in between.  The configuration is that of
the attempt that completes the chain for the first time.

## Main definitions

* `Completes` : an attempt, given those before it, completes the chain of a path.

## Main results

* `Table.reachable_iff_chain_sublist` : the regions of a reachable table and their configurations,
  and that the table has all ancestors of its regions.
-/

namespace CacheCluster.Region

/-- A list that ends in `a` is a part of one that ends in `b` exactly when it is a part of what
comes before `b`, or the ends are equal and the rest is a part of the rest. -/
theorem append_singleton_sublist_append_singleton_iff {α : Type} {k l : List α} {a b : α} :
    (k ++ [a]).Sublist (l ++ [b]) ↔ (k ++ [a]).Sublist l ∨ a = b ∧ k.Sublist l := by
  have h : (a :: k.reverse).Sublist (b :: l.reverse) ↔
      (a :: k.reverse).Sublist l.reverse ∨ a = b ∧ k.reverse.Sublist l.reverse :=
    List.cons_sublist_cons'
  have hk : (a :: k.reverse).Sublist l.reverse ↔ (k ++ [a]).Sublist l := by
    rw [← List.reverse_sublist ]
    simp
  rw [hk, List.reverse_sublist] at h
  rw [← h, ← List.reverse_sublist]
  simp

theorem Path.chain_ne_nil (p : Path) : p.chain ≠ [] := by simp [chain]

/-- The chain of a path occurs up to an attempt exactly when it occurs before it, or the attempt is
about the path and the chain of the parent occurs before it. -/
theorem Path.chain_sublist_append_singleton_iff {p x : Path} {l : List Path} :
    p.chain.Sublist (l ++ [x]) ↔
      p.chain.Sublist l ∨ x = p ∧ ∀ q, p.parent? = some q → q.chain.Sublist l := by
  cases h : p.parent? with
  | none =>
    rw [chain_of_parent?_eq_none h, ← List.nil_append [p],
      append_singleton_sublist_append_singleton_iff]
    simp [eq_comm]
  | some q =>
    rw [chain_of_parent?_eq_some h, append_singleton_sublist_append_singleton_iff]
    simp [eq_comm]

/-- An attempt with a configuration completes the chain of a path for the first time. -/
def Completes (as : List Attempt) (p : Path) (c : Config) : Prop :=
  ∃ before a after, as = before ++ a :: after ∧ a.config = c ∧
    p.chain.Sublist ((before ++ [a]).map Attempt.path) ∧
    ¬ p.chain.Sublist (before.map Attempt.path)

theorem completes_snoc {as : List Attempt} {a : Attempt} {p : Path} {c : Config} :
    Completes (as ++ [a]) p c ↔
      Completes as p c ∨ a.config = c ∧ p.chain.Sublist ((as ++ [a]).map Attempt.path) ∧
        ¬ p.chain.Sublist (as.map Attempt.path) :=
  exists_split_snoc_iff

namespace Table

theorem contains_run_iff {as : List Attempt} {p : Path} :
    (run .empty as).contains p = true ↔ p.chain.Sublist (as.map Attempt.path) := by
  induction as using List.reverseRecOn generalizing p with
  | nil => simp [contains_iff, p.chain_ne_nil]
  | append_singleton as a ih =>
    rw [run_snoc, contains_attempt, List.map_append, List.map_singleton,
      Path.chain_sublist_append_singleton_iff]
    simp only [ih]

theorem get?_run_iff {as : List Attempt} {p : Path} {c : Config} :
    (run .empty as).get? p = some c ↔ Completes as p c := by
  induction as using List.reverseRecOn with
  | nil => simp [Completes]
  | append_singleton as a ih =>
    rw [run_snoc, get?_attempt, ih, completes_snoc]
    refine or_congr_right ?_
    -- The path was free as long as its chain was not complete.
    rw [← contains_eq_false_iff, ← Bool.not_eq_true, contains_run_iff, List.map_append,
      List.map_singleton, Path.chain_sublist_append_singleton_iff]
    simp only [contains_run_iff]
    tauto

/-- **Reachable tables.**  A region is there exactly when the chain of its path occurs in order
among the paths of the attempts; its configuration is that of the attempt at which the chain is
complete for the first time; and with a region all its ancestors are there. -/
theorem reachable_iff_chain_sublist (as : List Attempt) (p : Path) :
    ((run .empty as).contains p = true ↔ p.chain.Sublist (as.map Attempt.path)) ∧
    (∀ c, (run .empty as).get? p = some c ↔
      ∃ before a after, as = before ++ a :: after ∧ a.config = c ∧
        p.chain.Sublist ((before ++ [a]).map Attempt.path) ∧
        ¬ p.chain.Sublist (before.map Attempt.path)) ∧
    ((run .empty as).contains p = true → ∀ q ∈ p.chain, (run .empty as).contains q = true) := by
  refine ⟨contains_run_iff, fun c => get?_run_iff, fun h q hq => ?_⟩
  rw [contains_run_iff] at h ⊢
  exact (Path.chain_sublist_of_mem hq).trans h

end Table

end CacheCluster.Region
