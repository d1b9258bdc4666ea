import CacheCluster.Report
import Mathlib.Data.List.Induction

/-!
# Reports of several members

A report has the names of those who reported.  A name counts as failed as soon as one report under
it is a failure, in whatever order they came, so nobody who shares a name can hide one.  When no two
members share a name, nothing has to be merged: the report holds just the word of each.

## Main results

* `Report.failures_eq_nil_iff` : when nobody failed.
* `Report.mem_keys_ofList` : the names of a report.
* `Report.exists_mem_failures_ofList`, `Report.isSuccessful_ofList` : which names failed, and
  whether none did.
* `Report.get?_ofList` : the word of each member, when the names are different.
-/

namespace CacheCluster.Report

theorem ofList_snoc (l : List (String × Status)) (e : String × Status) :
    ofList (l ++ [e]) = (ofList l).add e.1 e.2 := by
  rw [ofList, List.foldl_append]
  rfl

theorem mem_failures_iff {r : Report} {name : String} {status : Status} :
    (name, status) ∈ r.failures ↔
      r.statuses.get? name = some status ∧ status.isSuccess = false := by
  rw [failures, List.mem_filter, SortedMap.get?_eq_some_iff, Bool.not_eq_true']

theorem failures_eq_nil_iff {r : Report} :
    r.failures = [] ↔
      ∀ name status, r.statuses.get? name = some status → status.isSuccess = true := by
  simp only [List.eq_nil_iff_forall_not_mem, Prod.forall, mem_failures_iff, not_and,
    Bool.not_eq_false]

/-! ## Members that may share names -/

/-- A merged status is a failure when one of the two is. -/
theorem isSuccess_merge_eq_false {old? : Option Status} {new : Status} :
    (merge old? new).isSuccess = false ↔
      (∃ old, old? = some old ∧ old.isSuccess = false) ∨ new.isSuccess = false := by
  cases old? with
  | none => simp [merge]
  | some old =>
    rw [merge]
    cases hold : old.isSuccess with
    | true => simp [hold]
    | false => simp [hold]

theorem mem_keys_ofList {l : List (String × Status)} {name : String} :
    name ∈ (ofList l).statuses.keys ↔ name ∈ l.map Prod.fst := by
  induction l using List.reverseRecOn with
  | nil => exact Iff.rfl
  | append_singleton l e ih =>
    rw [SortedMap.mem_keys_iff] at ih ⊢
    rw [ofList_snoc, List.map_append, List.mem_append, List.map_singleton, List.mem_singleton]
    by_cases hname : name = e.1
    · subst hname
      exact iff_of_true ⟨_, get?_add_self ..⟩ (.inr rfl)
    · rw [get?_add_of_ne _ _ hname, ih, or_iff_left hname]

/-- The names that failed are those under which at least one failure was reported. -/
theorem exists_mem_failures_ofList {l : List (String × Status)} {name : String} :
    (∃ status, (name, status) ∈ (ofList l).failures) ↔
      ∃ e ∈ l, e.1 = name ∧ e.2.isSuccess = false := by
  simp only [mem_failures_iff]
  induction l using List.reverseRecOn with
  | nil => simp [ofList, empty]
  | append_singleton l e ih =>
    have hsnoc : (∃ f ∈ l ++ [e], f.1 = name ∧ f.2.isSuccess = false) ↔
        (∃ f ∈ l, f.1 = name ∧ f.2.isSuccess = false) ∨ e.1 = name ∧ e.2.isSuccess = false := by
      simp [or_and_right, exists_or]
    rw [ofList_snoc, hsnoc, ← ih]
    by_cases hname : name = e.1
    · -- The status that counts now is merged from the one before and the new one.
      subst hname
      simp [isSuccess_merge_eq_false]
    · rw [get?_add_of_ne _ _ hname]
      exact (or_iff_left fun h => hname h.1.symm).symm

/-- A report is a success when everything that was reported is. -/
theorem isSuccessful_ofList {l : List (String × Status)} :
    (ofList l).isSuccessful = true ↔ ∀ e ∈ l, e.2.isSuccess = true := by
  rw [isSuccessful_iff, List.eq_nil_iff_forall_not_mem]
  constructor
  · intro h e he
    by_contra hfail
    obtain ⟨status, hmem⟩ := exists_mem_failures_ofList.2 ⟨e, he, rfl, Bool.eq_false_iff.2 hfail⟩
    exact h _ hmem
  · rintro h ⟨name, status⟩ hmem
    obtain ⟨e, he, -, hfail⟩ := exists_mem_failures_ofList.1 ⟨status, hmem⟩
    rw [h e he] at hfail
    cases hfail

/-! ## Members of different names -/

/-- Members of different names: the report holds the word of each one. -/
theorem get?_ofList {l : List (String × Status)} (hl : (l.map Prod.fst).Nodup) {name : String}
    {status : Status} :
    (ofList l).statuses.get? name = some status ↔ (name, status) ∈ l := by
  induction l using List.reverseRecOn generalizing status with
  | nil => exact iff_of_false (by simp [ofList, empty]) (by simp)
  | append_singleton l e ih =>
    rw [List.map_append, List.nodup_append] at hl
    have hnew : ∀ s, (e.1, s) ∉ l := by
      intro s hs
      exact hl.2.2 e.1 (List.mem_map.2 ⟨_, hs, rfl⟩) e.1 (List.mem_cons_self ..) rfl
    rw [ofList_snoc, List.mem_append, List.mem_singleton]
    by_cases hname : name = e.1
    · -- Nobody has reported under this name yet, so that nothing is merged.
      subst hname
      have hnone : (ofList l).statuses.get? e.1 = none := by
        rw [Option.eq_none_iff_forall_ne_some]
        intro s hs
        exact hnew s ((ih hl.1).1 hs)
      rw [get?_add_self, hnone]
      constructor
      · rintro ⟨⟩
        exact .inr rfl
      · rintro (h | h)
        · exact absurd h (hnew status)
        · rw [← h]
          rfl
    · rw [get?_add_of_ne _ _ hname, ih hl.1]
      refine ⟨.inl, ?_⟩
      rintro (h | h)
      · exact h
      · exact absurd (congrArg Prod.fst h) hname

end CacheCluster.Report
