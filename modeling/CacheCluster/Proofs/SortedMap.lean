import CacheCluster.SortedMap
import Mathlib.Data.List.Induction
import Mathlib.Data.List.Nodup

/-!
# Sorted maps and lists of entries

A map is made of its entries in any order, and every key of it stands for one entry.

## Main results

* `SortedMap.get?_insert_of_free` : what a map answers that has got a new key.
* `SortedMap.get?_ofList` : what a map answers that is made of entries of different keys.
* `SortedMap.ofList_of_perm` : the order of the entries makes no difference.
* `SortedMap.eq_of_ascending` : keys in ascending order are known by which keys they are.
* `SortedMap.erase_append_perm` : an entry that is taken out can be put back.
-/

namespace CacheCluster

namespace SortedMap

variable {κ ν : Type} [Ord κ] [Std.LawfulEqOrd κ]

/-- An entry under a new key is put to those that are there. -/
theorem get?_insert_of_free [Std.TransOrd κ] {m : SortedMap κ ν} {k j : κ} {v w : ν}
    (h : m.get? k = none) :
    (m.insert k v).get? j = some w ↔ m.get? j = some w ∨ k = j ∧ v = w := by
  by_cases hj : k = j
  · subst hj
    simp [h]
  · rw [get?_insert_of_ne m v (Ne.symm hj)]
    simp [hj]

theorem ofList_snoc [Std.TransOrd κ] (l : List (κ × ν)) (e : κ × ν) :
    ofList (l ++ [e]) = (ofList l).insert e.1 e.2 := by
  rw [ofList, List.foldl_append]
  rfl

theorem mem_of_mem_ofList [Std.TransOrd κ] {l : List (κ × ν)} {e : κ × ν}
    (h : e ∈ (ofList l).entries) : e ∈ l := by
  induction l using List.reverseRecOn with
  | nil => exact h
  | append_singleton l f ih =>
    rw [ofList_snoc] at h
    rcases mem_insertEntry h with rfl | h
    · simp
    · exact List.mem_append_left _ (ih h)

/-! ## Keys -/

/-- Keys in strictly ascending order are different. -/
theorem nodup_of_ascending {ks : List κ} (h : ks.Pairwise fun a b => compare a b = .lt) :
    ks.Nodup := by
  refine h.imp ?_
  intro a b hlt heq
  rw [heq, Std.ReflOrd.compare_self] at hlt
  cases hlt

/-- Keys in strictly ascending order are known by which keys they are. -/
theorem eq_of_ascending [Std.TransOrd κ] {js ks : List κ}
    (hj : js.Pairwise fun a b => compare a b = .lt) (hk : ks.Pairwise fun a b => compare a b = .lt)
    (h : ∀ k, k ∈ js ↔ k ∈ ks) : js = ks := by
  have hperm : js.Perm ks :=
    (List.perm_ext_iff_of_nodup (nodup_of_ascending hj) (nodup_of_ascending hk)).2 h
  refine hperm.eq_of_pairwise (fun a b _ _ hab hba => ?_) hj hk
  exact absurd hba (Std.OrientedCmp.not_lt_of_lt hab)

/-- A key stands for one entry. -/
theorem nodup_keys (m : SortedMap κ ν) : m.keys.Nodup :=
  nodup_of_ascending (List.pairwise_map.2 m.sorted)

/-! ## Maps of entries -/

/-- Entries of different keys make a map of just these. -/
theorem get?_ofList [Std.TransOrd κ] {l : List (κ × ν)} (hl : (l.map Prod.fst).Nodup) {k : κ}
    {v : ν} : (ofList l).get? k = some v ↔ (k, v) ∈ l := by
  induction l using List.reverseRecOn with
  | nil => simp [ofList]
  | append_singleton l e ih =>
    rw [List.map_append, List.nodup_append] at hl
    have hnew : ∀ w, (e.1, w) ∉ l := by
      intro w hw
      exact hl.2.2 e.1 (List.mem_map.2 ⟨_, hw, rfl⟩) e.1 (List.mem_cons_self ..) rfl
    rw [ofList_snoc, List.mem_append, List.mem_singleton]
    by_cases hk : k = e.1
    · subst hk
      rw [get?_insert_self]
      constructor
      · rintro ⟨⟩
        exact .inr rfl
      · rintro (h | h)
        · exact absurd h (hnew v)
        · rw [← h]
    · rw [get?_insert_of_ne _ _ hk, ih hl.1]
      exact (or_iff_left fun h => hk (congrArg Prod.fst h)).symm

section Perm

variable {m : SortedMap κ ν} {l : List (κ × ν)}

theorem nodup_fst_of_perm (h : l.Perm m.entries) : (l.map Prod.fst).Nodup :=
  (h.map Prod.fst).nodup_iff.2 m.nodup_keys

/-- A map is made of its entries in any order. -/
theorem ofList_of_perm [Std.TransOrd κ] (h : l.Perm m.entries) : ofList l = m := by
  apply ext_get?
  intro k
  ext v
  rw [get?_ofList (nodup_fst_of_perm h), get?_eq_some_iff, h.mem_iff]

/-- An entry that is taken out of a map can be put back. -/
theorem erase_append_perm {k : κ} {v : ν} (h : m.get? k = some v) :
    ((m.erase k).entries ++ [(k, v)]).Perm m.entries := by
  have hnodup : m.entries.Nodup := .of_map Prod.fst m.nodup_keys
  refine (List.perm_ext_iff_of_nodup ?_ hnodup).2 fun e => ?_
  · refine List.nodup_append.2 ⟨.of_map Prod.fst (m.erase k).nodup_keys, by simp, ?_⟩
    rintro a ha b hb rfl
    rw [List.mem_singleton.1 hb] at ha
    exact (mem_erase_iff.1 ha).2 rfl
  · rw [List.mem_append, mem_erase_iff, List.mem_singleton]
    constructor
    · rintro (⟨he, -⟩ | rfl)
      · exact he
      · exact get?_eq_some_iff.1 h
    · intro he
      by_cases hk : e.1 = k
      · subst hk
        rw [get?_eq_some_iff.2 he] at h
        cases h
        exact .inr rfl
      · exact .inl ⟨he, hk⟩

end Perm

end SortedMap

end CacheCluster
