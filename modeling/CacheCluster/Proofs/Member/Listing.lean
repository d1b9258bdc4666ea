import CacheCluster.Member
import CacheCluster.Proofs.Region.History
import CacheCluster.Proofs.Region.Reachable
import CacheCluster.Proofs.SortedMap
import CacheCluster.Proofs.Text.Order

/-!
# Listings

A member lists its regions in the order of the bytes of their paths, in which a path comes behind
the one above.  So the list can be worked off from the front on another member: the region above is
always there already, and in the end both have the same regions.

## Main definitions

* `Member.listing` : attempts to add what a member lists, in the order of the list.

## Main results

* `Member.pairwise_paths` : the order of a list.
* `Path.compare_of_parent?` : a path comes behind the one above.
* `Table.outcomes_of_ascending`, `Table.run_of_ascending` : attempts in the order of their paths,
  the ones above among them.
* `Member.listing_rebuilds` : what a member lists can be added in that order.
-/

namespace CacheCluster

open Region (Attempt Path Table)

/-- The paths of a member are listed in the order of their bytes. -/
theorem Member.pairwise_paths (m : Member) :
    m.paths.Pairwise (Text.encode · < Text.encode ·) := by
  rw [paths, SortedMap.keys, List.map_map, List.pairwise_map]
  refine m.regions.sorted.imp ?_
  intro a b hlt
  -- Behind the slash that all of them begin with.
  simp only [Function.comp, Path.text, Text.encode, String.toList_ofList, List.flatMap_cons]
  exact List.append_left_lt (Text.flatMap_encodeChar_lt hlt)

namespace Region

/-- A path comes behind the one above, which is a beginning of it. -/
theorem Path.compare_of_parent? {p q : Path} (h : p.parent? = some q) : compare q p = .lt := by
  rw [compare_eq, tail_eq_append_lastSegment h]
  apply Text.compare_eq_lt_of_lt
  have hbehind : q.tail ++ [] < q.tail ++ '/' :: p.lastSegment :=
    List.append_left_lt (List.nil_lt_cons ..)
  rwa [List.append_nil] at hbehind

namespace Table

/-! ## Attempts in the order of their paths -/

/-- Some attempts are about paths in ascending order, and with each path about the one above. -/
structure Ascending (as : List Attempt) : Prop where
  sorted : (as.map Attempt.path).Pairwise fun p q => compare p q = .lt
  parent_mem : ∀ p ∈ as.map Attempt.path, ∀ q, p.parent? = some q → q ∈ as.map Attempt.path

variable {as : List Attempt} {a : Attempt} {p q : Path}

theorem Ascending.notMem_front (h : Ascending (as ++ [a])) : a.path ∉ as.map Attempt.path := by
  have hnodup := SortedMap.nodup_of_ascending h.sorted
  rw [List.map_append, List.nodup_append] at hnodup
  exact fun hmem => hnodup.2.2 a.path hmem a.path (by simp) rfl

/-- The last path is above none of them. -/
theorem Ascending.parent_mem_front (h : Ascending (as ++ [a]))
    (hp : p ∈ (as ++ [a]).map Attempt.path) (hq : p.parent? = some q) :
    q ∈ as.map Attempt.path := by
  have hsorted := h.sorted
  have hmem := h.parent_mem p hp q hq
  rw [List.map_append, List.map_singleton, List.pairwise_append] at hsorted
  rw [List.map_append, List.map_singleton, List.mem_append, List.mem_singleton] at hp hmem
  refine hmem.resolve_right ?_
  -- The path would have to come behind the last one.
  rintro rfl
  have hbehind := Path.compare_of_parent? hq
  rcases hp with hfront | rfl
  · exact Std.OrientedCmp.not_lt_of_lt (hsorted.2.2 p hfront a.path (by simp)) hbehind
  · rw [Std.ReflOrd.compare_self] at hbehind
    cases hbehind

theorem Ascending.front (h : Ascending (as ++ [a])) : Ascending as where
  sorted := by
    have hsorted := h.sorted
    rw [List.map_append, List.pairwise_append] at hsorted
    exact hsorted.1
  parent_mem p hp q hq := by
    refine h.parent_mem_front ?_ hq
    rw [List.map_append]
    exact List.mem_append_left _ hp

/-- After attempts that all added their regions there are just these. -/
theorem contains_run_of_outcomes (h : outcomes .empty as = as.map (·, .inserted)) :
    (run .empty as).contains p = true ↔ p ∈ as.map Attempt.path := by
  rw [contains_run_iff_inserts, Inserts, history, h]
  simp [eq_comm]

/-- Attempts in the order of their paths, with the ones above among them, all add their regions. -/
theorem outcomes_of_ascending (h : Ascending as) :
    outcomes .empty as = as.map (·, .inserted) := by
  induction as using List.reverseRecOn with
  | nil => rfl
  | append_singleton as a ih =>
    have hfront := ih h.front
    have hinserted : ((run .empty as).attempt a).1 = .inserted := by
      rw [attempt_eq_inserted_iff, ← Bool.not_eq_true]
      simp only [contains_run_of_outcomes hfront]
      exact ⟨h.notMem_front, fun q => h.parent_mem_front (by simp)⟩
    rw [outcomes_snoc, hfront, hinserted, List.map_append, List.map_singleton]

/-- A table that came about by additions only is made of what was added. -/
theorem run_of_outcomes (h : outcomes .empty as = as.map (·, .inserted)) :
    run .empty as = .ofList (as.map fun a => (a.path, a.config)) := by
  induction as using List.reverseRecOn with
  | nil => rfl
  | append_singleton as a ih =>
    rw [outcomes_snoc, List.map_append, List.map_singleton] at h
    obtain ⟨hfront, hlast⟩ := List.append_inj' h rfl
    have hinserted : ((run .empty as).attempt a).1 = .inserted := by simpa using hlast
    rw [run_snoc, attempt_eq_insert hinserted, ih hfront, List.map_append, List.map_singleton,
      SortedMap.ofList_snoc]

/-- A table that can be reached has with a region the one above. -/
theorem contains_run_parent (h : (run .empty as).contains p = true)
    (hq : p.parent? = some q) : (run .empty as).contains q = true := by
  rw [contains_run_iff] at h ⊢
  rw [Path.chain_of_parent?_eq_some hq] at h
  exact (List.sublist_append_left ..).trans h

end Table

end Region

/-! ## Lists -/

namespace Member

/-- Attempts to add what a member lists under the paths that it lists, in that order, where `skip`
says what is to become of regions that are there already. -/
def listing (m : Member) (skip : String → Bool) : List Attempt :=
  m.paths.filterMap fun path => (m.region? path).map fun config => ⟨path, config, skip path⟩

/-- There is one attempt for each region. -/
theorem listing_eq (m : Member) (skip : String → Bool) :
    m.listing skip = m.regions.entries.map fun e => ⟨e.1.text, e.2, skip e.1.text⟩ := by
  rw [listing, paths, SortedMap.keys, List.map_map, List.filterMap_map, ← List.filterMap_eq_map]
  apply List.filterMap_congr
  rintro ⟨p, config⟩ he
  have hconfig : m.regions.get? p = some config := SortedMap.get?_eq_some_iff.2 he
  simp [region?, hconfig]

theorem map_path_listing (m : Member) (skip : String → Bool) :
    (m.listing skip).map Attempt.path = m.regions.keys := by
  rw [listing_eq, List.map_map, SortedMap.keys]
  simp [Function.comp_def, Attempt.path]

/-- **A list is an order of creation.**  Let a member have regions that came about by any attempts.
It lists their paths in the order of their bytes.  Attempts under these paths, one for each and in
that order, with the configurations that the member has there, add a region each to a table that is
empty, whatever they say about regions that are there already, and make it the same table. -/
theorem listing_rebuilds (name : String) (as : List Attempt) (skip : String → Bool) :
    let m : Member := ⟨name, .run .empty as⟩
    m.paths.Pairwise (Text.encode · < Text.encode ·) ∧
      (m.listing skip).map Attempt.name = m.paths ∧
      (∀ a ∈ m.listing skip, m.region? a.name = some a.config ∧ a.skipIfExists = skip a.name) ∧
      Table.outcomes .empty (m.listing skip) = (m.listing skip).map (·, .inserted) ∧
      Table.run .empty (m.listing skip) = m.regions := by
  intro m
  have hascending : Table.Ascending (m.listing skip) := by
    constructor
    · rw [map_path_listing, SortedMap.keys, List.pairwise_map]
      exact m.regions.sorted
    · intro p hp q hq
      rw [map_path_listing, SortedMap.mem_keys_iff, ← Table.contains_iff] at hp ⊢
      exact Table.contains_run_parent hp hq
  have houtcomes := Table.outcomes_of_ascending hascending
  refine ⟨m.pairwise_paths, ?_, ?_, houtcomes, ?_⟩
  · rw [listing_eq, List.map_map, paths, SortedMap.keys, List.map_map]
    rfl
  · intro a ha
    obtain ⟨path, -, ha⟩ := List.mem_filterMap.1 ha
    obtain ⟨config, hconfig, rfl⟩ := Option.map_eq_some_iff.1 ha
    exact ⟨hconfig, rfl⟩
  · -- The entries that are added are those that the member has.
    rw [Table.run_of_outcomes houtcomes, listing_eq, List.map_map]
    apply SortedMap.ofList_of_perm
    simp [Function.comp_def, Attempt.path]

/-- Siblings with characters before and behind the slash, and an empty segment. -/
example :
    let attempt (name : String) : Attempt := ⟨name, default, false⟩
    (Member.mk "m" (.run .empty (["a", "ab", "a!", "a/b", "/a/", "a//c"].map attempt))).paths =
      ["/a", "/a!", "/a/", "/a//c", "/a/b", "/ab"] := by
  decide

end Member

end CacheCluster
