import CacheCluster.Node.Roster
import CacheCluster.Proofs.SortedMap

/-!
# The members of a roster

The members of a group come from the list of nodes that the roster was made of, in the order of
their numbers, and the check of that list leaves no two of them with the same name.

## Main results

* `Roster.mem_groupMembers` : members of a group are nodes of the list.
* `Roster.nodup_groupMembers` : a number stands for one member.
* `Roster.nodup_memberNames` : a name stands for one member.
-/

namespace CacheCluster

/-- The name under which a listed node reports. -/
def reportName (e : NodeId × Node) : String := e.2.memberName e.1

/-- The members of a list that passed the check have names of their own, which are also none of
those given before. -/
theorem nodup_of_checkNodes {named : List (String × NodeId)} {l : List (NodeId × Node)}
    (h : checkNodes named l = .ok ()) :
    ((l.filter fun e => e.2.isMember).map reportName).Nodup ∧
      ∀ e ∈ l, e.2.isMember = true → named.lookup (reportName e) = none := by
  induction l generalizing named with
  | nil => exact ⟨List.nodup_nil, by simp⟩
  | cons e rest ih =>
    obtain ⟨id, n⟩ := e
    rw [checkNodes] at h
    by_cases hport : n.httpPort?.isNone = true
    · rw [if_pos hport] at h
      cases h
    rw [if_neg hport] at h
    -- Nodes that are no members are passed over.
    by_cases hmember : n.isMember = true
    · rw [if_pos hmember] at h
      dsimp only at h
      split at h
      · cases h
      · rename_i hnone
        obtain ⟨hnodup, hfresh⟩ := ih h
        -- The names behind this node are looked up in a list that begins with its own.
        have hother : ∀ e ∈ rest, e.2.isMember = true →
            reportName e ≠ n.memberName id ∧ named.lookup (reportName e) = none := by
          intro e he hm
          have hlookup := hfresh e he hm
          rw [List.lookup_cons] at hlookup
          split at hlookup
          · cases hlookup
          · rename_i hne
            exact ⟨by simpa using hne, hlookup⟩
        constructor
        · rw [List.filter_cons, if_pos hmember, List.map_cons, List.nodup_cons]
          refine ⟨?_, hnodup⟩
          rw [List.mem_map]
          rintro ⟨e, he, hname⟩
          rw [List.mem_filter] at he
          exact (hother e he.1 he.2).1 hname
        · intro e he hm
          rcases List.mem_cons.1 he with rfl | he
          · exact hnone
          · exact (hother e he hm).2
    · rw [if_neg hmember] at h
      obtain ⟨hnodup, hfresh⟩ := ih h
      constructor
      · rw [List.filter_cons, if_neg hmember]
        exact hnodup
      · intro e he hm
        rcases List.mem_cons.1 he with rfl | he
        · exact absurd hm hmember
        · exact hfresh e he hm

namespace Roster

variable {thisId : NodeId} {file : ClusterFile} {r : Roster}

theorem ofFile_eq_ok (h : ofFile thisId file = .ok r) :
    ∃ this, file.nodes.get? thisId = some this ∧ checkNodes [] file.nodes.entries = .ok () ∧
      r = ⟨thisId, this, file.nodes.erase thisId, file.management⟩ := by
  rw [ofFile] at h
  split at h
  · cases h
  · rename_i this hthis
    split at h
    · cases hcheck : checkNodes [] file.nodes.entries with
      | error e =>
        rw [hcheck] at h
        cases h
      | ok u =>
        rw [hcheck] at h
        cases h
        exact ⟨this, hthis, rfl, rfl⟩
    · cases h

/-- The members of a group are members of the list that the roster was made of. -/
theorem mem_groupMembers (h : ofFile thisId file = .ok r) {group : String} {e : NodeId × Node}
    (he : e ∈ (r.groupMembers group).entries) :
    e ∈ file.nodes.entries ∧ e.2.isMember = true := by
  obtain ⟨this, hthis, -, rfl⟩ := ofFile_eq_ok h
  obtain ⟨hall, hof⟩ := List.mem_filter.1 (SortedMap.mem_of_mem_ofList he)
  rw [Node.isMemberOf, Bool.and_eq_true] at hof
  refine ⟨?_, hof.1⟩
  rcases List.mem_append.1 hall with hpeer | hself
  · exact (SortedMap.mem_erase_iff.1 hpeer).1
  · rw [List.mem_singleton.1 hself]
    exact SortedMap.get?_eq_some_iff.1 hthis

theorem nodup_groupMembers (r : Roster) (group : String) :
    ((r.groupMembers group).entries.map Prod.fst).Nodup :=
  (r.groupMembers group).nodup_keys

/-- The members of a group have different names. -/
theorem nodup_memberNames (h : ofFile thisId file = .ok r) (group : String) :
    ((r.groupMembers group).entries.map reportName).Nodup := by
  obtain ⟨this, -, hcheck, -⟩ := ofFile_eq_ok h
  have hnames := (nodup_of_checkNodes hcheck).1
  apply List.Nodup.map_on
  · intro a ha b hb hab
    have hmem : ∀ e ∈ (r.groupMembers group).entries,
        e ∈ file.nodes.entries.filter fun e => e.2.isMember := by
      intro e he
      exact List.mem_filter.2 (mem_groupMembers h he)
    exact List.inj_on_of_nodup_map hnames (hmem a ha) (hmem b hb) hab
  · exact List.Nodup.of_map Prod.fst (r.nodup_groupMembers group)

end Roster

end CacheCluster
