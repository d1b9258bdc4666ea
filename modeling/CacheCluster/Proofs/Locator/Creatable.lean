import CacheCluster.Proofs.Engine.Outcome
import CacheCluster.Proofs.Region.Reachable
import CacheCluster.Proofs.Region.Segments

/-!
# The names that a locator can create

A locator looks at the last segment of a name only, but a member wants all regions above to be
there, each of which was asked for under a name of its own.  So there can be a region under a name
exactly when none of its segments is blank.

## Main definitions

* `LocalCluster.Healthy` : a cluster of healthy members, at least one.

## Main results

* `Locator.createRegion_healthy` : a request to healthy members that have the region above.
* `Locator.createRegions_chain` : requests along the chain of a path.
* `Locator.chain_sublist_of_contains` : who has a region was sent commands for its chain.
* `Locator.creatable_iff_segments` : the names that can be created, and those that cannot.
-/

namespace CacheCluster

open Region (Path RegionType Table)

/-- A cluster of healthy members, at least one. -/
def LocalCluster.Healthy (s : LocalCluster) : Prop :=
  s.members ≠ [] ∧ ∀ lm ∈ s.members, lm.behaviour = .healthy

namespace Locator

variable {m : Management}

theorem createRegions_snoc {σ : Type} (engine : Engine σ) (rs : List Region.Request)
    (r : Region.Request) (s : σ) :
    createRegions m engine (rs ++ [r]) s =
      ((createRegions m engine rs s).1 ++
          [(createRegion m engine r (createRegions m engine rs s).2).1],
        (createRegion m engine r (createRegions m engine rs s).2).2) := by
  induction rs generalizing s with
  | nil => rfl
  | cons r' rs ih =>
    rw [List.cons_append, createRegions, createRegions]
    dsimp only
    rw [ih]
    rfl

/-! ## Names without blank segments -/

/-- Healthy members that all have the region above take a request, and have the region then. -/
theorem createRegion_healthy {s : LocalCluster} (hs : s.Healthy) {r : Region.Request}
    (hname : Text.isBlank (Path.ofName r.name).lastSegment = false)
    (htype : RegionType.ofTag? r.type ≠ none)
    (hparent : ∀ q, (Path.ofName r.name).parent? = some q →
      ∀ lm ∈ s.members, lm.member.regions.contains q = true) :
    (∃ report, (createRegion m Engine.inProcess r s).1 = .ok report) ∧
      (createRegion m Engine.inProcess r s).2.Healthy ∧
      ∀ lm ∈ (createRegion m Engine.inProcess r s).2.members,
        lm.member.regions.contains (.ofName r.name) = true := by
  rw [Path.lastSegment_ofName] at hname
  have hvalid : r.validate m.rejectUnknownType = .ok _ :=
    Region.Request.validate_of_known hname fun h => htype h.2
  have htime : totalDelay s.members ≤ m.timeout.nanoseconds := by
    rw [totalDelay_of_healthy hs.2]
    exact Nat.zero_le _
  have hall : ∀ lm ∈ s.members, lm.Accepts (.ofName r.name) := by
    intro lm hlm
    refine ⟨by rw [hs.2 lm hlm]; rfl, .inr ?_⟩
    cases hp : (Path.ofName r.name).parent? with
    | none => exact .inl rfl
    | some q => exact .inr ⟨q, rfl, hparent q hp lm hlm⟩
  refine ⟨createRegion_of_accepts hvalid hs.1 htime hall, ?_⟩
  rw [createRegion_of_le hvalid hs.1 htime]
  refine ⟨⟨by simpa using hs.1, ?_⟩, ?_⟩
  · rw [List.forall_mem_map]
    intro lm hlm
    rw [LocalMember.execute_behaviour, hs.2 lm hlm]
  · rw [List.forall_mem_map]
    intro lm hlm
    apply LocalMember.contains_execute_of_isSuccess
    exact (LocalMember.isSuccess_execute_iff rfl).2 (hall lm hlm)

/-- Requests along a chain without blank segments all succeed, and leave the region on all
members. -/
theorem createRegions_chain {type : String} (htype : RegionType.ofTag? type ≠ none) (p : Path)
    (hp : ∀ segment ∈ p.segments, Text.isBlank segment = false) {names : List String}
    (hnames : names.map Path.ofName = p.chain) {s : LocalCluster} (hs : s.Healthy) :
    let run := createRegions m Engine.inProcess (names.map fun name => ⟨name, type⟩) s
    (∀ outcome ∈ run.1, ∃ report, outcome = .ok report) ∧ run.2.Healthy ∧
      ∀ lm ∈ run.2.members, lm.member.regions.contains p = true := by
  induction p using Path.parentInduction generalizing names with
  | top p h =>
    rw [Path.segments_of_parent?_eq_none h] at hp
    rw [Path.chain_of_parent?_eq_none h] at hnames
    obtain ⟨name, rfl, rfl⟩ := List.map_eq_singleton_iff.1 hnames
    obtain ⟨hok, hhealthy, hcontains⟩ := createRegion_healthy (m := m) hs (r := ⟨name, type⟩)
      (hp _ (List.mem_singleton_self _)) htype (by simp [h])
    exact ⟨by simpa [createRegions] using hok, hhealthy, hcontains⟩
  | below p q h ih =>
    rw [Path.segments_of_parent?_eq_some h, List.forall_mem_append] at hp
    rw [Path.chain_of_parent?_eq_some h] at hnames
    obtain ⟨above, last, rfl, habove, hlast⟩ := List.map_eq_append_iff.1 hnames
    obtain ⟨name, rfl, rfl⟩ := List.map_eq_singleton_iff.1 hlast
    obtain ⟨hoks, hhealthy, hq⟩ := ih hp.1 habove
    obtain ⟨hok, hhealthy', hcontains⟩ := createRegion_healthy (m := m) hhealthy
      (r := ⟨name, type⟩) (hp.2 _ (List.mem_singleton_self _)) htype (by simpa [h] using hq)
    rw [List.map_append, List.map_singleton, createRegions_snoc]
    refine ⟨?_, hhealthy', hcontains⟩
    rw [List.forall_mem_append, List.forall_mem_singleton]
    exact ⟨hoks, hok⟩

/-! ## Names with blank segments -/

/-- A member that was new has a region only after commands for the whole chain of its path. -/
theorem chain_sublist_of_contains {members : List (String × Behaviour)}
    {rs : List Region.Request} {lm : LocalMember} {p : Path}
    (hlm : lm ∈ (createRegions m Engine.inProcess rs
      (.new (members.map fun e => .new e.1 e.2))).2.members)
    (hp : lm.member.regions.contains p = true) :
    p.chain.Sublist ((rs.filterMap (command? m)).map fun c => Path.ofName c.targetPath) := by
  rw [createRegions_state, inProcess_members] at hlm
  obtain ⟨i, hi, rfl⟩ := List.mem_mapIdx.1 hlm
  simp only [LocalCluster.new, List.getElem_map, LocalMember.run_new] at hp
  -- Who is not reached, or fails, is still without regions.
  split at hp
  · split at hp
    · cases hp
    · rw [Member.run_regions] at hp
      have hchain := Table.contains_run_iff.1 hp
      rwa [List.map_map] at hchain
  · cases hp

/-- The commands of a locator are for paths whose last segment is not blank. -/
theorem isBlank_lastSegment_of_command? {r : Region.Request} {c : Command}
    (h : command? m r = some c) :
    Text.isBlank (Path.ofName c.targetPath).lastSegment = false := by
  obtain ⟨config, hvalid, rfl⟩ := validate_of_command? h
  have hbuild := (Region.Request.validate_eq_ok_iff.1 hvalid).1
  obtain ⟨hsegment, hblank⟩ :=
    Region.shortName?_eq_some_iff.1 (Region.Request.build_eq_ok_iff.1 hbuild).1
  change Text.isBlank (Path.ofName r.name).lastSegment = false
  rw [Path.lastSegment_ofName, ← hsegment]
  exact hblank

/-- Who has a region was asked for all its segments as last ones, so none of them is blank. -/
theorem isBlank_segment_of_contains {members : List (String × Behaviour)}
    {rs : List Region.Request} {lm : LocalMember} {p : Path}
    (hlm : lm ∈ (createRegions m Engine.inProcess rs
      (.new (members.map fun e => .new e.1 e.2))).2.members)
    (hp : lm.member.regions.contains p = true) :
    ∀ segment ∈ p.segments, Text.isBlank segment = false := by
  rw [Path.segments_eq_map_chain, List.forall_mem_map]
  intro q hq
  obtain ⟨c, hc, rfl⟩ := List.mem_map.1 ((chain_sublist_of_contains hlm hp).subset hq)
  obtain ⟨r, -, hr⟩ := List.mem_filterMap.1 hc
  exact isBlank_lastSegment_of_command? hr

theorem exists_build_iff {name type : String} :
    (∃ config, (Region.Request.mk name type).build = .ok config) ↔
      Text.isBlank (Path.ofName name).lastSegment = false := by
  rw [Path.lastSegment_ofName]
  constructor
  · rintro ⟨config, hbuild⟩
    obtain ⟨hsegment, hblank⟩ :=
      Region.shortName?_eq_some_iff.1 (Region.Request.build_eq_ok_iff.1 hbuild).1
    rwa [← hsegment]
  · intro hblank
    have hvalid : (Region.Request.mk name type).validate false = .ok _ :=
      Region.Request.validate_of_known hblank (by simp)
    exact ⟨_, (Region.Request.validate_eq_ok_iff.1 hvalid).1⟩

/-- **The names that can be created.**  Let a cluster begin with healthy members, at least one, that
have no regions.  If no segment of a name is blank, requests for its ancestors from the top down and
then for it, however these are spelled, all succeed, and leave the region on every member.  If a
segment is blank, no requests ever give it to any member, although a configuration is built for
every name whose last segment is not blank. -/
theorem creatable_iff_segments (m : Management) (first : String) (others : List String)
    (name : String) :
    let start := LocalCluster.new ((first :: others).map fun n => .new n .healthy)
    let p := Path.ofName name
    ((∀ segment ∈ p.segments, Text.isBlank segment = false) →
      ∀ names : List String, names.map Path.ofName = p.chain →
        let run := createRegions m Engine.inProcess (names.map fun n => ⟨n, "REPLICATE"⟩) start
        (∀ outcome ∈ run.1, ∃ report, outcome = .ok report) ∧
          ∀ lm ∈ run.2.members, lm.member.regions.contains p = true) ∧
    ((∃ segment ∈ p.segments, Text.isBlank segment = true) →
      ∀ rs : List Region.Request, ∀ lm ∈ (createRegions m Engine.inProcess rs start).2.members,
        lm.member.regions.contains p = false) ∧
    ∀ type, (∃ config, (Region.Request.mk name type).build = .ok config) ↔
      Text.isBlank p.lastSegment = false := by
  intro start p
  refine ⟨?_, ?_, fun type => exists_build_iff⟩
  · -- Each ancestor is there for the request behind it.
    intro hp names hnames
    have hstart : start.Healthy := by
      have hmembers : start.members = (first :: others).map fun n => .new n .healthy := rfl
      refine ⟨List.cons_ne_nil _ _, ?_⟩
      rw [hmembers, List.forall_mem_map]
      intro n _
      rfl
    have htype : RegionType.ofTag? "REPLICATE" ≠ none := by decide
    obtain ⟨hok, -, hcontains⟩ := createRegions_chain (m := m) htype p hp hnames hstart
    exact ⟨hok, hcontains⟩
  · -- A member that had the region would have been sent a command for its blank ancestor.
    rintro ⟨segment, hsegment, hblank⟩ rs lm hlm
    rw [Bool.eq_false_iff]
    intro hcontains
    have hstart : start = .new (((first :: others).map fun n => (n, Behaviour.healthy)).map
        fun e => .new e.1 e.2) := by
      rw [List.map_map]
      rfl
    rw [hstart] at hlm
    rw [isBlank_segment_of_contains hlm hcontains segment hsegment] at hblank
    cases hblank

/-- A configuration is built for a name with a doubled slash, but nobody can have the region. -/
example : (Region.Request.mk "a//b" "PARTITION").build.isOk = true ∧
    ∃ segment ∈ (Path.ofName "a//b").segments, Text.isBlank segment = true := by
  decide

end Locator

end CacheCluster
