import CacheCluster.Proofs.Locator.Creatable

/-!
# Stored configurations

A configuration is made by the locator from the name as it was given, and stored by a member under
the path that the name means.  What is stored is therefore a matter of the whole run: requests that
came before the region above was there left nothing, and those that came after the first that did
changed nothing.

## Main definitions

* `Locator.regionsAfter` : the regions of a member after some requests.
* `Locator.tableAfter` : the regions of a member that carries out all commands.
* `Locator.Asks` : a request that a member with some regions can fulfil.

## Main results

* `Locator.regionsAfter_eq_or` : a member carries out all commands or none.
* `Locator.contains_tableAfter_iff`, `Locator.get?_tableAfter_iff` : what is there was asked for.
* `Locator.stored_of_first_asked` : a stored configuration is that of the first request that asked
  for it.
-/

namespace CacheCluster

open Region (Path Table Config)

/-- The regions of the member at a place of the list; behind the end of it there are none. -/
def LocalCluster.regionsAt (s : LocalCluster) (i : Nat) : Table :=
  (s.members[i]?.map fun lm => lm.member.regions).getD .empty

namespace Region

/-- What a request that passes validation is stored with: the last segment of the path that its name
means, which is not blank, and the attributes of its tag. -/
theorem Request.validate_spec {reject : Bool} {r : Request} {config : Config}
    (h : r.validate reject = .ok config) :
    config.shortName.toList = (Path.ofName r.name).lastSegment ∧
      Text.isBlank config.shortName.toList = false ∧ config.attributes = resolve r.type ∧
      (reject = true → config.attributes.policy ≠ .unset) := by
  obtain ⟨hbuild, hpolicy⟩ := validate_eq_ok_iff.1 h
  obtain ⟨hshort, hattributes⟩ := build_eq_ok_iff.1 hbuild
  obtain ⟨hsegment, hblank⟩ := shortName?_eq_some_iff.1 hshort
  rw [Path.lastSegment_ofName]
  exact ⟨hsegment, hblank, hattributes, hpolicy⟩

/-- The last segment of a path is what follows the last slash of its text. -/
theorem Path.afterLastSlash_text (p : Path) : afterLastSlash p.text.toList = p.lastSegment := by
  rw [← lastSegment_ofName, ofName_text]

end Region

namespace Locator

/-- The regions of the member at a place after some requests, when all members begin without. -/
def regionsAfter (m : Management) (members : List (String × Behaviour))
    (rs : List Region.Request) (i : Nat) : Table :=
  (createRegions m .inProcess rs (.new (members.map fun e => .new e.1 e.2))).2.regionsAt i

/-- A request asks a member with some regions for one at a path: it passes validation, its name
means the path, and the region above is there, if the path has a parent. -/
structure Asks (m : Management) (t : Table) (p : Path) (r : Region.Request) : Prop where
  valid : ∃ config, r.validate m.rejectUnknownType = .ok config
  path_eq : Path.ofName r.name = p
  parent : ∀ q, p.parent? = some q → t.contains q = true

/-- The regions of a member that carries out the commands for all requests. -/
def tableAfter (m : Management) (rs : List Region.Request) : Table :=
  .run .empty ((rs.filterMap (command? m)).map Command.attempt)

variable {m : Management} {rs : List Region.Request} {p : Path} {config : Config}

theorem regionsAfter_of_none {members : List (String × Behaviour)} {i : Nat}
    (h : members[i]? = none) : regionsAfter m members rs i = .empty := by
  rw [regionsAfter, LocalCluster.regionsAt, createRegions_state, inProcess_members,
    List.getElem?_mapIdx, LocalCluster.new, List.getElem?_map, h]
  rfl

theorem regionsAfter_of_some {members : List (String × Behaviour)} {i : Nat}
    {e : String × Behaviour} (h : members[i]? = some e) :
    regionsAfter m members rs i =
      (if i < reached m.timeout (members.map fun e => .new e.1 e.2) then
        (LocalMember.new e.1 e.2).run (rs.filterMap (command? m))
      else .new e.1 e.2).member.regions := by
  rw [regionsAfter, LocalCluster.regionsAt, createRegions_state, inProcess_members,
    List.getElem?_mapIdx, LocalCluster.new, List.getElem?_map, h]
  rfl

/-- A member carries out all commands or none, whatever is asked for. -/
theorem regionsAfter_eq_or (m : Management) (members : List (String × Behaviour)) (i : Nat) :
    (∀ rs, regionsAfter m members rs i = tableAfter m rs) ∨
      ∀ rs, regionsAfter m members rs i = .empty := by
  cases h : members[i]? with
  | none => exact .inr fun rs => regionsAfter_of_none h
  | some e =>
    simp only [regionsAfter_of_some h]
    split
    · -- In front of the cut only those that fail carry nothing out.
      simp only [LocalMember.run_new, Member.run_regions]
      cases e.2.isFailing with
      | true => exact .inr fun rs => rfl
      | false => exact .inl fun rs => rfl
    · exact .inr fun rs => rfl

/-! ## One request more -/

theorem tableAfter_snoc (m : Management) (rs : List Region.Request) (r : Region.Request) :
    tableAfter m (rs ++ [r]) =
      match command? m r with
      | some c => ((tableAfter m rs).attempt c.attempt).2
      | none => tableAfter m rs := by
  rw [tableAfter, List.filterMap_append, List.map_append, List.filterMap_cons, List.filterMap_nil]
  cases command? m r with
  | none => simp [tableAfter]
  | some c => exact Table.run_snoc _ _ _

/-- A region is there after one request more if it was there, or was free and is asked for. -/
theorem get?_tableAfter_snoc {r : Region.Request} :
    (tableAfter m (rs ++ [r])).get? p = some config ↔
      (tableAfter m rs).get? p = some config ∨ (tableAfter m rs).get? p = none ∧
        r.validate m.rejectUnknownType = .ok config ∧ Asks m (tableAfter m rs) p r := by
  rw [tableAfter_snoc]
  cases hvalid : r.validate m.rejectUnknownType with
  | error cause =>
    -- Nothing is sent for a request that does not pass.
    have hcommand : command? m r = none := by rw [command?, hvalid]
    rw [hcommand]
    simp
  | ok made =>
    rw [command?_of_validate hvalid]
    dsimp only
    rw [Table.get?_attempt]
    refine or_congr_right (and_congr_right fun _ => ?_)
    constructor
    · rintro ⟨rfl, hpath, hparent⟩
      exact ⟨rfl, ⟨made, hvalid⟩, hpath, hparent⟩
    · rintro ⟨hmade, -, hpath, hparent⟩
      exact ⟨Except.ok.inj hmade, hpath, hparent⟩

theorem contains_tableAfter_snoc {r : Region.Request} :
    (tableAfter m (rs ++ [r])).contains p = true ↔
      (tableAfter m rs).contains p = true ∨ Asks m (tableAfter m rs) p r := by
  simp only [Table.contains_iff, get?_tableAfter_snoc, exists_or, exists_and_left, exists_and_right]
  cases hfree : (tableAfter m rs).get? p with
  | some config => simp
  | none =>
    refine or_congr_right ⟨fun h => h.2.2, fun h => ⟨rfl, h.valid, h⟩⟩

/-! ## All requests -/

/-- A region is there exactly when one of the requests asked for it at its time. -/
theorem contains_tableAfter_iff :
    (tableAfter m rs).contains p = true ↔
      ∃ before r after, rs = before ++ r :: after ∧ Asks m (tableAfter m before) p r := by
  induction rs using List.reverseRecOn with
  | nil => simp [tableAfter, Table.contains_iff]
  | append_singleton rs r ih => rw [contains_tableAfter_snoc, ih, exists_split_snoc_iff]

/-- Its configuration is that of a request that found the path free. -/
theorem get?_tableAfter_iff :
    (tableAfter m rs).get? p = some config ↔
      ∃ before r after, rs = before ++ r :: after ∧ (tableAfter m before).get? p = none ∧
        r.validate m.rejectUnknownType = .ok config ∧ Asks m (tableAfter m before) p r := by
  induction rs using List.reverseRecOn with
  | nil => simp [tableAfter]
  | append_singleton rs r ih =>
    rw [get?_tableAfter_snoc, ih, ← exists_split_snoc_iff]

/-- **Stored configurations.**  Let a locator work on any members in one process that begin without
regions, and look at a region of one of them after any requests.

Its short name is what follows the last slash of its path, which has no slash and is not blank.  Its
attributes are those of the tag of the first request that passed validation, meant this path, and
came when the member had the region above, if there is one.  And where unknown types are rejected,
its policy is set. -/
theorem stored_of_first_asked (m : Management) (members : List (String × Behaviour))
    (rs : List Region.Request) (i : Nat) (p : Path) (config : Config)
    (h : (regionsAfter m members rs i).get? p = some config) :
    (config.shortName.toList = Region.afterLastSlash p.text.toList ∧
      '/' ∉ config.shortName.toList ∧ Text.isBlank config.shortName.toList = false) ∧
    (∃ before r after, rs = before ++ r :: after ∧
      Asks m (regionsAfter m members before i) p r ∧
      (∀ earlier r' later, before = earlier ++ r' :: later →
        ¬ Asks m (regionsAfter m members earlier i) p r') ∧
      config.attributes = Region.resolve r.type) ∧
    (m.rejectUnknownType = true → config.attributes.policy ≠ .unset) := by
  -- Who has a region carries out all commands.
  rcases regionsAfter_eq_or m members i with hall | hnone
  · simp only [hall] at h ⊢
    obtain ⟨before, r, after, hrs, hfree, hvalid, hasks⟩ := get?_tableAfter_iff.1 h
    obtain ⟨hsegment, hblank, hattributes, hpolicy⟩ := Region.Request.validate_spec hvalid
    rw [hasks.path_eq] at hsegment
    refine ⟨⟨?_, ?_, hblank⟩, ⟨before, r, after, hrs, hasks, ?_, hattributes⟩, hpolicy⟩
    · rw [Path.afterLastSlash_text, hsegment]
    · rw [hsegment]
      exact Region.slash_notMem_afterLastSlash p.tail
    · -- An earlier request that asked for the region would have left the path taken.
      intro earlier r' later hbefore hasks'
      have htaken : (tableAfter m before).contains p = true :=
        contains_tableAfter_iff.2 ⟨earlier, r', later, hbefore, hasks'⟩
      rw [Table.contains_eq_false_iff.2 hfree] at htaken
      cases htaken
  · rw [hnone] at h
    cases h

/-- Asked for too early, with one type, and in time, with another and then with the first again: the
second of the three decides. -/
theorem stored_of_orphan_and_repeated :
    let members := [("north", .failing "down"), ("south", .healthy)]
    let rs : List Region.Request := [⟨"a/b", "PARTITION"⟩, ⟨"/a", "PARTITION"⟩,
      ⟨"/a/b", "REPLICATE"⟩, ⟨"a/b", "PARTITION"⟩]
    (regionsAfter .default members rs 1).get? (.ofName "a/b") = some ⟨"b", .replicate⟩ ∧
      ∃ before r after, rs = before ++ r :: after ∧
        Asks .default (regionsAfter .default members before 1) (.ofName "a/b") r ∧
        (∀ earlier r' later, before = earlier ++ r' :: later →
          ¬ Asks .default (regionsAfter .default members earlier 1) (.ofName "a/b") r') ∧
        .replicate = Region.resolve r.type := by
  intro members rs
  have hget : (regionsAfter .default members rs 1).get? (.ofName "a/b") =
      some ⟨"b", .replicate⟩ := by
    decide +kernel
  exact ⟨hget, (stored_of_first_asked .default members rs 1 _ _ hget).2.1⟩

end Locator

end CacheCluster
