import CacheCluster.Proofs.Command
import CacheCluster.Proofs.Member
import CacheCluster.Proofs.Member.Listing
import CacheCluster.Proofs.Node.Endpoint
import CacheCluster.Proofs.Wire
import Mathlib.Data.List.Induction

/-!
# The regions of a node through its endpoint

Whatever requests reach a node, its regions only grow, one at a time, by the commands that it
carries out on free paths.  What is there was posted with parts that fit, and is listed in the order
of the bytes of the paths.

## Main definitions

* `Endpoint.Adds` : a request that adds the region of a command.
* `Endpoint.Added` : a region that one of some requests added.

## Main results

* `Endpoint.serve_regions` : what one request makes of the regions.
* `Endpoint.get?_run_iff` : the regions after some requests.
* `Endpoint.regions_invariant` : what changes the regions, what they are, and how they are listed.
-/

namespace CacheCluster

open Region (Path Table Config)

namespace Endpoint

variable {σ : Type} {e : Endpoint σ} {q : Http.Request} {s : Served σ} {m : Member} {c : Command}

/-- A request adds the region of a command to a member: it is a `POST` of the command that is
taken, the path is free, and the reply is one of success. -/
structure Adds (e : Endpoint σ) (q : Http.Request) (s : Served σ) (m : Member) (c : Command) :
    Prop where
  member?_eq : s.member? = some m
  method_eq : q.method = "POST"
  path_eq : q.path = createRegionPath
  body_eq : Http.jsonBody Command.reader q = .ok c
  free : m.regions.get? (.ofName c.targetPath) = none
  success : ∃ reply : MemberReply, (e.serve q s).1.body = reply.toJson.render ∧
    reply.status.isSuccess = true

/-- One of some requests added a region. -/
def Added (e : Endpoint σ) (qs : List Http.Request) (s : Served σ) (p : Path) (config : Config) :
    Prop :=
  ∃ before q after, qs = before ++ q :: after ∧ ∃ m c, e.Adds q (e.run before s) m c ∧
    Path.ofName c.targetPath = p ∧ c.config = config

/-! ## One request -/

/-- What a command that is taken does, and what is answered. -/
theorem serve_of_command (hm : s.member? = some m) (hmethod : q.method = "POST")
    (hpath : q.path = createRegionPath) (hbody : Http.jsonBody Command.reader q = .ok c)
    (e : Endpoint σ) :
    (e.serve q s).1.body = (m.execute c).1.toJson.render ∧
      (e.serve q s).2.member? = some (m.execute c).2 := by
  rw [serve_command hmethod hpath hm, serve_member?, if_pos ⟨hmethod, hpath⟩, hm, Option.map_some,
    Member.handleCommand_of_read hbody]
  exact ⟨rfl, rfl⟩

/-- A request adds the region of a command exactly when the command is taken and what becomes of it
at the member is a new region. -/
theorem adds_iff (hm : s.member? = some m) :
    e.Adds q s m c ↔ q.method = "POST" ∧ q.path = createRegionPath ∧
      Http.jsonBody Command.reader q = .ok c ∧
      (m.regions.create (.ofName c.targetPath) c.config c.skipIfExists).1 = .inserted := by
  have hstatus : (m.execute c).1.status.isSuccess = true ↔
      (m.regions.create (.ofName c.targetPath) c.config c.skipIfExists).1 = .inserted ∨
        (m.regions.create (.ofName c.targetPath) c.config c.skipIfExists).1 = .skipped :=
    Member.isSuccess_statusOf
  constructor
  · rintro ⟨-, hmethod, hpath, hbody, hfree, reply, hreply, hsuccess⟩
    -- There is only one reply that is written like this.
    rw [(serve_of_command hm hmethod hpath hbody e).1] at hreply
    rw [← Json.Reads.injective MemberReply.reads_toJson hreply, hstatus] at hsuccess
    refine ⟨hmethod, hpath, hbody, hsuccess.resolve_right fun hskipped => ?_⟩
    exact Table.create_ne_skipped hfree hskipped
  · rintro ⟨hmethod, hpath, hbody, hinserted⟩
    exact ⟨hm, hmethod, hpath, hbody, (Table.create_eq_inserted_iff.1 hinserted).1, (m.execute c).1,
      (serve_of_command hm hmethod hpath hbody e).1, hstatus.2 (.inl hinserted)⟩

/-- A request that adds a region adds just that one, and any other leaves the regions as they
are. -/
theorem serve_regions (hm : s.member? = some m) (e : Endpoint σ) (q : Http.Request) :
    ∃ m', (e.serve q s).2.member? = some m' ∧
      (∀ c, e.Adds q s m c → m'.regions = m.regions.insert (.ofName c.targetPath) c.config) ∧
      ((¬ ∃ c, e.Adds q s m c) → m'.regions = m.regions) := by
  simp only [adds_iff hm]
  -- Only a command that is taken reaches the member, and there it may still be skipped or fail.
  by_cases hcommand : q.method = "POST" ∧ q.path = createRegionPath
  · cases hbody : Http.jsonBody Command.reader q with
    | error rejection =>
      refine ⟨m, ?_, ?_, fun _ => rfl⟩
      · rw [serve_member?, if_pos hcommand, hm, Option.map_some,
          Member.handleCommand_of_rejected hbody]
      · rintro c ⟨-, -, hc, -⟩
        cases hc
    | ok c =>
      refine ⟨(m.execute c).2, (serve_of_command hm hcommand.1 hcommand.2 hbody e).2, ?_, ?_⟩
      · rintro d ⟨-, -, hd, hinserted⟩
        cases hd
        exact Table.create_of_inserted hinserted
      · intro hnone
        exact Table.create_eq_self fun hinserted =>
          hnone ⟨c, hcommand.1, hcommand.2, rfl, hinserted⟩
  · exact ⟨m, by rw [serve_member?, if_neg hcommand, hm],
      fun _ h => absurd ⟨h.1, h.2.1⟩ hcommand, fun _ => rfl⟩

/-- A region that is added makes a difference. -/
theorem Adds.insert_ne (h : e.Adds q s m c) :
    m.regions.insert (.ofName c.targetPath) c.config ≠ m.regions := by
  intro heq
  have hget := SortedMap.get?_insert_self m.regions (.ofName c.targetPath) c.config
  rw [heq, h.free] at hget
  cases hget

/-- Only one command adds its region by a request. -/
theorem Adds.command_eq {d : Command} (h : e.Adds q s m c) (h' : e.Adds q s m d) : c = d :=
  Except.ok.inj (h.body_eq.symm.trans h'.body_eq)

/-! ## Some requests -/

theorem added_nil {p : Path} {config : Config} : ¬ e.Added [] s p config := by
  rintro ⟨before, q, after, h, -⟩
  simp at h

theorem added_snoc {qs : List Http.Request} {p : Path} {config : Config} :
    e.Added (qs ++ [q]) s p config ↔ e.Added qs s p config ∨
      ∃ m c, e.Adds q (e.run qs s) m c ∧ Path.ofName c.targetPath = p ∧ c.config = config :=
  exists_split_snoc_iff

/-- The regions after some requests are those that one of the requests added. -/
theorem get?_run_iff (e : Endpoint σ) (engine : σ) (name : String) (qs : List Http.Request) :
    ∃ m, (e.run qs ⟨engine, some (.new name)⟩).member? = some m ∧
      ∀ p config, m.regions.get? p = some config ↔
        e.Added qs ⟨engine, some (.new name)⟩ p config := by
  -- The last request adds the one region of its command to those before it, or nothing.
  induction qs using List.reverseRecOn with
  | nil => exact ⟨.new name, rfl, fun p config => iff_of_false nofun added_nil⟩
  | append_singleton qs q ih =>
    obtain ⟨m, hm, hget⟩ := ih
    obtain ⟨m', hm', hadds, hnone⟩ := serve_regions hm e q
    refine ⟨m', by rw [run_snoc, hm'], fun p config => ?_⟩
    rw [added_snoc, ← hget]
    by_cases hex : ∃ c, e.Adds q (e.run qs ⟨engine, some (.new name)⟩) m c
    · obtain ⟨c, hc⟩ := hex
      rw [hadds c hc, SortedMap.get?_insert_of_free hc.free]
      refine or_congr_right ⟨fun h => ⟨m, c, hc, h⟩, ?_⟩
      rintro ⟨m'', d, hd, h⟩
      obtain rfl := Option.some.inj (hm.symm.trans hd.member?_eq)
      rwa [hc.command_eq hd]
    · rw [hnone hex]
      refine ⟨.inl, ?_⟩
      rintro (h | ⟨m'', c, hc, -⟩)
      · exact h
      · obtain rfl := Option.some.inj (hm.symm.trans hc.member?_eq)
        exact absurd ⟨c, hc⟩ hex

/-- **Regions of a node.**  Let a node be a member without regions at first, with or without a
locator, which does not reach its regions in any other way.  Let any requests reach it.

Then a further request changes the regions exactly when it adds the region of a command, and then
that region is there with the configuration of the command, and all others are as before.  Whatever
is there has a tuning exactly where the policy is to partition, as its parts had when they were
posted; a body with parts that do not fit changes nothing.  A list of the regions has exactly the
paths of those that were added, in the order of their bytes. -/
theorem regions_invariant (e : Endpoint σ) (engine : σ) (name : String)
    (qs : List Http.Request) :
    let start : Served σ := ⟨engine, some (.new name)⟩
    ∃ m, (e.run qs start).member? = some m ∧
      (∀ q, ∃ m', (e.run (qs ++ [q]) start).member? = some m' ∧
        (m'.regions ≠ m.regions ↔ ∃ c, e.Adds q (e.run qs start) m c) ∧
        (∀ c, e.Adds q (e.run qs start) m c →
          m'.regions.get? (.ofName c.targetPath) = some c.config ∧
          ∀ p, p ≠ .ofName c.targetPath → m'.regions.get? p = m.regions.get? p) ∧
        ∀ parts, Http.jsonBody CommandParts.reader q = .ok parts →
          ¬ parts.config.attributes.Fits → m'.regions = m.regions) ∧
      (∀ p config, m.regions.get? p = some config →
        (config.attributes.spec?.isSome ↔ config.attributes.policy = .partition) ∧
        ∃ q ∈ qs, q.method = "POST" ∧ q.path = createRegionPath ∧
          ∃ parts, Http.jsonBody CommandParts.reader q = .ok parts ∧
            parts.config = config.parts) ∧
      ∀ q, q.method = "GET" → q.path = regionListPath → ∃ paths : List String,
        (e.serve q (e.run qs start)).1.status = 200 ∧
        (e.serve q (e.run qs start)).1.body = (Json.arr (paths.map .str)).render ∧
        paths.Pairwise (Text.encode · < Text.encode ·) ∧
        ∀ text, text ∈ paths ↔ ∃ p config, e.Added qs start p config ∧ p.text = text := by
  intro start
  obtain ⟨m, hm, hget⟩ := get?_run_iff e engine name qs
  refine ⟨m, hm, ?_, ?_, ?_⟩
  · intro q
    obtain ⟨m', hm', hadds, hnone⟩ := serve_regions hm e q
    refine ⟨m', by rw [run_snoc]; exact hm', ⟨?_, ?_⟩, ?_, ?_⟩
    · exact fun hne => by_contra fun hex => hne (hnone hex)
    · rintro ⟨c, hc⟩
      rw [hadds c hc]
      exact hc.insert_ne
    · intro c hc
      rw [hadds c hc]
      exact ⟨SortedMap.get?_insert_self .., fun p hp => SortedMap.get?_insert_of_ne _ _ hp⟩
    · intro parts hparts hfits
      refine hnone ?_
      rintro ⟨c, hc⟩
      -- The parts of a command that is taken are those that were posted.
      obtain ⟨hposted, hfit⟩ := Command.jsonBody_parts hc.body_eq
      rw [Except.ok.inj (hparts.symm.trans hposted)] at hfits
      exact hfits hfit
  · intro p config h
    obtain ⟨before, q, after, rfl, m₀, c, hc, -, rfl⟩ := (hget p config).1 h
    exact ⟨c.config.attributes.isSome_spec?_iff, q, by simp, hc.method_eq, hc.path_eq, c.parts,
      (Command.jsonBody_parts hc.body_eq).1, rfl⟩
  · intro q hmethod hpath
    refine ⟨m.paths, ?_, ?_, m.pairwise_paths, ?_⟩
    · rw [serve_list hmethod hpath hm]
      rfl
    · rw [serve_list hmethod hpath hm]
      rfl
    · intro text
      simp only [Member.mem_paths_iff, hget]
      rfl

/-- The slash in front may be left out, and to partition without a tuning is not taken. -/
example :
    let post (body : Json) : Http.Request :=
      ⟨"POST", createRegionPath, [("content-type", "application/json")], body.render⟩
    let qs := [post (Command.toJson ⟨"b", ⟨"b", .replicate⟩, true, "cluster"⟩),
      post (Command.toJson ⟨"/a", ⟨"a", .partition .none⟩, true, "cluster"⟩),
      post (.obj [("target_path", .str "/c"), ("skip_if_exists", .bool true),
        ("config", .obj [("short_name", .str "c"),
          ("attributes", .obj [("data_policy", .str "PARTITION"), ("partition_spec", .null)])]),
        ("target_group", .str "cluster")])]
    ((⟨none⟩ : Endpoint Unit).run qs ⟨(), some (.new "node-1")⟩).member?.map Member.paths =
      some ["/a", "/b"] := by
  decide +kernel

end Endpoint

end CacheCluster
