import CacheCluster.Node.Endpoint
import CacheCluster.Proofs.Http.Router
import Mathlib.Data.List.Induction

/-!
# What the endpoint of a node does

Only commands change the member of a node, and only requests for regions change what its locator
works on.  Neither changes the other.

## Main definitions

* `Endpoint.run` : the state after some requests.

## Main results

* `Endpoint.serve_member?`, `Endpoint.serve_engine` : the state after one request.
* `Endpoint.run_name` : the member of a node stays the one that it is.
* `Endpoint.serve_command`, `Endpoint.serve_list` : what a member answers.
* `Endpoint.serve_region` : what a locator answers.
* `Endpoint.notFound_command_iff` : only nodes without a member do not know commands.
-/

namespace CacheCluster

/-! ## Members -/

namespace Member

variable {q : Http.Request}

theorem handleCommand_of_rejected {rejection : Http.Rejection}
    (h : Http.jsonBody Command.reader q = .error rejection) (m : Member) :
    m.handleCommand q = (.text rejection.status rejection.message, m) := by
  rw [handleCommand, h]

theorem handleCommand_of_read {c : Command} (h : Http.jsonBody Command.reader q = .ok c)
    (m : Member) :
    m.handleCommand q = (.json 200 (m.execute c).1.toJson, (m.execute c).2) := by
  rw [handleCommand, h]

@[simp] theorem handleCommand_name (q : Http.Request) (m : Member) :
    (m.handleCommand q).2.name = m.name := by
  cases h : Http.jsonBody Command.reader q with
  | error rejection => rw [handleCommand_of_rejected h]
  | ok c => rw [handleCommand_of_read h, execute_name]

/-- A member that is there says so, also about a body that it does not take. -/
theorem status_handleCommand_ne (q : Http.Request) (m : Member) :
    (m.handleCommand q).1.status ≠ 404 := by
  cases h : Http.jsonBody Command.reader q with
  | error rejection =>
    rw [handleCommand_of_rejected h]
    cases rejection <;> simp [Http.Response.text, Http.Rejection.status]
  | ok c => simp [handleCommand_of_read h, Http.Response.json]

end Member

namespace Endpoint

variable {σ : Type} {e : Endpoint σ} {q : Http.Request} {s : Served σ}

/-- The state of a node after some requests. -/
def run (e : Endpoint σ) (qs : List Http.Request) (s : Served σ) : Served σ :=
  qs.foldl (fun s q => (e.serve q s).2) s

theorem run_snoc (qs : List Http.Request) (q : Http.Request) (s : Served σ) :
    e.run (qs ++ [q]) s = (e.serve q (e.run qs s)).2 := by
  simp [run]

/-! ## Routes -/

theorem find?_createRegionPath (hpath : q.path = createRegionPath) :
    ((e.routes s).find? fun r => r.path == q.path) =
      s.member?.map fun m =>
        Served.memberRoute m ⟨createRegionPath, .post, Member.handleCommand⟩ := by
  rw [hpath, routes]
  cases e.locator? <;> cases s.member? <;> rfl

theorem find?_regionListPath (hpath : q.path = regionListPath) :
    ((e.routes s).find? fun r => r.path == q.path) =
      s.member?.map fun m => Served.memberRoute m ⟨regionListPath, .get, Member.handleList⟩ := by
  rw [hpath, routes]
  cases e.locator? <;> cases s.member? <;> rfl

theorem find?_regionsPath (hpath : q.path = "/v2/regions") :
    ((e.routes s).find? fun r => r.path == q.path) =
      e.locator?.map fun l =>
        Served.locatorRoute ⟨"/v2/regions", .post, Locator.handle l.1 l.2⟩ := by
  rw [hpath, routes]
  cases e.locator? <;> cases s.member? <;> rfl

theorem find?_of_ne (hcommand : q.path ≠ createRegionPath) (hlist : q.path ≠ regionListPath)
    (hregion : q.path ≠ "/v2/regions") :
    ((e.routes s).find? fun r => r.path == q.path) = none := by
  have hpaths : ∀ r ∈ e.routes s, r.path ∈ ["/v2/regions", createRegionPath, regionListPath] := by
    rw [routes]
    cases e.locator? <;> cases s.member? <;>
      simp [Locator.routes, memberRoutes, Served.locatorRoute, Served.memberRoute]
  rw [List.find?_eq_none]
  intro r hr
  rw [beq_iff_eq]
  rintro hpath
  have hmem := hpaths r hr
  rw [hpath] at hmem
  simp [hcommand, hlist, hregion] at hmem

/-! ## States -/

/-- The state changes only by commands to the member and by requests for regions to the locator. -/
theorem serve_state (e : Endpoint σ) (q : Http.Request) (s : Served σ) :
    (e.serve q s).2 =
      if q.method = "POST" ∧ q.path = createRegionPath then
        { s with member? := s.member?.map fun m => (m.handleCommand q).2 }
      else if q.method = "POST" ∧ q.path = "/v2/regions" then
        { s with engine :=
          (e.locator?.map fun l => (Locator.handle l.1 l.2 q s.engine).2).getD s.engine }
      else s := by
  obtain ⟨engine, member?⟩ := s
  rw [serve, Http.serve_state]
  by_cases hcommand : q.path = createRegionPath
  · have hne : createRegionPath ≠ "/v2/regions" := by decide
    rw [find?_createRegionPath hcommand]
    by_cases hpost : q.method = "POST" <;> cases member? <;>
      simp [Served.memberRoute, Http.Method.names, hpost, hcommand, hne]
  rw [if_neg fun h => hcommand h.2]
  by_cases hregion : q.path = "/v2/regions"
  · rw [find?_regionsPath hregion]
    by_cases hpost : q.method = "POST" <;> cases e.locator? <;>
      simp [Served.locatorRoute, Http.Method.names, hpost, hregion]
  rw [if_neg fun h => hregion h.2]
  by_cases hlist : q.path = regionListPath
  · -- The list of the regions is read off the member, which stays as it is.
    rw [find?_regionListPath hlist]
    cases member? with
    | none => rfl
    | some m => exact ite_self _
  · rw [find?_of_ne hcommand hlist hregion]

/-- The member of a node changes only by commands. -/
theorem serve_member? (e : Endpoint σ) (q : Http.Request) (s : Served σ) :
    (e.serve q s).2.member? =
      if q.method = "POST" ∧ q.path = createRegionPath then
        s.member?.map fun m => (m.handleCommand q).2
      else s.member? := by
  rw [serve_state]
  split
  · rfl
  · split <;> rfl

/-- Whatever a node is asked, it has the same member as before, if any. -/
theorem run_name (e : Endpoint σ) (qs : List Http.Request) (s : Served σ) :
    (e.run qs s).member?.map Member.name = s.member?.map Member.name := by
  induction qs using List.reverseRecOn with
  | nil => rfl
  | append_singleton qs q ih =>
    rw [run_snoc, serve_member?, ← ih]
    split
    · cases (e.run qs s).member? <;> simp
    · rfl

/-- What the locator of a node works on changes only by requests for regions. -/
theorem serve_engine {m : Management} {engine : Engine σ} (he : e.locator? = some (m, engine))
    (q : Http.Request) (s : Served σ) :
    (e.serve q s).2.engine =
      if q.method = "POST" ∧ q.path = "/v2/regions" then (Locator.handle m engine q s.engine).2
      else s.engine := by
  rw [serve_state, he]
  split
  · rename_i hcommand
    rw [if_neg]
    rintro ⟨-, hregion⟩
    rw [hcommand.2] at hregion
    exact absurd hregion (by decide)
  · split <;> rfl

/-! ## Responses -/

/-- What a member answers to a command. -/
theorem serve_command (hmethod : q.method = "POST") (hpath : q.path = createRegionPath)
    {m : Member} (hm : s.member? = some m) (e : Endpoint σ) :
    (e.serve q s).1 = (m.handleCommand q).1.opened := by
  have hfind := find?_createRegionPath (e := e) (s := s) hpath
  rw [hm] at hfind
  rw [serve, Http.serve_post hmethod rfl hfind]
  rfl

/-- Nodes know the path of commands exactly when they have a member. -/
theorem notFound_command_iff (hpath : q.path = createRegionPath) (hmethod : q.method ≠ "OPTIONS")
    (e : Endpoint σ) (s : Served σ) : (e.serve q s).1.status = 404 ↔ s.member? = none := by
  have hfind := find?_createRegionPath (e := e) (s := s) hpath
  rw [serve, Http.serve, hfind]
  cases s.member? with
  | none => simp [hmethod]
  | some m =>
    simp only [hmethod, if_false, Option.map_some, reduceCtorEq, iff_false]
    rw [Http.Route.answer]
    split
    · rename_i htakes
      -- A command is no request for the headers alone.
      have hhead : q.method ≠ "HEAD" := by
        intro h
        simp [Served.memberRoute, Http.Method.names, h] at htakes
      simp only [if_neg hhead]
      exact m.status_handleCommand_ne q
    · simp

/-- Requests change the regions of a member, but not whether there is one. -/
theorem notFound_command_run_iff (hpath : q.path = createRegionPath)
    (hmethod : q.method ≠ "OPTIONS") (e : Endpoint σ) (qs : List Http.Request) (s : Served σ) :
    (e.serve q (e.run qs s)).1.status = 404 ↔ s.member? = none := by
  have hname := congrArg Option.isNone (e.run_name qs s)
  rw [Option.isNone_map, Option.isNone_map] at hname
  rw [notFound_command_iff hpath hmethod, ← Option.isNone_iff_eq_none, hname,
    Option.isNone_iff_eq_none]

/-- What a member answers when it is asked for its regions. -/
theorem serve_list (hmethod : q.method = "GET") (hpath : q.path = regionListPath)
    {m : Member} (hm : s.member? = some m) (e : Endpoint σ) :
    (e.serve q s).1 = (m.handleList q).1.opened := by
  have hfind := find?_regionListPath (e := e) (s := s) hpath
  rw [hm] at hfind
  have htakes : Http.Method.get.names.contains q.method = true := by
    rw [hmethod]
    decide
  have hhead : q.method ≠ "HEAD" := by
    rw [hmethod]
    decide
  rw [serve, Http.serve_of_takes hfind htakes hhead]
  rfl

/-- What a locator answers to a request for a region. -/
theorem serve_region (hmethod : q.method = "POST") (hpath : q.path = "/v2/regions")
    {m : Management} {engine : Engine σ} (he : e.locator? = some (m, engine)) (s : Served σ) :
    (e.serve q s).1 = (Locator.handle m engine q s.engine).1.opened := by
  have hfind := find?_regionsPath (e := e) (s := s) hpath
  rw [he] at hfind
  rw [serve, Http.serve_post hmethod rfl hfind]
  rfl

end Endpoint

end CacheCluster
