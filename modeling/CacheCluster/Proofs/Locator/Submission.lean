import CacheCluster.Proofs.Engine.Outcome
import CacheCluster.Proofs.Node.Endpoint

/-!
# What a locator submits

A locator submits the command of every request for a region that can be read and passes validation,
once and before anything else can go wrong.  What it refuses it does not submit, and whoever asked
is told which of the two it was.

## Main definitions

* `Locator.submission?` : what is submitted for a request to the endpoint.

## Main results

* `inProcess_sent` : the engine in one process keeps every command that it is given.
* `Locator.wasAttempted_createRegion` : errors tell whether a command was submitted.
* `Locator.serve_sent` : what one request adds to what was submitted.
* `Locator.submitted_once` : all of it, for some requests.
-/

namespace CacheCluster

/-! ## The engine -/

section Engine

variable (limit : Duration) (group : String) (c : Command) (s : LocalCluster)

/-- A command is kept with its group whatever becomes of it. -/
theorem inProcess_sent :
    (Engine.inProcess.run limit group c s).2.sent = s.sent ++ [(group, c)] := by
  rw [Engine.inProcess]
  dsimp only
  split <;> rfl

/-- The engine reports, does not end in time, or finds no members. -/
theorem inProcess_outcome :
    (∃ report, (Engine.inProcess.run limit group c s).1 = some (.ok report)) ∨
      (Engine.inProcess.run limit group c s).1 = none ∨
      (Engine.inProcess.run limit group c s).1 = some (.error (.dispatch (.noMembers group))) := by
  by_cases h : s.members = []
  · rw [inProcess_run_of_nil h]
    exact .inr (.inr rfl)
  · rw [inProcess_run_of_ne_nil h]
    cases (runMembers c limit .empty s.members).1 with
    | none => exact .inr (.inl rfl)
    | some report => exact .inl ⟨report, rfl⟩

end Engine

namespace Locator

variable {m : Management}

/-! ## Requests -/

/-- What is asked for with a valid command ends in a report or an error of the dispatch. -/
theorem createRegion_of_command {r : Region.Request} {c : Command} (h : command? m r = some c)
    (s : LocalCluster) :
    (∃ report, (createRegion m .inProcess r s).1 = .ok report) ∨
      ∃ cause, (createRegion m .inProcess r s).1 = .error (.dispatch cause) := by
  obtain ⟨config, hvalid, rfl⟩ := validate_of_command? h
  rw [createRegion_of_validate hvalid]
  dsimp only
  -- The time may be over, or there may be nobody to ask: neither is an error of the validation.
  rcases inProcess_outcome m.timeout m.adminGroup (.ofRequest m.adminGroup r config) s with
    ⟨report, hrun⟩ | hrun | hrun
  · rw [hrun, Option.getD_some]
    cases hsuccess : report.isSuccessful with
    | true => exact .inl ⟨report, requireSuccess_of_successful hsuccess _⟩
    | false => exact .inr ⟨_, requireSuccess_of_failed hsuccess _⟩
  · rw [hrun]
    exact .inr ⟨_, rfl⟩
  · rw [hrun]
    exact .inr ⟨_, rfl⟩

/-- A request adds its command with the group, if it has one. -/
theorem createRegion_sent (m : Management) (r : Region.Request) (s : LocalCluster) :
    (createRegion m .inProcess r s).2.sent =
      s.sent ++ ((command? m r).map fun c => (m.adminGroup, c)).toList := by
  rw [createRegion_state]
  cases command? m r with
  | none => exact (List.append_nil _).symm
  | some c => exact inProcess_sent m.timeout m.adminGroup c s

/-- Errors tell whether a command was submitted. -/
theorem wasAttempted_createRegion (m : Management) (r : Region.Request) (s : LocalCluster) :
    (∃ error, (createRegion m .inProcess r s).1 = .error error ∧ error.wasAttempted = false) ↔
      (createRegion m .inProcess r s).2.sent = s.sent := by
  rw [createRegion_sent]
  -- Validation comes before everything else, so its errors are those without a command.
  cases h : command? m r with
  | none =>
    obtain ⟨cause, hcreate⟩ := createRegion_of_invalid h .inProcess s
    rw [hcreate]
    exact iff_of_true ⟨.invalid cause, rfl, rfl⟩ (List.append_nil _)
  | some c =>
    refine iff_of_false ?_ (by simp)
    rintro ⟨error, herror, hattempted⟩
    rcases createRegion_of_command h s with ⟨report, hreport⟩ | ⟨cause, hcause⟩
    · rw [hreport] at herror
      cases herror
    · rw [hcause] at herror
      cases herror
      cases hattempted

/-! ## The endpoint -/

/-- What is submitted for a request to the endpoint: the command for the region that is asked for,
with the administered group, if the request can be read and passes validation. -/
def submission? (m : Management) (q : Http.Request) : Option (String × Command) :=
  if q.method = "POST" ∧ q.path = "/v2/regions" then
    match Http.jsonBody Region.Request.reader q with
    | .ok r => (command? m r).map fun c => (m.adminGroup, c)
    | .error _ => none
  else none

/-- A pair is submitted for a request that asks for a region, can be read and passes validation. -/
theorem submission?_eq_some_iff {q : Http.Request} {pair : String × Command} :
    submission? m q = some pair ↔
      ∃ r config, q.method = "POST" ∧ q.path = "/v2/regions" ∧
        Http.jsonBody Region.Request.reader q = .ok r ∧
        r.validate m.rejectUnknownType = .ok config ∧
        pair = (m.adminGroup, ⟨r.name, config, true, m.adminGroup⟩) := by
  rw [submission?]
  constructor
  · intro h
    split at h
    · rename_i hregion
      split at h
      · rename_i r hbody
        obtain ⟨c, hc, rfl⟩ := Option.map_eq_some_iff.1 h
        obtain ⟨config, hvalid, rfl⟩ := validate_of_command? hc
        exact ⟨r, config, hregion.1, hregion.2, hbody, hvalid, rfl⟩
      · cases h
    · cases h
  · rintro ⟨r, config, hmethod, hpath, hbody, hvalid, rfl⟩
    rw [if_pos ⟨hmethod, hpath⟩, hbody]
    dsimp only
    rw [command?_of_validate hvalid]
    rfl

/-- The name goes out as it was given. -/
example :
    submission? .default ⟨"POST", "/v2/regions", [("content-type", "application/json")],
      (Region.Request.toJson ⟨"a/b", "REPLICATE"⟩).render⟩ =
      some ("cluster", ⟨"a/b", ⟨"b", .replicate⟩, true, "cluster"⟩) := by
  decide +kernel

/-- The status of a refusal is that of the errors before any attempt. -/
theorem status_ofError_eq_iff (error : Error) :
    (Answer.ofError error).1 = 400 ↔ error.wasAttempted = false := by
  cases error with
  | dispatch cause => cases cause <;> simp [Answer.ofError, Error.wasAttempted]
  | _ => simp [Answer.ofError, Error.wasAttempted]

theorem status_answerTo_eq_iff {r : Region.Request} {outcome : Outcome} :
    (answerTo r outcome).1 = 400 ↔
      ∃ error, outcome = .error error ∧ error.wasAttempted = false := by
  cases outcome with
  | ok report => simp [answerTo]
  | error error => simp [answerTo, status_ofError_eq_iff]

variable {e : Endpoint LocalCluster}

/-- A request adds what is submitted for it. -/
theorem serve_sent (he : e.locator? = some (m, .inProcess)) (q : Http.Request)
    (s : Served LocalCluster) :
    (e.serve q s).2.engine.sent = s.engine.sent ++ (submission? m q).toList := by
  rw [Endpoint.serve_engine he, submission?]
  split
  · cases hbody : Http.jsonBody Region.Request.reader q with
    | error rejection =>
      rw [handle_of_rejected hbody]
      exact (List.append_nil _).symm
    | ok r =>
      rw [handle_of_read hbody]
      exact createRegion_sent m r s.engine
  · exact (List.append_nil _).symm

/-- A request for a region is refused exactly when nothing is submitted for it. -/
theorem status_serve_eq_iff (he : e.locator? = some (m, .inProcess)) {q : Http.Request}
    (hmethod : q.method = "POST") (hpath : q.path = "/v2/regions") (s : Served LocalCluster) :
    (e.serve q s).1.status = 400 ↔ (e.serve q s).2.engine.sent = s.engine.sent := by
  rw [Endpoint.serve_region hmethod hpath he, Endpoint.serve_engine he, if_pos ⟨hmethod, hpath⟩]
  cases hbody : Http.jsonBody Region.Request.reader q with
  | error rejection =>
    rw [handle_of_rejected hbody]
    exact iff_of_true rfl rfl
  | ok r =>
    rw [handle_of_read hbody, ← wasAttempted_createRegion, ← status_answerTo_eq_iff]
    rfl

/-- What was submitted after some requests is what each of them adds, in order. -/
theorem run_sent (he : e.locator? = some (m, .inProcess)) (qs : List Http.Request)
    (s : Served LocalCluster) :
    (e.run qs s).engine.sent = s.engine.sent ++ qs.filterMap (submission? m) := by
  induction qs using List.reverseRecOn with
  | nil => exact (List.append_nil _).symm
  | append_singleton qs q ih =>
    rw [Endpoint.run_snoc, serve_sent he, ih, List.filterMap_append, List.append_assoc,
      List.filterMap_cons, List.filterMap_nil]
    cases submission? m q <;> rfl

/-- **Submission.**  Let a locator work on any members in one process, which may fail, be late or
not be there at all, and let any requests reach its node.

Then what was submitted is, in order, one pair for each request that asks for a region, can be read
and passes validation, and nothing else: the administered group, and a command to it with the name
as it was given and the configuration of the validation, to skip what is there.  A request for a
region is refused exactly when it adds nothing, and an error says that nothing was attempted exactly
when nothing was added. -/
theorem submitted_once (m : Management) (members : List LocalMember) (member? : Option Member) :
    let e : Endpoint LocalCluster := ⟨some (m, .inProcess)⟩
    (∀ qs, (e.run qs ⟨.new members, member?⟩).engine.sent = qs.filterMap (submission? m)) ∧
    (∀ q pair, submission? m q = some pair ↔
      ∃ r config, q.method = "POST" ∧ q.path = "/v2/regions" ∧
        Http.jsonBody Region.Request.reader q = .ok r ∧
        r.validate m.rejectUnknownType = .ok config ∧
        pair = (m.adminGroup, ⟨r.name, config, true, m.adminGroup⟩)) ∧
    (∀ q s, q.method = "POST" → q.path = "/v2/regions" →
      ((e.serve q s).1.status = 400 ↔ (e.serve q s).2.engine.sent = s.engine.sent)) ∧
    ∀ r s, (∃ error, (createRegion m .inProcess r s).1 = .error error ∧
        error.wasAttempted = false) ↔ (createRegion m .inProcess r s).2.sent = s.sent := by
  intro e
  refine ⟨?_, ?_, ?_, wasAttempted_createRegion m⟩
  · exact fun qs => run_sent rfl qs ⟨.new members, member?⟩
  · exact fun q pair => submission?_eq_some_iff
  · exact fun q s hmethod hpath => status_serve_eq_iff rfl hmethod hpath s

end Locator

end CacheCluster
