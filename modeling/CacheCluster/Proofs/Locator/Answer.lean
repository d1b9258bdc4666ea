import CacheCluster.Proofs.Engine.FanOut
import CacheCluster.Proofs.Node.Endpoint
import CacheCluster.Proofs.Text.Order

/-!
# Answers and outcomes

Whoever asks for a region over HTTP is told what a direct call would have come to.  The status tells
apart four kinds of outcomes, and the rest of the answer is made of what the outcome carries: the
configuration that was dispatched, or the report of members of which some failed.

## Main definitions

* `Answer.Tells` : an answer that tells an outcome.

## Main results

* `Locator.createRegion_of_report`, `Locator.createRegion_of_error` : what a locator makes of what
  an engine comes to.
* `Locator.tells_answerTo` : the answer to an outcome tells it.
* `Locator.answer_tells_outcome` : the answer to a request tells the outcome of a direct call.
-/

namespace CacheCluster

variable {σ : Type}

/-- An answer with a status tells an outcome.  The members that it lists are those that failed in
the report of the outcome, each once and in the order of the bytes of their names. -/
structure Answer.Tells (a : Answer) (status : Nat) (outcome : Outcome) : Prop where
  created_iff : status = 201 ↔ ∃ report, outcome = .ok report
  invalid_iff : status = 400 ↔ ∃ cause, outcome = .error (.invalid cause)
  timeout_iff : status = 504 ↔ ∃ group after, outcome = .error (.dispatch (.timeout group after))
  other : status ≠ 201 → status ≠ 400 → status ≠ 504 → status = 500
  message : status ≠ 201 → a.url? = none ∧ a.message? ≠ none
  failed_iff : a.failedMembers ≠ [] ↔
    ∃ path report, outcome = .error (.dispatch (.memberExecution path report))
  failed : ∀ path report, outcome = .error (.dispatch (.memberExecution path report)) →
    (∀ f, f ∈ a.failedMembers ↔ ∃ status, report.statuses.get? f.member = some status ∧
      status.isSuccess = false ∧ status.message?.getD "" = f.message) ∧
    (a.failedMembers.map FailedMember.member).Pairwise (Text.encode · < Text.encode ·) ∧
    a.message? = some ("\n".intercalate
      (a.failedMembers.map fun f => f.member ++ " -> " ++ f.message))

namespace Locator

variable {m : Management} {engine : Engine σ} {r : Region.Request} {s : σ}

/-! ## Direct calls -/

section Direct

variable {config : Region.Config} (hvalid : r.validate m.rejectUnknownType = .ok config)

include hvalid

/-- An error of the engine is passed on. -/
theorem createRegion_of_error {error : Error}
    (hrun : (engine.run m.timeout m.adminGroup (.ofRequest m.adminGroup r config) s).1 =
      some (.error error)) :
    (createRegion m engine r s).1 = .error error := by
  rw [createRegion_of_validate hvalid, hrun]
  rfl

/-- A report of the engine is passed on, but as an error if a member failed. -/
theorem createRegion_of_report {report : Report}
    (hrun : (engine.run m.timeout m.adminGroup (.ofRequest m.adminGroup r config) s).1 =
      some (.ok report)) :
    (createRegion m engine r s).1 =
      if report.failures = [] then .ok report
      else .error (.dispatch (.memberExecution r.name report)) := by
  rw [createRegion_of_validate hvalid, hrun, Option.getD_some]
  split
  · rename_i hnone
    exact requireSuccess_of_successful (Report.isSuccessful_iff.2 hnone) r.name
  · rename_i hsome
    exact requireSuccess_of_failed (Bool.eq_false_iff.2 (mt Report.isSuccessful_iff.1 hsome)) r.name

end Direct

/-- Only a request that passes validation can succeed. -/
theorem exists_validate_of_createRegion {report : Report}
    (h : (createRegion m engine r s).1 = .ok report) :
    ∃ config, r.validate m.rejectUnknownType = .ok config := by
  cases hvalid : r.validate m.rejectUnknownType with
  | error cause =>
    rw [createRegion, hvalid] at h
    cases h
  | ok config => exact ⟨config, rfl⟩

/-- A direct call makes an error of a report only if a member failed in it. -/
theorem failures_ne_nil_of_createRegion {outcome : Outcome}
    (hrun : ∀ config, r.validate m.rejectUnknownType = .ok config →
      (engine.run m.timeout m.adminGroup (.ofRequest m.adminGroup r config) s).1 = some outcome)
    (houtcome : ∀ path report, outcome ≠ .error (.dispatch (.memberExecution path report)))
    {path : String} {report : Report}
    (h : (createRegion m engine r s).1 = .error (.dispatch (.memberExecution path report))) :
    report.failures ≠ [] := by
  cases hvalid : r.validate m.rejectUnknownType with
  | error cause =>
    rw [createRegion, hvalid] at h
    cases h
  | ok config =>
    cases outcome with
    | error error =>
      -- The engine would have had to end in such an error itself.
      rw [createRegion_of_error hvalid (hrun config hvalid)] at h
      exact absurd h (houtcome path report)
    | ok report' =>
      rw [createRegion_of_report hvalid (hrun config hvalid)] at h
      split at h
      · cases h
      · rename_i hsome
        cases h
        exact hsome

/-! ## Answers -/

/-- The answer for a report with failures tells them. -/
theorem tells_memberExecution (path : String) {report : Report} (h : report.failures ≠ []) :
    (Answer.mk none (some report.message) (Answer.failedMembersOf report)).Tells 500
      (.error (.dispatch (.memberExecution path report))) := by
  obtain ⟨-, hmessage, hsorted, hfailed⟩ := lists_failedMembersOf report
  have hnames : Answer.failedMembersOf report ≠ [] := by simpa [Answer.failedMembersOf] using h
  refine ⟨by simp, by simp, by simp, fun _ _ _ => rfl, by simp, by simpa using hnames, ?_⟩
  rintro path' report' heq
  obtain ⟨rfl, rfl⟩ : path = path' ∧ report = report' := by simpa using heq
  exact ⟨hfailed, hsorted.imp Text.encode_lt, hmessage⟩

/-- The answer to an outcome tells it, if no report is an error without a failure in it. -/
theorem tells_answerTo (r : Region.Request) {outcome : Outcome}
    (h : ∀ path report, outcome = .error (.dispatch (.memberExecution path report)) →
      report.failures ≠ []) :
    (answerTo r outcome).2.Tells (answerTo r outcome).1 outcome := by
  cases outcome with
  | ok report => constructor <;> simp [answerTo, Answer.created]
  | error error =>
    cases error with
    | dispatch cause =>
      -- Only the error about members has an answer of more than a message.
      cases cause with
      | memberExecution path report => exact tells_memberExecution path (h path report rfl)
      | _ => constructor <;> simp [answerTo, Answer.ofError, Answer.problem]
    | _ => constructor <;> simp [answerTo, Answer.ofError, Answer.problem]

/-- **Answers.**  Let a locator work on any engine, which comes to a report or to an error that is
no report of members, and let a request for a region reach its endpoint that can be read.

If the request is valid, a direct call passes the error or the report on, but makes an error of a
report with failures, with all of it.  The answer tells the outcome of the direct call; and if that
is a success, the answer is nothing but the place of the region, by the short name in the
configuration that was dispatched. -/
theorem answer_tells_outcome {e : Endpoint σ} (he : e.locator? = some (m, engine))
    {q : Http.Request} (hmethod : q.method = "POST") (hpath : q.path = "/v2/regions")
    (hbody : Http.jsonBody Region.Request.reader q = .ok r) (s : Served σ) {outcome : Outcome}
    (hrun : ∀ config, r.validate m.rejectUnknownType = .ok config →
      (engine.run m.timeout m.adminGroup (.ofRequest m.adminGroup r config) s.engine).1 =
        some outcome)
    (houtcome : ∀ path report, outcome ≠ .error (.dispatch (.memberExecution path report))) :
    let direct := (createRegion m engine r s.engine).1
    ((∃ config, r.validate m.rejectUnknownType = .ok config) →
      (∀ error, outcome = .error error → direct = .error error) ∧
      ∀ report, outcome = .ok report →
        ((∀ member status, report.statuses.get? member = some status → status.isSuccess = true) →
          direct = .ok report) ∧
        ((∃ member status, report.statuses.get? member = some status ∧ status.isSuccess = false) →
          direct = .error (.dispatch (.memberExecution r.name report)))) ∧
    ∃ status a, (e.serve q s).1.Carries status a ∧ a.Tells status direct ∧
      (status = 201 → ∃ config, r.validate m.rejectUnknownType = .ok config ∧
        a = ⟨some ("/v2/regions/" ++ config.shortName), none, []⟩) := by
  intro direct
  constructor
  · rintro ⟨config, hvalid⟩
    refine ⟨?_, ?_⟩
    · rintro error rfl
      exact createRegion_of_error hvalid (hrun config hvalid)
    · rintro report rfl
      have hdirect : direct = _ := createRegion_of_report hvalid (hrun config hvalid)
      rw [hdirect]
      refine ⟨fun hall => if_pos (Report.failures_eq_nil_iff.2 hall), ?_⟩
      rintro ⟨member, status, hget, hfail⟩
      exact if_neg (List.ne_nil_of_mem (Report.mem_failures_iff.2 ⟨hget, hfail⟩))
  · have htells : (answerTo r direct).2.Tells (answerTo r direct).1 direct :=
      tells_answerTo r fun path report => failures_ne_nil_of_createRegion hrun houtcome
    refine ⟨_, _, ?_, htells, ?_⟩
    · rw [Endpoint.serve_region hmethod hpath he, handle_of_read hbody]
      exact ⟨rfl, rfl⟩
    · -- Only what passed validation can succeed.
      intro hstatus
      obtain ⟨report, hok⟩ := htells.created_iff.1 hstatus
      obtain ⟨config, hvalid⟩ := exists_validate_of_createRegion hok
      rw [hok, answerTo_ok hvalid]
      exact ⟨config, hvalid, rfl⟩

/-- A report in which two of three members failed, one of them without a message and the other one
without a name. -/
theorem answer_tells_mixedReport :
    let report := Report.ofList [("south", ⟨.failure, none⟩), ("north", .success "created"),
      ("", .failure "down")]
    let engine := Engine.answering (.ok report)
    let q : Http.Request := ⟨"POST", "/v2/regions", [("content-type", "application/json")],
      (Region.Request.toJson ⟨"/a/b", "REPLICATE"⟩).render⟩
    let direct := (createRegion .default engine ⟨"/a/b", "REPLICATE"⟩ ()).1
    Http.jsonBody Region.Request.reader q = .ok ⟨"/a/b", "REPLICATE"⟩ ∧
      direct = .error (.dispatch (.memberExecution "/a/b" report)) ∧
      ∃ status a, ((⟨some (.default, engine)⟩ : Endpoint Unit).serve q ⟨(), none⟩).1.Carries
        status a ∧ a.Tells status direct := by
  intro report engine q direct
  have hbody : Http.jsonBody Region.Request.reader q = .ok ⟨"/a/b", "REPLICATE"⟩ := by
    decide +kernel
  have hreports : ∀ path failed,
      (.ok report : Outcome) ≠ .error (.dispatch (.memberExecution path failed)) := nofun
  obtain ⟨hdirect, status, a, hcarries, htells, -⟩ :=
    answer_tells_outcome (e := ⟨some (.default, engine)⟩) rfl rfl (by decide) hbody ⟨(), none⟩
      (fun _ _ => rfl) hreports
  obtain ⟨-, hreport⟩ := hdirect ⟨⟨"b", .replicate⟩, by decide⟩
  obtain ⟨-, hfailed⟩ := hreport report rfl
  exact ⟨hbody, hfailed ⟨"", .failure "down", by decide⟩, status, a, hcarries, htells⟩

end Locator

end CacheCluster
