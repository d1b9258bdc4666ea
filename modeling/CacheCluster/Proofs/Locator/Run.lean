import CacheCluster.Locator.Endpoint
import CacheCluster.Proofs.Member.Run

/-!
# Runs of requests

A locator takes requests one after the other.  Of these only those that pass validation become
commands, and only commands reach the engine.

## Main definitions

* `Locator.command?` : the command for a request, if it passes validation.
* `Locator.createRegions` : the outcomes of requests, and the state after them.

## Main results

* `Locator.createRegions_state` : the state after requests is the one after their commands.
* `Locator.handle_of_read`, `Locator.handle_of_rejected` : requests that can be read, and others.
-/

namespace CacheCluster

theorem requireSuccess_of_successful {report : Report} (h : report.isSuccessful = true)
    (targetPath : String) : requireSuccess targetPath (.ok report) = .ok report := by
  change (if report.isSuccessful = true then _ else _) = _
  rw [if_pos h]
  rfl

theorem requireSuccess_of_failed {report : Report} (h : report.isSuccessful = false)
    (targetPath : String) :
    requireSuccess targetPath (.ok report) =
      .error (.dispatch (.memberExecution targetPath report)) := by
  change (if report.isSuccessful = true then _ else _) = _
  rw [h, if_neg Bool.false_ne_true]
  rfl

theorem requireSuccess_eq_ok_iff {targetPath : String} {outcome : Outcome} {report : Report} :
    requireSuccess targetPath outcome = .ok report ↔
      outcome = .ok report ∧ report.isSuccessful = true := by
  cases outcome with
  | error e => exact iff_of_false nofun nofun
  | ok other =>
    cases hother : other.isSuccessful with
    | true =>
      rw [requireSuccess_of_successful hother]
      exact ⟨fun h => ⟨h, by cases h; exact hother⟩, And.left⟩
    | false =>
      rw [requireSuccess_of_failed hother]
      exact iff_of_false nofun fun h => by cases h.1; simp [hother] at h

namespace Locator

variable {σ : Type}

/-- The command for a request, if it passes validation. -/
def command? (m : Management) (r : Region.Request) : Option Command :=
  match r.validate m.rejectUnknownType with
  | .ok config => some (.ofRequest m.adminGroup r config)
  | .error _ => none

theorem command?_of_validate {m : Management} {r : Region.Request} {config : Region.Config}
    (h : r.validate m.rejectUnknownType = .ok config) :
    command? m r = some (.ofRequest m.adminGroup r config) := by
  rw [command?, h]

theorem validate_of_command? {m : Management} {r : Region.Request} {c : Command}
    (h : command? m r = some c) :
    ∃ config, r.validate m.rejectUnknownType = .ok config ∧
      c = .ofRequest m.adminGroup r config := by
  rw [command?] at h
  split at h
  · rename_i config hv
    exact ⟨config, hv, (Option.some.inj h).symm⟩
  · cases h

theorem targetPath_of_command? {m : Management} {r : Region.Request} {c : Command}
    (h : command? m r = some c) : c.targetPath = r.name := by
  obtain ⟨config, -, rfl⟩ := validate_of_command? h
  rfl

/-- The outcomes of requests one after the other, and the state after them. -/
def createRegions (m : Management) (engine : Engine σ) :
    List Region.Request → σ → List Outcome × σ
  | [], s => ([], s)
  | r :: rest, s =>
    let (outcome, s') := createRegion m engine r s
    let (outcomes, s'') := createRegions m engine rest s'
    (outcome :: outcomes, s'')

theorem createRegion_of_validate {m : Management} {r : Region.Request} {config : Region.Config}
    (h : r.validate m.rejectUnknownType = .ok config) (engine : Engine σ) (s : σ) :
    createRegion m engine r s =
      (requireSuccess r.name
        ((engine.run m.timeout m.adminGroup (.ofRequest m.adminGroup r config) s).1.getD
          (.error (.dispatch (.timeout m.adminGroup m.timeout)))),
        (engine.run m.timeout m.adminGroup (.ofRequest m.adminGroup r config) s).2) := by
  rw [createRegion, h]
  rfl

/-- What is asked for without a valid command ends in an error of the validation. -/
theorem createRegion_of_invalid {m : Management} {r : Region.Request} (h : command? m r = none)
    (engine : Engine σ) (s : σ) :
    ∃ cause, createRegion m engine r s = (.error (.invalid cause), s) := by
  rw [command?] at h
  rw [createRegion]
  cases hvalid : r.validate m.rejectUnknownType with
  | error cause => exact ⟨cause, rfl⟩
  | ok config =>
    rw [hvalid] at h
    cases h

/-- A request reaches the engine as its command, or not at all. -/
theorem createRegion_state (m : Management) (engine : Engine σ) (r : Region.Request) (s : σ) :
    (createRegion m engine r s).2 =
      match command? m r with
      | some c => (engine.run m.timeout m.adminGroup c s).2
      | none => s := by
  unfold createRegion command?
  cases r.validate m.rejectUnknownType with
  | error cause => rfl
  | ok config => rfl

/-- The state after requests is the one after the commands of those that pass validation. -/
theorem createRegions_state (m : Management) (engine : Engine σ) (rs : List Region.Request)
    (s : σ) :
    (createRegions m engine rs s).2 =
      (rs.filterMap (command? m)).foldl
        (fun s c => (engine.run m.timeout m.adminGroup c s).2) s := by
  induction rs generalizing s with
  | nil => rfl
  | cons r rs ih =>
    have hstep := createRegion_state m engine r s
    rw [createRegions, ih, hstep, List.filterMap_cons]
    cases command? m r with
    | none => rfl
    | some c => rfl

/-! ## The endpoint -/

section Endpoint

variable {m : Management} {engine : Engine σ} {q : Http.Request}

theorem handle_of_rejected {rejection : Http.Rejection}
    (h : Http.jsonBody Region.Request.reader q = .error rejection) (s : σ) :
    handle m engine q s = (.json 400 (Answer.problem rejection.message).toJson, s) := by
  rw [handle, h]

theorem handle_of_read {r : Region.Request} (h : Http.jsonBody Region.Request.reader q = .ok r)
    (s : σ) :
    handle m engine q s =
      (.json (answerTo r (createRegion m engine r s).1).1
          (answerTo r (createRegion m engine r s).1).2.toJson,
        (createRegion m engine r s).2) := by
  rw [handle, h]

end Endpoint

end Locator

end CacheCluster
