import CacheCluster.Proofs.Engine.Agreement
import CacheCluster.Proofs.Member
import CacheCluster.Proofs.Report

/-!
# The outcome of a request in one process

What becomes of a request is decided in stages: the name, the type, whether there are members,
whether they are done in time, and what each of them says.  The first stage that the request does
not pass is the one that its outcome tells of.

## Main definitions

* `LocalMember.Accepts`, `LocalMember.Refuses` : a member that does what it is asked with a region
  at a path, and one that does not.
* `totalDelay` : the time that all members take one after the other.

## Main results

* `inProcess_run_of_le`, `inProcess_run_of_lt` : a command with enough time for all members, and
  with too little.
* `Locator.createRegion_of_le` : a request for which there is enough time.
* `Locator.createRegion_inProcess` : the outcome of a request, and the names that failed.
-/

namespace CacheCluster

open Region (Path RegionType afterLastSlash)

/-! ## Members -/

namespace LocalMember

/-- A member that does what it is asked with a region at a path: it does not fail, and it has the
region, or the region is at the top, or it has the one above. -/
def Accepts (m : LocalMember) (p : Path) : Prop :=
  m.behaviour.isFailing = false ∧ (m.member.regions.contains p = true ∨ p.parent? = none ∨
    ∃ q, p.parent? = some q ∧ m.member.regions.contains q = true)

/-- A member that fails, or that has neither the region nor the one above, where there is one
above. -/
def Refuses (m : LocalMember) (p : Path) : Prop :=
  m.behaviour.isFailing = true ∨ ∃ q, p.parent? = some q ∧
    m.member.regions.contains p = false ∧ m.member.regions.contains q = false

variable {m : LocalMember} {p : Path} {c : Command}

theorem refuses_iff_not_accepts : m.Refuses p ↔ ¬ m.Accepts p := by
  rw [Refuses, Accepts]
  cases m.behaviour.isFailing with
  | true => simp
  | false =>
    cases hp : p.parent? with
    | none => simp
    | some q => simp

theorem isSuccess_execute_iff (hskip : c.skipIfExists = true) :
    (m.execute c).1.isSuccess = true ↔ m.Accepts (.ofName c.targetPath) := by
  obtain ⟨member, behaviour⟩ := m
  have hdone : (member.execute c).1.status.isSuccess = true ↔
      member.regions.contains (.ofName c.targetPath) = true ∨
        (Path.ofName c.targetPath).parent? = none ∨
        ∃ q, (Path.ofName c.targetPath).parent? = some q ∧ member.regions.contains q = true := by
    rw [Member.isSuccess_execute_iff hskip]
    cases (Path.ofName c.targetPath).parent? <;> simp
  cases behaviour with
  | healthy => simpa [execute, Accepts, Behaviour.isFailing] using hdone
  | failing message =>
    simp [execute, Accepts, Behaviour.isFailing, Status.isSuccess, Status.failure]
  | slow delay => simpa [execute, Accepts, Behaviour.isFailing] using hdone

/-- A member that says that it did what it was asked has the region. -/
theorem contains_execute_of_isSuccess (h : (m.execute c).1.isSuccess = true) :
    (m.execute c).2.member.regions.contains (.ofName c.targetPath) = true := by
  obtain ⟨member, behaviour⟩ := m
  cases behaviour with
  | healthy => exact Member.contains_execute_of_isSuccess h
  | failing message => cases h
  | slow delay => exact Member.contains_execute_of_isSuccess h

end LocalMember

/-! ## Members in turn -/

/-- The time that members take one after the other. -/
def totalDelay (ms : List LocalMember) : Nat := (ms.map fun m => m.delay.nanoseconds).sum

theorem totalDelay_cons (m : LocalMember) (ms : List LocalMember) :
    totalDelay (m :: ms) = m.delay.nanoseconds + totalDelay ms := by
  rw [totalDelay, List.map_cons, List.sum_cons, totalDelay]

theorem totalDelay_of_healthy {ms : List LocalMember} (h : ∀ m ∈ ms, m.behaviour = .healthy) :
    totalDelay ms = 0 := by
  induction ms with
  | nil => rfl
  | cons m ms ih =>
    rw [List.forall_mem_cons] at h
    rw [totalDelay_cons, ih h.2, LocalMember.delay, h.1]

/-- What a command is reported to come to at each member of a list. -/
def words (c : Command) (ms : List LocalMember) : List (String × Status) :=
  ms.map fun m => (m.member.name, (m.execute c).1)

/-- With enough time for all members everyone carries the command out and reports. -/
theorem runMembers_of_le {c : Command} {left : Duration} {report : Report}
    {ms : List LocalMember} (h : totalDelay ms ≤ left.nanoseconds) :
    runMembers c left report ms =
      (some ((words c ms).foldl (fun r e => r.add e.1 e.2) report),
        ms.map fun m => (m.execute c).2) := by
  induction ms generalizing left report with
  | nil => rfl
  | cons m ms ih =>
    rw [totalDelay_cons] at h
    have hfirst : ¬ left.nanoseconds < m.delay.nanoseconds := by omega
    have hrest : totalDelay ms ≤
        (Duration.mk (left.nanoseconds - m.delay.nanoseconds)).nanoseconds := by
      show totalDelay ms ≤ left.nanoseconds - m.delay.nanoseconds
      omega
    rw [runMembers, if_neg hfirst]
    simp only [ih hrest]
    rfl

/-- With too little time for all members there is no report. -/
theorem runMembers_of_lt {c : Command} {left : Duration} {report : Report}
    {ms : List LocalMember} (h : left.nanoseconds < totalDelay ms) :
    (runMembers c left report ms).1 = none := by
  induction ms generalizing left report with
  | nil => exact absurd h (Nat.not_lt_zero _)
  | cons m ms ih =>
    rw [totalDelay_cons] at h
    rw [runMembers]
    split
    · rfl
    · -- The first member is in time, and the others together are not in what it leaves.
      apply ih
      show left.nanoseconds - m.delay.nanoseconds < totalDelay ms
      omega

section Engine

variable {s : LocalCluster} {limit : Duration} {group : String} {c : Command}

theorem inProcess_run_of_nil (h : s.members = []) :
    (Engine.inProcess.run limit group c s).1 = some (.error (.dispatch (.noMembers group))) := by
  rw [Engine.inProcess]
  simp only [h]

theorem inProcess_run_of_ne_nil (h : s.members ≠ []) :
    Engine.inProcess.run limit group c s =
      ((runMembers c limit .empty s.members).1.map .ok,
        ⟨(runMembers c limit .empty s.members).2, s.sent ++ [(group, c)]⟩) := by
  rw [Engine.inProcess]
  dsimp only
  split
  · rename_i hnil
    exact absurd hnil h
  · rfl

/-- A command with enough time for all members. -/
theorem inProcess_run_of_le (hne : s.members ≠ [])
    (h : totalDelay s.members ≤ limit.nanoseconds) :
    Engine.inProcess.run limit group c s =
      (some (.ok (.ofList (words c s.members))),
        ⟨s.members.map fun m => (m.execute c).2, s.sent ++ [(group, c)]⟩) := by
  rw [inProcess_run_of_ne_nil hne, runMembers_of_le h]
  rfl

/-- A command with too little time for all members. -/
theorem inProcess_run_of_lt (h : limit.nanoseconds < totalDelay s.members) :
    (Engine.inProcess.run limit group c s).1 = none := by
  have hne : s.members ≠ [] := by
    intro hnil
    rw [hnil] at h
    exact absurd h (Nat.not_lt_zero _)
  rw [inProcess_run_of_ne_nil hne, runMembers_of_lt h]
  rfl

end Engine

section Words

variable {c : Command} {ms : List LocalMember}

theorem isSuccessful_words (hskip : c.skipIfExists = true) :
    (Report.ofList (words c ms)).isSuccessful = true ↔
      ∀ m ∈ ms, m.Accepts (.ofName c.targetPath) := by
  rw [Report.isSuccessful_ofList, words, List.forall_mem_map]
  exact forall₂_congr fun m _ => LocalMember.isSuccess_execute_iff hskip

/-- The names that failed are carried by a member that refuses. -/
theorem exists_mem_failures_words (hskip : c.skipIfExists = true) {name : String} :
    (∃ status, (name, status) ∈ (Report.ofList (words c ms)).failures) ↔
      ∃ m ∈ ms, m.member.name = name ∧ m.Refuses (.ofName c.targetPath) := by
  simp only [Report.exists_mem_failures_ofList, words, List.mem_map, exists_exists_and_eq_and]
  refine exists_congr fun m => and_congr_right fun _ => and_congr_right fun _ => ?_
  rw [LocalMember.refuses_iff_not_accepts, ← LocalMember.isSuccess_execute_iff hskip,
    Bool.not_eq_true]

end Words

/-! ## Requests -/

namespace Locator

variable {m : Management} {s : LocalCluster} {r : Region.Request}

theorem createRegion_of_blank (h : Text.isBlank (afterLastSlash r.name.toList) = true) :
    (createRegion m Engine.inProcess r s).1 = .error (.invalid (.name r.name)) := by
  rw [createRegion, Region.Request.validate_of_blank h]

theorem createRegion_of_unknown (hname : Text.isBlank (afterLastSlash r.name.toList) = false)
    (htype : m.rejectUnknownType = true ∧ RegionType.ofTag? r.type = none) :
    (createRegion m Engine.inProcess r s).1 = .error (.invalid (.type r.type)) := by
  rw [createRegion, htype.1, Region.Request.validate_of_unknown hname htype.2]

section Valid

variable {config : Region.Config} (hvalid : r.validate m.rejectUnknownType = .ok config)

include hvalid

theorem createRegion_of_nil (h : s.members = []) :
    (createRegion m Engine.inProcess r s).1 = .error (.dispatch (.noMembers m.adminGroup)) := by
  rw [createRegion_of_validate hvalid, inProcess_run_of_nil h]
  rfl

theorem createRegion_of_late (h : m.timeout.nanoseconds < totalDelay s.members) :
    (createRegion m Engine.inProcess r s).1 =
      .error (.dispatch (.timeout m.adminGroup m.timeout)) := by
  rw [createRegion_of_validate hvalid, inProcess_run_of_lt h]
  rfl

/-- A request for which there is enough time comes to what the members say together. -/
theorem createRegion_of_le (hne : s.members ≠ [])
    (h : totalDelay s.members ≤ m.timeout.nanoseconds) :
    createRegion m Engine.inProcess r s =
      (requireSuccess r.name
          (.ok (.ofList (words (.ofRequest m.adminGroup r config) s.members))),
        ⟨s.members.map fun lm => (lm.execute (.ofRequest m.adminGroup r config)).2,
          s.sent ++ [(m.adminGroup, .ofRequest m.adminGroup r config)]⟩) := by
  rw [createRegion_of_validate hvalid, inProcess_run_of_le hne h]
  rfl

theorem createRegion_of_accepts (hne : s.members ≠ [])
    (h : totalDelay s.members ≤ m.timeout.nanoseconds)
    (hall : ∀ lm ∈ s.members, lm.Accepts (.ofName r.name)) :
    ∃ report, (createRegion m Engine.inProcess r s).1 = .ok report := by
  have hsuccess := (isSuccessful_words (c := .ofRequest m.adminGroup r config) rfl).2 hall
  rw [createRegion_of_le hvalid hne h, requireSuccess_of_successful hsuccess]
  exact ⟨_, rfl⟩

theorem createRegion_of_refuses (hne : s.members ≠ [])
    (h : totalDelay s.members ≤ m.timeout.nanoseconds)
    (hsome : ∃ lm ∈ s.members, lm.Refuses (.ofName r.name)) :
    ∃ report, (createRegion m Engine.inProcess r s).1 =
        .error (.dispatch (.memberExecution r.name report)) ∧
      ∀ name, (∃ status, (name, status) ∈ report.failures) ↔
        ∃ lm ∈ s.members, lm.member.name = name ∧ lm.Refuses (.ofName r.name) := by
  obtain ⟨lm, hlm, hrefuses⟩ := hsome
  have hfailed : (Report.ofList
      (words (.ofRequest m.adminGroup r config) s.members)).isSuccessful = false := by
    rw [Bool.eq_false_iff]
    intro hsuccess
    exact LocalMember.refuses_iff_not_accepts.1 hrefuses
      ((isSuccessful_words rfl).1 hsuccess lm hlm)
  rw [createRegion_of_le hvalid hne h, requireSuccess_of_failed hfailed]
  exact ⟨_, rfl, fun name => exists_mem_failures_words rfl⟩

end Valid

/-- **The outcome of a request.**  A name whose last segment is blank is refused, and else an
unknown type where the settings say so.  Then a list without members is reported, and then a list of
members that together take longer than the time limit.  Otherwise the request succeeds exactly when
every member accepts it.  If not, the error has the name as it was given, and the names that failed
are those carried by a member that refuses. -/
theorem createRegion_inProcess (m : Management) (s : LocalCluster) (r : Region.Request) :
    let outcome := (createRegion m Engine.inProcess r s).1
    let p := Path.ofName r.name
    let blank := Text.isBlank (afterLastSlash r.name.toList) = true
    let unknown := m.rejectUnknownType = true ∧ RegionType.ofTag? r.type = none
    let late := m.timeout.nanoseconds < (s.members.map fun lm => lm.delay.nanoseconds).sum
    (outcome = .error (.invalid (.name r.name)) ↔ blank) ∧
    (outcome = .error (.invalid (.type r.type)) ↔ ¬ blank ∧ unknown) ∧
    (outcome = .error (.dispatch (.noMembers m.adminGroup)) ↔
      ¬ blank ∧ ¬ unknown ∧ s.members = []) ∧
    (outcome = .error (.dispatch (.timeout m.adminGroup m.timeout)) ↔
      ¬ blank ∧ ¬ unknown ∧ s.members ≠ [] ∧ late) ∧
    ((∃ report, outcome = .ok report) ↔
      ¬ blank ∧ ¬ unknown ∧ s.members ≠ [] ∧ ¬ late ∧ ∀ lm ∈ s.members, lm.Accepts p) ∧
    ((∃ path report, outcome = .error (.dispatch (.memberExecution path report))) ↔
      ¬ blank ∧ ¬ unknown ∧ s.members ≠ [] ∧ ¬ late ∧ ∃ lm ∈ s.members, ¬ lm.Accepts p) ∧
    ∀ path report, outcome = .error (.dispatch (.memberExecution path report)) →
      path = r.name ∧ ∀ name, (∃ status, (name, status) ∈ report.failures) ↔
        ∃ lm ∈ s.members, lm.member.name = name ∧ lm.Refuses p := by
  intro outcome p blank unknown late
  -- The stages are gone through in order, and at each the outcome is one error or another report.
  by_cases hblank : blank
  · have houtcome : outcome = .error (.invalid (.name r.name)) := createRegion_of_blank hblank
    simp [houtcome, hblank]
  have hname : Text.isBlank (afterLastSlash r.name.toList) = false := Bool.eq_false_iff.2 hblank
  by_cases hunknown : unknown
  · have houtcome : outcome = .error (.invalid (.type r.type)) :=
      createRegion_of_unknown hname hunknown
    simp [houtcome, hblank, hunknown]
  have hvalid := Region.Request.validate_of_known hname hunknown
  by_cases hnil : s.members = []
  · have houtcome : outcome = .error (.dispatch (.noMembers m.adminGroup)) :=
      createRegion_of_nil hvalid hnil
    simp [houtcome, hblank, hunknown, hnil]
  by_cases hlate : late
  · have houtcome : outcome = .error (.dispatch (.timeout m.adminGroup m.timeout)) :=
      createRegion_of_late hvalid hlate
    simp [houtcome, hblank, hunknown, hnil, hlate]
  have htime : totalDelay s.members ≤ m.timeout.nanoseconds := Nat.not_lt.1 hlate
  by_cases hall : ∀ lm ∈ s.members, lm.Accepts p
  · obtain ⟨report, houtcome⟩ : ∃ report, outcome = .ok report :=
      createRegion_of_accepts hvalid hnil htime hall
    simpa [houtcome, hblank, hunknown, hnil, hlate] using hall
  · -- Somebody refuses, and whoever does is among the names that failed.
    have hsome : ∃ lm ∈ s.members, ¬ lm.Accepts p := by simpa using hall
    obtain ⟨report, houtcome, hfailed⟩ := createRegion_of_refuses hvalid hnil htime
      (by simpa only [LocalMember.refuses_iff_not_accepts] using hsome)
    have houtcome : outcome = .error (.dispatch (.memberExecution r.name report)) := houtcome
    refine ⟨by simp [houtcome, hblank], by simp [houtcome, hunknown], by simp [houtcome, hnil],
      by simp [houtcome, hlate], by simp [houtcome, hall], ?_, ?_⟩
    · exact iff_of_true ⟨_, _, houtcome⟩ ⟨hblank, hunknown, hnil, hlate, hsome⟩
    · intro path report' h
      rw [houtcome] at h
      cases h
      exact ⟨rfl, hfailed⟩

end Locator

end CacheCluster
