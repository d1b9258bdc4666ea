import CacheCluster.Proofs.Engine.Delivery
import CacheCluster.Proofs.Engine.Outcome

/-!
# The engine over HTTP refines the one in one process

A cluster whose members are all live is mirrored by a list of healthy members in one process.  Both
engines make the same of every command that is not too long for the members to read, and keep the
mirror.  A command that is too long goes no further than to the members, which all refuse it.

## Main definitions

* `Mirrors` : a list in one process has the members behind the hosts.

## Main results

* `Mirrors.run` : one command, by either engine.
* `Mirrors.createRegions` : the requests of a run.
* `Locator.http_refines_inProcess` : the same for a roster of a file, and the commands that are too
  long.
-/

namespace CacheCluster

open Locator (command? createRegion createRegions)

variable {σ : Type}

/-- The hosts behind members are live, under the names that the roster gives them, and a list in one
process has one healthy member for each of them, in the same order and with the same regions. -/
def Mirrors (host? : σ → NodeId → Option Host) (members : List (NodeId × Node)) (s : σ)
    (cluster : LocalCluster) : Prop :=
  ∃ live : NodeId → Member,
    (∀ e ∈ members, host? s e.1 = some (.member (live e.1)) ∧ (live e.1).name = reportName e) ∧
    cluster.members = members.map fun e => ⟨live e.1, .healthy⟩

/-! ## Healthy members in one process -/

/-- The report of healthy members, which is made of their words. -/
theorem inProcess_run_healthy (live : NodeId → Member) (limit : Duration) (group : String)
    (c : Command) {l : List (NodeId × Node)} (hl : l ≠ []) (sent : List (String × Command)) :
    ∃ sent', Engine.inProcess.run limit group c ⟨l.map fun e => ⟨live e.1, .healthy⟩, sent⟩ =
      (some (.ok (.ofList (l.map fun e => ((live e.1).name, ((live e.1).execute c).1.status)))),
        ⟨l.map fun e => ⟨((live e.1).execute c).2, .healthy⟩, sent'⟩) := by
  have hne : (l.map fun e => LocalMember.mk (live e.1) .healthy) ≠ [] := mt List.map_eq_nil_iff.1 hl
  have htime : totalDelay (l.map fun e => LocalMember.mk (live e.1) .healthy) = 0 := by
    apply totalDelay_of_healthy
    rw [List.forall_mem_map]
    exact fun _ _ => rfl
  refine ⟨sent ++ [(group, c)], ?_⟩
  rw [inProcess_run_of_le hne (htime.trans_le (Nat.zero_le _)), words, List.map_map, List.map_map]
  rfl

/-! ## Hosts behind members -/

/-- Calls to live members. -/
theorem Transport.Reaches.calls_live {t : Transport σ} {host? : σ → NodeId → Option Host}
    {l : List (NodeId × Node)} (hr : t.Reaches host? l) (hids : (l.map Prod.fst).Nodup)
    {live : NodeId → Member} {s : σ} (hlive : ∀ e ∈ l, host? s e.1 = some (.member (live e.1)))
    (c : Command) :
    (callMembers t c l s).1 = some (l.map fun e => (reportName e,
        if Http.bodyLimit < c.toJson.render.length then tooLongStatus
        else ((live e.1).execute c).1.status)) ∧
      ∀ id, host? (callMembers t c l s).2 id =
        if id ∈ l.map Prod.fst then some ((Host.member (live id)).after c) else host? s id := by
  obtain ⟨hwords, hstate⟩ := hr.calls c (fun id => .member (live id)) l s (fun e he => he) hids
    fun e he => ⟨hlive e he, trivial⟩
  refine ⟨hwords.trans ?_, hstate⟩
  apply collect_eq_some
  intro e he
  rfl

/-! ## Refusals -/

section Refusals

variable {l : List (NodeId × Node)}

/-- When all members refuse a command, their report has the same status for each of them. -/
theorem get?_tooLong (hl : (l.map reportName).Nodup) {name : String} {status : Status} :
    (Report.ofList (l.map fun e => (reportName e, tooLongStatus))).statuses.get? name =
      some status ↔ (∃ e ∈ l, reportName e = name) ∧ status = tooLongStatus := by
  rw [Report.get?_ofList (nodup_keys_words hl), List.mem_map]
  constructor
  · rintro ⟨e, he, hpair⟩
    obtain ⟨rfl, rfl⟩ := Prod.mk.inj hpair
    exact ⟨⟨e, he, rfl⟩, rfl⟩
  · rintro ⟨⟨e, he, rfl⟩, rfl⟩
    exact ⟨e, he, rfl⟩

theorem isSuccessful_tooLong (hne : l ≠ []) :
    (Report.ofList (l.map fun e => (reportName e, tooLongStatus))).isSuccessful = false := by
  obtain ⟨e, he⟩ := List.exists_mem_of_ne_nil _ hne
  rw [Bool.eq_false_iff]
  intro hsuccess
  have hone := Report.isSuccessful_ofList.1 hsuccess _ (List.mem_map_of_mem he)
  cases hone

end Refusals

namespace Mirrors

variable {r : Roster} {t : Transport σ} {host? : σ → NodeId → Option Host} {s : σ}
  {cluster : LocalCluster}

/-- **One command.**  Both engines make the same of a command that is not too long, and the members
stay alike. -/
theorem run {group : String} (hreach : t.Reaches host? (r.groupMembers group).entries)
    (h : Mirrors host? (r.groupMembers group).entries s cluster) (limit : Duration) {c : Command}
    (hc : c.toJson.render.length ≤ Http.bodyLimit) :
    ((Engine.http r t).run limit group c s).1 = (Engine.inProcess.run limit group c cluster).1 ∧
      Mirrors host? (r.groupMembers group).entries ((Engine.http r t).run limit group c s).2
        (Engine.inProcess.run limit group c cluster).2 := by
  obtain ⟨live, hlive, hms⟩ := h
  obtain ⟨ms, sent⟩ := cluster
  obtain rfl : ms = _ := hms
  by_cases hnil : (r.groupMembers group).entries = []
  · rw [http_run_of_nil hnil, hnil]
    exact ⟨rfl, live, by simp, rfl⟩
  · obtain ⟨hwords, hstate⟩ := hreach.calls_live (r.nodup_groupMembers group)
      (fun e he => (hlive e he).1) c
    obtain ⟨sent', hlocal⟩ := inProcess_run_healthy live limit group c hnil sent
    rw [http_run_of_ne_nil hnil, hlocal, hwords]
    constructor
    · -- The words go under the names of the roster here, and under those of the members there.
      have hsame : ((r.groupMembers group).entries.map fun e => (reportName e,
          if Http.bodyLimit < c.toJson.render.length then tooLongStatus
          else ((live e.1).execute c).1.status)) =
          (r.groupMembers group).entries.map fun e =>
            ((live e.1).name, ((live e.1).execute c).1.status) := by
        apply List.map_congr_left
        intro e he
        rw [if_neg (Nat.not_lt.2 hc), (hlive e he).2]
      rw [hsame]
      rfl
    · refine ⟨fun id => ((live id).execute c).2, ?_, rfl⟩
      intro e he
      refine ⟨?_, (hlive e he).2⟩
      rw [hstate, if_pos (List.mem_map_of_mem he), Host.after, if_neg (Nat.not_lt.2 hc)]

/-- One request. -/
theorem createRegion (hreach : t.Reaches host? (r.groupMembers r.management.adminGroup).entries)
    (h : Mirrors host? (r.groupMembers r.management.adminGroup).entries s cluster)
    {req : Region.Request} (hreq : ∀ c, command? r.management req = some c →
      c.toJson.render.length ≤ Http.bodyLimit) :
    (createRegion r.management (Engine.http r t) req s).1 =
        (createRegion r.management Engine.inProcess req cluster).1 ∧
      Mirrors host? (r.groupMembers r.management.adminGroup).entries
        (createRegion r.management (Engine.http r t) req s).2
        (createRegion r.management Engine.inProcess req cluster).2 := by
  cases hv : req.validate r.management.rejectUnknownType with
  | error cause =>
    rw [Locator.createRegion, Locator.createRegion, hv]
    exact ⟨rfl, h⟩
  | ok config =>
    obtain ⟨houtcome, hmirror⟩ := h.run hreach r.management.timeout
      (hreq _ (Locator.command?_of_validate hv))
    rw [Locator.createRegion_of_validate hv, Locator.createRegion_of_validate hv, houtcome]
    exact ⟨rfl, hmirror⟩

/-- **Runs.**  Requests one after the other have the same outcomes with both engines, and leave the
members alike. -/
theorem createRegions (hreach : t.Reaches host? (r.groupMembers r.management.adminGroup).entries)
    (h : Mirrors host? (r.groupMembers r.management.adminGroup).entries s cluster)
    {rs : List Region.Request} (hrs : ∀ req ∈ rs, ∀ c, command? r.management req = some c →
      c.toJson.render.length ≤ Http.bodyLimit) :
    (createRegions r.management (Engine.http r t) rs s).1 =
        (createRegions r.management Engine.inProcess rs cluster).1 ∧
      Mirrors host? (r.groupMembers r.management.adminGroup).entries
        (createRegions r.management (Engine.http r t) rs s).2
        (createRegions r.management Engine.inProcess rs cluster).2 := by
  induction rs generalizing s cluster with
  | nil => exact ⟨rfl, h⟩
  | cons req rs ih =>
    obtain ⟨houtcome, hstep⟩ := h.createRegion hreach (hrs req (List.mem_cons_self ..))
    -- The members are alike again when the next request comes.
    obtain ⟨houtcomes, hend⟩ := ih hstep fun req hreq => hrs req (List.mem_cons_of_mem _ hreq)
    refine ⟨?_, hend⟩
    rw [Locator.createRegions, Locator.createRegions]
    dsimp only
    rw [houtcome, houtcomes]

/-- A command that is too long for the members to read is refused by each of them, and none of them
carries it out. -/
theorem createRegion_of_long {thisId : NodeId} {file : ClusterFile}
    (hfile : Roster.ofFile thisId file = .ok r)
    (hreach : t.Reaches host? (r.groupMembers r.management.adminGroup).entries)
    (h : Mirrors host? (r.groupMembers r.management.adminGroup).entries s cluster)
    (hne : (r.groupMembers r.management.adminGroup).entries ≠ []) {req : Region.Request}
    {c : Command} (hreq : command? r.management req = some c)
    (hc : Http.bodyLimit < c.toJson.render.length) :
    ∃ report, (Locator.createRegion r.management (Engine.http r t) req s).1 =
        .error (.dispatch (.memberExecution req.name report)) ∧
      (∀ name status, report.statuses.get? name = some status ↔
        (∃ e ∈ (r.groupMembers r.management.adminGroup).entries, reportName e = name) ∧
          status = tooLongStatus) ∧
      ∀ id, host? (Locator.createRegion r.management (Engine.http r t) req s).2 id =
        host? s id := by
  obtain ⟨live, hlive, -⟩ := h
  obtain ⟨config, hv, rfl⟩ := Locator.validate_of_command? hreq
  obtain ⟨hwords, hstate⟩ := hreach.calls_live (r.nodup_groupMembers r.management.adminGroup)
    (fun e he => (hlive e he).1) (.ofRequest r.management.adminGroup req config)
  simp only [if_pos hc] at hwords
  have hnames := Roster.nodup_memberNames hfile r.management.adminGroup
  rw [Locator.createRegion_of_validate hv, http_run_of_ne_nil hne, hwords]
  refine ⟨_, requireSuccess_of_failed (isSuccessful_tooLong hne) req.name,
    fun name status => get?_tooLong hnames, ?_⟩
  -- Whoever refuses a command is the same member after it.
  intro id
  rw [hstate]
  split
  · rename_i hid
    obtain ⟨e, he, rfl⟩ := List.mem_map.1 hid
    rw [Host.after, if_pos hc, (hlive e he).1]
  · rfl

end Mirrors

/-- **Refinement.**  Let the members of the administered group all be live, and let a list in one
process mirror them.  Then requests have the same outcomes over HTTP as in one process, and leave
the same regions on all members, as long as every command can be read.  A command that is too long
for that fails on every member with the same words, and changes none of them. -/
theorem Locator.http_refines_inProcess {thisId : NodeId} {file : ClusterFile} {r : Roster}
    (hfile : Roster.ofFile thisId file = .ok r) {t : Transport σ} {host? : σ → NodeId → Option Host}
    (hreach : t.Reaches host? (r.groupMembers r.management.adminGroup).entries) {s : σ}
    {cluster : LocalCluster}
    (hmirror : Mirrors host? (r.groupMembers r.management.adminGroup).entries s cluster) :
    (∀ rs : List Region.Request,
      (∀ req ∈ rs, ∀ c, command? r.management req = some c →
        c.toJson.render.length ≤ Http.bodyLimit) →
      (createRegions r.management (Engine.http r t) rs s).1 =
          (createRegions r.management Engine.inProcess rs cluster).1 ∧
        Mirrors host? (r.groupMembers r.management.adminGroup).entries
          (createRegions r.management (Engine.http r t) rs s).2
          (createRegions r.management Engine.inProcess rs cluster).2) ∧
    ∀ (req : Region.Request) (c : Command), command? r.management req = some c →
      Http.bodyLimit < c.toJson.render.length →
      (r.groupMembers r.management.adminGroup).entries ≠ [] →
      ∃ report, (createRegion r.management (Engine.http r t) req s).1 =
          .error (.dispatch (.memberExecution req.name report)) ∧
        (∀ name status, report.statuses.get? name = some status ↔
          (∃ e ∈ (r.groupMembers r.management.adminGroup).entries, reportName e = name) ∧
            status = .failure ("member replied 413 Payload Too Large: " ++
              "Failed to buffer the request body: length limit exceeded")) ∧
        ∀ id, host? (createRegion r.management (Engine.http r t) req s).2 id = host? s id := by
  constructor
  · intro rs hrs
    exact hmirror.createRegions hreach hrs
  · intro req c hreq hc hne
    exact hmirror.createRegion_of_long hfile hreach hne hreq hc

theorem mirrors_pairNetwork :
    Mirrors (Network.behind? pairFile.nodes) (pairRoster.groupMembers "cluster").entries pairNetwork
      (.new [.new "node-1" .healthy, .new "node-2" .healthy]) := by
  refine ⟨fun id => .new (if id = 1 then "node-1" else "node-2"), ?_, ?_⟩
  · rw [groupMembers_pairRoster]
    simp only [List.forall_mem_cons]
    refine ⟨⟨?_, ?_⟩, ⟨?_, ?_⟩, ?_⟩ <;> decide +kernel
  · rw [groupMembers_pairRoster]
    rfl

/-- A region and one below it, asked for on two members on one machine. -/
theorem Locator.http_refines_inProcess_pair :
    (createRegions .default (Engine.http pairRoster .network)
        [⟨"/a", "REPLICATE"⟩, ⟨"/a/b", "PARTITION"⟩] pairNetwork).1 =
      (createRegions .default Engine.inProcess [⟨"/a", "REPLICATE"⟩, ⟨"/a/b", "PARTITION"⟩]
        (.new [.new "node-1" .healthy, .new "node-2" .healthy])).1 := by
  have hshort : ∀ req ∈ [Region.Request.mk "/a" "REPLICATE", ⟨"/a/b", "PARTITION"⟩],
      (command? .default req).all (·.toJson.render.length ≤ Http.bodyLimit) = true := by
    decide +kernel
  refine ((http_refines_inProcess ofFile_pairFile reaches_pairRoster mirrors_pairNetwork).1 _
    fun req hreq c hc => ?_).1
  have hall := hshort req hreq
  rw [show command? .default req = some c from hc] at hall
  simpa using hall

end CacheCluster
