import CacheCluster.Proofs.Engine.Delivery
import CacheCluster.Proofs.Report

/-!
# Replies in the order of their arrival

The calls to the members of a group are under way at the same time, and their replies arrive in any
order.  Each reply is put down for the member that was called, so that in the end the report has the
word of every member, whatever the order was and whatever name a reply bears.

## Main definitions

* `Arrival`, `Arrival.status?` : what came of the call to a member, and what it counts as.
* `Transport.deliveries` : what comes of the calls to several members.
* `heardAfter`, `Roster.gather` : what was heard of each member, and what is made of it.

## Main results

* `heardAfter_of_mem` : what was heard of a member is what came of its own call.
* `http_run_eq_gather` : the outcome of a command is gathered from what came of the calls.
* `http_arrivals` : the report of a group, for every order in which the replies arrive.
-/

namespace CacheCluster

variable {σ : Type}

/-! ## What comes of a call -/

/-- The transport on which everything that is sent comes to the same. -/
def Transport.delivering (others : Text.OtherCharsets) (d : Delivery) : Transport Unit :=
  ⟨fun _ _ s => (d, s), others⟩

/-- What came of the call to a member. -/
structure Arrival where
  member : NodeId × Node
  delivery : Delivery

namespace Arrival

/-- What is said of the member that was called, unless it never answers. -/
def status? (a : Arrival) (others : Text.OtherCharsets) (c : Command) : Option Status :=
  (callMember (.delivering others a.delivery) a.member.2.httpUrl c ()).1

/-- The call came back with the reply of a member that did what it was asked. -/
def IsSuccess (a : Arrival) : Prop :=
  ∃ response reply, a.delivery = .answered response ∧
    Http.isSuccessStatus response.status = true ∧
    Json.whole MemberReply.reader response.body = .ok reply ∧ reply.status.isSuccess = true

end Arrival

namespace Transport

/-- What comes of the call to a node, and the state after it.  Nothing is sent where the address of
the node is none. -/
def deliver (t : Transport σ) (n : Node) (c : Command) (s : σ) : Delivery × σ :=
  match Http.Url.parse (n.httpUrl ++ createRegionPath) with
  | .error e => (.failed e.message, s)
  | .ok url => if url.isSendable then t.post url c.toJson.render s else (.failed url.text, s)

/-- What comes of the calls to the members of a list, and the state after them. -/
def deliveries (t : Transport σ) (c : Command) : List (NodeId × Node) → σ → List Arrival × σ
  | [], s => ([], s)
  | e :: rest, s =>
    let (delivery, s') := t.deliver e.2 c s
    let (arrivals, s'') := t.deliveries c rest s'
    (⟨e, delivery⟩ :: arrivals, s'')

variable {t : Transport σ} {c : Command}

theorem callMember_eq (t : Transport σ) (e : NodeId × Node) (c : Command) (s : σ) :
    callMember t e.2.httpUrl c s =
      ((⟨e, (t.deliver e.2 c s).1⟩ : Arrival).status? t.charsets c, (t.deliver e.2 c s).2) := by
  rw [Arrival.status?, deliver, callMember, callMember]
  cases Http.Url.parse (e.2.httpUrl ++ createRegionPath) with
  | error e => rfl
  | ok url =>
    dsimp only
    -- What is sent to a usable address comes to the same on both sides.
    by_cases hsend : url.isSendable = true
    · rw [if_pos hsend, hsend]
      simp only [delivering, Bool.not_true, Bool.false_eq_true, if_false]
      cases (t.post url c.toJson.render s).1 <;> rfl
    · rw [if_neg hsend, Bool.eq_false_iff.2 hsend]
      rfl

/-- A call counts as a success just when the member replied that it is one. -/
theorem isSuccess_deliver {e : NodeId × Node} {s : σ} :
    (∃ status, (⟨e, (t.deliver e.2 c s).1⟩ : Arrival).status? t.charsets c = some status ∧
      status.isSuccess = true) ↔ (⟨e, (t.deliver e.2 c s).1⟩ : Arrival).IsSuccess := by
  rw [Arrival.IsSuccess, Arrival.status?, deliver, callMember]
  -- An address that is none is a failure on both sides.
  cases Http.Url.parse (e.2.httpUrl ++ createRegionPath) with
  | error e => simp [Status.isSuccess, Status.failure]
  | ok url =>
    dsimp only
    by_cases hsend : url.isSendable = true
    · rw [if_pos hsend, hsend]
      simp only [delivering, Bool.not_true, Bool.false_eq_true, if_false]
      cases (t.post url c.toJson.render s).1 with
      | answered response => simp [isSuccess_statusOfResponse]
      | brokenOff response reason => simp [isSuccess_statusOfBroken]
      | failed reason => simp [Status.isSuccess, Status.failure]
      | never => simp
    · rw [if_neg hsend, Bool.eq_false_iff.2 hsend]
      simp [Status.isSuccess, Status.failure]

theorem deliveries_members (t : Transport σ) (c : Command) (l : List (NodeId × Node)) (s : σ) :
    (t.deliveries c l s).1.map Arrival.member = l := by
  induction l generalizing s with
  | nil => rfl
  | cons e rest ih =>
    rw [deliveries, List.map_cons]
    dsimp only
    rw [ih]

theorem isSuccess_of_mem_deliveries {l : List (NodeId × Node)} {s : σ} {a : Arrival}
    (ha : a ∈ (t.deliveries c l s).1) :
    (∃ status, a.status? t.charsets c = some status ∧ status.isSuccess = true) ↔
      a.IsSuccess := by
  induction l generalizing s with
  | nil => cases ha
  | cons e rest ih =>
    rw [deliveries] at ha
    rcases List.mem_cons.1 ha with rfl | ha
    · exact isSuccess_deliver
    · exact ih ha

end Transport

/-! ## What was heard -/

/-- What was heard of each member after some arrivals. -/
def heardAfter (others : Text.OtherCharsets) (c : Command) (arrivals : List Arrival) :
    NodeId → Option Status :=
  arrivals.foldl (fun heard a => Function.update heard a.member.1 (a.status? others c))
    fun _ => none

theorem heardAfter_snoc (others : Text.OtherCharsets) (c : Command) (arrivals : List Arrival)
    (a : Arrival) :
    heardAfter others c (arrivals ++ [a]) =
      Function.update (heardAfter others c arrivals) a.member.1 (a.status? others c) := by
  rw [heardAfter, List.foldl_append]
  rfl

/-- What was heard of a member is what came of its own call, wherever this came in between. -/
theorem heardAfter_of_mem {others : Text.OtherCharsets} {c : Command} {arrivals : List Arrival}
    (hids : (arrivals.map fun a => a.member.1).Nodup) {a : Arrival} (ha : a ∈ arrivals) :
    heardAfter others c arrivals a.member.1 = a.status? others c := by
  induction arrivals using List.reverseRecOn with
  | nil => cases ha
  | append_singleton arrivals b ih =>
    rw [List.map_append, List.nodup_append] at hids
    rw [heardAfter_snoc]
    rcases List.mem_append.1 ha with ha | ha
    · -- The last arrival is that of another member.
      have hne : a.member.1 ≠ b.member.1 :=
        hids.2.2 _ (List.mem_map_of_mem ha) _ (List.mem_singleton_self _)
      rw [Function.update_of_ne hne, ih hids.1 ha]
    · rw [List.mem_singleton.1 ha, Function.update_self]

/-- What a locator makes of what was heard of the members of a group; nothing as long as one of them
was not heard of. -/
def Roster.gather (r : Roster) (group : String) (heard : NodeId → Option Status) :
    Option Outcome :=
  match (r.groupMembers group).entries with
  | [] => some (.error (.dispatch (.noMembers group)))
  | members => (collect (fun e => heard e.1) members).map fun words => .ok (.ofList words)

namespace Roster

variable {r : Roster} {group : String} {heard : NodeId → Option Status}

theorem gather_of_nil (h : (r.groupMembers group).entries = []) :
    r.gather group heard = some (.error (.dispatch (.noMembers group))) := by
  rw [gather]
  simp only [h]

theorem gather_of_ne_nil (h : (r.groupMembers group).entries ≠ []) :
    r.gather group heard = (collect (fun e => heard e.1) (r.groupMembers group).entries).map
      fun words => .ok (.ofList words) := by
  rw [gather]
  split
  · rename_i hnil
    exact absurd hnil h
  · rfl

/-- Once every member was heard of, there is a report of what they said. -/
theorem gather_of_heard (h : (r.groupMembers group).entries ≠ []) {said : NodeId × Node → Status}
    (hsaid : ∀ e ∈ (r.groupMembers group).entries, heard e.1 = some (said e)) :
    r.gather group heard = some (.ok (.ofList
      ((r.groupMembers group).entries.map fun e => (reportName e, said e)))) := by
  rw [gather_of_ne_nil h, collect_eq_some hsaid]
  rfl

/-- Before, there is nothing. -/
theorem gather_of_silent (h : (r.groupMembers group).entries ≠ []) {e : NodeId × Node}
    (he : e ∈ (r.groupMembers group).entries) (hnone : heard e.1 = none) :
    r.gather group heard = none := by
  rw [gather_of_ne_nil h, collect_eq_none he hnone]
  rfl

theorem gather_eq_ok_iff {report : Report} :
    r.gather group heard = some (.ok report) ↔ (r.groupMembers group).entries ≠ [] ∧
      ∃ said : NodeId × Node → Status,
        (∀ e ∈ (r.groupMembers group).entries, heard e.1 = some (said e)) ∧
        .ofList ((r.groupMembers group).entries.map fun e => (reportName e, said e)) = report := by
  constructor
  · intro h
    have hne : (r.groupMembers group).entries ≠ [] := by
      intro hnil
      rw [gather_of_nil hnil] at h
      cases h
    have hheard : ∀ e ∈ (r.groupMembers group).entries,
        heard e.1 = some ((heard e.1).getD default) := by
      intro e he
      cases hword : heard e.1 with
      | none =>
        rw [gather_of_silent hne he hword] at h
        cases h
      | some status => rfl
    rw [gather_of_heard hne hheard] at h
    exact ⟨hne, _, hheard, Except.ok.inj (Option.some.inj h)⟩
  · rintro ⟨hne, said, hsaid, rfl⟩
    exact gather_of_heard hne hsaid

end Roster

/-! ## The engine -/

/-- What comes of the calls to the members of a group. -/
def Roster.calls (r : Roster) (group : String) (t : Transport σ) (c : Command) (s : σ) :
    List Arrival :=
  (t.deliveries c (r.groupMembers group).entries s).1

section

variable {r : Roster} {group : String} {t : Transport σ} {limit : Duration} {c : Command} {s : σ}

/-- Every member is called once. -/
theorem calls_members (r : Roster) (group : String) (t : Transport σ) (c : Command) (s : σ) :
    (r.calls group t c s).map Arrival.member = (r.groupMembers group).entries :=
  t.deliveries_members c _ s

theorem nodup_calls : ((r.calls group t c s).map fun a => a.member.1).Nodup := by
  have hids := r.nodup_groupMembers group
  rw [← calls_members r group t c s, List.map_map] at hids
  exact hids

/-- The calls to members bring back what was put down for each of them. -/
theorem callMembers_eq_collect {l : List (NodeId × Node)} (word : NodeId × Node → Option Status)
    (h : ∀ a ∈ (t.deliveries c l s).1, word a.member = a.status? t.charsets c) :
    (callMembers t c l s).1 = collect word l := by
  induction l generalizing s with
  | nil => rfl
  | cons e rest ih =>
    rw [Transport.deliveries] at h
    have hfirst := h _ (List.mem_cons_self ..)
    have hrest := ih fun a ha => h a (List.mem_cons_of_mem _ ha)
    rw [callMembers, collect, hfirst, ← hrest, Transport.callMember_eq]
    rfl

/-- The outcome of a command is gathered from what came of the calls, in whatever order it came. -/
theorem http_run_eq_gather {arrivals : List Arrival} (h : arrivals.Perm (r.calls group t c s)) :
    ((Engine.http r t).run limit group c s).1 =
      r.gather group (heardAfter t.charsets c arrivals) := by
  by_cases hne : (r.groupMembers group).entries = []
  · rw [http_run_of_nil hne, Roster.gather_of_nil hne]
  · have hids := (h.map fun a => a.member.1).nodup_iff.2 nodup_calls
    have hheard : ∀ a ∈ r.calls group t c s,
        heardAfter t.charsets c arrivals a.member.1 = a.status? t.charsets c := by
      intro a ha
      exact heardAfter_of_mem hids (h.mem_iff.2 ha)
    rw [http_run_of_ne_nil hne, Roster.gather_of_ne_nil hne,
      callMembers_eq_collect (fun e => heardAfter t.charsets c arrivals e.1) hheard]

/-- If a call is never answered, there is no outcome. -/
theorem http_run_of_never (hne : (r.groupMembers group).entries ≠ []) {a : Arrival}
    (ha : a ∈ r.calls group t c s) (hnone : a.status? t.charsets c = none) :
    ((Engine.http r t).run limit group c s).1 = none := by
  have hmember : a.member ∈ (r.groupMembers group).entries := by
    rw [← calls_members r group t c s]
    exact List.mem_map_of_mem ha
  rw [http_run_eq_gather (.refl _)]
  exact Roster.gather_of_silent hne hmember ((heardAfter_of_mem nodup_calls ha).trans hnone)

/-- What is put down for the member that was called. -/
def Arrival.word (others : Text.OtherCharsets) (c : Command) (a : Arrival) : String × Status :=
  (reportName a.member, (a.status? others c).getD default)

/-- The report of what came of the calls to the members of a group. -/
def Roster.report (r : Roster) (group : String) (t : Transport σ) (c : Command) (s : σ) : Report :=
  .ofList ((r.calls group t c s).map (Arrival.word t.charsets c))

theorem http_run_of_answered (hne : (r.groupMembers group).entries ≠ [])
    (h : ∀ a ∈ r.calls group t c s, a.status? t.charsets c ≠ none) :
    ((Engine.http r t).run limit group c s).1 = some (.ok (r.report group t c s)) := by
  have hheard : ∀ a ∈ r.calls group t c s,
      heardAfter t.charsets c (r.calls group t c s) a.member.1 = a.status? t.charsets c := by
    intro a ha
    exact heardAfter_of_mem nodup_calls ha
  have hsaid : ∀ e ∈ (r.groupMembers group).entries,
      heardAfter t.charsets c (r.calls group t c s) e.1 =
        some ((heardAfter t.charsets c (r.calls group t c s) e.1).getD default) := by
    intro e he
    rw [← calls_members r group t c s] at he
    obtain ⟨a, ha, rfl⟩ := List.mem_map.1 he
    obtain ⟨status, hstatus⟩ := Option.ne_none_iff_exists'.1 (h a ha)
    rw [hheard a ha, hstatus, Option.getD_some]
  have hwords : (r.groupMembers group).entries.map (fun e =>
      (reportName e, (heardAfter t.charsets c (r.calls group t c s) e.1).getD default)) =
        (r.calls group t c s).map (Arrival.word t.charsets c) := by
    rw [← calls_members r group t c s, List.map_map]
    apply List.map_congr_left
    intro a ha
    rw [Function.comp_apply, hheard a ha, Arrival.word]
  rw [http_run_eq_gather (.refl _), Roster.gather_of_heard hne hsaid, hwords]
  rfl

/-! ## The report -/

theorem names_words (r : Roster) (group : String) (t : Transport σ) (c : Command) (s : σ) :
    ((r.calls group t c s).map (Arrival.word t.charsets c)).map Prod.fst =
      (r.groupMembers group).entries.map reportName := by
  rw [← calls_members r group t c s, List.map_map, List.map_map]
  rfl

theorem mem_keys_report {name : String} :
    name ∈ (r.report group t c s).statuses.keys ↔
      ∃ e ∈ (r.groupMembers group).entries, e.2.memberName e.1 = name := by
  rw [Roster.report, Report.mem_keys_ofList, names_words, List.mem_map]
  rfl

/-- Every report has the members of the group under the names that the roster has for them. -/
theorem mem_keys_of_http_run {report : Report}
    (h : ((Engine.http r t).run limit group c s).1 = some (.ok report)) {name : String} :
    name ∈ report.statuses.keys ↔
      ∃ e ∈ (r.groupMembers group).entries, e.2.memberName e.1 = name := by
  have hne : (r.groupMembers group).entries ≠ [] := by
    intro hnil
    rw [http_run_of_nil hnil] at h
    cases h
  have hanswered : ∀ a ∈ r.calls group t c s, a.status? t.charsets c ≠ none := by
    intro a ha hnone
    rw [http_run_of_never hne ha hnone] at h
    cases h
  rw [http_run_of_answered hne hanswered] at h
  cases h
  exact mem_keys_report

/-- Nobody who shares a name hides what came of the call to another one. -/
theorem isSuccessful_report (h : ∀ a ∈ r.calls group t c s, a.status? t.charsets c ≠ none) :
    (r.report group t c s).isSuccessful = true ↔ ∀ a ∈ r.calls group t c s, a.IsSuccess := by
  rw [Roster.report, Report.isSuccessful_ofList, List.forall_mem_map]
  apply forall₂_congr
  intro a ha
  obtain ⟨status, hstatus⟩ := Option.ne_none_iff_exists'.1 (h a ha)
  rw [← Transport.isSuccess_of_mem_deliveries ha, Arrival.word, hstatus]
  simp

section

variable {thisId : NodeId} {file : ClusterFile} (hfile : Roster.ofFile thisId file = .ok r)

include hfile

theorem keys_report_perm :
    (r.report group t c s).statuses.keys.Perm
      ((r.groupMembers group).entries.map fun e => e.2.memberName e.1) := by
  apply (List.perm_ext_iff_of_nodup (SortedMap.nodup_keys _)
    (Roster.nodup_memberNames hfile group)).2
  intro name
  rw [mem_keys_report, List.mem_map]
  rfl

theorem get?_report {a : Arrival} (ha : a ∈ r.calls group t c s)
    (hsome : a.status? t.charsets c ≠ none) :
    (r.report group t c s).statuses.get? (a.member.2.memberName a.member.1) =
      a.status? t.charsets c := by
  have hnodup : (((r.calls group t c s).map (Arrival.word t.charsets c)).map Prod.fst).Nodup := by
    rw [names_words]
    exact Roster.nodup_memberNames hfile group
  obtain ⟨status, hstatus⟩ := Option.ne_none_iff_exists'.1 hsome
  have hword : a.word t.charsets c = (a.member.2.memberName a.member.1, status) := by
    rw [Arrival.word, hstatus]
    rfl
  rw [hstatus, Roster.report, Report.get?_ofList hnodup, ← hword]
  exact List.mem_map_of_mem ha

end

end

/-- **Replies in any order.**  In a group with members each of them is called once, and in whatever
order the replies arrive, the outcome is the same; there is none just when a call is never answered.
It is a report with the names that the roster has for the members, whatever names the replies bear,
and it is successful just when every member replied to its own call that it did what it was asked,
also where members share a name.  If the roster came from a list that passed the check, the report
has one entry for each member, with what came of its own call. -/
theorem http_arrivals {r : Roster} {group : String} (hne : (r.groupMembers group).entries ≠ [])
    (t : Transport σ) (limit : Duration) (c : Command) (s : σ) :
    let members := (r.groupMembers group).entries
    let calls := r.calls group t c s
    let outcome? := ((Engine.http r t).run limit group c s).1
    calls.map Arrival.member = members ∧
    (∀ arrivals, arrivals.Perm calls →
      r.gather group (heardAfter t.charsets c arrivals) = outcome?) ∧
    (outcome? = none ↔ ∃ a ∈ calls, a.status? t.charsets c = none) ∧
    ∀ outcome, outcome? = some outcome → ∃ report, outcome = .ok report ∧
      (∀ name, name ∈ report.statuses.keys ↔ ∃ e ∈ members, e.2.memberName e.1 = name) ∧
      (report.isSuccessful = true ↔ ∀ a ∈ calls, a.IsSuccess) ∧
      ∀ thisId file, Roster.ofFile thisId file = .ok r →
        report.statuses.keys.Perm (members.map fun e => e.2.memberName e.1) ∧
        ∀ a ∈ calls, report.statuses.get? (a.member.2.memberName a.member.1) =
          a.status? t.charsets c := by
  intro members calls outcome?
  refine ⟨calls_members r group t c s, ?_, ?_, ?_⟩
  · intro arrivals harrivals
    exact (http_run_eq_gather harrivals).symm
  · -- The run waits for all calls, so one that is never answered keeps it from its end.
    constructor
    · intro hnone
      by_contra hanswered
      push Not at hanswered
      cases hnone.symm.trans (http_run_of_answered hne hanswered)
    · rintro ⟨a, ha, hnone⟩
      exact http_run_of_never hne ha hnone
  · intro outcome houtcome
    have hanswered : ∀ a ∈ calls, a.status? t.charsets c ≠ none := by
      intro a ha hnone
      cases houtcome.symm.trans (http_run_of_never hne ha hnone)
    cases houtcome.symm.trans (http_run_of_answered hne hanswered)
    refine ⟨_, rfl, fun name => mem_keys_report, isSuccessful_report hanswered, ?_⟩
    intro thisId file hfile
    -- Only here do the names have to be different.
    exact ⟨keys_report_perm hfile, fun a ha => get?_report hfile ha (hanswered a ha)⟩

/-- Two members that reply under the names of each other, of which only the first one did what it
was asked. -/
def swappedReplies : Transport Unit where
  post url _ s :=
    let reply : MemberReply :=
      if url.port? = some 9001 then ⟨"node-2", .success "created"⟩
      else ⟨"node-1", .failure "disk full"⟩
    (.answered (Http.Response.json 200 reply.toJson).opened, s)
  charsets _ := none

theorem status?_reply {e : NodeId × Node} {url : Http.Url} (hurl : commandUrl? e.2 = some url)
    (hsend : url.isSendable = true) (reply : MemberReply) (others : Text.OtherCharsets)
    (c : Command) :
    (⟨e, .answered (Http.Response.json 200 reply.toJson).opened⟩ : Arrival).status? others c =
      some reply.status := by
  rw [Arrival.status?, callMember, parse_of_commandUrl? hurl]
  simp only [hsend, Bool.not_true, Bool.false_eq_true, if_false]
  exact congrArg some (statusOfResponse_reply others reply)

/-- Each reply is put down for the member that was called, and the failure is not hidden. -/
theorem http_arrivals_swappedReplies :
    ∃ report, ((Engine.http pairRoster swappedReplies).run ⟨0⟩ "cluster" default ()).1 =
        some (.ok report) ∧
      report.isSuccessful = false ∧
      report.statuses.get? "node-1" = some (.success "created") ∧
      report.statuses.get? "node-2" = some (.failure "disk full") := by
  have hcalls : pairRoster.calls "cluster" swappedReplies default () =
      [⟨(1, .onLoopback 9000 ["locator", "member"]), .answered
          (Http.Response.json 200 (MemberReply.mk "node-2" (.success "created")).toJson).opened⟩,
        ⟨(2, .onLoopback 9002 ["member"]), .answered
          (Http.Response.json 200
            (MemberReply.mk "node-1" (.failure "disk full")).toJson).opened⟩] := by
    rw [Roster.calls, groupMembers_pairRoster]
    simp only [Transport.deliveries, Transport.deliver, parse_of_commandUrl? commandUrl?_first,
      parse_of_commandUrl? commandUrl?_second]
    rfl
  have hfirst := status?_reply (e := (1, .onLoopback 9000 ["locator", "member"]))
    commandUrl?_first (by decide +kernel) ⟨"node-2", .success "created"⟩
    swappedReplies.charsets default
  have hsecond := status?_reply (e := (2, .onLoopback 9002 ["member"]))
    commandUrl?_second (by decide +kernel) ⟨"node-1", .failure "disk full"⟩
    swappedReplies.charsets default
  have hne : (pairRoster.groupMembers "cluster").entries ≠ [] := by
    rw [groupMembers_pairRoster]
    exact List.cons_ne_nil _ _
  obtain ⟨-, -, hnever, hreport⟩ := http_arrivals hne swappedReplies ⟨0⟩ default ()
  rw [hcalls] at hnever hreport
  simp only [List.exists_mem_cons_iff, List.forall_mem_cons, hfirst, hsecond] at hnever hreport
  obtain ⟨outcome, houtcome⟩ := Option.ne_none_iff_exists'.1 fun h => by simpa using hnever.1 h
  obtain ⟨report, rfl, -, -, hentries⟩ := hreport outcome houtcome
  obtain ⟨-, hget1, hget2, -⟩ := hentries 1 pairFile ofFile_pairFile
  have hfailed : ("node-2", Status.failure "disk full") ∈ report.failures :=
    Report.mem_failures_iff.2 ⟨hget2, rfl⟩
  refine ⟨report, houtcome, ?_, hget1, hget2⟩
  rw [Bool.eq_false_iff, ne_eq, Report.isSuccessful_iff]
  exact List.ne_nil_of_mem hfailed

end CacheCluster
