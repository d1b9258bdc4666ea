import CacheCluster.Locator.Endpoint
import CacheCluster.Proofs.Engine.Delivery
import CacheCluster.Proofs.Locator.Run
import CacheCluster.Proofs.Report

/-!
# A request at the endpoint of a locator over HTTP

Whatever hosts stand behind the members of the administered group, every live one of them carries
the command out on its own, and the answer is a success when each host says that it did.

## Main definitions

* `Host.Agrees` : a host that says that it did what it was asked.
* `Http.Response.Carries`, `Answer.Lists` : a response with an answer, and what an answer lists.
* `Locator.trioRoster`, `Locator.mixedHosts` : three members of which one is live, one refuses the
  connection and one answers without a body.

## Main results

* `Locator.serve_createRegion` : a request for a region at the endpoint.
* `host_after_run` : the hosts after a command.
* `Locator.answerTo_words` : the answer to what the hosts say.
* `Locator.fanOut` : the hosts after a request, and the answer.
-/

namespace CacheCluster

variable {σ : Type}

/-- A host that says to a command that it did what it was asked: a live member that did, or a
response of success that is received as a whole, can be read and says so. -/
def Host.Agrees (c : Command) : Host → Prop
  | .member m => (m.execute c).1.status.isSuccess = true
  | .fixed response => Http.isSuccessStatus response.status = true ∧
      ∃ reply, Json.whole MemberReply.reader response.received.body = .ok reply ∧
        reply.status.isSuccess = true
  | .breaking _ _ => False
  | .dropping _ => False
  | .silent => False

/-- A response of a status with an answer. -/
def Http.Response.Carries (r : Http.Response) (status : Nat) (a : Answer) : Prop :=
  r.status = status ∧ r.body = a.toJson.render

/-- An answer that lists the members that `failed` with what they said, in order and each of them
once, and says it all in its message again. -/
def Answer.Lists (a : Answer) (failed : String → String → Prop) : Prop :=
  a.url? = none ∧
    a.message? = some ("\n".intercalate
      (a.failedMembers.map fun f => f.member ++ " -> " ++ f.message)) ∧
    (a.failedMembers.map FailedMember.member).Pairwise (compare · · = .lt) ∧
    ∀ f, f ∈ a.failedMembers ↔ failed f.member f.message

/-! ## Words -/

theorem Host.word_eq_none_iff {others : Text.OtherCharsets} {n : Node} {c : Command} {h : Host} :
    h.word others n c = none ↔ h = .silent := by
  cases h <;> simp [word]

/-- A host agrees when its word is one of success. -/
theorem Host.agrees_iff {others : Text.OtherCharsets} {n : Node} {c : Command} {h : Host}
    {status : Status} (hc : c.toJson.render.length ≤ Http.bodyLimit)
    (hword : h.word others n c = some status) :
    h.Agrees c ↔ status.isSuccess = true := by
  cases h with
  | member m =>
    rw [word, if_neg (Nat.not_lt.2 hc)] at hword
    rw [← Option.some.inj hword, Agrees]
  | fixed response =>
    rw [word] at hword
    rw [← Option.some.inj hword, Agrees, isSuccess_statusOfResponse]
    rfl
  | breaking response reason =>
    rw [word] at hword
    rw [← Option.some.inj hword, Agrees]
    exact iff_of_false id (by simp [isSuccess_statusOfBroken])
  | dropping reason =>
    rw [word] at hword
    rw [← Option.some.inj hword, Agrees]
    exact iff_of_false id (by simp [Status.isSuccess, Status.failure])
  | silent => cases hword

/-- Hosts that all answer have words, by which it is seen who agrees. -/
theorem exists_words (others : Text.OtherCharsets) {hosts : NodeId → Host} {c : Command}
    {l : List (NodeId × Node)} (hc : c.toJson.render.length ≤ Http.bodyLimit)
    (h : ∀ e ∈ l, hosts e.1 ≠ .silent) :
    ∃ said : NodeId × Node → Status, ∀ e ∈ l, (hosts e.1).word others e.2 c = some (said e) ∧
      ((hosts e.1).Agrees c ↔ (said e).isSuccess = true) := by
  refine ⟨fun e => ((hosts e.1).word others e.2 c).getD default, ?_⟩
  intro e he
  have hsome : (hosts e.1).word others e.2 c ≠ none := mt Host.word_eq_none_iff.1 (h e he)
  obtain ⟨status, hword⟩ := Option.ne_none_iff_exists'.1 hsome
  have hsaid : ((hosts e.1).word others e.2 c).getD default = status := by
    rw [hword, Option.getD_some]
  dsimp only
  rw [hsaid]
  exact ⟨hword, Host.agrees_iff hc hword⟩

theorem Host.after_of_ne {c : Command} {h : Host} (hh : ∀ m, h ≠ .member m) : h.after c = h := by
  cases h with
  | member m => exact absurd rfl (hh m)
  | fixed response => rfl
  | breaking response reason => rfl
  | dropping reason => rfl
  | silent => rfl

/-! ## The engine -/

/-- Every host of the group takes the command, and no other one changes. -/
theorem host_after_run {r : Roster} {group : String} {t : Transport σ}
    {host? : σ → NodeId → Option Host} (hreach : t.Reaches host? (r.groupMembers group).entries)
    {hosts : NodeId → Host} {s : σ} (hhosts : ∀ e ∈ (r.groupMembers group).entries,
      host? s e.1 = some (hosts e.1) ∧ (hosts e.1).IsPlain) (limit : Duration) (c : Command)
    (id : NodeId) :
    host? ((Engine.http r t).run limit group c s).2 id =
      if id ∈ (r.groupMembers group).entries.map Prod.fst then some ((hosts id).after c)
      else host? s id := by
  by_cases hnil : (r.groupMembers group).entries = []
  · rw [http_run_of_nil hnil, hnil]
    rfl
  · rw [http_run_of_ne_nil hnil]
    exact (hreach.calls c hosts _ s (fun e he => he) (r.nodup_groupMembers group) hhosts).2 id

namespace Locator

/-! ## Answers to reports -/

/-- The name that was checked before is there for the answer. -/
theorem answerTo_ok {reject : Bool} {req : Region.Request} {config : Region.Config}
    (hvalid : req.validate reject = .ok config) (report : Report) :
    answerTo req (.ok report) = (201, .created config.shortName) := by
  have hbuild := (Region.Request.validate_eq_ok_iff.1 hvalid).1
  rw [answerTo, (Region.Request.build_eq_ok_iff.1 hbuild).1]
  rfl

theorem answerTo_of_successful {reject : Bool} {req : Region.Request} {config : Region.Config}
    (hvalid : req.validate reject = .ok config) {report : Report}
    (h : report.isSuccessful = true) :
    answerTo req (requireSuccess req.name (.ok report)) = (201, .created config.shortName) := by
  rw [requireSuccess_of_successful h, answerTo_ok hvalid]

theorem answerTo_of_failed {req : Region.Request} {report : Report}
    (h : report.isSuccessful = false) :
    answerTo req (requireSuccess req.name (.ok report)) =
      (500, ⟨none, some report.message, Answer.failedMembersOf report⟩) := by
  rw [requireSuccess_of_failed h]
  rfl

/-- The answer for a report lists the members that failed. -/
theorem lists_failedMembersOf (report : Report) :
    (Answer.mk none (some report.message) (Answer.failedMembersOf report)).Lists
      fun name message => ∃ status, report.statuses.get? name = some status ∧
        status.isSuccess = false ∧ status.message?.getD "" = message := by
  refine ⟨rfl, ?_, ?_, ?_⟩
  · rw [Answer.failedMembersOf, List.map_map]
    rfl
  · rw [Answer.failedMembersOf, List.map_map, List.pairwise_map]
    exact report.statuses.sorted.filter _
  · rintro ⟨member, message⟩
    rw [Answer.failedMembersOf, List.mem_map]
    constructor
    · rintro ⟨⟨name, status⟩, hfail, hf⟩
      obtain ⟨rfl, rfl⟩ := FailedMember.mk.inj hf
      obtain ⟨hget, hstatus⟩ := Report.mem_failures_iff.1 hfail
      exact ⟨status, hget, hstatus, rfl⟩
    · rintro ⟨status, hget, hstatus, rfl⟩
      exact ⟨(member, status), Report.mem_failures_iff.2 ⟨hget, hstatus⟩, rfl⟩

/-- The answer to the words of hosts is a success when all of them agree, and else it lists those
that do not. -/
theorem answerTo_words {others : Text.OtherCharsets} {hosts : NodeId → Host} {c : Command}
    {l : List (NodeId × Node)} {said : NodeId × Node → Status} (hnames : (l.map reportName).Nodup)
    (hsaid : ∀ e ∈ l, (hosts e.1).word others e.2 c = some (said e) ∧
      ((hosts e.1).Agrees c ↔ (said e).isSuccess = true))
    {reject : Bool} {req : Region.Request} {config : Region.Config}
    (hvalid : req.validate reject = .ok config) :
    let answer := answerTo req
      (requireSuccess req.name (.ok (.ofList (l.map fun e => (reportName e, said e)))))
    ((∀ e ∈ l, (hosts e.1).Agrees c) → answer = (201, .created config.shortName)) ∧
    ((∃ e ∈ l, ¬ (hosts e.1).Agrees c) → answer.1 = 500 ∧ answer.2.Lists fun name message =>
      ∃ e ∈ l, ¬ (hosts e.1).Agrees c ∧ reportName e = name ∧
        ∃ status, (hosts e.1).word others e.2 c = some status ∧
          status.message?.getD "" = message) := by
  intro answer
  have hkeys : ((l.map fun e => (reportName e, said e)).map Prod.fst).Nodup :=
    nodup_keys_words hnames
  have hsuccessful : (Report.ofList (l.map fun e => (reportName e, said e))).isSuccessful =
      true ↔ ∀ e ∈ l, (hosts e.1).Agrees c := by
    rw [Report.isSuccessful_ofList, List.forall_mem_map]
    exact forall₂_congr fun e he => (hsaid e he).2.symm
  constructor
  · intro hall
    exact answerTo_of_successful hvalid (hsuccessful.2 hall)
  · rintro ⟨e, he, hdisagrees⟩
    have hanswer : answer = _ := answerTo_of_failed
      (Bool.eq_false_iff.2 fun h => hdisagrees (hsuccessful.1 h e he))
    obtain ⟨hurl, hmessage, hsorted, hfailed⟩ := lists_failedMembersOf
      (.ofList (l.map fun e => (reportName e, said e)))
    simp only [Report.get?_ofList hkeys] at hfailed
    rw [hanswer]
    refine ⟨rfl, hurl, hmessage, hsorted, ?_⟩
    intro f
    rw [hfailed f]
    constructor
    · rintro ⟨status, hmem, hstatus, hf⟩
      obtain ⟨e, he, hpair⟩ := List.mem_map.1 hmem
      obtain ⟨hname, rfl⟩ := Prod.mk.inj hpair
      refine ⟨e, he, ?_, hname, said e, (hsaid e he).1, hf⟩
      rw [(hsaid e he).2, hstatus]
      exact Bool.false_ne_true
    · rintro ⟨e, he, hnot, hname, status, hword, hf⟩
      obtain rfl : said e = status := Option.some.inj ((hsaid e he).1.symm.trans hword)
      refine ⟨said e, List.mem_map.2 ⟨e, he, by rw [hname]⟩, ?_, hf⟩
      exact Bool.eq_false_iff.2 (mt (hsaid e he).2.2 hnot)

/-! ## Three members of which one is live -/

/-- Three members on one machine, of which one is also the locator. -/
def trioFile : ClusterFile :=
  ⟨.default, .ofList [(1, .onLoopback 9000 ["locator", "member"]),
    (2, .onLoopback 9002 ["member"]), (3, .onLoopback 9004 ["member"])]⟩

/-- The roster of the locator. -/
def trioRoster : Roster :=
  ⟨1, .onLoopback 9000 ["locator", "member"], trioFile.nodes.erase 1, .default⟩

/-- Who stands behind the members of the trio: the first one is live, nobody listens for the second,
and the third says that it did what it was asked, but with a status that has no body. -/
def mixedHosts (id : NodeId) : Host :=
  if id = 1 then .member (.new "node-1")
  else if id = 2 then
    .dropping "error trying to connect: tcp connect error: Connection refused (os error 111)"
  else .fixed ⟨204, [("content-type", "application/json")],
    (MemberReply.mk "node-3" (.success "created")).toJson.render⟩

/-- These hosts at the sites of the roster. -/
def mixedNetwork : Network :=
  .ofList [((Http.Url.onLoopback 9001).site, mixedHosts 1),
    ((Http.Url.onLoopback 9003).site, mixedHosts 2),
    ((Http.Url.onLoopback 9005).site, mixedHosts 3)]

/-- The command for a region at the top. -/
def mixedCommand : Command := .ofRequest "cluster" ⟨"/a", "REPLICATE"⟩ ⟨"a", .replicate⟩

/-- What is heard of the second member. -/
def refusedMessage : String :=
  "request to http://[::1]:9003/functions/create-region failed: " ++
    "error sending request for url (http://[::1]:9003/functions/create-region): " ++
    "error trying to connect: tcp connect error: Connection refused (os error 111)"

/-- What is heard of the third member. -/
def bodilessMessage : String :=
  "invalid member reply: error decoding response body: " ++
    "EOF while parsing a value at line 1 column 0"

theorem ofFile_trioFile : Roster.ofFile 1 trioFile = .ok trioRoster := by rfl

theorem groupMembers_trioRoster : (trioRoster.groupMembers "cluster").entries =
    [(1, .onLoopback 9000 ["locator", "member"]), (2, .onLoopback 9002 ["member"]),
      (3, .onLoopback 9004 ["member"])] := by
  decide +kernel

theorem reaches_trioRoster :
    Transport.network.Reaches (Network.behind? trioFile.nodes)
      (trioRoster.groupMembers "cluster").entries := by
  have hall : Transport.network.Reaches (Network.behind? trioFile.nodes) trioFile.nodes.entries :=
    Transport.reaches_network (List.all_eq_true.1 (by decide +kernel)) (by decide +kernel)
  exact hall.mono fun e he => (Roster.mem_groupMembers ofFile_trioFile he).1

theorem behind?_mixedNetwork : ∀ e ∈ (trioRoster.groupMembers "cluster").entries,
    Network.behind? trioFile.nodes mixedNetwork e.1 = some (mixedHosts e.1) ∧
      (mixedHosts e.1).IsPlain := by
  rw [groupMembers_trioRoster]
  simp only [List.forall_mem_cons]
  refine ⟨⟨?_, trivial⟩, ⟨?_, trivial⟩, ⟨?_, by decide, ?_⟩, by simp⟩ <;> decide +kernel

theorem length_mixedCommand_le : mixedCommand.toJson.render.length ≤ Http.bodyLimit := by
  decide +kernel

/-- Two of the hosts do not agree. -/
theorem disagrees_mixedHosts {name message : String} :
    (∃ e ∈ (trioRoster.groupMembers "cluster").entries, ¬ (mixedHosts e.1).Agrees mixedCommand ∧
      reportName e = name ∧ ∃ status,
        (mixedHosts e.1).word Transport.network.charsets e.2 mixedCommand = some status ∧
          status.message?.getD "" = message) ↔
    (name = "node-2" ∧ message = refusedMessage) ∨
      (name = "node-3" ∧ message = bodilessMessage) := by
  have hagrees : (mixedHosts 1).Agrees mixedCommand := by
    change ((Member.new "node-1").execute mixedCommand).1.status.isSuccess = true
    decide +kernel
  have hrefused : (mixedHosts 2).word Transport.network.charsets (.onLoopback 9002 ["member"])
      mixedCommand = some (.failure refusedMessage) := by
    decide +kernel
  have hbodiless : (mixedHosts 3).word Transport.network.charsets (.onLoopback 9004 ["member"])
      mixedCommand = some (.failure bodilessMessage) := by
    decide +kernel
  -- Both words are those of a failure, also the one about a response of success.
  have hsecond : ¬ (mixedHosts 2).Agrees mixedCommand := by
    rw [Host.agrees_iff length_mixedCommand_le hrefused]
    decide
  have hthird : ¬ (mixedHosts 3).Agrees mixedCommand := by
    rw [Host.agrees_iff length_mixedCommand_le hbodiless]
    decide
  have hname2 : reportName (2, .onLoopback 9002 ["member"]) = "node-2" := by decide +kernel
  have hname3 : reportName (3, .onLoopback 9004 ["member"]) = "node-3" := by decide +kernel
  rw [groupMembers_trioRoster]
  simp only [List.exists_mem_cons_iff, hagrees, hsecond, hthird, hrefused, hbodiless, hname2,
    hname3, Option.some.injEq, exists_eq_left', Status.failure, Option.getD_some]
  simp [eq_comm]

/-! ## Requests -/

/-- A request for a region at the endpoint. -/
theorem serve_createRegion (m : Management) (engine : Engine σ) {q : Http.Request}
    {req : Region.Request} (hmethod : q.method = "POST") (hpath : q.path = "/v2/regions")
    (hbody : Http.jsonBody Region.Request.reader q = .ok req) (s : σ) :
    (Http.serve (routes m engine) q s).1.Carries
        (answerTo req (createRegion m engine req s).1).1
        (answerTo req (createRegion m engine req s).1).2 ∧
      (Http.serve (routes m engine) q s).2 = (createRegion m engine req s).2 := by
  have hfind : ((routes m engine).find? fun r => r.path == q.path) =
      some ⟨"/v2/regions", .post, handle m engine⟩ := by
    rw [hpath]
    rfl
  rw [Http.serve_post hmethod rfl hfind]
  dsimp only
  rw [handle_of_read hbody]
  exact ⟨⟨rfl, rfl⟩, rfl⟩

/-- **Fan-out.**  Let every member of the administered group be live, refuse or drop the connection
for whatever reason, answer in one fixed way, break such an answer off or not answer at all, and let
a request be valid and its command not be too long.

Then each live member carries the command out, whatever the others do, and no other host changes.
Without members the answer is a failure, and so it is when a member never answers.  Otherwise it is
a success exactly when every member agrees, and if not, it lists those that do not agree, in order
and each of them once, with what they said. -/
theorem fanOut {thisId : NodeId} {file : ClusterFile} {r : Roster}
    (hfile : Roster.ofFile thisId file = .ok r) {t : Transport σ} {host? : σ → NodeId → Option Host}
    (hreach : t.Reaches host? (r.groupMembers r.management.adminGroup).entries) {s : σ}
    {hosts : NodeId → Host}
    (hhosts : ∀ e ∈ (r.groupMembers r.management.adminGroup).entries,
      host? s e.1 = some (hosts e.1) ∧ (hosts e.1).IsPlain)
    {q : Http.Request} (hmethod : q.method = "POST") (hpath : q.path = "/v2/regions")
    {req : Region.Request} (hbody : Http.jsonBody Region.Request.reader q = .ok req)
    {config : Region.Config} (hvalid : req.validate r.management.rejectUnknownType = .ok config)
    (hlength : (Command.ofRequest r.management.adminGroup req config).toJson.render.length ≤
      Http.bodyLimit) :
    let group := (r.groupMembers r.management.adminGroup).entries
    let c := Command.ofRequest r.management.adminGroup req config
    let served := Http.serve (routes r.management (Engine.http r t)) q s
    ((∀ e ∈ group, ∀ m, hosts e.1 = .member m →
        host? served.2 e.1 = some (.member (m.execute c).2)) ∧
      ∀ id, (id ∉ group.map Prod.fst ∨ ∀ m, hosts id ≠ .member m) →
        host? served.2 id = host? s id) ∧
    (group = [] → served.1.Carries 500 (.problem "no members found to create cache element")) ∧
    ((∃ e ∈ group, hosts e.1 = .silent) → served.1.Carries 504 (.problem
      (s!"members of group {r.management.adminGroup} did not answer within " ++
        r.management.timeout.text))) ∧
    (group ≠ [] → (∀ e ∈ group, hosts e.1 ≠ .silent) →
      (served.1.status = 201 ↔ ∀ e ∈ group, (hosts e.1).Agrees c) ∧
      ((∀ e ∈ group, (hosts e.1).Agrees c) → served.1.Carries 201 (.created config.shortName)) ∧
      ((∃ e ∈ group, ¬ (hosts e.1).Agrees c) → ∃ a, served.1.Carries 500 a ∧
        a.Lists fun name message => ∃ e ∈ group, ¬ (hosts e.1).Agrees c ∧ reportName e = name ∧
          ∃ status, (hosts e.1).word t.charsets e.2 c = some status ∧
            status.message?.getD "" = message)) := by
  intro group c served
  obtain ⟨hcarries, hstate⟩ :=
    serve_createRegion r.management (Engine.http r t) hmethod hpath hbody s
  rw [createRegion_of_validate hvalid] at hcarries hstate
  have hhost : ∀ id, host? served.2 id =
      if id ∈ group.map Prod.fst then some ((hosts id).after c) else host? s id := by
    intro id
    rw [hstate]
    exact host_after_run hreach hhosts _ c id
  -- All that is answered is made of the words of the hosts, in the order of the roster.
  have hwords := (hreach.calls c hosts group s (fun e he => he)
    (r.nodup_groupMembers r.management.adminGroup) hhosts).1
  refine ⟨⟨?_, ?_⟩, ?_, ?_, ?_⟩
  · intro e he m hm
    rw [hhost, if_pos (List.mem_map_of_mem he), hm, Host.after, if_neg (Nat.not_lt.2 hlength)]
  · rintro id (hid | hid)
    · rw [hhost, if_neg hid]
    · rw [hhost, Host.after_of_ne hid]
      split
      · -- A host that is no member was asked, but it has nothing to carry out.
        rename_i hmem
        obtain ⟨e, he, rfl⟩ := List.mem_map.1 hmem
        exact (hhosts e he).1.symm
      · rfl
  · intro hnil
    rw [http_run_of_nil hnil] at hcarries
    exact hcarries
  · -- One host that is silent keeps the others from being reported.
    rintro ⟨e, he, hsilent⟩
    rw [http_run_of_ne_nil (List.ne_nil_of_mem he), hwords,
      collect_eq_none he (Host.word_eq_none_iff.2 hsilent)] at hcarries
    exact hcarries
  · intro hne hanswer
    obtain ⟨said, hsaid⟩ := exists_words t.charsets hlength hanswer
    obtain ⟨hcreated, hfailed⟩ :=
      answerTo_words (Roster.nodup_memberNames hfile r.management.adminGroup) hsaid hvalid
    rw [http_run_of_ne_nil hne, hwords, collect_eq_some fun e he => (hsaid e he).1,
      Option.map_some, Option.getD_some] at hcarries
    refine ⟨⟨?_, ?_⟩, ?_, ?_⟩
    · -- An answer with a member that does not agree would have the status of a failure.
      intro hstatus
      by_contra hall
      have hsome : ∃ e ∈ group, ¬ (hosts e.1).Agrees c := by simpa using hall
      have h500 := hcarries.1.trans (hfailed hsome).1
      rw [hstatus] at h500
      cases h500
    · intro hall
      rw [hcreated hall] at hcarries
      exact hcarries.1
    · intro hall
      rw [hcreated hall] at hcarries
      exact hcarries
    · intro hsome
      obtain ⟨h500, hlists⟩ := hfailed hsome
      exact ⟨_, ⟨hcarries.1.trans h500, hcarries.2⟩, hlists⟩

/-- A region asked for on the trio: the first member has it, and the answer is a failure that lists
the two others with what was heard of them. -/
theorem fanOut_mixedHosts :
    let q : Http.Request := ⟨"POST", "/v2/regions", [("content-type", "application/json")],
      (Region.Request.toJson ⟨"/a", "REPLICATE"⟩).render⟩
    let served := Http.serve (routes .default (Engine.http trioRoster .network)) q mixedNetwork
    Network.behind? trioFile.nodes served.2 1 =
        some (.member ((Member.new "node-1").execute mixedCommand).2) ∧
      ∃ a, served.1.Carries 500 a ∧ a.Lists fun name message =>
        (name = "node-2" ∧ message = refusedMessage) ∨
          (name = "node-3" ∧ message = bodilessMessage) := by
  have hbody : Http.jsonBody Region.Request.reader ⟨"POST", "/v2/regions",
      [("content-type", "application/json")],
      (Region.Request.toJson ⟨"/a", "REPLICATE"⟩).render⟩ = .ok ⟨"/a", "REPLICATE"⟩ := by
    rw [jsonBody_json, if_neg (by decide +kernel), (Region.Request.reads_toJson _).front]
    rfl
  have hvalid : (Region.Request.mk "/a" "REPLICATE").validate false = .ok ⟨"a", .replicate⟩ := rfl
  obtain ⟨⟨hlive, -⟩, -, -, hanswer⟩ := fanOut ofFile_trioFile reaches_trioRoster
    behind?_mixedNetwork rfl (by decide +kernel) hbody hvalid length_mixedCommand_le
  have hfirst : (1, .onLoopback 9000 ["locator", "member"]) ∈
      (trioRoster.groupMembers "cluster").entries := by
    rw [groupMembers_trioRoster]
    exact List.mem_cons_self ..
  have hsome := disagrees_mixedHosts.2 (.inl ⟨rfl, rfl⟩)
  have hsilent : ∀ e ∈ (trioRoster.groupMembers "cluster").entries, mixedHosts e.1 ≠ .silent := by
    rw [groupMembers_trioRoster]
    decide
  obtain ⟨e, he, hnot, -⟩ := hsome
  obtain ⟨a, hcarries, hurl, hmessage, hsorted, hlists⟩ :=
    (hanswer (List.ne_nil_of_mem hfirst) hsilent).2.2 ⟨e, he, hnot⟩
  exact ⟨hlive _ hfirst _ rfl, a, hcarries, hurl, hmessage, hsorted,
    fun f => (hlists f).trans disagrees_mixedHosts⟩

end Locator

end CacheCluster
