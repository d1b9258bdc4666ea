import CacheCluster.Engine.Network
import CacheCluster.Proofs.Node.Endpoint
import CacheCluster.Proofs.Node.Roster
import CacheCluster.Proofs.Text.Utf8
import CacheCluster.Proofs.Wire
import Mathlib

/-!
# Calls that reach the members

A transport reaches members when what is posted to the address of each one comes to the host behind
it, and what the host says comes back.  Which hosts there are is seen through a view of the state of
the transport.

## Main definitions

* `memberRequest` : what arrives at a member.
* `Host.IsPlain` : a host that answers for itself.
* `Transport.Reaches` : the transport reaches the members of a list.
* `Host.word`, `Host.after` : what a host is reported to say to a command, and the host after it.
* `pairRoster` : a roster of two members on one machine.

## Main results

* `Host.receive_member`, `Host.receive_member_of_long` : a command at a member.
* `callMember_of_commandUrl?` : a call to any node.
* `Transport.Reaches.call` : a call to a member.
* `Transport.Reaches.calls` : the calls to several members.
* `Transport.reaches_network` : a network reaches the members of different sites.
-/

namespace CacheCluster

variable {σ : Type}

/-- What arrives at a member to which a text is posted. -/
def memberRequest (body : List UInt8) : Http.Request :=
  ⟨"POST", createRegionPath, [("content-type", "application/json")], body⟩

/-! ## Members -/

theorem serve_memberRequest (body : List UInt8) (m : Member) :
    Http.serve memberRoutes (memberRequest body) m =
      ((m.handleCommand (memberRequest body)).1.opened,
        (m.handleCommand (memberRequest body)).2) := by
  have hpath : ∀ q : Http.Request, q.target = createRegionPath → q.path = createRegionPath := by
    intro q hq
    rw [Http.Request.path, hq]
    decide +kernel
  have hfind : (memberRoutes.find? fun r => r.path == (memberRequest body).path) =
      some ⟨createRegionPath, .post, Member.handleCommand⟩ := by
    rw [hpath _ rfl]
    rfl
  exact Http.serve_post rfl rfl hfind m

/-- A body whose header says that it is JSON. -/
theorem jsonBody_json {α : Type} (r : Json.Reader α) (method target : String) (body : List UInt8) :
    Http.jsonBody r ⟨method, target, [("content-type", "application/json")], body⟩ =
      if Http.bodyLimit < body.length then .error .tooLong
      else (Json.front r body).mapError fun f => Http.rejectionOf f body := by
  have htype : (Http.firstHeader? [("content-type", "application/json")] "content-type").any
      Http.isJsonType = true := by
    decide +kernel
  exact if_pos htype

/-- A member carries a command out that is not too long. -/
theorem Host.receive_member (m : Member) {c : Command}
    (hc : c.toJson.render.length ≤ Http.bodyLimit) :
    (member m).receive (memberRequest c.toJson.render) =
      (.answered (Http.Response.json 200 (m.execute c).1.toJson).opened,
        .member (m.execute c).2) := by
  have hbody : Http.jsonBody Command.reader (memberRequest c.toJson.render) = .ok c := by
    rw [memberRequest, jsonBody_json, if_neg (Nat.not_lt.2 hc), (Command.reads_toJson c).front]
    rfl
  rw [receive, serve_memberRequest, Member.handleCommand_of_read hbody]

/-- A member refuses a command that is too long. -/
theorem Host.receive_member_of_long (m : Member) {body : List UInt8}
    (hbody : Http.bodyLimit < body.length) :
    (member m).receive (memberRequest body) =
      (.answered (Http.Response.text 413 Http.Rejection.tooLong.message).opened, .member m) := by
  have hlong : Http.jsonBody Command.reader (memberRequest body) = .error .tooLong := by
    rw [memberRequest, jsonBody_json, if_pos hbody]
  rw [receive, serve_memberRequest, Member.handleCommand_of_rejected hlong]
  rfl

/-- The reply of a member says what its status is. -/
theorem statusOfResponse_reply (others : Text.OtherCharsets) (r : MemberReply) :
    statusOfResponse others (Http.Response.json 200 r.toJson).opened = r.status := by
  have hsuccess : Http.isSuccessStatus 200 = true := rfl
  simp only [statusOfResponse, statusOfReply, hsuccess, if_true, Http.Response.opened,
    Http.Response.json, (MemberReply.reads_toJson r).whole, Except.mapError]

/-- A response tells of a success when its status is one and a reply was read that tells of it. -/
theorem isSuccess_statusOfReply {status : Nat} {reply : Except String MemberReply} {text : String} :
    (statusOfReply status reply text).isSuccess = true ↔ Http.isSuccessStatus status = true ∧
      ∃ r, reply = .ok r ∧ r.status.isSuccess = true := by
  by_cases hstatus : Http.isSuccessStatus status = true
  · cases reply with
    | ok r => simp [statusOfReply, hstatus]
    | error reason => simp [statusOfReply, hstatus, Status.isSuccess, Status.failure]
  · simp [statusOfReply, hstatus, Status.isSuccess, Status.failure]

/-- A response tells of a success when it is the reply of a member that did what it was asked. -/
theorem isSuccess_statusOfResponse {others : Text.OtherCharsets} {r : Http.Response} :
    (statusOfResponse others r).isSuccess = true ↔ Http.isSuccessStatus r.status = true ∧
      ∃ reply, Json.whole MemberReply.reader r.body = .ok reply ∧
        reply.status.isSuccess = true := by
  rw [statusOfResponse, isSuccess_statusOfReply]
  cases Json.whole MemberReply.reader r.body <;> simp [Except.mapError]

/-- A response that breaks off tells of no success, whatever its status is. -/
theorem isSuccess_statusOfBroken (r : Http.Response) (reason : String) :
    (statusOfBroken r reason).isSuccess = false := by
  rw [Bool.eq_false_iff, statusOfBroken, ne_eq, isSuccess_statusOfReply]
  rintro ⟨-, reply, hreply, -⟩
  cases hreply

/-- What a member is reported to say to a command that is too long. -/
def tooLongStatus : Status :=
  .failure ("member replied 413 Payload Too Large: " ++
    "Failed to buffer the request body: length limit exceeded")

theorem ofLabel?_utf8 : Text.Charset.ofLabel? "utf-8" = some .utf8 := by
  have hlabel : "utf-8".trimAscii.toString.toLower = "utf-8" := by cbv
  rw [Text.Charset.ofLabel?, hlabel]
  rfl

theorem statusOfResponse_tooLong (others : Text.OtherCharsets) :
    statusOfResponse others (Http.Response.text 413 Http.Rejection.tooLong.message).opened =
      tooLongStatus := by
  have hheader : Http.firstHeader? ([("content-type", "text/plain; charset=utf-8")] ++
      Http.openHeaders) "content-type" = some "text/plain; charset=utf-8" := by
    decide +kernel
  have hcharset : Http.charset? "text/plain; charset=utf-8" = some "utf-8" := by
    decide +kernel
  have hmark : Text.Charset.ofMark? (Text.encode Http.Rejection.tooLong.message) = none := by
    decide +kernel
  have htext : responseText others (Http.Response.text 413 Http.Rejection.tooLong.message).opened =
      Http.Rejection.tooLong.message := by
    simp only [responseText, Http.Response.header?, Http.Response.opened, Http.Response.text,
      hheader, Option.bind_some, hcharset, Text.decodeLabeled, hmark, ofLabel?_utf8,
      Option.map_some, Option.some_or, Option.getD_some, Text.Charset.decodeAs,
      Text.decodeLossy_encode]
  rw [statusOfResponse, htext]
  rfl

/-! ## Hosts -/

/-- The address to which a node is sent commands. -/
def commandAddress (n : Node) : String := n.httpUrl ++ createRegionPath

/-- The same as a web address, if it is one. -/
def commandUrl? (n : Node) : Option Http.Url := (Http.Url.parse (commandAddress n)).toOption

/-- What a delivery from the address of a node is reported as. -/
def Delivery.status? (others : Text.OtherCharsets) (n : Node) (url : Http.Url) :
    Delivery → Option Status
  | .answered response => some (statusOfResponse others response)
  | .brokenOff response reason => some (statusOfBroken response reason)
  | .failed reason =>
    some (.failure ("request to " ++ commandAddress n ++ " failed: " ++
      ("error sending request for url (" ++ url.text ++ "): " ++ reason)))
  | .never => none

namespace Host

/-- A host that answers for itself: no response of it is a preliminary one or sends the caller
elsewhere, and one that breaks off in its body has a body. -/
def IsPlain : Host → Prop
  | .fixed response => 200 ≤ response.status ∧ response.header? "location" = none
  | .breaking response _ =>
    Http.statusHasBody response.status = true ∧ response.header? "location" = none
  | _ => True

/-- The text about a connection to a node on which no answer came, for some reason. -/
def droppedMessage (n : Node) (reason : String) : String :=
  let url := ((commandUrl? n).map Http.Url.text).getD ""
  "request to " ++ commandAddress n ++ " failed: " ++
    ("error sending request for url (" ++ url ++ "): " ++ reason)

/-- What the host behind a node is reported to say to a command, unless it never answers. -/
def word (others : Text.OtherCharsets) (n : Node) (c : Command) : Host → Option Status
  | .member m =>
    some (if Http.bodyLimit < c.toJson.render.length then tooLongStatus else (m.execute c).1.status)
  | .fixed response => some (statusOfResponse others response.received)
  | .breaking response reason => some (statusOfBroken response reason)
  | .dropping reason => some (.failure (droppedMessage n reason))
  | .silent => none

/-- A host after a command. -/
def after (c : Command) : Host → Host
  | .member m =>
    .member (if Http.bodyLimit < c.toJson.render.length then m else (m.execute c).2)
  | h => h

theorem receive_after (c : Command) (h : Host) :
    (h.receive (memberRequest c.toJson.render)).2 = h.after c := by
  cases h with
  | member m =>
    by_cases hc : Http.bodyLimit < c.toJson.render.length
    · rw [receive_member_of_long m hc, after, if_pos hc]
    · rw [receive_member m (Nat.not_lt.1 hc), after, if_neg hc]
  | fixed response => rfl
  | breaking response reason => rfl
  | dropping reason => rfl
  | silent => rfl

end Host

/-- A transport that reaches the members of a list, where `host?` shows who is behind the address of
a node: what is posted there comes to this host alone, and what becomes of it comes back. -/
def Transport.Reaches (t : Transport σ) (host? : σ → NodeId → Option Host)
    (members : List (NodeId × Node)) : Prop :=
  ∀ e ∈ members, ∃ url, commandUrl? e.2 = some url ∧ url.isSendable = true ∧
    ∀ s h body, host? s e.1 = some h → h.IsPlain →
      (t.post url body s).1 = (h.receive (memberRequest body)).1 ∧
      ∀ id, host? (t.post url body s).2 id =
        if id = e.1 then some (h.receive (memberRequest body)).2 else host? s id

/-! ## Calls -/

theorem parse_of_commandUrl? {n : Node} {url : Http.Url} (h : commandUrl? n = some url) :
    Http.Url.parse (n.httpUrl ++ createRegionPath) = .ok url := by
  rw [commandUrl?, commandAddress] at h
  cases hparse : Http.Url.parse (n.httpUrl ++ createRegionPath) with
  | error e =>
    rw [hparse] at h
    cases h
  | ok u =>
    rw [hparse] at h
    exact congrArg Except.ok (Option.some.inj h)

/-- A call to a node is a `POST` to its address. -/
theorem callMember_of_commandUrl? {n : Node} {url : Http.Url} (hurl : commandUrl? n = some url)
    (hsend : url.isSendable = true) (t : Transport σ) (c : Command) (s : σ) :
    callMember t n.httpUrl c s =
      ((t.post url c.toJson.render s).1.status? t.charsets n url,
        (t.post url c.toJson.render s).2) := by
  rw [callMember, parse_of_commandUrl? hurl]
  simp only [hsend, Bool.not_true, Bool.false_eq_true, if_false]
  cases (t.post url c.toJson.render s).1 <;> rfl

namespace Transport.Reaches

variable {t : Transport σ} {host? : σ → NodeId → Option Host} {members : List (NodeId × Node)}

theorem mono {l : List (NodeId × Node)} (hr : t.Reaches host? members)
    (h : ∀ e ∈ l, e ∈ members) : t.Reaches host? l := by
  intro e he
  exact hr e (h e he)

/-- A call to a member brings back the word of its host, and changes no other host. -/
theorem call (hr : t.Reaches host? members) {e : NodeId × Node} (he : e ∈ members) {s : σ}
    {h : Host} (hs : host? s e.1 = some h) (hp : h.IsPlain) (c : Command) :
    (callMember t e.2.httpUrl c s).1 = h.word t.charsets e.2 c ∧
      ∀ id, host? (callMember t e.2.httpUrl c s).2 id =
        if id = e.1 then some (h.after c) else host? s id := by
  obtain ⟨url, hurl, hsend, hpost⟩ := hr e he
  obtain ⟨hdelivery, hstate⟩ := hpost s h c.toJson.render hs hp
  rw [callMember_of_commandUrl? hurl hsend]
  constructor
  · dsimp only
    rw [hdelivery]
    cases h with
    | member m =>
      -- What a member answers depends on whether it can read the command.
      by_cases hc : Http.bodyLimit < c.toJson.render.length
      · rw [Host.receive_member_of_long m hc, Host.word, if_pos hc]
        exact congrArg some (statusOfResponse_tooLong _)
      · rw [Host.receive_member m (Nat.not_lt.1 hc), Host.word, if_neg hc]
        exact congrArg some (statusOfResponse_reply _ _)
    | fixed response => rfl
    | breaking response reason => rfl
    | dropping reason =>
      rw [Host.receive, Host.word, Host.droppedMessage, hurl]
      rfl
    | silent => rfl
  · intro id
    rw [hstate id, Host.receive_after]

end Transport.Reaches

/-- The words of members under their names, if each of them says something. -/
def collect (word : NodeId × Node → Option Status) :
    List (NodeId × Node) → Option (List (String × Status))
  | [] => some []
  | e :: rest => do return (reportName e, ← word e) :: (← collect word rest)

theorem collect_eq_none {word : NodeId × Node → Option Status} {l : List (NodeId × Node)}
    {e : NodeId × Node} (he : e ∈ l) (hnone : word e = none) : collect word l = none := by
  induction l with
  | nil => cases he
  | cons f rest ih =>
    rw [collect]
    rcases List.mem_cons.1 he with rfl | he
    · rw [hnone]
      rfl
    · rw [ih he]
      cases word f <;> rfl

theorem collect_eq_some {word : NodeId × Node → Option Status} {l : List (NodeId × Node)}
    {said : NodeId × Node → Status} (h : ∀ e ∈ l, word e = some (said e)) :
    collect word l = some (l.map fun e => (reportName e, said e)) := by
  induction l with
  | nil => rfl
  | cons f rest ih =>
    rw [collect, h f (List.mem_cons_self ..), ih fun e he => h e (List.mem_cons_of_mem _ he)]
    rfl

theorem nodup_keys_words {l : List (NodeId × Node)} {said : NodeId × Node → Status}
    (hl : (l.map reportName).Nodup) :
    ((l.map fun e => (reportName e, said e)).map Prod.fst).Nodup := by
  rw [List.map_map]
  exact hl

namespace Transport.Reaches

variable {t : Transport σ} {host? : σ → NodeId → Option Host} {members : List (NodeId × Node)}

/-- The calls to members bring back the words of all their hosts if each of them answers, and in any
case every host was asked. -/
theorem calls (hr : t.Reaches host? members) (c : Command) (hosts : NodeId → Host) :
    ∀ (l : List (NodeId × Node)) (s : σ), (∀ e ∈ l, e ∈ members) → (l.map Prod.fst).Nodup →
      (∀ e ∈ l, host? s e.1 = some (hosts e.1) ∧ (hosts e.1).IsPlain) →
      (callMembers t c l s).1 = collect (fun e => (hosts e.1).word t.charsets e.2 c) l ∧
        ∀ id, host? (callMembers t c l s).2 id =
          if id ∈ l.map Prod.fst then some ((hosts id).after c) else host? s id := by
  intro l
  induction l with
  | nil =>
    intro s _ _ _
    exact ⟨rfl, fun id => (if_neg (List.not_mem_nil)).symm⟩
  | cons e rest ih =>
    intro s hsub hids hhosts
    rw [List.map_cons, List.nodup_cons] at hids
    obtain ⟨hs, hp⟩ := hhosts e (List.mem_cons_self ..)
    obtain ⟨hword, hstate⟩ := hr.call (hsub e (List.mem_cons_self ..)) hs hp c
    -- The hosts behind this one are still as they were when their turn comes.
    have hrest : ∀ f ∈ rest, host? (callMember t e.2.httpUrl c s).2 f.1 =
        some (hosts f.1) ∧ (hosts f.1).IsPlain := by
      intro f hf
      have hne : f.1 ≠ e.1 := by
        intro heq
        exact hids.1 (List.mem_map.2 ⟨f, hf, heq⟩)
      rw [hstate, if_neg hne]
      exact hhosts f (List.mem_cons_of_mem _ hf)
    obtain ⟨hwords, hstates⟩ := ih _ (fun f hf => hsub f (List.mem_cons_of_mem _ hf)) hids.2 hrest
    constructor
    · rw [callMembers]
      dsimp only
      rw [hword, hwords]
      rfl
    · intro id
      rw [callMembers]
      dsimp only
      rw [hstates id, List.map_cons]
      by_cases hid : id ∈ rest.map Prod.fst
      · rw [if_pos hid, if_pos (List.mem_cons_of_mem _ hid)]
      · rw [if_neg hid, hstate]
        by_cases he : id = e.1
        · rw [if_pos he, if_pos (List.mem_cons.2 (.inl he)), he]
        · rw [if_neg he, if_neg fun hmem => (List.mem_cons.1 hmem).elim he hid]

end Transport.Reaches

/-! ## The engine -/

theorem http_run_of_ne_nil {r : Roster} {group : String} (h : (r.groupMembers group).entries ≠ [])
    (t : Transport σ) (limit : Duration) (c : Command) (s : σ) :
    (Engine.http r t).run limit group c s =
      ((callMembers t c (r.groupMembers group).entries s).1.map fun words => .ok (.ofList words),
        (callMembers t c (r.groupMembers group).entries s).2) := by
  rw [Engine.http]
  dsimp only
  split
  · rename_i hnil
    exact absurd hnil h
  · rfl

theorem http_run_of_nil {r : Roster} {group : String} (h : (r.groupMembers group).entries = [])
    (t : Transport σ) (limit : Duration) (c : Command) (s : σ) :
    (Engine.http r t).run limit group c s = (some (.error (.dispatch (.noMembers group))), s) := by
  rw [Engine.http]
  simp only [h]

/-! ## Networks -/

/-- The host behind a node of a network. -/
def Network.behind? (nodes : SortedMap NodeId Node) (net : Network) (id : NodeId) : Option Host :=
  ((nodes.get? id).bind commandUrl?).bind fun url => net.get? url.site

/-- A network reaches nodes whose addresses have sites of their own and no paths. -/
theorem Transport.reaches_network {nodes : SortedMap NodeId Node}
    (hurl : ∀ e ∈ nodes.entries, (commandUrl? e.2).any
      (fun url => url.isSendable && url.target == createRegionPath) = true)
    (hsites : (nodes.entries.map fun e => (commandUrl? e.2).map Http.Url.site).Nodup) :
    Transport.network.Reaches (Network.behind? nodes) nodes.entries := by
  intro e he
  obtain ⟨url, hparse, husable⟩ := (Option.any_eq_true _ _).1 (hurl e he)
  rw [Bool.and_eq_true, beq_iff_eq] at husable
  obtain ⟨hsend, htarget⟩ := husable
  refine ⟨url, hparse, hsend, ?_⟩
  intro net h body hhost _
  have hnode : (nodes.get? e.1).bind commandUrl? = some url :=
    Option.bind_eq_some_iff.2 ⟨e.2, SortedMap.get?_eq_some_iff.2 he, hparse⟩
  have hget : net.get? url.site = some h := by
    rw [Network.behind?, hnode] at hhost
    exact hhost
  have hpost : Transport.network.post url body net =
      ((h.receive (memberRequest body)).1,
        net.insert url.site (h.receive (memberRequest body)).2) := by
    change net.post url body = _
    rw [Network.post, hget, htarget]
    rfl
  rw [hpost]
  refine ⟨rfl, ?_⟩
  intro id
  by_cases hid : id = e.1
  · rw [if_pos hid, hid, Network.behind?, hnode]
    exact SortedMap.get?_insert_self ..
  · rw [if_neg hid, Network.behind?, Network.behind?]
    cases hother : (nodes.get? id).bind commandUrl? with
    | none => exact rfl
    | some other =>
      obtain ⟨n, hn, hsite⟩ := Option.bind_eq_some_iff.1 hother
      -- Another node has another site, where nothing was posted.
      have hne : other.site ≠ url.site := by
        intro heq
        refine hid (congrArg Prod.fst (List.inj_on_of_nodup_map hsites
          (SortedMap.get?_eq_some_iff.1 hn) he ?_))
        dsimp only
        rw [hsite, hparse, Option.map_some, Option.map_some, heq]
      exact SortedMap.get?_insert_of_ne _ _ hne

/-! ## Two members on one machine -/

/-- A node on the machine itself. -/
def Node.onLoopback (port : UInt16) (roles : List String) : Node :=
  ⟨⟨.v6 #v[0, 0, 0, 0, 0, 0, 0, 1] 0, port⟩, none, none, .ofNames roles, .ofNames ["cluster"]⟩

/-- The address to which a member on the machine itself is sent commands. -/
def Http.Url.onLoopback (port : Nat) : Http.Url :=
  ⟨false, none, "[::1]".toList, some port, createRegionPath.toList, none, none⟩

/-- Two members, of which one is also the locator. -/
def pairFile : ClusterFile :=
  ⟨.default, .ofList [(1, .onLoopback 9000 ["locator", "member"]),
    (2, .onLoopback 9002 ["member"])]⟩

/-- The roster of the locator. -/
def pairRoster : Roster :=
  ⟨1, .onLoopback 9000 ["locator", "member"], pairFile.nodes.erase 1, .default⟩

theorem ofFile_pairFile : Roster.ofFile 1 pairFile = .ok pairRoster := by rfl

theorem groupMembers_pairRoster : (pairRoster.groupMembers "cluster").entries =
    [(1, .onLoopback 9000 ["locator", "member"]), (2, .onLoopback 9002 ["member"])] := by
  decide +kernel

theorem commandUrl?_first :
    commandUrl? (.onLoopback 9000 ["locator", "member"]) = some (.onLoopback 9001) := by
  decide +kernel

theorem commandUrl?_second :
    commandUrl? (.onLoopback 9002 ["member"]) = some (.onLoopback 9003) := by
  decide +kernel

theorem reaches_pairRoster :
    Transport.network.Reaches (Network.behind? pairFile.nodes)
      (pairRoster.groupMembers "cluster").entries := by
  have hall : Transport.network.Reaches (Network.behind? pairFile.nodes) pairFile.nodes.entries :=
    Transport.reaches_network (List.all_eq_true.1 (by decide +kernel)) (by decide +kernel)
  exact hall.mono fun e he => (Roster.mem_groupMembers ofFile_pairFile he).1

/-- Two new members at the sites of the roster. -/
def pairNetwork : Network :=
  .ofList [((Http.Url.onLoopback 9001).site, .member (.new "node-1")),
    ((Http.Url.onLoopback 9003).site, .member (.new "node-2"))]

end CacheCluster
