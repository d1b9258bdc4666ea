import CacheCluster.Proofs.Engine.Arrival
import CacheCluster.Proofs.Http.Url
import CacheCluster.Proofs.Node.Acceptance

/-!
# What nodes see of each other

Every node takes itself out of the list that all of them read, and keeps the rest as its peers.
What a roster answers does not depend on which node was taken out, and what it says about another
node is what this node finds out about itself: its name, whether it has a member, and its port.

## Main definitions

* `ClusterFile.locators` : the nodes of a list that take requests.
* `ClusterFile.LooksSame` : a list looks the same in two rosters.
* `Http.Url.dialedPort` : the port to which a request to an address goes.
* `Roster.KnowsAs` : what is known of a node is what it is.

## Main results

* `Roster.entries_groupMembers`, `Roster.locator_of_nil`, `Roster.locator_of_singleton` : the
  answers of a roster in terms of the list that it was made of.
* `commandUrl?_of_domainUrl?` : where a node without another address is called.
* `Roster.views_agree` : the nodes of a file agree about the cluster and about each other.
-/

namespace CacheCluster

variable {σ : Type}

/-! ## One list -/

/-- The nodes of a list that take requests. -/
def ClusterFile.locators (file : ClusterFile) : List (NodeId × Node) :=
  file.nodes.entries.filter fun e => e.2.isLocator

/-- A list looks the same in two rosters: they count the same nodes, have the same members in every
group, and name the same locator if there is no choice. -/
structure ClusterFile.LooksSame (file : ClusterFile) (r r' : Roster) : Prop where
  count : r.count = file.nodes.size ∧ r'.count = r.count
  groupMembers : ∀ group,
    (r.groupMembers group).entries = (file.nodes.entries.filter fun e => e.2.isMemberOf group) ∧
      r'.groupMembers group = r.groupMembers group
  locator : file.locators.length ≤ 1 →
    r'.locator = r.locator ∧ r.locator ≠ .ambiguous ∧
      ∀ id, r.locator = .node id ↔ ∃ n, (id, n) ∈ file.locators

namespace Roster

section

variable {thisId : NodeId} {file : ClusterFile} {r : Roster} (h : ofFile thisId file = .ok r)

include h

theorem mem_all_iff {e : NodeId × Node} : e ∈ r.all ↔ file.nodes.get? e.1 = some e.2 :=
  (all_perm h).mem_iff.trans SortedMap.get?_eq_some_iff.symm

theorem count_eq : r.count = file.nodes.size := by
  have hlength := (all_perm h).length_eq
  rwa [all, List.length_append] at hlength

/-- The members of a group are in the order of the list, wherever this node comes in it. -/
theorem entries_groupMembers (group : String) :
    (r.groupMembers group).entries = file.nodes.entries.filter fun e => e.2.isMemberOf group := by
  let members : SortedMap NodeId Node :=
    ⟨file.nodes.entries.filter fun e => e.2.isMemberOf group, file.nodes.sorted.filter _⟩
  have hperm : (r.all.filter fun e => e.2.isMemberOf group).Perm members.entries :=
    (all_perm h).filter _
  rw [groupMembers, SortedMap.ofList_of_perm hperm]

theorem locators_perm :
    ((r.peers.entries.filter fun e => e.2.isLocator) ++
      if r.this.isLocator then [(r.thisId, r.this)] else []).Perm file.locators := by
  have hperm := (all_perm h).filter fun e => e.2.isLocator
  rw [all, List.filter_append] at hperm
  simp only [List.filter_cons, List.filter_nil] at hperm
  exact hperm

theorem locator_of_nil (hnil : file.locators = []) : r.locator = .none := by
  have hperm := locators_perm h
  rw [hnil, List.perm_nil, List.append_eq_nil_iff] at hperm
  rw [locator, hperm.1]
  cases hthis : r.this.isLocator <;> simp_all

/-- The only node that takes requests is named, be it a peer or not. -/
theorem locator_of_singleton {e : NodeId × Node} (hone : file.locators = [e]) :
    r.locator = .node e.1 := by
  have hperm := locators_perm h
  rw [hone, List.perm_singleton, List.append_eq_singleton_iff] at hperm
  rw [locator]
  rcases hperm with ⟨hpeers, hthis⟩ | ⟨hpeers, -⟩
  · rw [hpeers]
    by_cases hlocator : r.this.isLocator = true
    · rw [if_pos hlocator, List.cons.injEq] at hthis
      rw [← hthis.1]
      exact if_pos hlocator
    · rw [if_neg hlocator] at hthis
      cases hthis
  · rw [hpeers]

theorem mem_groupMembers_iff {group : String} {e : NodeId × Node} :
    e ∈ (r.groupMembers group).entries ↔ e ∈ r.all ∧ e.2.isMemberOf group = true := by
  rw [entries_groupMembers h, List.mem_filter, (all_perm h).mem_iff]

end

/-- A list looks the same from all of its nodes. -/
theorem looksSame {i j : NodeId} {file : ClusterFile} {r r' : Roster} (h : ofFile i file = .ok r)
    (h' : ofFile j file = .ok r') : file.LooksSame r r' where
  count := ⟨count_eq h, by rw [count_eq h, count_eq h']⟩
  groupMembers group := by
    refine ⟨entries_groupMembers h group, SortedMap.ext_get? fun id => ?_⟩
    rw [SortedMap.get?, SortedMap.get?, entries_groupMembers h, entries_groupMembers h']
  locator hle := by
    -- Which peer is found first matters only from two locators on.
    match hlocators : file.locators with
    | [] =>
      rw [locator_of_nil h hlocators, locator_of_nil h' hlocators]
      simp
    | [(id, n)] =>
      rw [locator_of_singleton h hlocators, locator_of_singleton h' hlocators]
      simp [eq_comm]
    | e :: f :: rest => simp [hlocators] at hle

end Roster

/-! ## Parts -/

namespace Roster

variable {r : Roster} {modules : Modules} (h : r.modules? = some modules)

include h

/-- A node has a member, of the name that it was given, exactly if that is one of its roles. -/
theorem member?_of_modules? :
    modules.member? =
      if r.this.isMember then some (.new (r.this.memberName r.thisId)) else none := by
  rw [modules?] at h
  split at h
  · rw [← Option.some.inj h]
  · cases h

theorem isSome_member? : modules.member?.isSome = r.this.isMember := by
  rw [member?_of_modules? h]
  cases r.this.isMember <;> rfl

theorem name_of_member? {m : Member} (hm : modules.member? = some m) :
    m.name = r.this.memberName r.thisId := by
  rw [member?_of_modules? h] at hm
  split at hm
  · rw [← Option.some.inj hm, Member.new]
  · cases hm

end Roster

/-! ## Calls -/

/-- The port to which a request to an address goes, which is that of the scheme unless another one
is given. -/
def Http.Url.dialedPort (u : Http.Url) : Nat := u.port?.getD (if u.secure then 443 else 80)

theorem Http.Url.dialedPort_ofAddress (x : SocketAddress) (path : String) :
    (ofAddress x path).dialedPort = x.port.toNat := by
  rw [dialedPort, ofAddress]
  dsimp only
  split
  · rename_i hport
    exact hport.symm
  · rfl

theorem Node.isUnscoped_httpAddress (n : Node) : n.httpAddress.ip.IsUnscoped := by
  rw [httpAddress]
  cases n.address.ip with
  | v4 address => trivial
  | v6 groups scope => rfl

/-- A node that others are not told to reach elsewhere is called at its own address. -/
theorem commandUrl?_of_domainUrl? {n : Node} (h : n.domainUrl? = none) :
    commandUrl? n = some (.ofAddress n.httpAddress createRegionPath) := by
  have hpath : ∀ c ∈ createRegionPath.toList, 0x20 < c.toNat ∧ c ≠ '#' ∧ c ≠ '?' := by
    simp [createRegionPath]
  have hparse := Http.Url.parse_address n.isUnscoped_httpAddress hpath (by decide)
  rw [commandUrl?, commandAddress, Node.httpUrl, h, Option.getD_none, hparse]
  rfl

theorem readPath_createRegionPath :
    Http.Url.readPath createRegionPath.toList = createRegionPath.toList := by
  decide +kernel

theorem Http.Url.target_ofAddress (x : SocketAddress) :
    (ofAddress x createRegionPath).target = createRegionPath := by
  rw [target, ofAddress]
  simp [readPath_createRegionPath]

theorem Http.Url.isSendable_command (x : SocketAddress) :
    (ofAddress x createRegionPath).isSendable = true := by
  apply isSendable_ofAddress
  rw [readPath_createRegionPath]
  decide

/-! ## The nodes of a file -/

/-- What the roster `r` says about a node, which has the settings `n` there, is what this node finds
out about itself in its `own` roster, and what the parts are that it runs. -/
structure Roster.KnowsAs (r own : Roster) (n : Node) (modules : Modules) : Prop where
  /-- The node is listed once, with its own settings. -/
  listed : n = own.this ∧ ∀ m, (own.thisId, m) ∈ r.all ↔ m = n
  /-- The node is a candidate for groups exactly if it has a member. -/
  hasMember : n.isMember = true ↔ modules.member?.isSome = true
  inGroup : ∀ group, (own.thisId, n) ∈ (r.groupMembers group).entries ↔
    modules.member?.isSome = true ∧ n.groups.contains group = true
  /-- The member bears the name under which the node is reported. -/
  name : ∀ m, modules.member? = some m → m.name = n.memberName own.thisId
  /-- Reports of commands that went to the member have its name. -/
  reported : ∀ {σ : Type} (t : Transport σ) limit group c s report m,
    n.groups.contains group = true → modules.member? = some m →
      ((Engine.http r t).run limit group c s).1 = some (.ok report) →
        m.name ∈ report.statuses.keys
  /-- At any time the endpoint of the node knows commands exactly if the node is a candidate. -/
  served : ∀ {σ : Type} (e : Endpoint σ) engine qs q, q.path = createRegionPath →
    q.method ≠ "OPTIONS" →
      ((e.serve q (e.run qs ⟨engine, modules.member?⟩)).1.status = 404 ↔ n.isMember = false)
  /-- Without another address, commands go to the port at which the node listens. -/
  dialed : n.domainUrl? = none → ∃ url,
    url.dialedPort = own.listenAddress.port.toNat ∧ url.target = createRegionPath ∧
      ∀ {σ : Type} (t : Transport σ) c s, callMember t n.httpUrl c s =
        ((t.post url c.toJson.render s).1.status? t.charsets n url,
          (t.post url c.toJson.render s).2)

namespace Roster

section

variable {i j : NodeId} {file : ClusterFile} {r own : Roster} (h : ofFile i file = .ok r)
  (hown : ofFile j file = .ok own)

include h hown

/-- Both rosters come from one list, so a node is in the other one what it is in its own. -/
theorem mem_all_iff_eq {m : Node} : (own.thisId, m) ∈ r.all ↔ m = own.this := by
  have hself : (own.thisId, own.this) ∈ own.all := by simp [all]
  rw [mem_all_iff h, (mem_all_iff hown).1 hself, Option.some.injEq, eq_comm]

theorem mem_groupMembers_iff_isSome {modules : Modules} (hmodules : own.modules? = some modules)
    (group : String) :
    (own.thisId, own.this) ∈ (r.groupMembers group).entries ↔
      modules.member?.isSome = true ∧ own.this.groups.contains group = true := by
  rw [mem_groupMembers_iff h, and_iff_right ((mem_all_iff_eq h hown).2 rfl), Node.isMemberOf,
    Bool.and_eq_true, isSome_member? hmodules]

/-- A node of a list is known from all others as it is. -/
theorem knowsAs {modules : Modules} (hmodules : own.modules? = some modules) :
    r.KnowsAs own own.this modules where
  listed := ⟨rfl, fun m => mem_all_iff_eq h hown⟩
  hasMember := by rw [isSome_member? hmodules]
  inGroup := mem_groupMembers_iff_isSome h hown hmodules
  name m hm := name_of_member? hmodules hm
  reported t limit group c s report m hcontains hm hrun := by
    have hsome : modules.member?.isSome = true := by rw [hm, Option.isSome_some]
    have hentry := (mem_groupMembers_iff_isSome h hown hmodules group).2 ⟨hsome, hcontains⟩
    exact (mem_keys_of_http_run hrun).2 ⟨_, hentry, (name_of_member? hmodules hm).symm⟩
  served e engine qs q hpath hmethod := by
    rw [Endpoint.notFound_command_run_iff hpath hmethod, ← isSome_member? hmodules,
      Option.isSome_eq_false_iff, Option.isNone_iff_eq_none]
  dialed hdomain := by
    -- Its own address is read back, with the port that it was written with.
    refine ⟨_, Http.Url.dialedPort_ofAddress own.this.httpAddress createRegionPath,
      Http.Url.target_ofAddress _, ?_⟩
    exact callMember_of_commandUrl? (commandUrl?_of_domainUrl? hdomain)
      (Http.Url.isSendable_command _)

end

theorem ofFile_of_read {thisId : NodeId} {directory : String} {bytes : List UInt8} {r : Roster}
    (h : read thisId directory (.ok bytes) = .ok r) :
    ∃ file, ClusterFile.ofBytes? bytes = some file ∧ ofFile thisId file = .ok r := by
  rw [read] at h
  split at h
  · cases h
  · rename_i file hfile
    exact ⟨file, hfile, h⟩

/-- **One cluster.**  Two nodes that accept the same file count the same nodes, have the same
members in every group, and name the same locator unless there are several.  Each of them lists the
other one once, and what it says about it holds at that node: whether there is a member, under which
name, and where it is to be called. -/
theorem views_agree {bytes : List UInt8} {i j : NodeId} {directory directory' : String}
    {r r' : Roster} (h : read i directory (.ok bytes) = .ok r)
    (h' : read j directory' (.ok bytes) = .ok r') :
    (∃ file, ClusterFile.ofBytes? bytes = some file ∧ file.LooksSame r r') ∧
      r'.thisId = j ∧ ∃ n modules, r'.modules? = some modules ∧ r.KnowsAs r' n modules := by
  obtain ⟨file, hfile, hr⟩ := ofFile_of_read h
  obtain ⟨file', hfile', hr'⟩ := ofFile_of_read h'
  rw [hfile] at hfile'
  cases hfile'
  obtain ⟨modules, hmodules⟩ : ∃ modules, r'.modules? = some modules := by
    rw [modules?, if_pos (hasRole_of_ofFile hr')]
    exact ⟨_, rfl⟩
  refine ⟨⟨file, hfile, looksSame hr hr'⟩, ?_, r'.this, modules, hmodules,
    knowsAs hr hr' hmodules⟩
  obtain ⟨this, -, -, rfl⟩ := ofFile_eq_ok hr'
  rfl

/-! ## A file of two nodes -/

/-- A file with two members, of which one is also the locator. -/
def pairText : String :=
  "nodes:\n" ++
  "  2:\n    addr: \"[::1]:9002\"\n    spec: [member]\n    groups: [cluster]\n" ++
  "  1:\n    addr: \"[::1]:9000\"\n    spec: [member, locator]\n    groups: [cluster]\n"

theorem ofBytes?_pairText : ClusterFile.ofBytes? (Text.encode pairText) = some pairFile := by
  decide +kernel

/-- The roster of the node that is only a member. -/
def memberRoster : Roster := ⟨2, .onLoopback 9002 ["member"], pairFile.nodes.erase 2, .default⟩

theorem read_pairText : read 1 "" (.ok (Text.encode pairText)) = .ok pairRoster := by
  rw [read, ofBytes?_pairText]
  exact ofFile_pairFile

theorem read_pairText_member : read 2 "" (.ok (Text.encode pairText)) = .ok memberRoster := by
  rw [read, ofBytes?_pairText]
  rfl

/-- What the locator knows of the member is what the member is. -/
theorem views_agree_pairText :
    read 1 "" (.ok (Text.encode pairText)) = .ok pairRoster ∧
      read 2 "" (.ok (Text.encode pairText)) = .ok memberRoster ∧
        (∃ file, ClusterFile.ofBytes? (Text.encode pairText) = some file ∧
          file.LooksSame pairRoster memberRoster) ∧
            memberRoster.thisId = 2 ∧ ∃ n modules, memberRoster.modules? = some modules ∧
              pairRoster.KnowsAs memberRoster n modules :=
  ⟨read_pairText, read_pairText_member, views_agree read_pairText read_pairText_member⟩

end Roster

end CacheCluster
