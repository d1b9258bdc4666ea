import CacheCluster.Node.File
import CacheCluster.Node.Modules
import CacheCluster.Proofs.Node.Roster
import Mathlib.Order.Bounds.Basic

/-!
# Which rosters are accepted

The nodes of a list are checked by number, and the first one that leaves no port for its endpoint,
or has the name of a member before it, is the one that is blamed.  In which order the nodes were
listed makes no difference.

## Main definitions

* `SharesName`, `Unfit` : two members of one name, and a node that the check does not let pass.
* `Blames` : what is to be said of the unfit node of the least number.
* `Registers` : the invariant of the check, by which every name stands for its only holder.
* `Roster.ofListing` : the roster of one node, from nodes in any order.

## Main results

* `checkNodes_cases` : the check passes when no node is unfit, and otherwise blames the first.
* `Roster.ofListing_of_perm` : the order of a listing makes no difference.
* `Roster.ofFile_exact` : which rosters are accepted, why others are not, and what an accepted one
  guarantees.
-/

namespace CacheCluster

/-- Two members, the first of the smaller number, that report under one name. -/
def SharesName (nodes : SortedMap NodeId Node) (a b : NodeId) : Prop :=
  a < b ∧ ∃ m n, nodes.get? a = some m ∧ nodes.get? b = some n ∧
    m.isMember = true ∧ n.isMember = true ∧ m.memberName a = n.memberName b

/-- A node that leaves no port for its endpoint, or a member that has the name of one of a smaller
number. -/
def Unfit (nodes : SortedMap NodeId Node) (b : NodeId) : Prop :=
  (∃ n, nodes.get? b = some n ∧ n.address.port = 65535) ∨ ∃ a, SharesName nodes a b

/-- What is to be said of the unfit node of the least number.  A missing port counts before a shared
name, and the other holder of a shared name is the only one. -/
inductive Blames (nodes : SortedMap NodeId Node) : ConfigError → Prop
  | noPort {b : NodeId} {n : Node} (hleast : IsLeast {b | Unfit nodes b} b)
      (hn : nodes.get? b = some n) (hport : n.address.port = 65535) :
      Blames nodes (.noHttpPort b)
  | sharedName {a b : NodeId} {n : Node} (hleast : IsLeast {b | Unfit nodes b} b)
      (hn : nodes.get? b = some n) (hport : n.address.port ≠ 65535)
      (honly : ∀ a', SharesName nodes a' b ↔ a' = a) :
      Blames nodes (.duplicateMemberName (n.memberName b) a b)

/-! ## Ports -/

theorem Node.httpPort?_isNone_iff {n : Node} :
    n.httpPort?.isNone = true ↔ n.address.port = 65535 := by
  rw [httpPort?]
  split <;> simp [*]

theorem Node.port_httpAddress {n : Node} (h : n.address.port ≠ 65535) :
    n.httpAddress.port.toNat = n.address.port.toNat + 1 := by
  have hlt : n.address.port.toNat < 65535 := by
    have hle : n.address.port.toNat < 65536 := n.address.port.toNat_lt
    have hne : n.address.port.toNat ≠ 65535 := fun he => h (UInt16.toNat_inj.1 he)
    omega
  rw [httpAddress, httpPort?, if_neg h, Option.getD_some, UInt16.toNat_add]
  exact Nat.mod_eq_of_lt (Nat.succ_lt_succ hlt)

/-! ## The check -/

/-- The names of the members among some nodes, each with its only holder. -/
def Registers (named : List (String × NodeId)) (before : List (NodeId × Node)) : Prop :=
  ∀ name a, named.lookup name = some a ↔
    ∃ m, (a, m) ∈ before ∧ m.isMember = true ∧ m.memberName a = name

theorem registers_nil : Registers [] [] := by
  intro name a
  simp

theorem Registers.passOver {named : List (String × NodeId)} {before : List (NodeId × Node)}
    (h : Registers named before) {b : NodeId} {n : Node} (hn : n.isMember = false) :
    Registers named (before ++ [(b, n)]) := by
  intro name a
  rw [h name a]
  refine exists_congr fun m => ?_
  simp only [List.mem_append, List.mem_singleton, Prod.mk.injEq]
  constructor
  · rintro ⟨hm, hrest⟩
    exact ⟨.inl hm, hrest⟩
  · rintro ⟨hm | ⟨rfl, rfl⟩, hmember, hname⟩
    · exact ⟨hm, hmember, hname⟩
    · rw [hn] at hmember
      cases hmember

theorem Registers.add {named : List (String × NodeId)} {before : List (NodeId × Node)}
    (h : Registers named before) {b : NodeId} {n : Node} (hn : n.isMember = true)
    (hnew : named.lookup (n.memberName b) = none) :
    Registers ((n.memberName b, b) :: named) (before ++ [(b, n)]) := by
  intro name a
  have hold := h name a
  simp only [List.mem_append, List.mem_singleton, Prod.mk.injEq, or_and_right, exists_or,
    List.lookup_cons, ← hold]
  by_cases hname : name = n.memberName b
  · -- Nobody before has this name, so that the new holder is the only one.
    subst hname
    simp only [beq_self_eq_true, hnew]
    constructor
    · rintro ⟨⟩
      exact .inr ⟨n, ⟨rfl, rfl⟩, hn, rfl⟩
    · rintro (h' | ⟨m, ⟨rfl, rfl⟩, -⟩)
      · cases h'
      · rfl
  · simp only [beq_eq_false_iff_ne.2 hname]
    refine ⟨.inl, ?_⟩
    rintro (h' | ⟨m, ⟨rfl, rfl⟩, -, hm⟩)
    · exact h'
    · exact absurd hm.symm hname

section Split

variable {nodes : SortedMap NodeId Node} {before after : List (NodeId × Node)} {b : NodeId}
  {n : Node}

theorem get?_of_split (h : nodes.entries = before ++ (b, n) :: after) : nodes.get? b = some n := by
  rw [SortedMap.get?_eq_some_iff, h]
  simp

/-- The nodes before another one are those of smaller numbers. -/
theorem mem_before_iff (h : nodes.entries = before ++ (b, n) :: after) {a : NodeId} {m : Node} :
    (a, m) ∈ before ↔ nodes.get? a = some m ∧ a < b := by
  have hsorted := nodes.sorted
  rw [h, List.pairwise_append, List.pairwise_cons] at hsorted
  obtain ⟨-, ⟨hafter, -⟩, hbefore⟩ := hsorted
  rw [SortedMap.get?_eq_some_iff, h, List.mem_append, List.mem_cons]
  constructor
  · intro hm
    exact ⟨.inl hm, Std.compare_eq_lt.1 (hbefore _ hm _ (List.mem_cons_self ..))⟩
  · rintro ⟨hm | hm | hm, hlt⟩
    · exact hm
    · cases hm
      exact absurd hlt (Std.lt_irrefl)
    · exact absurd hlt (Std.not_lt.2 (Std.le_of_lt (Std.compare_eq_lt.1 (hafter _ hm))))

/-- The members with which a node shares its name are those that the table of names has for it. -/
theorem sharesName_iff_lookup (h : nodes.entries = before ++ (b, n) :: after)
    {named : List (String × NodeId)} (hnamed : Registers named before) {a : NodeId} :
    SharesName nodes a b ↔ n.isMember = true ∧ named.lookup (n.memberName b) = some a := by
  have hb := get?_of_split h
  rw [hnamed]
  constructor
  · rintro ⟨hlt, m, n', hm, hn', hmember, hmember', hname⟩
    rw [hb] at hn'
    cases hn'
    exact ⟨hmember', m, (mem_before_iff h).2 ⟨hm, hlt⟩, hmember, hname⟩
  · rintro ⟨hmember', m, hm, hmember, hname⟩
    obtain ⟨hget, hlt⟩ := (mem_before_iff h).1 hm
    exact ⟨hlt, m, n, hget, hb, hmember, hmember', hname⟩

theorem exists_get?_of_unfit (h : Unfit nodes b) : ∃ n, nodes.get? b = some n := by
  rcases h with ⟨n, hn, -⟩ | ⟨a, -, m, n, -, hn, -⟩
  · exact ⟨n, hn⟩
  · exact ⟨n, hn⟩

/-- An unfit node behind fit ones is that of the least number. -/
theorem isLeast_of_split (h : nodes.entries = before ++ (b, n) :: after)
    (hfit : ∀ e ∈ before, ¬ Unfit nodes e.1) (hb : Unfit nodes b) :
    IsLeast {b | Unfit nodes b} b := by
  refine ⟨hb, fun c hc => ?_⟩
  obtain ⟨m, hm⟩ := exists_get?_of_unfit hc
  rw [← Std.not_lt]
  intro hlt
  exact hfit (c, m) ((mem_before_iff h).2 ⟨hm, hlt⟩) hc

end Split

/-- The check of the nodes that are left, when those before them are fit and their names are known,
passes if no node is unfit, and otherwise blames the first that is. -/
theorem checkNodes_cases {nodes : SortedMap NodeId Node} {before rest : List (NodeId × Node)}
    (h : nodes.entries = before ++ rest) {named : List (String × NodeId)}
    (hnamed : Registers named before) (hfit : ∀ e ∈ before, ¬ Unfit nodes e.1) :
    (checkNodes named rest = .ok () ∧ ∀ b, ¬ Unfit nodes b) ∨
      ∃ e, checkNodes named rest = .error e ∧ Blames nodes e := by
  induction rest generalizing before named with
  | nil =>
    refine .inl ⟨rfl, fun b hb => ?_⟩
    obtain ⟨n, hn⟩ := exists_get?_of_unfit hb
    rw [SortedMap.get?_eq_some_iff, h, List.append_nil] at hn
    exact hfit _ hn hb
  | cons e rest ih =>
    obtain ⟨b, n⟩ := e
    have hb := get?_of_split h
    have hshares := fun {a} => sharesName_iff_lookup h hnamed (a := a)
    rw [checkNodes]
    by_cases hport : n.address.port = 65535
    · rw [if_pos (Node.httpPort?_isNone_iff.2 hport)]
      exact .inr ⟨_, rfl, .noPort (isLeast_of_split h hfit (.inl ⟨n, hb, hport⟩)) hb hport⟩
    rw [if_neg (mt Node.httpPort?_isNone_iff.1 hport)]
    -- With a port, the node is unfit exactly when it shares its name with one before it.
    have hunfit : Unfit nodes b ↔ ∃ a, SharesName nodes a b := by
      refine or_iff_right ?_
      rintro ⟨n', hn', hport'⟩
      rw [hb] at hn'
      cases hn'
      exact hport hport'
    have hnext : ¬ Unfit nodes b → ∀ e ∈ before ++ [(b, n)], ¬ Unfit nodes e.1 := by
      intro hfitb e he
      rcases List.mem_append.1 he with he | he
      · exact hfit e he
      · rw [List.mem_singleton.1 he]
        exact hfitb
    have h' : nodes.entries = (before ++ [(b, n)]) ++ rest := by
      rw [h, List.append_assoc]
      rfl
    cases hmember : n.isMember with
    | false =>
      rw [if_neg Bool.false_ne_true]
      refine ih h' (hnamed.passOver hmember) (hnext ?_)
      simp [hunfit, hshares, hmember]
    | true =>
      rw [if_pos rfl]
      dsimp only
      cases hlookup : named.lookup (n.memberName b) with
      | none =>
        refine ih h' (hnamed.add hmember hlookup) (hnext ?_)
        simp [hunfit, hshares, hlookup]
      | some a =>
        have honly : ∀ a', SharesName nodes a' b ↔ a' = a := by
          intro a'
          rw [hshares, hlookup, hmember]
          simp [eq_comm]
        have hleast := isLeast_of_split h hfit (hunfit.2 ⟨a, (honly a).2 rfl⟩)
        exact .inr ⟨_, rfl, .sharedName hleast hb hport honly⟩

theorem checkNodes_entries (nodes : SortedMap NodeId Node) :
    (checkNodes [] nodes.entries = .ok () ∧ ∀ b, ¬ Unfit nodes b) ∨
      ∃ e, checkNodes [] nodes.entries = .error e ∧ Blames nodes e :=
  checkNodes_cases (List.nil_append _).symm registers_nil (by simp)

theorem Blames.exists_unfit {nodes : SortedMap NodeId Node} {e : ConfigError}
    (h : Blames nodes e) : ∃ b, Unfit nodes b := by
  cases h with
  | noPort hleast _ _ => exact ⟨_, hleast.1⟩
  | sharedName hleast _ _ _ => exact ⟨_, hleast.1⟩

/-- There is one thing to say. -/
theorem Blames.unique {nodes : SortedMap NodeId Node} {e f : ConfigError} (he : Blames nodes e)
    (hf : Blames nodes f) : e = f := by
  have hleast : ∀ {b c : NodeId}, IsLeast {b | Unfit nodes b} b → IsLeast {b | Unfit nodes b} c →
      b = c := fun hb hc => Std.le_antisymm (hb.2 hc.1) (hc.2 hb.1)
  cases he with
  | noPort hb hn hport =>
    cases hf with
    | noPort hc _ _ => rw [hleast hb hc]
    | sharedName hc hn' hport' _ =>
      obtain rfl := hleast hb hc
      rw [hn] at hn'
      cases hn'
      exact absurd hport hport'
  | sharedName hb hn hport honly =>
    cases hf with
    | noPort hc hn' hport' =>
      obtain rfl := hleast hb hc
      rw [hn] at hn'
      cases hn'
      exact absurd hport' hport
    | sharedName hc hn' _ honly' =>
      obtain rfl := hleast hb hc
      rw [hn] at hn'
      cases hn'
      rw [(honly' _).1 ((honly _).2 rfl)]

/-! ## Listings in any order -/

theorem lookup_eq_some_iff_mem {l : List (NodeId × Node)} (h : (l.map Prod.fst).Nodup)
    {id : NodeId} {n : Node} : l.lookup id = some n ↔ (id, n) ∈ l := by
  induction l with
  | nil => simp
  | cons e l ih =>
    rw [List.map_cons, List.nodup_cons] at h
    rw [List.lookup_cons, List.mem_cons]
    by_cases hid : id = e.1
    · subst hid
      have hnew : (e.1, n) ∉ l := fun hmem => h.1 (List.mem_map.2 ⟨_, hmem, rfl⟩)
      rw [beq_self_eq_true, or_iff_left hnew]
      simp [Prod.ext_iff, eq_comm]
    · rw [beq_eq_false_iff_ne.2 hid]
      simp only [ih h.2]
      exact (or_iff_right fun he => hid (congrArg Prod.fst he)).symm

/-- Nodes in any order are brought into the order of their numbers. -/
theorem mergeSort_of_perm {nodes : SortedMap NodeId Node} {l : List (NodeId × Node)}
    (h : l.Perm nodes.entries) : (l.mergeSort fun a b => a.1 ≤ b.1) = nodes.entries := by
  have hsorted : (l.mergeSort fun a b => a.1 ≤ b.1).Pairwise fun a b => a.1 ≤ b.1 := by
    refine (List.pairwise_mergeSort ?_ ?_ l).imp fun hle => by simpa using hle
    · intro a b c hab hbc
      simp only [decide_eq_true_eq] at hab hbc ⊢
      exact Std.le_trans hab hbc
    · intro a b
      simpa using Std.le_total
  have hentries : nodes.entries.Pairwise fun a b => a.1 ≤ b.1 :=
    nodes.sorted.imp fun hlt => Std.le_of_lt (Std.compare_eq_lt.1 hlt)
  have hperm : (l.mergeSort fun a b => a.1 ≤ b.1).Perm nodes.entries :=
    (List.mergeSort_perm ..).trans h
  refine hperm.eq_of_pairwise (fun a b ha hb hab hba => ?_) hsorted hentries
  exact List.inj_on_of_nodup_map nodes.nodup_keys (hperm.mem_iff.1 ha) hb (Std.le_antisymm hab hba)

namespace Roster

/-- The roster of one node from nodes that are listed in any order: this node is taken out, and then
its peers and itself are checked by number. -/
def ofListing (thisId : NodeId) (management : Management) (listing : List (NodeId × Node)) :
    Except ConfigError Roster :=
  match listing.lookup thisId with
  | none => .error (.thisNodeMissing thisId)
  | some this =>
    if this.hasRole then do
      let peers := listing.filter fun e => e.1 != thisId
      checkNodes [] ((peers ++ [(thisId, this)]).mergeSort fun a b => a.1 ≤ b.1)
      return ⟨thisId, this, .ofList peers, management⟩
    else .error (.noRole thisId)

variable {thisId : NodeId} {file : ClusterFile} {this : Node} {r : Roster}

/-- **Any order.**  The order in which nodes are listed makes no difference. -/
theorem ofListing_of_perm {listing : List (NodeId × Node)} (h : listing.Perm file.nodes.entries) :
    ofListing thisId file.management listing = ofFile thisId file := by
  have hlookup : listing.lookup thisId = file.nodes.get? thisId := by
    ext n
    rw [lookup_eq_some_iff_mem (SortedMap.nodup_fst_of_perm h), SortedMap.get?_eq_some_iff,
      h.mem_iff]
  rw [ofListing, ofFile, hlookup]
  cases hthis : file.nodes.get? thisId with
  | none => rfl
  | some this =>
    have hpeers :
        (listing.filter fun e => e.1 != thisId).Perm (file.nodes.erase thisId).entries := by
      have hfilter : (file.nodes.erase thisId).entries =
          file.nodes.entries.filter fun e => e.1 != thisId := by
        rw [SortedMap.erase]
        refine List.filter_congr fun e _ => ?_
        rw [Bool.eq_iff_iff, bne_iff_ne, bne_iff_ne, ne_eq, ne_eq,
          Std.LawfulEqOrd.compare_eq_iff_eq, eq_comm]
      rw [hfilter]
      exact h.filter _
    have hall := (hpeers.append_right [(thisId, this)]).trans (SortedMap.erase_append_perm hthis)
    simp only [mergeSort_of_perm hall, SortedMap.ofList_of_perm hpeers]

/-! ## Accepted rosters -/

theorem ofFile_of_hasRole (hthis : file.nodes.get? thisId = some this)
    (hrole : this.hasRole = true) :
    ofFile thisId file = (checkNodes [] file.nodes.entries).map fun _ =>
      ⟨thisId, this, file.nodes.erase thisId, file.management⟩ := by
  rw [ofFile, hthis]
  dsimp only
  rw [if_pos hrole]
  cases checkNodes [] file.nodes.entries <;> rfl

theorem hasRole_of_ofFile (h : ofFile thisId file = .ok r) : r.this.hasRole = true := by
  obtain ⟨this, hthis, -, rfl⟩ := ofFile_eq_ok h
  rw [ofFile, hthis] at h
  by_contra hrole
  dsimp only at h hrole
  rw [if_neg hrole] at h
  cases h

/-- The nodes of a roster are those that were listed. -/
theorem all_perm (h : ofFile thisId file = .ok r) : r.all.Perm file.nodes.entries := by
  obtain ⟨this, hthis, -, rfl⟩ := ofFile_eq_ok h
  exact SortedMap.erase_append_perm hthis

theorem not_unfit (h : ofFile thisId file = .ok r) (b : NodeId) : ¬ Unfit file.nodes b := by
  obtain ⟨this, -, hcheck, -⟩ := ofFile_eq_ok h
  rcases checkNodes_entries file.nodes with ⟨-, hfit⟩ | ⟨e, he, -⟩
  · exact hfit b
  · rw [hcheck] at he
    cases he

/-- All members of a roster have different names. -/
theorem nodup_names (h : ofFile thisId file = .ok r) :
    ((r.all.filter fun e => e.2.isMember).map fun e => e.2.memberName e.1).Nodup := by
  obtain ⟨this, -, hcheck, -⟩ := ofFile_eq_ok h
  exact (((all_perm h).filter _).map reportName).nodup_iff.2 (nodup_of_checkNodes hcheck).1

theorem port_of_mem_all (h : ofFile thisId file = .ok r) {e : NodeId × Node} (he : e ∈ r.all) :
    e.2.httpAddress.port.toNat = e.2.address.port.toNat + 1 := by
  apply Node.port_httpAddress
  intro hport
  have hget := SortedMap.get?_eq_some_iff.2 ((all_perm h).mem_iff.1 he)
  exact not_unfit h e.1 (.inl ⟨e.2, hget, hport⟩)

/-- **Which rosters are accepted.**  Neither the order in which the nodes are listed nor the file
that they come from matters.  A node that is not listed has no roster, nor has one without a role.
For any other node the roster is accepted exactly when no node of the list is unfit, and otherwise
the error is what is to be said of the unfit node of the least number.  In an accepted roster all
members have different names, this node is none of its peers, every endpoint is at the port behind
the one of its node, and the node has parts to run. -/
theorem ofFile_exact (thisId : NodeId) (file : ClusterFile) :
    (∀ listing, listing.Perm file.nodes.entries →
      ofListing thisId file.management listing = ofFile thisId file) ∧
    (∀ directory bytes, ClusterFile.ofBytes? bytes = some file →
      read thisId directory (.ok bytes) = ofFile thisId file) ∧
    (file.nodes.get? thisId = none → ofFile thisId file = .error (.thisNodeMissing thisId)) ∧
    (∀ this, file.nodes.get? thisId = some this →
      (this.isLocator = false ∧ this.isMember = false →
        ofFile thisId file = .error (.noRole thisId)) ∧
      (this.isLocator = true ∨ this.isMember = true →
        (∀ e, ofFile thisId file = .error e ↔ Blames file.nodes e) ∧
        ((∃ r, ofFile thisId file = .ok r) ↔ ∀ b, ¬ Unfit file.nodes b))) ∧
    ∀ r, ofFile thisId file = .ok r →
      ((r.all.filter fun e => e.2.isMember).map fun e => e.2.memberName e.1).Nodup ∧
      r.thisId = thisId ∧ r.peers.get? thisId = none ∧
      (∀ e ∈ r.all, e.2.httpAddress.port.toNat = e.2.address.port.toNat + 1) ∧
      ∃ modules, r.modules? = some modules := by
  refine ⟨fun listing h => ofListing_of_perm h, ?_, ?_, ?_, ?_⟩
  · intro directory bytes hbytes
    rw [read]
    simp only [hbytes]
  · intro hnone
    rw [ofFile, hnone]
  · intro this hthis
    constructor
    · rintro ⟨hlocator, hmember⟩
      have hrole : ¬ this.hasRole = true := by simp [Node.hasRole, hlocator, hmember]
      rw [ofFile, hthis]
      exact if_neg hrole
    · intro hrole
      have hrole : this.hasRole = true := by simpa [Node.hasRole] using hrole
      rw [ofFile_of_hasRole hthis hrole]
      -- The check passes or blames somebody, and whoever is blamed is unfit.
      rcases checkNodes_entries file.nodes with ⟨hcheck, hfit⟩ | ⟨e, hcheck, hblames⟩
      · rw [hcheck]
        refine ⟨fun e => iff_of_false (by rintro ⟨⟩) fun hblames => ?_, iff_of_true ⟨_, rfl⟩ hfit⟩
        obtain ⟨b, hb⟩ := hblames.exists_unfit
        exact hfit b hb
      · rw [hcheck]
        refine ⟨fun f => ⟨?_, fun hf => ?_⟩, iff_of_false (by rintro ⟨r, ⟨⟩⟩) fun hfit => ?_⟩
        · rintro ⟨⟩
          exact hblames
        · rw [hblames.unique hf]
          rfl
        · obtain ⟨b, hb⟩ := hblames.exists_unfit
          exact hfit b hb
  · intro r h
    obtain ⟨this, -, -, hr⟩ := ofFile_eq_ok h
    refine ⟨nodup_names h, ?_, ?_, fun e he => port_of_mem_all h he, ?_⟩
    · rw [hr]
    · rw [hr]
      exact SortedMap.get?_erase_self ..
    · rw [modules?, if_pos (hasRole_of_ofFile h)]
      exact ⟨_, rfl⟩

/-- The name of a node that was given none is taken all the same, and a later node without a port
for its endpoint is not told of. -/
example :
    let member (name? : Option String) (port : UInt16) : Node :=
      ⟨⟨.v4 ⟨127, 0, 0, 1⟩, port⟩, none, name?, .ofNames ["member"], .empty⟩
    let nodes := .ofList [(1, member none 9000), (2, member (some "node-1") 9002),
      (3, member none 65535)]
    (ofFile 3 ⟨.default, nodes⟩).map Roster.thisId =
      .error (.duplicateMemberName "node-1" 1 2) := by
  rfl

end Roster

end CacheCluster
