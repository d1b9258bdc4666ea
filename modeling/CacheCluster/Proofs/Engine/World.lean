import CacheCluster.Proofs.Engine.Arrival
import CacheCluster.Proofs.Locator.Run

/-!
# Members and the calls to them

Any number of requests are under way at the same time.  Each of them sends one copy of its command
to every member of the administered group; a member carries out the copies that reach it one by one,
in an order of its own, and copies and replies may be lost, or come when nobody waits for them any
more.

## Main definitions

* `Copy`, `Call` : the copy of a command for one member, and a request that is under way.
* `Roster.conclude` : what a call returns.
* `World`, `Event`, `World.next`, `World.run` : members with the calls to them, what can happen to
  them, and what it leaves.

## Main results

* `Roster.exists_conclude_eq_ok_iff` : when a call returns a report.
* `Locator.createRegion_eq_conclude` : the outcome of a request over HTTP is what its call returns.
* `World.run_snoc` : one event more.
-/

namespace CacheCluster

open Region (Path Config)

/-! ## Calls -/

/-- What has become of the copy of a command that was sent to a member. -/
inductive Copy
  | underWay
  | lost
  | carriedOut (status : Status)
  deriving DecidableEq

/-- A request whose command was sent, with what has become of the copies, what was heard of the
members, and what was returned. -/
structure Call where
  request : Region.Request
  command : Command
  copies : NodeId → Option Copy
  heard : NodeId → Option Status
  outcome? : Option Outcome

/-- What a call returns after what was heard of the members. -/
def Roster.conclude (r : Roster) (request : Region.Request) (heard : NodeId → Option Status) :
    Outcome :=
  requireSuccess request.name ((r.gather r.management.adminGroup heard).getD
    (.error (.dispatch (.timeout r.management.adminGroup r.management.timeout))))

namespace Call

/-- A call whose command is under way to every member of the group. -/
def new (r : Roster) (request : Region.Request) (c : Command) : Call where
  request := request
  command := c
  copies id := if (r.groupMembers r.management.adminGroup).contains id then some .underWay else none
  heard _ := none
  outcome? := none

/-- The path of the region that is asked for. -/
def path (call : Call) : Path := .ofName call.command.targetPath

/-- The call after its copy for a member was carried out. -/
def carryOut (id : NodeId) (status : Status) (call : Call) : Call :=
  { call with copies := Function.update call.copies id (some (.carriedOut status)) }

/-- The call after its copy for a member, or the reply to it, was lost. -/
def lose (id : NodeId) (call : Call) : Call :=
  { call with copies := Function.update call.copies id (some .lost) }

/-- The call after a status for a member came in; only the first one counts, and none after the call
has returned. -/
def hear (id : NodeId) (status : Status) (call : Call) : Call :=
  if call.outcome?.isNone && (call.heard id).isNone then
    { call with heard := Function.update call.heard id (some status) }
  else call

/-- The call after the reply of a member came in, if the member has carried the copy out. -/
def answer (id : NodeId) (call : Call) : Call :=
  match call.copies id with
  | some (.carriedOut status) => call.hear id status
  | _ => call

/-- The call after it has returned. -/
def conclude (r : Roster) (call : Call) : Call :=
  match call.outcome? with
  | none => { call with outcome? := some (r.conclude call.request call.heard) }
  | some _ => call

/-- The request of a call with its command. -/
def origin (call : Call) : Region.Request × Command := (call.request, call.command)

@[simp] theorem origin_carryOut (id : NodeId) (status : Status) (call : Call) :
    (call.carryOut id status).origin = call.origin := rfl

@[simp] theorem origin_lose (id : NodeId) (call : Call) : (call.lose id).origin = call.origin := rfl

@[simp] theorem origin_hear (id : NodeId) (status : Status) (call : Call) :
    (call.hear id status).origin = call.origin := by
  unfold hear
  split <;> rfl

@[simp] theorem origin_answer (id : NodeId) (call : Call) :
    (call.answer id).origin = call.origin := by
  unfold answer
  split
  · exact origin_hear ..
  · rfl

@[simp] theorem origin_conclude (r : Roster) (call : Call) :
    (call.conclude r).origin = call.origin := by
  unfold conclude
  split <;> rfl

end Call

/-! ## What a call returns -/

/-- A call returns a report just when there are members and each of them replied that it did what it
was asked. -/
theorem Roster.exists_conclude_eq_ok_iff {r : Roster} {request : Region.Request}
    {heard : NodeId → Option Status} :
    (∃ report, r.conclude request heard = .ok report) ↔
      (r.groupMembers r.management.adminGroup).entries ≠ [] ∧
        ∀ e ∈ (r.groupMembers r.management.adminGroup).entries,
          ∃ status, heard e.1 = some status ∧ status.isSuccess = true := by
  -- The error that stands for a call which is not through in time is no report.
  have hgetD : ∀ report e, (r.gather r.management.adminGroup heard).getD (.error e) = .ok report ↔
      r.gather r.management.adminGroup heard = some (.ok report) := by
    intro report e
    cases r.gather r.management.adminGroup heard <;> simp
  simp only [conclude, requireSuccess_eq_ok_iff, hgetD, gather_eq_ok_iff]
  constructor
  · rintro ⟨report, ⟨hne, said, hsaid, rfl⟩, hsuccess⟩
    rw [Report.isSuccessful_ofList, List.forall_mem_map] at hsuccess
    exact ⟨hne, fun e he => ⟨said e, hsaid e he, hsuccess e he⟩⟩
  · rintro ⟨hne, hall⟩
    have hsaid : ∀ e ∈ (r.groupMembers r.management.adminGroup).entries,
        heard e.1 = some ((heard e.1).getD default) ∧
          ((heard e.1).getD default).isSuccess = true := by
      intro e he
      obtain ⟨status, hstatus, hsuccess⟩ := hall e he
      rw [hstatus]
      exact ⟨rfl, hsuccess⟩
    refine ⟨_, ⟨hne, _, fun e he => (hsaid e he).1, rfl⟩, ?_⟩
    rw [Report.isSuccessful_ofList, List.forall_mem_map]
    exact fun e he => (hsaid e he).2

/-- The outcome of a request over HTTP is what its call returns when everything has arrived that
comes of the calls to the members. -/
theorem Locator.createRegion_eq_conclude {σ : Type} {r : Roster} {request : Region.Request}
    {config : Config} (h : request.validate r.management.rejectUnknownType = .ok config)
    (t : Transport σ) (s : σ) {arrivals : List Arrival}
    (harrivals : arrivals.Perm (r.calls r.management.adminGroup t
      (.ofRequest r.management.adminGroup request config) s)) :
    (createRegion r.management (Engine.http r t) request s).1 =
      r.conclude request
        (heardAfter t.charsets (.ofRequest r.management.adminGroup request config) arrivals) := by
  rw [createRegion_of_validate h, http_run_eq_gather harrivals, Roster.conclude]

/-! ## Worlds -/

/-- Members by their numbers, and the calls so far. -/
structure World where
  members : NodeId → Member
  calls : List Call

/-- What can happen: a request comes in; the copy of a call reaches a member, or it or the reply to
it gets lost; the reply comes in, or the connection fails; the call returns. -/
inductive Event
  | submit (request : Region.Request)
  | arrive (call : Nat) (id : NodeId)
  | lose (call : Nat) (id : NodeId)
  | answer (call : Nat) (id : NodeId)
  | fail (call : Nat) (id : NodeId) (reason : String)
  | conclude (call : Nat)
  deriving DecidableEq

/-- In a list in which one entry was changed there are the ones before and the changed one. -/
theorem mem_modify {α : Type} {l : List α} {k : Nat} {f : α → α} {b : α} (h : b ∈ l.modify k f) :
    b ∈ l ∨ ∃ a, l[k]? = some a ∧ f a = b := by
  obtain ⟨j, hj⟩ := List.mem_iff_getElem?.1 h
  rw [List.getElem?_modify] at hj
  obtain ⟨a, ha, hb⟩ := Option.map_eq_some_iff.1 hj
  by_cases hkj : k = j
  · subst hkj
    exact .inr ⟨a, ha, by rwa [if_pos rfl] at hb⟩
  · rw [if_neg hkj] at hb
    subst hb
    exact .inl (List.mem_of_getElem? ha)

namespace World

/-- Members without regions, and no call. -/
def start (names : NodeId → String) : World := ⟨fun id => .new (names id), []⟩

/-- A world after something happened to one of the calls. -/
def onCall (w : World) (k : Nat) (f : Call → Call) : World := { w with calls := w.calls.modify k f }

/-- What an event leaves of a world; what cannot happen leaves it as it is. -/
def next (r : Roster) (w : World) : Event → World
  | .submit request =>
    match Locator.command? r.management request with
    | some c => { w with calls := w.calls ++ [.new r request c] }
    | none => w
  | .arrive k id =>
    match w.calls[k]? with
    | some call =>
      -- A copy that was lost or carried out does not arrive again.
      if call.copies id = some .underWay then
        let done := (w.members id).execute call.command
        onCall ⟨Function.update w.members id done.2, w.calls⟩ k (·.carryOut id done.1.status)
      else w
    | none => w
  | .lose k id => w.onCall k (·.lose id)
  | .answer k id => w.onCall k (·.answer id)
  | .fail k id reason => w.onCall k (·.hear id (.failure reason))
  | .conclude k => w.onCall k (·.conclude r)

/-- What events leave of a world, one after the other. -/
def run (r : Roster) (w : World) (events : List Event) : World := events.foldl (next r) w

theorem run_append (r : Roster) (w : World) (events later : List Event) :
    w.run r (events ++ later) = (w.run r events).run r later := List.foldl_append

theorem run_snoc (r : Roster) (w : World) (events : List Event) (event : Event) :
    w.run r (events ++ [event]) = (w.run r events).next r event := run_append r w events [event]

end World

end CacheCluster
