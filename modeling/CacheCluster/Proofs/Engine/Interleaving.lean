import CacheCluster.Proofs.Engine.World
import CacheCluster.Proofs.Member
import CacheCluster.Proofs.Region.Segments

/-!
# Interleaved requests

Nothing locks a region by its name while requests for it are under way.  What the members have in
common comes only from this, that no region is ever replaced, that a member which has the region
already says so as a success, and that a path alone settles the short name of what is created there.

## Main definitions

* `Grows` : no region of any member is gone or another one.
* `Status.Vouches`, `Call.Sound` : a success that is told of a member is true of it, and so are all
  those of a call.

## Main results

* `World.grows_next`, `World.get?_of_next`, `World.sound_next` : what one event leaves.
* `World.grows_run`, `World.exists_submit_of_get?_run`, `World.sound_run` : what a run leaves.
* `World.interleaving_safe` : what holds of the members for every interleaving.
-/

namespace CacheCluster

open Region (Path Config)

/-! ## Steps -/

/-- Every region of the members is there later on as well, as it was. -/
def Grows (before after : NodeId → Member) : Prop :=
  ∀ id p config, (before id).regions.get? p = some config → (after id).regions.get? p = some config

theorem Grows.refl (members : NodeId → Member) : Grows members members := fun _ _ _ h => h

theorem Grows.trans {a b c : NodeId → Member} (hab : Grows a b) (hbc : Grows b c) : Grows a c :=
  fun id p config h => hbc id p config (hab id p config h)

/-- A command that a member carries out changes none of the regions that are there. -/
theorem grows_execute (members : NodeId → Member) (id : NodeId) (c : Command) :
    Grows members (Function.update members id ((members id).execute c).2) := by
  intro other p config h
  rw [Function.update_apply]
  split
  · rename_i heq
    rw [heq] at h
    exact Member.get?_execute_of_some h
  · exact h

theorem Grows.contains {before after : NodeId → Member} (h : Grows before after) {id : NodeId}
    {p : Path} (hp : (before id).regions.contains p = true) :
    (after id).regions.contains p = true := by
  obtain ⟨config, hconfig⟩ := Region.Table.contains_iff.1 hp
  exact Region.Table.contains_iff.2 ⟨config, h id p config hconfig⟩

namespace World

variable {r : Roster} {w : World} {event : Event}

/-- Only a copy that reaches a member changes members, and only that one. -/
theorem members_next (r : Roster) (w : World) (event : Event) :
    (w.next r event).members = w.members ∨ ∃ call ∈ w.calls, ∃ id, (w.next r event).members =
      Function.update w.members id ((w.members id).execute call.command).2 := by
  cases event with
  | submit request =>
    left
    rw [next]
    split <;> rfl
  | arrive k id =>
    -- This is the one event that gets to a member, if there is a copy to arrive.
    cases hk : w.calls[k]? with
    | none =>
      left
      simp only [next, hk]
    | some call =>
      by_cases hcopy : call.copies id = some .underWay
      · right
        refine ⟨call, List.mem_of_getElem? hk, id, ?_⟩
        simp only [next, hk, if_pos hcopy]
        rfl
      · left
        simp only [next, hk, if_neg hcopy]
  | lose k id => exact .inl rfl
  | answer k id => exact .inl rfl
  | fail k id reason => exact .inl rfl
  | conclude k => exact .inl rfl

theorem grows_next (r : Roster) (w : World) (event : Event) :
    Grows w.members (w.next r event).members := by
  rcases members_next r w event with heq | ⟨call, -, id, heq⟩
  · rw [heq]
    exact .refl _
  · rw [heq]
    exact grows_execute w.members id call.command

/-- A region that is there after an event was there before, or is that of a call. -/
theorem get?_of_next {id : NodeId} {p : Path} {config : Config}
    (h : ((w.next r event).members id).regions.get? p = some config) :
    (w.members id).regions.get? p = some config ∨
      ∃ call ∈ w.calls, call.path = p ∧ call.command.config = config := by
  rcases members_next r w event with heq | ⟨call, hcall, other, heq⟩
  · left
    rwa [heq] at h
  · rw [heq] at h
    by_cases hid : id = other
    · subst hid
      rw [Function.update_self] at h
      rcases Member.get?_of_execute h with hold | hnew
      · exact .inl hold
      · exact .inr ⟨call, hcall, hnew⟩
    · left
      rwa [Function.update_of_ne hid] at h

end World

/-! ## What a success tells -/

/-- A status tells no lie about a member: if it is a success, the member has the region. -/
def Status.Vouches (m : Member) (p : Path) (status : Status) : Prop :=
  status.isSuccess = true → m.regions.contains p = true

/-- The same for a copy that a member has carried out. -/
def Copy.Vouches (m : Member) (p : Path) : Copy → Prop
  | .carriedOut status => status.Vouches m p
  | _ => True

/-- What holds of the values of a function and of a new value holds after an update. -/
theorem forall_update {α β : Type} [DecidableEq α] {f : α → Option β} {i : α} {v : Option β}
    {P : α → β → Prop} (hf : ∀ j b, f j = some b → P j b) (hv : ∀ b, v = some b → P i b) :
    ∀ j b, Function.update f i v j = some b → P j b := by
  intro j b hb
  rw [Function.update_apply] at hb
  by_cases hj : j = i
  · rw [if_pos hj] at hb
    rw [hj]
    exact hv b hb
  · rw [if_neg hj] at hb
    exact hf j b hb

namespace Call

/-- No success that is on its way in a call, or was heard, tells a lie about a member; and if the
call has returned a report, every member of the group has the region. -/
structure Sound (r : Roster) (members : NodeId → Member) (call : Call) : Prop where
  copies : ∀ id copy, call.copies id = some copy → copy.Vouches (members id) call.path
  heard : ∀ id status, call.heard id = some status → status.Vouches (members id) call.path
  returned : ∀ report, call.outcome? = some (.ok report) →
    ∀ e ∈ (r.groupMembers r.management.adminGroup).entries,
      (members e.1).regions.contains call.path = true

namespace Sound

variable {r : Roster} {members : NodeId → Member} {call : Call} {id : NodeId} {status : Status}

/-- As regions stay, so does the truth of what was told about them. -/
theorem mono {later : NodeId → Member} (h : call.Sound r members) (hgrows : Grows members later) :
    call.Sound r later where
  copies id copy hcopy := by
    have hvouches := h.copies id copy hcopy
    cases copy with
    | carriedOut status => exact fun hsuccess => hgrows.contains (hvouches hsuccess)
    | underWay => trivial
    | lost => trivial
  heard id status hheard hsuccess := hgrows.contains (h.heard id status hheard hsuccess)
  returned report hreport e he := hgrows.contains (h.returned report hreport e he)

theorem new (r : Roster) (members : NodeId → Member) (request : Region.Request) (c : Command) :
    (Call.new r request c).Sound r members where
  copies id copy hcopy := by
    rw [Call.new] at hcopy
    dsimp only at hcopy
    split at hcopy
    · cases hcopy
      trivial
    · cases hcopy
  heard _ _ hheard := by cases hheard
  returned _ hreport := by cases hreport

theorem carryOut (h : call.Sound r members) (hstatus : status.Vouches (members id) call.path) :
    (call.carryOut id status).Sound r members where
  copies := by
    apply forall_update h.copies
    rintro _ ⟨⟩
    exact hstatus
  heard := h.heard
  returned := h.returned

theorem lose (h : call.Sound r members) : (call.lose id).Sound r members where
  copies := by
    apply forall_update h.copies
    rintro _ ⟨⟩
    trivial
  heard := h.heard
  returned := h.returned

theorem hear (h : call.Sound r members) (hstatus : status.Vouches (members id) call.path) :
    (call.hear id status).Sound r members := by
  rw [Call.hear]
  split
  · refine ⟨h.copies, ?_, h.returned⟩
    apply forall_update h.heard
    rintro _ ⟨⟩
    exact hstatus
  · exact h

/-- What comes in as the reply of a member is what the member said. -/
theorem answer (h : call.Sound r members) : (call.answer id).Sound r members := by
  rw [Call.answer]
  split
  · rename_i status hcopy
    exact h.hear (h.copies id _ hcopy)
  · exact h

/-- A call returns a report only when a success was heard of every member. -/
theorem conclude (h : call.Sound r members) : (call.conclude r).Sound r members := by
  rw [Call.conclude]
  split
  · refine ⟨h.copies, h.heard, ?_⟩
    intro report hreport e he
    have hall := Roster.exists_conclude_eq_ok_iff.1 ⟨report, Option.some.inj hreport⟩
    obtain ⟨status, hheard, hsuccess⟩ := hall.2 e he
    exact h.heard e.1 status hheard hsuccess
  · -- A call returns once, and what it has returned stays.
    exact h

end Sound

end Call

/-! ## Runs -/

namespace World

variable {r : Roster} {w : World} {event : Event}

theorem sound_onCall {k : Nat} {f : Call → Call} (h : ∀ call ∈ w.calls, call.Sound r w.members)
    (hf : ∀ call, w.calls[k]? = some call → (f call).Sound r w.members) :
    ∀ call ∈ (w.onCall k f).calls, call.Sound r (w.onCall k f).members := by
  intro call hcall
  rcases mem_modify hcall with hold | ⟨old, hold, rfl⟩
  · exact h call hold
  · exact hf old hold

/-- **The step.**  Whatever happens, no call comes to tell a lie about a member. -/
theorem sound_next (h : ∀ call ∈ w.calls, call.Sound r w.members) :
    ∀ call ∈ (w.next r event).calls, call.Sound r (w.next r event).members := by
  have hat : ∀ (k : Nat) (call : Call), w.calls[k]? = some call → call.Sound r w.members := by
    intro k call hk
    exact h call (List.mem_of_getElem? hk)
  cases event with
  | submit request =>
    -- A new call has nothing to tell yet.
    rw [next]
    split
    · rename_i c hc
      intro call hcall
      rcases List.mem_append.1 hcall with hold | hnew
      · exact h call hold
      · rw [List.mem_singleton.1 hnew]
        exact .new r w.members request c
    · exact h
  | arrive k id =>
    rw [next]
    split
    · rename_i call hk
      split
      · have hgrows := grows_execute w.members id call.command
        apply sound_onCall
        · -- What was told before is still true of the member that has changed.
          intro other hother
          exact (h other hother).mono hgrows
        · intro other hother
          obtain rfl : call = other := Option.some.inj (hk.symm.trans hother)
          apply ((hat k call hk).mono hgrows).carryOut
          intro hsuccess
          rw [Function.update_self]
          exact Member.contains_execute_of_isSuccess hsuccess
      · exact h
    · exact h
  | lose k id => exact sound_onCall h fun call hk => (hat k call hk).lose
  | answer k id => exact sound_onCall h fun call hk => (hat k call hk).answer
  | fail k id reason => exact sound_onCall h fun call hk => (hat k call hk).hear nofun
  | conclude k => exact sound_onCall h fun call hk => (hat k call hk).conclude

theorem mem_calls_onCall {k : Nat} {f : Call → Call} (hf : ∀ call, (f call).origin = call.origin)
    {call : Call} (h : call ∈ (w.onCall k f).calls) :
    ∃ old ∈ w.calls, old.origin = call.origin := by
  rcases mem_modify h with hold | ⟨old, hold, rfl⟩
  · exact ⟨call, hold, rfl⟩
  · exact ⟨old, List.mem_of_getElem? hold, (hf old).symm⟩

/-- A call is one that was there before, or that of a request which comes in and passes
validation. -/
theorem mem_calls_next {call : Call} (h : call ∈ (w.next r event).calls) :
    (∃ old ∈ w.calls, old.origin = call.origin) ∨ event = .submit call.request ∧
      Locator.command? r.management call.request = some call.command := by
  cases event with
  | submit request =>
    rw [next] at h
    split at h
    · rename_i c hc
      rcases List.mem_append.1 h with hold | hnew
      · exact .inl ⟨call, hold, rfl⟩
      · rw [List.mem_singleton.1 hnew]
        exact .inr ⟨rfl, hc⟩
    · exact .inl ⟨call, h, rfl⟩
  | arrive k id =>
    left
    rw [next] at h
    split at h
    · split at h
      · exact mem_calls_onCall (Call.origin_carryOut _ _) h
      · exact ⟨call, h, rfl⟩
    · exact ⟨call, h, rfl⟩
  | lose k id => exact .inl (mem_calls_onCall (Call.origin_lose _) h)
  | answer k id => exact .inl (mem_calls_onCall (Call.origin_answer _) h)
  | fail k id reason => exact .inl (mem_calls_onCall (Call.origin_hear _ _) h)
  | conclude k => exact .inl (mem_calls_onCall (Call.origin_conclude _) h)

variable {names : NodeId → String} {events : List Event}

theorem grows_run (r : Roster) (w : World) (events : List Event) :
    Grows w.members (w.run r events).members := by
  induction events using List.reverseRecOn with
  | nil => exact .refl _
  | append_singleton events event ih =>
    rw [run_snoc]
    exact ih.trans (grows_next r _ event)

theorem sound_run (r : Roster) (names : NodeId → String) (events : List Event) :
    ∀ call ∈ ((start names).run r events).calls,
      call.Sound r ((start names).run r events).members := by
  induction events using List.reverseRecOn with
  | nil => exact fun call hcall => by cases hcall
  | append_singleton events event ih =>
    rw [run_snoc]
    exact sound_next ih

/-- Every call is that of a request which came in and passed validation. -/
theorem submit_mem_of_mem_calls {call : Call} (h : call ∈ ((start names).run r events).calls) :
    .submit call.request ∈ events ∧
      Locator.command? r.management call.request = some call.command := by
  induction events using List.reverseRecOn generalizing call with
  | nil => cases h
  | append_singleton events event ih =>
    rw [run_snoc] at h
    rcases mem_calls_next h with ⟨old, hold, horigin⟩ | ⟨rfl, hcommand⟩
    · obtain ⟨hrequest, hcommand⟩ := Prod.mk.inj horigin
      rw [← hrequest, ← hcommand]
      exact ⟨List.mem_append_left _ (ih hold).1, (ih hold).2⟩
    · exact ⟨List.mem_append_right _ (List.mem_singleton_self _), hcommand⟩

/-- Every region of a member is that of a command for a request which came in. -/
theorem exists_submit_of_get?_run {id : NodeId} {p : Path} {config : Config}
    (h : (((start names).run r events).members id).regions.get? p = some config) :
    ∃ request c, .submit request ∈ events ∧ Locator.command? r.management request = some c ∧
      .ofName c.targetPath = p ∧ c.config = config := by
  induction events using List.reverseRecOn with
  | nil => cases h
  | append_singleton events event ih =>
    rw [run_snoc] at h
    rcases get?_of_next h with hold | ⟨call, hcall, hpath, hconfig⟩
    · obtain ⟨request, c, hsubmit, hcommand⟩ := ih hold
      exact ⟨request, c, List.mem_append_left _ hsubmit, hcommand⟩
    · obtain ⟨hsubmit, hcommand⟩ := submit_mem_of_mem_calls hcall
      exact ⟨call.request, call.command, List.mem_append_left _ hsubmit, hcommand, hpath, hconfig⟩

end World

/-! ## Commands of one path -/

/-- What a command carries for a path is settled by the tag of its request. -/
theorem Locator.config_eq_of_command? {m : Management} {q q' : Region.Request} {c c' : Command}
    (h : command? m q = some c) (h' : command? m q' = some c')
    (hpath : Path.ofName q.name = .ofName q'.name)
    (htype : Region.resolve q.type = Region.resolve q'.type) : c.config = c'.config := by
  obtain ⟨⟨name, attributes⟩, hvalidate, rfl⟩ := validate_of_command? h
  obtain ⟨⟨name', attributes'⟩, hvalidate', rfl⟩ := validate_of_command? h'
  obtain ⟨hname, hattributes⟩ := Region.Request.build_eq_ok_iff.1
    (Region.Request.validate_eq_ok_iff.1 hvalidate).1
  obtain ⟨hname', hattributes'⟩ := Region.Request.build_eq_ok_iff.1
    (Region.Request.validate_eq_ok_iff.1 hvalidate').1
  -- The path settles the one half of a configuration, and the tag the other one.
  rw [Region.shortName?_eq_of_ofName_eq hpath, hname'] at hname
  rw [← htype] at hattributes'
  obtain rfl : name' = name := Option.some.inj hname
  obtain rfl : attributes' = attributes := hattributes'.trans hattributes.symm
  rfl

/-- **Safety under interleaving.**  Let requests come in, copies and replies travel and get lost,
and calls return in any order, and let anything happen after that.  Once a call has returned a
report, every member of the group has its region for good.  Every region of a member is that of a
command for a request which came in, and stays as it is.  Two members have different configurations
of one region only if two requests for it came in whose tags choose different attributes. -/
theorem World.interleaving_safe (r : Roster) (names : NodeId → String)
    (events later : List Event) :
    let now := (start names).run r events
    let after := (start names).run r (events ++ later)
    (∀ call ∈ now.calls, ∀ report, call.outcome? = some (.ok report) →
      ∀ e ∈ (r.groupMembers r.management.adminGroup).entries,
        (after.members e.1).regions.contains (.ofName call.request.name) = true) ∧
    (∀ id p config, (now.members id).regions.get? p = some config →
      (∃ request c, .submit request ∈ events ∧
        Locator.command? r.management request = some c ∧
        .ofName c.targetPath = p ∧ c.config = config) ∧
      (after.members id).regions.get? p = some config) ∧
    ∀ id id' p config config', (now.members id).regions.get? p = some config →
      (now.members id').regions.get? p = some config' → config ≠ config' →
      ∃ request request', .submit request ∈ events ∧ .submit request' ∈ events ∧
        .ofName request.name = p ∧ .ofName request'.name = p ∧
        Region.resolve request.type ≠ Region.resolve request'.type := by
  intro now after
  have hgrows : Grows now.members after.members := by
    rw [show after = now.run r later from run_append r (start names) events later]
    exact grows_run r now later
  refine ⟨?_, ?_, ?_⟩
  · -- The members had the region when the call returned, and lose none.
    intro call hcall report hreport e he
    have hpath := Locator.targetPath_of_command? (submit_mem_of_mem_calls hcall).2
    have hnow := (sound_run r names events call hcall).returned report hreport e he
    rw [Call.path, hpath] at hnow
    exact hgrows.contains hnow
  · intro id p config h
    exact ⟨exists_submit_of_get?_run h, hgrows id p config h⟩
  · -- Each of the two configurations comes from a request of its own.
    intro id id' p config config' h h' hne
    obtain ⟨q, c, hq, hc, hp, rfl⟩ := exists_submit_of_get?_run h
    obtain ⟨q', c', hq', hc', hp', rfl⟩ := exists_submit_of_get?_run h'
    rw [Locator.targetPath_of_command? hc] at hp
    rw [Locator.targetPath_of_command? hc'] at hp'
    refine ⟨q, q', hq, hq', hp, hp', ?_⟩
    intro htype
    exact hne (Locator.config_eq_of_command? hc hc' (hp.trans hp'.symm) htype)

/-- Two requests for one region that cross each other may both succeed and leave the members with
different configurations. -/
example :
    let w := (World.start fun _ => "member").run pairRoster
      [.submit ⟨"a", "REPLICATE"⟩, .submit ⟨"/a", "PARTITION"⟩, .arrive 0 1, .arrive 1 2,
        .arrive 1 1, .arrive 0 2, .answer 0 1, .answer 1 1, .answer 1 2, .answer 0 2,
        .conclude 0, .conclude 1]
    (w.calls.map fun call => call.outcome?.map Except.isOk) = [some true, some true] ∧
      (w.members 1).regions.get? (.ofName "a") = some ⟨"a", .replicate⟩ ∧
      (w.members 2).regions.get? (.ofName "a") = some ⟨"a", .partition .none⟩ := by
  decide +kernel

end CacheCluster
