import CacheCluster.Engine.InProcess
import CacheCluster.Proofs.Locator.Run
import Mathlib.Algebra.Ring.Nat

/-!
# Agreement of the members that are reached

The engine in one process asks the members in turn, so that a time limit cuts their list: those in
front of the cut carry out every command, those behind it none.  As delays never change, the cut is
at the same place for all commands.

## Main definitions

* `doneTimes` : the times at which the members of a list are done, each after those before it.
* `reached` : the number of leading members that are done within a limit.
* `LocalMember.run` : a member after some commands.

## Main results

* `runMembers_members` : what a command leaves of the members.
* `inProcess_members` : what several commands leave of them.
* `Locator.replicas_agree` : after any requests the members that are reached, except for the failing
  ones, have the regions of the commands so far, and all others have none.
-/

namespace CacheCluster

open Region (Table)

/-- The times at which the members of a list are done when each begins after the one before. -/
def doneTimes (ms : List LocalMember) : List Nat :=
  (List.range ms.length).map fun i =>
    ((ms.take (i + 1)).map fun m => m.delay.nanoseconds).sum

/-- The number of leading members that are done within a limit. -/
def reached (limit : Duration) (ms : List LocalMember) : Nat :=
  ((doneTimes ms).takeWhile (· ≤ limit.nanoseconds)).length

theorem doneTimes_cons (m : LocalMember) (ms : List LocalMember) :
    doneTimes (m :: ms) =
      m.delay.nanoseconds :: (doneTimes ms).map (m.delay.nanoseconds + ·) := by
  simp [doneTimes, List.range_succ_eq_map, Function.comp_def]

/-- The first member is reached if its delay is within the limit, and those behind it are if they
are within what is left. -/
theorem reached_cons (limit : Duration) (m : LocalMember) (ms : List LocalMember) :
    reached limit (m :: ms) =
      if limit.nanoseconds < m.delay.nanoseconds then 0
      else reached ⟨limit.nanoseconds - m.delay.nanoseconds⟩ ms + 1 := by
  rw [reached, doneTimes_cons]
  split
  · rename_i h
    rw [List.takeWhile_cons_of_neg (by simpa using h), List.length_nil]
  · rename_i h
    rw [List.takeWhile_cons_of_pos (by simpa using h), List.length_cons, List.takeWhile_map,
      List.length_map, reached]
    congr 3
    funext n
    simp only [Function.comp_apply, decide_eq_decide]
    omega

/-- The limit may be met exactly, and the members behind the cut count for nothing. -/
example : reached ⟨10⟩ [.new "a" (.slow ⟨4⟩), .new "b" .healthy, .new "c" (.slow ⟨6⟩),
    .new "d" (.slow ⟨1⟩), .new "e" .healthy] = 3 := by
  decide

theorem reached_congr {ms ns : List LocalMember} (limit : Duration)
    (h : ms.map LocalMember.delay = ns.map LocalMember.delay) :
    reached limit ms = reached limit ns := by
  have hl : ms.length = ns.length := by simpa using congrArg List.length h
  have hd : ms.map (fun m => m.delay.nanoseconds) = ns.map fun m => m.delay.nanoseconds := by
    simpa [Function.comp_def] using congrArg (List.map Duration.nanoseconds) h
  have ht : doneTimes ms = doneTimes ns := by simp only [doneTimes, List.map_take, hl, hd]
  rw [reached, reached, ht]

/-- Whether a member fails whatever it is asked. -/
def Behaviour.isFailing : Behaviour → Bool
  | .failing _ => true
  | _ => false

namespace LocalMember

/-- A member after some commands. -/
def run (m : LocalMember) (cs : List Command) : LocalMember :=
  cs.foldl (fun m c => (m.execute c).2) m

@[simp] theorem execute_behaviour (m : LocalMember) (c : Command) :
    (m.execute c).2.behaviour = m.behaviour := by
  unfold execute
  split <;> rfl

@[simp] theorem execute_delay (m : LocalMember) (c : Command) :
    (m.execute c).2.delay = m.delay := by
  rw [delay, execute_behaviour, delay]

@[simp] theorem run_nil (m : LocalMember) : m.run [] = m := rfl

theorem run_cons (m : LocalMember) (c : Command) (cs : List Command) :
    m.run (c :: cs) = (m.execute c).2.run cs := rfl

theorem execute_state (m : LocalMember) (c : Command) :
    (m.execute c).2 =
      { m with member := if m.behaviour.isFailing then m.member else (m.member.execute c).2 } := by
  obtain ⟨member, behaviour⟩ := m
  cases behaviour <;> rfl

/-- A failing member carries nothing out, and all others carry out every command. -/
theorem run_eq (m : LocalMember) (cs : List Command) :
    m.run cs =
      { m with member := if m.behaviour.isFailing then m.member else m.member.run cs } := by
  induction cs generalizing m with
  | nil => cases m.behaviour.isFailing <;> rfl
  | cons c cs ih =>
    rw [run_cons, ih, execute_state]
    cases m.behaviour.isFailing <;> rfl

/-- After some commands a new member has their regions, or none if it fails. -/
theorem run_new (name : String) (b : Behaviour) (cs : List Command) :
    (new name b).run cs =
      ⟨⟨name, if b.isFailing then .empty else ((Member.new name).run cs).regions⟩, b⟩ := by
  have hmember : (Member.new name).run cs = ⟨name, ((Member.new name).run cs).regions⟩ :=
    congrArg (Member.mk · _) (Member.run_name (.new name) cs)
  rw [run_eq, new]
  cases b.isFailing with
  | true => rfl
  | false => exact congrArg (mk · b) hmember

end LocalMember

/-! ## The cut -/

theorem mapIdx_eq_self (ms : List LocalMember) : ms.mapIdx (fun _ m => m) = ms :=
  List.mapIdx_eq_iff.2 fun i => by simp

/-- The members in front of the cut carry out a command, and those behind it are left alone. -/
theorem runMembers_members (c : Command) (left : Duration) (report : Report)
    (ms : List LocalMember) :
    (runMembers c left report ms).2 =
      ms.mapIdx fun i m => if i < reached left ms then (m.execute c).2 else m := by
  induction ms generalizing left report with
  | nil => rfl
  | cons m ms ih =>
    rw [runMembers, reached_cons, List.mapIdx_cons]
    split
    · -- The first member takes too long, so nobody behind it is asked.
      simp [mapIdx_eq_self]
    · simp [ih]

theorem inProcess_run_members (limit : Duration) (group : String) (c : Command)
    (s : LocalCluster) :
    (Engine.inProcess.run limit group c s).2.members =
      s.members.mapIdx fun i m => if i < reached limit s.members then (m.execute c).2 else m := by
  obtain ⟨ms, sent⟩ := s
  cases ms with
  | nil => rfl
  | cons m ms => exact runMembers_members c limit .empty (m :: ms)

/-- A command changes no delay, so the cut stays where it is. -/
theorem reached_inProcess_run (limit : Duration) (group : String) (c : Command)
    (s : LocalCluster) :
    reached limit (Engine.inProcess.run limit group c s).2.members = reached limit s.members := by
  apply reached_congr
  rw [inProcess_run_members]
  apply List.ext_getElem
  · simp
  · intro i h₁ h₂
    simp only [List.getElem_map, List.getElem_mapIdx]
    split
    · exact LocalMember.execute_delay _ _
    · rfl

theorem inProcess_members (limit : Duration) (group : String) (cs : List Command)
    (s : LocalCluster) :
    (cs.foldl (fun s c => (Engine.inProcess.run limit group c s).2) s).members =
      s.members.mapIdx fun i m => if i < reached limit s.members then m.run cs else m := by
  induction cs generalizing s with
  | nil => simp [mapIdx_eq_self]
  | cons c cs ih =>
    rw [List.foldl_cons, ih, reached_inProcess_run, inProcess_run_members, List.mapIdx_mapIdx]
    congr 1
    funext i m
    simp only [Function.comp_apply]
    split
    · rw [LocalMember.run_cons]
    · rfl

namespace Locator

/-- **Agreement.**  Let a cluster begin without regions, and let `k` leading members be done within
the time limit.  After any requests those of them that do not fail hold one table, the one of the
commands for the requests that passed validation, in order; all other members hold none. -/
theorem replicas_agree (m : Management) (members : List (String × Behaviour))
    (rs : List Region.Request) :
    let start := members.map fun e => LocalMember.new e.1 e.2
    let commands := rs.filterMap (command? m)
    let k := reached m.timeout start
    ∃ t : Table, (∀ name, ((Member.new name).run commands).regions = t) ∧
      (createRegions m Engine.inProcess rs (.new start)).2.members =
        members.mapIdx fun i e =>
          ⟨⟨e.1, if i < k ∧ ¬ e.2.isFailing then t else .empty⟩, e.2⟩ := by
  intro start commands k
  have hrun : ∀ name, ((Member.new name).run commands).regions =
      Table.run .empty (commands.map Command.attempt) := fun name => Member.run_regions _ _
  refine ⟨_, hrun, ?_⟩
  -- In front of the cut a member runs all commands, unless it fails, and behind it none.
  have hone : ∀ i (e : String × Behaviour),
      (if i < k then (LocalMember.new e.1 e.2).run commands else .new e.1 e.2) =
        ⟨⟨e.1, if i < k ∧ ¬ e.2.isFailing then Table.run .empty (commands.map Command.attempt)
          else .empty⟩, e.2⟩ := by
    intro i e
    by_cases hk : i < k
    · rw [if_pos hk, LocalMember.run_new, hrun]
      cases e.2.isFailing <;> simp [hk]
    · rw [if_neg hk, if_neg (not_and_of_not_left _ hk)]
      rfl
  rw [createRegions_state, inProcess_members, List.mapIdx_eq_iff]
  intro i
  rw [List.getElem?_mapIdx, LocalCluster.new, List.getElem?_map, Option.map_map]
  congr 1
  funext e
  exact (hone i e).symm

end Locator

end CacheCluster
