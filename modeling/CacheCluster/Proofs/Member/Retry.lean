import CacheCluster.Proofs.Member.Run

/-!
# Retries

Commands that skip what is there can be sent again without harm.  A region more can only help: where
it is asked for it is skipped, and where it is above of what is asked for it is needed.  So whatever
was carried out besides, a command that would have been a success is one.

## Main results

* `Member.isSuccess_execute_mono` : a success where there are fewer regions is one where there are
  more.
* `Member.forall₂_trace_mono` : the same for each command of a run, and what it leaves.
* `Member.more_regions_never_hurt` : the same with further commands in between.
-/

namespace CacheCluster.Member

variable {m m' : Member} {c : Command}

/-- A member with more regions does what it is asked whenever one with fewer does. -/
theorem isSuccess_execute_mono (hskip : c.skipIfExists = true) (h : m.paths ⊆ m'.paths)
    (hsuccess : (m.execute c).1.status.isSuccess = true) :
    (m'.execute c).1.status.isSuccess = true := by
  rw [paths_subset_iff] at h
  rw [isSuccess_execute_iff hskip] at hsuccess ⊢
  exact hsuccess.imp (h _) fun hparent q hq => h q (hparent q hq)

/-- Step by step, a member with more regions does at least what one with fewer does, and keeps
having more. -/
theorem forall₂_trace_mono {cs : List Command} (hskip : ∀ c ∈ cs, c.skipIfExists = true)
    (h : m.paths ⊆ m'.paths) :
    List.Forall₂ (fun s s' => (s.1.status.isSuccess = true → s'.1.status.isSuccess = true) ∧
      s.2.paths ⊆ s'.2.paths) (m.trace cs) (m'.trace cs) := by
  induction cs generalizing m m' with
  | nil => exact .nil
  | cons c cs ih =>
    rw [List.forall_mem_cons] at hskip
    have hpaths := paths_execute_mono c h
    exact .cons ⟨isSuccess_execute_mono hskip.1 h, hpaths⟩ (ih hskip.2 hpaths)

/-- **More regions never hurt.**  Let one member have all paths of another one, and send both the
same commands, which are to skip what is there.

Every command that is a success at the member with fewer regions is one at the member with more, and
after every command this still has all paths of the other.  The same holds when it is sent further
commands, of whatever kind, before and between these; in particular of one member with and without
them. -/
theorem more_regions_never_hurt (m m' : Member) (h : m.paths ⊆ m'.paths) (cs : List Command)
    (hskip : ∀ c ∈ cs, c.skipIfExists = true) :
    List.Forall₂ (fun s s' => (s.1.status.isSuccess = true → s'.1.status.isSuccess = true) ∧
      s.2.paths ⊆ s'.2.paths) (m.trace cs) (m'.trace cs) ∧
    ∀ before c after more, cs = before ++ c :: after → before.Sublist more →
      (((m.run before).execute c).1.status.isSuccess = true →
        ((m'.run more).execute c).1.status.isSuccess = true) ∧
      ((m.run before).execute c).2.paths ⊆ ((m'.run more).execute c).2.paths := by
  refine ⟨forall₂_trace_mono hskip h, ?_⟩
  rintro before c after more rfl hmore
  have hpaths : (m.run before).paths ⊆ (m'.run more).paths := paths_run_mono hmore h
  exact ⟨isSuccess_execute_mono (hskip c (by simp)) hpaths, paths_execute_mono c hpaths⟩

/-- A region that was asked for too early, and again with others sent once more before it. -/
theorem more_regions_never_hurt_repeated :
    let command (name : String) : Command := ⟨name, default, true, "cluster"⟩
    let m := new "north"
    let m' := (new "south").run [command "a"]
    let cs := [command "a/b", command "a", command "a/b"]
    let more := [command "a/b", command "c", command "a", command "a"]
    m.paths ⊆ m'.paths ∧ (∀ c ∈ cs, c.skipIfExists = true) ∧
      (m.trace cs).map (fun s => s.1.status.isSuccess) = [false, true, true] ∧
      List.Forall₂ (fun s s' => (s.1.status.isSuccess = true → s'.1.status.isSuccess = true) ∧
        s.2.paths ⊆ s'.2.paths) (m.trace cs) (m'.trace cs) ∧
      ((m'.run more).execute (command "a/b")).1.status.isSuccess = true := by
  intro command m m' cs more
  have hpaths : m.paths ⊆ m'.paths := List.nil_subset _
  have hskip : ∀ c ∈ cs, c.skipIfExists = true := by decide
  obtain ⟨hsteps, hmore⟩ := more_regions_never_hurt m m' hpaths cs hskip
  have hsublist : [command "a/b", command "a"].Sublist more := by decide
  refine ⟨hpaths, hskip, by decide, hsteps, ?_⟩
  exact (hmore _ (command "a/b") [] more rfl hsublist).1 (by decide)

end CacheCluster.Member
