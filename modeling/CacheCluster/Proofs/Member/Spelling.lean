import CacheCluster.Proofs.Member.Run

/-!
# The spelling of names

A member takes a name with or without the slash in front and goes by the path from there on, so
nothing that it answers or holds tells which of the two was given.  What it quotes is the path, and
it lists the region under just that text.

## Main definitions

* `withSlash` : a name with a slash in front.
* `Command.Respelt` : two commands that differ at most in that slash.
* `MemberReply.Quotes` : the path that a reply tells of.

## Main results

* `withSlash_eq_text` : a name with a slash in front is the text of its path.
* `Member.trace_eq_of_respelt` : spellings make no difference in a run.
* `MemberReply.quotes_statusOf_iff` : which path is quoted, and when.
* `Member.slash_unobservable` : all of it.
-/

namespace CacheCluster

open Region (Path Table Creation)

/-- A name with a slash in front, put there if there was none. -/
def withSlash (name : String) : String :=
  if name.toList.head? = some '/' then name else "/" ++ name

theorem withSlash_eq_text (name : String) : withSlash name = (Path.ofName name).text := by
  rw [← String.toList_inj, withSlash, Path.ofName, Path.text, String.toList_ofList]
  split <;> rename_i h
  · obtain ⟨cs, hcs⟩ := List.head?_eq_some_iff.1 h
    simp only [hcs]
  · rw [String.toList_append]
    split
    · rename_i cs hcs
      simp [hcs] at h
    · rfl

theorem ofName_withSlash (name : String) : Path.ofName (withSlash name) = Path.ofName name := by
  rw [withSlash_eq_text, Path.ofName_text]

/-- Two commands are the same, or the path of one is that of the other with a slash in front. -/
def Command.Respelt (c c' : Command) : Prop :=
  c' = c ∨ c' = { c with targetPath := withSlash c.targetPath } ∨
    c = { c' with targetPath := withSlash c'.targetPath }

/-- A reply tells of a region at a path, as created or as there already. -/
def MemberReply.Quotes (r : MemberReply) (path : String) : Prop :=
  r.status.message? = some s!"Region \"{path}\" created on \"{r.member}\"" ∨
    r.status.message? = some s!"Skipping \"{r.member}\". Region \"{path}\" already exists." ∨
    r.status.message? = some s!"Region with path \"{path}\" already exists on \"{r.member}\""

/-- A reply tells of the path that the command was about, unless the region above was missing. -/
theorem MemberReply.quotes_statusOf_iff {member path : String} {p : Path} {o : Creation} :
    (MemberReply.mk member (Member.statusOf member p o)).Quotes path ↔
      p.text = path ∧ ∀ q, o ≠ .parentMissing q := by
  -- Every message begins in a way of its own, and the same one can differ in the path only.
  cases o <;>
    simp [Quotes, Member.statusOf, Status.success, Status.failure, toString, ← String.toList_inj]

namespace Member

/-- A member does the same for two spellings of a command. -/
theorem execute_eq_of_respelt {c c' : Command} (h : c.Respelt c') (m : Member) :
    m.execute c = m.execute c' := by
  rcases h with rfl | rfl | rfl
  · rfl
  · rw [execute, execute, ofName_withSlash]
  · rw [execute, execute, ofName_withSlash]

theorem trace_eq_of_respelt {cs cs' : List Command} (h : List.Forall₂ Command.Respelt cs cs')
    (m : Member) : m.trace cs = m.trace cs' := by
  induction h generalizing m with
  | nil => rfl
  | cons hc _ ih => rw [trace, trace, execute_eq_of_respelt hc, ih]

/-- Every success tells of the path of the command. -/
theorem quotes_of_isSuccess {m : Member} {c : Command}
    (h : (m.execute c).1.status.isSuccess = true) :
    (m.execute c).1.Quotes (withSlash c.targetPath) :=
  MemberReply.quotes_statusOf_iff.2
    ⟨(withSlash_eq_text c.targetPath).symm, ne_parentMissing_of_isSuccess h⟩

/-- Whoever tells of a path lists it from then on. -/
theorem mem_paths_of_quotes {m : Member} {c : Command} {path : String}
    (h : (m.execute c).1.Quotes path) (later : List Command) :
    path ∈ ((m.execute c).2.run later).paths := by
  obtain ⟨rfl, houtcome⟩ := MemberReply.quotes_statusOf_iff.1 h
  -- What is listed right after the command is listed after all later ones.
  apply paths_run_mono later.nil_sublist (List.Subset.refl _)
  rw [run_nil, text_mem_paths_iff, execute_regions]
  exact Table.contains_attempt_self houtcome

/-- **A missing slash cannot be observed.**  Let two runs of commands from the same member be the
same up to slashes in front of some paths, on either side.

Then the member answers the same to each command, word for word, and has the same regions after it.
And whatever regions a member has, it gives the same answer for a name with and without its slash;
with every success it tells of the path with the slash, and each path of which it says that a region
was created there, or was there already, is literally one of those that it lists from then on. -/
theorem slash_unobservable (m : Member) (cs cs' : List Command)
    (h : List.Forall₂ Command.Respelt cs cs') :
    m.trace cs = m.trace cs' ∧
    (∀ (s : Member) (name : String), s.region? name = s.region? (withSlash name)) ∧
    ∀ (s : Member) (c : Command),
      ((s.execute c).1.status.isSuccess = true →
        (s.execute c).1.Quotes (withSlash c.targetPath)) ∧
      ∀ path, (s.execute c).1.Quotes path → ∀ later, path ∈ ((s.execute c).2.run later).paths := by
  refine ⟨trace_eq_of_respelt h m, fun s name => ?_, fun s c => ?_⟩
  · rw [region?, region?, ofName_withSlash]
  · exact ⟨quotes_of_isSuccess, fun path => mem_paths_of_quotes⟩

/-- The empty name, one of slashes only, and one that is there already. -/
theorem slash_unobservable_corners :
    let command (name : String) (skip : Bool) : Command := ⟨name, default, skip, "cluster"⟩
    let cs := [command "" true, command "//" false, command "/sales" true, command "sales" false]
    let cs' := [command "/" true, command "//" false, command "sales" true, command "/sales" false]
    List.Forall₂ Command.Respelt cs cs' ∧
      (new "server-1").trace cs = (new "server-1").trace cs' ∧
      ((new "server-1").run cs').paths = ["/", "//", "/sales"] := by
  intro command cs cs'
  have h : List.Forall₂ Command.Respelt cs cs' := by
    refine .cons (.inr (.inl ?_)) (.cons (.inl rfl) (.cons (.inr (.inr ?_))
      (.cons (.inr (.inl ?_)) .nil)))
    all_goals decide
  exact ⟨h, (slash_unobservable (new "server-1") cs cs' h).1, by decide⟩

end Member

end CacheCluster
