import CacheCluster.Proofs.Region.Run

/-!
# Histories of paths

The attempts about one path, read in order with what became of each, tell when its region came and
nothing else: as long as the region above is missing all are refused, one attempt adds the region,
and whatever comes behind it finds the path taken.

## Main definitions

* `Table.outcomes` : attempts one after the other, each with what became of it.
* `Table.history` : those of them that were about one path, on a table that was empty.
* `IsOrphan`, `IsRepeat` : an attempt that came too early, and one that came too late.
* `Table.Inserts` : one of some attempts added the region of a path.

## Main results

* `Table.contains_run_iff_inserts` : what is there was added.
* `Table.history_of_free`, `Table.history_of_taken` : the history of a path without its region, and
  with it.
* `Table.path_written_once` : all of it, for every run and every path.
-/

namespace CacheCluster.Region

/-- An attempt was refused because the region above its path was missing. -/
def IsOrphan (e : Attempt × Creation) : Prop :=
  ∃ q, e.1.path.parent? = some q ∧ e.2 = .parentMissing q

/-- An attempt found its path taken, and skipped it if it was told to. -/
def IsRepeat (e : Attempt × Creation) : Prop :=
  e.2 = if e.1.skipIfExists then .skipped else .alreadyExists

namespace Table

/-- Attempts one after the other, each with what became of it. -/
def outcomes (t : Table) : List Attempt → List (Attempt × Creation)
  | [] => []
  | a :: as => (a, (t.attempt a).1) :: outcomes (t.attempt a).2 as

/-- The attempts on an empty table that were about a path, each with what became of it. -/
def history (as : List Attempt) (p : Path) : List (Attempt × Creation) :=
  (outcomes .empty as).filter fun e => e.1.path = p

/-- One of some attempts on an empty table added the region of a path. -/
def Inserts (as : List Attempt) (p : Path) : Prop := ∃ e ∈ history as p, e.2 = .inserted

variable {as : List Attempt} {a : Attempt} {p : Path}

theorem outcomes_snoc (t : Table) (as : List Attempt) (a : Attempt) :
    t.outcomes (as ++ [a]) = t.outcomes as ++ [(a, ((t.run as).attempt a).1)] := by
  induction as generalizing t with
  | nil => rfl
  | cons b as ih => exact congrArg ((b, (t.attempt b).1) :: ·) (ih (t.attempt b).2)

@[simp] theorem history_nil (p : Path) : history [] p = [] := rfl

theorem history_snoc_self (h : a.path = p) :
    history (as ++ [a]) p = history as p ++ [(a, ((run .empty as).attempt a).1)] := by
  simp [history, outcomes_snoc, h]

theorem history_snoc_of_ne (h : a.path ≠ p) : history (as ++ [a]) p = history as p := by
  simp [history, outcomes_snoc, h]

theorem inserts_snoc_iff :
    Inserts (as ++ [a]) p ↔
      Inserts as p ∨ a.path = p ∧ ((run .empty as).attempt a).1 = .inserted := by
  by_cases hp : a.path = p
  · simp [Inserts, history_snoc_self hp, hp, or_and_right, exists_or]
  · simp [Inserts, history_snoc_of_ne hp, hp]

/-- A region is there exactly when one of the attempts added it. -/
theorem contains_run_iff_inserts : (run .empty as).contains p = true ↔ Inserts as p := by
  induction as using List.reverseRecOn with
  | nil => simp [contains_iff, Inserts]
  | append_singleton as a ih =>
    rw [run_snoc, contains_attempt, inserts_snoc_iff, ← ih, attempt_eq_inserted_iff]
    -- An attempt whose path is taken adds nothing, but then the region was there already.
    constructor
    · rintro (h | ⟨rfl, hparent⟩)
      · exact .inl h
      · cases hfree : (run .empty as).contains a.path with
        | true => exact .inl rfl
        | false => exact .inr ⟨rfl, rfl, hparent⟩
    · rintro (h | ⟨rfl, -, hparent⟩)
      · exact .inl h
      · exact .inr ⟨rfl, hparent⟩

/-! ## The history of a path -/

theorem isRepeat_attempt {t : Table} (h : t.contains a.path = true) :
    IsRepeat (a, (t.attempt a).1) := by
  rcases attempt_cases t a with ⟨-, heq⟩ | ⟨hfree, -⟩ | ⟨hfree, -⟩
  · rw [heq]
    rfl
  · simp [h] at hfree
  · simp [h] at hfree

theorem isOrphan_attempt {t : Table} (hfree : t.contains a.path = false)
    (h : (t.attempt a).1 ≠ .inserted) : IsOrphan (a, (t.attempt a).1) := by
  rcases attempt_cases t a with ⟨htaken, -⟩ | ⟨-, q, hparent, -, heq⟩ | ⟨-, -, heq⟩
  · simp [htaken] at hfree
  · exact ⟨q, hparent, by rw [heq]⟩
  · exact absurd (by rw [heq]) h

/-- Without the region of a path all attempts about it were orphans. -/
theorem history_of_free (h : ¬ Inserts as p) : ∀ e ∈ history as p, IsOrphan e := by
  induction as using List.reverseRecOn with
  | nil => simp
  | append_singleton as a ih =>
    rw [inserts_snoc_iff, not_or, not_and] at h
    by_cases hp : a.path = p
    · -- The path was free, and if the attempt had found the one above it would have added it.
      subst hp
      rw [history_snoc_self rfl, List.forall_mem_append, List.forall_mem_singleton]
      refine ⟨ih h.1, isOrphan_attempt ?_ (h.2 rfl)⟩
      rw [← Bool.not_eq_true, contains_run_iff_inserts]
      exact h.1
    · rw [history_snoc_of_ne hp]
      exact ih h.1

/-- With its region the history of a path has orphans, the attempt that added it, and repeats. -/
theorem history_of_taken (h : Inserts as p) :
    ∃ orphans a repeats, history as p = orphans ++ (a, .inserted) :: repeats ∧
      (∀ e ∈ orphans, IsOrphan e) ∧ ∀ e ∈ repeats, IsRepeat e := by
  induction as using List.reverseRecOn with
  | nil => simp [Inserts] at h
  | append_singleton as a ih =>
    by_cases hbefore : Inserts as p
    · obtain ⟨orphans, b, repeats, heq, horphans, hrepeats⟩ := ih hbefore
      by_cases hp : a.path = p
      · -- The path is taken, so this is one repeat more.
        subst hp
        refine ⟨orphans, b, repeats ++ [(a, ((run .empty as).attempt a).1)], ?_, horphans, ?_⟩
        · rw [history_snoc_self rfl, heq, List.append_assoc, List.cons_append]
        · rw [List.forall_mem_append, List.forall_mem_singleton]
          exact ⟨hrepeats, isRepeat_attempt (contains_run_iff_inserts.2 hbefore)⟩
      · rw [history_snoc_of_ne hp]
        exact ⟨orphans, b, repeats, heq, horphans, hrepeats⟩
    · -- This is the attempt that adds the region.
      obtain ⟨hp, hinserted⟩ := (inserts_snoc_iff.1 h).resolve_left hbefore
      refine ⟨history as p, a, [], ?_, history_of_free hbefore, List.forall_mem_nil _⟩
      rw [history_snoc_self hp, hinserted]

/-- An attempt about a path without its region is an orphan exactly when there is a path above and
nobody has added the region there. -/
theorem exists_parentMissing_iff (h : ¬ Inserts as a.path) :
    (∃ q, ((run .empty as).attempt a).1 = .parentMissing q) ↔
      ∃ q, a.path.parent? = some q ∧ ¬ Inserts as q := by
  simp only [← contains_run_iff_inserts, Bool.not_eq_true] at h ⊢
  rcases attempt_cases (run .empty as) a with ⟨htaken, -⟩ | ⟨-, q, hparent, hq, heq⟩ |
    ⟨-, hparent, heq⟩
  · simp [htaken] at h
  · rw [heq]
    exact iff_of_true ⟨q, rfl⟩ ⟨q, hparent, hq⟩
  · rw [heq]
    refine iff_of_false (by simp) ?_
    rintro ⟨q, hq, hmissing⟩
    rw [hparent q hq] at hmissing
    cases hmissing

/-- **Written once.**  Let attempts be made on an empty table, in whatever order those of several
callers get their turn.

The outcomes of the attempts about one path are, in order: any number of orphans, and then nothing,
or one new region and behind it repeats, each skipped or refused as it asked for.  An attempt before
which the region was not added is an orphan exactly when the path has one above whose region was not
added before.  An attempt that adds nothing leaves the table as it is; one that adds its region
found the path free, changes no other path, and its configuration stays whatever comes later. -/
theorem path_written_once (as : List Attempt) (p : Path) :
    (∃ orphans rest, history as p = orphans ++ rest ∧ (∀ e ∈ orphans, IsOrphan e) ∧
      (rest = [] ∨ ∃ a repeats, rest = (a, .inserted) :: repeats ∧ ∀ e ∈ repeats, IsRepeat e)) ∧
    ∀ before a after, as = before ++ a :: after → a.path = p →
      (¬ Inserts before p → ((∃ q, ((run .empty before).attempt a).1 = .parentMissing q) ↔
        ∃ q, p.parent? = some q ∧ ¬ Inserts before q)) ∧
      (((run .empty before).attempt a).1 ≠ .inserted →
        run .empty (before ++ [a]) = run .empty before) ∧
      (((run .empty before).attempt a).1 = .inserted →
        (run .empty before).get? p = none ∧
        (∀ q, q ≠ p → (run .empty (before ++ [a])).get? q = (run .empty before).get? q) ∧
        ∀ later, (run .empty (before ++ a :: later)).get? p = some a.config) := by
  constructor
  · by_cases h : Inserts as p
    · obtain ⟨orphans, a, repeats, heq, horphans, hrepeats⟩ := history_of_taken h
      exact ⟨orphans, _, heq, horphans, .inr ⟨a, repeats, rfl, hrepeats⟩⟩
    · exact ⟨history as p, [], by simp, history_of_free h, .inl rfl⟩
  · rintro before a after rfl rfl
    refine ⟨exists_parentMissing_iff, ?_, ?_⟩
    · intro hrefused
      rw [run_snoc, attempt_eq_self hrefused]
    · intro hinserted
      refine ⟨?_, fun q hq => ?_, fun later => ?_⟩
      · exact contains_eq_false_iff.1 (attempt_eq_inserted_iff.1 hinserted).1
      · rw [run_snoc, get?_attempt_eq_ite, if_neg fun h => hq h.2.symm]
      · -- The region is there after the attempt, and no later one can change it.
        have hsplit : run .empty (before ++ a :: later) =
            ((run .empty before).attempt a).2.run later := by simp [run]
        rw [hsplit]
        exact get?_run_of_some (get?_create_of_inserted hinserted) later

/-- Attempts about one path under two names, around the one that adds the region above. -/
example :
    (history [⟨"a/b", default, true⟩, ⟨"a", default, true⟩, ⟨"/a/b", default, false⟩,
      ⟨"a/b", default, true⟩, ⟨"/a/b", default, false⟩] (.ofName "a/b")).map Prod.snd =
        [.parentMissing (.ofName "a"), .inserted, .skipped, .alreadyExists] := by
  decide

end Table

end CacheCluster.Region
