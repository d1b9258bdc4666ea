import CacheCluster.Proofs.Report
import CacheCluster.Proofs.SortedMap
import CacheCluster.Proofs.Text.Order

/-!
# How several reports of a member are merged

What counts for a member that reports more than once is its first failure, and without one its last
word.  So what is said depends on the order of the reports, but who failed does not.

## Main definitions

* `Report.said` : what was reported under a name, in order.
* `Report.counting?` : the word that counts of those of one member.
* `Report.failed` : the names of the members that failed.

## Main results

* `Report.get?_ofList_eq_counting` : what a report has for a name.
* `Report.mem_failed_ofList`, `Report.mem_successes_ofList` : who failed, and who did not.
* `Report.message_eq_empty_iff` : the message of a report is empty just when nobody failed.
* `Report.merge_law` : all of it, and that it does not depend on the order who failed.
-/

namespace CacheCluster.Report

/-! ## The word that counts -/

/-- What was reported under a name, in order. -/
def said (name : String) (l : List (String × Status)) : List Status :=
  (l.filter fun e => e.1 == name).map Prod.snd

/-- The word that counts of those of one member: the first failure, or else the last word. -/
def counting? (words : List Status) : Option Status :=
  (words.find? fun s => !s.isSuccess).or words.getLast?

theorem said_snoc_self (l : List (String × Status)) (name : String) (s : Status) :
    said name (l ++ [(name, s)]) = said name l ++ [s] := by
  simp [said]

theorem said_snoc_of_ne (l : List (String × Status)) {e : String × Status} {name : String}
    (h : name ≠ e.1) : said name (l ++ [e]) = said name l := by
  simp [said, h.symm]

/-- A further word is merged with the one that counted before. -/
theorem counting?_snoc (words : List Status) (s : Status) :
    counting? (words ++ [s]) = some (merge (counting? words) s) := by
  rw [counting?, counting?, List.find?_append]
  cases hfind : words.find? fun s => !s.isSuccess with
  | some failure =>
    -- The first failure stays the one that counts.
    have hfailed : failure.isSuccess = false := by simpa using List.find?_some hfind
    simp [merge, hfailed]
  | none =>
    have hlast : ∀ last, words.getLast? = some last → last.isSuccess = true := by
      intro last h
      simpa using List.find?_eq_none.1 hfind last (List.mem_of_getLast? h)
    cases h : words.getLast? with
    | none => cases hs : s.isSuccess <;> simp [merge, hs]
    | some last => cases hs : s.isSuccess <;> simp [merge, hlast last h, hs]

/-- What a report has for a name is the word that counts. -/
theorem get?_ofList_eq_counting (l : List (String × Status)) (name : String) :
    (ofList l).statuses.get? name = counting? (said name l) := by
  induction l using List.reverseRecOn with
  | nil => rfl
  | append_singleton l e ih =>
    rw [ofList_snoc]
    by_cases hname : name = e.1
    · subst hname
      rw [get?_add_self, said_snoc_self, counting?_snoc, ih]
    · rw [get?_add_of_ne _ _ hname, said_snoc_of_ne l hname, ih]

/-! ## Who failed -/

/-- The names of the members that failed, in order. -/
def failed (r : Report) : List String := r.failures.map Prod.fst

theorem ascending_failed (r : Report) : r.failed.Pairwise fun a b => compare a b = .lt :=
  List.pairwise_map.2 (r.statuses.sorted.filter _)

theorem ascending_successes (r : Report) : r.successes.Pairwise fun a b => compare a b = .lt :=
  List.pairwise_map.2 (r.statuses.sorted.filter _)

theorem mem_failed_iff {r : Report} {name : String} :
    name ∈ r.failed ↔ ∃ s, r.statuses.get? name = some s ∧ s.isSuccess = false := by
  simp [failed, mem_failures_iff]

theorem mem_successes_iff {r : Report} {name : String} :
    name ∈ r.successes ↔ ∃ s, r.statuses.get? name = some s ∧ s.isSuccess = true := by
  simp [successes, SortedMap.get?_eq_some_iff]

/-- Everybody in a report failed or did not. -/
theorem mem_keys_iff_failed_or_success {r : Report} {name : String} :
    name ∈ r.statuses.keys ↔ name ∈ r.failed ∨ name ∈ r.successes := by
  rw [SortedMap.mem_keys_iff, mem_failed_iff, mem_successes_iff, ← exists_or]
  refine exists_congr fun s => ?_
  cases s.isSuccess <;> simp

theorem disjoint_failed_successes (r : Report) : r.failed.Disjoint r.successes := by
  intro name hfailed hsuccess
  obtain ⟨s, hs, hfail⟩ := mem_failed_iff.1 hfailed
  obtain ⟨t, ht, hsucceed⟩ := mem_successes_iff.1 hsuccess
  rw [hs] at ht
  cases ht
  rw [hfail] at hsucceed
  cases hsucceed

section OfList

variable {l : List (String × Status)} {name : String}

/-- Who failed is who reported a failure. -/
theorem mem_failed_ofList :
    name ∈ (ofList l).failed ↔ ∃ s, (name, s) ∈ l ∧ s.isSuccess = false := by
  rw [failed, List.mem_map]
  constructor
  · rintro ⟨⟨name, s⟩, hs, rfl⟩
    obtain ⟨⟨name, t⟩, ht, rfl, hfail⟩ := exists_mem_failures_ofList.1 ⟨s, hs⟩
    exact ⟨t, ht, hfail⟩
  · rintro ⟨s, hs, hfail⟩
    obtain ⟨t, ht⟩ := exists_mem_failures_ofList.2 ⟨(name, s), hs, rfl, hfail⟩
    exact ⟨_, ht, rfl⟩

theorem mem_keys_ofList_iff_exists :
    name ∈ (ofList l).statuses.keys ↔ ∃ s, (name, s) ∈ l := by
  simp [mem_keys_ofList]

/-- Who did not fail is who reported something, but no failure. -/
theorem mem_successes_ofList :
    name ∈ (ofList l).successes ↔
      (∃ s, (name, s) ∈ l) ∧ ∀ s, (name, s) ∈ l → s.isSuccess = true := by
  have hsplit : name ∈ (ofList l).statuses.keys ↔
      name ∈ (ofList l).failed ∨ name ∈ (ofList l).successes :=
    mem_keys_iff_failed_or_success
  rw [mem_keys_ofList_iff_exists, mem_failed_ofList] at hsplit
  have hdisjoint := disjoint_failed_successes (ofList l) (a := name)
  rw [mem_failed_ofList] at hdisjoint
  constructor
  · intro h
    refine ⟨hsplit.2 (.inr h), fun s hs => ?_⟩
    by_contra hfail
    exact hdisjoint ⟨s, hs, Bool.eq_false_iff.2 hfail⟩ h
  · rintro ⟨hsome, hall⟩
    refine (hsplit.1 hsome).resolve_left ?_
    rintro ⟨s, hs, hfail⟩
    rw [hall s hs] at hfail
    cases hfail

end OfList

/-! ## Messages -/

/-- The message of a report is empty just when nobody failed: the line about a member is never
empty, not even without a name and a message. -/
theorem message_eq_empty_iff {r : Report} : r.message = "" ↔ r.failures = [] := by
  rw [message, ← String.toList_inj, String.toList_intercalate]
  cases r.failures with
  | nil => exact iff_of_true rfl rfl
  | cons e rest =>
    refine iff_of_false ?_ (List.cons_ne_nil _ _)
    cases rest <;> simp [List.intercalate]

/-- **Merging.**  Let any reports come in, of members that may report several times.

Every member that reported is there once, with its first failure, or with its last word if it never
failed.  So who failed, who did not, and whether nobody failed is the same in whatever order the
reports came.  The names of those who failed and of those who did not are disjoint, make up all that
reported, and are in the order of their bytes.  Nobody failed exactly when the message is empty. -/
theorem merge_law (l : List (String × Status)) :
    let r := ofList l
    (r.statuses.keys.Nodup ∧ ∀ name, name ∈ r.statuses.keys ↔ ∃ s, (name, s) ∈ l) ∧
    (∀ name, r.statuses.get? name =
      ((said name l).find? fun s => !s.isSuccess).or (said name l).getLast?) ∧
    (∀ l', l'.Perm l → (ofList l').failed = r.failed ∧ (ofList l').successes = r.successes ∧
      (ofList l').isSuccessful = r.isSuccessful) ∧
    ((∀ name, name ∈ r.failed ∨ name ∈ r.successes ↔ ∃ s, (name, s) ∈ l) ∧
      r.failed.Disjoint r.successes ∧
      (∀ name, name ∈ r.failed ↔ ∃ s, (name, s) ∈ l ∧ s.isSuccess = false)) ∧
    (r.failed.Pairwise (Text.encode · < Text.encode ·) ∧
      r.successes.Pairwise (Text.encode · < Text.encode ·)) ∧
    (r.isSuccessful = true ↔ r.message = "") := by
  intro r
  refine ⟨⟨SortedMap.nodup_keys _, fun name => mem_keys_ofList_iff_exists⟩,
    get?_ofList_eq_counting l, ?_, ⟨?_, disjoint_failed_successes r, fun name => mem_failed_ofList⟩,
    ⟨r.ascending_failed.imp Text.encode_lt, r.ascending_successes.imp Text.encode_lt⟩, ?_⟩
  · intro l' hperm
    -- Neither who failed nor who did not is told by the order.
    refine ⟨SortedMap.eq_of_ascending (ascending_failed _) (ascending_failed _) fun name => ?_,
      SortedMap.eq_of_ascending (ascending_successes _) (ascending_successes _) fun name => ?_, ?_⟩
    · simp only [r, mem_failed_ofList, hperm.mem_iff]
    · simp only [r, mem_successes_ofList, hperm.mem_iff]
    · rw [Bool.eq_iff_iff, isSuccessful_ofList, isSuccessful_ofList]
      simp only [hperm.mem_iff]
  · intro name
    rw [← mem_keys_iff_failed_or_success, mem_keys_ofList_iff_exists]
  · rw [isSuccessful_iff, message_eq_empty_iff]

/-- A failure under an empty name and without a message still shows. -/
example : (ofList [("a", .success "created"), ("", ⟨.failure, none⟩),
    ("a", .success "skipped")]).message = " -> " := by
  decide

end CacheCluster.Report
