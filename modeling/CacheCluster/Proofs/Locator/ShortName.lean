import CacheCluster.Proofs.Member.Spelling
import CacheCluster.Proofs.Region.Segments

/-!
# Where names are cut

A locator takes what follows the last slash of a name for the short name of the region.  A member
puts a slash in front, and takes what precedes the last slash then for the path above.  Both cut at
one place, whatever the name is made of.

## Main definitions

* `IsLastSegment` : what follows the last slash of a name.
* `parentText?` : what precedes the last slash of the text of a path.

## Main results

* `isLastSegment_iff` : a name has one last segment.
* `parentText?_text` : what is cut off the text of a path is the text of the path above.
* `Path.text_eq_parent_append` : a path is put together of what is above and its last segment.
* `names_cut_alike` : the short name of a region is the last segment of its path.
-/

namespace CacheCluster.Region

variable {name s : String}

/-- A text follows the last slash of a name, or it is the whole of a name without one. -/
def IsLastSegment (name s : String) : Prop :=
  '/' ∉ s.toList ∧ (name = s ∨ ∃ front, name = front ++ "/" ++ s)

/-- A name has one last segment. -/
theorem isLastSegment_iff : IsLastSegment name s ↔ s.toList = afterLastSlash name.toList := by
  constructor
  · rintro ⟨hs, rfl | ⟨front, rfl⟩⟩
    · exact (afterLastSlash_of_notMem hs).symm
    · rw [String.toList_append, String.toList_append, List.append_assoc]
      exact (afterLastSlash_append hs).symm
  · intro h
    have hs : '/' ∉ s.toList := h ▸ slash_notMem_afterLastSlash name.toList
    refine ⟨hs, ?_⟩
    rcases notMem_or_eq_append name.toList with hname | ⟨l, r, hr, hname⟩
    · left
      rw [← String.toList_inj, h, afterLastSlash_of_notMem hname]
    · right
      rw [hname, afterLastSlash_append hr] at h
      refine ⟨String.ofList l, ?_⟩
      rw [← String.toList_inj, hname]
      simp [h]

/-- The text before the last slash of a text, unless that slash is in front. -/
def parentText? (path : String) : Option String :=
  ((beforeLastSlash? path.toList).filter (· ≠ [])).map String.ofList

/-- What is cut off the text of a path is the text of the path above. -/
theorem parentText?_text (p : Path) : parentText? p.text = p.parent?.map Path.text := by
  have hlast : '/' ∉ p.lastSegment := slash_notMem_afterLastSlash p.tail
  rw [parentText?, Path.text, String.toList_ofList]
  cases h : p.parent? with
  | none =>
    -- The slash in front is the last one.
    rw [Path.tail_eq_lastSegment h]
    have hcut : beforeLastSlash? ('/' :: p.lastSegment) = some [] :=
      beforeLastSlash?_append (l := []) hlast
    rw [hcut]
    rfl
  | some q =>
    rw [Path.tail_eq_append_lastSegment h]
    have hcut : beforeLastSlash? ('/' :: (q.tail ++ '/' :: p.lastSegment)) = some ('/' :: q.tail) :=
      beforeLastSlash?_append (l := '/' :: q.tail) hlast
    rw [hcut]
    rfl

/-- A path is put together of the path above, a slash and the last segment. -/
theorem Path.text_eq_parent_append (p : Path) :
    p.text = (p.parent?.map Path.text).getD "" ++ "/" ++ String.ofList p.lastSegment := by
  rw [← String.toList_inj]
  cases h : p.parent? with
  | none => simp [text, ← tail_eq_lastSegment h]
  | some q => simp [text, tail_eq_append_lastSegment h]

/-- **Names are cut alike.**  A short name that is made of a name is its last segment: it has no
slash, and a character that is not blank.  The name with a slash in front is what is cut off there
for the path above, or nothing, and then a slash and the short name.  No short name is made exactly
if the last segment has blank characters only.

A slash in front makes no difference to the short name, and is not put there twice.  The name with
it is the text of the path under which a member has the region, and what is cut off is the text of
the path that has to be there before. -/
theorem names_cut_alike (name : String) :
    (∀ s, shortName? name = some s →
      IsLastSegment name s ∧ (∃ c ∈ s.toList, Text.isBlankChar c = false) ∧
        withSlash name = (parentText? (withSlash name)).getD "" ++ "/" ++ s) ∧
    (shortName? name = none ↔
      ∃ s, IsLastSegment name s ∧ ∀ c ∈ s.toList, Text.isBlankChar c = true) ∧
    shortName? (withSlash name) = shortName? name ∧
    withSlash (withSlash name) = withSlash name ∧
    withSlash name = (Path.ofName name).text ∧
    parentText? (withSlash name) = (Path.ofName name).parent?.map Path.text := by
  have hparent : parentText? (withSlash name) = (Path.ofName name).parent?.map Path.text := by
    rw [withSlash_eq_text, parentText?_text]
  refine ⟨fun s hs => ?_, ?_, shortName?_eq_of_ofName_eq (ofName_withSlash name), ?_,
    withSlash_eq_text name, hparent⟩
  · obtain ⟨hsegment, hblank⟩ := shortName?_eq_some_iff.1 hs
    refine ⟨isLastSegment_iff.2 hsegment, Text.isBlank_eq_false_iff.1 hblank, ?_⟩
    have hlast : String.ofList (Path.ofName name).lastSegment = s := by
      rw [Path.lastSegment_ofName, ← hsegment, String.ofList_toList]
    rw [hparent, withSlash_eq_text, ← hlast]
    exact (Path.ofName name).text_eq_parent_append
  · rw [shortName?_eq_none_iff, Text.isBlank, List.all_eq_true]
    constructor
    · intro hblank
      refine ⟨String.ofList (afterLastSlash name.toList), isLastSegment_iff.2 ?_, ?_⟩
      · rw [String.toList_ofList]
      · rwa [String.toList_ofList]
    · rintro ⟨s, hs, hblank⟩
      rwa [← isLastSegment_iff.1 hs]
  · rw [withSlash_eq_text, withSlash_eq_text, Path.ofName_text]

/-- A doubled slash and a cut between characters of several bytes. -/
example : shortName? "é//日" = some "日" ∧ parentText? (withSlash "é//日") = some "/é/" := by
  decide

end CacheCluster.Region
