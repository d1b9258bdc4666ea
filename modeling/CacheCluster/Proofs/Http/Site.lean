import CacheCluster.Proofs.Http.Url

/-!
# The sites of web addresses

The site that an address reaches hangs on its scheme and its authority, and the authority ends at
the first slash.  So it stays the same when a path is put behind, unless there is no authority.

## Main definitions

* `Url.schemeName`, `Url.scheme` : the schemes of the web.
* `Url.authorityBehind` : what is read as the authority behind a scheme.

## Main results

* `Url.site_parse` : the site of an address by its authority.
* `Url.authorityBehind_append` : what follows a slash is not part of it.
* `Url.parse_append` : the site of an address with a path in place of the slashes at its end.
-/

namespace CacheCluster.Http.Url

/-- The name of a scheme of the web. -/
def schemeName (secure : Bool) : String := if secure then "https" else "http"

/-- A scheme of the web, with its slashes. -/
def scheme (secure : Bool) : String := schemeName secure ++ "://"

/-- A slash of either kind. -/
def isSlash (c : Char) : Bool := c = '/' ∨ c = '\\'

/-- A character that counts wherever it stands. -/
def isKept (c : Char) : Bool := c ≠ '\t' ∧ c ≠ '\n' ∧ c ≠ '\r'

/-- A character that can be in an authority. -/
def isInside (c : Char) : Bool := !isSlash c && (!(c == '?') && !(c == '#'))

/-- What is read as the authority of an address behind its scheme. -/
def authorityBehind (rest : List Char) : List Char :=
  ((rest.filter isKept).dropWhile isSlash).takeWhile isInside

theorem EndsVisible.append {l r : List Char} (hr : EndsVisible r) (hl : r = [] → EndsVisible l) :
    EndsVisible (l ++ r) := by
  intro c hc
  cases hlast : r.getLast? with
  | none =>
    have hnil : r = [] := List.getLast?_eq_none_iff.1 hlast
    rw [hnil, List.append_nil] at hc
    exact hl hnil c hc
  | some d =>
    rw [List.getLast?_append, hlast] at hc
    exact hr c (hlast.trans hc)

theorem EndsVisible.of_append {l r : List Char} (h : EndsVisible (l ++ r)) : EndsVisible r := by
  intro c hc
  refine h c ?_
  rw [List.getLast?_append, hc]
  rfl

/-! ## Reading -/

/-- The three cuts behind the scheme leave what is in front of the first character that ends an
authority. -/
theorem cutAt_cutAt_cutAt (cs : List Char) :
    (cutAt (fun c => c = '/' ∨ c = '\\') (cutAt (· == '?') (cutAt (· == '#') cs).1).1).1 =
      cs.takeWhile isInside := by
  simp only [cutAt, List.takeWhile_takeWhile]
  congr 1
  funext c
  simp [isInside, isSlash, Bool.beq_eq_decide_eq]

/-- What is left of an address, cut behind the name of its scheme. -/
theorem cutAt_strip_scheme (secure : Bool) {rest : List Char} (hlast : EndsVisible rest) :
    cutAt (· == ':') ((((scheme secure ++ String.ofList rest).toList.dropWhile fun c =>
      c.toNat ≤ 0x20).reverse.dropWhile fun c => c.toNat ≤ 0x20).reverse.filter fun c =>
        c ≠ '\t' ∧ c ≠ '\n' ∧ c ≠ '\r') =
      ((schemeName secure).toList, "://".toList ++ rest.filter isKept) := by
  have hwhole : (scheme secure ++ String.ofList rest).toList =
      (schemeName secure).toList ++ "://".toList ++ rest := by
    rw [String.toList_append, String.toList_ofList, scheme, String.toList_append]
  have hfirst : ∀ c, ((schemeName secure).toList ++ "://".toList ++ rest).head? = some c →
      0x20 < c.toNat := by
    cases secure <;> simp [schemeName]
  have hends : EndsVisible ((schemeName secure).toList ++ "://".toList ++ rest) := by
    refine hlast.append fun _ => ?_
    cases secure <;> simp [EndsVisible, schemeName]
  have hfilter : ((schemeName secure).toList ++ "://".toList ++ rest).filter isKept =
      (schemeName secure).toList ++ ("://".toList ++ rest.filter isKept) := by
    rw [List.filter_append, ← List.append_assoc]
    cases secure <;> simp [schemeName, isKept]
  rw [hwhole, strip_of_ends hfirst hends]
  refine (congrArg (cutAt (· == ':')) hfilter).trans (cutAt_append ?_ ?_)
  · cases secure <;> simp [schemeName]
  · simp

/-- The site of an address is that of its scheme and its authority. -/
theorem site_parse (secure : Bool) {rest : List Char} (hlast : EndsVisible rest) :
    (parse (scheme secure ++ String.ofList rest)).map site =
      (readAuthority secure (authorityBehind rest)).map fun a =>
        site ⟨secure, none, a.2.1, a.2.2, [], none, none⟩ := by
  have hname : String.ofList ((schemeName secure).toList.map Char.toLower) = schemeName secure := by
    cases secure <;> decide
  have hslashes :
      (("://".toList ++ rest.filter isKept).tail.dropWhile fun c => c = '/' ∨ c = '\\') =
        (rest.filter isKept).dropWhile isSlash := by
    have hall : ∀ c ∈ "//".toList, isSlash c = true := List.all_eq_true.1 (by decide)
    exact List.dropWhile_append_of_pos hall
  rw [parse, cutAt_strip_scheme secure hlast]
  dsimp only
  rw [hname, hslashes, authorityBehind, ← cutAt_cutAt_cutAt]
  generalize (rest.filter isKept).dropWhile isSlash = cs
  generalize cutAt (fun c => c = '/' ∨ c = '\\') (cutAt (· == '?') (cutAt (· == '#') cs).1).1 = cut
  -- What else is read cannot fail, and the site says nothing about it.
  cases secure with
  | false =>
    change (readAuthority false cut.1 >>= fun _ => pure _).map site = _
    cases readAuthority false cut.1 <;> rfl
  | true =>
    change (readAuthority true cut.1 >>= fun _ => pure _).map site = _
    cases readAuthority true cut.1 <;> rfl

/-! ## Paths behind an address -/

theorem readAuthority_nil (secure : Bool) : readAuthority secure [] = .error (.host .empty) := by
  cases secure <;> decide +kernel

/-- What begins with a slash does not count for a part that ends there. -/
theorem takeWhile_append_of_slash {p : Char → Bool} (hp : p '/' = false) {l r : List Char}
    (hr : ∀ c, r.head? = some c → c = '/') : (l ++ r).takeWhile p = l.takeWhile p := by
  have hnil : r.takeWhile p = [] := by
    cases r with
    | nil => rfl
    | cons c r =>
      obtain rfl := hr c rfl
      exact List.takeWhile_cons_of_neg (by simp [hp])
  rw [List.takeWhile_append, hnil, List.append_nil]
  split
  · rename_i hall
    exact ((List.takeWhile_prefix p).eq_of_length hall).symm
  · rfl

/-- What begins with a slash is not part of an authority, if there is one in front. -/
theorem authorityBehind_append {front back : List Char}
    (hfront : (front.filter isKept).dropWhile isSlash ≠ [])
    (hback : ∀ c, back.head? = some c → c = '/') :
    authorityBehind (front ++ back) = authorityBehind front := by
  have hkept : ∀ c, (back.filter isKept).head? = some c → c = '/' := by
    cases back with
    | nil => simp
    | cons d back =>
      obtain rfl := hback d rfl
      rw [List.filter_cons_of_pos (by decide)]
      simp [eq_comm]
  rw [authorityBehind, List.filter_append, List.dropWhile_append, if_neg (by simpa using hfront),
    takeWhile_append_of_slash (by decide) hkept, authorityBehind]

/-- An address that can be read has more than slashes behind its scheme. -/
theorem front_ne_nil_of_parse {secure : Bool} {front slashes : List Char} {url : Url}
    (h : parse (scheme secure ++ String.ofList (front ++ slashes)) = .ok url)
    (hslashes : ∀ c ∈ slashes, c = '/') (hlast : EndsVisible (front ++ slashes)) :
    (front.filter isKept).dropWhile isSlash ≠ [] := by
  intro hnil
  have hall : (slashes.filter isKept).dropWhile isSlash = [] := by
    rw [List.dropWhile_eq_nil_iff]
    intro c hc
    rw [hslashes c (List.mem_filter.1 hc).1]
    rfl
  have hauthority : authorityBehind (front ++ slashes) = [] := by
    rw [authorityBehind, List.filter_append, List.dropWhile_append, hnil, hall]
    rfl
  have hsite := site_parse secure hlast
  rw [h, hauthority, readAuthority_nil] at hsite
  cases hsite

/-- An address that can be read reaches the same site with a path in place of the slashes at its
end. -/
theorem parse_append {secure : Bool} {front slashes path : List Char} {url : Url}
    (h : parse (scheme secure ++ String.ofList (front ++ slashes)) = .ok url)
    (hslashes : ∀ c ∈ slashes, c = '/') (hpath : path.head? = some '/')
    (hlast : EndsVisible (front ++ slashes)) (hpathLast : EndsVisible path) :
    ∃ url', parse (scheme secure ++ String.ofList (front ++ path)) = .ok url' ∧
      url'.site = url.site := by
  have hne := front_ne_nil_of_parse h hslashes hlast
  have hauthority : authorityBehind (front ++ path) = authorityBehind (front ++ slashes) := by
    rw [authorityBehind_append hne fun c hc => hslashes c (List.mem_of_mem_head? hc),
      authorityBehind_append hne fun c hc => ?_]
    rw [hpath] at hc
    exact (Option.some.inj hc).symm
  have hpathNil : path ≠ [] := by
    rintro rfl
    cases hpath
  have hsite' := site_parse secure (hpathLast.append (l := front) fun hnil => absurd hnil hpathNil)
  rw [hauthority, ← site_parse secure hlast, h] at hsite'
  cases hparse : parse (scheme secure ++ String.ofList (front ++ path)) with
  | error e =>
    rw [hparse] at hsite'
    cases hsite'
  | ok url' =>
    rw [hparse] at hsite'
    exact ⟨url', rfl, Except.ok.inj hsite'⟩

end CacheCluster.Http.Url
