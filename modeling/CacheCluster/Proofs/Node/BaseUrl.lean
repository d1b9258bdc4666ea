import CacheCluster.Proofs.Http.Site
import CacheCluster.Proofs.Node.View

/-!
# Base addresses

Commands go to a path behind the base address of a node, which is its domain without the slashes at
the end, or else its own address with a port.  A domain has to begin with a scheme of the web, but
that is looked at before the slashes are cut off.  So one that has nothing behind its scheme loses
the slashes of the scheme, and the path is taken for the host.

## Main definitions

* `Node.configuredUrl` : the base address with its slashes at the end.
* `Node.HasBareDomain` : the domain is a scheme and slashes.
* `IsBase`, `MeetAtOneSlash` : what a base address should be like.
* `writtenAuthority?` : the authority as it is written.

## Main results

* `Node.httpUrl_cases` : the base address of a node without and with a bare domain.
* `Node.baseUrl_usable` : a base address can be used exactly if the domain is not bare.
* `Node.baseUrl_lost` : a domain that is bare.
-/

namespace CacheCluster

open Http (Url)
open Http.Url (scheme schemeName)

/-! ## Addresses as texts -/

/-- An address of the web that has something behind its scheme. -/
def IsBase (url : String) : Prop := ∃ secure rest, rest ≠ [] ∧ url = scheme secure ++ .ofList rest

/-- A scheme of the web and slashes. -/
def IsBare (url : String) : Prop :=
  ∃ secure slashes, (∀ c ∈ slashes, c = '/') ∧ url = scheme secure ++ .ofList slashes

/-- Where two texts meet there is one slash. -/
def MeetAtOneSlash (front back : String) : Prop :=
  front.toList.getLast? ≠ some '/' ∧ ∃ rest, back.toList = '/' :: rest ∧ rest.head? ≠ some '/'

/-- The authority that is written behind a scheme of the web, up to the path, the query or the
fragment. -/
def writtenAuthority? (url : String) : Option (List Char) :=
  (("http://".toList.isPrefixOf? url.toList).or ("https://".toList.isPrefixOf? url.toList)).map
    (·.takeWhile fun c => c ∉ ['/', '?', '#'])

theorem writtenAuthority?_scheme (secure : Bool) (rest : List Char) :
    writtenAuthority? (scheme secure ++ .ofList rest) =
      some (rest.takeWhile fun c => c ∉ ['/', '?', '#']) := by
  cases secure <;> simp [writtenAuthority?, scheme, schemeName, List.isPrefixOf?]

theorem scheme_append_inj {a b : Bool} {x y : List Char}
    (h : scheme a ++ String.ofList x = scheme b ++ String.ofList y) : a = b ∧ x = y := by
  rw [← String.toList_inj] at h
  cases a <;> cases b
  · exact ⟨rfl, by simpa [scheme, schemeName] using h⟩
  · simp [scheme, schemeName] at h
  · simp [scheme, schemeName] at h
  · exact ⟨rfl, by simpa [scheme, schemeName] using h⟩

theorem isWebUrl_iff {url : String} :
    Node.isWebUrl url = true ↔ ∃ secure rest, url = scheme secure ++ .ofList rest := by
  rw [Node.isWebUrl, Bool.or_eq_true, List.isPrefixOf_iff_prefix, List.isPrefixOf_iff_prefix]
  constructor
  · rintro (⟨rest, h⟩ | ⟨rest, h⟩)
    · exact ⟨false, rest, by rw [← String.toList_inj, ← h]; simp [scheme, schemeName]⟩
    · exact ⟨true, rest, by rw [← String.toList_inj, ← h]; simp [scheme, schemeName]⟩
  · rintro ⟨_ | _, rest, rfl⟩
    · exact .inl ⟨rest, by simp [scheme, schemeName]⟩
    · exact .inr ⟨rest, by simp [scheme, schemeName]⟩

/-- A text is cut where the slashes at its end begin. -/
theorem exists_split_slashes (cs : List Char) :
    ∃ front slashes, cs = front ++ slashes ∧ front.getLast? ≠ some '/' ∧
      ∀ c ∈ slashes, c = '/' := by
  induction cs using List.reverseRecOn with
  | nil => exact ⟨[], [], rfl, by simp, by simp⟩
  | append_singleton cs c ih =>
    by_cases hc : c = '/'
    · obtain ⟨front, slashes, rfl, hfront, hslashes⟩ := ih
      refine ⟨front, slashes ++ [c], by rw [List.append_assoc], hfront, ?_⟩
      simpa [or_imp, forall_and, hc] using hslashes
    · exact ⟨cs ++ [c], [], by simp, by simpa using hc, by simp⟩

theorem trimSlashes_append {front slashes : List Char} (hfront : front.getLast? ≠ some '/')
    (hslashes : ∀ c ∈ slashes, c = '/') :
    Node.trimSlashes (.ofList (front ++ slashes)) = .ofList front := by
  have hall : ∀ c ∈ slashes.reverse, (c == '/') = true := by simpa using hslashes
  have hkeep : front.reverse.dropWhile (· == '/') = front.reverse := by
    apply Http.Url.dropWhile_eq_self
    intro c hc
    rw [beq_eq_false_iff_ne]
    rintro rfl
    rw [List.head?_reverse] at hc
    exact hfront hc
  rw [Node.trimSlashes, String.toList_ofList, List.reverse_append,
    List.dropWhile_append_of_pos hall, hkeep, List.reverse_reverse]

/-! ## The base address of a node -/

namespace Node

/-- The base address of a node with the slashes at its end. -/
def configuredUrl (n : Node) : String :=
  (n.domain?.filter isWebUrl).getD ("http://" ++ n.httpAddress.text)

/-- The domain of a node is a scheme of the web and slashes. -/
def HasBareDomain (n : Node) : Prop := ∃ domain, n.domain? = some domain ∧ IsBare domain

theorem slash_notMem_httpAddress (n : Node) : '/' ∉ n.httpAddress.text.toList := fun h =>
  absurd (Http.Url.mem_text n.isUnscoped_httpAddress h) (by decide)

theorem httpAddress_text_ne_nil (n : Node) : n.httpAddress.text.toList ≠ [] := by
  simp [n.httpAddress.toList_text]

/-- Whatever the base address comes from, the slashes at its end are cut off. -/
theorem httpUrl_eq_trimSlashes (n : Node) : n.httpUrl = trimSlashes n.configuredUrl := by
  rw [httpUrl, domainUrl?, configuredUrl]
  cases n.domain?.filter isWebUrl with
  | some domain => rfl
  | none =>
    -- An address with a port does not end with one.
    have hlast : ("http://".toList ++ n.httpAddress.text.toList).getLast? ≠ some '/' := by
      intro h
      rw [List.getLast?_append_of_ne_nil _ n.httpAddress_text_ne_nil] at h
      exact n.slash_notMem_httpAddress (List.mem_of_getLast? h)
    have htrim := trimSlashes_append hlast (List.forall_mem_nil (· = '/'))
    rw [List.append_nil, ← String.toList_append, String.ofList_toList] at htrim
    exact htrim.symm

theorem configuredUrl_of_domain {n : Node} {domain : String} (h : n.domain? = some domain)
    (hweb : isWebUrl domain = true) : n.configuredUrl = domain := by
  rw [configuredUrl, h, Option.filter_some, if_pos hweb, Option.getD_some]

theorem configuredUrl_cases (n : Node) :
    (∃ domain, n.domain? = some domain ∧ isWebUrl domain = true ∧ n.configuredUrl = domain) ∨
      n.configuredUrl = scheme false ++ .ofList n.httpAddress.text.toList := by
  cases h : n.domain?.filter isWebUrl with
  | some domain =>
    obtain ⟨hdomain, hweb⟩ := Option.filter_eq_some_iff.1 h
    exact .inl ⟨domain, hdomain, hweb, configuredUrl_of_domain hdomain hweb⟩
  | none =>
    right
    rw [configuredUrl, h, Option.getD_none, String.ofList_toList]
    rfl

/-- Only a domain can be bare, since an address with a port is not made of slashes. -/
theorem isBare_configuredUrl_iff (n : Node) : IsBare n.configuredUrl ↔ n.HasBareDomain := by
  constructor
  · rintro ⟨secure, slashes, hslashes, h⟩
    rcases n.configuredUrl_cases with ⟨domain, hdomain, -, heq⟩ | heq
    · exact ⟨domain, hdomain, secure, slashes, hslashes, heq.symm.trans h⟩
    · obtain ⟨-, htext⟩ := scheme_append_inj (heq.symm.trans h)
      obtain ⟨c, hc⟩ := List.exists_mem_of_ne_nil _ n.httpAddress_text_ne_nil
      obtain rfl := hslashes c (htext ▸ hc)
      exact absurd hc n.slash_notMem_httpAddress
  · rintro ⟨domain, hdomain, secure, slashes, hslashes, rfl⟩
    have hweb := isWebUrl_iff.2 ⟨secure, slashes, rfl⟩
    exact ⟨secure, slashes, hslashes, configuredUrl_of_domain hdomain hweb⟩

/-- A base address is what was configured without the slashes at the end.  Those of the scheme are
cut off as well when nothing is behind them. -/
theorem httpUrl_cases (n : Node) :
    ∃ secure front slashes, (∀ c ∈ slashes, c = '/') ∧ front.getLast? ≠ some '/' ∧
      n.configuredUrl = scheme secure ++ .ofList (front ++ slashes) ∧
        ((front = [] ∧ n.HasBareDomain ∧ n.httpUrl = schemeName secure ++ ":") ∨
          (front ≠ [] ∧ ¬ n.HasBareDomain ∧ n.httpUrl = scheme secure ++ .ofList front)) := by
  have hweb : isWebUrl n.configuredUrl = true := by
    rcases n.configuredUrl_cases with ⟨domain, -, hweb, heq⟩ | heq
    · rwa [heq]
    · exact isWebUrl_iff.2 ⟨false, _, heq⟩
  obtain ⟨secure, rest, hurl⟩ := isWebUrl_iff.1 hweb
  obtain ⟨front, slashes, rfl, hfront, hslashes⟩ := exists_split_slashes rest
  refine ⟨secure, front, slashes, hslashes, hfront, hurl, ?_⟩
  rw [httpUrl_eq_trimSlashes, hurl, ← isBare_configuredUrl_iff, hurl]
  by_cases hnil : front = []
  · -- Two of the slashes are those of the scheme.
    subst hnil
    refine .inl ⟨rfl, ⟨secure, slashes, hslashes, rfl⟩, ?_⟩
    have hwhole : scheme secure ++ String.ofList ([] ++ slashes) =
        .ofList ((schemeName secure ++ ":").toList ++ '/' :: '/' :: slashes) := by
      rw [← String.toList_inj]
      cases secure <;> simp [scheme, schemeName]
    rw [hwhole, trimSlashes_append (by cases secure <;> simp) (by simpa using hslashes),
      String.ofList_toList]
  · refine .inr ⟨hnil, ?_, ?_⟩
    · rintro ⟨secure', slashes', hslashes', h⟩
      obtain ⟨-, rfl⟩ := scheme_append_inj h
      have hlast := hslashes' _ (List.mem_append_left slashes (List.getLast_mem hnil))
      exact hfront (by rw [List.getLast?_eq_some_getLast hnil, hlast])
    · have hwhole : scheme secure ++ String.ofList (front ++ slashes) =
          .ofList ((scheme secure).toList ++ front ++ slashes) := by
        rw [← String.toList_inj]
        simp
      have hlast : ((scheme secure).toList ++ front).getLast? ≠ some '/' := by
        rwa [List.getLast?_append_of_ne_nil _ hnil]
      rw [hwhole, trimSlashes_append hlast hslashes, String.ofList_append, String.ofList_toList]

/-! ## Paths behind the base address -/

theorem not_isBase_of_bare (secure : Bool) : ¬ IsBase (schemeName secure ++ ":") := by
  rintro ⟨secure', rest, hrest, h⟩
  rw [← String.toList_inj] at h
  cases secure <;> cases secure' <;> simp [scheme, schemeName] at h

/-- A path that is put behind the scheme without slashes becomes the host. -/
theorem parse_bare (secure : Bool) :
    ((Http.Url.parse (schemeName secure ++ ":" ++ createRegionPath)).toOption.map
      Url.site) = some (scheme secure ++ "functions") := by
  cases secure <;> decide +kernel

theorem toList_createRegionPath :
    createRegionPath.toList = '/' :: "functions/create-region".toList := by
  decide

theorem meetAtOneSlash (n : Node) : MeetAtOneSlash n.httpUrl createRegionPath := by
  refine ⟨?_, _, toList_createRegionPath, by decide⟩
  obtain ⟨secure, front, slashes, -, hfront, -, ⟨-, -, hbase⟩ | ⟨hnil, -, hbase⟩⟩ := n.httpUrl_cases
  · rw [hbase]
    cases secure <;> simp
  · rw [hbase, String.toList_append, String.toList_ofList, List.getLast?_append_of_ne_nil _ hnil]
    exact hfront

theorem isBase_httpUrl_iff (n : Node) : IsBase n.httpUrl ↔ ¬ n.HasBareDomain := by
  obtain ⟨secure, front, slashes, -, -, -, ⟨-, hbare, hbase⟩ | ⟨hnil, hbare, hbase⟩⟩ :=
    n.httpUrl_cases
  · rw [hbase]
    exact iff_of_false (not_isBase_of_bare secure) (not_not_intro hbare)
  · exact iff_of_true ⟨secure, front, hnil, hbase⟩ hbare

/-- The authority is written in front of the first slash, so the path does not change it. -/
theorem writtenAuthority?_command_iff (n : Node) :
    writtenAuthority? (commandAddress n) = writtenAuthority? n.configuredUrl ↔
      ¬ n.HasBareDomain := by
  obtain ⟨secure, front, slashes, hslashes, -, hurl, ⟨-, hbare, hbase⟩ | ⟨-, hbare, hbase⟩⟩ :=
    n.httpUrl_cases
  · have hnone : writtenAuthority? (commandAddress n) = none := by
      rw [commandAddress, hbase]
      cases secure <;> decide
    rw [hnone, hurl, writtenAuthority?_scheme]
    exact iff_of_false (Option.some_ne_none _).symm (not_not_intro hbare)
  · refine iff_of_true ?_ hbare
    have hcommand : commandAddress n =
        scheme secure ++ .ofList (front ++ createRegionPath.toList) := by
      rw [commandAddress, hbase, String.ofList_append, String.ofList_toList, String.append_assoc]
    have hslash : ∀ c, createRegionPath.toList.head? = some c → c = '/' := by
      rw [toList_createRegionPath]
      simp [eq_comm]
    rw [hcommand, hurl, writtenAuthority?_scheme, writtenAuthority?_scheme,
      Http.Url.takeWhile_append_of_slash (by decide) hslash,
      Http.Url.takeWhile_append_of_slash (by decide) fun c hc =>
        hslashes c (List.mem_of_mem_head? hc)]

/-- Commands go to the site that is configured. -/
theorem exists_commandUrl {n : Node} {url : Url} (h : Http.Url.parse n.configuredUrl = .ok url)
    (hlast : Http.Url.EndsVisible n.configuredUrl.toList) :
    ∃ url', commandUrl? n = some url' ∧ url'.site = url.site := by
  obtain ⟨secure, front, slashes, hslashes, -, hurl, hcases⟩ := n.httpUrl_cases
  rw [hurl, String.toList_append, String.toList_ofList] at hlast
  rw [hurl] at h
  obtain ⟨rfl, -, -⟩ | ⟨-, -, hbase⟩ := hcases
  · exact absurd rfl (Http.Url.front_ne_nil_of_parse h hslashes hlast.of_append)
  · have hpathLast : Http.Url.EndsVisible createRegionPath.toList := by
      simp [Http.Url.EndsVisible, createRegionPath]
    obtain ⟨url', hparse, hsite⟩ :=
      Http.Url.parse_append h hslashes (by decide) hlast.of_append hpathLast
    rw [String.ofList_append, String.ofList_toList, ← String.append_assoc, ← hbase] at hparse
    refine ⟨url', ?_, hsite⟩
    rw [commandUrl?, commandAddress, hparse]
    rfl

/-- With a bare domain commands go to a host that bears the name of a segment of the path. -/
theorem site_commandUrl_of_bare {n : Node} {secure : Bool} {slashes : List Char}
    (hslashes : ∀ c ∈ slashes, c = '/') (h : n.domain? = some (scheme secure ++ .ofList slashes)) :
    (commandUrl? n).map Url.site = some (scheme secure ++ "functions") := by
  have hconfigured := configuredUrl_of_domain h (isWebUrl_iff.2 ⟨secure, slashes, rfl⟩)
  obtain ⟨secure', front, slashes', -, -, hurl, ⟨-, -, hbase⟩ | ⟨-, hnot, -⟩⟩ := n.httpUrl_cases
  · obtain ⟨rfl, -⟩ := scheme_append_inj (hconfigured.symm.trans hurl)
    rw [commandUrl?, commandAddress, hbase]
    exact parse_bare secure
  · exact absurd ⟨_, h, secure, slashes, hslashes, rfl⟩ hnot

/-- **Base addresses.**  Whatever the address and the domain of a node are, there is one slash where
the path of the commands is put behind the base address.  Exactly if the domain is not just a scheme
with slashes, the base address has something behind its scheme, and the authority that is written
there stays what it was in the configuration.

If what is configured can be read as an address of the web, and does not end with a blank or a
control character, the commands go to its site.  With a domain that is just a scheme with slashes
they go to a host whose name is the first segment of the path. -/
theorem baseUrl_usable (n : Node) :
    MeetAtOneSlash n.httpUrl createRegionPath ∧
    (IsBase n.httpUrl ↔ ¬ n.HasBareDomain) ∧
    (writtenAuthority? (commandAddress n) = writtenAuthority? n.configuredUrl ↔
      ¬ n.HasBareDomain) ∧
    (∀ url, Http.Url.parse n.configuredUrl = .ok url →
      Http.Url.EndsVisible n.configuredUrl.toList →
        ∃ url', commandUrl? n = some url' ∧ url'.site = url.site) ∧
    (∀ secure slashes, (∀ c ∈ slashes, c = '/') →
      n.domain? = some (scheme secure ++ .ofList slashes) →
        (commandUrl? n).map Url.site = some (scheme secure ++ "functions")) :=
  ⟨n.meetAtOneSlash, n.isBase_httpUrl_iff, n.writtenAuthority?_command_iff,
    fun _ => exists_commandUrl, fun _ _ => site_commandUrl_of_bare⟩

/-- A domain that is a scheme only makes no base address, and the commands go elsewhere. -/
theorem baseUrl_lost :
    let n : Node := ⟨⟨.v4 ⟨1, 2, 3, 4⟩, 5⟩, some "http://", none, .ofNames ["member"], .ofNames []⟩
    n.httpUrl = "http:" ∧ ¬ IsBase n.httpUrl ∧
      commandAddress n = "http:/functions/create-region" ∧
        (commandUrl? n).map Url.site = some "http://functions" := by
  intro n
  have hurl : n.httpUrl = "http:" := by decide
  refine ⟨hurl, ?_, by decide, by decide +kernel⟩
  rw [hurl]
  exact not_isBase_of_bare false

end Node

end CacheCluster
